import YardConsole.Proofs.Advice.Directive
import YardConsole.Proofs.Call.Steps
import YardConsole.Proofs.Command.Phrase
import YardConsole.Proofs.Session.Stage

/-! # How the calls of a resolution are built

Every stage begins an instruction with a method and a path, and has its own steps for the payloads.
-/

namespace YardConsole

open Instruction (Step build)

/-! ## Chains -/

/-- The steps by which a stage builds an instruction of this method. -/
inductive Stage.Chain : Stage → Method → List Step → Prop
  | resources : Chain .resources .get []
  | bare (m : Method) : Chain .exact m []
  | exact (m : Method) (payload : Json) : Chain .exact m [.payload payload]
  | item (m : Method) : Chain .phrase m []
  | search (terms : Json) : Chain .phrase .get [.query terms]
  | creation (body : Json) : Chain .phrase .post [.body body]
  | update (body : Json) : Chain .phrase .put [.body body]
  | planner (m : Method) (query body : Option Json) :
      Chain .planner m (query.toList.map .query ++ body.toList.map .body)

def Stage.Builds (stage : Stage) (i : Instruction) : Prop :=
  ∃ m path steps, stage.Chain m steps ∧ i = build m path steps

theorem Stage.Builds.wellFormed {stage : Stage} {i : Instruction} (h : stage.Builds i) :
    i.WellFormed := by
  obtain ⟨m, path, steps, -, rfl⟩ := h
  exact Instruction.build_wellFormed m path steps

/-- Only the assistant chooses where a payload stands. -/
theorem Stage.Builds.placed {stage : Stage} {i : Instruction} (h : stage.Builds i)
    (hstage : stage ≠ .planner) : i.Placed := by
  obtain ⟨m, path, steps, hchain, rfl⟩ := h
  rw [Instruction.placed_iff, Instruction.build_eq]
  cases hchain with
  | resources => rfl
  | bare => cases m <;> rfl
  | exact => cases m <;> rfl
  | item => cases m <;> rfl
  | search => rfl
  | creation => rfl
  | update => rfl
  | planner => exact absurd rfl hstage

/-! ## The stages -/

theorem Exact.builds_of_parse {text : String} {i : Instruction}
    (h : parse text = .ok (some i)) : Stage.exact.Builds i := by
  rcases shape_or_none text.toList with ⟨m, path, rest, hshape⟩ | hnone
  · rw [parse, parseList_of_shape hshape] at h
    rcases meaning_cases h with ⟨-, rfl⟩ | ⟨payload, j, -, -, rfl⟩
    · exact ⟨m, _, _, .bare m, rfl⟩
    · exact ⟨m, _, _, .exact m j, rfl⟩
  · rw [parse, hnone] at h
    cases h

namespace Phrase

theorem Wants.builds {r : Reading} {i : Instruction} (h : Wants r i) : Stage.phrase.Builds i := by
  cases h with
  | deletion => exact ⟨.delete, _, _, .item .delete, rfl⟩
  | creation => exact ⟨.post, _, _, .creation _, rfl⟩
  | update => exact ⟨.put, _, _, .update _, rfl⟩
  | search => exact ⟨.get, _, _, .search _, rfl⟩
  | list => exact ⟨.get, _, _, .item .get, rfl⟩
  | item => exact ⟨.get, _, _, .item .get, rfl⟩

theorem builds_of_parse {catalog : Catalog} {input : String} {i : Instruction}
    (h : parse catalog input = .ok (some i)) : Stage.phrase.Builds i := by
  rcases wants_of_parse h with rfl | ⟨rule, r, -, hwants⟩
  · exact ⟨.get, _, _, .item .get, rfl⟩
  · exact hwants.builds

end Phrase

theorem Directive.builds_of_instruction? {d : Directive} {i : Instruction}
    (h : d.instruction? = some i) : Stage.planner.Builds i := by
  cases d with
  | reply message => cases h
  | call m path query body =>
    obtain rfl := Option.some.inj h
    refine ⟨m, path, _, .planner m query body, ?_⟩
    cases query <;> cases body <;> rfl

namespace Resolution

theorem builds_of_ofAnswer {answer : Except Failure String} {stage : Stage} {i : Instruction}
    (h : ofAnswer answer = .ok (stage, .execute i)) : stage.Builds i := by
  obtain ⟨rfl, _, _, _, _, hi⟩ := directive_of_ofAnswer h
  exact Directive.builds_of_instruction? hi

/-! ## All inputs -/

inductive Executed (catalog : Catalog) (text : String) : Stage → Instruction → Prop
  | resources : Executed catalog text .resources .listResources
  | exact {i} (hexact : Exact.parse text = .ok (some i)) : Executed catalog text .exact i
  | phrase {i} (hphrase : Phrase.parse catalog text = .ok (some i)) :
      Executed catalog text .phrase i
  | planner {answer stage i} (hanswer : ofAnswer answer = .ok (stage, .execute i)) :
      Executed catalog text stage i

variable {services : Services ω} {w : ω} {provider : Provider} {catalog : Catalog}
  {input : String} {stage : Stage} {i : Instruction}

theorem executed_of_staged
    (h : ((staged provider catalog input).run services w).result = some (.ok (stage, .execute i))) :
    Executed catalog (Text.trim input) stage i := by
  unfold staged at h
  have houtcome := withoutAdvice?_firstOutcome catalog (Text.trim input)
  cases hstages : withoutAdvice? catalog (Text.trim input) with
  | some resolved =>
    rw [resolve_of_some hstages] at h
    obtain rfl : resolved = .ok (stage, .execute i) := Option.some.inj h
    rw [hstages] at houtcome
    cases houtcome with
    | resources => exact .resources
    | exact _ hexact => exact .exact hexact
    | phrase _ _ hphrase => exact .phrase hphrase
  | none =>
    rw [resolve_of_none hstages, Exchange.run] at h
    rcases hadvice : services.advise provider (prompt (Text.trim input) catalog) w with
      ⟨_ | answer, w'⟩
    · rw [hadvice] at h
      cases h
    · rw [hadvice] at h
      exact .planner (Option.some.inj h)

theorem Executed.builds {text : String} (h : Executed catalog text stage i) : stage.Builds i := by
  cases h with
  | resources => exact ⟨.get, resourcesPath, _, .resources, rfl⟩
  | exact hexact => exact Exact.builds_of_parse hexact
  | phrase hphrase => exact Phrase.builds_of_parse hphrase
  | planner hanswer => exact builds_of_ofAnswer hanswer

/-- What is executed comes out of a chain of its stage. It is well formed, so the command that is
kept with it tells its parts, and without the assistant a payload stands where its method carries
it. -/
theorem wellFormed_of_staged
    (h : ((staged provider catalog input).run services w).result = some (.ok (stage, .execute i))) :
    i.WellFormed ∧ (stage ≠ .planner → i.Placed) ∧ stage.Builds i := by
  have hbuilds := (executed_of_staged h).builds
  exact ⟨hbuilds.wellFormed, hbuilds.placed, hbuilds⟩

/-- A catalog whose only path has blanks around it and no slash. -/
def blankCatalog : Catalog := ⟨[⟨" moteurs ", ["moteur"]⟩]⟩

theorem wellFormed_update :
    let i : Instruction := ⟨.put, "/moteurs /3", none, some (.obj [("cv", .int 20)]),
      "PUT /moteurs /3 \x7b\"cv\":20\x7d"⟩
    ((staged .standard blankCatalog "modifie le moteur 3 \x7b\"cv\":20\x7d").run Script.services
        Session.refusing).result = some (.ok (.phrase, .execute i)) ∧
      i.WellFormed ∧ i.Placed ∧ Stage.phrase.Builds i := by
  intro i
  have hrun : ((staged .standard blankCatalog "modifie le moteur 3 \x7b\"cv\":20\x7d").run
      Script.services Session.refusing).result = some (.ok (.phrase, .execute i)) := by
    decide +kernel
  obtain ⟨hwell, hplaced, hbuilds⟩ := wellFormed_of_staged hrun
  exact ⟨hrun, hwell, hplaced nofun, hbuilds⟩

end Resolution

end YardConsole
