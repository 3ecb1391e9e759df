import YardConsole.Proofs.Advice.Outcome
import YardConsole.Proofs.Command.Malformed
import YardConsole.Proofs.Session.Stage

/-! # Precedence: which stage decides, and when the assistant is asked -/

namespace YardConsole.Resolution

/-! ## Stages that ask nobody -/

def outcome? (stage : Stage) : Except Failure (Option Instruction) → Option Resolved
  | .error e => some (.error e)
  | .ok (some i) => some (.ok (stage, .execute i))
  | .ok none => none

def Unclaimed (catalog : Catalog) (text : String) : Prop :=
  isKeyword text = false ∧ Exact.parse text = .ok none ∧ Phrase.parse catalog text = .ok none

variable {catalog : Catalog} {text : String}

theorem withoutAdvice?_eq_none_iff :
    withoutAdvice? catalog text = none ↔ Unclaimed catalog text := by
  have houtcome := withoutAdvice?_firstOutcome catalog text
  unfold Unclaimed
  generalize withoutAdvice? catalog text = outcome at houtcome
  cases houtcome with
  | help hhelp => simp [isKeyword, hhelp]
  | resources _ hlisting => simp [isKeyword, hlisting]
  | malformed _ hexact => simp [hexact]
  | exact _ hexact => simp [hexact]
  | incomplete _ _ hphrase => simp [hphrase]
  | phrase _ _ hphrase => simp [hphrase]
  | none hkeyword hexact hphrase => simp [hkeyword, hexact, hphrase]

/-- No keyword is an exact command, so whatever is found in one is the outcome. -/
theorem withoutAdvice?_of_exact (h : Exact.parse text ≠ .ok none) :
    withoutAdvice? catalog text = outcome? .exact (Exact.parse text) := by
  have houtcome := withoutAdvice?_firstOutcome catalog text
  generalize withoutAdvice? catalog text = outcome at houtcome
  cases houtcome with
  | help hhelp => exact absurd (exact_of_isKeyword (by simp [isKeyword, hhelp])) h
  | resources _ hlisting => exact absurd (exact_of_isKeyword (by simp [isKeyword, hlisting])) h
  | malformed _ hexact =>
    rw [hexact]
    rfl
  | exact _ hexact =>
    rw [hexact]
    rfl
  | incomplete _ hexact => exact absurd hexact h
  | phrase _ hexact => exact absurd hexact h
  | none _ hexact => exact absurd hexact h

theorem withoutAdvice?_of_phrase (hexact : Exact.parse text = .ok none)
    (h : Phrase.parse catalog text ≠ .ok none) :
    withoutAdvice? catalog text = outcome? .phrase (Phrase.parse catalog text) := by
  have houtcome := withoutAdvice?_firstOutcome catalog text
  generalize withoutAdvice? catalog text = outcome at houtcome
  cases houtcome with
  | help hhelp => exact absurd (phrase_of_isKeyword catalog (by simp [isKeyword, hhelp])) h
  | resources _ hlisting =>
    exact absurd (phrase_of_isKeyword catalog (by simp [isKeyword, hlisting])) h
  | malformed _ hexact' =>
    rw [hexact] at hexact'
    cases hexact'
  | exact _ hexact' =>
    rw [hexact] at hexact'
    cases hexact'
  | incomplete _ _ hphrase =>
    rw [hphrase]
    rfl
  | phrase _ _ hphrase =>
    rw [hphrase]
    rfl
  | none _ _ hphrase => exact absurd hphrase h

def ParserFails (catalog : Catalog) (text : String) (e : Failure) : Prop :=
  Exact.parse text = .error e ∨ Exact.parse text = .ok none ∧ Phrase.parse catalog text = .error e

theorem parserFails_of_withoutAdvice? {e : Failure}
    (h : withoutAdvice? catalog text = some (.error e)) : ParserFails catalog text e := by
  have houtcome := withoutAdvice?_firstOutcome catalog text
  rw [h] at houtcome
  cases houtcome with
  | malformed _ hexact => exact .inl hexact
  | incomplete _ hexact hphrase => exact .inr ⟨hexact, hphrase⟩

theorem ParserFails.malformed {e : Failure} (h : ParserFails catalog text e) :
    ∃ message, e = .malformed message := by
  rcases h with hexact | ⟨-, hphrase⟩
  · exact Exact.faultsText_parse text e hexact
  · exact Phrase.faultsText_parse catalog text e hphrase

/-! ## The assistant -/

def Unhelpful : Except Failure String → Prop
  | .error _ => True
  | .ok answer => Text.isBlankText answer = true

theorem notUnderstood_unresolved (cause : Option Failure) :
    ∃ message, Failure.notUnderstood cause = .unresolved message := by
  cases cause with
  | none => exact ⟨_, rfl⟩
  | some cause => exact ⟨_, rfl⟩

theorem unresolved_of_ofAnswer {answer : Except Failure String} {e : Failure}
    (h : ofAnswer answer = .error e) : ∃ message, e = .unresolved message := by
  unfold ofAnswer ofAdvice at h
  split at h
  · split at h
    · cases h
    · split at h
      · cases h
      · cases h
        exact notUnderstood_unresolved none
    · cases h
    · cases h
      exact notUnderstood_unresolved none
  · cases h
    exact notUnderstood_unresolved _

theorem ofAnswer_of_unhelpful {answer : Except Failure String} (h : Unhelpful answer) :
    ∃ message, ofAnswer answer = .error (.unresolved message) := by
  have herror : ∃ cause, ofAnswer answer = .error (.notUnderstood cause) := by
    cases answer with
    | error e => exact ⟨some e, rfl⟩
    | ok answer =>
      refine ⟨none, ?_⟩
      rw [ofAnswer, Advice.interpret_of_blank h]
      rfl
  obtain ⟨cause, herror⟩ := herror
  obtain ⟨message, hmessage⟩ := notUnderstood_unresolved cause
  exact ⟨message, by rw [herror, hmessage]⟩

/-! ## All inputs -/

/-- The stages were asked in their order. `question` is the one to the assistant about the text,
and `answer` what it answers, if it does. -/
structure InOrder (catalog : Catalog) (text : String) (question : Request)
    (answer : Option (Except Failure String)) (r : Ran Unit Resolved ω) : Prop where
  asked : Unclaimed catalog text → r.requests = [question]
  notAsked : ¬ Unclaimed catalog text → r.requests = []
  exact : Exact.parse text ≠ .ok none → r.result = outcome? .exact (Exact.parse text)
  phrase : Exact.parse text = .ok none → Phrase.parse catalog text ≠ .ok none →
    r.result = outcome? .phrase (Phrase.parse catalog text)
  unhelpful : ∀ a, Unclaimed catalog text → answer = some a → Unhelpful a →
    ∃ message, r.result = some (.error (.unresolved message))
  errors : ∀ e, r.result = some (.error e) →
    (∃ message, e = .malformed message ∧ r.requests = [] ∧ ParserFails catalog text e) ∨
    ∃ message, e = .unresolved message ∧ r.requests = [question]
  /-- Only an assistant that does not answer leaves the text without a result. -/
  waits : r.result = none ↔ Unclaimed catalog text ∧ answer = none

theorem inOrder_of_some {resolved : Resolved} (h : withoutAdvice? catalog text = some resolved)
    (question : Request) (answer : Option (Except Failure String)) (w : ω) :
    InOrder catalog text question answer ⟨some resolved, (), [], w⟩ := by
  have hclaimed : ¬ Unclaimed catalog text := by
    rw [← withoutAdvice?_eq_none_iff, h]
    nofun
  refine ⟨fun hnone => absurd hnone hclaimed, fun _ => rfl, ?_, ?_, ?_, ?_, ?_⟩
  · intro hexact
    exact h.symm.trans (withoutAdvice?_of_exact hexact)
  · intro hexact hphrase
    exact h.symm.trans (withoutAdvice?_of_phrase hexact hphrase)
  · intro a hnone
    exact absurd hnone hclaimed
  · intro e he
    have hfails : ParserFails catalog text e := parserFails_of_withoutAdvice? (h.trans he)
    obtain ⟨message, hmessage⟩ := hfails.malformed
    exact .inl ⟨message, hmessage, rfl, hfails⟩
  · exact ⟨nofun, fun hwaits => absurd hwaits.1 hclaimed⟩

theorem inOrder_of_none (h : Unclaimed catalog text) (question : Request)
    (answer : Option (Except Failure String)) (w : ω) :
    InOrder catalog text question answer ⟨answer.map ofAnswer, (), [question], w⟩ := by
  refine ⟨fun _ => rfl, fun hclaimed => absurd h hclaimed, ?_, ?_, ?_, ?_, ?_⟩
  · intro hfound
    exact absurd h.2.1 hfound
  · intro _ hfound
    exact absurd h.2.2 hfound
  · rintro a - rfl hunhelpful
    obtain ⟨message, hmessage⟩ := ofAnswer_of_unhelpful hunhelpful
    exact ⟨message, congrArg some hmessage⟩
  · intro e he
    obtain ⟨a, -, hanswer⟩ := Option.map_eq_some_iff.mp he
    obtain ⟨message, hmessage⟩ := unresolved_of_ofAnswer hanswer
    exact .inr ⟨message, hmessage, rfl⟩
  · rw [Option.map_eq_none_iff]
    exact ⟨fun hnone => ⟨h, hnone⟩, fun hwaits => hwaits.2⟩

/-- The assistant is asked exactly if no stage before it has an outcome, and once. A stage that has
one decides, whoever comes behind it; an assistant that fails or says nothing leaves the text
unresolved. -/
theorem staged_inOrder (services : Services ω) (w : ω) (provider : Provider) (catalog : Catalog)
    (input : String) :
    let text := Text.trim input
    let question := prompt text catalog
    InOrder catalog text (.advise provider question) (services.advise provider question w).1
      ((staged provider catalog input).run services w) := by
  intro text question
  unfold staged
  cases hstages : withoutAdvice? catalog text with
  | some resolved =>
    rw [resolve_of_some hstages]
    exact inOrder_of_some hstages _ _ w
  | none =>
    have hunclaimed := withoutAdvice?_eq_none_iff.mp hstages
    rw [resolve_of_none hstages, Exchange.run]
    rcases services.advise provider question w with ⟨_ | answer, w'⟩
    · exact inOrder_of_none hunclaimed _ none w'
    · exact inOrder_of_none hunclaimed _ (some answer) w'

end YardConsole.Resolution
