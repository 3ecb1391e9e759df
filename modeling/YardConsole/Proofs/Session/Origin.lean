import YardConsole.Proofs.Advice.Outcome
import YardConsole.Proofs.Command.Exact
import YardConsole.Proofs.Command.Phrase
import YardConsole.Proofs.Session.Stage

/-! # Origins: where a call that changes something comes from -/

namespace YardConsole.Resolution

/-! ## Origins -/

/-- An input in which a call was asked for, or which had the assistant ask for it. -/
inductive Origin (advise : Provider → String → Option (Except Failure String))
    (provider : Provider) (catalog : Catalog) (input : String) : Stage → Instruction → Prop
  | exact {i} (hasked : Exact.Asked (Text.trimList input.toList) i) :
      Origin advise provider catalog input .exact i
  | phrase {i} (hexact : ∀ m path rest, ¬ Exact.Shape (Text.trimList input.toList) m path rest)
      (hasked : Phrase.Asked catalog (Text.trimList input.toList) i) :
      Origin advise provider catalog input .phrase i
  | planner {i answer}
      (hexact : ∀ m path rest, ¬ Exact.Shape (Text.trimList input.toList) m path rest)
      (hphrase : Phrase.parse catalog (Text.trim input) = .ok none)
      (hanswer : advise provider (prompt (Text.trim input) catalog) = some (.ok answer))
      (hasked : Advice.Asked answer i) :
      Origin advise provider catalog input .planner i

theorem asked_of_ofAnswer {answer : Except Failure String} {stage : Stage} {i : Instruction}
    (h : ofAnswer answer = .ok (stage, .execute i)) :
    stage = .planner ∧ ∃ text, answer = .ok text ∧ Advice.Asked text i := by
  obtain ⟨hstage, text, d, htext, hadvice, hi⟩ := directive_of_ofAnswer h
  exact ⟨hstage, text, htext, Advice.asked_of_interpret hadvice hi⟩

theorem not_shape_of_parse {input : String} (h : Exact.parse (Text.trim input) = .ok none)
    (m : Method) (path rest : List Char) :
    ¬ Exact.Shape (Text.trimList input.toList) m path rest := by
  rw [Exact.parse, Text.toList_trim] at h
  have hnone := (Exact.parseList_eq_none_iff _).mp h m path rest
  rwa [Text.trimStart_of_head (Text.trimmed_trimList _).1] at hnone

/-! ## All inputs -/

/-- Every call that is no `get` was asked for: in an exact command, in a phrase, or in the answer
of the assistant to the one question about this input. -/
theorem origin_of_staged (services : Services ω) (w : ω) (provider : Provider) (catalog : Catalog)
    (input : String) (stage : Stage) (i : Instruction)
    (h : ((staged provider catalog input).run services w).result = some (.ok (stage, .execute i)))
    (hmethod : i.method ≠ .get) :
    Origin (fun provider prompt => (services.advise provider prompt w).1) provider catalog input
      stage i := by
  have htrimmed := Text.trimmed_trimList input.toList
  unfold staged at h
  have houtcome := withoutAdvice?_firstOutcome catalog (Text.trim input)
  cases hstages : withoutAdvice? catalog (Text.trim input) with
  | some resolved =>
    rw [resolve_of_some hstages] at h
    obtain rfl : resolved = .ok (stage, .execute i) := Option.some.inj h
    rw [hstages] at houtcome
    cases houtcome with
    | resources => exact absurd rfl hmethod
    | exact _ hexact =>
      rw [Exact.parse, Text.toList_trim] at hexact
      exact .exact (Exact.asked_of_parseList htrimmed hexact)
    | phrase _ hexact hphrase =>
      have hasked := Phrase.asked_of_parse hphrase hmethod
      rw [Text.toList_trim, Text.trimList_trimList] at hasked
      exact .phrase (not_shape_of_parse hexact) hasked
  | none =>
    rw [hstages] at houtcome
    cases houtcome with
    | none _ hexact hphrase =>
      -- Only the assistant is left, and it was asked once.
      rw [resolve_of_none hstages, Exchange.run] at h
      cases hadvice : services.advise provider (prompt (Text.trim input) catalog) w with
      | mk answer w' =>
        rw [hadvice] at h
        cases answer with
        | none => cases h
        | some answer =>
          have hanswer : ofAnswer answer = .ok (stage, .execute i) := Option.some.inj h
          obtain ⟨rfl, text, rfl, hasked⟩ := asked_of_ofAnswer hanswer
          refine .planner (not_shape_of_parse hexact) hphrase ?_ hasked
          rw [hadvice]

theorem deletion_origin :
    ((staged .standard .standard "supprime le client 12").run Script.services
        Session.refusing).result =
      some (.ok (.phrase, .execute (.new .delete "/clients/12"))) ∧
    Origin (fun provider prompt => (Script.services.advise provider prompt Session.refusing).1)
      .standard .standard "supprime le client 12" .phrase (.new .delete "/clients/12") := by
  have hrun : ((staged .standard .standard "supprime le client 12").run Script.services
      Session.refusing).result =
        some (.ok (.phrase, .execute (.new .delete "/clients/12"))) := by
    decide +kernel
  have hmethod : (Instruction.new .delete "/clients/12").method ≠ .get := nofun
  exact ⟨hrun, origin_of_staged _ _ _ _ _ _ _ hrun hmethod⟩

end YardConsole.Resolution
