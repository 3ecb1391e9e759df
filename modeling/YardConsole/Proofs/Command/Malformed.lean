import YardConsole.Proofs.Command.Exact
import YardConsole.Proofs.Command.Phrase

/-! # Commands fail only for being malformed -/

namespace YardConsole

def FaultsText (x : Except Failure α) : Prop :=
  ∀ e, x = .error e → ∃ message, e = .malformed message

theorem FaultsText.ok (a : α) : FaultsText (.ok a) := nofun

theorem FaultsText.malformed (message : String) :
    FaultsText (.error (.malformed message) : Except Failure α) := by
  rintro e ⟨⟩
  exact ⟨message, rfl⟩

theorem FaultsText.map {x : Except Failure α} (h : FaultsText x) (f : α → β) :
    FaultsText (x.map f) := by
  cases x with
  | ok a => exact .ok (f a)
  | error e =>
    rintro _ ⟨⟩
    exact h e rfl

namespace Exact

theorem faultsText_meaning (m : Method) (path rest : List Char) :
    FaultsText (meaning m path rest) := by
  unfold meaning
  simp only
  split
  · exact .ok _
  · refine FaultsText.map ?_ some
    unfold withPayloadText
    split
    · exact .ok _
    · exact .malformed _

theorem faultsText_parse (text : String) : FaultsText (parse text) := by
  rcases shape_or_none text.toList with ⟨m, path, rest, hshape⟩ | hnone
  · rw [parse, parseList_of_shape hshape]
    exact faultsText_meaning m path rest
  · rw [parse, hnone]
    exact .ok none

end Exact

namespace Phrase

theorem faultsText_requiredBody (tail : List Char) (missing : String) :
    FaultsText (requiredBody tail missing) := by
  unfold requiredBody
  split
  · exact .ok _
  · exact .malformed _
  · exact .malformed _

theorem faultsText_instruction (r : Reading) : FaultsText (instruction r) := by
  unfold instruction
  split
  · exact .ok _
  · exact ((faultsText_requiredBody _ _).map _).map some
  · refine FaultsText.map ?_ some
    unfold update
    split
    · exact .malformed _
    · exact (faultsText_requiredBody _ _).map _
  · refine FaultsText.map ?_ some
    unfold search
    split
    · exact .malformed _
    · exact .ok _
  · exact .ok _
  · exact .ok _

theorem faultsText_parse (catalog : Catalog) (input : String) :
    FaultsText (parse catalog input) := by
  unfold parse
  simp only
  split
  · exact .ok _
  · split
    · exact .ok _
    · exact faultsText_instruction _

end Phrase

end YardConsole
