import YardConsole.Advice.Outcome
import YardConsole.Proofs.Advice.Directive
import YardConsole.Proofs.Advice.Fence
import YardConsole.Proofs.Command.Embedded

/-! # What answers ask for -/

namespace YardConsole.Advice

def Asked (answer : String) (i : Instruction) : Prop :=
  ∃ cs v, '{' :: cs <:+: answer.toList ∧ Json.startValue? ('{' :: cs) = some v ∧
    Directive.Requests v i

theorem directiveIn?_append {p cs : List Char} (hp : '{' ∉ p) {v : Json}
    (h : Json.startValue? ('{' :: cs) = some v) :
    directiveIn? (p ++ '{' :: cs) = Directive.ofJson? v := by
  rw [directiveIn?, Embedded.firstObject?_append hp h, Option.bind_some]

theorem directiveIn?_of_startValue? {cs : List Char} {v : Json}
    (h : Json.startValue? ('{' :: cs) = some v) :
    directiveIn? ('{' :: cs) = Directive.ofJson? v :=
  directiveIn?_append (p := []) List.not_mem_nil h

theorem object_of_directiveIn? {cs : List Char} {d : Directive} (h : directiveIn? cs = some d) :
    ∃ behind members, '{' :: behind <:+ cs ∧
      Json.startValue? ('{' :: behind) = some (.obj members) ∧
      Directive.ofJson? (.obj members) = some d := by
  obtain ⟨v, hfound, hd⟩ := Option.bind_eq_some_iff.mp h
  obtain ⟨before, behind, rfl, hread, -⟩ := (Embedded.firstObject?_eq_some_iff cs v).mp hfound
  obtain ⟨members, rfl⟩ := Json.startValue?_brace hread
  exact ⟨behind, members, List.suffix_append _ _, hread, hd⟩

theorem object_of_directive? {cs : List Char} {d : Directive} (h : directive? cs = some d) :
    ∃ behind members, '{' :: behind <:+: cs ∧
      Json.startValue? ('{' :: behind) = some (.obj members) ∧
      Directive.ofJson? (.obj members) = some d := by
  rw [directive?, Option.or_eq_some_iff] at h
  rcases h with hfenced | ⟨-, hwhole⟩
  · obtain ⟨block, hblock, hd⟩ := Option.bind_eq_some_iff.mp hfenced
    obtain ⟨behind, members, hsuffix, hread⟩ := object_of_directiveIn? hd
    exact ⟨behind, members, hsuffix.isInfix.trans (Fence.block?_infix hblock), hread⟩
  · obtain ⟨behind, members, hsuffix, hread⟩ := object_of_directiveIn? hwhole
    exact ⟨behind, members, hsuffix.isInfix, hread⟩

theorem interpret_eq_directive_iff (answer : String) (d : Directive) :
    interpret answer = .directive d ↔ directive? answer.toList = some d := by
  unfold interpret
  cases directive? answer.toList with
  | some found => simp
  | none =>
    simp only [reduceCtorEq, iff_false]
    split <;> exact nofun

theorem interpret_of_blank {answer : String} (h : Text.isBlankText answer = true) :
    interpret answer = .empty := by
  have hnone : directive? answer.toList = none := by
    rw [Option.eq_none_iff_forall_ne_some]
    intro d hd
    obtain ⟨behind, members, hstands, -⟩ := object_of_directive? hd
    rw [Text.isBlankText, List.all_eq_true] at h
    exact absurd (h '{' (hstands.subset (by simp))) (by decide)
  simp only [interpret, hnone, h, if_true]

theorem asked_of_interpret {answer : String} {d : Directive} {i : Instruction}
    (h : interpret answer = .directive d) (hi : d.instruction? = some i) : Asked answer i := by
  obtain ⟨behind, members, hinfix, hread, hd⟩ :=
    object_of_directive? ((interpret_eq_directive_iff answer d).mp h)
  exact ⟨behind, _, hinfix, hread, Directive.requests_of_ofJson? hd hi⟩

/-! ## Whole outcomes -/

inductive Sound (answer : String) : Advice → Prop
  | directive {before behind members d} (hanswer : answer.toList = before ++ '{' :: behind)
      (hread : Json.startValue? ('{' :: behind) = some (.obj members))
      (hfrom : Directive.ofJson? (.obj members) = some d)
      (hmeaning : Directive.Says (.obj members) d)
      (hcarries : ∀ m path query body, d = .call m path query body →
        d.instruction? = some (.of m path query body)) : Sound answer (.directive d)
  | empty (hblank : Text.isBlankText answer = true) : Sound answer .empty
  | text (hblank : Text.isBlankText answer = false) : Sound answer (.text (Text.trim answer))

theorem sound_of_directive? {answer : String} {d : Directive}
    (h : directive? answer.toList = some d) : Sound answer (.directive d) := by
  obtain ⟨behind, members, ⟨before, after, hpiece⟩, hread, hd⟩ := object_of_directive? h
  have hanswer : answer.toList = before ++ '{' :: (behind ++ after) := by
    rw [← hpiece, List.append_assoc]
    rfl
  have hmeaning := Directive.says_of_ofJson? hd
  refine .directive hanswer (Json.startValue?_brace_append hread after) hd hmeaning ?_
  rintro m path query body rfl
  exact hmeaning.instruction

/-- An answer comes to nothing that it does not say. -/
theorem interpret_sound (answer : String) : Sound answer (interpret answer) := by
  cases hfound : directive? answer.toList with
  | some d =>
    rw [(interpret_eq_directive_iff answer d).mpr hfound]
    exact sound_of_directive? hfound
  | none =>
    simp only [interpret, hfound]
    cases hblank : Text.isBlankText answer with
    | true => exact .empty hblank
    | false => exact .text hblank

end YardConsole.Advice
