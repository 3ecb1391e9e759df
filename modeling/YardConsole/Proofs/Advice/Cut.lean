import YardConsole.Proofs.Advice.Outcome
import YardConsole.Proofs.Json.Brace

/-! # Cut answers

What an answer that was cut off inside its object comes to. The object cannot be read, so the
objects in it are tried, and those read from the middle of a string are no directives.
-/

namespace YardConsole

/-! ## Objects in a cut line -/

namespace Json

theorem value_line {depth : Nat} {ms : List (String × Json)} {j : Json} {r after : List Char}
    (h : value depth (line (.obj ms) ++ after) = .ok (j, r)) : r = after := by
  obtain ⟨t, hline, hcloses⟩ := closes_line_obj ms
  rw [hline, List.cons_append] at h
  have hclosing := closing_of_value h
  rw [(hcloses after).1] at hclosing
  exact (Option.some.inj hclosing).symm

theorem startValue?_line (ms : List (String × Json)) (after after' : List Char) :
    startValue? (line (.obj ms) ++ after) = startValue? (line (.obj ms) ++ after') := by
  have hone : ∀ after after' j, startValue? (line (.obj ms) ++ after) = some j →
      startValue? (line (.obj ms) ++ after') = some j := by
    intro after after' j h
    obtain ⟨r, hread⟩ := startValue?_eq_some h
    obtain rfl := value_line hread
    obtain ⟨t, hline, -⟩ := closes_line_obj ms
    rw [hline] at hread ⊢
    rw [startValue?, List.cons_append, value_brace_append hread]
  cases h : startValue? (line (.obj ms) ++ after) with
  | some j => exact (hone _ _ j h).symm
  | none =>
    cases h' : startValue? (line (.obj ms) ++ after') with
    | none => rfl
    | some j =>
      rw [hone _ after j h'] at h
      cases h

/-- Where a cut line reads as an object with a key that is not all code, an object of the value
stands whole, and it was read. -/
theorem contains_of_cut {members inner : List (String × Json)} {before behind cut : List Char}
    (hline : line (.obj members) = before ++ '{' :: (behind ++ cut)) (hcut : cut ≠ [])
    (hread : startValue? ('{' :: behind) = some (.obj inner))
    (hkey : ∃ k ∈ inner.map Prod.fst, ∃ c ∈ k.toList, isCode c = false) :
    ∃ ms after, Contains (.obj members) (.obj ms) ∧ '{' :: behind = line (.obj ms) ++ after := by
  obtain ⟨after, hvalue⟩ := startValue?_eq_some hread
  by_cases hmode : Mode.after .code before = .code
  · -- The brace is code: it opens an object of the value, and the read ends where that one does.
    obtain ⟨ms, rest, hwithin, hopens⟩ := bracesOpen_line _ before (behind ++ cut) hline hmode
    obtain ⟨t, hobject, hcloses⟩ := closes_line_obj ms
    have hend : rest = after ++ cut := by
      have hscan := closing_append (closing_of_value hvalue) cut
      rw [hobject] at hopens
      rw [(List.cons.inj hopens).2] at hscan
      have hclosing : closing .code 0 (t ++ rest) = some rest := (hcloses rest).1
      exact Option.some.inj (hclosing.symm.trans hscan)
    subst hend
    have hbehind : '{' :: behind = line (.obj ms) ++ after := by
      rw [← List.append_assoc, ← List.cons_append] at hopens
      exact List.append_cancel_right hopens
    refine ⟨ms, after, ?_, hbehind⟩
    rcases hwithin with hself | hcontains
    · -- The value itself is longer than what is left of its line.
      obtain rfl := Json.obj.inj hself
      have hlength := congrArg List.length hline
      have hshort := congrArg List.length hbehind
      have hpos := List.length_pos_of_ne_nil hcut
      simp only [List.length_append, List.length_cons] at hlength hshort
      omega
    · exact hcontains
  · -- The brace stands in a string: what is read there has no such key.
    have hwritten : InCode IsWritten .code (line (.obj members)) := (passes_tame.line _).1
    rw [hline, inCode_append] at hwritten
    have hnext : Mode.next (Mode.after .code before) '{' = .text := by
      cases hcase : Mode.after .code before with
      | code => exact absurd hcase hmode
      | text => rfl
      | escape => rfl
    have hbehind : Written .text behind := by
      have hrest := hwritten.2.2
      rw [hnext, inCode_append] at hrest
      exact hrest.1
    obtain ⟨k, hk, c, hc, hcode⟩ := hkey
    rw [code_of_value hvalue hbehind k hk c hc] at hcode
    cases hcode

end Json

/-! ## Cut answers -/

namespace Advice

/-- Where a directive is looked for: in the first fenced block if there is one in it, else in the
whole answer. -/
def searched (cs : List Char) : List Char :=
  match Fence.block? cs with
  | some block => if (directiveIn? block).isSome then block else cs
  | none => cs

theorem directive?_eq (cs : List Char) : directive? cs = directiveIn? (searched cs) := by
  unfold directive? searched
  cases Fence.block? cs with
  | none => rfl
  | some block =>
    simp only [Option.bind_some]
    cases h : directiveIn? block with
    | none => rfl
    | some d => simp [h]

theorem searched_infix (cs : List Char) : searched cs <:+: cs := by
  unfold searched
  split
  · rename_i block hblock
    split
    · exact Fence.block?_infix hblock
    · exact List.infix_refl _
  · exact List.infix_refl _

/-- An object in the value stands whole in the text, no object can be read before it, and its own
text reads as the directive. -/
def Survives (v : Json) (cs : List Char) (d : Directive) : Prop :=
  ∃ ms before after, v.Contains (.obj ms) ∧
    cs = before ++ ((Json.obj ms).compact.toList ++ after) ∧
    (∀ a b, before = a ++ '{' :: b →
      Json.startValue? ('{' :: (b ++ ((Json.obj ms).compact.toList ++ after))) = none) ∧
    (Json.startValue? (Json.obj ms).compact.toList).bind Directive.ofJson? = some d

theorem action_of_ofJson? {members : List (String × Json)} {d : Directive}
    (h : Directive.ofJson? (.obj members) = some d) :
    ∃ k ∈ members.map Prod.fst, ∃ c ∈ k.toList, Json.isCode c = false := by
  refine ⟨"action", ?_, 'c', by decide, by decide⟩
  cases hfound : members.lookup "action" with
  | none =>
    have haction : Directive.text? (.obj members) "action" = none := by
      simp only [Directive.text?, Directive.part?, Json.get?, hfound, Option.filter_none,
        Option.bind_none]
    simp [Directive.ofJson?, Directive.hasShape, haction] at h
  | some v =>
    obtain ⟨before, after, rfl, -⟩ := List.lookup_eq_some_iff.mp hfound
    simp

theorem directiveIn?_of_survives {v : Json} {cs : List Char} {d : Directive}
    (h : Survives v cs d) : directiveIn? cs = some d := by
  obtain ⟨ms, before, after, -, rfl, hearlier, hreads⟩ := h
  obtain ⟨j, hread, hd⟩ := Option.bind_eq_some_iff.mp hreads
  rw [Json.toList_compact] at hearlier hread ⊢
  obtain ⟨t, hline, -⟩ := Json.closes_line_obj ms
  have hwhole : Json.startValue? (Json.line (.obj ms) ++ after) = some j := by
    rw [Json.startValue?_line ms after [], List.append_nil, hread]
  have hfirst : Embedded.firstObject? (before ++ (Json.line (.obj ms) ++ after)) = some j := by
    rw [hline, List.cons_append] at hwhole hearlier ⊢
    exact (Embedded.firstObject?_eq_some_iff _ _).mpr ⟨before, t ++ after, rfl, hwhole, hearlier⟩
  rw [directiveIn?, hfirst]
  exact hd

theorem survives_of_directiveIn? {members : List (String × Json)} {left cs right : List Char}
    (hline : Json.line (.obj members) = left ++ (cs ++ right)) (hright : right ≠ [])
    {d : Directive} (h : directiveIn? cs = some d) : Survives (.obj members) cs d := by
  obtain ⟨j, hfirst, hd⟩ := Option.bind_eq_some_iff.mp h
  obtain ⟨before, behind, rfl, hread, hearlier⟩ :=
    (Embedded.firstObject?_eq_some_iff _ _).mp hfirst
  obtain ⟨inner, rfl⟩ := Json.startValue?_brace hread
  have hcut : Json.line (.obj members) = (left ++ before) ++ '{' :: (behind ++ right) := by
    rw [hline]
    simp
  obtain ⟨ms, after, hcontains, hbehind⟩ :=
    Json.contains_of_cut hcut hright hread (action_of_ofJson? hd)
  rw [hbehind] at hread hearlier ⊢
  refine ⟨ms, before, after, hcontains, ?_, ?_, ?_⟩
  · rw [Json.toList_compact]
  · rw [Json.toList_compact]
    exact hearlier
  · rw [Json.toList_compact, ← List.append_nil (Json.line _), Json.startValue?_line ms [] after,
      hread]
    exact hd

/-- An answer cut off inside its object comes to a directive exactly if an object in it stands
whole before the cut, is the first that can be read, and reads as that directive. -/
theorem interpret_cut {members : List (String × Json)} {p cut : String}
    (hline : (Json.obj members).compact = p ++ cut) (hcut : cut ≠ "") (d : Directive) :
    interpret p = .directive d ↔ Survives (.obj members) (searched p.toList) d := by
  rw [interpret_eq_directive_iff, directive?_eq]
  -- What is searched is a piece of the line, and something was cut off behind it.
  obtain ⟨left, right, hsearched⟩ := searched_infix p.toList
  have hp : left ++ (searched p.toList ++ right) = p.toList := by
    rw [← List.append_assoc]
    exact hsearched
  have hwhole : Json.line (.obj members) =
      left ++ (searched p.toList ++ (right ++ cut.toList)) := by
    calc Json.line (.obj members)
        = p.toList ++ cut.toList := by rw [← Json.toList_compact, hline, String.toList_append]
      _ = left ++ (searched p.toList ++ right) ++ cut.toList := by rw [hp]
      _ = left ++ (searched p.toList ++ (right ++ cut.toList)) := by simp
  have hright : right ++ cut.toList ≠ [] := by
    intro hnil
    exact hcut (String.toList_eq_nil_iff.mp (List.append_eq_nil_iff.mp hnil).2)
  exact ⟨survives_of_directiveIn? hwhole hright, directiveIn?_of_survives⟩

def nestedCall : List (String × Json) := [
  ("action", .str "reply"), ("message", .str "x"),
  ("note", .obj [("action", .str "mcp_call"), ("method", .str "DELETE"),
    ("path", .str "/clients/1")])]

def cutReply : String :=
  "\x7b\"action\":\"reply\",\"message\":\"x\",\"note\":\x7b\"action\":\"mcp_call\"," ++
    "\"method\":\"DELETE\",\"path\":\"/clients/1\"\x7d"

theorem cutReply_deletes :
    Directive.ofJson? (.obj nestedCall) = some (.reply "x") ∧
      (Json.obj nestedCall).compact = cutReply ++ "\x7d" ∧
      interpret cutReply = .directive (.call .delete "/clients/1" none none) := by
  refine ⟨by decide +kernel, by decide +kernel, by decide +kernel⟩

theorem cutReply_survives :
    (Json.obj nestedCall).compact = cutReply ++ "\x7d" ∧ "\x7d" ≠ "" ∧
      Survives (.obj nestedCall) (searched cutReply.toList)
        (.call .delete "/clients/1" none none) := by
  have hline : (Json.obj nestedCall).compact = cutReply ++ "\x7d" := by decide +kernel
  have hcut : "\x7d" ≠ "" := by decide
  have hread : interpret cutReply = .directive (.call .delete "/clients/1" none none) := by
    decide +kernel
  exact ⟨hline, hcut, (interpret_cut hline hcut _).mp hread⟩

end Advice

end YardConsole
