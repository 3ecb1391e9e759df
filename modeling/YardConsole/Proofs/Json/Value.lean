import YardConsole.Proofs.Json.Loop

/-! # The texts of values

What the reader has read is a text of the value, and each text of a value is read as that value,
whatever stands behind it.
-/

namespace YardConsole.Json

/-! ## Members -/

inductive PlainText (V : List Char → Json → Prop) (key : String) (a : List (String × Json)) :
    List Char → List (String × Json) → Prop
  | colon {s s' c v} (hs : Spaces s) (hs' : Spaces s') (hv : V c v) :
      PlainText V key a (s ++ ':' :: (s' ++ c)) (insertMember key v a)

theorem plainMember_reads {value : List Char → Read Json} {V : List Char → Json → Prop}
    (h : Reads value V) : ReadsMember (plainMember value) (PlainText V) where
  sound key a s b r hread := by
    unfold plainMember at hread
    split at hread
    · cases hread
    · rename_i rest hcolon
      obtain ⟨sp, rfl, hsp⟩ := spaces_of_colon hcolon
      split at hread
      · cases hread
      · rename_i v rest' hvalue
        cases hread
        obtain ⟨sp', c, rfl, hsp', hv⟩ := h.sound _ _ _ hvalue
        exact ⟨_, by simp, .colon hsp hsp' hv⟩
  takes key a c b hc r hr := by
    cases hc with
    | @colon s s' c v hs hs' hv =>
      have htext : s ++ ':' :: (s' ++ c) ++ r = s ++ ':' :: (s' ++ (c ++ r)) := by simp
      rw [plainMember, htext, colon_append hs]
      simp only [h.takes c v hv s' r hs' hr]

/-! ## Values -/

/-- The texts of one value. `inner` are those of the values in brackets, if any may open. -/
inductive StepText (inner : Option (List Char → Json → Prop)) : List Char → Json → Prop
  | null : StepText inner ['n', 'u', 'l', 'l'] .null
  | yes : StepText inner ['t', 'r', 'u', 'e'] (.bool true)
  | no : StepText inner ['f', 'a', 'l', 's', 'e'] (.bool false)
  | negative {cs j} (h : Takes (number true) cs j) : StepText inner ('-' :: cs) j
  | natural {c cs j} (hc : c.isDigit = true) (h : Takes (number false) (c :: cs) j) :
      StepText inner (c :: cs) j
  | string {cs s} (h : StringText cs s.toList) : StepText inner ('"' :: cs) (.str s)
  | list {V t xs} (hinner : inner = some V) (h : ListText V t xs) :
      StepText inner ('[' :: t) (.arr xs)
  | object {V t ms} (hinner : inner = some V) (h : ObjectText (PlainText V) [] t ms) :
      StepText inner ('{' :: t) (.obj ms)

def ValueText : (depth : Nat) → List Char → Json → Prop
  | 0 => StepText none
  | depth + 1 => StepText (some (ValueText depth))

theorem map_eq_ok {ε α β : Type} {f : α → β} {e : Except ε α} {y : β}
    (h : e.map f = .ok y) : ∃ x, e = .ok x ∧ f x = y := by
  cases e with
  | error e => cases h
  | ok x => exact ⟨x, rfl, Except.ok.inj h⟩

theorem stepText_of_valueStep {reader : Option (List Char → Read Json)}
    {inner : Option (List Char → Json → Prop)} (hinner : Option.Rel Reads reader inner)
    {s r : List Char} {j : Json} (h : valueStep reader s = .ok (j, r)) :
    ∃ sp c, s = sp ++ (c ++ r) ∧ Spaces sp ∧ StepText inner c j := by
  obtain ⟨sp, hs, hsp, hsolid⟩ := spaces_append_skipSpace s
  suffices htext : ∃ c, skipSpace s = c ++ r ∧ StepText inner c j by
    obtain ⟨c, hc, hstep⟩ := htext
    exact ⟨sp, c, by rw [← hc]; exact hs, hsp, hstep⟩
  unfold valueStep at h
  split at h
  · cases h
  · rename_i rest hskip
    obtain ⟨rest', hword, heq⟩ := map_eq_ok h
    cases heq
    rw [word_eq_ok_iff] at hword
    exact ⟨_, by rw [hskip, hword]; rfl, .null⟩
  · rename_i rest hskip
    obtain ⟨rest', hword, heq⟩ := map_eq_ok h
    cases heq
    rw [word_eq_ok_iff] at hword
    exact ⟨_, by rw [hskip, hword]; rfl, .yes⟩
  · rename_i rest hskip
    obtain ⟨rest', hword, heq⟩ := map_eq_ok h
    cases heq
    rw [word_eq_ok_iff] at hword
    exact ⟨_, by rw [hskip, hword]; rfl, .no⟩
  · rename_i rest hskip
    obtain ⟨c, cs, rfl, -, htakes⟩ := number_reads _ h
    exact ⟨_, hskip, .negative htakes⟩
  · rename_i rest hskip
    obtain ⟨⟨x, rest'⟩, hstring, heq⟩ := map_eq_ok h
    cases heq
    obtain ⟨cs, rfl, hcs⟩ := stringText_of_string hstring
    exact ⟨_, hskip, .string hcs⟩
  · rename_i rest hskip
    cases hinner with
    | none => cases h
    | some hvalue =>
      obtain ⟨⟨xs, rest'⟩, hitems, heq⟩ := map_eq_ok h
      cases heq
      obtain ⟨t, rfl, ht⟩ := listText_of_items hvalue hitems
      exact ⟨_, hskip, .list rfl ht⟩
  · rename_i rest hskip
    cases hinner with
    | none => cases h
    | some hvalue =>
      obtain ⟨⟨ms, rest'⟩, hmembers, heq⟩ := map_eq_ok h
      cases heq
      obtain ⟨t, rfl, ht⟩ := objectText_of_members (plainMember_reads hvalue) hmembers
      exact ⟨_, hskip, .object rfl ht⟩
  · rename_i c rest _ _ _ _ _ _ _ hskip
    split at h
    · rename_i hc
      obtain ⟨c', cs, hcs, hc', htakes⟩ := number_reads _ h
      rw [hskip, hcs]
      exact ⟨_, rfl, .natural hc' htakes⟩
    · cases h

theorem isSpace_of_isDigit {c : Char} (h : c.isDigit = true) : isSpace c = false := by
  rw [Bool.eq_false_iff]
  intro hspace
  simp only [isSpace, Bool.or_eq_true, beq_iff_eq] at hspace
  rcases hspace with ((rfl | rfl) | rfl) | rfl <;> exact absurd h (by decide)

theorem StepText.begins {inner : Option (List Char → Json → Prop)} {c : List Char} {j : Json}
    (h : StepText inner c j) : ∃ a t, c = a :: t ∧ isSpace a = false ∧ a ≠ ']' := by
  cases h with
  | natural hc =>
    refine ⟨_, _, rfl, isSpace_of_isDigit hc, ?_⟩
    rintro rfl
    exact absurd hc (by decide)
  | _ => exact ⟨_, _, rfl, rfl, by decide⟩

theorem valueStep_brace {value : List Char → Read Json} {V : List Char → Json → Prop}
    (hvalue : Reads value V) {t : List Char} {ms : List (String × Json)}
    (h : ObjectText (PlainText V) [] t ms) (r : List Char) :
    valueStep (some value) ('{' :: (t ++ r)) = .ok (.obj ms, r) := by
  have hskip : skipSpace ('{' :: (t ++ r)) = '{' :: (t ++ r) := rfl
  unfold valueStep
  rw [hskip]
  simp only [members_append (plainMember_reads hvalue) h]
  rfl

theorem valueStep_append {reader : Option (List Char → Read Json)}
    {inner : Option (List Char → Json → Prop)} (hinner : Option.Rel Reads reader inner)
    {c : List Char} {j : Json} (h : StepText inner c j) (sp r : List Char) (hsp : Spaces sp)
    (hr : Stops r) : valueStep reader (sp ++ (c ++ r)) = .ok (j, r) := by
  have hskip : skipSpace (sp ++ (c ++ r)) = c ++ r := by
    obtain ⟨a, t, rfl, ha, -⟩ := h.begins
    exact skipSpace_append hsp (solid_cons ha _)
  unfold valueStep
  rw [hskip]
  cases h with
  | null => rfl
  | yes => rfl
  | no => rfl
  | negative h => exact h.reads r hr
  | natural hc h =>
    -- What begins with a digit begins like no other kind of value.
    rw [← h.reads r hr]
    split
    · rename_i heq
      cases heq
    iterate 7
      · rename_i heq
        cases heq
        exact absurd hc (by decide)
    · rename_i heq
      cases heq
      exact if_pos hc
  | string h =>
    simp only [List.cons_append, string_append h]
    rfl
  | list heq h =>
    cases hinner with
    | none => cases heq
    | some hvalue =>
      cases heq
      simp only [List.cons_append, items_append hvalue h]
      rfl
  | object heq h =>
    cases hinner with
    | none => cases heq
    | some hvalue =>
      cases heq
      have hread := valueStep_brace hvalue h r
      unfold valueStep at hread
      exact hread

theorem valueStep_reads {reader : Option (List Char → Read Json)}
    {inner : Option (List Char → Json → Prop)} (hinner : Option.Rel Reads reader inner) :
    Reads (valueStep reader) (StepText inner) where
  sound _ _ _ h := stepText_of_valueStep hinner h
  takes _ _ h sp r hsp hr := valueStep_append hinner h sp r hsp hr
  begins _ _ h := h.begins

theorem value_reads (depth : Nat) : Reads (value depth) (ValueText depth) := by
  induction depth with
  | zero => exact valueStep_reads .none
  | succ depth ih => exact valueStep_reads (.some ih)

theorem objectText_of_value {depth : Nat} {b r : List Char} {j : Json}
    (h : value depth ('{' :: b) = .ok (j, r)) :
    ∃ d t ms, depth = d + 1 ∧ b = t ++ r ∧ j = .obj ms ∧
      ObjectText (PlainText (ValueText d)) [] t ms := by
  obtain ⟨c, hc, htext⟩ := (value_reads depth).sound_solid (solid_cons rfl b) h
  have hstep : ∀ {inner}, StepText inner c j → ∃ V t ms, inner = some V ∧ c = '{' :: t ∧
      j = .obj ms ∧ ObjectText (PlainText V) [] t ms := by
    intro inner hinner
    cases hinner with
    | natural hdigit =>
      obtain rfl := (List.cons.inj hc).1
      exact absurd hdigit (by decide)
    | object heq hobject => exact ⟨_, _, _, heq, rfl, rfl, hobject⟩
    | _ => exact absurd (List.cons.inj hc).1 (by decide)
  cases depth with
  | zero =>
    obtain ⟨V, t, ms, hnone, -⟩ := hstep htext
    cases hnone
  | succ depth =>
    obtain ⟨V, t, ms, hsome, rfl, rfl, hobject⟩ := hstep htext
    obtain rfl := Option.some.inj hsome
    exact ⟨depth, t, ms, rfl, (List.cons.inj hc).2, rfl, hobject⟩

theorem value_brace_append {depth : Nat} {cs r : List Char} {j : Json}
    (h : value depth ('{' :: (cs ++ r)) = .ok (j, r)) (r' : List Char) :
    value depth ('{' :: (cs ++ r')) = .ok (j, r') := by
  obtain ⟨d, t, ms, rfl, htext, rfl, hobject⟩ := objectText_of_value h
  obtain rfl : cs = t := List.append_cancel_right htext
  rw [value]
  exact valueStep_brace (value_reads d) hobject r'

theorem startValue?_eq_some {cs : List Char} {j : Json} (h : startValue? cs = some j) :
    ∃ r, value maxDepth cs = .ok (j, r) := by
  unfold startValue? at h
  split at h
  · cases h
  · rename_i found r hread
    obtain rfl := Option.some.inj h
    exact ⟨r, hread⟩

theorem startValue?_brace {cs : List Char} {j : Json} (h : startValue? ('{' :: cs) = some j) :
    ∃ members, j = .obj members := by
  obtain ⟨r, hread⟩ := startValue?_eq_some h
  obtain ⟨-, -, members, -, -, rfl, -⟩ := objectText_of_value hread
  exact ⟨members, rfl⟩

theorem startValue?_brace_append {cs : List Char} {j : Json}
    (h : startValue? ('{' :: cs) = some j) (after : List Char) :
    startValue? ('{' :: (cs ++ after)) = some j := by
  obtain ⟨r, hread⟩ := startValue?_eq_some h
  obtain ⟨-, t, -, -, rfl, -⟩ := objectText_of_value hread
  rw [List.append_assoc, startValue?, value_brace_append hread]

end YardConsole.Json
