import YardConsole.Proofs.Json.Mode
import YardConsole.Proofs.Json.Pass

/-! # Scanning the texts of values

A value that was read or written is a whole text to the scanner. What was read is one also if its
strings are taken for code and its code for strings: then its keys are made of what code is made of.
-/

namespace YardConsole.Json

/-! ## Characters -/

def isCode (c : Char) : Bool := isAtom c || isOpening c || isClosing c

/-- A quote that begins a string, or code. -/
def IsWritten (c : Char) : Prop := c = '"' ∨ isCode c = true

theorem isPlain_of_isAtom {c : Char} (h : isAtom c = true) : IsPlain c := by
  refine ⟨?_, ?_, ?_⟩
  · rw [Bool.eq_false_iff]
    intro hopen
    simp only [isOpening, Bool.or_eq_true, beq_iff_eq] at hopen
    rcases hopen with rfl | rfl <;> exact absurd h (by decide)
  · rw [Bool.eq_false_iff]
    intro hclose
    simp only [isClosing, Bool.or_eq_true, beq_iff_eq] at hclose
    rcases hclose with rfl | rfl <;> exact absurd h (by decide)
  · rintro rfl
    exact absurd h (by decide)

theorem isBare_of_isCode {c : Char} (h : isCode c = true) : IsBare c := by
  constructor
  · rintro rfl
    exact absurd h (by decide)
  · rintro rfl
    exact absurd h (by decide)

theorem isCode_of_isAtom {c : Char} (h : isAtom c = true) : isCode c = true := by
  simp [isCode, h]

theorem UnitText.bare {hs : List Char} {n : Nat} (h : UnitText hs n) : ∀ c ∈ hs, IsBare c := by
  intro c hc
  have hhex := h.hex c hc
  constructor
  · rintro rfl
    exact absurd hhex (by decide)
  · rintro rfl
    exact absurd hhex (by decide)

/-! ## Brackets -/

theorem closing_bare {cs : List Char} (h : ∀ c ∈ cs, IsBare c) (n : Nat) (r : List Char) :
    closing .text n (cs ++ r) = closing .text n r := by
  induction cs with
  | nil => rfl
  | cons c cs ih =>
    rw [List.cons_append, closing, Mode.next_text (h c (by simp))]
    exact ih fun x hx => h x (by simp [hx])

theorem closing_escapeText {esc : List Char} {e : Char} (h : EscapeText esc e) (n : Nat)
    (r : List Char) : closing .escape n (esc ++ r) = closing .text n r := by
  cases h with
  | short => rfl
  | unit h => exact closing_bare h.bare n r
  | @pair hs hs' _ _ h h' =>
    have htext : 'u' :: (hs ++ '\\' :: 'u' :: hs') ++ r =
        'u' :: (hs ++ '\\' :: 'u' :: (hs' ++ r)) := by simp
    rw [htext, closing, closing_bare h.bare, closing]
    exact closing_bare h'.bare n r

theorem closing_stringText {cs xs : List Char} (h : StringText cs xs) (n : Nat) (r : List Char) :
    closing .text n (cs ++ r) = closing .code n r := by
  induction h with
  | close => rfl
  | @plain c cs xs hquote hslash _ _ ih =>
    rw [List.cons_append, closing, Mode.next_text ⟨hquote, hslash⟩, ih]
  | @escape esc e cs xs he _ ih =>
    rw [List.cons_append, closing, List.append_assoc]
    exact (closing_escapeText he n _).trans ih

theorem closes_brace {cs : List Char} (h : Whole cs) : Closes (cs ++ ['}']) :=
  h.closes (closes_singleton rfl rfl)

theorem closes_bracket {cs : List Char} (h : Whole cs) : Closes (cs ++ [']']) :=
  h.closes (closes_singleton rfl rfl)

theorem passes_whole : Passes Whole where
  atoms h := whole_of_plain fun c hc => isPlain_of_isAtom (h c hc)
  append := Whole.append
  string h n r := closing_stringText h n r
  list h := (closes_bracket h).whole rfl
  object h := (closes_brace h).whole rfl

theorem closing_of_value {depth : Nat} {b r : List Char} {j : Json}
    (h : value depth ('{' :: b) = .ok (j, r)) : closing .code 0 b = some r := by
  obtain ⟨d, t, ms, rfl, rfl, rfl, hobject⟩ := objectText_of_value h
  obtain ⟨cs, rfl, hcs⟩ := passes_whole.objectText
    (fun _ _ _ _ => passes_whole.plainText fun _ _ => passes_whole.valueText d) hobject
  exact (closes_brace hcs r).1

theorem closes_line_obj (ms : List (String × Json)) :
    ∃ t, line (.obj ms) = '{' :: t ∧ Closes t := by
  obtain ⟨cs, hline, hcs⟩ := passes_whole.line_obj fun m (_ : m ∈ ms) => passes_whole.line m.2
  exact ⟨_, hline, closes_brace hcs⟩

/-! ## Code -/

def Written (m : Mode) (cs : List Char) : Prop := InCode IsWritten m cs

def Inside (cs : List Char) : Prop := Written .text cs → Mode.after .text cs = .text

theorem after_bare {cs : List Char} (h : ∀ c ∈ cs, IsBare c) : Mode.after .text cs = .text := by
  induction cs with
  | nil => rfl
  | cons c cs ih =>
    rw [Mode.after_cons, Mode.next_text (h c (by simp))]
    exact ih fun x hx => h x (by simp [hx])

theorem inside_of_bare {cs : List Char} (h : ∀ c ∈ cs, IsBare c) : Inside cs :=
  fun _ => after_bare h

theorem Inside.append {cs ds : List Char} (hcs : Inside cs) (hds : Inside ds) :
    Inside (cs ++ ds) := by
  intro h
  rw [Written, inCode_append] at h
  have hmode := hcs h.1
  rw [hmode] at h
  rw [Mode.after_append, hmode]
  exact hds h.2

/-- Read from code, a string is code up to the quote that opens the next string. -/
theorem code_of_stringText {cs xs : List Char} (h : StringText cs xs) (hw : Written .code cs) :
    (∀ x ∈ xs, isCode x = true) ∧ Mode.after .code cs = .text := by
  induction h with
  | close => exact ⟨by simp, rfl⟩
  | @plain c cs xs hquote _ _ _ ih =>
    obtain ⟨hc, hrest⟩ := hw
    have hnext : Mode.next .code c = .code := if_neg hquote
    rw [hnext] at hrest
    obtain ⟨hxs, hmode⟩ := ih hrest
    refine ⟨?_, ?_⟩
    · intro x hx
      rcases List.mem_cons.mp hx with rfl | hx
      · exact (hc rfl).resolve_left hquote
      · exact hxs x hx
    · rw [Mode.after_cons, hnext, hmode]
  | escape =>
    have hslash : IsWritten '\\' := hw.1 rfl
    unfold IsWritten at hslash
    exact absurd hslash (by decide)

theorem inside_bracketed {cs : List Char} {c d : Char} (hc : IsBare c) (hd : IsBare d)
    (h : Inside cs) : Inside (c :: (cs ++ [d])) := by
  have hopen : Inside [c] := inside_of_bare (by simpa using hc)
  have hclose : Inside [d] := inside_of_bare (by simpa using hd)
  exact hopen.append (h.append hclose)

/-- Taken for what stands in a string, a text of a value ends in a string too. -/
theorem passes_inside : Passes Inside where
  atoms h := inside_of_bare fun c hc => isBare_of_isCode (isCode_of_isAtom (h c hc))
  append := Inside.append
  string h hw := (code_of_stringText h hw.2).2
  list h := inside_bracketed (isBare_of_isCode rfl) (isBare_of_isCode rfl) h
  object h := inside_bracketed (isBare_of_isCode rfl) (isBare_of_isCode rfl) h

def CodeKeys (a b : List (String × Json)) : Prop :=
  ∀ k ∈ b.map Prod.fst, k ∈ a.map Prod.fst ∨ ∀ x ∈ k.toList, isCode x = true

theorem codeKeys_plainText {V : List Char → Json → Prop} {key : String}
    {a b : List (String × Json)} {c : List Char} (hkey : ∀ x ∈ key.toList, isCode x = true)
    (h : PlainText V key a c b) : CodeKeys a b := by
  cases h with
  | colon =>
    intro k hk
    rcases mem_keys_insertMember hk with rfl | hk
    · exact .inr hkey
    · exact .inl hk

theorem CodeKeys.trans {a b c : List (String × Json)} (hab : CodeKeys a b) (hbc : CodeKeys b c) :
    CodeKeys a c := by
  intro k hk
  rcases hbc k hk with hk | hcode
  · exact hab k hk
  · exact .inr hcode

theorem Inside.next {cs ds : List Char} (hcs : Inside cs) (h : Written .text (cs ++ ds)) :
    Written .text ds := by
  rw [Written, inCode_append] at h
  rw [← hcs h.1]
  exact h.2

theorem codeKeys_members {V : List Char → Json → Prop} (hV : ∀ c x, V c x → Inside c)
    {a b : List (String × Json)} {t : List Char} (h : MembersText (PlainText V) a t b)
    (hw : Written .text t) : CodeKeys a b := by
  -- Each key is read from code: all that stands before it leaves the scanner in a string.
  induction h with
  | @last k key c a b s hk hm hs =>
    have hkey : Written .code k := ((inCode_append _ _ k _).mp hw.2).1
    exact codeKeys_plainText (code_of_stringText hk hkey).1 hm
  | @more k key c a b b' s s' t hk hm hs hs' _ ih =>
    have hkey : Written .code k := ((inCode_append _ _ k _).mp hw.2).1
    have hvalue : Written .text (c ++ (s ++ ',' :: (s' ++ t))) := (passes_inside.string hk).next hw
    have hmember : Inside c := passes_inside.plainText hV hm
    have hcomma : Written .text ([','] ++ (s' ++ t)) :=
      (passes_inside.spaces hs).next (hmember.next hvalue)
    have hbehind : Written .text t :=
      (passes_inside.spaces hs').next (passes_inside.comma.next hcomma)
    exact (codeKeys_plainText (code_of_stringText hk hkey).1 hm).trans (ih hbehind)

theorem codeKeys_object {V : List Char → Json → Prop} (hV : ∀ c x, V c x → Inside c)
    {a b : List (String × Json)} {t : List Char} (h : ObjectText (PlainText V) a t b)
    (hw : Written .text t) : CodeKeys a b := by
  cases h with
  | empty => exact fun _ hk => .inl hk
  | members hs ht => exact codeKeys_members hV ht ((passes_inside.spaces hs).next hw)

/-- An object read from inside a string has no key with a letter that code has not. -/
theorem code_of_value {depth : Nat} {b r : List Char} {members : List (String × Json)}
    (h : value depth ('{' :: b) = .ok (.obj members, r)) (hw : Written .text b) :
    ∀ k ∈ members.map Prod.fst, ∀ x ∈ k.toList, isCode x = true := by
  obtain ⟨d, t, ms, rfl, rfl, heq, hobject⟩ := objectText_of_value h
  obtain rfl := Json.obj.inj heq
  have hkeys : CodeKeys [] members :=
    codeKeys_object (fun _ _ => passes_inside.valueText d) hobject
      ((inCode_append _ _ t r).mp hw).1
  intro k hk
  exact (hkeys k hk).resolve_left (by simp)

end YardConsole.Json
