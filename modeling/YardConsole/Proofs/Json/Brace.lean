import Mathlib.Data.List.TakeDrop
import YardConsole.Proofs.Json.Scan

/-! # Scanning what is written

Each brace in the line of a value that is code opens the line of an object in the value.
-/

namespace YardConsole.Json

/-! ## Code -/

/-- A text that is code outside strings, and ends outside them. -/
def Tame (cs : List Char) : Prop := Written .code cs ∧ Mode.after .code cs = .code

theorem Tame.append {cs ds : List Char} (hcs : Tame cs) (hds : Tame ds) : Tame (cs ++ ds) := by
  obtain ⟨hwritten, hmode⟩ := hcs
  refine ⟨(inCode_append _ _ cs ds).mpr ⟨hwritten, ?_⟩, ?_⟩
  · rw [hmode]
    exact hds.1
  · rw [Mode.after_append, hmode]
    exact hds.2

theorem tame_of_isCode {cs : List Char} (h : ∀ c ∈ cs, isCode c = true) : Tame cs := by
  refine ⟨inCode_of_forall (fun c hc => .inr (h c hc)) _, ?_⟩
  induction cs with
  | nil => rfl
  | cons c cs ih =>
    have hquote : c ≠ '"' := by
      rintro rfl
      exact absurd (h '"' (by simp)) (by decide)
    rw [Mode.after_cons, Mode.next, if_neg hquote]
    exact ih fun x hx => h x (by simp [hx])

theorem inCode_bare (p : Char → Prop) {cs : List Char} (h : ∀ c ∈ cs, IsBare c) :
    InCode p .text cs := by
  induction cs with
  | nil => trivial
  | cons c cs ih =>
    rw [inCode_text_cons, Mode.next_text (h c (by simp))]
    exact ih fun x hx => h x (by simp [hx])

theorem inCode_escapeText (p : Char → Prop) {esc : List Char} {e : Char} (h : EscapeText esc e) :
    InCode p .escape esc ∧ Mode.after .escape esc = .text := by
  cases h with
  | short =>
    rw [inCode_escape_cons]
    exact ⟨trivial, rfl⟩
  | unit h =>
    rw [inCode_escape_cons]
    exact ⟨inCode_bare p h.bare, after_bare h.bare⟩
  | @pair hs hs' _ _ h h' =>
    have hafter : Mode.after .text hs' = .text := after_bare h'.bare
    rw [inCode_escape_cons, inCode_append, after_bare h.bare, Mode.after_cons, Mode.next,
      Mode.after_append, after_bare h.bare, inCode_text_cons]
    exact ⟨⟨inCode_bare p h.bare, (inCode_escape_cons p 'u' hs').mpr (inCode_bare p h'.bare)⟩,
      hafter⟩

theorem inCode_stringText (p : Char → Prop) {cs xs : List Char} (h : StringText cs xs) :
    InCode p .text cs ∧ Mode.after .text cs = .code := by
  induction h with
  | close =>
    rw [inCode_text_cons]
    exact ⟨trivial, rfl⟩
  | @plain c cs xs hquote hslash _ _ ih =>
    rw [inCode_text_cons, Mode.after_cons, Mode.next_text ⟨hquote, hslash⟩]
    exact ih
  | @escape esc e cs xs he _ ih =>
    obtain ⟨hcode, hmode⟩ := inCode_escapeText p he
    have hnext : Mode.next .text '\\' = .escape := rfl
    rw [inCode_text_cons, Mode.after_cons, hnext, inCode_append, Mode.after_append, hmode]
    exact ⟨⟨hcode, ih.1⟩, ih.2⟩

theorem tame_string {cs xs : List Char} (h : StringText cs xs) : Tame ('"' :: cs) := by
  obtain ⟨hcode, hmode⟩ := inCode_stringText IsWritten h
  exact ⟨⟨fun _ => .inl rfl, hcode⟩, hmode⟩

theorem tame_bracketed {cs : List Char} {c d : Char} (hc : isCode c = true) (hd : isCode d = true)
    (h : Tame cs) : Tame (c :: (cs ++ [d])) := by
  have hopen : Tame [c] := tame_of_isCode (by simpa using hc)
  have hclose : Tame [d] := tame_of_isCode (by simpa using hd)
  exact hopen.append (h.append hclose)

theorem passes_tame : Passes Tame where
  atoms h := tame_of_isCode fun c hc => isCode_of_isAtom (h c hc)
  append := Tame.append
  string := tame_string
  list h := tame_bracketed rfl rfl h
  object h := tame_bracketed rfl rfl h

/-! ## Braces -/

/-- Each brace of the text that is code opens the line of an object in `S`. -/
def BracesOpen (S : Json → Prop) (cs : List Char) : Prop :=
  ∀ before behind, cs = before ++ '{' :: behind → Mode.after .code before = .code →
    ∃ ms rest, S (.obj ms) ∧ '{' :: behind = line (.obj ms) ++ rest

theorem bracesOpen_of_inCode {S : Json → Prop} {cs : List Char} (h : InCode (· ≠ '{') .code cs) :
    BracesOpen S cs := by
  rintro before behind rfl hmode
  rw [inCode_append, hmode] at h
  exact absurd rfl (h.2.1 rfl)

theorem bracesOpen_of_not_mem {S : Json → Prop} {cs : List Char} (h : '{' ∉ cs) :
    BracesOpen S cs :=
  bracesOpen_of_inCode (inCode_of_forall (fun c hc (hbrace : c = '{') => h (hbrace ▸ hc)) _)

theorem bracesOpen_stringText (S : Json → Prop) (s : String) : BracesOpen S (stringText s) := by
  refine bracesOpen_of_inCode ⟨fun _ => by decide, ?_⟩
  exact (inCode_stringText _ (stringText_flatMap s.toList)).1

theorem BracesOpen.append {S : Json → Prop} {cs ds : List Char} (hcs : BracesOpen S cs)
    (hmode : Mode.after .code cs = .code) (hds : BracesOpen S ds) : BracesOpen S (cs ++ ds) := by
  intro before behind heq hcode
  rcases List.append_eq_append_iff.mp heq with ⟨rest, rfl, hrest⟩ | ⟨rest, rfl, hrest⟩
  · -- The brace stands in the second text.
    rw [Mode.after_append, hmode] at hcode
    exact hds rest behind hrest hcode
  · cases rest with
    | nil =>
      rw [List.append_nil] at hmode
      exact hds [] behind hrest.symm rfl
    | cons c rest =>
      obtain ⟨rfl, rfl⟩ := List.cons.inj hrest
      obtain ⟨ms, rest', hS, hline⟩ := hcs before rest rfl hcode
      refine ⟨ms, rest' ++ ds, hS, ?_⟩
      rw [← List.append_assoc, ← hline]
      rfl

theorem BracesOpen.obj {S : Json → Prop} {ms : List (String × Json)} {cs : List Char}
    (hS : S (.obj ms)) (hline : line (.obj ms) = '{' :: cs) (h : BracesOpen S cs) :
    BracesOpen S (line (.obj ms)) := by
  intro before behind heq hcode
  rw [hline] at heq
  cases before with
  | nil => exact ⟨ms, [], hS, by rw [List.append_nil, hline, heq]; rfl⟩
  | cons c before =>
    obtain ⟨rfl, hbehind⟩ := List.cons.inj heq
    exact h before behind hbehind hcode

theorem bracesOpen_lineItems {S : Json → Prop} {xs : List Json}
    (h : ∀ x ∈ xs, BracesOpen S (line x)) : BracesOpen S (lineItems xs) := by
  induction xs with
  | nil => exact bracesOpen_of_not_mem (by decide)
  | cons x xs ih =>
    have hcomma : BracesOpen S [','] := bracesOpen_of_not_mem (by decide)
    rw [lineItems_cons]
    exact hcomma.append rfl ((h x (by simp)).append (passes_tame.line x).2
      (ih fun y hy => h y (by simp [hy])))

theorem bracesOpen_member {S : Json → Prop} (k : String) {x : Json} {cs : List Char}
    (hx : BracesOpen S (line x)) (hcs : BracesOpen S cs) :
    BracesOpen S (stringText k ++ ':' :: (line x ++ cs)) := by
  have hcolon : BracesOpen S [':'] := bracesOpen_of_not_mem (by decide)
  exact (bracesOpen_stringText S k).append (passes_tame.key k).2
    (hcolon.append rfl (hx.append (passes_tame.line x).2 hcs))

theorem bracesOpen_lineMembers {S : Json → Prop} {ms : List (String × Json)}
    (h : ∀ m ∈ ms, BracesOpen S (line m.2)) : BracesOpen S (lineMembers ms) := by
  induction ms with
  | nil => exact bracesOpen_of_not_mem (by decide)
  | cons m ms ih =>
    obtain ⟨k, x⟩ := m
    have hcomma : BracesOpen S [','] := bracesOpen_of_not_mem (by decide)
    rw [lineMembers_cons]
    exact hcomma.append rfl (bracesOpen_member k (h (k, x) (by simp))
      (ih fun y hy => h y (by simp [hy])))

theorem BracesOpen.mono {S T : Json → Prop} {cs : List Char} (h : BracesOpen S cs)
    (hST : ∀ j, S j → T j) : BracesOpen T cs := by
  intro before behind heq hcode
  obtain ⟨ms, rest, hS, hline⟩ := h before behind heq hcode
  exact ⟨ms, rest, hST _ hS, hline⟩

theorem bracesOpen_line (j : Json) : BracesOpen (Within j) (line j) := by
  have hnumerals : ∀ {S : Json → Prop} {cs}, (∀ c ∈ cs, isNumeral c = true) → BracesOpen S cs := by
    intro S cs h
    exact bracesOpen_of_not_mem fun hc => absurd (h _ hc) (by decide)
  induction j with
  | null => exact bracesOpen_of_not_mem (by decide)
  | bool b =>
    cases b with
    | true => exact bracesOpen_of_not_mem (by decide)
    | false => exact bracesOpen_of_not_mem (by decide)
  | int n => exact hnumerals (isNumeral_intText n)
  | float x =>
    change BracesOpen _ (floatText x)
    rcases floatText_cases x with h | h
    · rw [h]
      exact bracesOpen_of_not_mem (by decide)
    · exact hnumerals h
  | str s => exact bracesOpen_stringText _ s
  | arr xs ih =>
    -- What is within an item is within the value.
    have hitems : ∀ x ∈ xs, BracesOpen (Within (.arr xs)) (line x) := fun x hx =>
      (ih x hx).mono fun y hy => .inr (within_of_holds (.item hx) hy)
    have hbracket : BracesOpen (Within (.arr xs)) ['['] := bracesOpen_of_not_mem (by decide)
    cases xs with
    | nil => exact bracesOpen_of_not_mem (by decide)
    | cons x xs =>
      rw [line_arr_cons]
      exact hbracket.append rfl ((hitems x (by simp)).append (passes_tame.line x).2
        (bracesOpen_lineItems fun y hy => hitems y (by simp [hy])))
  | obj ms ih =>
    have hmembers : ∀ m ∈ ms, BracesOpen (Within (.obj ms)) (line m.2) := fun m hm =>
      (ih m hm).mono fun y hy => .inr (within_of_holds (.member hm) hy)
    cases ms with
    | nil => exact .obj (.inl rfl) rfl (bracesOpen_of_not_mem (by decide))
    | cons m ms =>
      obtain ⟨k, x⟩ := m
      exact .obj (.inl rfl) (line_obj_cons k x ms) (bracesOpen_member k (hmembers (k, x) (by simp))
        (bracesOpen_lineMembers fun y hy => hmembers y (by simp [hy])))

end YardConsole.Json
