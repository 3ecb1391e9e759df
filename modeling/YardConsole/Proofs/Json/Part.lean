import YardConsole.Json.Record
import YardConsole.Proofs.Json.Loose

/-! # The texts of parts of records -/

namespace YardConsole.Json

variable {α β σ : Type}

/-! ## Strings -/

inductive LiteralText : List Char → String → Prop
  | quote {k s} (h : StringText k s.toList) : LiteralText ('"' :: k) s

theorem readString_reads (expected : String) : Reads (readString expected) LiteralText where
  sound s x r hread := by
    obtain ⟨sp, hs, hsp, -⟩ := spaces_append_skipSpace s
    unfold readString at hread
    split at hread
    · rename_i rest hskip
      obtain ⟨k, rfl, hk⟩ := stringText_of_string hread
      rw [hskip] at hs
      exact ⟨sp, '"' :: k, hs, hsp, .quote hk⟩
    · cases hread
  takes c x hx sp r hsp _ := by
    cases hx with
    | quote hk =>
      unfold readString
      rw [List.cons_append, skipSpace_append hsp (solid_cons rfl _)]
      exact string_append hk r
  begins c x hx := by
    cases hx with
    | quote => exact ⟨_, _, rfl, rfl, by decide⟩

theorem LiteralText.loose {c : List Char} {s : String} (h : LiteralText c s) : Loose c := by
  cases h with
  | quote hk => exact .of_step (.string hk.quoted)

/-! ## Whole numbers -/

def IntegerText (c : List Char) (n : Int) : Prop := ValueText 0 c (.int n) ∧ n < Int.pow 2 63

theorem readInteger_reads : Reads readInteger IntegerText where
  sound s n r hread := by
    obtain ⟨sp, hs, hsp, -⟩ := spaces_append_skipSpace s
    suffices htext : ∃ c, skipSpace s = c ++ r ∧ IntegerText c n by
      obtain ⟨c, hc, hn⟩ := htext
      exact ⟨sp, c, by rw [← hc]; exact hs, hsp, hn⟩
    unfold readInteger at hread
    simp only at hread
    split at hread
    · rename_i m r' hnumber
      split at hread
      · rename_i hlt
        cases hread
        split at hnumber
        · rename_i digits hskip
          obtain ⟨c, cs, rfl, -, htakes⟩ := number_reads _ hnumber
          exact ⟨_, hskip, .negative htakes, hlt⟩
        · rename_i c t _ hskip
          split at hnumber
          · rename_i hc
            obtain ⟨c', cs, hcs, hc', htakes⟩ := number_reads _ hnumber
            exact ⟨_, hcs, .natural hc' htakes, hlt⟩
          · cases hnumber
        · cases hnumber
      · cases hread
    · cases hread
    · cases hread
  takes c n hn sp r hsp hr := by
    obtain ⟨htext, hlt⟩ := hn
    have hskip : skipSpace (sp ++ (c ++ r)) = c ++ r := by
      obtain ⟨a, t, rfl, ha, -⟩ := StepText.begins htext
      exact skipSpace_append hsp (solid_cons ha _)
    unfold readInteger
    simp only [hskip]
    cases htext with
    | negative h => simp only [List.cons_append, h.reads r hr, if_pos hlt]
    | @natural c cs _ hc h =>
      have hminus : c ≠ '-' := by
        rintro rfl
        exact absurd hc (by decide)
      have hread := h.reads r hr
      rw [List.cons_append] at hread
      simp only [List.cons_append, if_pos hc, hread, if_pos hlt]
  begins c n hn := StepText.begins hn.1

theorem IntegerText.loose {c : List Char} {n : Int} (h : IntegerText c n) : Loose c :=
  ValueText.loose h.1

/-! ## Optional parts -/

inductive OptionalText (P : List Char → α → Prop) : List Char → Option α → Prop
  | null : OptionalText P ['n', 'u', 'l', 'l'] none
  | some {c x} (hc : c.head? ≠ some 'n') (h : P c x) : OptionalText P c (some x)

theorem readOptional_reads {reader : List Char → Read α} {P : List Char → α → Prop}
    (h : Reads reader P) : Reads (readOptional reader) (OptionalText P) where
  sound s x r hread := by
    obtain ⟨sp, hs, hsp, hsolid⟩ := spaces_append_skipSpace s
    unfold readOptional at hread
    split at hread
    · rename_i rest hskip
      obtain ⟨rest', hword, heq⟩ := map_eq_ok hread
      cases heq
      rw [word_eq_ok_iff] at hword
      rw [hskip, hword] at hs
      exact ⟨sp, _, hs, hsp, .null⟩
    · rename_i hn
      obtain ⟨⟨y, r'⟩, hreader, heq⟩ := map_eq_ok hread
      cases heq
      obtain ⟨c, hc, hy⟩ := h.sound_solid hsolid hreader
      rw [hc] at hs
      refine ⟨sp, c, hs, hsp, .some ?_ hy⟩
      obtain ⟨a, t, rfl, -⟩ := h.begins c y hy
      intro hhead
      obtain rfl : a = 'n' := by simpa using hhead
      exact hn _ hc
  takes c x hx sp r hsp hr := by
    unfold readOptional
    cases hx with
    | null =>
      rw [List.cons_append, skipSpace_append hsp (solid_cons rfl _)]
      rfl
    | @some c x hc hx =>
      obtain ⟨a, t, rfl, ha, hne⟩ := h.begins c x hx
      rw [List.cons_append, skipSpace_append hsp (solid_cons ha _)]
      split
      · rename_i heq
        exact absurd (congrArg some (List.cons.inj heq).1) hc
      · have hread := h.takes _ _ hx [] r spaces_nil hr
        rw [List.nil_append, List.cons_append] at hread
        rw [hread]
        rfl
  begins c x hx := by
    cases hx with
    | null => exact ⟨_, _, rfl, rfl, by decide⟩
    | some _ hx => exact h.begins _ _ hx

theorem OptionalText.loose {P : List Char → α → Prop} (hP : ∀ c x, P c x → Loose c)
    {c : List Char} {x : Option α} (h : OptionalText P c x) : Loose c := by
  cases h with
  | null => exact .of_step .null
  | some _ hx => exact hP _ _ hx

/-! ## Lists -/

inductive NestedText (P : Nat → List Char → α → Prop) : Nat → List Char → List α → Prop
  | list {depth t xs} (h : ListText (P depth) t xs) : NestedText P (depth + 1) ('[' :: t) xs

theorem readList_reads {reader : Nat → List Char → Read α} {P : Nat → List Char → α → Prop}
    (h : ∀ depth, Reads (reader depth) (P depth)) (depth : Nat) :
    Reads (readList reader depth) (NestedText P depth) where
  sound s x r hread := by
    obtain ⟨sp, hs, hsp, -⟩ := spaces_append_skipSpace s
    unfold readList at hread
    split at hread
    · rename_i rest hskip
      cases depth with
      | zero => cases hread
      | succ depth =>
        obtain ⟨t, rfl, ht⟩ := listText_of_items (h depth) hread
        rw [hskip] at hs
        exact ⟨sp, '[' :: t, hs, hsp, .list ht⟩
    · cases hread
  takes c x hx sp r hsp _ := by
    cases hx with
    | list ht =>
      unfold readList
      rw [List.cons_append, skipSpace_append hsp (solid_cons rfl _)]
      exact items_append (h _) ht r
  begins c x hx := by
    cases hx with
    | list => exact ⟨_, _, rfl, rfl, by decide⟩

theorem NestedText.loose {P : Nat → List Char → α → Prop} (hP : ∀ depth c x, P depth c x → Loose c)
    {depth : Nat} {c : List Char} {xs : List α} (h : NestedText P depth c xs) : Loose c := by
  cases h with
  | list ht => exact .of_step (ht.loose (hP _))

/-! ## Parts of a state -/

/-- The text of a value that is put into what is known so far. -/
def Sets (P : List Char → β → Prop) (set : σ → β → σ) (a : σ) (c : List Char) (b : σ) : Prop :=
  ∃ x, P c x ∧ b = set a x

theorem Reads.sets {reader : List Char → Read β} {P : List Char → β → Prop} (h : Reads reader P)
    (set : σ → β → σ) (a : σ) :
    Reads (fun s => (reader s).map fun (x, r) => (set a x, r)) (Sets P set a) where
  sound s b r hread := by
    obtain ⟨⟨x, r'⟩, hreader, heq⟩ := map_eq_ok hread
    cases heq
    obtain ⟨sp, c, hs, hsp, hx⟩ := h.sound s x r hreader
    exact ⟨sp, c, hs, hsp, x, hx, rfl⟩
  takes c b hb sp r hsp hr := by
    obtain ⟨x, hx, rfl⟩ := hb
    rw [h.takes c x hx sp r hsp hr]
    rfl
  begins c b hb := by
    obtain ⟨x, hx, -⟩ := hb
    exact h.begins c x hx

theorem Sets.loose {P : List Char → β → Prop} (hP : ∀ c x, P c x → Loose c) {set : σ → β → σ}
    {a b : σ} {c : List Char} (h : Sets P set a c b) : Loose c := by
  obtain ⟨x, hx, -⟩ := h
  exact hP c x hx

theorem Reads.congr {item : List Char → Read α} {P Q : List Char → α → Prop} (h : Reads item P)
    (hPQ : ∀ c x, P c x ↔ Q c x) : Reads item Q := by
  obtain rfl : P = Q := funext fun c => funext fun x => propext (hPQ c x)
  exact h

end YardConsole.Json
