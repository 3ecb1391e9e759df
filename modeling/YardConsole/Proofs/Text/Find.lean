import Mathlib.Data.List.Infix
import YardConsole.Text.Find

/-! # What stands in a text -/

namespace YardConsole.Text

theorem occurs_iff (needle cs : List Char) : occurs needle cs = true ↔ needle <:+: cs := by
  induction cs with
  | nil => simp [occurs]
  | cons c rest ih =>
    rw [occurs, Bool.or_eq_true, ih, List.isPrefixOf_iff_prefix, List.infix_cons_iff]

theorem contains_iff (text needle : String) :
    contains text needle = true ↔ needle.toList <:+: text.toList := occurs_iff _ _

theorem append_of_cut {needle cs before after : List Char}
    (h : cut needle cs = some (before, after)) : cs = before ++ needle ++ after := by
  induction cs generalizing before with
  | nil =>
    rw [cut] at h
    split at h
    · rename_i hempty
      obtain rfl : needle = [] := by simpa using hempty
      simp only [Option.some.injEq, Prod.mk.injEq] at h
      obtain ⟨rfl, rfl⟩ := h
      rfl
    · cases h
  | cons c rest ih =>
    rw [cut] at h
    split at h
    · rename_i hstarts
      obtain ⟨behind, hbehind⟩ := List.isPrefixOf_iff_prefix.mp hstarts
      simp only [Option.some.injEq, Prod.mk.injEq] at h
      obtain ⟨rfl, rfl⟩ := h
      rw [← hbehind]
      simp
    · simp only [Option.map_eq_some_iff, Prod.mk.injEq] at h
      obtain ⟨⟨before, after⟩, hcut, rfl, rfl⟩ := h
      rw [ih hcut]
      rfl

/-- A text is cut at the needle behind `as` if no needle stands or begins in `as`. -/
theorem cut_append {needle as : List Char} (h : ¬ needle <:+: as ++ needle.dropLast)
    (bs : List Char) : cut needle (as ++ needle ++ bs) = some (as, bs) := by
  have hne : needle ≠ [] := by
    rintro rfl
    exact h List.nil_infix
  induction as with
  | nil =>
    obtain ⟨c, rest, rfl⟩ := List.exists_cons_of_ne_nil hne
    have hstarts : (c :: rest).isPrefixOf (c :: (rest ++ bs)) = true :=
      List.isPrefixOf_iff_prefix.mpr (List.prefix_append (c :: rest) bs)
    rw [List.nil_append, List.cons_append, cut, if_pos hstarts, ← List.cons_append, List.drop_left]
  | cons a as ih =>
    have hrest := ih fun hin => h (hin.trans (List.suffix_cons a _).isInfix)
    have hstarts : ¬ needle.isPrefixOf (a :: (as ++ needle ++ bs)) = true := by
      rw [List.isPrefixOf_iff_prefix]
      intro hstarts
      -- A needle that begins in `as` ends before the last character of the one behind it.
      have hshort : (a :: as) ++ needle.dropLast <+: a :: (as ++ needle ++ bs) := by
        rw [List.append_assoc, ← List.cons_append]
        refine (List.prefix_append_right_inj _).mpr ?_
        exact (List.dropLast_prefix needle).trans (List.prefix_append needle bs)
      refine h (List.prefix_of_prefix_length_le hstarts hshort ?_).isInfix
      simp only [List.length_append, List.length_cons, List.length_dropLast]
      omega
    rw [List.cons_append, List.cons_append, cut, if_neg hstarts, hrest, Option.map_some]

/-! ## Where a text is cut -/

structure FirstAt (needle cs : List Char) (i : Nat) : Prop where
  stands : needle <+: cs.drop i
  first : ∀ k < i, ¬ needle <+: cs.drop k

theorem infix_iff_stands (needle cs : List Char) :
    needle <:+: cs ↔ ∃ i, needle <+: cs.drop i := by
  constructor
  · rintro ⟨before, after, rfl⟩
    exact ⟨before.length, after, by simp⟩
  · rintro ⟨i, hstands⟩
    exact hstands.isInfix.trans (List.drop_suffix i cs).isInfix

theorem FirstAt.not_infix {needle cs : List Char} {i : Nat} (h : FirstAt needle cs i)
    (hne : needle ≠ []) : ¬ needle <:+: cs.take i := by
  rw [infix_iff_stands]
  rintro ⟨k, hk⟩
  have hlt : k < i := by
    have hlong := List.length_pos_iff.mpr hne
    have hfits := hk.length_le
    rw [List.length_drop, List.length_take] at hfits
    omega
  exact h.first k hlt (hk.trans ((List.take_prefix i cs).drop k))

theorem firstAt_cons {needle : List Char} {c : Char} {rest : List Char}
    (hstart : ¬ needle <+: c :: rest) (i : Nat) :
    FirstAt needle (c :: rest) (i + 1) ↔ FirstAt needle rest i := by
  constructor
  · rintro ⟨hstands, hfirst⟩
    exact ⟨hstands, fun k hk => hfirst (k + 1) (by omega)⟩
  · rintro ⟨hstands, hfirst⟩
    refine ⟨hstands, fun k hk => ?_⟩
    cases k with
    | zero => exact hstart
    | succ k => exact hfirst k (by omega)

theorem cut_of_start {needle cs : List Char} (h : needle <+: cs) :
    cut needle cs = some ([], cs.drop needle.length) := by
  cases cs with
  | nil =>
    obtain rfl := List.prefix_nil.mp h
    rfl
  | cons c rest => rw [cut, if_pos (List.isPrefixOf_iff_prefix.mpr h)]

theorem cut_of_not_start {needle rest : List Char} {c : Char} (h : ¬ needle <+: c :: rest) :
    cut needle (c :: rest) = (cut needle rest).map fun x => (c :: x.1, x.2) := by
  rw [cut, if_neg (by rwa [List.isPrefixOf_iff_prefix])]

theorem cut_eq_some_iff (needle cs before after : List Char) :
    cut needle cs = some (before, after) ↔
      ∃ i, FirstAt needle cs i ∧ before = cs.take i ∧ after = cs.drop (i + needle.length) := by
  induction cs generalizing before after with
  | nil =>
    cases needle with
    | nil =>
      simp only [cut, List.isEmpty_nil, if_true, Option.some.injEq, Prod.mk.injEq, List.take_nil,
        List.drop_nil]
      constructor
      · rintro ⟨rfl, rfl⟩
        exact ⟨0, ⟨List.nil_prefix, nofun⟩, rfl, rfl⟩
      · rintro ⟨i, -, rfl, rfl⟩
        exact ⟨rfl, rfl⟩
    | cons d needle =>
      refine ⟨nofun, ?_⟩
      rintro ⟨i, ⟨hstands, -⟩, -⟩
      rw [List.drop_nil] at hstands
      exact absurd (List.prefix_nil.mp hstands) (List.cons_ne_nil d needle)
  | cons c rest ih =>
    by_cases hstart : needle <+: c :: rest
    · rw [cut_of_start hstart, Option.some.injEq, Prod.mk.injEq]
      constructor
      · rintro ⟨rfl, rfl⟩
        exact ⟨0, ⟨hstart, nofun⟩, rfl, by simp⟩
      · rintro ⟨i, ⟨-, hfirst⟩, rfl, rfl⟩
        cases i with
        | zero => exact ⟨rfl, by simp⟩
        | succ i => exact absurd hstart (hfirst 0 (by omega))
    · rw [cut_of_not_start hstart, Option.map_eq_some_iff]
      constructor
      · rintro ⟨⟨before, after⟩, hcut, hpair⟩
        obtain ⟨rfl, rfl⟩ := Prod.mk.inj hpair
        obtain ⟨i, hi, rfl, rfl⟩ := (ih before after).mp hcut
        exact ⟨i + 1, (firstAt_cons hstart i).mpr hi, rfl, by rw [Nat.add_right_comm]; rfl⟩
      · rintro ⟨i, hi, rfl, rfl⟩
        cases i with
        | zero => exact absurd hi.stands hstart
        | succ i =>
          refine ⟨(rest.take i, rest.drop (i + needle.length)), ?_, ?_⟩
          · exact (ih _ _).mpr ⟨i, (firstAt_cons hstart i).mp hi, rfl, rfl⟩
          · rw [Nat.add_right_comm]
            rfl

theorem cut_eq_none_iff (needle cs : List Char) : cut needle cs = none ↔ ¬ needle <:+: cs := by
  induction cs with
  | nil => cases needle <;> simp [cut]
  | cons c rest ih =>
    rw [List.infix_cons_iff, not_or, ← ih]
    by_cases hstart : needle <+: c :: rest
    · simp [cut_of_start hstart, hstart]
    · simp [cut_of_not_start hstart, hstart]

theorem cut_append_of_cut {needle as bs before after : List Char}
    (h : cut needle (as ++ bs) = some (as ++ before, after)) :
    cut needle bs = some (before, after) := by
  induction as with
  | nil => exact h
  | cons a as ih =>
    apply ih
    rw [List.cons_append] at h
    by_cases hstart : needle <+: a :: (as ++ bs)
    · rw [cut_of_start hstart] at h
      cases h
    · rw [cut_of_not_start hstart, Option.map_eq_some_iff] at h
      obtain ⟨⟨before', after'⟩, hcut, hpair⟩ := h
      simp only [List.cons_append, Prod.mk.injEq, List.cons.injEq, true_and] at hpair
      obtain ⟨rfl, rfl⟩ := hpair
      exact hcut

/-! ## In parts of a text -/

section

variable {needle : List Char} {c : Char}

theorem prefix_append_cons (hc : c ∉ needle) (as : List Char) {bs : List Char}
    (h : needle <+: as ++ c :: bs) : needle <+: as := by
  rcases List.prefix_or_prefix_of_prefix h (List.prefix_append as _) with hshort | hlong
  · exact hshort
  · obtain ⟨rest, rfl⟩ := hlong
    rw [List.prefix_append_right_inj] at h
    cases rest with
    | nil => simp
    | cons d rest =>
      obtain ⟨rfl, -⟩ := List.cons_prefix_cons.mp h
      simp at hc

theorem infix_cons_of_free (hc : c ∉ needle) (cs : List Char) :
    needle <:+: c :: cs ↔ needle <:+: cs := by
  refine ⟨fun h => ?_, fun h => h.trans (List.suffix_cons c cs).isInfix⟩
  rcases List.infix_cons_iff.mp h with hstart | hrest
  · have hnil : needle <+: [] := prefix_append_cons hc [] hstart
    rw [List.prefix_nil.mp hnil]
    exact List.nil_infix
  · exact hrest

theorem infix_append_cons (hc : c ∉ needle) (as bs : List Char) :
    needle <:+: as ++ c :: bs ↔ needle <:+: as ∨ needle <:+: bs := by
  induction as with
  | nil =>
    rw [List.nil_append, infix_cons_of_free hc]
    refine ⟨.inr, fun h => h.elim (fun hnil => ?_) id⟩
    rw [List.infix_nil.mp hnil]
    exact List.nil_infix
  | cons a as ih =>
    rw [List.cons_append, List.infix_cons_iff, List.infix_cons_iff, ih, or_assoc]
    refine or_congr_left ⟨fun h => ?_, fun h => h.trans (List.prefix_append (a :: as) (c :: bs))⟩
    exact prefix_append_cons hc (a :: as) h

theorem infix_append_left {as : List Char} (has : ∀ c ∈ as, c ∉ needle) (bs : List Char) :
    needle <:+: as ++ bs ↔ needle <:+: bs := by
  induction as with
  | nil => rw [List.nil_append]
  | cons a as ih =>
    rw [List.cons_append, infix_cons_of_free (has a (by simp)),
      ih fun c hc => has c (List.mem_cons_of_mem a hc)]

theorem infix_append_right (as : List Char) {bs : List Char} (hbs : ∀ c ∈ bs, c ∉ needle) :
    needle <:+: as ++ bs ↔ needle <:+: as := by
  rw [← List.reverse_infix, List.reverse_append, infix_append_left (by simpa using hbs),
    List.reverse_infix]

theorem infix_append_of_head {as : List Char} (hhead : c ∈ needle.head?) (hfree : c ∉ as)
    (bs : List Char) : needle <:+: as ++ bs ↔ needle <:+: bs := by
  obtain ⟨rest, rfl⟩ := List.head?_eq_some_iff.mp hhead
  induction as with
  | nil => rw [List.nil_append]
  | cons a as ih =>
    rw [List.mem_cons, not_or] at hfree
    rw [List.cons_append, List.infix_cons_iff, List.cons_prefix_cons, ih hfree.2]
    exact or_iff_right fun h => hfree.1 h.1

theorem infix_append_of_last (as : List Char) {bs : List Char} (hlast : c ∈ needle.getLast?)
    (hfree : c ∉ bs) : needle <:+: as ++ bs ↔ needle <:+: as := by
  have hhead : c ∈ needle.reverse.head? := by rwa [List.head?_reverse]
  rw [← List.reverse_infix, List.reverse_append,
    infix_append_of_head hhead (by simpa using hfree), List.reverse_infix]

end

/-! ## Behind a text that it does not overlap -/

/-- The needle does not stand in the text, and begins nowhere in it. -/
def Apart (needle as : List Char) : Prop :=
  ∀ tail ∈ as.tails, tail ≠ [] → ¬ tail <+: needle ∧ ¬ needle <+: tail

instance (needle as : List Char) : Decidable (Apart needle as) :=
  inferInstanceAs (Decidable (∀ tail ∈ as.tails, _))

theorem infix_append_of_apart {needle as : List Char} (h : Apart needle as) (bs : List Char) :
    needle <:+: as ++ bs ↔ needle <:+: bs := by
  induction as with
  | nil => rw [List.nil_append]
  | cons a as ih =>
    have htails : as.tails ⊆ (a :: as).tails := by simp
    have hstart : ¬ needle <+: a :: as ++ bs := by
      obtain ⟨hshort, hlong⟩ := h (a :: as) (by simp) (List.cons_ne_nil a as)
      intro hneedle
      rcases List.prefix_or_prefix_of_prefix hneedle (List.prefix_append (a :: as) bs) with h | h
      · exact hlong h
      · exact hshort h
    rw [List.cons_append, List.infix_cons_iff, ih fun tail htail => h tail (htails htail)]
    exact or_iff_right hstart

end YardConsole.Text
