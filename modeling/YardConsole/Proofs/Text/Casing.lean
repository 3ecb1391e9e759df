import YardConsole.Proofs.Text.Blank
import YardConsole.Text.Casing
import YardConsole.Text.Word

/-! # Capital letters -/

namespace YardConsole.Text

def IsCapital (c : Char) : Prop := 65 ≤ c.toNat ∧ c.toNat ≤ 90

instance (c : Char) : Decidable (IsCapital c) := inferInstanceAs (Decidable (_ ∧ _))

theorem toNat_toLower (c : Char) :
    c.toLower.toNat = if 65 ≤ c.toNat ∧ c.toNat ≤ 90 then c.toNat + 32 else c.toNat := by
  have hrange : (c.val ≥ 'A'.val ∧ c.val ≤ 'Z'.val) ↔ 65 ≤ c.toNat ∧ c.toNat ≤ 90 := by
    rw [ge_iff_le, UInt32.le_iff_toNat_le, UInt32.le_iff_toNat_le]
    rfl
  unfold Char.toLower
  simp only [hrange]
  split
  · have hstep : ('a'.val - 'A'.val).toNat = 32 := by decide
    change (c.val + ('a'.val - 'A'.val)).toNat = c.val.toNat + 32
    rw [UInt32.toNat_add, hstep]
    change 65 ≤ c.val.toNat ∧ c.val.toNat ≤ 90 at *
    omega
  · rfl

theorem toNat_toUpper (c : Char) :
    c.toUpper.toNat = if 97 ≤ c.toNat ∧ c.toNat ≤ 122 then c.toNat - 32 else c.toNat := by
  have hrange : ('a'.val ≤ c.val ∧ c.val ≤ 'z'.val) ↔ 97 ≤ c.toNat ∧ c.toNat ≤ 122 := by
    rw [UInt32.le_iff_toNat_le, UInt32.le_iff_toNat_le]
    rfl
  unfold Char.toUpper
  simp only [hrange]
  split
  · rename_i h
    have hstep : ('A'.val - 'a'.val).toNat = 4294967264 := by decide
    change (c.val + ('A'.val - 'a'.val)).toNat = c.val.toNat - 32
    rw [UInt32.toNat_add, hstep]
    change 97 ≤ c.val.toNat ∧ c.val.toNat ≤ 122 at h
    omega
  · rfl

/-- Only the two cases of a letter have one lower case. -/
theorem toUpper_of_toLower_eq {c d : Char} (hd : IsCapital d) (h : c.toLower = d.toLower) :
    isAscii c = true ∧ c.toUpper = d := by
  unfold IsCapital at hd
  have hnat := congrArg Char.toNat h
  rw [toNat_toLower, toNat_toLower, if_pos hd] at hnat
  obtain ⟨hlow, hhigh⟩ := hd
  have hc : c.toNat = d.toNat ∨ c.toNat = d.toNat + 32 := by
    split at hnat <;> omega
  refine ⟨?_, Char.toNat_inj.mp ?_⟩
  · simp only [isAscii, decide_eq_true_eq]
    omega
  · rw [toNat_toUpper]
    split <;> omega

/-! ## Small letters -/

def IsSmall (c : Char) : Prop := 97 ≤ c.toNat ∧ c.toNat ≤ 122

instance (c : Char) : Decidable (IsSmall c) := inferInstanceAs (Decidable (_ ∧ _))

theorem toLower_of_isSmall {c : Char} (h : IsSmall c) : c.toLower = c := by
  obtain ⟨hlow, hhigh⟩ := h
  apply Char.toNat_inj.mp
  rw [toNat_toLower]
  split <;> omega

section

variable {c : Char} (h : IsSmall c)

include h

theorem isAscii_of_isSmall : isAscii c = true := by
  obtain ⟨hlow, hhigh⟩ := h
  simp only [isAscii, decide_eq_true_eq]
  omega

theorem isBlank_of_isSmall : isBlank c = false := by
  obtain ⟨hlow, hhigh⟩ := h
  exact isBlank_of_visible (by omega) (by omega)

theorem isAlpha_of_isSmall : c.isAlpha = true := by
  obtain ⟨hlow, hhigh⟩ := h
  have ha : 'a'.val ≤ c.val := UInt32.le_iff_toNat_le.mpr hlow
  have hz : c.val ≤ 'z'.val := UInt32.le_iff_toNat_le.mpr hhigh
  change (c.isUpper || (decide ('a'.val ≤ c.val) && decide (c.val ≤ 'z'.val))) = true
  rw [decide_eq_true ha, decide_eq_true hz, Bool.and_self, Bool.or_true]

theorem isAlphanumeric_of_isSmall : isAlphanumeric c = true := by
  simp [isAlphanumeric, isAlphabetic, isAscii_of_isSmall h, isAlpha_of_isSmall h]

theorem isWordChar_of_isSmall : isWordChar c = true := by
  simp [isWordChar, Char.isAlphanum, isAscii_of_isSmall h, isAlpha_of_isSmall h]

theorem isDigit_of_isSmall : isDigit c = false := by
  rw [isDigit, if_pos (isAscii_of_isSmall h), ← Bool.not_eq_true]
  intro hdigit
  obtain ⟨-, hhigh⟩ := toNat_of_isDigit hdigit
  obtain ⟨hlow, -⟩ := h
  omega

end

theorem toNat_of_isSmall_toLower {c : Char} (h : IsSmall c.toLower) :
    65 ≤ c.toNat ∧ c.toNat ≤ 122 := by
  unfold IsSmall at h
  rw [toNat_toLower] at h
  split at h <;> omega

theorem lowerAfter_append_of_ascii (before : List Char) {as : List Char}
    (h : ∀ c ∈ as, isAscii c = true) (bs : List Char) : lowerAfter before (as ++ bs) =
      as.map Char.toLower ++ lowerAfter (as.reverse ++ before) bs := by
  induction as generalizing before with
  | nil => rfl
  | cons c as ih =>
    have hc : isAscii c = true := h c (by simp)
    have hsigma : c ≠ 'Σ' := by
      rintro rfl
      exact absurd hc (by decide)
    rw [List.cons_append, lowerAfter, if_neg hsigma, lowerChar, if_pos hc,
      ih _ fun x hx => h x (by simp [hx])]
    simp

theorem lowerAfter_of_ascii (before : List Char) {cs : List Char}
    (h : ∀ c ∈ cs, isAscii c = true) : lowerAfter before cs = cs.map Char.toLower := by
  have happend := lowerAfter_append_of_ascii before h []
  rwa [List.append_nil, lowerAfter, List.append_nil] at happend

theorem lowerList_of_ascii {cs : List Char} (h : ∀ c ∈ cs, isAscii c = true) :
    lowerList cs = cs.map Char.toLower := lowerAfter_of_ascii [] h

/-! ## What stands before a letter -/

/-- Case rules do not look past what they do not look through. -/
theorem nextIsCased_append_cons {c : Char} (hc : isCaseIgnorable c = false) (as bs : List Char) :
    nextIsCased (as ++ c :: bs) = nextIsCased (as ++ [c]) := by
  rw [nextIsCased, nextIsCased, dropWhile_append_cons hc, dropWhile_append_cons hc]
  cases as.dropWhile isCaseIgnorable <;> rfl

theorem lowerAfter_append_cons {c : Char} (hc : isCaseIgnorable c = false) (as bs cs : List Char) :
    lowerAfter (as ++ c :: bs) cs = lowerAfter (as ++ [c]) cs := by
  induction cs generalizing as with
  | nil => rfl
  | cons x cs ih =>
    have hrest := ih (x :: as)
    rw [List.cons_append, List.cons_append] at hrest
    rw [lowerAfter, lowerAfter, hrest, lowerSigma, lowerSigma, nextIsCased_append_cons hc]

end YardConsole.Text
