import Mathlib.Algebra.Group.Int.Defs
import YardConsole.Json.Writer
import YardConsole.Proofs.Json.Number
import YardConsole.Proofs.Text.Blank

/-! # Whole numbers

Whole numbers that are read fit sixty-four bits, and those that fit are read as they were written.
-/

namespace YardConsole.Json

/-! ## What is read -/

/-- Sixty-four bits hold the number, below zero with a sign. -/
def FitsWord (n : Int) : Prop := -2 ^ 63 ≤ n ∧ n < 2 ^ 64

inductive IsNumber : Json → Prop
  | int {n} (h : FitsWord n) : IsNumber (.int n)
  | float (x : Float) : IsNumber (.float x)

def YieldsFloat (x : Read Json) : Prop := ∀ j r, x = .ok (j, r) → ∃ f, j = .float f

theorem YieldsFloat.error (f : Fault) : YieldsFloat (.error f) := nofun

theorem YieldsFloat.float (f : Float) (r : List Char) : YieldsFloat (.ok (.float f, r)) := by
  rintro j r' ⟨⟩
  exact ⟨f, rfl⟩

theorem yieldsFloat_floatOf (negative : Bool) (digits : Nat) (power : Int) (s : List Char) :
    YieldsFloat (floatOf negative digits power s) := by
  unfold floatOf
  simp only
  split
  · exact .float _ _
  · exact .error _

theorem yieldsFloat_power (negative : Bool) (digits : Nat) (start : Int) (up : Bool)
    (s : List Char) : YieldsFloat (power negative digits start up s) := by
  unfold power
  split
  · exact .error _
  · split
    · exact .error _
    · split
      · exact yieldsFloat_floatOf _ _ _ _
      · split
        · exact .error _
        · exact .float _ _

theorem yieldsFloat_signedPower (negative : Bool) (digits : Nat) (start : Int) (s : List Char) :
    YieldsFloat (signedPower negative digits start s) := by
  unfold signedPower
  split
  · exact yieldsFloat_power _ _ _ _ _
  · exact yieldsFloat_power _ _ _ _ _
  · exact yieldsFloat_power _ _ _ _ _

theorem yieldsFloat_afterDigits (negative : Bool) (digits : Nat) (start : Int) (s : List Char) :
    YieldsFloat (afterDigits negative digits start s) := by
  unfold afterDigits
  split
  · exact yieldsFloat_signedPower _ _ _ _
  · exact yieldsFloat_signedPower _ _ _ _
  · exact yieldsFloat_floatOf _ _ _ _

theorem yieldsFloat_fraction (negative : Bool) (digits : Nat) (start : Int) (s : List Char) :
    YieldsFloat (fraction negative digits start s) := by
  unfold fraction
  split
  · exact .error _
  · split
    · exact .error _
    · exact yieldsFloat_afterDigits _ _ _ _

theorem YieldsFloat.isNumber {x : Read Json} (h : YieldsFloat x) {j : Json} {r : List Char}
    (hx : x = .ok (j, r)) : IsNumber j := by
  obtain ⟨f, rfl⟩ := h j r hx
  exact .float f

theorem isNumber_wholeNumber (negative : Bool) {n : Nat} (h : n < Nat.pow 2 64) :
    IsNumber (wholeNumber negative n) := by
  have hword : Nat.pow 2 64 = 18446744073709551616 := by decide
  have hhalf : Nat.pow 2 63 = 9223372036854775808 := by decide
  unfold wholeNumber
  split
  · refine .int ⟨?_, ?_⟩ <;> omega
  · split
    · refine .int ⟨?_, ?_⟩ <;> omega
    · exact .float _

theorem absorb_lt {limit n : Nat} (h : n < limit) (cs : List Char) :
    (absorb limit n cs).1 < limit := by
  induction cs generalizing n with
  | nil => exact h
  | cons c cs ih =>
    rw [absorb]
    split
    · rename_i hmore
      rw [Bool.and_eq_true, decide_eq_true_eq] at hmore
      exact ih hmore.2
    · exact h

theorem isNumber_of_afterWhole {negative : Bool} {n dropped : Nat} (hn : n < Nat.pow 2 64)
    {s r : List Char} {j : Json} (h : afterWhole negative n dropped s = .ok (j, r)) :
    IsNumber j := by
  unfold afterWhole at h
  split at h
  · exact (yieldsFloat_fraction _ _ _ _).isNumber h
  · exact (yieldsFloat_signedPower _ _ _ _).isNumber h
  · exact (yieldsFloat_signedPower _ _ _ _).isNumber h
  · split at h
    · cases h
      exact isNumber_wholeNumber negative hn
    · exact (yieldsFloat_floatOf _ _ _ _).isNumber h

theorem digitValue_lt {c : Char} (h : c.isDigit = true) : digitValue c < 10 := by
  have hdigit := Text.toNat_of_isDigit h
  have hzero : '0'.toNat = 48 := rfl
  rw [digitValue, hzero]
  omega

theorem isNumber_of_number {negative : Bool} {s r : List Char} {j : Json}
    (h : number negative s = .ok (j, r)) : IsNumber j := by
  have hword : Nat.pow 2 64 = 18446744073709551616 := by decide
  unfold number at h
  split at h
  · cases h
  · split at h
    · split at h
      · cases h
      · exact isNumber_of_afterWhole (by omega) h
    · split at h
      · rename_i hc
        have hdigit := digitValue_lt hc
        exact isNumber_of_afterWhole (absorb_lt (by omega) _) h
      · cases h

/-! ## What was written -/

theorem naturalText_cons {n : Nat} (hn : n ≠ 0) : ∃ c ds, naturalText n = c :: ds ∧ c ≠ '0' := by
  -- The first digit is that of the number without its last one.
  induction n using Nat.strong_induction_on with
  | _ n ih =>
    unfold naturalText at ih ⊢
    by_cases hlt : n < 10
    · refine ⟨n.digitChar, [], Nat.toDigits_of_lt_base hlt, ?_⟩
      intro hzero
      have hnat := Nat.toNat_digitChar_of_lt_ten hlt
      rw [hzero] at hnat
      have hcode : '0'.toNat = 48 := rfl
      omega
    · obtain ⟨c, ds, hdigits, hc⟩ := ih (n / 10) (by omega) (by omega)
      refine ⟨c, ds ++ [(n % 10).digitChar], ?_, hc⟩
      rw [Nat.toDigits_of_base_le (by decide) (by omega), hdigits]
      rfl

theorem le_ofDigitChars (ds : List Char) (n : Nat) : n ≤ Nat.ofDigitChars 10 ds n := by
  induction ds generalizing n with
  | nil => exact Nat.le_refl n
  | cons c ds ih =>
    rw [Nat.ofDigitChars_cons]
    exact (show n ≤ 10 * n + (c.toNat - '0'.toNat) by omega).trans (ih _)

theorem absorb_digits {limit n : Nat} {ds : List Char} (hds : ∀ c ∈ ds, c.isDigit = true)
    (h : Nat.ofDigitChars 10 ds n < limit) :
    absorb limit n ds = (Nat.ofDigitChars 10 ds n, ds.length, []) := by
  induction ds generalizing n with
  | nil => rfl
  | cons c ds ih =>
    rw [Nat.ofDigitChars_cons] at h ⊢
    have hmore : (c.isDigit && decide (10 * n + digitValue c < limit)) = true := by
      rw [Bool.and_eq_true, decide_eq_true_eq]
      exact ⟨hds c (by simp), (le_ofDigitChars ds _).trans_lt h⟩
    rw [absorb, if_pos hmore, digitValue, ih (fun x hx => hds x (by simp [hx])) h]
    rfl

theorem afterWhole_of_stops (negative : Bool) (n : Nat) {r : List Char} (hr : Stops r) :
    afterWhole negative n 0 r = .ok (wholeNumber negative n, r) := by
  unfold afterWhole
  split
  · exact absurd hr (not_stops_cons (by simp) _)
  · exact absurd hr (not_stops_cons (by simp) _)
  · exact absurd hr (not_stops_cons (by simp) _)
  · exact if_pos rfl

theorem number_naturalText (negative : Bool) {n : Nat} (hn : n < Nat.pow 2 64) {r : List Char}
    (hr : Stops r) : number negative (naturalText n ++ r) = .ok (wholeNumber negative n, r) := by
  by_cases hzero : n = 0
  · subst hzero
    have htext : naturalText 0 = ['0'] := Nat.toDigits_zero 10
    rw [htext, List.singleton_append, number, if_pos rfl,
      if_neg hr.noDigit.not_any, afterWhole_of_stops _ _ hr]
  · obtain ⟨c, ds, htext, hc⟩ := naturalText_cons hzero
    have hdigits : ∀ x ∈ c :: ds, x.isDigit = true := by
      intro x hx
      rw [← htext] at hx
      exact Nat.isDigit_of_mem_toDigits (by decide) (by decide) hx
    have hvalue : Nat.ofDigitChars 10 ds (digitValue c) = n := by
      have hread : Nat.ofDigitChars 10 (naturalText n) 0 = n := Nat.ofDigitChars_ten_toDigits
      rw [htext, Nat.ofDigitChars_cons, Nat.mul_zero, Nat.zero_add] at hread
      exact hread
    have habsorb : absorb (Nat.pow 2 64) (digitValue c) ds = (n, ds.length, []) := by
      rw [absorb_digits (fun x hx => hdigits x (by simp [hx])) (by rw [hvalue]; exact hn), hvalue]
    rw [htext, List.cons_append, number_append _ hc ⟨by simp, hdigits⟩ hr.noDigit, habsorb]
    exact afterWhole_of_stops _ _ hr

end YardConsole.Json
