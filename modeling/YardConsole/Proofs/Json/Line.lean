import YardConsole.Json.Writer
import YardConsole.Proofs.Json.Basic
import YardConsole.Proofs.Json.Value

/-! # Values on one line -/

namespace YardConsole.Json

/-! ## The text -/

def line (j : Json) : List Char := j.write .compact 0

def lineItems (xs : List Json) : List Char := writeItems .compact 0 xs

def lineMembers (ms : List (String × Json)) : List Char := writeMembers .compact 0 ms

theorem toList_compact (j : Json) : j.compact.toList = line j := String.toList_ofList

theorem writeItems_compact {xs : List Json}
    (h : ∀ x ∈ xs, ∀ depth, x.write .compact depth = line x) (depth : Nat) :
    writeItems .compact depth xs = lineItems xs := by
  induction xs with
  | nil => rfl
  | cons x xs ih =>
    have hx := h x (by simp)
    have hxs := ih fun y hy => h y (by simp [hy])
    rw [lineItems, writeItems, writeItems, hx, hx, hxs]
    rfl

theorem writeMembers_compact {ms : List (String × Json)}
    (h : ∀ m ∈ ms, ∀ depth, m.2.write .compact depth = line m.2) (depth : Nat) :
    writeMembers .compact depth ms = lineMembers ms := by
  induction ms with
  | nil => rfl
  | cons m ms ih =>
    obtain ⟨k, x⟩ := m
    have hx : ∀ depth, x.write .compact depth = line x := h (k, x) (by simp)
    have hms := ih fun y hy => h y (by simp [hy])
    rw [lineMembers, writeMembers, writeMembers, hx, hx, hms]
    rfl

/-- On one line it does not matter how deep a value stands. -/
theorem write_compact (j : Json) (depth : Nat) : j.write .compact depth = line j := by
  induction j generalizing depth with
  | null => rfl
  | bool b => cases b <;> rfl
  | int n => rfl
  | float x => rfl
  | str s => rfl
  | arr xs ih =>
    cases xs with
    | nil => rfl
    | cons x xs =>
      have hx := ih x (by simp)
      have hxs : ∀ depth, writeItems .compact depth xs = lineItems xs :=
        writeItems_compact fun y hy => ih y (by simp [hy])
      rw [line, write, write, hx, hx, hxs, hxs]
      rfl
  | obj ms ih =>
    cases ms with
    | nil => rfl
    | cons m ms =>
      obtain ⟨k, x⟩ := m
      have hx : ∀ depth, x.write .compact depth = line x := ih (k, x) (by simp)
      have hms : ∀ depth, writeMembers .compact depth ms = lineMembers ms :=
        writeMembers_compact fun y hy => ih y (by simp [hy])
      rw [line, write, write, hx, hx, hms, hms]
      rfl

theorem line_arr_cons (x : Json) (xs : List Json) :
    line (.arr (x :: xs)) = '[' :: (line x ++ lineItems xs) := by
  rw [line, write, write_compact, lineItems]
  rfl

theorem lineItems_cons (x : Json) (xs : List Json) :
    lineItems (x :: xs) = ',' :: (line x ++ lineItems xs) := by
  rw [lineItems, writeItems, write_compact, lineItems]
  rfl

theorem line_obj_cons (k : String) (x : Json) (ms : List (String × Json)) :
    line (.obj ((k, x) :: ms)) = '{' :: (stringText k ++ ':' :: (line x ++ lineMembers ms)) := by
  rw [line, write, write_compact, lineMembers]
  simp [Layout.compact]

theorem lineMembers_cons (k : String) (x : Json) (ms : List (String × Json)) :
    lineMembers ((k, x) :: ms) = ',' :: (stringText k ++ ':' :: (line x ++ lineMembers ms)) := by
  rw [lineMembers, writeMembers, write_compact, lineMembers]
  simp [Layout.compact]

/-! ## Numbers -/

theorem isNumeral_naturalText (n : Nat) : ∀ c ∈ naturalText n, isNumeral c = true :=
  fun _ hc => isNumeral_of_isDigit (Nat.isDigit_of_mem_toDigits (by decide) (by decide) hc)

theorem isNumeral_intText (n : Int) : ∀ c ∈ intText n, isNumeral c = true := by
  cases n with
  | ofNat n => exact isNumeral_naturalText n
  | negSucc n =>
    intro c hc
    rcases List.mem_cons.mp hc with rfl | hc
    · rfl
    · exact isNumeral_naturalText _ c hc

theorem isNumeral_plainText {digits : List Char} (h : ∀ c ∈ digits, isNumeral c = true)
    (point : Int) : ∀ c ∈ plainText digits point, isNumeral c = true := by
  have hzeros : ∀ n, ∀ c ∈ List.replicate n '0', isNumeral c = true := by
    intro n c hc
    rw [List.eq_of_mem_replicate hc]
    rfl
  intro c hc
  unfold plainText at hc
  split at hc
  · simp only [List.mem_append, List.mem_cons, List.not_mem_nil, or_false] at hc
    rcases hc with ((rfl | rfl) | hc) | hc
    · rfl
    · rfl
    · exact hzeros _ c hc
    · exact h c hc
  · split at hc
    · simp only [List.mem_append, List.mem_cons, List.not_mem_nil, or_false] at hc
      rcases hc with (hc | hc) | rfl | rfl
      · exact h c hc
      · exact hzeros _ c hc
      · rfl
      · rfl
    · simp only [List.mem_append, List.mem_cons] at hc
      rcases hc with hc | rfl | hc
      · exact h c (List.mem_of_mem_take hc)
      · rfl
      · exact h c (List.mem_of_mem_drop hc)

theorem isNumeral_scientificText {digits : List Char} (h : ∀ c ∈ digits, isNumeral c = true)
    (power : Int) : ∀ c ∈ scientificText digits power, isNumeral c = true := by
  have hpoint : ∀ c ∈ (if digits.length = 1 then [] else '.' :: digits.drop 1),
      isNumeral c = true := by
    intro c hc
    split at hc
    · cases hc
    · rcases List.mem_cons.mp hc with rfl | hc
      · rfl
      · exact h c (List.mem_of_mem_drop hc)
  intro c hc
  simp only [scientificText, List.mem_append, List.mem_cons] at hc
  rcases hc with (hc | hc) | rfl | rfl | hc
  · exact h c (List.mem_of_mem_take hc)
  · exact hpoint c hc
  · rfl
  · split <;> rfl
  · exact isNumeral_naturalText _ c hc

theorem isNumeral_decimalText (d : Decimal) : ∀ c ∈ decimalText d, isNumeral c = true := by
  have hdigits := isNumeral_naturalText d.digits
  unfold decimalText
  simp only
  split
  · exact isNumeral_plainText hdigits _
  · exact isNumeral_scientificText hdigits _

theorem floatText_cases (x : Float) :
    floatText x = ['n', 'u', 'l', 'l'] ∨ ∀ c ∈ floatText x, isNumeral c = true := by
  unfold floatText
  split
  · exact .inl rfl
  · refine .inr fun c hc => ?_
    simp only [List.mem_append] at hc
    rcases hc with hc | hc
    · split at hc
      · obtain rfl := List.mem_singleton.mp hc
        rfl
      · cases hc
    · split at hc
      · simp only [List.mem_cons, List.not_mem_nil, or_false] at hc
        rcases hc with rfl | rfl | rfl <;> rfl
      · exact isNumeral_decimalText _ c hc

/-! ## Strings -/

theorem unitText_control {n : Nat} (h : n < 32) :
    UnitText ['0', '0', Nat.digitChar (n / 16), Nat.digitChar (n % 16)] n := by
  have hdigits : ∀ n < 32, hexValue? (Nat.digitChar (n / 16)) = some (n / 16) ∧
      hexValue? (Nat.digitChar (n % 16)) = some (n % 16) := by decide
  obtain ⟨hhigh, hlow⟩ := hdigits n h
  have hzero : hexValue? '0' = some 0 := by decide
  refine ⟨?_, fun r => ?_⟩
  · simp [hzero, hhigh, hlow]
  · simp only [List.cons_append, List.nil_append, fourDigits?, hzero, hhigh, hlow,
      Option.bind_eq_bind, Option.bind_some, Option.some.injEq, Prod.mk.injEq, and_true]
    omega

theorem stringText_escapeChar (c : Char) {cs xs : List Char} (h : StringText cs xs) :
    StringText (escapeChar c ++ cs) (c :: xs) := by
  have hshort : ∀ e c, shortEscape? e = some c → StringText ('\\' :: e :: cs) (c :: xs) :=
    fun e c he => .escape (.short he) h
  unfold escapeChar
  split
  iterate 7
    · exact hshort _ _ rfl
  · split
    · rename_i hcontrol
      have hunit := unitText_control hcontrol
      have hlow : Text.Surrogate.isLow c.toNat = false := by
        simp only [Text.Surrogate.isLow, Bool.and_eq_false_iff, decide_eq_false_iff_not]
        omega
      have hhigh : Text.Surrogate.isHigh c.toNat = false := by
        simp only [Text.Surrogate.isHigh, Bool.and_eq_false_iff, decide_eq_false_iff_not]
        omega
      have hescape := StringText.escape (.unit hunit hlow hhigh) h
      rwa [Char.ofNat_toNat] at hescape
    · rename_i hquote hslash _ _ _ _ _ hcontrol
      exact .plain hquote hslash hcontrol h

theorem stringText_flatMap (cs : List Char) : StringText (cs.flatMap escapeChar ++ ['"']) cs := by
  induction cs with
  | nil => exact .close
  | cons c cs ih =>
    rw [List.flatMap_cons, List.append_assoc]
    exact stringText_escapeChar c ih

end YardConsole.Json
