import Mathlib.Data.List.TakeWhile
import YardConsole.Json.Scalar
import YardConsole.Proofs.Text.Blank

/-! # The texts of numbers

What a reader of numbers took, it takes again in front of anything else that cannot be part of the
number.
-/

namespace YardConsole.Json

/-! ## Where numbers end -/

def isNumeral (c : Char) : Bool :=
  c.isDigit || c == '.' || c == 'e' || c == 'E' || c == '+' || c == '-'

def NoDigit (r : List Char) : Prop := ∀ c ∈ r.head?, c.isDigit = false

def Stops (r : List Char) : Prop :=
  ∀ c ∈ r.head?, c.isDigit = false ∧ c ≠ '.' ∧ c ≠ 'e' ∧ c ≠ 'E'

/-- The reader takes `cs` as `x`, whatever stands behind where no number goes on. -/
structure Takes (f : List Char → Read α) (cs : List Char) (x : α) : Prop where
  numeral : ∀ c ∈ cs, isNumeral c = true
  reads : ∀ r, Stops r → f (cs ++ r) = .ok (x, r)

/-- Whatever the reader has read, it takes. -/
def ReadsNumerals (f : List Char → Read α) : Prop :=
  ∀ s x r, f s = .ok (x, r) → ∃ cs, s = cs ++ r ∧ Takes f cs x

theorem stops_nil : Stops [] := by simp [Stops]

theorem Stops.noDigit {r : List Char} (h : Stops r) : NoDigit r := fun c hc => (h c hc).1

theorem not_stops_cons {c : Char} (hc : c = '.' ∨ c = 'e' ∨ c = 'E') (r : List Char) :
    ¬ Stops (c :: r) := by
  intro h
  obtain ⟨-, hpoint, hlower, hupper⟩ := h c rfl
  rcases hc with rfl | rfl | rfl
  · exact hpoint rfl
  · exact hlower rfl
  · exact hupper rfl

theorem NoDigit.replace {cs r r' : List Char} (h : NoDigit (cs ++ r)) (hr : Stops r') :
    NoDigit (cs ++ r') := by
  cases cs with
  | nil => exact hr.noDigit
  | cons c cs => exact h

theorem NoDigit.not_any {r : List Char} (h : NoDigit r) : ¬ r.head?.any Char.isDigit = true := by
  cases hr : r.head? with
  | none => simp
  | some c => simp [h c hr]

/-! ## Digits -/

def Digits (ds : List Char) : Prop := ds ≠ [] ∧ ∀ c ∈ ds, c.isDigit = true

theorem digits_append (s : List Char) :
    ∃ ds t, s = ds ++ t ∧ (∀ c ∈ ds, c.isDigit = true) ∧ NoDigit t :=
  ⟨s.takeWhile Char.isDigit, s.dropWhile Char.isDigit,
    List.takeWhile_append_dropWhile.symm, fun _ hc => List.mem_takeWhile_imp hc,
    Text.head_dropWhile Char.isDigit s⟩

theorem takeWhile_digits {ds t : List Char} (hds : ∀ c ∈ ds, c.isDigit = true) (ht : NoDigit t) :
    (ds ++ t).takeWhile Char.isDigit = ds := by
  rw [List.takeWhile_append_of_pos hds]
  cases t with
  | nil => simp
  | cons c t => simp [ht c (by simp)]

theorem dropWhile_digits {ds t : List Char} (hds : ∀ c ∈ ds, c.isDigit = true) (ht : NoDigit t) :
    (ds ++ t).dropWhile Char.isDigit = t := by
  rw [List.dropWhile_append_of_pos hds]
  exact Text.dropWhile_of_head ht

theorem absorb_append (limit n : Nat) {ds t : List Char} (ht : NoDigit t) :
    absorb limit n (ds ++ t) =
      ((absorb limit n ds).1, (absorb limit n ds).2.1, (absorb limit n ds).2.2 ++ t) := by
  induction ds generalizing n with
  | nil =>
    cases t with
    | nil => rfl
    | cons c t => simp [absorb, ht c (by simp)]
  | cons c ds ih =>
    simp only [List.cons_append, absorb]
    split
    · rw [ih]
    · rfl

theorem absorb_suffix (limit n : Nat) (ds : List Char) : (absorb limit n ds).2.2 <:+ ds := by
  induction ds generalizing n with
  | nil => exact List.suffix_refl _
  | cons c ds ih =>
    rw [absorb]
    split
    · exact (ih _).trans (List.suffix_cons _ _)
    · exact List.suffix_refl _

theorem powerDigits_append (n : Nat) {ds t : List Char} (ht : NoDigit t) :
    powerDigits n (ds ++ t) = ((powerDigits n ds).1, (powerDigits n ds).2 ++ t) := by
  induction ds generalizing n with
  | nil =>
    cases t with
    | nil => rfl
    | cons c t => simp [powerDigits, ht c (by simp)]
  | cons c ds ih =>
    simp only [List.cons_append, powerDigits]
    split
    · split
      · rw [ih]
      · rfl
    · rfl

/-- All digits are used unless there are too many. -/
theorem powerDigits_digits (n : Nat) {ds : List Char} (hds : ∀ c ∈ ds, c.isDigit = true) :
    (∃ m, powerDigits n ds = (some m, [])) ∨
      ∃ left, powerDigits n ds = (none, left) ∧ left <:+ ds := by
  induction ds generalizing n with
  | nil => exact .inl ⟨n, rfl⟩
  | cons c ds ih =>
    rw [powerDigits, if_pos (hds c (by simp))]
    split
    · rcases ih _ fun x hx => hds x (by simp [hx]) with h | ⟨left, h, hleft⟩
      · exact .inl h
      · exact .inr ⟨left, h, hleft.trans (List.suffix_cons _ _)⟩
    · exact .inr ⟨ds, rfl, List.suffix_cons _ _⟩

/-! ## Readers -/

theorem isNumeral_of_isDigit {c : Char} (h : c.isDigit = true) : isNumeral c = true := by
  simp [isNumeral, h]

theorem isNumeral_digits {ds : List Char} (h : ∀ c ∈ ds, c.isDigit = true) :
    ∀ c ∈ ds, isNumeral c = true := fun c hc => isNumeral_of_isDigit (h c hc)

theorem Takes.cons {f g : List Char → Read α} {cs : List Char} {x : α} (c : Char)
    (hc : isNumeral c = true) (h : Takes f cs x)
    (hg : ∀ r, Stops r → g (c :: (cs ++ r)) = f (cs ++ r)) : Takes g (c :: cs) x := by
  refine ⟨?_, fun r hr => ?_⟩
  · simpa [hc] using h.numeral
  · rw [List.cons_append, hg r hr, h.reads r hr]

theorem floatOf_takes {negative : Bool} {digits : Nat} {power : Int} {s r : List Char} {j : Json}
    (h : floatOf negative digits power s = .ok (j, r)) :
    r = s ∧ ∀ r', floatOf negative digits power r' = .ok (j, r') := by
  unfold floatOf at h
  simp only at h
  split at h
  · rename_i f hscaled
    cases h
    refine ⟨rfl, fun r' => ?_⟩
    unfold floatOf
    simp only [hscaled]
  · cases h

theorem power_reads (negative : Bool) (digits : Nat) (start : Int) (up : Bool) {s r : List Char}
    {j : Json} (h : power negative digits start up s = .ok (j, r)) :
    ∃ ds, s = ds ++ r ∧ Digits ds ∧ Takes (power negative digits start up) ds j := by
  cases s with
  | nil => cases h
  | cons c s =>
    obtain ⟨ds, t, rfl, hds, ht⟩ := digits_append s
    rw [power] at h
    split at h
    · cases h
    · rename_i hnot
      have hc : c.isDigit = true := by simpa using hnot
      rw [powerDigits_append _ ht] at h
      have hdigits : Digits (c :: ds) := ⟨by simp, by simpa [hc] using hds⟩
      have hnumeral := isNumeral_digits hdigits.2
      rcases powerDigits_digits (digitValue c) hds with ⟨m, hm⟩ | ⟨left, hleft, hsuffix⟩
      · simp only [hm, List.nil_append] at h
        obtain ⟨rfl, hfloat⟩ := floatOf_takes h
        refine ⟨c :: ds, rfl, hdigits, hnumeral, fun r' hr' => ?_⟩
        rw [List.cons_append, power, if_neg hnot, powerDigits_append _ hr'.noDigit]
        simp only [hm, List.nil_append, hfloat]
      · simp only [hleft] at h
        have hdrop : ∀ t', NoDigit t' → (left ++ t').dropWhile Char.isDigit = t' := fun t' ht' =>
          dropWhile_digits (fun x hx => hds x (hsuffix.subset hx)) ht'
        rw [hdrop t ht] at h
        split at h
        · cases h
        · rename_i hup
          cases h
          refine ⟨c :: ds, rfl, hdigits, hnumeral, fun r' hr' => ?_⟩
          rw [List.cons_append, power, if_neg hnot, powerDigits_append _ hr'.noDigit]
          simp only [hleft, if_neg hup, hdrop r' hr'.noDigit]

theorem signedPower_reads (negative : Bool) (digits : Nat) (start : Int) :
    ReadsNumerals (signedPower negative digits start) := by
  intro s j r h
  unfold signedPower at h
  split at h
  · obtain ⟨ds, rfl, -, htakes⟩ := power_reads _ _ _ _ h
    exact ⟨'+' :: ds, rfl, htakes.cons '+' rfl fun _ _ => rfl⟩
  · obtain ⟨ds, rfl, -, htakes⟩ := power_reads _ _ _ _ h
    exact ⟨'-' :: ds, rfl, htakes.cons '-' rfl fun _ _ => rfl⟩
  · obtain ⟨ds, rfl, hds, htakes⟩ := power_reads _ _ _ _ h
    refine ⟨ds, rfl, htakes.numeral, fun r' hr' => ?_⟩
    rw [← htakes.reads r' hr']
    have hfirst : ∀ c rest, ds ++ r' = c :: rest → c.isDigit = true := by
      intro c rest heq
      obtain ⟨d, ds', rfl⟩ := List.exists_cons_of_ne_nil hds.1
      obtain rfl := (List.cons.inj heq).1
      exact hds.2 d (by simp)
    unfold signedPower
    split
    · rename_i rest heq
      exact absurd (hfirst '+' rest heq) (by decide)
    · rename_i rest heq
      exact absurd (hfirst '-' rest heq) (by decide)
    · rfl

theorem afterDigits_reads (negative : Bool) (digits : Nat) (start : Int) :
    ReadsNumerals (afterDigits negative digits start) := by
  intro s j r h
  unfold afterDigits at h
  split at h
  · obtain ⟨cs, rfl, htakes⟩ := signedPower_reads _ _ _ _ _ _ h
    exact ⟨'e' :: cs, rfl, htakes.cons 'e' rfl fun _ _ => rfl⟩
  · obtain ⟨cs, rfl, htakes⟩ := signedPower_reads _ _ _ _ _ _ h
    exact ⟨'E' :: cs, rfl, htakes.cons 'E' rfl fun _ _ => rfl⟩
  · obtain ⟨rfl, hfloat⟩ := floatOf_takes h
    refine ⟨[], rfl, by simp, fun r' hr' => ?_⟩
    rw [← hfloat r']
    unfold afterDigits
    split
    · rename_i rest heq
      obtain rfl : r' = 'e' :: rest := heq
      exact absurd hr' (not_stops_cons (by simp) rest)
    · rename_i rest heq
      obtain rfl : r' = 'E' :: rest := heq
      exact absurd hr' (not_stops_cons (by simp) rest)
    · rfl

theorem fraction_append (negative : Bool) (digits : Nat) (start : Int) {ds t : List Char}
    (hds : Digits ds) (ht : NoDigit t) :
    fraction negative digits start (ds ++ t) =
      afterDigits negative (absorb (Nat.pow 2 64) digits ds).1
        (start - (absorb (Nat.pow 2 64) digits ds).2.1) t := by
  obtain ⟨hne, hall⟩ := hds
  obtain ⟨c, ds, rfl⟩ := List.exists_cons_of_ne_nil hne
  have hc : ¬ (!c.isDigit) = true := by simp [hall c (by simp)]
  rw [List.cons_append, fraction, if_neg hc, ← List.cons_append, absorb_append _ _ ht]
  simp only
  rw [dropWhile_digits (fun x hx => hall x ((absorb_suffix _ _ _).subset hx)) ht]

theorem digits_of_fraction {negative : Bool} {digits : Nat} {start : Int} {s r : List Char}
    {j : Json} (h : fraction negative digits start s = .ok (j, r)) :
    ∃ ds t, s = ds ++ t ∧ Digits ds ∧ NoDigit t := by
  obtain ⟨ds, t, rfl, hds, ht⟩ := digits_append s
  refine ⟨ds, t, rfl, ⟨?_, hds⟩, ht⟩
  rintro rfl
  cases t with
  | nil => cases h
  | cons c t => simp [fraction, ht c (by simp), failAt] at h

theorem fraction_reads (negative : Bool) (digits : Nat) (start : Int) :
    ReadsNumerals (fraction negative digits start) := by
  intro s j r h
  obtain ⟨ds, t, rfl, hds, ht⟩ := digits_of_fraction h
  rw [fraction_append _ _ _ hds ht] at h
  obtain ⟨cs, rfl, htakes⟩ := afterDigits_reads _ _ _ _ _ _ h
  refine ⟨ds ++ cs, by simp, ?_, fun r' hr' => ?_⟩
  · intro c hc
    rcases List.mem_append.mp hc with hc | hc
    · exact isNumeral_of_isDigit (hds.2 c hc)
    · exact htakes.numeral c hc
  · rw [List.append_assoc, fraction_append _ _ _ hds (ht.replace hr'), htakes.reads r' hr']

theorem afterWhole_reads (negative : Bool) (n dropped : Nat) :
    ReadsNumerals (afterWhole negative n dropped) := by
  intro s j r h
  unfold afterWhole at h
  split at h
  · obtain ⟨cs, rfl, htakes⟩ := fraction_reads _ _ _ _ _ _ h
    exact ⟨'.' :: cs, rfl, htakes.cons '.' rfl fun _ _ => rfl⟩
  · obtain ⟨cs, rfl, htakes⟩ := signedPower_reads _ _ _ _ _ _ h
    exact ⟨'e' :: cs, rfl, htakes.cons 'e' rfl fun _ _ => rfl⟩
  · obtain ⟨cs, rfl, htakes⟩ := signedPower_reads _ _ _ _ _ _ h
    exact ⟨'E' :: cs, rfl, htakes.cons 'E' rfl fun _ _ => rfl⟩
  · have hend : r = s ∧ ∀ r', (if dropped = 0 then Except.ok (wholeNumber negative n, r')
        else floatOf negative n dropped r') = Except.ok (j, r') := by
      split at h
      · rename_i hall
        cases h
        exact ⟨rfl, fun r' => if_pos hall⟩
      · rename_i hall
        obtain ⟨rfl, hfloat⟩ := floatOf_takes h
        exact ⟨rfl, fun r' => (if_neg hall).trans (hfloat r')⟩
    obtain ⟨rfl, hend⟩ := hend
    refine ⟨[], rfl, by simp, fun r' hr' => ?_⟩
    rw [← hend r']
    unfold afterWhole
    split
    · rename_i rest heq
      obtain rfl : r' = '.' :: rest := heq
      exact absurd hr' (not_stops_cons (by simp) rest)
    · rename_i rest heq
      obtain rfl : r' = 'e' :: rest := heq
      exact absurd hr' (not_stops_cons (by simp) rest)
    · rename_i rest heq
      obtain rfl : r' = 'E' :: rest := heq
      exact absurd hr' (not_stops_cons (by simp) rest)
    · rfl

theorem number_append (negative : Bool) {c : Char} {ds t : List Char} (hzero : c ≠ '0')
    (hds : Digits (c :: ds)) (ht : NoDigit t) :
    number negative (c :: (ds ++ t)) =
      afterWhole negative (absorb (Nat.pow 2 64) (digitValue c) ds).1
        (absorb (Nat.pow 2 64) (digitValue c) ds).2.2.length t := by
  have hleft : ∀ x ∈ (absorb (Nat.pow 2 64) (digitValue c) ds).2.2, x.isDigit = true :=
    fun x hx => hds.2 x (List.mem_cons_of_mem c ((absorb_suffix _ _ _).subset hx))
  rw [number, if_neg hzero, if_pos (hds.2 c (by simp)), absorb_append _ _ ht]
  simp only
  rw [takeWhile_digits hleft ht, dropWhile_digits hleft ht]

theorem number_reads (negative : Bool) {s r : List Char} {j : Json}
    (h : number negative s = .ok (j, r)) :
    ∃ c cs, s = c :: cs ++ r ∧ c.isDigit = true ∧ Takes (number negative) (c :: cs) j := by
  cases s with
  | nil => cases h
  | cons c s =>
    by_cases hzero : c = '0'
    · rw [number, if_pos hzero] at h
      split at h
      · cases h
      · rename_i hrest
        have ht : NoDigit s := by
          intro x hx
          simpa [Option.mem_def.mp hx] using hrest
        obtain ⟨cs, rfl, htakes⟩ := afterWhole_reads _ _ _ _ _ _ h
        subst hzero
        refine ⟨'0', cs, rfl, rfl, htakes.cons '0' rfl fun r' hr' => ?_⟩
        rw [number, if_pos rfl, if_neg (ht.replace hr').not_any]
    · have hc : c.isDigit = true := by
        by_contra hc
        rw [number, if_neg hzero, if_neg hc] at h
        cases h
      obtain ⟨ds, t, rfl, hall, ht⟩ := digits_append s
      have hds : Digits (c :: ds) := ⟨by simp, by simpa [hc] using hall⟩
      rw [number_append _ hzero hds ht] at h
      obtain ⟨cs, rfl, htakes⟩ := afterWhole_reads _ _ _ _ _ _ h
      refine ⟨c, ds ++ cs, by simp, hc, ?_, fun r' hr' => ?_⟩
      · intro x hx
        rw [← List.cons_append, List.mem_append] at hx
        rcases hx with hx | hx
        · exact isNumeral_of_isDigit (hds.2 x hx)
        · exact htakes.numeral x hx
      · rw [List.cons_append, List.append_assoc, number_append _ hzero hds (ht.replace hr'),
          htakes.reads r' hr']

end YardConsole.Json
