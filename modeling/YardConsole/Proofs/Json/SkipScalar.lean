import YardConsole.Json.Skip
import YardConsole.Proofs.Json.Loop

/-! # Numbers and strings that are passed over

Their grammar, with no look at the range of numbers or at pairs of surrogates.
-/

namespace YardConsole.Json

/-! ## Numbers -/

def IsSign (s : List Char) : Prop := s = [] ∨ s = ['+'] ∨ s = ['-']

inductive WholeText : List Char → Prop
  | zero : WholeText ['0']
  | digits {c ds} (hc : c ≠ '0') (hds : Digits (c :: ds)) : WholeText (c :: ds)

inductive FractionText : List Char → Prop
  | none : FractionText []
  | point {ds} (hds : Digits ds) : FractionText ('.' :: ds)

inductive PowerText : List Char → Prop
  | none : PowerText []
  | power {e s ds} (he : e = 'e' ∨ e = 'E') (hs : IsSign s) (hds : Digits ds) :
      PowerText (e :: (s ++ ds))

inductive NumberText : List Char → Prop
  | parts {w f p} (hw : WholeText w) (hf : FractionText f) (hp : PowerText p) :
      NumberText (w ++ (f ++ p))

theorem digits_of_any {s : List Char} (h : s.head?.any Char.isDigit = true) :
    ∃ ds, s = ds ++ s.dropWhile Char.isDigit ∧ Digits ds := by
  refine ⟨s.takeWhile Char.isDigit, List.takeWhile_append_dropWhile.symm, ?_,
    fun c hc => List.mem_takeWhile_imp hc⟩
  cases s with
  | nil => simp at h
  | cons c s =>
    have hc : c.isDigit = true := by simpa using h
    simp [hc]

theorem any_of_digits {ds : List Char} (h : Digits ds) (r : List Char) :
    (ds ++ r).head?.any Char.isDigit = true := by
  obtain ⟨hne, hds⟩ := h
  obtain ⟨c, ds, rfl⟩ := List.exists_cons_of_ne_nil hne
  simpa using hds c (by simp)

theorem powerText_of_skipPower {s r : List Char} (h : skipPower s = .ok r) :
    ∃ sign ds, s = sign ++ (ds ++ r) ∧ IsSign sign ∧ Digits ds := by
  have hdigits : ∀ t : List Char,
      (if t.head?.any Char.isDigit then (.ok (t.dropWhile Char.isDigit) : Skip)
        else failAt .invalidNumber t) = .ok r → ∃ ds, t = ds ++ r ∧ Digits ds := by
    intro t ht
    split at ht
    · rename_i hany
      cases ht
      exact digits_of_any hany
    · cases ht
  unfold skipPower at h
  simp only at h
  split at h
  · obtain ⟨ds, hs, hds⟩ := hdigits _ h
    exact ⟨['+'], ds, by rw [hs]; rfl, .inr (.inl rfl), hds⟩
  · obtain ⟨ds, hs, hds⟩ := hdigits _ h
    exact ⟨['-'], ds, by rw [hs]; rfl, .inr (.inr rfl), hds⟩
  · obtain ⟨ds, hs, hds⟩ := hdigits _ h
    exact ⟨[], ds, hs, .inl rfl, hds⟩

theorem skipPower_append {s ds r : List Char} (hs : IsSign s) (hds : Digits ds)
    (hr : NoDigit r) : skipPower (s ++ (ds ++ r)) = .ok r := by
  have hdigits : (if (ds ++ r).head?.any Char.isDigit then
      (.ok ((ds ++ r).dropWhile Char.isDigit) : Skip) else failAt .invalidNumber (ds ++ r)) =
        .ok r := by
    rw [if_pos (any_of_digits hds r), dropWhile_digits hds.2 hr]
  rcases hs with rfl | rfl | rfl
  · -- Without a sign a digit comes first, which is no sign.
    have hany := any_of_digits hds r
    unfold skipPower
    simp only [List.nil_append]
    split
    · rename_i rest heq
      simp [heq] at hany
    · rename_i rest heq
      simp [heq] at hany
    · exact hdigits
  · exact hdigits
  · exact hdigits

theorem powerText_of_skipAfterDigits {s r : List Char} (h : skipAfterDigits s = .ok r) :
    ∃ p, s = p ++ r ∧ PowerText p := by
  unfold skipAfterDigits at h
  split at h
  · obtain ⟨sign, ds, rfl, hsign, hds⟩ := powerText_of_skipPower h
    exact ⟨_, by simp, .power (.inl rfl) hsign hds⟩
  · obtain ⟨sign, ds, rfl, hsign, hds⟩ := powerText_of_skipPower h
    exact ⟨_, by simp, .power (.inr rfl) hsign hds⟩
  · cases h
    exact ⟨[], rfl, .none⟩

theorem skipAfterDigits_append {p r : List Char} (hp : PowerText p) (hr : Stops r) :
    skipAfterDigits (p ++ r) = .ok r := by
  cases hp with
  | none =>
    unfold skipAfterDigits
    split
    · rename_i rest heq
      obtain rfl : r = 'e' :: rest := heq
      exact absurd hr (not_stops_cons (by simp) rest)
    · rename_i rest heq
      obtain rfl : r = 'E' :: rest := heq
      exact absurd hr (not_stops_cons (by simp) rest)
    · rfl
  | @power e s ds he hs hds =>
    have hpower := skipPower_append hs hds hr.noDigit
    rw [List.cons_append, List.append_assoc]
    rcases he with rfl | rfl
    · exact hpower
    · exact hpower

theorem PowerText.noDigit {p r : List Char} (hp : PowerText p) (hr : Stops r) :
    NoDigit (p ++ r) := by
  cases hp with
  | none => exact hr.noDigit
  | power he =>
    intro c hc
    simp only [List.cons_append, List.head?_cons, Option.mem_some_iff] at hc
    rcases he with rfl | rfl <;> rw [← hc] <;> rfl

theorem fractionText_of_skipAfterWhole {s r : List Char} (h : skipAfterWhole s = .ok r) :
    ∃ f p, s = f ++ (p ++ r) ∧ FractionText f ∧ PowerText p := by
  unfold skipAfterWhole at h
  split at h
  · rename_i rest
    split at h
    · rename_i hany
      obtain ⟨ds, hrest, hds⟩ := digits_of_any hany
      obtain ⟨p, hp, hpower⟩ := powerText_of_skipAfterDigits h
      exact ⟨'.' :: ds, p, by rw [hrest, hp]; rfl, .point hds, hpower⟩
    · cases h
  · obtain ⟨p, rfl, hpower⟩ := powerText_of_skipAfterDigits h
    exact ⟨[], p, rfl, .none, hpower⟩

theorem skipAfterWhole_append {f p r : List Char} (hf : FractionText f) (hp : PowerText p)
    (hr : Stops r) : skipAfterWhole (f ++ (p ++ r)) = .ok r := by
  cases hf with
  | none =>
    rw [List.nil_append, ← skipAfterDigits_append hp hr]
    unfold skipAfterWhole
    split
    · -- Neither a power nor what follows a number begins with a point.
      rename_i rest heq
      cases hp with
      | none =>
        obtain rfl : r = '.' :: rest := heq
        exact absurd hr (not_stops_cons (by simp) rest)
      | power he =>
        simp only [List.cons_append, List.cons.injEq] at heq
        rcases he with rfl | rfl <;> exact absurd heq.1 (by decide)
    · rfl
  | @point ds hds =>
    rw [List.cons_append, skipAfterWhole, if_pos (any_of_digits hds _),
      dropWhile_digits hds.2 (hp.noDigit hr), skipAfterDigits_append hp hr]

theorem numberText_of_skipNumber {s r : List Char} (h : skipNumber s = .ok r) :
    ∃ c, s = c ++ r ∧ NumberText c := by
  unfold skipNumber at h
  split at h
  · split at h
    · cases h
    · obtain ⟨f, p, rfl, hf, hp⟩ := fractionText_of_skipAfterWhole h
      exact ⟨_, by simp, .parts .zero hf hp⟩
  · rename_i hzero
    split at h
    · rename_i hany
      obtain ⟨ds, hs, hds⟩ := digits_of_any hany
      obtain ⟨f, p, hrest, hf, hp⟩ := fractionText_of_skipAfterWhole h
      obtain ⟨c, ds, rfl⟩ := List.exists_cons_of_ne_nil hds.1
      have hc : c ≠ '0' := by
        rintro rfl
        exact hzero _ hs
      exact ⟨_, by rw [hs, hrest]; simp, .parts (.digits hc hds) hf hp⟩
    · cases h

theorem FractionText.noDigit {f p r : List Char} (hf : FractionText f) (hp : PowerText p)
    (hr : Stops r) : NoDigit (f ++ (p ++ r)) := by
  cases hf with
  | none => exact hp.noDigit hr
  | point =>
    intro c hc
    simp only [List.cons_append, List.head?_cons, Option.mem_some_iff] at hc
    rw [← hc]
    rfl

theorem skipNumber_append {c r : List Char} (hc : NumberText c) (hr : Stops r) :
    skipNumber (c ++ r) = .ok r := by
  cases hc with
  | @parts w f p hw hf hp =>
    have hbehind := hf.noDigit hp hr
    have hskip := skipAfterWhole_append hf hp hr
    rw [List.append_assoc, List.append_assoc]
    cases hw with
    | zero => rw [List.singleton_append, skipNumber, if_neg hbehind.not_any, hskip]
    | @digits a ds ha hds =>
      rw [← dropWhile_digits hds.2 hbehind] at hskip
      unfold skipNumber
      split
      · rename_i rest heq
        exact absurd (List.cons.inj heq).1 ha
      · rw [if_pos (any_of_digits hds _), hskip]

/-! ## Strings -/

/-- The text of a string and the closing quote. An escape may be half of a pair. -/
inductive QuotedText : List Char → Prop
  | close : QuotedText ['"']
  | plain {c cs} (hquote : c ≠ '"') (hslash : c ≠ '\\') (hcontrol : ¬ c.toNat < 0x20)
      (h : QuotedText cs) : QuotedText (c :: cs)
  | short {e cs} (he : (shortEscape? e).isSome = true) (h : QuotedText cs) :
      QuotedText ('\\' :: e :: cs)
  | unit {hs n cs} (hhs : UnitText hs n) (h : QuotedText cs) :
      QuotedText ('\\' :: 'u' :: (hs ++ cs))

theorem quotedText_of_skipString {bound s r : List Char} (h : skipString bound s = .ok r) :
    ∃ k, s = k ++ r ∧ QuotedText k := by
  induction bound generalizing s with
  | nil => cases h
  | cons b bound ih =>
    cases s with
    | nil => cases h
    | cons c s =>
      unfold skipString at h
      split at h
      · rename_i hc
        cases h
        exact ⟨['"'], by rw [hc]; rfl, .close⟩
      · rename_i hquote
        split at h
        · rename_i hslash
          split at h
          · cases h
          · rename_i e rest
            split at h
            · rename_i he
              obtain ⟨k, rfl, hk⟩ := ih h
              exact ⟨_, by simp [hslash], .short he hk⟩
            · split at h
              · rename_i hu
                split at h
                · rename_i n rest' hunit
                  obtain ⟨hs, rfl, hhs⟩ := unitText_of_codeUnit hunit
                  obtain ⟨k, rfl, hk⟩ := ih h
                  exact ⟨_, by simp [hslash, hu], .unit hhs hk⟩
                · cases h
              · cases h
        · rename_i hslash
          split at h
          · cases h
          · rename_i hcontrol
            obtain ⟨k, rfl, hk⟩ := ih h
            exact ⟨c :: k, rfl, .plain hquote hslash hcontrol hk⟩

/-- A bound that is longer than `n` has one more round, and is still that long behind it. -/
theorem round_of_lt {n : Nat} {bound : List Char} (h : n < bound.length) :
    ∃ b rest, bound = b :: rest ∧ n ≤ rest.length := by
  obtain ⟨b, rest, rfl⟩ := List.exists_cons_of_length_pos (Nat.zero_lt_of_lt h)
  exact ⟨b, rest, rfl, Nat.le_of_lt_succ h⟩

theorem skipString_append {k : List Char} (hk : QuotedText k) (bound r : List Char)
    (hbound : k.length ≤ bound.length) : skipString bound (k ++ r) = .ok r := by
  induction hk generalizing bound with
  | close =>
    obtain ⟨b, bound, rfl, -⟩ := round_of_lt hbound
    simp [skipString]
  | @plain c cs hquote hslash hcontrol _ ih =>
    obtain ⟨b, bound, rfl, hle⟩ := round_of_lt hbound
    rw [List.cons_append, skipString.eq_def]
    simp only [if_neg hquote, if_neg hslash, if_neg hcontrol, ih _ hle]
  | @short e cs he _ ih =>
    obtain ⟨b, bound, rfl, hle⟩ := round_of_lt (Nat.lt_of_succ_lt hbound)
    rw [List.cons_append, List.cons_append, skipString.eq_def]
    simp only [he, ih _ hle, if_neg (show ¬ '\\' = '"' by decide), if_true]
  | @unit hs n cs hhs _ ih =>
    have hlt : cs.length < bound.length := by
      simp only [List.length_cons, List.length_append] at hbound
      omega
    obtain ⟨b, bound, rfl, hle⟩ := round_of_lt hlt
    have hu : ¬ (shortEscape? 'u').isSome = true := by decide
    rw [List.cons_append, List.cons_append, List.append_assoc, skipString.eq_def]
    simp only [if_neg hu, if_neg (show ¬ '\\' = '"' by decide), if_true, codeUnit_append hhs,
      ih _ hle]

end YardConsole.Json
