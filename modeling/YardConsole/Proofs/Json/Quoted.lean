import YardConsole.Json.Scalar

/-! # The texts of strings

The texts end with the closing quote.
-/

namespace YardConsole.Json

/-! ## Escapes -/

structure UnitText (hs : List Char) (n : Nat) : Prop where
  hex : ∀ c ∈ hs, (hexValue? c).isSome = true
  reads : ∀ r, fourDigits? (hs ++ r) = some (n, r)

inductive EscapeText : List Char → Char → Prop
  | short {c e} (h : shortEscape? c = some e) : EscapeText [c] e
  | unit {hs n} (h : UnitText hs n) (hlow : Text.Surrogate.isLow n = false)
      (hhigh : Text.Surrogate.isHigh n = false) : EscapeText ('u' :: hs) (Char.ofNat n)
  | pair {hs hs' high low} (h : UnitText hs high) (h' : UnitText hs' low)
      (hnot : Text.Surrogate.isLow high = false) (hhigh : Text.Surrogate.isHigh high = true)
      (hlow : Text.Surrogate.isLow low = true) :
      EscapeText ('u' :: (hs ++ '\\' :: 'u' :: hs')) (Text.Surrogate.join high low)

theorem unitText_of_codeUnit {s r : List Char} {n : Nat} (h : codeUnit s = .ok (n, r)) :
    ∃ hs, s = hs ++ r ∧ UnitText hs n := by
  unfold codeUnit at h
  split at h
  · rename_i found hfound
    cases h
    unfold fourDigits? at hfound
    split at hfound
    · rename_i a b c d rest
      simp only [Option.bind_eq_bind, Option.bind_eq_some_iff, Option.some.injEq,
        Prod.mk.injEq] at hfound
      obtain ⟨a', ha, b', hb, c', hc, d', hd, rfl, rfl⟩ := hfound
      refine ⟨[a, b, c, d], rfl, ?_, fun r' => ?_⟩
      · simp [ha, hb, hc, hd]
      · simp [fourDigits?, ha, hb, hc, hd]
    · cases hfound
  · split at h <;> cases h

theorem codeUnit_append {hs : List Char} {n : Nat} (h : UnitText hs n) (r : List Char) :
    codeUnit (hs ++ r) = .ok (n, r) := by
  rw [codeUnit, h.reads r]

theorem unitText_of_lowSurrogate {high : Nat} {s r : List Char} {e : Char}
    (h : lowSurrogate high s = .ok (e, r)) :
    ∃ hs low, s = '\\' :: 'u' :: (hs ++ r) ∧ UnitText hs low ∧
      Text.Surrogate.isLow low = true ∧ e = Text.Surrogate.join high low := by
  unfold lowSurrogate at h
  split at h
  · cases h
  · cases h
  · rename_i rest
    split at h
    · rename_i low rest' hunit
      split at h
      · rename_i hlow
        simp only [Except.ok.injEq, Prod.mk.injEq] at h
        obtain ⟨rfl, rfl⟩ := h
        obtain ⟨hs, rfl, hs'⟩ := unitText_of_codeUnit hunit
        exact ⟨hs, low, rfl, hs', hlow, rfl⟩
      · cases h
    · cases h
  · cases h
  · cases h

theorem escapeText_of_escaped {s r : List Char} {e : Char} (h : escaped s = .ok (e, r)) :
    ∃ esc, s = esc ++ r ∧ EscapeText esc e := by
  cases s with
  | nil => cases h
  | cons c s =>
    rw [escaped] at h
    split at h
    · rename_i e' hshort
      cases h
      exact ⟨[c], rfl, .short hshort⟩
    · split at h
      · rename_i hc
        subst hc
        unfold codePoint at h
        split at h
        · rename_i n rest hunit
          obtain ⟨hs, rfl, hs'⟩ := unitText_of_codeUnit hunit
          split at h
          · cases h
          · rename_i hlow
            split at h
            · rename_i hhigh
              obtain ⟨hs₂, low, rfl, hs₂', hlow₂, he⟩ := unitText_of_lowSurrogate h
              refine ⟨'u' :: (hs ++ '\\' :: 'u' :: hs₂), by simp, ?_⟩
              rw [he]
              exact .pair hs' hs₂' (Bool.eq_false_iff.mpr hlow) hhigh hlow₂
            · rename_i hhigh
              simp only [Except.ok.injEq, Prod.mk.injEq] at h
              obtain ⟨rfl, rfl⟩ := h
              refine ⟨'u' :: hs, rfl, .unit hs' ?_ ?_⟩
              · exact Bool.eq_false_iff.mpr hlow
              · exact Bool.eq_false_iff.mpr hhigh
        · cases h
      · cases h

theorem escaped_append {esc : List Char} {e : Char} (h : EscapeText esc e) (r : List Char) :
    escaped (esc ++ r) = .ok (e, r) := by
  have hu : shortEscape? 'u' = none := rfl
  cases h with
  | short h => simp only [List.singleton_append, escaped, h]
  | unit h hlow hhigh =>
    rw [List.cons_append, escaped]
    simp only [hu, if_true, codePoint, codeUnit_append h, hlow, hhigh, Bool.false_eq_true,
      if_false]
  | @pair hs hs' high low h h' hnot hhigh hlow =>
    have happend : 'u' :: (hs ++ '\\' :: 'u' :: hs') ++ r =
        'u' :: (hs ++ ('\\' :: 'u' :: (hs' ++ r))) := by simp
    rw [happend, escaped]
    simp only [hu, if_true, codePoint, codeUnit_append h, hnot, hhigh, Bool.false_eq_true,
      if_false, lowSurrogate, codeUnit_append h', hlow]

/-! ## Strings -/

inductive StringText : List Char → List Char → Prop
  | close : StringText ['"'] []
  | plain {c cs xs} (hquote : c ≠ '"') (hslash : c ≠ '\\') (hcontrol : ¬ c.toNat < 0x20)
      (h : StringText cs xs) : StringText (c :: cs) (c :: xs)
  | escape {esc e cs xs} (he : EscapeText esc e) (h : StringText cs xs) :
      StringText ('\\' :: (esc ++ cs)) (e :: xs)

theorem stringText_of_characters {done bound s r : List Char} {x : String}
    (h : characters done bound s = .ok (x, r)) :
    ∃ cs xs, s = cs ++ r ∧ StringText cs xs ∧ x = String.ofList (done.reverse ++ xs) := by
  induction bound generalizing done s with
  | nil => cases h
  | cons b bound ih =>
    cases s with
    | nil => cases h
    | cons c s =>
      rw [characters] at h
      split at h
      · rename_i hc
        cases h
        exact ⟨['"'], [], by rw [hc]; rfl, .close, by simp⟩
      · rename_i hquote
        split at h
        · rename_i hslash
          split at h
          · rename_i e rest hescaped
            obtain ⟨esc, rfl, hesc⟩ := escapeText_of_escaped hescaped
            obtain ⟨cs, xs, rfl, hcs, rfl⟩ := ih h
            exact ⟨_, e :: xs, by simp [hslash], .escape hesc hcs, by simp⟩
          · cases h
        · rename_i hslash
          split at h
          · cases h
          · rename_i hcontrol
            obtain ⟨cs, xs, rfl, hcs, rfl⟩ := ih h
            exact ⟨c :: cs, c :: xs, rfl, .plain hquote hslash hcontrol hcs, by simp⟩

theorem characters_append {cs xs : List Char} (h : StringText cs xs) (done bound r : List Char)
    (hbound : cs.length ≤ bound.length) :
    characters done bound (cs ++ r) = .ok (String.ofList (done.reverse ++ xs), r) := by
  induction h generalizing done bound with
  | close =>
    obtain ⟨b, bound, rfl⟩ := List.exists_cons_of_length_pos (Nat.lt_of_lt_of_le (by simp) hbound)
    simp [characters]
  | @plain c cs xs hquote hslash hcontrol _ ih =>
    obtain ⟨b, bound, rfl⟩ := List.exists_cons_of_length_pos (Nat.lt_of_lt_of_le (by simp) hbound)
    rw [List.cons_append, characters, if_neg hquote, if_neg hslash, if_neg hcontrol,
      ih _ _ (by simpa using hbound)]
    simp
  | @escape esc e cs xs he _ ih =>
    obtain ⟨b, bound, rfl⟩ := List.exists_cons_of_length_pos (Nat.lt_of_lt_of_le (by simp) hbound)
    have hle : cs.length ≤ bound.length := by
      simp only [List.length_cons, List.length_append] at hbound
      omega
    rw [List.cons_append, List.append_assoc, characters, if_neg (by decide), if_pos rfl,
      escaped_append he]
    simp only [ih _ _ hle]
    simp

theorem stringText_of_string {s r : List Char} {x : String} (h : string s = .ok (x, r)) :
    ∃ cs, s = cs ++ r ∧ StringText cs x.toList := by
  obtain ⟨cs, xs, hs, htext, rfl⟩ := stringText_of_characters h
  exact ⟨cs, hs, by simpa using htext⟩

theorem string_append {cs : List Char} {x : String} (h : StringText cs x.toList)
    (r : List Char) : string (cs ++ r) = .ok (x, r) := by
  have hread := characters_append h [] (cs ++ r) r (by simp)
  rw [string, hread, List.reverse_nil, List.nil_append, String.ofList_toList]

end YardConsole.Json
