import YardConsole.Command.Embedded
import YardConsole.Proofs.Json.Value

/-! # Objects in other text -/

namespace YardConsole.Embedded

/-! ## The first brace -/

def ObjectAtBrace (cs : List Char) (j : Json) : Prop :=
  (∃ members, j = .obj members) ∧ ∃ before behind, cs = before ++ '{' :: behind ∧
    '{' ∉ before ∧ Json.startValue? ('{' :: behind) = some j

theorem before_append_fromBrace (cs : List Char) : before cs ++ fromBrace cs = cs :=
  List.takeWhile_append_dropWhile

theorem not_mem_before (cs : List Char) : '{' ∉ before cs := by
  intro h
  simpa using List.mem_takeWhile_imp h

theorem fromBrace_cases (cs : List Char) :
    fromBrace cs = [] ∨ ∃ behind, fromBrace cs = '{' :: behind := by
  cases h : fromBrace cs with
  | nil => exact .inl rfl
  | cons c behind =>
    rw [fromBrace] at h
    have hhead := Text.head_dropWhile (· ≠ '{') cs c (by rw [h]; rfl)
    obtain rfl : c = '{' := by simpa using hhead
    exact .inr ⟨behind, rfl⟩

theorem fromBrace_fromBrace (cs : List Char) : fromBrace (fromBrace cs) = fromBrace cs := by
  rcases fromBrace_cases cs with h | ⟨behind, h⟩
  · rw [h]
    rfl
  · rw [h]
    rfl

theorem objectAtBrace_of_value {cs : List Char} {j : Json}
    (h : atFirstBrace (fromBrace cs) = .value j) : ObjectAtBrace cs j := by
  rw [atFirstBrace, fromBrace_fromBrace] at h
  rcases fromBrace_cases cs with hnil | ⟨behind, hbrace⟩
  · rw [hnil] at h
    cases h
  · rw [hbrace] at h
    have hread : Json.startValue? ('{' :: behind) = some j := by
      unfold Json.startValue?
      unfold Json.readStart at h
      cases hvalue : Json.value Json.maxDepth ('{' :: behind) with
      | error f => simp [hvalue] at h
      | ok read => simpa [hvalue] using h
    refine ⟨Json.startValue?_brace hread, before cs, behind, ?_, not_mem_before cs, hread⟩
    rw [← hbrace, before_append_fromBrace]

section

variable {p cs : List Char}

theorem ne_brace_of_free (hp : '{' ∉ p) : ∀ c ∈ p, decide (c ≠ '{') = true := by
  intro c hc
  rw [decide_eq_true_eq]
  rintro rfl
  exact hp hc

theorem before_of_free (hp : '{' ∉ p) : before p = p :=
  List.takeWhile_eq_self_iff.mpr (ne_brace_of_free hp)

theorem before_append (hp : '{' ∉ p) : before (p ++ '{' :: cs) = p := by
  rw [before, List.takeWhile_append_of_pos (ne_brace_of_free hp),
    List.takeWhile_cons_of_neg (by decide), List.append_nil]

theorem fromBrace_append (hp : '{' ∉ p) : fromBrace (p ++ '{' :: cs) = '{' :: cs := by
  rw [fromBrace, List.dropWhile_append_of_pos (ne_brace_of_free hp),
    List.dropWhile_cons_of_neg (by decide)]

theorem atFirstBrace_append (hp : '{' ∉ p) {j : Json}
    (h : Json.startValue? ('{' :: cs) = some j) : atFirstBrace (p ++ '{' :: cs) = .value j := by
  obtain ⟨r, hread⟩ := Json.startValue?_eq_some h
  simp only [atFirstBrace, fromBrace_append hp, Json.readStart, hread]

end

/-! ## The first that can be read -/

theorem firstObject?_cons_of_ne {c : Char} {rest : List Char} (hc : c ≠ '{') :
    firstObject? (c :: rest) = firstObject? rest := by
  rw [firstObject?, if_neg hc]

theorem firstObject?_eq_some_iff (cs : List Char) (j : Json) :
    firstObject? cs = some j ↔ ∃ before behind, cs = before ++ '{' :: behind ∧
      Json.startValue? ('{' :: behind) = some j ∧
      ∀ a b, before = a ++ '{' :: b → Json.startValue? ('{' :: (b ++ '{' :: behind)) = none := by
  induction cs with
  | nil => simp [firstObject?]
  | cons c rest ih =>
    constructor
    · intro h
      rw [firstObject?] at h
      split at h
      · rename_i hc
        subst hc
        split at h
        · rename_i found hfound
          obtain rfl : found = j := by simpa using h
          exact ⟨[], rest, rfl, hfound, by simp⟩
        · rename_i hnone
          obtain ⟨before, behind, rfl, hread, hearlier⟩ := ih.mp h
          refine ⟨'{' :: before, behind, rfl, hread, ?_⟩
          intro a b hab
          cases a with
          | nil =>
            obtain rfl : before = b := by simpa using hab
            exact hnone
          | cons x a =>
            simp only [List.cons_append, List.cons.injEq] at hab
            exact hearlier a b hab.2
      · obtain ⟨before, behind, rfl, hread, hearlier⟩ := ih.mp h
        refine ⟨c :: before, behind, rfl, hread, ?_⟩
        rename_i hc
        intro a b hab
        cases a with
        | nil => simp [hc] at hab
        | cons x a =>
          simp only [List.cons_append, List.cons.injEq] at hab
          exact hearlier a b hab.2
    · rintro ⟨before, behind, hcs, hread, hearlier⟩
      cases before with
      | nil =>
        simp only [List.nil_append, List.cons.injEq] at hcs
        obtain ⟨rfl, rfl⟩ := hcs
        rw [firstObject?, if_pos rfl, hread]
      | cons x before =>
        simp only [List.cons_append, List.cons.injEq] at hcs
        obtain ⟨rfl, rfl⟩ := hcs
        have hrest := ih.mpr ⟨before, behind, rfl, hread,
          fun a b hab => hearlier (c :: a) b (by rw [hab]; rfl)⟩
        by_cases hc : c = '{'
        · subst hc
          rw [firstObject?, if_pos rfl, hearlier [] before rfl]
          exact hrest
        · rw [firstObject?_cons_of_ne hc, hrest]

theorem firstObject?_append {p cs : List Char} (hp : '{' ∉ p) {j : Json}
    (h : Json.startValue? ('{' :: cs) = some j) : firstObject? (p ++ '{' :: cs) = some j := by
  refine (firstObject?_eq_some_iff _ _).mpr ⟨p, cs, rfl, h, ?_⟩
  rintro a b rfl
  exact absurd (by simp) hp

end YardConsole.Embedded
