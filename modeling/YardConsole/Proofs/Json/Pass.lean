import YardConsole.Proofs.Json.Line

/-! # What holds of all texts of values

One induction over the texts that are read and one over those that are written, for any property
that goes along with how they are put together.
-/

namespace YardConsole.Json

def isAtom (c : Char) : Bool :=
  isNumeral c || isSpace c || c ∈ [',', ':', 'n', 'u', 'l', 't', 'r', 'f', 'a', 's']

/-- A property of texts that goes along with how the texts of values are put together. -/
structure Passes (p : List Char → Prop) : Prop where
  atoms : ∀ {cs}, (∀ c ∈ cs, isAtom c = true) → p cs
  append : ∀ {cs ds}, p cs → p ds → p (cs ++ ds)
  string : ∀ {cs xs}, StringText cs xs → p ('"' :: cs)
  list : ∀ {cs}, p cs → p ('[' :: (cs ++ [']']))
  object : ∀ {cs}, p cs → p ('{' :: (cs ++ ['}']))

variable {p : List Char → Prop} {α σ : Type}

theorem isAtom_of_isNumeral {c : Char} (h : isNumeral c = true) : isAtom c = true := by
  simp [isAtom, h]

theorem isAtom_of_isSpace {c : Char} (h : isSpace c = true) : isAtom c = true := by
  simp [isAtom, h]

namespace Passes

theorem nil (h : Passes p) : p [] := h.atoms (by simp)

theorem spaces (h : Passes p) {s : List Char} (hs : Spaces s) : p s :=
  h.atoms fun c hc => isAtom_of_isSpace (hs c hc)

theorem numerals (h : Passes p) {cs : List Char} (hcs : ∀ c ∈ cs, isNumeral c = true) : p cs :=
  h.atoms fun c hc => isAtom_of_isNumeral (hcs c hc)

theorem comma (h : Passes p) : p [','] := h.atoms (by simp [isAtom])

theorem colon (h : Passes p) : p [':'] := h.atoms (by simp [isAtom])

theorem null (h : Passes p) : p ['n', 'u', 'l', 'l'] := h.atoms (by simp [isAtom])

theorem yes (h : Passes p) : p ['t', 'r', 'u', 'e'] := h.atoms (by simp [isAtom, isNumeral])

theorem no (h : Passes p) : p ['f', 'a', 'l', 's', 'e'] := h.atoms (by simp [isAtom, isNumeral])

/-! ## Texts that are read -/

theorem items (h : Passes p) {P : List Char → α → Prop} (hP : ∀ c x, P c x → p c)
    {t : List Char} {xs : List α} (ht : ItemsText P t xs) : ∃ cs, t = cs ++ [']'] ∧ p cs := by
  induction ht with
  | @last c x s hx hs => exact ⟨c ++ s, by simp, h.append (hP c x hx) (h.spaces hs)⟩
  | @more c x s s' t xs hx hs hs' _ ih =>
    obtain ⟨cs, rfl, hcs⟩ := ih
    refine ⟨c ++ (s ++ ([','] ++ (s' ++ cs))), by simp, h.append (hP c x hx) ?_⟩
    exact h.append (h.spaces hs) (h.append h.comma (h.append (h.spaces hs') hcs))

theorem listText (h : Passes p) {P : List Char → α → Prop} (hP : ∀ c x, P c x → p c)
    {t : List Char} {xs : List α} (ht : ListText P t xs) : p ('[' :: t) := by
  cases ht with
  | empty hs => exact h.list (h.spaces hs)
  | items hs hxs =>
    obtain ⟨cs, rfl, hcs⟩ := h.items hP hxs
    rw [← List.append_assoc]
    exact h.list (h.append (h.spaces hs) hcs)

theorem members (h : Passes p) {Q : String → σ → List Char → σ → Prop}
    (hQ : ∀ key a c b, Q key a c b → p c) {t : List Char} {a b : σ} (ht : MembersText Q a t b) :
    ∃ cs, t = cs ++ ['}'] ∧ p cs := by
  induction ht with
  | @last k key c a b s hk hm hs =>
    refine ⟨'"' :: k ++ (c ++ s), by simp, h.append (h.string hk) ?_⟩
    exact h.append (hQ _ _ _ _ hm) (h.spaces hs)
  | @more k key c a b b' s s' t hk hm hs hs' _ ih =>
    obtain ⟨cs, rfl, hcs⟩ := ih
    refine ⟨'"' :: k ++ (c ++ (s ++ ([','] ++ (s' ++ cs)))), by simp, h.append (h.string hk) ?_⟩
    exact h.append (hQ _ _ _ _ hm)
      (h.append (h.spaces hs) (h.append h.comma (h.append (h.spaces hs') hcs)))

theorem objectText (h : Passes p) {Q : String → σ → List Char → σ → Prop}
    (hQ : ∀ key a c b, Q key a c b → p c) {t : List Char} {a b : σ} (ht : ObjectText Q a t b) :
    ∃ cs, t = cs ++ ['}'] ∧ p cs := by
  cases ht with
  | empty hs => exact ⟨_, rfl, h.spaces hs⟩
  | members hs hms =>
    obtain ⟨cs, rfl, hcs⟩ := h.members hQ hms
    exact ⟨_, (List.append_assoc ..).symm, h.append (h.spaces hs) hcs⟩

theorem plainText (h : Passes p) {V : List Char → Json → Prop} (hV : ∀ c x, V c x → p c)
    {key : String} {a b : List (String × Json)} {c : List Char} (hc : PlainText V key a c b) :
    p c := by
  cases hc with
  | colon hs hs' hv =>
    exact h.append (h.spaces hs) (h.append h.colon (h.append (h.spaces hs') (hV _ _ hv)))

theorem stepText (h : Passes p) {inner : Option (List Char → Json → Prop)}
    (hinner : ∀ V, inner = some V → ∀ c x, V c x → p c) {c : List Char} {j : Json}
    (hc : StepText inner c j) : p c := by
  cases hc with
  | null => exact h.null
  | yes => exact h.yes
  | no => exact h.no
  | negative hn =>
    refine h.numerals fun c hc => ?_
    rcases List.mem_cons.mp hc with rfl | hc
    · rfl
    · exact hn.numeral c hc
  | natural _ hn => exact h.numerals hn.numeral
  | string hs => exact h.string hs
  | list heq hxs => exact h.listText (hinner _ heq) hxs
  | object heq hms =>
    obtain ⟨cs, rfl, hcs⟩ := h.objectText (fun _ _ _ _ => h.plainText (hinner _ heq)) hms
    exact h.object hcs

theorem valueText (h : Passes p) (depth : Nat) {c : List Char} {j : Json}
    (hc : ValueText depth c j) : p c := by
  induction depth generalizing c j with
  | zero =>
    refine h.stepText ?_ hc
    intro V hV
    cases hV
  | succ depth ih =>
    refine h.stepText ?_ hc
    intro V hV c x hx
    obtain rfl := Option.some.inj hV
    exact ih hx

/-! ## Texts that are written -/

theorem key (h : Passes p) (k : String) : p (stringText k) :=
  h.string (stringText_flatMap k.toList)

theorem lineItems (h : Passes p) {xs : List Json} (hxs : ∀ x ∈ xs, p (line x)) :
    ∃ cs, lineItems xs = cs ++ [']'] ∧ p cs := by
  induction xs with
  | nil => exact ⟨[], rfl, h.nil⟩
  | cons x xs ih =>
    obtain ⟨cs, hline, hcs⟩ := ih fun y hy => hxs y (by simp [hy])
    refine ⟨[','] ++ (line x ++ cs), ?_, h.append h.comma (h.append (hxs x (by simp)) hcs)⟩
    rw [lineItems_cons, hline]
    simp

theorem lineMembers (h : Passes p) {ms : List (String × Json)} (hms : ∀ m ∈ ms, p (line m.2)) :
    ∃ cs, lineMembers ms = cs ++ ['}'] ∧ p cs := by
  induction ms with
  | nil => exact ⟨[], rfl, h.nil⟩
  | cons m ms ih =>
    obtain ⟨k, x⟩ := m
    obtain ⟨cs, hline, hcs⟩ := ih fun y hy => hms y (by simp [hy])
    have hx : p (line x) := hms (k, x) (by simp)
    refine ⟨[','] ++ (stringText k ++ ([':'] ++ (line x ++ cs))), ?_, ?_⟩
    · rw [lineMembers_cons, hline]
      simp
    · exact h.append h.comma (h.append (h.key k) (h.append h.colon (h.append hx hcs)))

theorem line_arr (h : Passes p) {xs : List Json} (hxs : ∀ x ∈ xs, p (line x)) :
    ∃ cs, line (.arr xs) = '[' :: (cs ++ [']']) ∧ p cs := by
  cases xs with
  | nil => exact ⟨[], rfl, h.nil⟩
  | cons x xs =>
    obtain ⟨cs, hline, hcs⟩ := h.lineItems fun y (hy : y ∈ xs) => hxs y (by simp [hy])
    refine ⟨line x ++ cs, ?_, h.append (hxs x (by simp)) hcs⟩
    rw [line_arr_cons, hline, ← List.append_assoc]

theorem line_obj (h : Passes p) {ms : List (String × Json)} (hms : ∀ m ∈ ms, p (line m.2)) :
    ∃ cs, line (.obj ms) = '{' :: (cs ++ ['}']) ∧ p cs := by
  cases ms with
  | nil => exact ⟨[], rfl, h.nil⟩
  | cons m ms =>
    obtain ⟨k, x⟩ := m
    obtain ⟨cs, hline, hcs⟩ := h.lineMembers fun y (hy : y ∈ ms) => hms y (by simp [hy])
    have hx : p (line x) := hms (k, x) (by simp)
    refine ⟨stringText k ++ ([':'] ++ (line x ++ cs)), ?_, ?_⟩
    · rw [line_obj_cons, hline]
      simp
    · exact h.append (h.key k) (h.append h.colon (h.append hx hcs))

theorem line (h : Passes p) (j : Json) : p (line j) := by
  induction j with
  | null => exact h.null
  | bool b =>
    cases b with
    | true => exact h.yes
    | false => exact h.no
  | int n => exact h.numerals (isNumeral_intText n)
  | float x =>
    change p (floatText x)
    rcases floatText_cases x with hnull | hnumeral
    · rw [hnull]
      exact h.null
    · exact h.numerals hnumeral
  | str s => exact h.key s
  | arr xs ih =>
    obtain ⟨cs, hline, hcs⟩ := h.line_arr ih
    rw [hline]
    exact h.list hcs
  | obj ms ih =>
    obtain ⟨cs, hline, hcs⟩ := h.line_obj ih
    rw [hline]
    exact h.object hcs

end Passes

end YardConsole.Json
