import YardConsole.Json.Reader
import YardConsole.Proofs.Json.Number
import YardConsole.Proofs.Json.Quoted

/-! # The texts of lists and objects

A grammar that goes along with the loops of the reader, over any reader of their parts: what a loop
has read is such a text, and each such text is read, whatever stands behind it.
-/

namespace YardConsole.Json

variable {α σ : Type}

/-! ## Blanks and words -/

def Spaces (s : List Char) : Prop := ∀ c ∈ s, isSpace c = true

theorem spaces_nil : Spaces [] := by simp [Spaces]

theorem Spaces.append {s t : List Char} (hs : Spaces s) (ht : Spaces t) : Spaces (s ++ t) := by
  intro c hc
  exact (List.mem_append.mp hc).elim (hs c) (ht c)

/-- No blank is next. -/
def Solid (s : List Char) : Prop := ∀ c ∈ s.head?, isSpace c = false

theorem skipSpace_of_solid {s : List Char} (h : Solid s) : skipSpace s = s :=
  Text.dropWhile_of_head h

theorem skipSpace_append {s t : List Char} (hs : Spaces s) (ht : Solid t) :
    skipSpace (s ++ t) = t := by
  rw [skipSpace, List.dropWhile_append_of_pos hs]
  exact skipSpace_of_solid ht

theorem spaces_append_skipSpace (s : List Char) :
    ∃ sp, s = sp ++ skipSpace s ∧ Spaces sp ∧ Solid (skipSpace s) :=
  ⟨s.takeWhile isSpace, List.takeWhile_append_dropWhile.symm,
    fun _ hc => List.mem_takeWhile_imp hc, Text.head_dropWhile isSpace s⟩

theorem stops_append {s r : List Char} (hs : Spaces s) (hr : Stops r) : Stops (s ++ r) := by
  cases s with
  | nil => exact hr
  | cons c s =>
    intro x hx
    obtain rfl : c = x := by simpa using hx
    have hc : isSpace c = true := hs c (by simp)
    simp only [isSpace, Bool.or_eq_true, beq_iff_eq] at hc
    rcases hc with ((rfl | rfl) | rfl) | rfl <;> exact ⟨rfl, by decide, by decide, by decide⟩

theorem word_eq_ok_iff (letters s r : List Char) : word letters s = .ok r ↔ s = letters ++ r := by
  induction letters generalizing s with
  | nil => simp [word]
  | cons l letters ih =>
    cases s with
    | nil => simp [word, failHere]
    | cons c s =>
      rw [word]
      split
      · rename_i hc
        simp [ih, hc]
      · rename_i hc
        simp [failAt, hc]

/-! ## Lists -/

inductive ItemsText (P : List Char → α → Prop) : List Char → List α → Prop
  | last {c x s} (hx : P c x) (hs : Spaces s) : ItemsText P (c ++ (s ++ [']'])) [x]
  | more {c x s s' t xs} (hx : P c x) (hs : Spaces s) (hs' : Spaces s')
      (ht : ItemsText P t xs) : ItemsText P (c ++ (s ++ ',' :: (s' ++ t))) (x :: xs)

inductive ListText (P : List Char → α → Prop) : List Char → List α → Prop
  | empty {s} (hs : Spaces s) : ListText P (s ++ [']']) []
  | items {s t xs} (hs : Spaces s) (ht : ItemsText P t xs) : ListText P (s ++ t) xs

/-- The reader reads the texts `P`, and only those, with blanks before them. -/
structure Reads (item : List Char → Read α) (P : List Char → α → Prop) : Prop where
  sound : ∀ s x r, item s = .ok (x, r) → ∃ sp c, s = sp ++ (c ++ r) ∧ Spaces sp ∧ P c x
  takes : ∀ c x, P c x → ∀ sp r, Spaces sp → Stops r → item (sp ++ (c ++ r)) = .ok (x, r)
  begins : ∀ c x, P c x → ∃ a t, c = a :: t ∧ isSpace a = false ∧ a ≠ ']'

variable {item : List Char → Read α} {P : List Char → α → Prop}

theorem Reads.sound_solid (h : Reads item P) {s r : List Char} {x : α} (hs : Solid s)
    (hread : item s = .ok (x, r)) : ∃ c, s = c ++ r ∧ P c x := by
  obtain ⟨sp, c, rfl, hsp, hx⟩ := h.sound s x r hread
  cases sp with
  | nil => exact ⟨c, rfl, hx⟩
  | cons a sp =>
    have ha : isSpace a = true := hsp a (by simp)
    rw [hs a (by simp)] at ha
    cases ha

theorem itemsText_of_itemsFrom (h : Reads item P) {done : List α} {bound s r : List Char}
    {xs : List α} (hs : Solid s) (hread : itemsFrom item done bound s = .ok (xs, r)) :
    ∃ t ys, s = t ++ r ∧ ItemsText P t ys ∧ xs = done.reverse ++ ys := by
  induction bound generalizing done s with
  | nil => cases hread
  | cons b bound ih =>
    rw [itemsFrom] at hread
    split at hread
    · cases hread
    · rename_i x rest hitem
      obtain ⟨c, rfl, hx⟩ := h.sound_solid hs hitem
      obtain ⟨sp, hrest, hsp, -⟩ := spaces_append_skipSpace rest
      split at hread
      · cases hread
      · rename_i rest' hskip
        cases hread
        rw [hskip] at hrest
        exact ⟨_, [x], by rw [hrest]; simp, .last hx hsp, by simp⟩
      · rename_i rest' hskip
        rw [hskip] at hrest
        obtain ⟨sp', hrest', hsp', hsolid⟩ := spaces_append_skipSpace rest'
        split at hread
        · cases hread
        · cases hread
        · obtain ⟨t, ys, ht, hys, rfl⟩ := ih hsolid hread
          refine ⟨_, x :: ys, ?_, .more hx hsp hsp' hys, by simp⟩
          rw [hrest, hrest', ht]
          simp
      · cases hread

theorem listText_of_items (h : Reads item P) {s r : List Char} {xs : List α}
    (hread : items item s = .ok (xs, r)) : ∃ t, s = t ++ r ∧ ListText P t xs := by
  obtain ⟨sp, hs, hsp, hsolid⟩ := spaces_append_skipSpace s
  unfold items at hread
  split at hread
  · cases hread
  · rename_i rest hskip
    cases hread
    rw [hskip] at hs
    exact ⟨sp ++ [']'], by rw [hs]; simp, .empty hsp⟩
  · obtain ⟨t, ys, ht, hys, rfl⟩ := itemsText_of_itemsFrom h hsolid hread
    refine ⟨sp ++ t, ?_, .items hsp hys⟩
    rw [hs, ht]
    simp

theorem ItemsText.begins (h : Reads item P) {t : List Char} {xs : List α} (ht : ItemsText P t xs) :
    ∃ a t', t = a :: t' ∧ isSpace a = false ∧ a ≠ ']' := by
  cases ht with
  | last hx =>
    obtain ⟨a, c, rfl, ha⟩ := h.begins _ _ hx
    exact ⟨a, _, rfl, ha⟩
  | more hx =>
    obtain ⟨a, c, rfl, ha⟩ := h.begins _ _ hx
    exact ⟨a, _, rfl, ha⟩

theorem solid_cons {a : Char} (ha : isSpace a = false) (r : List Char) : Solid (a :: r) := by
  intro b hb
  obtain rfl : a = b := by simpa using hb
  exact ha

theorem stops_cons {a : Char} (ha : a = ',' ∨ a = ']' ∨ a = '}') (r : List Char) :
    Stops (a :: r) := by
  intro b hb
  obtain rfl : a = b := by simpa using hb
  rcases ha with rfl | rfl | rfl <;> exact ⟨rfl, by decide, by decide, by decide⟩

theorem itemsFrom_append (h : Reads item P) {t : List Char} {xs : List α}
    (ht : ItemsText P t xs) (done : List α) (bound r : List Char)
    (hbound : t.length ≤ bound.length) :
    itemsFrom item done bound (t ++ r) = .ok (done.reverse ++ xs, r) := by
  -- Each item is written with at least its comma, so the bound outlasts them.
  induction ht generalizing done bound with
  | @last c x s hx hs =>
    simp only [List.length_append, List.length_cons] at hbound
    obtain ⟨b, bound, rfl⟩ := List.exists_cons_of_length_pos (show 0 < bound.length by omega)
    have htext : c ++ (s ++ [']']) ++ r = [] ++ (c ++ (s ++ ']' :: r)) := by simp
    rw [htext, itemsFrom, h.takes c x hx [] _ (by simp [Spaces])
      (stops_append hs (stops_cons (by simp) r))]
    simp only [skipSpace_append hs (solid_cons (rfl : isSpace ']' = false) r)]
    simp
  | @more c x s s' t xs hx hs hs' hxs ih =>
    simp only [List.length_append, List.length_cons] at hbound
    obtain ⟨b, bound, rfl⟩ := List.exists_cons_of_length_pos (show 0 < bound.length by omega)
    have htext : c ++ (s ++ ',' :: (s' ++ t)) ++ r =
        [] ++ (c ++ (s ++ ',' :: (s' ++ (t ++ r)))) := by simp
    have hle : t.length ≤ bound.length := by
      simp only [List.length_cons] at hbound
      omega
    rw [htext, itemsFrom, h.takes c x hx [] _ (by simp [Spaces])
      (stops_append hs (stops_cons (by simp) _))]
    obtain ⟨a, t', rfl, ha, hne⟩ := hxs.begins h
    simp only [skipSpace_append hs (solid_cons (rfl : isSpace ',' = false) _)]
    rw [List.cons_append, skipSpace_append hs' (solid_cons ha _)]
    split
    · rename_i hnil
      cases hnil
    · rename_i rest hclose
      exact absurd (List.cons.inj hclose).1 hne
    · rw [← List.cons_append, ih _ _ hle]
      simp

theorem items_append (h : Reads item P) {t : List Char} {xs : List α} (ht : ListText P t xs)
    (r : List Char) : items item (t ++ r) = .ok (xs, r) := by
  cases ht with
  | @empty s hs =>
    rw [Json.items, List.append_assoc, List.singleton_append,
      skipSpace_append hs (solid_cons (rfl : isSpace ']' = false) r)]
    rfl
  | @items s t xs hs hxs =>
    obtain ⟨a, t', rfl, ha, hne⟩ := hxs.begins h
    rw [Json.items, List.append_assoc, List.cons_append, skipSpace_append hs (solid_cons ha _)]
    split
    · rename_i hnil
      cases hnil
    · rename_i rest hclose
      exact absurd (List.cons.inj hclose).1 hne
    · rw [← List.cons_append, itemsFrom_append h hxs [] _ r (by simp)]
      simp

/-! ## Objects -/

theorem spaces_of_colon {s r : List Char} (h : colon s = .ok r) :
    ∃ sp, s = sp ++ ':' :: r ∧ Spaces sp := by
  obtain ⟨sp, hs, hsp, -⟩ := spaces_append_skipSpace s
  unfold colon at h
  split at h
  · cases h
  · rename_i rest hskip
    cases h
    rw [hskip] at hs
    exact ⟨sp, hs, hsp⟩
  · cases h

theorem colon_append {s : List Char} (hs : Spaces s) (r : List Char) :
    colon (s ++ ':' :: r) = .ok r := by
  rw [colon, skipSpace_append hs (solid_cons (rfl : isSpace ':' = false) r)]
  rfl

inductive MembersText (P : String → σ → List Char → σ → Prop) : σ → List Char → σ → Prop
  | last {k key c a b s} (hk : StringText k key.toList) (hm : P key a c b) (hs : Spaces s) :
      MembersText P a ('"' :: (k ++ (c ++ (s ++ ['}'])))) b
  | more {k key c a b b' s s' t} (hk : StringText k key.toList) (hm : P key a c b)
      (hs : Spaces s) (hs' : Spaces s') (ht : MembersText P b t b') :
      MembersText P a ('"' :: (k ++ (c ++ (s ++ ',' :: (s' ++ t))))) b'

inductive ObjectText (P : String → σ → List Char → σ → Prop) : σ → List Char → σ → Prop
  | empty {a s} (hs : Spaces s) : ObjectText P a (s ++ ['}']) a
  | members {a b s t} (hs : Spaces s) (ht : MembersText P a t b) : ObjectText P a (s ++ t) b

structure ReadsMember (member : String → σ → List Char → Read σ)
    (P : String → σ → List Char → σ → Prop) : Prop where
  sound : ∀ key a s b r, member key a s = .ok (b, r) → ∃ c, s = c ++ r ∧ P key a c b
  takes : ∀ key a c b, P key a c b → ∀ r, Stops r → member key a (c ++ r) = .ok (b, r)

variable {member : String → σ → List Char → Read σ} {Q : String → σ → List Char → σ → Prop}

theorem membersText_of_membersFrom (h : ReadsMember member Q) {bound s r : List Char} {a b : σ}
    (hread : membersFrom member bound a s = .ok (b, r)) :
    ∃ t, s = t ++ r ∧ MembersText Q a t b := by
  induction bound generalizing a s with
  | nil => cases hread
  | cons x bound ih =>
    unfold membersFrom at hread
    split at hread
    · rename_i heq
      cases heq
    · rename_i bound' state rest heq
      cases heq
      split at hread
      · cases hread
      · rename_i key rest hkey
        obtain ⟨k, rfl, hk⟩ := stringText_of_string hkey
        split at hread
        · cases hread
        · rename_i state' rest hmember
          obtain ⟨c, rfl, hc⟩ := h.sound _ _ _ _ _ hmember
          obtain ⟨sp, hrest, hsp, -⟩ := spaces_append_skipSpace rest
          split at hread
          · cases hread
          · rename_i rest' hskip
            cases hread
            rw [hskip] at hrest
            exact ⟨_, by rw [hrest]; simp, .last hk hc hsp⟩
          · rename_i rest' hskip
            rw [hskip] at hrest
            obtain ⟨sp', hrest', hsp', hsolid⟩ := spaces_append_skipSpace rest'
            split at hread
            · cases hread
            · cases hread
            · obtain ⟨t, ht, hmembers⟩ := ih hread
              refine ⟨_, ?_, .more hk hc hsp hsp' hmembers⟩
              rw [hrest, hrest', ht]
              simp
          · cases hread
    · cases hread

theorem objectText_of_members (h : ReadsMember member Q) {s r : List Char} {a b : σ}
    (hread : members member a s = .ok (b, r)) : ∃ t, s = t ++ r ∧ ObjectText Q a t b := by
  obtain ⟨sp, hs, hsp, hsolid⟩ := spaces_append_skipSpace s
  unfold members at hread
  split at hread
  · cases hread
  · rename_i rest hskip
    cases hread
    rw [hskip] at hs
    exact ⟨sp ++ ['}'], by rw [hs]; simp, .empty hsp⟩
  · obtain ⟨t, ht, hmembers⟩ := membersText_of_membersFrom h hread
    refine ⟨sp ++ t, ?_, .members hsp hmembers⟩
    rw [hs, ht]
    simp

theorem MembersText.begins {t : List Char} {a b : σ} (ht : MembersText Q a t b) :
    ∃ t', t = '"' :: t' := by
  cases ht with
  | last => exact ⟨_, rfl⟩
  | more => exact ⟨_, rfl⟩

theorem membersFrom_append (h : ReadsMember member Q) {t : List Char} {a b : σ}
    (ht : MembersText Q a t b) (bound r : List Char) (hbound : t.length ≤ bound.length) :
    membersFrom member bound a (t ++ r) = .ok (b, r) := by
  induction ht generalizing bound with
  | @last k key c a b s hk hm hs =>
    obtain ⟨x, bound, rfl⟩ := List.exists_cons_of_length_pos (Nat.lt_of_lt_of_le (by simp) hbound)
    have htext : '"' :: (k ++ (c ++ (s ++ ['}']))) ++ r =
        '"' :: (k ++ (c ++ (s ++ '}' :: r))) := by simp
    rw [htext, membersFrom, string_append hk]
    simp only
    rw [h.takes key a c b hm _ (stops_append hs (stops_cons (by simp) r))]
    simp only [skipSpace_append hs (solid_cons (rfl : isSpace '}' = false) r)]
  | @more k key c a b b' s s' t hk hm hs hs' hms ih =>
    obtain ⟨x, bound, rfl⟩ := List.exists_cons_of_length_pos (Nat.lt_of_lt_of_le (by simp) hbound)
    have htext : '"' :: (k ++ (c ++ (s ++ ',' :: (s' ++ t)))) ++ r =
        '"' :: (k ++ (c ++ (s ++ ',' :: (s' ++ (t ++ r))))) := by simp
    have hle : t.length ≤ bound.length := by
      simp only [List.length_append, List.length_cons] at hbound
      omega
    rw [htext, membersFrom, string_append hk]
    simp only
    rw [h.takes key a c b hm _ (stops_append hs (stops_cons (by simp) _))]
    obtain ⟨t', rfl⟩ := hms.begins
    simp only [skipSpace_append hs (solid_cons (rfl : isSpace ',' = false) _)]
    rw [List.cons_append, skipSpace_append hs' (solid_cons (rfl : isSpace '"' = false) _)]
    exact ih bound hle

theorem members_append (h : ReadsMember member Q) {t : List Char} {a b : σ}
    (ht : ObjectText Q a t b) (r : List Char) : members member a (t ++ r) = .ok (b, r) := by
  cases ht with
  | @empty s hs =>
    rw [Json.members, List.append_assoc, List.singleton_append,
      skipSpace_append hs (solid_cons (rfl : isSpace '}' = false) r)]
    rfl
  | @members _ s t hs hms =>
    obtain ⟨t', rfl⟩ := hms.begins
    rw [Json.members, List.append_assoc, List.cons_append,
      skipSpace_append hs (solid_cons (rfl : isSpace '"' = false) _)]
    exact membersFrom_append h hms _ r (by simp)

end YardConsole.Json
