import YardConsole.Proofs.Json.SkipScalar
import YardConsole.Proofs.Json.Value

/-! # Texts that are passed over

The grammar of JSON, with no look at depth. What is passed over is such a text, and each such text
is passed over, whatever stands behind it.
-/

namespace YardConsole.Json

/-! ## Lists and objects -/

inductive LooseItems (V : List Char → Prop) : List Char → Prop
  | last {s c s'} (hs : Spaces s) (hc : V c) (hs' : Spaces s') :
      LooseItems V (s ++ (c ++ (s' ++ [']'])))
  | more {s c s' t} (hs : Spaces s) (hc : V c) (hs' : Spaces s') (ht : LooseItems V t) :
      LooseItems V (s ++ (c ++ (s' ++ ',' :: t)))

inductive LooseMember (V : List Char → Prop) : List Char → Prop
  | colon {s k s' s'' c sp} (hs : Spaces s) (hk : QuotedText k) (hs' : Spaces s')
      (hs'' : Spaces s'') (hc : V c) (hsp : Spaces sp) :
      LooseMember V (s ++ '"' :: (k ++ (s' ++ ':' :: (s'' ++ (c ++ sp)))))

inductive LooseMembers (V : List Char → Prop) : List Char → Prop
  | last {m} (hm : LooseMember V m) : LooseMembers V (m ++ ['}'])
  | more {m t} (hm : LooseMember V m) (ht : LooseMembers V t) : LooseMembers V (m ++ ',' :: t)

/-- The reader passes over the texts `V`, and only those, with blanks before them. -/
structure Skips (f : List Char → Skip) (V : List Char → Prop) : Prop where
  sound : ∀ s r, f s = .ok r → ∃ sp c, s = sp ++ (c ++ r) ∧ Spaces sp ∧ V c
  takes : ∀ c, V c → ∀ sp r, Spaces sp → Stops r → f (sp ++ (c ++ r)) = .ok r
  begins : ∀ c, V c → ∃ a t, c = a :: t ∧ isSpace a = false ∧ a ≠ ']'

variable {item : List Char → Skip} {V : List Char → Prop}

theorem looseItems_of_skipItems (hitem : Skips item V) {bound s r : List Char}
    (h : skipItems item bound s = .ok r) : ∃ t, s = t ++ r ∧ LooseItems V t := by
  induction bound generalizing s with
  | nil => cases h
  | cons b bound ih =>
    rw [skipItems] at h
    split at h
    · cases h
    · rename_i rest hread
      obtain ⟨sp, c, rfl, hsp, hc⟩ := hitem.sound _ _ hread
      obtain ⟨sp', hrest, hsp', -⟩ := spaces_append_skipSpace rest
      split at h
      · cases h
      · rename_i rest' hskip
        cases h
        rw [hskip] at hrest
        exact ⟨_, by rw [hrest]; simp, .last hsp hc hsp'⟩
      · rename_i rest' hskip
        obtain ⟨t, rfl, ht⟩ := ih h
        rw [hskip] at hrest
        exact ⟨_, by rw [hrest]; simp, .more hsp hc hsp' ht⟩
      · cases h

theorem skipItems_append (hitem : Skips item V) {t : List Char} (ht : LooseItems V t)
    (bound r : List Char) (hbound : t.length ≤ bound.length) :
    skipItems item bound (t ++ r) = .ok r := by
  induction ht generalizing bound with
  | @last s c s' hs hc hs' =>
    simp only [List.length_append, List.length_cons] at hbound
    obtain ⟨b, bound, rfl, -⟩ := round_of_lt (show 0 < bound.length by omega)
    have htext : s ++ (c ++ (s' ++ [']'])) ++ r = s ++ (c ++ (s' ++ ']' :: r)) := by simp
    rw [htext, skipItems, hitem.takes c hc s _ hs (stops_append hs' (stops_cons (by simp) r))]
    simp only [skipSpace_append hs' (solid_cons (rfl : isSpace ']' = false) r)]
  | @more s c s' t hs hc hs' _ ih =>
    simp only [List.length_append, List.length_cons] at hbound
    obtain ⟨b, bound, rfl, hle⟩ := round_of_lt (show t.length < bound.length by omega)
    have htext : s ++ (c ++ (s' ++ ',' :: t)) ++ r = s ++ (c ++ (s' ++ ',' :: (t ++ r))) := by
      simp
    rw [htext, skipItems, hitem.takes c hc s _ hs (stops_append hs' (stops_cons (by simp) _))]
    simp only [skipSpace_append hs' (solid_cons (rfl : isSpace ',' = false) _), ih _ hle]

theorem looseMembers_of_skipMembers (hitem : Skips item V) {bound s r : List Char}
    (h : skipMembers item bound s = .ok r) : ∃ t, s = t ++ r ∧ LooseMembers V t := by
  induction bound generalizing s with
  | nil => cases h
  | cons b bound ih =>
    obtain ⟨sp, hs, hsp, -⟩ := spaces_append_skipSpace s
    rw [skipMembers] at h
    split at h
    · cases h
    · rename_i rest hquote
      rw [hquote] at hs
      split at h
      · cases h
      · rename_i rest' hkey
        obtain ⟨k, rfl, hk⟩ := quotedText_of_skipString hkey
        split at h
        · cases h
        · rename_i rest'' hcolon
          obtain ⟨sp', rfl, hsp'⟩ := spaces_of_colon hcolon
          split at h
          · cases h
          · rename_i behind hread
            obtain ⟨sp'', c, rfl, hsp'', hc⟩ := hitem.sound _ _ hread
            obtain ⟨after, hbehind, hafter, -⟩ := spaces_append_skipSpace behind
            have hm := LooseMember.colon hsp hk hsp' hsp'' hc hafter
            split at h
            · cases h
            · rename_i rest hskip
              cases h
              rw [hskip] at hbehind
              exact ⟨_, by rw [hs, hbehind]; simp, .last hm⟩
            · rename_i rest hskip
              obtain ⟨t, rfl, ht⟩ := ih h
              rw [hskip] at hbehind
              exact ⟨_, by rw [hs, hbehind]; simp, .more hm ht⟩
            · cases h
    · cases h

theorem skipMembers_member (hitem : Skips item V) {m : List Char} (hm : LooseMember V m) (b : Char)
    (bound r : List Char) {d : Char} (hd : d = ',' ∨ d = '}') :
    skipMembers item (b :: bound) (m ++ d :: r) =
      if d = '}' then .ok r else skipMembers item bound r := by
  cases hm with
  | @colon s k s' s'' c sp hs hk hs' hs'' hc hsp =>
    have htext : s ++ '"' :: (k ++ (s' ++ ':' :: (s'' ++ (c ++ sp)))) ++ d :: r =
        s ++ '"' :: (k ++ (s' ++ ':' :: (s'' ++ (c ++ (sp ++ d :: r))))) := by simp
    have hstops : Stops (sp ++ d :: r) := stops_append hsp (stops_cons (hd.imp_right .inr) r)
    rw [htext, skipMembers, skipSpace_append hs (solid_cons (rfl : isSpace '"' = false) _)]
    simp only
    rw [skipString_append hk _ _ (by simp)]
    simp only
    rw [colon_append hs']
    simp only
    rw [hitem.takes c hc s'' _ hs'' hstops]
    rcases hd with rfl | rfl
    · simp only [skipSpace_append hsp (solid_cons (rfl : isSpace ',' = false) r)]
      rfl
    · simp only [skipSpace_append hsp (solid_cons (rfl : isSpace '}' = false) r)]
      rfl

theorem skipMembers_append (hitem : Skips item V) {t : List Char} (ht : LooseMembers V t)
    (bound r : List Char) (hbound : t.length ≤ bound.length) :
    skipMembers item bound (t ++ r) = .ok r := by
  induction ht generalizing bound with
  | @last m hm =>
    simp only [List.length_append, List.length_cons] at hbound
    obtain ⟨b, bound, rfl, -⟩ := round_of_lt (show 0 < bound.length by omega)
    rw [List.append_assoc, List.singleton_append]
    exact skipMembers_member hitem hm b bound r (.inr rfl)
  | @more m t hm _ ih =>
    simp only [List.length_append, List.length_cons] at hbound
    obtain ⟨b, bound, rfl, hle⟩ := round_of_lt (show t.length < bound.length by omega)
    rw [List.append_assoc, List.cons_append, skipMembers_member hitem hm b bound _ (.inl rfl)]
    exact ih _ hle

/-! ## Values -/

/-- The texts of one value, over those of the values in brackets. -/
inductive LooseStep (V : List Char → Prop) : List Char → Prop
  | null : LooseStep V ['n', 'u', 'l', 'l']
  | yes : LooseStep V ['t', 'r', 'u', 'e']
  | no : LooseStep V ['f', 'a', 'l', 's', 'e']
  | negative {c} (hc : NumberText c) : LooseStep V ('-' :: c)
  | natural {c} (hc : NumberText c) : LooseStep V c
  | string {k} (hk : QuotedText k) : LooseStep V ('"' :: k)
  | noItems {s} (hs : Spaces s) : LooseStep V ('[' :: (s ++ [']']))
  | items {t} (ht : LooseItems V t) : LooseStep V ('[' :: t)
  | noMembers {s} (hs : Spaces s) : LooseStep V ('{' :: (s ++ ['}']))
  | members {t} (ht : LooseMembers V t) : LooseStep V ('{' :: t)

def LooseText : (depth : Nat) → List Char → Prop
  | 0 => fun _ => False
  | depth + 1 => LooseStep (LooseText depth)

def Loose (c : List Char) : Prop := ∃ depth, LooseText depth c

theorem LooseItems.spaces {sp t : List Char} (hsp : Spaces sp) (h : LooseItems V t) :
    LooseItems V (sp ++ t) := by
  cases h with
  | last hs hc hs' =>
    rw [← List.append_assoc]
    exact .last (hsp.append hs) hc hs'
  | more hs hc hs' ht =>
    rw [← List.append_assoc]
    exact .more (hsp.append hs) hc hs' ht

theorem LooseMember.spaces {sp m : List Char} (hsp : Spaces sp) (h : LooseMember V m) :
    LooseMember V (sp ++ m) := by
  cases h with
  | colon hs =>
    rw [← List.append_assoc]
    exact .colon (hsp.append hs) ‹_› ‹_› ‹_› ‹_› ‹_›

theorem LooseMembers.spaces {sp t : List Char} (hsp : Spaces sp) (h : LooseMembers V t) :
    LooseMembers V (sp ++ t) := by
  cases h with
  | last hm =>
    rw [← List.append_assoc]
    exact .last (hm.spaces hsp)
  | more hm ht =>
    rw [← List.append_assoc]
    exact .more (hm.spaces hsp) ht

theorem looseStep_of_skipStep (hitem : Skips item V) {s r : List Char}
    (h : skipStep item s = .ok r) : ∃ sp c, s = sp ++ (c ++ r) ∧ Spaces sp ∧ LooseStep V c := by
  obtain ⟨sp, hs, hsp, -⟩ := spaces_append_skipSpace s
  suffices htext : ∃ c, skipSpace s = c ++ r ∧ LooseStep V c by
    obtain ⟨c, hc, hstep⟩ := htext
    exact ⟨sp, c, by rw [← hc]; exact hs, hsp, hstep⟩
  unfold skipStep at h
  split at h
  · cases h
  · rename_i rest hskip
    rw [word_eq_ok_iff] at h
    exact ⟨_, by rw [hskip, h]; rfl, .null⟩
  · rename_i rest hskip
    rw [word_eq_ok_iff] at h
    exact ⟨_, by rw [hskip, h]; rfl, .yes⟩
  · rename_i rest hskip
    rw [word_eq_ok_iff] at h
    exact ⟨_, by rw [hskip, h]; rfl, .no⟩
  · rename_i rest hskip
    obtain ⟨c, rfl, hc⟩ := numberText_of_skipNumber h
    exact ⟨_, hskip, .negative hc⟩
  · rename_i rest hskip
    obtain ⟨k, rfl, hk⟩ := quotedText_of_skipString h
    exact ⟨_, hskip, .string hk⟩
  · rename_i rest hskip
    obtain ⟨sp', hrest, hsp', -⟩ := spaces_append_skipSpace rest
    split at h
    · cases h
    · rename_i rest' hskip'
      cases h
      rw [hskip'] at hrest
      exact ⟨_, by rw [hskip, hrest]; simp, .noItems hsp'⟩
    · obtain ⟨t, ht, hitems⟩ := looseItems_of_skipItems hitem h
      rw [ht] at hrest
      exact ⟨_, by rw [hskip, hrest]; simp, .items (hitems.spaces hsp')⟩
  · rename_i rest hskip
    obtain ⟨sp', hrest, hsp', -⟩ := spaces_append_skipSpace rest
    split at h
    · cases h
    · rename_i rest' hskip'
      cases h
      rw [hskip'] at hrest
      exact ⟨_, by rw [hskip, hrest]; simp, .noMembers hsp'⟩
    · obtain ⟨t, ht, hmembers⟩ := looseMembers_of_skipMembers hitem h
      rw [ht] at hrest
      exact ⟨_, by rw [hskip, hrest]; simp, .members (hmembers.spaces hsp')⟩
  · rename_i c rest _ _ _ _ _ _ _ hskip
    split at h
    · obtain ⟨c', hc', hnumber⟩ := numberText_of_skipNumber h
      exact ⟨c', by rw [hskip, hc'], .natural hnumber⟩
    · cases h

theorem NumberText.begins {c : List Char} (h : NumberText c) :
    ∃ a t, c = a :: t ∧ a.isDigit = true := by
  cases h with
  | parts hw =>
    cases hw with
    | zero => exact ⟨'0', _, rfl, rfl⟩
    | digits _ hds => exact ⟨_, _, rfl, hds.2 _ (by simp)⟩

theorem LooseStep.begins {c : List Char} (h : LooseStep V c) :
    ∃ a t, c = a :: t ∧ isSpace a = false ∧ a ≠ ']' := by
  cases h with
  | natural hc =>
    obtain ⟨a, t, rfl, ha⟩ := hc.begins
    refine ⟨a, t, rfl, isSpace_of_isDigit ha, ?_⟩
    rintro rfl
    exact absurd ha (by decide)
  | _ => exact ⟨_, _, rfl, rfl, by decide⟩

theorem LooseItems.solid (hitem : Skips item V) {t : List Char} (h : LooseItems V t) :
    ∃ a t', LooseItems V (a :: t') ∧ a ≠ ']' ∧ ∀ r, skipSpace (t ++ r) = a :: (t' ++ r) := by
  cases h with
  | @last s c s' hs hc hs' =>
    obtain ⟨a, u, rfl, ha, hne⟩ := hitem.begins _ hc
    refine ⟨a, u ++ (s' ++ [']']), .last spaces_nil hc hs', hne, fun r => ?_⟩
    rw [List.append_assoc, List.cons_append, List.cons_append,
      skipSpace_append hs (solid_cons ha _)]
  | @more s c s' t hs hc hs' ht =>
    obtain ⟨a, u, rfl, ha, hne⟩ := hitem.begins _ hc
    refine ⟨a, u ++ (s' ++ ',' :: t), .more spaces_nil hc hs' ht, hne, fun r => ?_⟩
    rw [List.append_assoc, List.cons_append, List.cons_append,
      skipSpace_append hs (solid_cons ha _)]

theorem LooseMembers.solid {t : List Char} (h : LooseMembers V t) :
    ∃ t', LooseMembers V ('"' :: t') ∧ ∀ r, skipSpace (t ++ r) = '"' :: (t' ++ r) := by
  have hmember : ∀ {m}, LooseMember V m → ∃ m', LooseMember V ('"' :: m') ∧
      ∀ r, skipSpace (m ++ r) = '"' :: (m' ++ r) := by
    intro m hm
    cases hm with
    | @colon s k s' s'' c sp hs hk hs' hs'' hc hsp =>
      refine ⟨_, .colon spaces_nil hk hs' hs'' hc hsp, fun r => ?_⟩
      rw [List.append_assoc, List.cons_append,
        skipSpace_append hs (solid_cons (rfl : isSpace '"' = false) _)]
  cases h with
  | last hm =>
    obtain ⟨m', hm', hskip⟩ := hmember hm
    exact ⟨_, .last hm', fun r => by rw [List.append_assoc, hskip]; simp⟩
  | more hm ht =>
    obtain ⟨m', hm', hskip⟩ := hmember hm
    exact ⟨_, .more hm' ht, fun r => by rw [List.append_assoc, hskip]; simp⟩

theorem skipStep_append (hitem : Skips item V) {c : List Char} (h : LooseStep V c)
    (sp r : List Char) (hsp : Spaces sp) (hr : Stops r) :
    skipStep item (sp ++ (c ++ r)) = .ok r := by
  have hskip : skipSpace (sp ++ (c ++ r)) = c ++ r := by
    obtain ⟨a, t, rfl, ha, -⟩ := h.begins
    exact skipSpace_append hsp (solid_cons ha _)
  unfold skipStep
  rw [hskip]
  cases h with
  | null => rfl
  | yes => rfl
  | no => rfl
  | negative hc => exact skipNumber_append hc hr
  | natural hc =>
    -- What begins with a digit begins like no other kind of value.
    obtain ⟨a, t, rfl, ha⟩ := hc.begins
    rw [← skipNumber_append hc hr]
    split
    · rename_i heq
      cases heq
    iterate 7
      · rename_i heq
        cases heq
        exact absurd ha (by decide)
    · rename_i heq
      cases heq
      exact if_pos ha
  | string hk =>
    simp only [List.cons_append]
    exact skipString_append hk _ r (by simp)
  | noItems hs =>
    simp only [List.cons_append, List.append_assoc, List.nil_append,
      skipSpace_append hs (solid_cons (rfl : isSpace ']' = false) r)]
  | items ht =>
    obtain ⟨a, t', ht', hne, hsolid⟩ := ht.solid hitem
    simp only [List.cons_append, hsolid]
    split
    · rename_i heq
      cases heq
    · rename_i heq
      exact absurd (List.cons.inj heq).1 hne
    · exact skipItems_append hitem ht' _ r (by simp)
  | noMembers hs =>
    simp only [List.cons_append, List.append_assoc, List.nil_append,
      skipSpace_append hs (solid_cons (rfl : isSpace '}' = false) r)]
  | members ht =>
    obtain ⟨t', ht', hsolid⟩ := ht.solid
    simp only [List.cons_append, hsolid]
    exact skipMembers_append hitem ht' _ r (by simp)

/-! ## Nesting -/

theorem LooseText.begins {depth : Nat} {c : List Char} (h : LooseText depth c) :
    ∃ a t, c = a :: t ∧ isSpace a = false ∧ a ≠ ']' := by
  cases depth with
  | zero => cases h
  | succ depth => exact LooseStep.begins h

theorem skipNested_skips (bound : List Char) :
    Skips (skipNested bound) (LooseText bound.length) := by
  induction bound with
  | nil => exact ⟨nofun, nofun, nofun⟩
  | cons b bound ih =>
    exact ⟨fun s r h => looseStep_of_skipStep ih h, fun c hc => skipStep_append ih hc,
      fun c hc => LooseStep.begins hc⟩

theorem LooseItems.mono {W : List Char → Prop} {t : List Char} (h : LooseItems V t)
    (hVW : ∀ c, c.length < t.length → V c → W c) : LooseItems W t := by
  induction h with
  | last hs hc hs' => exact .last hs (hVW _ (by simp; omega) hc) hs'
  | more hs hc hs' _ ih =>
    refine .more hs (hVW _ (by simp; omega) hc) hs' (ih fun c hlt => hVW c ?_)
    simp only [List.length_append, List.length_cons]
    omega

theorem LooseMember.mono {W : List Char → Prop} {m : List Char} (h : LooseMember V m)
    (hVW : ∀ c, c.length < m.length → V c → W c) : LooseMember W m := by
  cases h with
  | colon hs hk hs' hs'' hc hsp =>
    exact .colon hs hk hs' hs'' (hVW _ (by simp; omega) hc) hsp

theorem LooseMembers.mono {W : List Char → Prop} {t : List Char} (h : LooseMembers V t)
    (hVW : ∀ c, c.length < t.length → V c → W c) : LooseMembers W t := by
  induction h with
  | last hm => exact .last (hm.mono fun c hlt => hVW c (by simp; omega))
  | more hm _ ih =>
    refine .more (hm.mono fun c hlt => hVW c (by simp; omega)) (ih fun c hlt => hVW c ?_)
    simp only [List.length_append, List.length_cons]
    omega

theorem LooseStep.mono {W : List Char → Prop} {c : List Char} (h : LooseStep V c)
    (hVW : ∀ x, x.length < c.length → V x → W x) : LooseStep W c := by
  cases h with
  | null => exact .null
  | yes => exact .yes
  | no => exact .no
  | negative hc => exact .negative hc
  | natural hc => exact .natural hc
  | string hk => exact .string hk
  | noItems hs => exact .noItems hs
  | items ht => exact .items (ht.mono fun x hlt => hVW x (Nat.lt_succ_of_lt hlt))
  | noMembers hs => exact .noMembers hs
  | members ht => exact .members (ht.mono fun x hlt => hVW x (Nat.lt_succ_of_lt hlt))

/-- A text nests no deeper than it is long. -/
theorem LooseText.of_length {depth n : Nat} {c : List Char} (h : LooseText depth c)
    (hlen : c.length ≤ n) : LooseText n c := by
  induction depth generalizing c n with
  | zero => cases h
  | succ depth ih =>
    cases n with
    | zero =>
      obtain ⟨a, t, rfl, -⟩ := h.begins
      simp at hlen
    | succ n =>
      exact LooseStep.mono h fun x hlt hx => ih hx (Nat.le_of_lt_succ (Nat.lt_of_lt_of_le hlt hlen))

theorem skipValue_skips : Skips skipValue Loose where
  sound s r h := by
    obtain ⟨sp, c, hs, hsp, hc⟩ := (skipNested_skips _).sound s r h
    exact ⟨sp, c, hs, hsp, _, hc⟩
  takes c hc sp r hsp hr := by
    obtain ⟨depth, hc⟩ := hc
    refine (skipNested_skips _).takes c (hc.of_length ?_) sp r hsp hr
    simp only [List.length_cons, List.length_append]
    omega
  begins c hc := by
    obtain ⟨depth, hc⟩ := hc
    exact hc.begins

end YardConsole.Json
