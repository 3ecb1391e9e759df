import YardConsole.Proofs.Advice.Fence
import YardConsole.Proofs.Text.Pattern

/-! # The first closed fence

A fenced block stands between the first mark of a text and the next one behind that. It is what one
pattern takes, though that tries every way to read the tag.
-/

namespace YardConsole.Fence

/-! ## Where marks stand -/

/-- From `start` on, the needle stands first at `i`. -/
structure FirstFrom (needle cs : List Char) (start i : Nat) : Prop where
  behind : start ≤ i
  stands : needle <+: cs.drop i
  first : ∀ k, start ≤ k → k < i → ¬ needle <+: cs.drop k

theorem firstFrom_iff (needle cs : List Char) (start i : Nat) :
    FirstFrom needle cs start i ↔
      ∃ k, i = start + k ∧ Text.FirstAt needle (cs.drop start) k := by
  constructor
  · rintro ⟨hbehind, hstands, hfirst⟩
    refine ⟨i - start, by omega, ?_, fun k hk => ?_⟩
    · rwa [List.drop_drop, Nat.add_sub_cancel' hbehind]
    · rw [List.drop_drop]
      exact hfirst (start + k) (by omega) (by omega)
  · rintro ⟨k, rfl, hstands, hfirst⟩
    rw [List.drop_drop] at hstands
    refine ⟨by omega, hstands, fun j hstart hj => ?_⟩
    have hnone := hfirst (j - start) (by omega)
    rwa [List.drop_drop, Nat.add_sub_cancel' hstart] at hnone

theorem cut_drop_eq_some_iff (needle cs : List Char) (start : Nat) (inside after : List Char) :
    Text.cut needle (cs.drop start) = some (inside, after) ↔
      ∃ i, FirstFrom needle cs start i ∧ inside = (cs.take i).drop start ∧
        after = cs.drop (i + needle.length) := by
  rw [Text.cut_eq_some_iff]
  constructor
  · rintro ⟨k, hk, rfl, rfl⟩
    refine ⟨start + k, (firstFrom_iff _ _ _ _).mpr ⟨k, rfl, hk⟩, ?_, ?_⟩
    · rw [List.drop_take, Nat.add_sub_cancel_left]
    · rw [List.drop_drop, Nat.add_assoc]
  · rintro ⟨i, hi, rfl, rfl⟩
    obtain ⟨k, rfl, hk⟩ := (firstFrom_iff _ _ _ _).mp hi
    refine ⟨k, hk, ?_, ?_⟩
    · rw [List.drop_take, Nat.add_sub_cancel_left]
    · rw [List.drop_drop, Nat.add_assoc]

theorem drop_infix_iff (needle cs : List Char) (start : Nat) :
    needle <:+: cs.drop start ↔ ∃ j, start ≤ j ∧ needle <+: cs.drop j := by
  rw [Text.infix_iff_stands]
  constructor
  · rintro ⟨k, hk⟩
    rw [List.drop_drop] at hk
    exact ⟨start + k, by omega, hk⟩
  · rintro ⟨j, hj, hstands⟩
    refine ⟨j - start, ?_⟩
    rwa [List.drop_drop, Nat.add_sub_cancel' hj]

structure ClosedAt (cs : List Char) (i j : Nat) : Prop where
  opens : mark <+: cs.drop i
  behind : i + 3 ≤ j
  closes : mark <+: cs.drop j

/-! ## Tags -/

/-- `taken` is the longest beginning of a text that is in a class, and `rest` what follows. -/
structure Longest (p : Char → Bool) (taken rest : List Char) : Prop where
  inside : ∀ c ∈ taken, p c = true
  stops : ∀ c ∈ rest.head?, p c = false

inductive AtMostOne (c : Char) : (taken rest : List Char) → Prop
  | present (rest) : AtMostOne c [c] rest
  | missing {rest} (h : c ∉ rest.head?) : AtMostOne c [] rest

def isGap (c : Char) : Bool := c = ' ' || c = '\t'

inductive Tagged : (inside block : List Char) → Prop
  | intro {letters gap cr lf block : List Char}
      (hletters : Longest Char.isAlpha letters (gap ++ (cr ++ (lf ++ block))))
      (hgap : Longest isGap gap (cr ++ (lf ++ block)))
      (hcr : AtMostOne '\r' cr (lf ++ block)) (hlf : AtMostOne '\n' lf block) :
      Tagged (letters ++ (gap ++ (cr ++ (lf ++ block)))) block

theorem longest_iff (p : Char → Bool) (cs rest : List Char) :
    (∃ taken, cs = taken ++ rest ∧ Longest p taken rest) ↔ cs.dropWhile p = rest := by
  constructor
  · rintro ⟨taken, rfl, hinside, hstops⟩
    rw [List.dropWhile_append_of_pos hinside]
    exact Text.dropWhile_of_head hstops
  · rintro rfl
    exact ⟨cs.takeWhile p, List.takeWhile_append_dropWhile.symm,
      fun _ hc => List.mem_takeWhile_imp hc, Text.head_dropWhile p cs⟩

theorem atMostOne_iff (c : Char) (cs rest : List Char) :
    (∃ taken, cs = taken ++ rest ∧ AtMostOne c taken rest) ↔ dropOne c cs = rest := by
  constructor
  · rintro ⟨taken, rfl, hpresent | hmissing⟩
    · rw [List.singleton_append, dropOne, if_pos rfl]
    · cases rest with
      | nil => rfl
      | cons x rest =>
        rw [List.nil_append, dropOne, if_neg]
        rintro rfl
        exact hmissing rfl
  · rintro rfl
    cases cs with
    | nil => exact ⟨[], rfl, .missing (by simp [dropOne])⟩
    | cons x cs =>
      by_cases hx : x = c
      · subst hx
        rw [dropOne, if_pos rfl]
        exact ⟨[x], rfl, .present cs⟩
      · rw [dropOne, if_neg hx]
        exact ⟨[], rfl, .missing (by simpa using hx)⟩

theorem tagged_iff (inside block : List Char) :
    Tagged inside block ↔ withoutTag inside = block := by
  have hgaps : (fun c : Char => (c = ' ' || c = '\t' : Bool)) = isGap := rfl
  simp only [withoutTag]
  constructor
  · rintro ⟨hletters, hgap, hcr, hlf⟩
    rw [(longest_iff _ _ _).mp ⟨_, rfl, hletters⟩, hgaps, (longest_iff _ _ _).mp ⟨_, rfl, hgap⟩,
      (atMostOne_iff _ _ _).mp ⟨_, rfl, hcr⟩, (atMostOne_iff _ _ _).mp ⟨_, rfl, hlf⟩]
  · intro h
    obtain ⟨lf, hlf, hlast⟩ := (atMostOne_iff _ _ _).mpr h
    obtain ⟨cr, hcr, hthird⟩ := (atMostOne_iff _ _ _).mpr hlf
    obtain ⟨gap, hgap, hsecond⟩ := (longest_iff _ _ _).mpr hcr
    obtain ⟨letters, rfl, hfirst⟩ := (longest_iff _ _ _).mpr hgap
    exact .intro hfirst hsecond hthird hlast

/-! ## The block -/

theorem block?_eq_some_iff (cs block : List Char) :
    block? cs = some block ↔ ∃ a b, FirstFrom mark cs 0 a ∧ FirstFrom mark cs (a + 3) b ∧
      Tagged ((cs.take b).drop (a + 3)) block := by
  simp only [block?, Option.bind_eq_bind, Option.bind_eq_some_iff, Option.some.injEq, Prod.exists,
    ← tagged_iff]
  constructor
  · rintro ⟨before, rest, hopen, inside, after, hclose, htag⟩
    obtain ⟨a, ha, -, rfl⟩ := (cut_drop_eq_some_iff mark cs 0 _ _).mp hopen
    obtain ⟨b, hb, rfl, -⟩ := (cut_drop_eq_some_iff mark cs (a + 3) _ _).mp hclose
    exact ⟨a, b, ha, hb, htag⟩
  · rintro ⟨a, b, ha, hb, htag⟩
    exact ⟨_, _, (cut_drop_eq_some_iff mark cs 0 _ _).mpr ⟨a, ha, rfl, rfl⟩,
      _, _, (cut_drop_eq_some_iff mark cs (a + 3) _ _).mpr ⟨b, hb, rfl, rfl⟩, htag⟩

theorem block?_eq_none_iff (cs : List Char) : block? cs = none ↔ ∀ i j, ¬ ClosedAt cs i j := by
  cases hopen : Text.cut mark cs with
  | none =>
    have hnone : block? cs = none := by rw [block?, hopen]; rfl
    rw [Text.cut_eq_none_iff, Text.infix_iff_stands] at hopen
    exact iff_of_true hnone fun i j hclosed => hopen ⟨i, hclosed.opens⟩
  | some found =>
    obtain ⟨before, rest⟩ := found
    have hblock : block? cs = none ↔ Text.cut mark rest = none := by
      simp only [block?, hopen, Option.bind_eq_bind, Option.bind_some]
      cases Text.cut mark rest <;> simp
    obtain ⟨a, ha, -, rfl⟩ := (cut_drop_eq_some_iff mark cs 0 _ _).mp hopen
    rw [hblock, Text.cut_eq_none_iff, drop_infix_iff]
    constructor
    · rintro hnone i j ⟨hi, hij, hj⟩
      have hfirst : a ≤ i := by
        by_contra hlt
        exact ha.first i (by omega) (by omega) hi
      exact hnone ⟨j, by simp only [mark, List.length_cons, List.length_nil]; omega, hj⟩
    · rintro hnone ⟨j, hj, hstands⟩
      exact hnone a j ⟨ha.stands, hj, hstands⟩

theorem not_mark_infix_of_block? {cs block : List Char} (h : block? cs = some block) :
    ¬ mark <:+: block := by
  simp only [block?, Option.bind_eq_bind, Option.bind_eq_some_iff, Option.some.injEq,
    Prod.exists] at h
  obtain ⟨before, rest, -, inside, after, hclose, rfl⟩ := h
  obtain ⟨i, hi, rfl, -⟩ := (Text.cut_eq_some_iff _ _ _ _).mp hclose
  exact fun hin => hi.not_infix (by simp [mark]) (hin.trans (withoutTag_suffix _).isInfix)

/-! ## The pattern -/

def fencePattern : Pattern := .sequence [
  .literal mark, .greedy Char.isAlpha, .greedy isGap, .optional (.one (· == '\r')),
  .optional (.one (· == '\n')), .group 1 (.lazy fun _ => true), .literal mark]

/-- The first way to take `a` leaves what `φ` does. The other ways leave other ends of the text, and
`φ` stops before a mark. -/
structure Skips (a : Pattern) (φ : List Char → List Char) : Prop where
  first : ∀ before cs, ∃ taken more, a.ways before cs = ⟨taken, φ cs, []⟩ :: more
  splits : ∀ before cs, ∀ t ∈ a.ways before cs, t.text ++ t.rest = cs ∧ t.groups = []
  stops : ∀ inside after, φ (inside ++ mark ++ after) = φ inside ++ mark ++ after

theorem skips_greedy {p : Char → Bool} (hp : p '\x60' = false) :
    Skips (.greedy p) (List.dropWhile p) where
  first before cs := by
    obtain ⟨shorter, hways, -⟩ := Pattern.longest_first before p cs
    exact ⟨_, shorter, hways⟩
  splits before cs t ht := by
    obtain ⟨hsplit, -, hgroups⟩ := Pattern.of_mem_beginnings (List.mem_reverse.mp ht)
    exact ⟨hsplit, hgroups⟩
  stops inside after := by
    have hmark := Text.dropWhile_append_cons hp inside ('\x60' :: '\x60' :: after)
    simpa [mark] using hmark

theorem skips_optional {c : Char} (hc : c ≠ '\x60') :
    Skips (.optional (.one (· == c))) (dropOne c) where
  first before cs := by
    cases cs with
    | nil => exact ⟨[], [], rfl⟩
    | cons x cs =>
      by_cases hx : x = c
      · subst hx
        exact ⟨[x], [.none (x :: cs)], by simp [Pattern.ways, dropOne]⟩
      · exact ⟨[], [], by simp [Pattern.ways, dropOne, hx, Taken.none]⟩
  splits before cs t ht := by
    cases cs with
    | nil =>
      obtain rfl := List.mem_singleton.mp ht
      exact ⟨rfl, rfl⟩
    | cons x cs =>
      rw [Pattern.ways_optional, Pattern.ways_one] at ht
      split at ht
      · rcases List.mem_cons.mp ht with rfl | ht
        · exact ⟨rfl, rfl⟩
        · obtain rfl := List.mem_singleton.mp ht
          exact ⟨rfl, rfl⟩
      · obtain rfl := List.mem_singleton.mp ht
        exact ⟨rfl, rfl⟩
  stops inside after := by
    have hmark := dropOne_append hc.symm inside ('\x60' :: '\x60' :: after)
    simpa [mark] using hmark

/-- The parts take what stands before the first mark, and their group is `ψ` of that. -/
def TakesTo (parts : List Pattern) (ψ : List Char → List Char) : Prop :=
  ∀ (α : Type) before cs (g : List (Nat × List Char) → α),
    (Pattern.firstWay (.sequence parts) before cs fun t => some (g t.groups)) =
      (Text.cut mark cs).map fun x => g [(1, ψ x.1)]

theorem takesTo_body : TakesTo [.group 1 (.lazy fun _ => true), .literal mark] id := by
  intro α before cs g
  rw [Pattern.firstWay_sequence_cons, Pattern.firstWay_group]
  have hmark : ∀ (before : Option Char) (t : Taken),
      (Pattern.firstWay (.sequence [.literal mark]) before (t.group 1).rest fun u =>
        some (g ((t.group 1).append u).groups)) =
      if mark <+: t.rest then some (g (t.group 1).groups) else none := by
    intro before t
    rw [Pattern.firstWay_sequence_cons, Pattern.firstWay_literal]
    simp [Taken.append, Taken.group, Taken.none]
  simp only [hmark]
  exact Pattern.firstWay_lazy_cut before mark fun t => g (t.group 1).groups

theorem Skips.takesTo {a : Pattern} {parts : List Pattern} {φ ψ : List Char → List Char}
    (h : Skips a φ) (hparts : TakesTo parts ψ) :
    TakesTo (a :: parts) fun inside => ψ (φ inside) := by
  intro α before cs g
  rw [Pattern.firstWay_sequence_cons]
  have hnext : ∀ t ∈ a.ways before cs,
      (Pattern.firstWay (.sequence parts) (t.text.getLast?.or before) t.rest fun u =>
        some (g (t.append u).groups)) = (Text.cut mark t.rest).map fun x => g [(1, ψ x.1)] := by
    intro t ht
    simp only [Taken.append, (h.splits before cs t ht).2, List.nil_append]
    exact hparts α _ _ g
  cases hcut : Text.cut mark cs with
  | none =>
    rw [Option.map_none, Pattern.firstWay, List.findSome?_eq_none_iff]
    intro t ht
    rw [hnext t ht, Option.map_eq_none_iff, Text.cut_eq_none_iff]
    rw [Text.cut_eq_none_iff] at hcut
    intro hin
    apply hcut
    rw [← (h.splits before cs t ht).1]
    exact hin.trans (List.suffix_append _ _).isInfix
  | some found =>
    obtain ⟨inside, after⟩ := found
    obtain ⟨taken, more, hways⟩ := h.first before cs
    have hfirst : (⟨taken, φ cs, []⟩ : Taken) ∈ a.ways before cs := by simp [hways]
    have hsplit : taken ++ φ cs = cs := (h.splits before cs _ hfirst).1
    have hφ : φ cs = φ inside ++ mark ++ after := by
      rw [Text.append_of_cut hcut, h.stops]
    have hinside : taken ++ φ inside = inside := by
      have hcs := Text.append_of_cut hcut
      rw [← hsplit, hφ, ← List.append_assoc, ← List.append_assoc, List.append_left_inj,
        List.append_left_inj] at hcs
      exact hcs
    have hwhole : Text.cut mark (taken ++ φ cs) = some (taken ++ φ inside, after) := by
      rw [hsplit, hinside, hcut]
    have hrest : Text.cut mark (φ cs) = some (φ inside, after) := Text.cut_append_of_cut hwhole
    rw [Pattern.firstWay, hways, List.findSome?_cons, hnext _ hfirst, hrest]
    rfl

theorem takesTo_fence : TakesTo [.greedy Char.isAlpha, .greedy isGap,
    .optional (.one (· == '\r')), .optional (.one (· == '\n')), .group 1 (.lazy fun _ => true),
    .literal mark] withoutTag := by
  have hlf := (skips_optional (c := '\n') (by decide)).takesTo takesTo_body
  have hcr := (skips_optional (c := '\r') (by decide)).takesTo hlf
  have hgap := (skips_greedy (p := isGap) (by decide)).takesTo hcr
  exact (skips_greedy (p := Char.isAlpha) (by decide)).takesTo hgap

theorem head_ways_fence (before : Option Char) (cs : List Char) :
    ((fencePattern.ways before cs).head?).map (·.groups) =
      if mark <+: cs then (Text.cut mark (cs.drop 3)).map fun x => [(1, withoutTag x.1)]
      else none := by
  rw [Pattern.head?_ways, fencePattern, Pattern.firstWay_sequence_cons, Pattern.firstWay_literal]
  congr 1
  exact takesTo_fence _ _ (cs.drop 3) fun groups => groups

theorem groups_search? (before : Option Char) (cs : List Char) :
    (fencePattern.search? before cs).map (·.groups) =
      (block? cs).map fun block => [(1, block)] := by
  induction cs generalizing before with
  | nil =>
    have hnone : ¬ mark <+: [] := by decide
    rw [Pattern.search?, head_ways_fence, if_neg hnone]
    rfl
  | cons c cs ih =>
    rw [Pattern.search?, Option.map_or, head_ways_fence, ih]
    by_cases hstart : mark <+: c :: cs
    · rw [if_pos hstart]
      have hblock : block? (c :: cs) =
          (Text.cut mark ((c :: cs).drop 3)).map fun x => withoutTag x.1 := by
        simp only [block?, Text.cut_of_start hstart, Option.bind_eq_bind, Option.bind_some,
          Option.map_eq_bind]
        rfl
      cases hclose : Text.cut mark ((c :: cs).drop 3) with
      | some found =>
        rw [hblock, hclose]
        rfl
      | none =>
        -- Nothing closes the first mark, so nothing closes a later one.
        have hnone : block? (c :: cs) = none := by rw [hblock, hclose]; rfl
        have hlater : block? cs = none := by
          rw [block?_eq_none_iff] at hnone ⊢
          rintro i j ⟨hi, hij, hj⟩
          exact hnone (i + 1) (j + 1) ⟨hi, by omega, hj⟩
        rw [hnone, hlater]
        rfl
    · have hlater : block? (c :: cs) = block? cs := by
        simp only [block?, Text.cut_of_not_start hstart]
        cases Text.cut mark cs <;> rfl
      rw [if_neg hstart, hlater, Option.none_or]

/-! ## What is found -/

/-- What is found stands between the first mark of the text and the next one behind that, without its
tag. Nothing is found where no mark is closed. -/
structure FirstClosed (cs : List Char) (found : Option (List Char)) : Prop where
  unclosed : found = none ↔ ∀ i j, ¬ ClosedAt cs i j
  closed : ∀ block, found = some block ↔ ∃ a b, FirstFrom mark cs 0 a ∧
    FirstFrom mark cs (a + 3) b ∧ Tagged ((cs.take b).drop (a + 3)) block
  free : ∀ block ∈ found, ¬ mark <:+: block

/-- The pattern finds the first closed fence. -/
theorem captured_firstClosed (cs : List Char) :
    fencePattern.captured 1 cs = block? cs ∧ FirstClosed cs (block? cs) := by
  constructor
  · exact Pattern.captured_of_groups (groups_search? none cs)
  · exact ⟨block?_eq_none_iff cs, block?_eq_some_iff cs, fun _ => not_mark_infix_of_block?⟩

end YardConsole.Fence
