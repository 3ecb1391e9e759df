import Mathlib.Data.List.DropRight
import YardConsole.Advice.Fence
import YardConsole.Proofs.Text.Blank
import YardConsole.Proofs.Text.Find

/-! # Fenced blocks stand in the text -/

namespace YardConsole.Fence

theorem dropOne_suffix (c : Char) (cs : List Char) : dropOne c cs <:+ cs := by
  unfold dropOne
  split
  · split
    · exact List.suffix_cons _ _
    · exact List.suffix_refl _
  · exact List.suffix_refl _

theorem withoutTag_suffix (block : List Char) : withoutTag block <:+ block := by
  unfold withoutTag
  refine (dropOne_suffix _ _).trans ((dropOne_suffix _ _).trans ?_)
  exact (List.dropWhile_suffix _).trans (List.dropWhile_suffix _)

theorem block?_split {cs block : List Char} (h : block? cs = some block) :
    ∃ left behind, cs = left ++ (block ++ (mark ++ behind)) := by
  simp only [block?, Option.bind_eq_bind, Option.bind_eq_some_iff, Option.some.injEq] at h
  obtain ⟨⟨before, rest⟩, hopen, ⟨inside, behind⟩, hclose, rfl⟩ := h
  simp only at hclose
  obtain ⟨tag, htag⟩ := withoutTag_suffix inside
  refine ⟨before ++ (mark ++ tag), behind, ?_⟩
  calc cs
      = before ++ mark ++ (inside ++ mark ++ behind) := by
        rw [Text.append_of_cut hopen, Text.append_of_cut hclose]
    _ = before ++ mark ++ ((tag ++ withoutTag inside) ++ mark ++ behind) := by rw [htag]
    _ = before ++ (mark ++ tag) ++ (withoutTag inside ++ (mark ++ behind)) := by simp

theorem block?_infix {cs block : List Char} (h : block? cs = some block) : block <:+: cs := by
  obtain ⟨left, behind, rfl⟩ := block?_split h
  exact ⟨left, mark ++ behind, by simp⟩

theorem block?_eq_none {cs : List Char} (h : ¬ mark <:+: cs) : block? cs = none := by
  rw [Option.eq_none_iff_forall_ne_some]
  intro block hblock
  obtain ⟨left, behind, rfl⟩ := block?_split hblock
  exact h ⟨left ++ block, behind, by simp⟩

/-! ## Tags -/

theorem dropOne_append {c x : Char} (hx : x ≠ c) (q cs : List Char) :
    dropOne c (q ++ x :: cs) = dropOne c q ++ x :: cs := by
  cases q with
  | nil => rw [List.nil_append, dropOne, if_neg hx, dropOne, List.nil_append]
  | cons y q =>
    simp only [List.cons_append, dropOne]
    split
    · rfl
    · rfl

/-- No tag goes past a brace. -/
theorem withoutTag_append (q cs : List Char) :
    withoutTag (q ++ '{' :: cs) = withoutTag q ++ '{' :: cs := by
  have hletters := Text.dropWhile_append_cons (p := Char.isAlpha) (c := '{') (by decide)
  have hgap := Text.dropWhile_append_cons (p := fun c => c = ' ' || c = '\t') (c := '{') (by decide)
  simp only [withoutTag, hletters, hgap, dropOne_append (by decide : '{' ≠ '\r'),
    dropOne_append (by decide : '{' ≠ '\n')]

/-! ## Marks behind a text -/

theorem free_mark_iff (c : Char) : c ∉ mark ↔ c ≠ '\x60' := by simp [mark]

theorem not_mark_infix_dropLast : ¬ mark <:+: mark.dropLast := by decide

theorem not_mark_infix_of_last {cs : List Char} (h : ¬ mark <:+: cs)
    (hlast : ∀ c ∈ cs.getLast?, c ∉ mark) : ¬ mark <:+: cs ++ mark.dropLast := by
  obtain rfl | ⟨as, c, rfl⟩ := List.eq_nil_or_concat' cs
  · exact not_mark_infix_dropLast
  · rw [List.append_assoc, List.singleton_append,
      Text.infix_append_cons (hlast c List.getLast?_concat)]
    rintro (hin | hin)
    · exact h (hin.trans (List.prefix_append as [c]).isInfix)
    · exact not_mark_infix_dropLast hin

theorem exists_ticks (p : List Char) : ∃ before ticks, p = before ++ ticks ∧
    (∀ c ∈ ticks, c = '\x60') ∧ ∀ c ∈ before.getLast?, c ∉ mark := by
  refine ⟨p.rdropWhile (· == '\x60'), p.rtakeWhile (· == '\x60'),
    List.rdropWhile_append_rtakeWhile.symm, fun c hc => ?_, fun c hc => ?_⟩
  · simpa using List.mem_rtakeWhile_imp hc
  · obtain ⟨hne, rfl⟩ := List.mem_getLast?_eq_getLast hc
    simpa [free_mark_iff] using List.rdropWhile_last_not (· == '\x60') p hne

/-- Where a text without marks is cut by a mark behind it: the quotes it ends in come first. -/
theorem exists_cut {p : List Char} (hp : ¬ mark <:+: p) :
    ∃ before ticks, p = before ++ ticks ∧
      ∀ cs, Text.cut mark (p ++ mark ++ cs) = some (before, ticks ++ cs) := by
  obtain ⟨before, ticks, rfl, hticks, hlast⟩ := exists_ticks p
  have hbefore : ¬ mark <:+: before := fun hin =>
    hp (hin.trans (List.prefix_append before ticks).isInfix)
  have hswap : ticks ++ mark = mark ++ ticks := by
    rw [List.eq_replicate_of_mem hticks, show mark = List.replicate 3 '\x60' from rfl,
      List.replicate_append_replicate, List.replicate_append_replicate, Nat.add_comm]
  refine ⟨before, ticks, rfl, fun cs => ?_⟩
  calc Text.cut mark (before ++ ticks ++ mark ++ cs)
      = Text.cut mark (before ++ (ticks ++ mark) ++ cs) := by rw [List.append_assoc before]
    _ = Text.cut mark (before ++ mark ++ (ticks ++ cs)) := by simp only [hswap, List.append_assoc]
    _ = some (before, ticks ++ cs) :=
        Text.cut_append (not_mark_infix_of_last hbefore hlast) (ticks ++ cs)

/-- A block on lines of its own is found behind any text without marks, but the quotes that the text
ends in are taken for a part of the block. -/
theorem block?_lines {p lead inside : List Char} (hp : ¬ mark <:+: p)
    (hlead : ∀ c ∈ lead, c ∉ mark) (hinside : ¬ mark <:+: inside) :
    ∃ ticks, ticks <:+ p ∧ ∀ cs,
      block? (p ++ mark ++ (lead ++ '\n' :: (inside ++ ['\n']) ++ mark ++ cs)) =
        some (withoutTag (ticks ++ (lead ++ '\n' :: (inside ++ ['\n'])))) := by
  obtain ⟨before, ticks, rfl, hopen⟩ := exists_cut hp
  refine ⟨ticks, List.suffix_append _ _, fun cs => ?_⟩
  have hline : '\n' ∉ mark := by decide
  have hblock : ¬ mark <:+: ticks ++ (lead ++ '\n' :: (inside ++ ['\n'])) := by
    rw [← List.append_assoc, Text.infix_append_cons hline, Text.infix_append_right ticks hlead,
      Text.infix_append_right inside (List.forall_mem_singleton.mpr hline)]
    rintro (hin | hin)
    · exact hp (hin.trans (List.suffix_append _ _).isInfix)
    · exact hinside hin
  have hlast : ∀ c ∈ (ticks ++ (lead ++ '\n' :: (inside ++ ['\n']))).getLast?, c ∉ mark := by
    intro c hc
    rw [← List.cons_append, ← List.append_assoc, ← List.append_assoc, List.getLast?_concat,
      Option.mem_some_iff] at hc
    exact hc ▸ hline
  have hclose := Text.cut_append (not_mark_infix_of_last hblock hlast) cs
  simp only [List.append_assoc] at hopen hclose ⊢
  simp only [block?, hopen, hclose, Option.bind_eq_bind, Option.bind_some]

end YardConsole.Fence
