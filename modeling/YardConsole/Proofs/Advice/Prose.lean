import YardConsole.Proofs.Advice.Outcome
import YardConsole.Proofs.Command.Behind

/-! # Directives in other text

An answer may say something before its directive and behind it, and may put it in a fenced block.
-/

namespace YardConsole.Advice

/-! ## Fences -/

def newlines : List String := ["\n", "\r\n"]

def fence : String := String.ofList Fence.mark

def fenced (tag newline inside newline' : String) : String :=
  fence ++ tag ++ newline ++ inside ++ newline' ++ fence

theorem newline_split {newline : String} (h : newline ∈ newlines) :
    ∃ m, newline.toList = m ++ ['\n'] ∧ ∀ c ∈ m, c ∉ Fence.mark ∧ c ≠ '{' := by
  simp only [newlines, List.mem_cons, List.not_mem_nil, or_false] at h
  rcases h with rfl | rfl
  · exact ⟨[], rfl, by simp⟩
  · exact ⟨['\r'], rfl, List.forall_mem_singleton.mpr ⟨by decide, by decide⟩⟩

theorem letter_free {c : Char} (h : c.isAlpha = true) : c ∉ Fence.mark ∧ c ≠ '{' := by
  constructor
  · rw [Fence.free_mark_iff]
    rintro rfl
    exact absurd h (by decide)
  · rintro rfl
    exact absurd h (by decide)

section

variable {members : List (String × Json)} {d : Directive} {p : String}
  (hregular : (Json.obj members).Regular Json.maxDepth) (hfloat : (Json.obj members).Floatless)
  (hd : Directive.ofJson? (.obj members) = some d)
  (hmark : ¬ Fence.mark <:+: (Json.obj members).compact.toList)
  (hp : '{' ∉ p.toList) (hpmark : ¬ Fence.mark <:+: p.toList)

include hmark hpmark in
theorem unmarked_prose {s : String} (hs : ¬ Fence.mark <:+: s.toList) :
    ¬ Fence.mark <:+: (p ++ (Json.obj members).compact ++ s).toList := by
  obtain ⟨inside, hline⟩ := Json.exists_line_obj members
  rw [Json.toList_compact, hline] at hmark
  have htext : (p ++ (Json.obj members).compact ++ s).toList =
      p.toList ++ '{' :: (inside ++ '}' :: s.toList) := by
    simp [Json.toList_compact, hline]
  -- The braces of the object are in no mark, so a mark stands before, between or behind them.
  rw [htext, Text.infix_append_cons (by decide), Text.infix_append_cons (by decide)]
  rintro (hin | hin | hin)
  · exact hpmark hin
  · exact hmark (hin.trans ⟨['{'], ['}'], rfl⟩)
  · exact hs hin

include hregular hfloat hd hp in
theorem directiveIn?_prose (s : String) :
    directiveIn? (p ++ (Json.obj members).compact ++ s).toList = some d := by
  obtain ⟨inside, hline⟩ := Json.exists_line_obj members
  have hread := Json.startValue?_line_append hregular hfloat hline s.toList
  rw [String.append_assoc, String.toList_append, String.toList_append, Json.toList_compact, hline,
    List.cons_append, directiveIn?_append hp hread, hd]

include hregular hfloat hd hmark hp hpmark in
theorem block?_fenced {tag newline newline' : String} (htag : ∀ c ∈ tag.toList, c.isAlpha = true)
    (hnewline : newline ∈ newlines) (hnewline' : newline' ∈ newlines) (s : String) :
    (Fence.block? (p ++ fenced tag newline (Json.obj members).compact newline' ++ s).toList).bind
      directiveIn? = some d := by
  obtain ⟨m, hm, hmfree⟩ := newline_split hnewline
  obtain ⟨m', hm', hmfree'⟩ := newline_split hnewline'
  obtain ⟨cs, hline⟩ := Json.exists_line_obj members
  have hlead : ∀ c ∈ tag.toList ++ m, c ∉ Fence.mark ∧ c ≠ '{' := by
    intro c hc
    rcases List.mem_append.mp hc with hc | hc
    · exact letter_free (htag c hc)
    · exact hmfree c hc
  have hinside : ¬ Fence.mark <:+: (Json.obj members).compact.toList ++ m' := by
    rwa [Text.infix_append_right _ fun c hc => (hmfree' c hc).1]
  obtain ⟨ticks, hticks, hblock⟩ := Fence.block?_lines hpmark (fun c hc => (hlead c hc).1) hinside
  have htext : (p ++ fenced tag newline (Json.obj members).compact newline' ++ s).toList =
      p.toList ++ Fence.mark ++ (tag.toList ++ m ++ '\n' ::
        ((Json.obj members).compact.toList ++ m' ++ ['\n']) ++ Fence.mark ++ s.toList) := by
    simp [fenced, fence, hm, hm']
  -- What is left of the block before the object has no brace, tag or no tag.
  have hbefore : '{' ∉ Fence.withoutTag (ticks ++ (tag.toList ++ m) ++ ['\n']) := by
    intro hbrace
    have hmem := (Fence.withoutTag_suffix _).subset hbrace
    rw [List.append_assoc, List.mem_append, List.mem_append] at hmem
    rcases hmem with hmem | hmem | hmem
    · exact hp (hticks.subset hmem)
    · exact (hlead '{' hmem).2 rfl
    · simp at hmem
  have hread := Json.startValue?_line_append hregular hfloat hline (m' ++ ['\n'])
  have hparts : ticks ++ (tag.toList ++ m ++ '\n' ::
        ((Json.obj members).compact.toList ++ m' ++ ['\n'])) =
      ticks ++ (tag.toList ++ m) ++ ['\n'] ++ '{' :: (cs ++ ['}'] ++ (m' ++ ['\n'])) := by
    simp [Json.toList_compact, hline]
  rw [htext, hblock, Option.bind_some, hparts, Fence.withoutTag_append,
    directiveIn?_append hbefore hread, hd]

include hregular hfloat hd hmark hp hpmark in
/-- A written directive is found in an answer without other braces or marks before it: as it stands
if there are no marks behind it either, and in a fenced block whatever stands behind that. -/
theorem interpret_prose :
    (∀ s, ¬ Fence.mark <:+: s.toList →
      interpret (p ++ (Json.obj members).compact ++ s) = .directive d) ∧
    ∀ tag newline newline' s, (∀ c ∈ tag.toList, c.isAlpha = true) → newline ∈ newlines →
      newline' ∈ newlines →
      interpret (p ++ fenced tag newline (Json.obj members).compact newline' ++ s) =
        .directive d := by
  constructor
  · intro s hs
    rw [interpret_eq_directive_iff, directive?,
      Fence.block?_eq_none (unmarked_prose hmark hpmark hs), Option.bind_none, Option.none_or,
      directiveIn?_prose hregular hfloat hd hp s]
  · intro tag newline newline' s htag hnewline hnewline'
    rw [interpret_eq_directive_iff, directive?,
      block?_fenced hregular hfloat hd hmark hp hpmark htag hnewline hnewline' s, Option.some_or]

end

/-! ## A directive behind quotes -/

def removal : List (String × Json) := [
  ("action", .str "mcp_call"), ("method", .str "DELETE"), ("path", .str "/clients/7")]

/-- The first block counts, although two quotes stand before it and another block behind it. -/
theorem interpret_removal :
    (Json.obj removal).Regular Json.maxDepth ∧ (Json.obj removal).Floatless ∧
      Directive.ofJson? (.obj removal) = some (.call .delete "/clients/7" none none) ∧
      ¬ Fence.mark <:+: (Json.obj removal).compact.toList ∧
      '{' ∉ "Voici\x60\x60".toList ∧ ¬ Fence.mark <:+: "Voici\x60\x60".toList ∧
      interpret ("Voici\x60\x60" ++ fenced "json" "\r\n" (Json.obj removal).compact "\n" ++
          fenced "" "\n" "\x7b\"action\":\"reply\",\"message\":\"x\"\x7d" "\n") =
        .directive (.call .delete "/clients/7" none none) := by
  have hread : Json.startValue? (Json.obj removal).compact.toList = some (.obj removal) := by
    decide +kernel
  have hregular := Json.regular_of_startValue? hread
  have hfloat : (Json.obj removal).Floatless := .obj (by simp [removal, Json.Floatless.str])
  have hd : Directive.ofJson? (.obj removal) = some (.call .delete "/clients/7" none none) := by
    decide +kernel
  have hmark : ¬ Fence.mark <:+: (Json.obj removal).compact.toList := by decide +kernel
  have hp : '{' ∉ "Voici\x60\x60".toList := by decide
  have hpmark : ¬ Fence.mark <:+: "Voici\x60\x60".toList := by decide
  have htag : ∀ c ∈ "json".toList, c.isAlpha = true := List.all_eq_true.mp (by decide)
  refine ⟨hregular, hfloat, hd, hmark, hp, hpmark, ?_⟩
  exact (interpret_prose hregular hfloat hd hmark hp hpmark).2 _ _ _ _ htag (by simp [newlines])
    (by simp [newlines])

end YardConsole.Advice
