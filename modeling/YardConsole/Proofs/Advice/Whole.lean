import YardConsole.Proofs.Advice.Cut
import YardConsole.Proofs.Json.RoundTrip

/-! # Whole answers

What an answer that is one object comes to. The object is read as it was written, but marks in its
strings make a fenced block of what stands between them, and a directive in there goes first.
-/

namespace YardConsole.Advice

/-! ## Objects in the block -/

/-- The object in `v` stands whole in the text, and none can be read before it. -/
def Leads (v : Json) (cs : List Char) (ms : List (String × Json)) : Prop :=
  v.Contains (.obj ms) ∧ ∃ before after, cs = before ++ ((Json.obj ms).compact.toList ++ after) ∧
    ∀ a b, before = a ++ '{' :: b →
      Json.startValue? ('{' :: (b ++ ((Json.obj ms).compact.toList ++ after))) = none

/-- An object in `v` leads in the fenced block of the line of `v`, and is the directive. -/
def Shadows (d : Directive) (v : Json) : Prop :=
  ∃ block ms, Fence.block? v.compact.toList = some block ∧ Leads v block ms ∧
    Directive.ofJson? (.obj ms) = some d

variable {members : List (String × Json)}

theorem startValue?_compact (hregular : (Json.obj members).Regular Json.maxDepth)
    (hfloat : (Json.obj members).Floatless) :
    Json.startValue? (Json.obj members).compact.toList = some (.obj members) := by
  rw [Json.toList_compact]
  exact Json.startValue?_of_line hregular hfloat

theorem survives_iff (hregular : (Json.obj members).Regular Json.maxDepth)
    (hfloat : (Json.obj members).Floatless) (cs : List Char) (d : Directive) :
    Survives (.obj members) cs d ↔
      ∃ ms, Leads (.obj members) cs ms ∧ Directive.ofJson? (.obj ms) = some d := by
  have hreads : ∀ ms, (Json.obj members).Contains (.obj ms) →
      (Json.startValue? (Json.obj ms).compact.toList).bind Directive.ofJson? =
        Directive.ofJson? (.obj ms) := by
    intro ms hin
    rw [startValue?_compact (hregular.of_contains hin) (hfloat.of_contains hin)]
    rfl
  constructor
  · rintro ⟨ms, before, after, hin, hcs, hearlier, hd⟩
    exact ⟨ms, ⟨hin, before, after, hcs, hearlier⟩, hreads ms hin ▸ hd⟩
  · rintro ⟨ms, ⟨hin, before, after, hcs, hearlier⟩, hd⟩
    exact ⟨ms, before, after, hin, hcs, hearlier, (hreads ms hin).trans hd⟩

theorem directiveIn?_block_iff {block : List Char}
    (hblock : Fence.block? (Json.obj members).compact.toList = some block) (d : Directive) :
    directiveIn? block = some d ↔ Survives (.obj members) block d := by
  obtain ⟨left, behind, hline⟩ := Fence.block?_split hblock
  rw [Json.toList_compact] at hline
  -- The mark behind the block cuts it off from the last brace, as in a cut answer.
  exact ⟨survives_of_directiveIn? hline (by simp [Fence.mark]), directiveIn?_of_survives⟩

theorem fenced_iff (hregular : (Json.obj members).Regular Json.maxDepth)
    (hfloat : (Json.obj members).Floatless) (d : Directive) :
    (Fence.block? (Json.obj members).compact.toList).bind directiveIn? = some d ↔
      Shadows d (.obj members) := by
  rw [Option.bind_eq_some_iff]
  constructor
  · rintro ⟨block, hblock, hd⟩
    have hsurvives := (directiveIn?_block_iff hblock d).mp hd
    obtain ⟨ms, hleads, hfrom⟩ := (survives_iff hregular hfloat block d).mp hsurvives
    exact ⟨block, ms, hblock, hleads, hfrom⟩
  · rintro ⟨block, ms, hblock, hleads, hfrom⟩
    have hsurvives := (survives_iff hregular hfloat block d).mpr ⟨ms, hleads, hfrom⟩
    exact ⟨block, hblock, (directiveIn?_block_iff hblock d).mpr hsurvives⟩

/-! ## The whole answer -/

theorem directiveIn?_write {l : Json.Layout} (hl : l.Blank)
    (hregular : (Json.obj members).Regular Json.maxDepth) (hfloat : (Json.obj members).Floatless) :
    directiveIn? ((Json.obj members).write l 0) = Directive.ofJson? (.obj members) := by
  have hread := Json.startValue?_of_write hl hregular hfloat 0
  have hbrace : ∃ cs, (Json.obj members).write l 0 = '{' :: cs := by
    cases members with
    | nil => exact ⟨_, rfl⟩
    | cons => exact ⟨_, rfl⟩
  obtain ⟨cs, htext⟩ := hbrace
  rw [htext] at hread ⊢
  exact directiveIn?_of_startValue? hread

theorem directiveIn?_compact (hregular : (Json.obj members).Regular Json.maxDepth)
    (hfloat : (Json.obj members).Floatless) :
    directiveIn? (Json.obj members).compact.toList = Directive.ofJson? (.obj members) := by
  rw [Json.toList_compact]
  exact directiveIn?_write Json.Layout.blank_compact hregular hfloat

/-- An answer that is one object with a directive comes to that one, unless another one leads in
its fenced block. -/
theorem interpret_whole (hregular : (Json.obj members).Regular Json.maxDepth)
    (hfloat : (Json.obj members).Floatless) {d : Directive}
    (hd : Directive.ofJson? (.obj members) = some d) (found : Directive) :
    interpret (Json.obj members).compact = .directive found ↔
      Shadows found (.obj members) ∨
        (∀ other, ¬ Shadows other (.obj members)) ∧ found = d := by
  have hnone : (Fence.block? (Json.obj members).compact.toList).bind directiveIn? = none ↔
      ∀ other, ¬ Shadows other (.obj members) := by
    rw [Option.eq_none_iff_forall_ne_some]
    exact forall_congr' fun other => not_congr (fenced_iff hregular hfloat other)
  rw [interpret_eq_directive_iff, directive?, directiveIn?_compact hregular hfloat, hd,
    Option.or_eq_some_iff, fenced_iff hregular hfloat, hnone, Option.some.injEq, eq_comm (a := d)]

/-! ## A reply with marks in it -/

def markedReply : List (String × Json) := [
  ("action", .str "reply"), ("message", .str "\x60\x60\x60"),
  ("note", .obj [("action", .str "mcp_call"), ("method", .str "DELETE"), ("path", .str "/x")]),
  ("z", .str "\x60\x60\x60")]

theorem regular_markedReply : (Json.obj markedReply).Regular Json.maxDepth := by
  have hread : Json.startValue? (Json.obj markedReply).compact.toList =
      some (.obj markedReply) := by decide +kernel
  exact Json.regular_of_startValue? hread

theorem floatless_markedReply : (Json.obj markedReply).Floatless := by
  have hnote : (Json.obj [("action", .str "mcp_call"), ("method", .str "DELETE"),
      ("path", .str "/x")]).Floatless := .obj (by simp [Json.Floatless.str])
  exact .obj (by simp [markedReply, Json.Floatless.str, hnote])

theorem markedReply_deletes :
    (Json.obj markedReply).Regular Json.maxDepth ∧ (Json.obj markedReply).Floatless ∧
      Directive.ofJson? (.obj markedReply) = some (.reply "\x60\x60\x60") ∧
      interpret (Json.obj markedReply).compact =
        .directive (.call .delete "/x" none none) := by
  refine ⟨regular_markedReply, floatless_markedReply, by decide +kernel, by decide +kernel⟩

theorem markedReply_shadowed :
    (Json.obj markedReply).Regular Json.maxDepth ∧ (Json.obj markedReply).Floatless ∧
      Directive.ofJson? (.obj markedReply) = some (.reply "\x60\x60\x60") ∧
      Shadows (.call .delete "/x" none none) (.obj markedReply) := by
  have hd : Directive.ofJson? (.obj markedReply) = some (.reply "\x60\x60\x60") := by
    decide +kernel
  have hread : interpret (Json.obj markedReply).compact =
      .directive (.call .delete "/x" none none) := by decide +kernel
  have hwhole := interpret_whole regular_markedReply floatless_markedReply hd
    (.call .delete "/x" none none)
  exact ⟨regular_markedReply, floatless_markedReply, hd,
    (hwhole.mp hread).resolve_right fun h => nomatch h.2⟩

end YardConsole.Advice
