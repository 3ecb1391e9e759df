import YardConsole.Advice.Answer
import YardConsole.Proofs.Advice.Whole
import YardConsole.Proofs.Json.Layout

/-! # Shapes of answers

The relay may wrap what the assistant says, in one of six shapes, or pass it on as it is. A call
comes through in all of them.
-/

namespace YardConsole

/-! ## Wrapped texts -/

namespace Answer

def shapes (t : String) : List Json := [
  .str t, .obj [("answer", .str t)], .obj [("message", .str t)], .obj [("content", .arr [.str t])],
  .obj [("content", .arr [.obj [("text", .str t), ("type", .str "text")]])],
  .obj [("choices", .arr [.obj [("message", .obj [("content", .str t)])]])]]

section

variable {t : String} {j : Json}

theorem regular_part (t : String) :
    (Json.obj [("text", .str t), ("type", .str "text")]).Regular 1 :=
  .obj (show ["text", "type"].Pairwise (· < ·) by decide) (by simp [Json.Regular.str])

theorem floatless_part (t : String) :
    (Json.obj [("text", .str t), ("type", .str "text")]).Floatless :=
  .obj (by simp [Json.Floatless.str])

theorem regular_of_shape (h : j ∈ shapes t) : j.Regular Json.maxDepth := by
  have htext : (Json.str t).Regular 0 := .str t
  simp only [shapes, List.mem_cons, List.not_mem_nil, or_false] at h
  rcases h with rfl | rfl | rfl | rfl | rfl | rfl
  · exact .str t
  · exact (htext.member "answer").mono (by decide)
  · exact (htext.member "message").mono (by decide)
  · exact (htext.item.member "content").mono (by decide)
  · exact ((regular_part t).item.member "content").mono (by decide)
  · exact (((htext.member "content").member "message").item.member "choices").mono (by decide)

theorem floatless_of_shape (h : j ∈ shapes t) : j.Floatless := by
  have htext : (Json.str t).Floatless := .str t
  simp only [shapes, List.mem_cons, List.not_mem_nil, or_false] at h
  rcases h with rfl | rfl | rfl | rfl | rfl | rfl
  · exact htext
  · exact htext.member "answer"
  · exact htext.member "message"
  · exact htext.item.member "content"
  · exact (floatless_part t).item.member "content"
  · exact ((htext.member "content").member "message").item.member "choices"

theorem parse_of_shape (h : j ∈ shapes t) : Json.parse j.compact = .ok j :=
  Json.parse_write Json.Layout.blank_compact (regular_of_shape h) (floatless_of_shape h)

theorem textIn?_of_shape (h : j ∈ shapes t) : textIn? j = some t := by
  simp only [shapes, List.mem_cons, List.not_mem_nil, or_false] at h
  rcases h with rfl | rfl | rfl | rfl | rfl | rfl <;> rfl

theorem text_of_shape (h : j ∈ shapes t) {body : String} (hbody : Json.parse body = .ok j) :
    text body = t := by
  rw [text, hbody]
  simp only [textIn?_of_shape h, Option.getD_some]

end

/-! ## Calls as they are -/

def callKeys : List String := ["action", "method", "path", "query", "body"]

section

variable {members : List (String × Json)}

theorem get?_eq_none (hkeys : ∀ m ∈ members, m.1 ∈ callKeys) (key : String)
    (hkey : key ∉ callKeys) : (Json.obj members).get? key = none := by
  rw [Json.get?, List.lookup_eq_none_iff]
  intro m hm
  have hne : key ≠ m.1 := by
    rintro rfl
    exact hkey (hkeys m hm)
  simpa using hne

theorem textIn?_eq_none (hkeys : ∀ m ∈ members, m.1 ∈ callKeys) :
    textIn? (.obj members) = none := by
  have hanswer := get?_eq_none hkeys "answer" (by decide)
  have hmessage := get?_eq_none hkeys "message" (by decide)
  have hcontent := get?_eq_none hkeys "content" (by decide)
  have hchoices := get?_eq_none hkeys "choices" (by decide)
  simp only [textIn?, Json.string?, Json.text?, contentText?, choiceText?, hanswer, hmessage,
    hcontent, hchoices]
  rfl

theorem text_of_call (hkeys : ∀ m ∈ members, m.1 ∈ callKeys) {body : String}
    (hbody : Json.parse body = .ok (.obj members)) : text body = (Json.obj members).indented := by
  rw [text, hbody]
  simp only [textIn?_eq_none hkeys, Option.getD_none]

end

end Answer

namespace Advice

variable {members : List (String × Json)}

theorem free_mark (c : Char) (hc : Json.isGlue c = true) : c ∉ Fence.mark := by
  intro h
  obtain rfl : c = '\x60' := by simpa [Fence.mark] using h
  exact absurd hc (by decide)

theorem interpret_write {l : Json.Layout} (hl : l.Blank)
    (hregular : (Json.obj members).Regular Json.maxDepth) (hfloat : (Json.obj members).Floatless)
    (hmark : ¬ Fence.mark <:+: (Json.obj members).compact.toList) {d : Directive}
    (hd : Directive.ofJson? (.obj members) = some d) :
    interpret (String.ofList ((Json.obj members).write l 0)) = .directive d := by
  have hnone : Fence.block? ((Json.obj members).write l 0) = none := by
    apply Fence.block?_eq_none
    rwa [Json.infix_write_iff free_mark (by decide) hl Json.Layout.blank_compact _ 0 0,
      ← Json.line, ← Json.toList_compact]
  rw [interpret_eq_directive_iff, String.toList_ofList, directive?, hnone,
    directiveIn?_write hl hregular hfloat, hd]
  rfl

/-- A wrapped text comes out as it went in, and a call without marks is the same call whether it is
wrapped or stands as it is. -/
theorem interpret_shapes :
    (∀ t, ∀ j ∈ Answer.shapes t, Json.parse j.compact = .ok j ∧
      ∀ body, Json.parse body = .ok j → Answer.text body = t) ∧
    ∀ members m path query data, (Json.obj members).Regular Json.maxDepth →
      (Json.obj members).Floatless → (∀ m ∈ members, m.1 ∈ Answer.callKeys) →
      Directive.ofJson? (.obj members) = some (.call m path query data) →
      ¬ Fence.mark <:+: (Json.obj members).compact.toList →
      Directive.instruction? (.call m path query data) = some (.of m path query data) ∧
      interpret (Json.obj members).compact = .directive (.call m path query data) ∧
      Json.parse (Json.obj members).compact = .ok (.obj members) ∧
      ∀ body j, Json.parse body = .ok j →
        j = .obj members ∨ j ∈ Answer.shapes (Json.obj members).compact →
        interpret (Answer.text body) = .directive (.call m path query data) := by
  refine ⟨fun t j hj => ⟨Answer.parse_of_shape hj, fun _ => Answer.text_of_shape hj⟩, ?_⟩
  intro members m path query data hregular hfloat hkeys hd hmark
  have hcompact : interpret (Json.obj members).compact = .directive (.call m path query data) :=
    interpret_write Json.Layout.blank_compact hregular hfloat hmark hd
  refine ⟨(Directive.says_of_ofJson? hd).instruction, hcompact, ?_, ?_⟩
  · rw [Json.parse, Json.toList_compact]
    exact Json.read_line hregular hfloat
  · rintro body j hbody (rfl | hj)
    -- An object in none of the six shapes is written anew, indented.
    · rw [Answer.text_of_call hkeys hbody]
      exact interpret_write Json.Layout.blank_indented hregular hfloat hmark hd
    · rw [Answer.text_of_shape hj hbody]
      exact hcompact

def creation : List (String × Json) := [
  ("action", .str "mcp_call"), ("body", .obj [("ville", .str "Brest")]), ("method", .str "post"),
  ("path", .str "clients")]

theorem creation_wrapped :
    (Json.obj creation).Regular Json.maxDepth ∧ (Json.obj creation).Floatless ∧
      (∀ m ∈ creation, m.1 ∈ Answer.callKeys) ∧
      Directive.ofJson? (.obj creation) =
        some (.call .post "/clients" none (some (.obj [("ville", .str "Brest")]))) ∧
      ¬ Fence.mark <:+: (Json.obj creation).compact.toList ∧
      interpret (Answer.text
          (Json.obj [("answer", .str (Json.obj creation).compact)]).compact) =
        .directive (.call .post "/clients" none (some (.obj [("ville", .str "Brest")]))) := by
  have hread : Json.startValue? (Json.obj creation).compact.toList = some (.obj creation) := by
    decide +kernel
  have hregular := Json.regular_of_startValue? hread
  have hdata : (Json.obj [("ville", .str "Brest")]).Floatless :=
    (Json.Floatless.str _).member "ville"
  have hfloat : (Json.obj creation).Floatless :=
    .obj (by simp [creation, Json.Floatless.str, hdata])
  have hkeys : ∀ m ∈ creation, m.1 ∈ Answer.callKeys := by decide +kernel
  have hd : Directive.ofJson? (.obj creation) =
      some (.call .post "/clients" none (some (.obj [("ville", .str "Brest")]))) := by
    decide +kernel
  have hmark : ¬ Fence.mark <:+: (Json.obj creation).compact.toList := by decide +kernel
  have hshape : Json.obj [("answer", .str (Json.obj creation).compact)] ∈
      Answer.shapes (Json.obj creation).compact := by simp [Answer.shapes]
  have hparse := (interpret_shapes.1 _ _ hshape).1
  obtain ⟨-, -, -, hbodies⟩ := interpret_shapes.2 _ _ _ _ _ hregular hfloat hkeys hd hmark
  exact ⟨hregular, hfloat, hkeys, hd, hmark, hbodies _ _ hparse (.inr hshape)⟩

end Advice

end YardConsole
