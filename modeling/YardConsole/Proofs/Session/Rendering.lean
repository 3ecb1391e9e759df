import YardConsole.Advice.Answer
import YardConsole.Json.Equality
import YardConsole.Proofs.Json.RoundTrip
import YardConsole.Rpc.Tool

/-! # What is shown of a value

A tool result and an answer of the relay are shown as a text they carry. Where they carry none
they are written out, indented, and nothing of them is lost: the text is read as the value again.
-/

namespace YardConsole

namespace Json

variable {j : Json} {key : String}

theorem text?_eq_some_iff {t : String} : j.text? key = some t ↔ j.get? key = some (.str t) := by
  unfold text?
  rcases j.get? key with _ | v
  · simp
  · cases v <;> simp [string?]

theorem text?_eq_none_iff : j.text? key = none ↔ ∀ t, j.get? key ≠ some (.str t) := by
  simp only [Option.eq_none_iff_forall_ne_some, ne_eq, text?_eq_some_iff]

theorem items?_eq_some_iff {items : List Json} : j.items? = some items ↔ j = .arr items := by
  cases j <;> simp [items?]

end Json

/-! ## Tool results -/

namespace Tool

def ItemText (item : Json) (t : String) : Prop :=
  item.get? "text" = some (.str t) ∧ ∀ kind, item.get? "type" = some (.str kind) → kind = "text"

def NoText (items : List Json) : Prop := ∀ item ∈ items, ∀ t, ¬ ItemText item t

theorem itemText?_eq_some_iff {item : Json} {t : String} :
    itemText? item = some t ↔ ItemText item t := by
  unfold itemText? ItemText
  rw [← Json.text?_eq_some_iff]
  cases htype : item.text? "type" with
  | none =>
    rw [Json.text?_eq_none_iff] at htype
    exact ⟨fun h => ⟨h, fun kind hkind => absurd hkind (htype kind)⟩, And.left⟩
  | some kind =>
    rw [Json.text?_eq_some_iff] at htype
    simp only [htype, Option.some.injEq, Json.str.injEq, forall_eq']
    by_cases hkind : kind = "text"
    · simp [hkind]
    · simp [hkind]

theorem itemText?_eq_none_iff {item : Json} :
    itemText? item = none ↔ ∀ t, ¬ ItemText item t := by
  simp only [Option.eq_none_iff_forall_ne_some, ne_eq, itemText?_eq_some_iff]

/-- What is shown of a result: the first text of its content, or all of it. -/
inductive Shown (v : Json) : String → Prop
  | item {before item after t} (hcontent : v.get? "content" = some (.arr (before ++ item :: after)))
      (hitem : ItemText item t) (hbefore : NoText before) : Shown v t
  | whole (hnone : ∀ items, v.get? "content" = some (.arr items) → NoText items)
      (hback : Json.parse v.indented = .ok v) : Shown v v.indented

def firstText? (v : Json) : Option String :=
  (v.get? "content").bind fun content => content.items?.bind (List.findSome? itemText?)

section

variable {v : Json}

theorem resultText_eq (v : Json) : resultText v = (firstText? v).getD v.indented := by
  unfold resultText firstText?
  rcases v.get? "content" with _ | content
  · rfl
  · cases content <;> rfl

theorem firstText?_eq_some_iff {t : String} : firstText? v = some t ↔
    ∃ before item after, v.get? "content" = some (.arr (before ++ item :: after)) ∧
      ItemText item t ∧ NoText before := by
  simp only [firstText?, NoText, Option.bind_eq_some_iff, Json.items?_eq_some_iff,
    List.findSome?_eq_some_iff, itemText?_eq_some_iff, itemText?_eq_none_iff]
  constructor
  · rintro ⟨_, hcontent, _, rfl, before, item, after, rfl, hitem, hbefore⟩
    exact ⟨before, item, after, hcontent, hitem, hbefore⟩
  · rintro ⟨before, item, after, hcontent, hitem, hbefore⟩
    exact ⟨_, hcontent, _, rfl, before, item, after, rfl, hitem, hbefore⟩

theorem firstText?_eq_none_iff : firstText? v = none ↔
    ∀ items, v.get? "content" = some (.arr items) → NoText items := by
  simp only [firstText?, NoText, Option.bind_eq_none_iff, Json.items?_eq_some_iff,
    List.findSome?_eq_none_iff, itemText?_eq_none_iff]
  exact ⟨fun h items hcontent => h _ hcontent items rfl,
    fun h _ hcontent items heq => h items (heq ▸ hcontent)⟩

theorem shown_iff (h : v.Regular Json.maxDepth) (hfloat : v.Floatless) (t : String) :
    resultText v = t ↔ Shown v t := by
  rw [resultText_eq]
  constructor
  · rintro rfl
    cases hfirst : firstText? v with
    | none =>
      have hback := Json.parse_write Json.Layout.blank_indented h hfloat
      exact .whole (firstText?_eq_none_iff.mp hfirst) hback
    | some t =>
      obtain ⟨_, _, _, hcontent, hitem, hbefore⟩ := firstText?_eq_some_iff.mp hfirst
      exact .item hcontent hitem hbefore
  · intro hshown
    cases hshown with
    | item hcontent hitem hbefore =>
      rw [firstText?_eq_some_iff.mpr ⟨_, _, _, hcontent, hitem, hbefore⟩, Option.getD_some]
    | whole hnone => rw [firstText?_eq_none_iff.mpr hnone, Option.getD_none]

end

end Tool

/-! ## Answers of the relay -/

namespace Answer

def PartText (part : Json) (t : String) : Prop := part = .str t ∨ part.get? "text" = some (.str t)

def IsFirst (choices first : Json) : Prop :=
  choices.item? 0 = some first ∨ choices.get? "0" = some first

/-- The value carries a text in one of the shapes the relay wraps texts in. -/
inductive Offers (j : Json) : Prop
  | answer {t} (h : j.get? "answer" = some (.str t))
  | message {t} (h : j.get? "message" = some (.str t))
  | content {parts part t} (hparts : j.get? "content" = some (.arr parts)) (hpart : part ∈ parts)
      (h : PartText part t)
  | choices {choices first message t} (hchoices : j.get? "choices" = some choices)
      (hfirst : IsFirst choices first) (hmessage : first.get? "message" = some message)
      (h : message.get? "content" = some (.str t))

section

variable {j : Json}

theorem partText?_eq_some_iff {t : String} : partText? j = some t ↔ PartText j t := by
  unfold PartText
  cases j with
  | str s => simp [partText?, Json.get?]
  | _ => simp [partText?, Json.text?_eq_some_iff]

theorem first?_eq_some_iff {first : Json} : first? j = some first ↔ IsFirst j first := by
  unfold first? IsFirst
  cases j <;> simp [Json.item?, Json.get?]

theorem string?_eq_none_iff : j.string? = none ↔ ∀ s, j ≠ .str s := by
  cases j <;> simp [Json.string?]

theorem contentText?_eq_none_iff : contentText? j = none ↔
    ∀ parts, j.get? "content" = some (.arr parts) → ∀ part ∈ parts, ∀ t, ¬ PartText part t := by
  have htexts : ∀ parts : List Json, parts.filterMap partText? = [] ↔
      ∀ part ∈ parts, ∀ t, ¬ PartText part t := by
    intro parts
    simp only [List.filterMap_eq_nil_iff, Option.eq_none_iff_forall_ne_some, ne_eq,
      partText?_eq_some_iff]
  simp only [contentText?, Option.bind_eq_bind, Option.bind_eq_none_iff, Json.items?_eq_some_iff,
    ite_eq_left_iff, List.isEmpty_iff, reduceCtorEq, imp_false, not_not, htexts]
  exact ⟨fun h parts hparts => h _ hparts parts rfl, fun h _ hj parts heq => h parts (heq ▸ hj)⟩

theorem choiceText?_eq_some_iff {t : String} : choiceText? j = some t ↔
    ∃ choices, j.get? "choices" = some choices ∧ ∃ first, IsFirst choices first ∧
      ∃ message, first.get? "message" = some message ∧
        message.get? "content" = some (.str t) := by
  simp only [choiceText?, Option.bind_eq_bind, Option.bind_eq_some_iff, first?_eq_some_iff,
    Json.text?_eq_some_iff]

theorem textIn?_eq_none_iff : textIn? j = none ↔ (∀ s, j ≠ .str s) ∧ ¬ Offers j := by
  simp only [textIn?, Option.or_eq_none_iff, and_assoc, string?_eq_none_iff,
    Json.text?_eq_none_iff, contentText?_eq_none_iff]
  constructor
  · rintro ⟨hstr, hanswer, hmessage, hcontent, hchoice⟩
    refine ⟨hstr, fun hoffers => ?_⟩
    cases hoffers with
    | answer h => exact hanswer _ h
    | message h => exact hmessage _ h
    | content hparts hpart h => exact hcontent _ hparts _ hpart _ h
    | choices hchoices hfirst hmessage h =>
      have htext := choiceText?_eq_some_iff.mpr ⟨_, hchoices, _, hfirst, _, hmessage, h⟩
      rw [hchoice] at htext
      cases htext
  · rintro ⟨hstr, hoffers⟩
    refine ⟨hstr, fun t h => hoffers (.answer h), fun t h => hoffers (.message h),
      fun parts hparts part hpart t h => hoffers (.content hparts hpart h), ?_⟩
    rw [Option.eq_none_iff_forall_ne_some]
    intro t h
    obtain ⟨choices, hchoices, first, hfirst, message, hmessage, h⟩ :=
      choiceText?_eq_some_iff.mp h
    exact hoffers (.choices hchoices hfirst hmessage h)

theorem text_of_bare {body : String} (hbody : Json.parse body = .ok j) (hstr : ∀ s, j ≠ .str s)
    (hoffers : ¬ Offers j) : text body = j.indented := by
  unfold text
  rw [hbody]
  simp only [textIn?_eq_none_iff.mpr ⟨hstr, hoffers⟩, Option.getD_none]

theorem text_of_error {body : String} {e : Json.ReadError} (hbody : Json.parse body = .error e) :
    text body = body := by
  unfold text
  rw [hbody]

end

end Answer

/-- What carries no text is shown as a text that is read as the value again, and what is no value
is shown as it is. -/
theorem shown_losslessly :
    (∀ v : Json, v.Regular Json.maxDepth → v.Floatless →
      ∀ t, Tool.resultText v = t ↔ Tool.Shown v t) ∧
    (∀ body v, Json.parse body = .ok v → v.Floatless → (∀ s, v ≠ .str s) → ¬ Answer.Offers v →
      Answer.text body = v.indented ∧ Json.parse (Answer.text body) = .ok v) ∧
    ∀ body e, Json.parse body = .error e → Answer.text body = body := by
  refine ⟨fun v h hfloat => Tool.shown_iff h hfloat, ?_, fun _ _ => Answer.text_of_error⟩
  intro body v hbody hfloat hstr hoffers
  have htext := Answer.text_of_bare hbody hstr hoffers
  refine ⟨htext, ?_⟩
  rw [htext]
  exact Json.parse_write Json.Layout.blank_indented (Json.regular_of_read hbody) hfloat

def pictured : Json :=
  .obj [("content", .arr [.obj [("text", .str "coque"), ("type", .str "image")]])]

theorem shown_pictured :
    pictured.Regular Json.maxDepth ∧ pictured.Floatless ∧
      Tool.Shown pictured (Tool.resultText pictured) ∧
      Json.parse "[12, \x7b\"answer\": \"Brest\"\x7d]" =
        .ok (.arr [.int 12, .obj [("answer", .str "Brest")]]) ∧
      Json.parse (Answer.text "[12, \x7b\"answer\": \"Brest\"\x7d]") =
        .ok (.arr [.int 12, .obj [("answer", .str "Brest")]]) ∧
      Json.parse "Bonjour" = .error ⟨.expectedValue, 1, 1⟩ ∧ Answer.text "Bonjour" = "Bonjour" := by
  have hitem : (Json.obj [("text", .str "coque"), ("type", .str "image")]).Regular 1 :=
    .obj (show ["text", "type"].Pairwise (· < ·) by decide) (by simp [Json.Regular.str])
  have hregular : pictured.Regular Json.maxDepth :=
    (hitem.item.member "content").mono (by decide)
  have hfloat : pictured.Floatless :=
    (Json.Floatless.item (.obj (by simp [Json.Floatless.str]))).member "content"
  have hbody : Json.parse "[12, \x7b\"answer\": \"Brest\"\x7d]" =
      .ok (.arr [.int 12, .obj [("answer", .str "Brest")]]) := by decide +kernel
  have hbare : Json.Floatless (.arr [.int 12, .obj [("answer", .str "Brest")]]) := by
    refine .arr ?_
    simpa using ⟨Json.Floatless.int 12, (Json.Floatless.str "Brest").member "answer"⟩
  have hnone : Answer.textIn? (.arr [.int 12, .obj [("answer", .str "Brest")]]) = none := by decide
  obtain ⟨hstr, hoffers⟩ := Answer.textIn?_eq_none_iff.mp hnone
  have hplain : Json.parse "Bonjour" = .error ⟨.expectedValue, 1, 1⟩ := by decide +kernel
  exact ⟨hregular, hfloat, (shown_losslessly.1 _ hregular hfloat _).mp rfl, hbody,
    (shown_losslessly.2.1 _ _ hbody hbare hstr hoffers).2, hplain,
    shown_losslessly.2.2 _ _ hplain⟩

end YardConsole
