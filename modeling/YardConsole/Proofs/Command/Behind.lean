import YardConsole.Proofs.Command.Phrase
import YardConsole.Proofs.Json.RoundTrip
import YardConsole.Proofs.Text.Blank

/-! # What stands behind a phrase

An object behind a phrase is read whole, whatever stands behind it, and it becomes the body of a
call. Which call that is, is settled before it.
-/

namespace YardConsole

/-! ## Objects -/

namespace Json

/-- An object ends before the blanks at the end of its text. -/
theorem startValue?_trimEnd {cs : List Char} {j : Json} (h : startValue? ('{' :: cs) = some j) :
    startValue? ('{' :: Text.trimEnd cs) = some j := by
  obtain ⟨r, hread⟩ := startValue?_eq_some h
  obtain ⟨_, t, _, -, rfl, -, hobject⟩ := objectText_of_value hread
  obtain ⟨inside, rfl, -⟩ := passes_any.objectText (fun _ _ _ _ _ => trivial) hobject
  -- The object ends with a brace, so only what stands behind it is trimmed.
  have hlast : ∀ c ∈ (inside ++ ['}']).getLast?, Text.isBlank c = false := by
    intro c hc
    obtain rfl : '}' = c := by simpa using hc
    decide
  rw [Text.trimEnd_append hlast, startValue?, value_brace_append hread]

theorem exists_line_obj (members : List (String × Json)) :
    ∃ inside, line (.obj members) = '{' :: (inside ++ ['}']) := by
  obtain ⟨inside, hline, -⟩ := passes_any.line_obj fun m (_ : m ∈ members) => trivial
  exact ⟨inside, hline⟩

theorem startValue?_line_append {members : List (String × Json)}
    (hregular : (obj members).Regular maxDepth) (hfloat : (obj members).Floatless)
    {cs : List Char} (hline : line (.obj members) = '{' :: cs) (after : List Char) :
    startValue? ('{' :: (cs ++ after)) = some (.obj members) := by
  have hread := startValue?_of_line hregular hfloat
  rw [hline] at hread
  exact startValue?_brace_append hread after

end Json

theorem Embedded.atFirstBrace_trimEnd {cs : List Char} {j : Json}
    (h : Json.startValue? ('{' :: cs) = some j) :
    atFirstBrace ('{' :: Text.trimEnd cs) = .value j :=
  atFirstBrace_append (p := []) List.not_mem_nil (Json.startValue?_trimEnd h)

namespace Phrase

/-! ## Phrases with a brace -/

def outcome (catalog : Catalog) (head : String) (tail : List Char) :
    Except Failure (Option Instruction) :=
  if listingPhrases.any (Text.contains head) then .ok (some .listResources)
  else
    match catalog.resolve head with
    | none => .ok none
    | some (path, keyword) =>
      let words := wordsOf head
      instruction {
        path, keyword, words, tail
        number := numberOf? head
        verb := verbOf? head words }

theorem parse_eq_outcome (catalog : Catalog) (input : String) :
    parse catalog input = outcome catalog (headOf (Text.trimList input.toList))
      (Embedded.fromBrace (Text.trimList input.toList)) := rfl

/-- The head of a phrase with nothing behind it: its text, without the blanks before it, in lower
case. -/
def headAlone (h : String) : String := headOf (Text.trimStart h.toList)

theorem parse_append {h j : String} (hh : '{' ∉ h.toList) {cs : List Char}
    (hj : j.toList = '{' :: cs) (catalog : Catalog) :
    parse catalog (h ++ j) = outcome catalog (headAlone h) ('{' :: Text.trimEnd cs) := by
  have hfree : '{' ∉ Text.trimStart h.toList := fun hc =>
    hh ((List.dropWhile_suffix _).subset hc)
  have htext : Text.trimList (h ++ j).toList =
      Text.trimStart h.toList ++ '{' :: Text.trimEnd cs := by
    rw [String.toList_append, hj, Text.trimList_append_cons (by decide)]
  rw [parse_eq_outcome, htext, Embedded.fromBrace_append hfree, headAlone, headOf, headOf,
    Embedded.before_append hfree, Embedded.before_of_free hfree]

theorem requiredBody_of_value {tail : List Char} {j : Json}
    (h : Embedded.atFirstBrace tail = .value j) (missing : String) :
    requiredBody tail missing = .ok j := by
  rw [requiredBody, h]

/-! ## Two runs -/

/-- Calls that differ in their bodies alone. -/
structure SameCall (i₁ i₂ : Instruction) : Prop where
  method : i₁.method = i₂.method
  path : i₁.path = i₂.path
  query : i₁.query = i₂.query

/-- Outcomes that differ in the bodies of their calls alone, which are `o₁` and `o₂`. -/
inductive Alike (o₁ o₂ : Json) :
    Except Failure (Option Instruction) → Except Failure (Option Instruction) → Prop
  | nothing : Alike o₁ o₂ (.ok none) (.ok none)
  | failure (e : Failure) : Alike o₁ o₂ (.error e) (.error e)
  | bare {i₁ i₂} (hcall : SameCall i₁ i₂) (h₁ : i₁.body = none) (h₂ : i₂.body = none) :
      Alike o₁ o₂ (.ok (some i₁)) (.ok (some i₂))
  | body {i₁ i₂} (hcall : SameCall i₁ i₂) (h₁ : i₁.body = some o₁) (h₂ : i₂.body = some o₂) :
      Alike o₁ o₂ (.ok (some i₁)) (.ok (some i₂))

/-- What `f` comes to depends on the text at the brace through the body of its call alone. -/
inductive BodyOnly (f : List Char → Except Failure (Option Instruction)) : Prop
  | bare (x : Except Failure (Option Instruction)) (hbody : ∀ i, x = .ok (some i) → i.body = none)
      (hf : ∀ tail, f tail = x)
  | body (i : Instruction) (missing : String)
      (hf : ∀ tail, f tail = (requiredBody tail missing).map fun o => some (i.withBody o))

namespace BodyOnly

theorem nothing : BodyOnly fun _ => .ok none := .bare _ (by rintro _ ⟨⟩) fun _ => rfl

theorem failure (e : Failure) : BodyOnly fun _ => .error e := .bare _ (by rintro _ ⟨⟩) fun _ => rfl

theorem call {i : Instruction} (h : i.body = none) : BodyOnly fun _ => .ok (some i) := by
  refine .bare _ ?_ fun _ => rfl
  rintro _ ⟨⟩
  exact h

theorem item {i : String → Instruction} (h : ∀ number, (i number).body = none)
    (number : Option String) : BodyOnly fun _ => .ok (number.map i) := by
  cases number with
  | none => exact nothing
  | some number => exact call (h number)

theorem withBody (i : Instruction) (missing : String) :
    BodyOnly fun tail => ((requiredBody tail missing).map i.withBody).map some := by
  refine .body i missing fun tail => ?_
  cases requiredBody tail missing with
  | error e => rfl
  | ok o => rfl

section

variable {f : List Char → Except Failure (Option Instruction)} {t₁ t₂ : List Char}

theorem alike (hf : BodyOnly f) {o₁ o₂ : Json} (h₁ : Embedded.atFirstBrace t₁ = .value o₁)
    (h₂ : Embedded.atFirstBrace t₂ = .value o₂) : Alike o₁ o₂ (f t₁) (f t₂) := by
  cases hf with
  | bare x hbody hf =>
    rw [hf, hf]
    match x, hbody with
    | .error e, _ => exact .failure e
    | .ok none, _ => exact .nothing
    | .ok (some i), hbody => exact .bare ⟨rfl, rfl, rfl⟩ (hbody i rfl) (hbody i rfl)
  | body i missing hf =>
    rw [hf, hf, requiredBody_of_value h₁, requiredBody_of_value h₂]
    exact .body ⟨rfl, rfl, rfl⟩ rfl rfl

theorem sameCall (hf : BodyOnly f) {i₁ i₂ : Instruction} (h₁ : f t₁ = .ok (some i₁))
    (h₂ : f t₂ = .ok (some i₂)) : SameCall i₁ i₂ := by
  cases hf with
  | bare x hbody hf =>
    rw [hf] at h₁ h₂
    obtain rfl : i₁ = i₂ := by simpa [h₁] using h₂
    exact ⟨rfl, rfl, rfl⟩
  | body i missing hf =>
    rw [hf] at h₁ h₂
    obtain ⟨o₁, -, hi₁⟩ := Json.map_eq_ok h₁
    obtain ⟨o₂, -, hi₂⟩ := Json.map_eq_ok h₂
    obtain rfl := Option.some.inj hi₁
    obtain rfl := Option.some.inj hi₂
    exact ⟨rfl, rfl, rfl⟩

end

end BodyOnly

theorem bodyOnly_instruction (r : Reading) :
    BodyOnly fun tail => instruction { r with tail } := by
  -- Only to create and to update is the text at the brace read, and then for the body alone.
  simp only [instruction, creation, update, search]
  cases r.verb with
  | none => exact .item (fun _ => rfl) r.number
  | some verb =>
    cases verb with
    | delete => exact .item (fun _ => rfl) r.number
    | create => exact .withBody _ _
    | update =>
      cases r.number with
      | none => exact .failure _
      | some number => exact .withBody _ _
    | search =>
      cases terms r.keyword r.words with
      | nil => exact .failure _
      | cons => exact .call rfl
    | list => exact .call rfl

theorem bodyOnly_outcome (catalog : Catalog) (head : String) :
    BodyOnly (outcome catalog head) := by
  unfold outcome
  split
  · exact .call rfl
  · split
    · exact .nothing
    · rename_i path keyword _
      exact bodyOnly_instruction ⟨path, keyword, wordsOf head, numberOf? head,
        verbOf? head (wordsOf head), []⟩

def Opens (j : String) (o : Json) : Prop :=
  (∃ cs, j.toList = '{' :: cs) ∧ Json.startValue? j.toList = some o

/-- Behind the same text, two objects come to the same call, each with its own object as the body if
it has one. Whatever stands at the brace, there is no other call. -/
theorem parse_behind (catalog : Catalog) {h : String} (hh : '{' ∉ h.toList) :
    (∀ j₁ j₂ o₁ o₂, Opens j₁ o₁ → Opens j₂ o₂ →
      Alike o₁ o₂ (parse catalog (h ++ j₁)) (parse catalog (h ++ j₂))) ∧
    ∀ j₁ j₂ cs₁ cs₂ i₁ i₂, j₁.toList = '{' :: cs₁ → j₂.toList = '{' :: cs₂ →
      parse catalog (h ++ j₁) = .ok (some i₁) → parse catalog (h ++ j₂) = .ok (some i₂) →
      SameCall i₁ i₂ := by
  have hone := bodyOnly_outcome catalog (headAlone h)
  constructor
  · rintro j₁ j₂ o₁ o₂ ⟨⟨cs₁, hj₁⟩, h₁⟩ ⟨⟨cs₂, hj₂⟩, h₂⟩
    rw [hj₁] at h₁
    rw [hj₂] at h₂
    rw [parse_append hh hj₁, parse_append hh hj₂]
    exact hone.alike (Embedded.atFirstBrace_trimEnd h₁) (Embedded.atFirstBrace_trimEnd h₂)
  · intro j₁ j₂ cs₁ cs₂ i₁ i₂ hj₁ hj₂ h₁ h₂
    rw [parse_append hh hj₁] at h₁
    rw [parse_append hh hj₂] at h₂
    exact hone.sameCall h₁ h₂

/-- What stands in the object says nothing. -/
theorem parse_behind_creation :
    let first : Json := .obj [("nom", .str "Dupont")]
    let second : Json := .obj [("supprime", .str "bateau 12")]
    let r₁ := parse .standard ("crée un client " ++ "\x7b\"nom\":\"Dupont\"\x7d")
    let r₂ := parse .standard ("crée un client " ++ "\x7b\"supprime\":\"bateau 12\"\x7d\x7b")
    '{' ∉ "crée un client ".toList ∧ Opens "\x7b\"nom\":\"Dupont\"\x7d" first ∧
      Opens "\x7b\"supprime\":\"bateau 12\"\x7d\x7b" second ∧ Alike first second r₁ r₂ ∧
      r₁ = .ok (some (.of .post "/clients" none (some first))) ∧
      r₂ = .ok (some (.of .post "/clients" none (some second))) := by
  intro first second r₁ r₂
  have hh : '{' ∉ "crée un client ".toList := by decide
  have h₁ : Opens "\x7b\"nom\":\"Dupont\"\x7d" first := ⟨⟨_, rfl⟩, by decide +kernel⟩
  have h₂ : Opens "\x7b\"supprime\":\"bateau 12\"\x7d\x7b" second :=
    ⟨⟨_, rfl⟩, by decide +kernel⟩
  exact ⟨hh, h₁, h₂, (parse_behind .standard hh).1 _ _ _ _ h₁ h₂, by decide +kernel,
    by decide +kernel⟩

/-! ## Creations -/

structure Creates (catalog : Catalog) (head path : String) : Prop where
  listing : listingPhrases.any (Text.contains head) = false
  resource : ∃ keyword, catalog.resolve head = some (path, keyword)
  verb : verbOf? head (wordsOf head) = some .create

theorem outcome_of_creates {catalog : Catalog} {head path : String} (h : Creates catalog head path)
    {tail : List Char} {o : Json} (hbody : Embedded.atFirstBrace tail = .value o) :
    outcome catalog head tail = .ok (some (.of .post (normalPath path) none (some o))) := by
  obtain ⟨hlisting, ⟨keyword, hresolve⟩, hverb⟩ := h
  simp only [outcome, hlisting, hresolve, hverb, instruction, creation,
    requiredBody_of_value hbody]
  rfl

/-- Behind a text without braces a written object is found whole, whatever stands behind it. Where
the text says to create, the object is what is sent. -/
theorem read_behind {members : List (String × Json)}
    (hregular : (Json.obj members).Regular Json.maxDepth) (hfloat : (Json.obj members).Floatless)
    {p : String} (hp : '{' ∉ p.toList) (s : String) :
    Embedded.atFirstBrace (p ++ (Json.obj members).compact ++ s).toList =
        .value (.obj members) ∧
      Embedded.firstObject? (p ++ (Json.obj members).compact ++ s).toList =
        some (.obj members) ∧
      ∀ catalog path, Creates catalog (headAlone p) path →
        parse catalog (p ++ (Json.obj members).compact ++ s) =
          .ok (some (.of .post (normalPath path) none (some (.obj members)))) := by
  obtain ⟨inside, hline⟩ := Json.exists_line_obj members
  have hread := Json.startValue?_line_append hregular hfloat hline s.toList
  have hobject : ((Json.obj members).compact ++ s).toList =
      '{' :: (inside ++ ['}'] ++ s.toList) := by
    rw [String.toList_append, Json.toList_compact, hline, List.cons_append]
  rw [String.append_assoc]
  refine ⟨?_, ?_, ?_⟩
  · rw [String.toList_append, hobject]
    exact Embedded.atFirstBrace_append hp hread
  · rw [String.toList_append, hobject]
    exact Embedded.firstObject?_append hp hread
  · intro catalog path hcreates
    rw [parse_append hp hobject]
    exact outcome_of_creates hcreates (Embedded.atFirstBrace_trimEnd hread)

def noted : List (String × Json) := [("note", .str "\x7d\x7b\""), ("port", .obj [])]

theorem read_behind_noted : (Json.obj noted).Regular Json.maxDepth ∧ (Json.obj noted).Floatless ∧
    '{' ∉ " crée un client ".toList ∧ Creates .standard (headAlone " crée un client ") "/clients" ∧
    parse .standard (" crée un client " ++ (Json.obj noted).compact ++ "\x7d\x7b\"nom\"") =
      .ok (some (.of .post (normalPath "/clients") none (some (.obj noted)))) := by
  have hread : Json.startValue? (Json.obj noted).compact.toList = some (.obj noted) := by
    decide +kernel
  have hregular := Json.regular_of_startValue? hread
  have hport : (Json.obj []).Floatless := .obj (by simp)
  have hfloat : (Json.obj noted).Floatless := .obj (by simp [noted, Json.Floatless.str, hport])
  have hp : '{' ∉ " crée un client ".toList := by decide
  have hcreates : Creates .standard (headAlone " crée un client ") "/clients" :=
    ⟨by decide +kernel, ⟨"client", by decide +kernel⟩, by decide +kernel⟩
  exact ⟨hregular, hfloat, hp, hcreates,
    (read_behind hregular hfloat hp "\x7d\x7b\"nom\"").2.2 _ _ hcreates⟩

end Phrase

end YardConsole
