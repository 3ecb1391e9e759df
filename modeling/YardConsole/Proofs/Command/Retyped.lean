import YardConsole.Proofs.Command.Exact
import YardConsole.Proofs.Command.Phrase
import YardConsole.Proofs.Json.RoundTrip

/-! # Commands typed back

The command of an instruction is an exact command for it, if its path is one word and its payload
a value as it is read.
-/

namespace YardConsole

/-! ## Instructions that can be typed -/

namespace Instruction

def Unbroken (path : String) : Prop := ∀ c ∈ path.toList, Text.isBlank c = false

inductive Typable : Instruction → Prop
  | bare {m path} (hpath : Unbroken path) : Typable (.new m path)
  | loaded {m path payload} (hpath : Unbroken path)
      (hpayload : payload.Regular Json.maxDepth) : Typable ((new m path).withPayload payload)

theorem Unbroken.append {a b : String} (ha : Unbroken a) (hb : Unbroken b) : Unbroken (a ++ b) := by
  intro c hc
  rw [String.toList_append, List.mem_append] at hc
  exact hc.elim (ha c) (hb c)

theorem Unbroken.isToken {path : String} (h : Unbroken path) :
    Exact.IsToken (normalPath path).toList := by
  have hslash : Text.isBlank '/' = false := by decide
  rw [toList_normalPath, Text.trimList_of_solid h]
  unfold slashed
  split
  · rename_i rest heq
    exact ⟨by simp, heq ▸ h⟩
  · refine ⟨by simp, fun c hc => ?_⟩
    rcases List.mem_cons.mp hc with rfl | hc
    · exact hslash
    · exact h c hc

theorem new_normalPath (m : Method) (path : String) : new m (normalPath path) = new m path := by
  rw [new_eq, new_eq, normalPath_normalPath]

theorem withPayload_payload (m : Method) (path : String) (payload : Json) :
    ((new m path).withPayload payload).query = some payload ∨
      ((new m path).withPayload payload).body = some payload := by
  unfold withPayload
  split
  · exact .inl rfl
  · exact .inr rfl

theorem toList_command_new (m : Method) (path : String) :
    (new m path).command.toList = m.name.toList ++ [' '] ++ (normalPath path).toList := by
  simp [new]

theorem toList_command_withPayload (m : Method) (path : String) (payload : Json) :
    ((new m path).withPayload payload).command.toList =
      m.name.toList ++ [' '] ++ (normalPath path).toList ++ ' ' :: payload.line := by
  rw [new_eq, withPayload_of]
  split <;> simp [of, Json.toList_compact]

end Instruction

open Instruction

/-! ## Commands are read back -/

namespace Exact

theorem methodOf?_name (m : Method) : methodOf? m.name.toList = some m := by
  cases m <;> decide

theorem isToken_name (m : Method) : IsToken m.name.toList := by
  cases m <;> exact ⟨by decide, Text.forall_not_blank (by decide)⟩

theorem parseList_of_name (m : Method) {path rest : List Char} (hpath : IsToken path)
    (hrest : IsBehind rest) :
    parseList (m.name.toList ++ [' '] ++ path ++ rest) = meaning m path rest := by
  obtain ⟨hne, hsolid⟩ := isToken_name m
  refine parseList_of_shape ⟨⟨m.name.toList, [' '], ?_, ⟨hne, hsolid⟩, ⟨by simp, ?_⟩,
    methodOf?_name m⟩, hpath, hrest⟩
  · refine Text.trimStart_of_head fun c hc => hsolid c ?_
    cases hname : m.name.toList with
    | nil => exact absurd hname hne
    | cons x name =>
      rw [hname] at hc
      obtain rfl : x = c := by simpa using hc
      exact List.mem_cons_self ..
  · intro c hc
    obtain rfl := List.mem_singleton.mp hc
    decide

theorem payload?_line {j : Json} (hne : j.line ≠ []) : payload? (' ' :: j.line) = some j.line := by
  have hgap : ∀ c ∈ [' '], Text.isBlank c = true := List.forall_mem_singleton.mpr (by decide)
  exact payload?_gap_append hgap hne (Json.trimmed_line j)

theorem parse_command_new (m : Method) {path : String} (hpath : Unbroken path) :
    parse (new m path).command = .ok (some (new m path)) := by
  calc parse (new m path).command
      = parseList (m.name.toList ++ [' '] ++ (normalPath path).toList ++ []) := by
        rw [parse, toList_command_new, List.append_nil]
    _ = meaning m (normalPath path).toList [] := parseList_of_name m hpath.isToken isBehind_nil
    _ = .ok (some (new m path)) := by
        rw [meaning, String.ofList_toList, new_normalPath]
        rfl

theorem parse_command_withPayload (m : Method) {path : String} {payload : Json}
    (hpath : Unbroken path) (hpayload : payload.Regular Json.maxDepth)
    (hfloat : payload.Floatless) :
    parse ((new m path).withPayload payload).command =
      .ok (some ((new m path).withPayload payload)) := by
  have hblank : IsBehind (' ' :: payload.line) := by
    intro c hc
    obtain rfl : ' ' = c := by simpa using hc
    decide
  calc parse ((new m path).withPayload payload).command
      = parseList (m.name.toList ++ [' '] ++ (normalPath path).toList ++ ' ' :: payload.line) := by
        rw [parse, toList_command_withPayload]
    _ = meaning m (normalPath path).toList (' ' :: payload.line) :=
        parseList_of_name m hpath.isToken hblank
    _ = .ok (some ((new m path).withPayload payload)) := by
        have hne : payload.line ≠ [] := Json.line_ne_nil hpayload hfloat
        simp only [meaning, payload?_line hne, withPayloadText, Json.read_line hpayload hfloat,
          String.ofList_toList, new_normalPath, Except.map]

theorem parse_command_of_typable {i : Instruction} (h : Typable i)
    (hfloat : ∀ j, i.query = some j ∨ i.body = some j → j.Floatless) :
    parse i.command = .ok (some i) := by
  cases h with
  | bare hpath => exact parse_command_new _ hpath
  | @loaded m path payload hpath hpayload =>
    exact parse_command_withPayload m hpath hpayload
      (hfloat payload (withPayload_payload m path payload))

/-! ## What is read can be typed -/

theorem typable_of_parse {input : String} {i : Instruction} (h : parse input = .ok (some i)) :
    Typable i := by
  unfold parse at h
  rcases shape_or_none input.toList with ⟨m, path, rest, hshape⟩ | hnone
  · have hpath : Unbroken (String.ofList path) := by
      rw [Unbroken, String.toList_ofList]
      exact hshape.path.2
    rw [parseList_of_shape hshape] at h
    rcases meaning_cases h with ⟨-, rfl⟩ | ⟨payload, j, -, hread, rfl⟩
    · exact .bare hpath
    · exact .loaded hpath (Json.regular_of_read hread)
  · rw [hnone] at h
    cases h

end Exact

namespace Phrase

theorem unbroken_of_numberOf? {head number : String} (h : numberOf? head = some number) :
    Unbroken number :=
  fun c hc => Text.isBlank_of_isDigit ((numbers_of_numberOf? h).2 c hc)

theorem unbroken_itemPath {path number : String} (hpath : Unbroken path)
    (hnumber : Unbroken number) : Unbroken (itemPath path number) := by
  have hslash : Unbroken "/" := Text.forall_not_blank (by decide)
  exact (hpath.append hslash).append hnumber

theorem regular_of_atFirstBrace {tail : List Char} {body : Json}
    (h : Embedded.atFirstBrace tail = .value body) : body.Regular Json.maxDepth := by
  have hfound : Embedded.atFirstBrace (Embedded.fromBrace tail) = .value body := by
    rw [Embedded.atFirstBrace, Embedded.fromBrace_fromBrace]
    exact h
  obtain ⟨-, before, behind, -, -, hread⟩ := Embedded.objectAtBrace_of_value hfound
  exact Json.regular_of_startValue? hread

theorem typable_of_wants {r : Reading} {i : Instruction} (hpath : Unbroken r.path)
    (hnumber : ∀ number ∈ r.number, Unbroken number) (h : Wants r i) : Typable i := by
  cases h with
  | deletion _ hsome => exact .bare (unbroken_itemPath hpath (hnumber _ hsome))
  | creation _ hbody =>
    rw [← withPayload_of_sends rfl]
    exact .loaded hpath (regular_of_atFirstBrace hbody)
  | update _ hsome hbody =>
    rw [← withPayload_of_sends rfl]
    exact .loaded (unbroken_itemPath hpath (hnumber _ hsome)) (regular_of_atFirstBrace hbody)
  | search =>
    have hsearch : Unbroken "/search" := Text.forall_not_blank (by decide)
    rw [← withPayload_of_asks rfl]
    refine .loaded (hpath.append hsearch) ?_
    exact .obj (List.pairwise_singleton _ _) (by simpa using Json.Regular.str _)
  | list => exact .bare hpath
  | item _ hsome => exact .bare (unbroken_itemPath hpath (hnumber _ hsome))

theorem typable_of_parse {catalog : Catalog} {input : String} {i : Instruction}
    (hcatalog : ∀ rule ∈ catalog.rules, Unbroken rule.path)
    (h : parse catalog input = .ok (some i)) : Typable i := by
  have hlisting : Unbroken resourcesPath := Text.forall_not_blank (by decide)
  rcases wants_of_parse h with rfl | ⟨rule, r, hr, hwants⟩
  · exact .bare hlisting
  · refine typable_of_wants ?_ ?_ hwants
    · rw [hr.path]
      exact hcatalog rule hr.member
    · intro number hsome
      exact unbroken_of_numberOf? (hr.number.symm.trans hsome)

end Phrase

/-! ## Whatever was read -/

/-- The command of whatever was read can be typed, and is read as the same. -/
theorem Exact.parse_command {catalog : Catalog}
    (hcatalog : ∀ rule ∈ catalog.rules, ∀ c ∈ rule.path.toList, Text.isBlank c = false)
    {input : String} {i : Instruction}
    (h : parse input = .ok (some i) ∨ Phrase.parse catalog input = .ok (some i))
    (hfloat : ∀ j, i.query = some j ∨ i.body = some j → j.Floatless) :
    parse i.command = .ok (some i) := by
  have htypable : Typable i := by
    rcases h with hexact | hphrase
    · exact typable_of_parse hexact
    · exact Phrase.typable_of_parse hcatalog hphrase
  exact parse_command_of_typable htypable hfloat

def typedUpdate : Instruction :=
  .of .put "/clients/12" none
    (some (.obj [("n", .arr [.int (-3), .null]), ("nom", .str "du \"Pont\" \x7b")]))

def updatePhrase : String :=
  "modifie le client 12 \x7b \"nom\": \"du \\\"Pont\\\" \x7b\", \"n\": [-3, null] \x7d"

theorem Exact.parse_typedUpdate :
    (∀ rule ∈ Catalog.standard.rules, ∀ c ∈ rule.path.toList, Text.isBlank c = false) ∧
      Phrase.parse .standard updatePhrase = .ok (some typedUpdate) ∧
      Exact.parse typedUpdate.command = .ok (some typedUpdate) := by
  have hall : Catalog.standard.rules.all (·.path.toList.all (!Text.isBlank ·)) = true := by
    decide +kernel
  have hcatalog : ∀ rule ∈ Catalog.standard.rules, ∀ c ∈ rule.path.toList,
      Text.isBlank c = false := fun rule hrule =>
    Text.forall_not_blank (List.all_eq_true.mp hall rule hrule)
  have hphrase : Phrase.parse .standard updatePhrase = .ok (some typedUpdate) := by decide +kernel
  have hint : (Json.int (-3)).Floatless := .of_parts nofun nofun
  have hnull : Json.null.Floatless := .of_parts nofun nofun
  have hlist : (Json.arr [.int (-3), .null]).Floatless := .arr (by simp [hint, hnull])
  have hfloat : ∀ j, typedUpdate.query = some j ∨ typedUpdate.body = some j → j.Floatless := by
    rintro j (hquery | hbody)
    · cases hquery
    · cases hbody
      exact .obj (by simp [hlist, Json.Floatless.str])
  exact ⟨hcatalog, hphrase, Exact.parse_command hcatalog (.inr hphrase) hfloat⟩

end YardConsole
