import YardConsole.Advice.Directive
import YardConsole.Proofs.Call.Path

/-! # What directives say -/

namespace YardConsole.Directive

/-! ## Directives in objects -/

/-- The object says what the directive says. A payload of null is no payload. -/
inductive Says (v : Json) : Directive → Prop
  | reply {message} (haction : v.text? "action" = some "reply")
      (hmessage : v.text? "message" = some message) : Says v (.reply message)
  | call {name m path} (haction : v.text? "action" = some "mcp_call")
      (hname : v.text? "method" = some name) (hmethod : Method.ofText? name = some m)
      (hpath : v.text? "path" = some path) (hblank : Text.isBlankText path = false) :
      Says v (.call m (normalPath path) ((v.get? "query").filter (!·.isNull))
        ((v.get? "body").filter (!·.isNull)))

theorem part?_obj (members : List (String × Json)) (name : String) :
    part? (.obj members) name = ((Json.obj members).get? name).filter (!·.isNull) := rfl

theorem text?_obj (members : List (String × Json)) (name : String) :
    text? (.obj members) name = (Json.obj members).text? name := by
  rw [text?, part?_obj, Json.text?]
  cases (Json.obj members).get? name with
  | none => rfl
  | some part => cases part <;> rfl

theorem says_of_ofJson? {members : List (String × Json)} {d : Directive}
    (h : ofJson? (.obj members) = some d) : Says (.obj members) d := by
  simp only [ofJson?, hasShape, if_true] at h
  split at h
  · rename_i haction
    obtain ⟨message, hmessage, rfl⟩ := Option.map_eq_some_iff.mp h
    rw [text?_obj] at haction hmessage
    exact .reply haction hmessage
  · rename_i haction
    simp only [callOf?, Option.bind_eq_bind, Option.bind_eq_some_iff] at h
    obtain ⟨m, ⟨name, hname, hm⟩, path, hpath, h⟩ := h
    split at h
    · cases h
    · rename_i hblank
      obtain rfl := Option.some.inj h
      rw [text?_obj] at haction hname hpath
      rw [part?_obj, part?_obj]
      exact .call haction hname hm hpath (by simpa using hblank)
  · cases h

/-! ## Calls of instructions -/

structure Requests (v : Json) (i : Instruction) : Prop where
  action : v.text? "action" = some "mcp_call"
  method : ∃ name, v.text? "method" = some name ∧
    Text.upperList (Text.trimList name.toList) = i.method.name.toList
  path : ∃ path, v.text? "path" = some path ∧ Text.isBlankText path = false ∧
    i.path = normalPath path
  query : i.query = (v.get? "query").filter (!·.isNull)
  body : i.body = (v.get? "body").filter (!·.isNull)

theorem upperList_of_ofText? {name : String} {m : Method} (h : Method.ofText? name = some m) :
    Text.upperList (Text.trimList name.toList) = m.name.toList := by
  simpa using List.find?_some h

theorem instruction?_call (m : Method) (path : String) (query body : Option Json) :
    instruction? (.call m path query body) = some (.of m (normalPath path) query body) := by
  rw [instruction?, Instruction.new_eq]
  cases query <;> cases body <;>
    simp only [Option.elim, Instruction.withQuery_of, Instruction.withBody_of]

theorem requests_of_ofJson? {members : List (String × Json)} {d : Directive} {i : Instruction}
    (h : ofJson? (.obj members) = some d) (hi : d.instruction? = some i) :
    Requests (.obj members) i := by
  cases says_of_ofJson? h with
  | reply => cases hi
  | @call name m path haction hname hmethod hpath hblank =>
    rw [instruction?_call, normalPath_normalPath] at hi
    obtain rfl := Option.some.inj hi
    exact ⟨haction, ⟨name, hname, upperList_of_ofText? hmethod⟩, ⟨path, hpath, hblank, rfl⟩,
      rfl, rfl⟩

theorem Says.instruction {v : Json} {m : Method} {path : String} {query body : Option Json}
    (h : Says v (.call m path query body)) :
    instruction? (.call m path query body) = some (.of m path query body) := by
  cases h with
  | call => rw [instruction?_call, normalPath_normalPath]

end YardConsole.Directive
