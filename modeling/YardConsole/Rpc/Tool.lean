import YardConsole.Call.Instruction

/-! # Tools of the yard, and what they give back -/

namespace YardConsole.Tool

/-! ## Calls -/

/-- Calls the interface, with a method, a path and payloads. -/
def callResource : String := "moussaillon_call_api_resource"

/-- Lists the resources, with nothing. -/
def listResources : String := "moussaillon_list_api_resources"

def params (tool : String) (arguments : Json) : Json :=
  .obj [("arguments", arguments), ("name", .str tool)]

def handshakeParams : Json := .obj [
  ("capabilities", .obj []),
  ("clientInfo", .obj [("name", .str "moussaillon-cli"), ("version", .str "0.3.0")]),
  ("protocolVersion", .str "2024-11-05")]

/-- The arguments an instruction is carried out with, in the order of their keys. -/
def arguments (i : Instruction) : Json :=
  .obj (Instruction.payloadMember "body" i.body ++
    [("method", .str i.method.name), ("path", .str i.path)] ++
    Instruction.payloadMember "query" i.query)

/-- The parameters of the one call that carries out an instruction. -/
def instructionParams (i : Instruction) : Json :=
  if i.isListing then params listResources (.obj []) else params callResource (arguments i)

/-! ## Results -/

/-- The text of an item, unless its type is another string than `text`. -/
def itemText? (item : Json) : Option String :=
  match item.text? "type" with
  | some kind => if kind = "text" then item.text? "text" else none
  | none => item.text? "text"

/-- The first text of a result, else all of it. -/
def resultText (result : Json) : String :=
  let items := ((result.get? "content").bind Json.items?).getD []
  (items.findSome? itemText?).getD result.indented

/-- The result says of itself that it is an error. -/
def reportsError (result : Json) : Bool := (result.get? "isError").bind Json.bool? = some true

/-- The tools in the result of a listing. -/
def listed (result : Json) : List Json := ((result.get? "tools").bind Json.items?).getD []

end YardConsole.Tool
