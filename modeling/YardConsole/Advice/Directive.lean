import YardConsole.Call.Instruction

/-! # Directives: what the assistant asks for -/

namespace YardConsole

inductive Directive where
  | reply (message : String)
  | call (method : Method) (path : String) (query body : Option Json)
deriving DecidableEq

namespace Directive

/-- The parts of a directive, in their order. -/
def parts : List String := ["action", "message", "method", "path", "query", "body"]

/-- A part of an object by its name, or of a list by its place. Null is no part. -/
def part? (j : Json) (name : String) : Option Json :=
  let found :=
    match j with
    | .obj _ => j.get? name
    | .arr items => items[parts.idxOf name]?
    | _ => none
  found.filter (!·.isNull)

/-- A list is not longer than the parts. -/
def hasShape : Json → Bool
  | .obj _ => true
  | .arr items => items.length ≤ parts.length
  | _ => false

def text? (j : Json) (name : String) : Option String := (part? j name).bind Json.string?

def callOf? (j : Json) : Option Directive := do
  let method ← (text? j "method").bind Method.ofText?
  let path ← text? j "path"
  if Text.isBlankText path then none
  else some (.call method (normalPath path) (part? j "query") (part? j "body"))

/-- The directive of a value, if it keeps to the schema. -/
def ofJson? (j : Json) : Option Directive :=
  if hasShape j then
    match text? j "action" with
    | some "reply" => (text? j "message").map .reply
    | some "mcp_call" => callOf? j
    | _ => none
  else none

def instruction? : Directive → Option Instruction
  | reply _ => none
  | call method path query body =>
    let i := Instruction.new method path
    let i := query.elim i i.withQuery
    some (body.elim i i.withBody)

end Directive

end YardConsole
