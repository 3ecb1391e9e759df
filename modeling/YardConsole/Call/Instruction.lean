import YardConsole.Call.Method
import YardConsole.Json.Equality
import YardConsole.Json.Writer

/-! # Instructions: calls of the yard's interface -/

namespace YardConsole

/-! ## Paths -/

/-- A path without blanks around it, with a slash in front. -/
def normalPath (path : String) : String :=
  match Text.trimList path.toList with
  | '/' :: rest => String.ofList ('/' :: rest)
  | cs => String.ofList ('/' :: cs)

def resourcesPath : String := "/_resources"

/-! ## Instructions -/

/-- A call to make, and the command it is told by. A payload of null is a payload. -/
structure Instruction where
  method : Method
  path : String
  query : Option Json
  body : Option Json
  command : String
deriving DecidableEq

namespace Instruction

def new (method : Method) (path : String) : Instruction where
  method := method
  path := normalPath path
  query := none
  body := none
  command := method.name ++ " " ++ normalPath path

/-- Writes the command anew: the method and the path, then each payload behind a space. -/
def retold (i : Instruction) : Instruction :=
  let payloads := i.query.toList ++ i.body.toList
  let start := i.method.name ++ " " ++ i.path
  { i with command := payloads.foldl (fun text j => text ++ " " ++ j.compact) start }

def withQuery (i : Instruction) (query : Json) : Instruction :=
  { i with query := some query }.retold

def withBody (i : Instruction) (body : Json) : Instruction := { i with body := some body }.retold

/-- Adds the payload where the method carries it. -/
def withPayload (i : Instruction) (payload : Json) : Instruction :=
  if i.method.asksOnly then i.withQuery payload else i.withBody payload

def listResources : Instruction := new .get resourcesPath

def isListing (i : Instruction) : Bool := i.path == resourcesPath

def payloadMember (name : String) : Option Json → List (String × Json)
  | none => []
  | some payload => [(name, payload)]

def toJson (i : Instruction) : Json :=
  .obj ([("method", .str i.method.name), ("path", .str i.path)] ++
    payloadMember "query" i.query ++ payloadMember "body" i.body ++
    [("translatedCommand", .str i.command)])

end Instruction

end YardConsole
