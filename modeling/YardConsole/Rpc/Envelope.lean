import YardConsole.Failure
import YardConsole.Json.Record

/-! # Envelopes: answers of the yard -/

namespace YardConsole

structure RpcError where
  code : Int
  message : String
  data : Option Json
deriving DecidableEq

namespace RpcError

structure Draft where
  code : Option Int
  message : Option String
  data : Option (Option Json)

def record : Json.Record Draft RpcError where
  title := "struct McpError"
  fields := [
    { name := "code"
      isRead := (·.code.isSome)
      read := fun _ draft cs =>
        (Json.readInteger cs).map fun (n, rest) => ({ draft with code := some n }, rest) },
    { name := "message"
      isRead := (·.message.isSome)
      read := fun _ draft cs =>
        (Json.readString "a string" cs).map fun (s, rest) =>
          ({ draft with message := some s }, rest) },
    { name := "data"
      isRead := (·.data.isSome)
      read := fun depth draft cs =>
        (Json.readOptional (Json.value depth) cs).map fun (j, rest) =>
          ({ draft with data := some j }, rest) }]
  start := ⟨none, none, none⟩
  finish draft := .ok ⟨draft.code.getD 0, draft.message.getD "", draft.data.join⟩

end RpcError

/-- An answer: a result or an error. -/
structure Envelope where
  result : Option Json
  error : Option RpcError
deriving DecidableEq

namespace Envelope

structure Draft where
  result : Option (Option Json)
  error : Option (Option RpcError)

def record : Json.Record Draft Envelope where
  title := "struct McpResponse"
  fields := [
    { name := "result"
      isRead := (·.result.isSome)
      read := fun depth draft cs =>
        (Json.readOptional (Json.value depth) cs).map fun (j, rest) =>
          ({ draft with result := some j }, rest) },
    { name := "error"
      isRead := (·.error.isSome)
      read := fun depth draft cs =>
        (Json.readOptional (RpcError.record.read depth) cs).map fun (e, rest) =>
          ({ draft with error := some e }, rest) }]
  start := ⟨none, none⟩
  finish draft := .ok ⟨draft.result.join, draft.error.join⟩

def read (body : String) : Except Json.ReadError Envelope :=
  Json.readWith (record.read Json.maxDepth) body.toList

/-- What an envelope says. An error counts before a result, and nothing at all is an error. -/
def outcome (e : Envelope) : Except Failure Json :=
  match e.error, e.result with
  | some error, _ => .error (.rpc error.code error.message error.data)
  | none, some result => .ok result
  | none, none => .error (.rpc 0 "" none)

/-- The result in the text of an answer. -/
def decode (body : String) : Except Failure Json :=
  match read body with
  | .ok e => e.outcome
  | .error e => .error (.rpc (-32700) ("réponse MCP illisible: " ++ e.message) none)

end Envelope

end YardConsole
