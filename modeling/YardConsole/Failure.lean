import YardConsole.Json.Equality
import YardConsole.Json.Fault
import YardConsole.Text.Blank

/-! # Why a request failed -/

namespace YardConsole

inductive Failure where
  /-- The yard answered with a status that is no success, or was not reached. -/
  | transport (status : Option Nat) (message : String)
  /-- The yard answered a call with an error. -/
  | rpc (code : Int) (message : String) (data : Option Json)
  | aiUnavailable (message : String)
  /-- A command that was clearly meant as one, but is wrong. -/
  | malformed (message : String)
  | unresolved (message : String)
deriving DecidableEq

namespace Failure

def statusText (status : Nat) : String := "(HTTP " ++ toString status ++ ")"

/-- What the operator reads. -/
def message : Failure → String
  | transport none text => "serveur MCP injoignable: " ++ text
  | transport (some status) text =>
    "appel MCP échoué " ++ statusText status ++ if text.isEmpty then "" else ": " ++ text
  | rpc _ text none => text
  | rpc _ text (some data) => Text.trim (text ++ " " ++ data.compact)
  | aiUnavailable text => text
  | malformed text => text
  | unresolved text => text

/-- Nobody understood the command. `cause` says why the assistant could not help. -/
def notUnderstood (cause : Option Failure) : Failure :=
  let text := "commande non comprise. Tapez 'help' pour voir les exemples."
  match cause with
  | none => unresolved text
  | some cause => unresolved (text ++ " (IA: " ++ cause.message ++ ")")

end Failure

end YardConsole
