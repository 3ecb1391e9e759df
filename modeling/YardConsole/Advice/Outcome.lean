import YardConsole.Advice.Directive
import YardConsole.Advice.Fence
import YardConsole.Command.Embedded

/-! # What an answer of the assistant means -/

namespace YardConsole

inductive Advice where
  | directive (d : Directive)
  /-- An answer without a directive: to be shown, never to be done. -/
  | text (message : String)
  | empty
deriving DecidableEq

namespace Advice

/-- The directive of the first value that can be read. -/
def directiveIn? (cs : List Char) : Option Directive :=
  (Embedded.firstObject? cs).bind Directive.ofJson?

/-- The directive in the first fenced block, else the one in the whole answer. -/
def directive? (cs : List Char) : Option Directive :=
  ((Fence.block? cs).bind directiveIn?).or (directiveIn? cs)

def interpret (answer : String) : Advice :=
  match directive? answer.toList with
  | some d => .directive d
  | none => if Text.isBlankText answer then .empty else .text (Text.trim answer)

end Advice

end YardConsole
