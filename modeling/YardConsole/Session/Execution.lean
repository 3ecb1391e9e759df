import YardConsole.Dialogue.Conversation
import YardConsole.Rpc.Tool
import YardConsole.Session.Exchange
import YardConsole.Yard.Routes

/-! # Execution: one call for one instruction -/

namespace YardConsole.Execution

/-- The screen to show after a call, unless the yard reported an error. -/
def destination? (routes : Routes) (i : Instruction) (result : Json) : Option String :=
  if Tool.reportsError result then none else routes.destination i.path

/-- Makes the call and appends the text of its result. A failure changes nothing. -/
def execute (routes : Routes) (i : Instruction) (c : Conversation) :
    Exchange Conversation (Except Failure (Option String)) :=
  .call c "tools/call" (Tool.instructionParams i) fun
    | .ok result =>
      .done (.ok (destination? routes i result)) (c.pushAssistant (Tool.resultText result))
    | .error e => .done (.error e) c

end YardConsole.Execution
