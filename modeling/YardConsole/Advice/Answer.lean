import YardConsole.Failure
import YardConsole.Json.Reader

/-! # The text in an answer of the relay

The relay passes on answers of several shapes.
-/

namespace YardConsole.Answer

/-- The text of one part of a content list: a string, or the text of an object. -/
def partText? : Json → Option String
  | .str s => some s
  | j => j.text? "text"

/-- The texts of a content list, a line each. -/
def contentText? (j : Json) : Option String := do
  let items ← (← j.get? "content").items?
  let texts := items.filterMap partText?
  if texts.isEmpty then none else some ("\n".intercalate texts)

/-- What stands first: in a list the first item, in an object the member `0`. -/
def first? (j : Json) : Option Json := (j.item? 0).or (j.get? "0")

def choiceText? (j : Json) : Option String := do
  let choice ← first? (← j.get? "choices")
  (← choice.get? "message").text? "content"

/-- The text a value carries, in the first shape that fits. -/
def textIn? (j : Json) : Option String :=
  (((j.string?.or (j.text? "answer")).or (j.text? "message")).or (contentText? j)).or (choiceText? j)

/-- The text to show for an answer. What is no JSON is shown as it is. -/
def text (body : String) : String :=
  match Json.parse body with
  | .error _ => body
  | .ok j => (textIn? j).getD j.indented

/-- The text for an answer whose status is no success: its message, or all of it. -/
def errorText (status : Nat) (body : String) : String :=
  let body := Text.trim body
  if body.isEmpty then "service IA indisponible " ++ Failure.statusText status
  else
    match Json.parse body with
    | .error _ => body
    | .ok j => ((j.text? "message").filter (!Text.isBlankText ·)).getD body

end YardConsole.Answer
