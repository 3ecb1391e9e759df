import YardConsole.Call.Instruction
import YardConsole.Failure
import YardConsole.Json.Reader

/-! # Exact commands: a method, a path and a payload in JSON -/

namespace YardConsole.Exact

/-! ## Words -/

/-- A letter with its case taken off. The long s counts as an s. -/
def fold (c : Char) : Char := if c = 'ſ' then 's' else c.toLower

/-- The method a word names, whatever its case. -/
def methodOf? (word : List Char) : Option Method :=
  Method.all.find? fun m => word.map fold == m.name.toList.map fold

/-- The first word of a text, and what stands behind it. -/
def splitWord (cs : List Char) : List Char × List Char :=
  (cs.takeWhile (!Text.isBlank ·), cs.dropWhile (!Text.isBlank ·))

/-! ## Payloads -/

/-- The payload in what stands behind the path. Of blanks alone, all but one set it off. -/
def payload? (cs : List Char) : Option (List Char) :=
  match Text.trimList cs with
  | [] => if cs.length ≤ 1 then none else some (cs.drop (cs.length - 1))
  | payload => some payload

def payloadName (m : Method) : String := if m.asksOnly then "query" else "body"

def withPayloadText (i : Instruction) (payload : List Char) : Except Failure Instruction :=
  match Json.read payload with
  | .ok j => .ok (i.withPayload j)
  | .error e =>
    .error (.malformed ("JSON " ++ payloadName i.method ++ " invalide: " ++ e.message))

/-! ## Commands -/

/-- The instruction of an exact command; none if the text is no such command. -/
def parseList (cs : List Char) : Except Failure (Option Instruction) :=
  let (word, rest) := splitWord (Text.trimStart cs)
  match methodOf? word with
  | none => .ok none
  | some method =>
    match splitWord (Text.trimStart rest) with
    | ([], _) => .ok none
    | (path, rest) =>
      let i := Instruction.new method (String.ofList path)
      match payload? rest with
      | none => .ok (some i)
      | some payload => (withPayloadText i payload).map some

def parse (text : String) : Except Failure (Option Instruction) := parseList text.toList

end YardConsole.Exact
