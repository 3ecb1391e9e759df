import YardConsole.Json.Skip

/-! # Reading JSON into records

A record is written as an object of its fields, or as a list of them in their order. Members of
other names are passed over. What was read so far is a state, which the record is made of in the
end.
-/

namespace YardConsole.Json

/-! ## Wrong kinds -/

/-- The fault of a value that should have been `expected`. A scalar is read first. -/
def mismatch (expected : String) (cs : List Char) : Fault :=
  let found : Read Found :=
    match skipSpace cs with
    | [] => failHere (.ended .value) []
    | 'n' :: rest => (word ['u', 'l', 'l'] rest).map (.null, ·)
    | 't' :: rest => (word ['r', 'u', 'e'] rest).map (.bool true, ·)
    | 'f' :: rest => (word ['a', 'l', 's', 'e'] rest).map (.bool false, ·)
    | '"' :: rest => (string rest).map fun (s, rest) => (.string s, rest)
    | '[' :: rest => .ok (.sequence, '[' :: rest)
    | '{' :: rest => .ok (.map, '{' :: rest)
    | c :: rest =>
      let n :=
        if c = '-' then number true rest
        else if c.isDigit then number false (c :: rest)
        else failAt .expectedValue (c :: rest)
      match n with
      | .ok (.int n, rest) => .ok (.int n, rest)
      | .ok (.float x, rest) => .ok (.float x, rest)
      | .ok (_, rest) => .ok (.null, rest)
      | .error f => .error f
  match found with
  | .ok (found, rest) => ⟨.invalidType found expected, rest, 0⟩
  | .error f => f

/-! ## Parts of records -/

def readString (expected : String) (cs : List Char) : Read String :=
  match skipSpace cs with
  | '"' :: rest => string rest
  | rest => .error (mismatch expected rest)

/-- A whole number of sixty-four bits with a sign. -/
def readInteger (cs : List Char) : Read Int :=
  let rest := skipSpace cs
  let n :=
    match rest with
    | '-' :: digits => number true digits
    | c :: _ => if c.isDigit then number false rest else .error (mismatch "i64" rest)
    | [] => .error (mismatch "i64" rest)
  match n with
  | .ok (.int n, rest) =>
    if n < Int.pow 2 63 then .ok (n, rest) else failHere (.invalidInteger n "i64") rest
  | .ok (_, _) => .error (mismatch "i64" rest)
  | .error f => .error f

def readOptional (reader : List Char → Read α) (cs : List Char) : Read (Option α) :=
  match skipSpace cs with
  | 'n' :: rest => (word ['u', 'l', 'l'] rest).map (none, ·)
  | rest => (reader rest).map fun (a, rest) => (some a, rest)

/-- Opens a bracket, if one more level is left. -/
def descend (depth : Nat) (cs : List Char) (inner : (depth : Nat) → Read α) : Read α :=
  match depth with
  | 0 => failAt .tooDeep cs
  | depth + 1 => inner depth

/-- A list of what the reader reads at its depth. -/
def readList (reader : Nat → List Char → Read α) (depth : Nat) (cs : List Char) :
    Read (List α) :=
  match skipSpace cs with
  | '[' :: rest => descend depth ('[' :: rest) fun depth => items (reader depth) rest
  | rest => .error (mismatch "a sequence" rest)

/-! ## Records -/

/-- A field of a record that is read into the state `σ`. -/
structure Field (σ : Type) where
  name : String
  isRead : σ → Bool
  read : (depth : Nat) → σ → List Char → Read σ

structure Record (σ α : Type) where
  title : String
  fields : List (Field σ)
  start : σ
  /-- The record, or the name of a field that is missing. -/
  finish : σ → Except String α

namespace Record

/-- How a message describes the record as a list. -/
def size (r : Record σ α) : String :=
  r.title ++ " with " ++ String.ofList (naturalText r.fields.length) ++ " elements"

/-- Reads a member by its name. A name that comes twice is refused at its second key, or behind
the brace if that follows. -/
def member (r : Record σ α) (depth : Nat) (key : String) (state : σ) (cs : List Char) : Read σ :=
  match r.fields.find? (·.name == key) with
  | some field =>
    if field.isRead state then
      match skipSpace cs with
      | '}' :: rest => failHere (.duplicateField key) rest
      | rest => failHere (.duplicateField key) rest
    else
      match colon cs with
      | .ok rest => field.read depth state rest
      | .error f => .error f
  | none =>
    match colon cs with
    | .ok rest => (skipValue rest).map (state, ·)
    | .error f => .error f

/-- The next item of a list of fields, if there is one. -/
def nextItem (first : Bool) (cs : List Char) : Except Fault (Option (List Char)) :=
  match skipSpace cs with
  | [] => failHere (.ended .list) []
  | ']' :: _ => .ok none
  | c :: rest =>
    if first then .ok (some (c :: rest))
    else if c = ',' then
      match skipSpace rest with
      | [] => failHere (.ended .value) []
      | ']' :: rest => failAt .trailingComma (']' :: rest)
      | rest => .ok (some rest)
    else failAt .expectedListEnd (c :: rest)

/-- The closing bracket behind the last field. -/
def listEnd (cs : List Char) : Skip :=
  match skipSpace cs with
  | [] => failHere (.ended .list) []
  | ']' :: rest => .ok rest
  | ',' :: rest =>
    match skipSpace rest with
    | ']' :: rest => failAt .trailingComma (']' :: rest)
    | rest => failAt .trailingCharacters rest
  | rest => failAt .trailingCharacters rest

/-- Reads fields from a list, in their order, until it ends. -/
def fieldsInOrder (depth : Nat) (first : Bool) : List (Field σ) → σ → List Char → Read σ
  | [], state, cs => .ok (state, cs)
  | field :: fields, state, cs =>
    match nextItem first cs with
    | .error f => .error f
    | .ok none => .ok (state, cs)
    | .ok (some rest) =>
      match field.read depth state rest with
      | .error f => .error f
      | .ok (state, rest) => fieldsInOrder depth false fields state rest

/-- The record of an object, behind its opening brace. -/
def ofObject (r : Record σ α) (depth : Nat) (cs : List Char) : Read α :=
  match members (r.member depth) r.start cs with
  | .error f => .error f
  | .ok (state, rest) =>
    match r.finish state with
    | .ok a => .ok (a, rest)
    | .error name => failHere (.missingField name) rest

/-- The record of a list, behind its opening bracket. -/
def ofList (r : Record σ α) (depth : Nat) (cs : List Char) : Read α :=
  match fieldsInOrder depth true r.fields r.start cs with
  | .error f => .error f
  | .ok (state, rest) =>
    match listEnd rest with
    | .error f => .error f
    | .ok rest =>
      match r.finish state with
      | .ok a => .ok (a, rest)
      | .error name =>
        failHere (.invalidLength (r.fields.findIdx (·.name == name)) r.size) rest

/-- The record of an object or a list. -/
def read (r : Record σ α) (depth : Nat) (cs : List Char) : Read α :=
  match skipSpace cs with
  | '{' :: rest => descend depth ('{' :: rest) fun depth => r.ofObject depth rest
  | '[' :: rest => descend depth ('[' :: rest) fun depth => r.ofList depth rest
  | rest => .error (mismatch r.title rest)

end Record

end YardConsole.Json
