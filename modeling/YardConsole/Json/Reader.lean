import YardConsole.Json.Scalar

/-! # Reading JSON

Lists and objects are read by loops over any reader of their parts; a loop has no more rounds than
its `bound` has characters. Brackets nest at most `maxDepth` deep.
-/

namespace YardConsole.Json

/-! ## Lists -/

/-- Items from the first one to the closing bracket; `done` holds those before, reversed. -/
def itemsFrom (item : List Char → Read α) (done : List α) :
    (bound : List Char) → List Char → Read (List α)
  | [], rest => failHere (.ended .list) rest
  | _ :: bound, rest =>
    match item rest with
    | .error f => .error f
    | .ok (x, rest) =>
      match skipSpace rest with
      | [] => failHere (.ended .list) []
      | ']' :: rest => .ok ((x :: done).reverse, rest)
      | ',' :: rest =>
        match skipSpace rest with
        | [] => failHere (.ended .value) []
        | ']' :: rest => failAt .trailingComma (']' :: rest)
        | rest => itemsFrom item (x :: done) bound rest
      | rest => failAt .expectedListEnd rest

/-- The items of a list behind its opening bracket. -/
def items (item : List Char → Read α) (cs : List Char) : Read (List α) :=
  match skipSpace cs with
  | [] => failHere (.ended .list) []
  | ']' :: rest => .ok ([], rest)
  | rest => itemsFrom item [] rest rest

/-! ## Objects -/

def colon (cs : List Char) : Except Fault (List Char) :=
  match skipSpace cs with
  | [] => failHere (.ended .object) []
  | ':' :: rest => .ok rest
  | rest => failAt .expectedColon rest

/-- Members from the first key to the closing brace. `member` reads what is behind a key into
what is known so far. -/
def membersFrom (member : String → σ → List Char → Read σ) :
    (bound : List Char) → σ → List Char → Read σ
  | [], _, rest => failHere (.ended .object) rest
  | _ :: bound, state, '"' :: rest =>
    match string rest with
    | .error f => .error f
    | .ok (key, rest) =>
      match member key state rest with
      | .error f => .error f
      | .ok (state, rest) =>
        match skipSpace rest with
        | [] => failHere (.ended .object) []
        | '}' :: rest => .ok (state, rest)
        | ',' :: rest =>
          match skipSpace rest with
          | [] => failHere (.ended .value) []
          | '}' :: rest => failAt .trailingComma ('}' :: rest)
          | rest => membersFrom member bound state rest
        | rest => failAt .expectedObjectEnd rest
  | _ :: _, _, rest => failAt .expectedKey rest

/-- The members of an object behind its opening brace. -/
def members (member : String → σ → List Char → Read σ) (state : σ) (cs : List Char) : Read σ :=
  match skipSpace cs with
  | [] => failHere (.ended .object) []
  | '}' :: rest => .ok (state, rest)
  | rest => membersFrom member rest state rest

/-! ## Values -/

/-- A member of a value, put at its place. -/
def plainMember (value : List Char → Read Json) (key : String)
    (members : List (String × Json)) (cs : List Char) : Read (List (String × Json)) :=
  match colon cs with
  | .error f => .error f
  | .ok rest =>
    match value rest with
    | .error f => .error f
    | .ok (v, rest) => .ok (insertMember key v members, rest)

/-- One value. `inner` reads the values in brackets, if brackets may still open. -/
def valueStep (inner : Option (List Char → Read Json)) (cs : List Char) : Read Json :=
  match skipSpace cs with
  | [] => failHere (.ended .value) []
  | 'n' :: rest => (word ['u', 'l', 'l'] rest).map (.null, ·)
  | 't' :: rest => (word ['r', 'u', 'e'] rest).map (.bool true, ·)
  | 'f' :: rest => (word ['a', 'l', 's', 'e'] rest).map (.bool false, ·)
  | '-' :: rest => number true rest
  | '"' :: rest => (string rest).map fun (s, rest) => (.str s, rest)
  | '[' :: rest =>
    match inner with
    | none => failAt .tooDeep ('[' :: rest)
    | some value => (items value rest).map fun (xs, rest) => (.arr xs, rest)
  | '{' :: rest =>
    match inner with
    | none => failAt .tooDeep ('{' :: rest)
    | some value => (members (plainMember value) [] rest).map fun (ms, rest) => (.obj ms, rest)
  | c :: rest => if c.isDigit then number false (c :: rest) else failAt .expectedValue (c :: rest)

/-- One value with brackets at most `depth` deep. -/
def value : (depth : Nat) → List Char → Read Json
  | 0 => valueStep none
  | depth + 1 => valueStep (some (value depth))

/-- How deep brackets may nest. -/
def maxDepth : Nat := 127

/-! ## Whole texts -/

/-- Runs a reader over a text, behind which only blanks may stand. -/
def readWith (reader : List Char → Read α) (text : List Char) : Except ReadError α :=
  match reader text with
  | .error f => .error (f.locate text)
  | .ok (a, rest) =>
    match skipSpace rest with
    | [] => .ok a
    | rest => .error ((⟨.trailingCharacters, rest, 1⟩ : Fault).locate text)

/-- The value of a whole text. -/
def read (text : List Char) : Except ReadError Json := readWith (value maxDepth) text

def parse (s : String) : Except ReadError Json := read s.toList

/-- The value that a text starts with, whatever stands behind it; none if there is none. -/
def startValue? (text : List Char) : Option Json :=
  match value maxDepth text with
  | .error _ => none
  | .ok (j, _) => some j

/-- The value that a text starts with, whatever stands behind it. -/
def readStart (text : List Char) : Except ReadError Json :=
  match value maxDepth text with
  | .error f => .error (f.locate text)
  | .ok (j, _) => .ok j

end YardConsole.Json
