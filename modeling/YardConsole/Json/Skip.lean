import YardConsole.Json.Reader

/-! # Passing over a value

A value nobody asked for is held to the grammar only: depth, range of numbers and pairs of
surrogates are not looked at.
-/

namespace YardConsole.Json

/-- The text behind what was passed over. -/
abbrev Skip := Except Fault (List Char)

/-! ## Numbers -/

/-- Behind the `e` of a number: a sign, then at least one digit. -/
def skipPower (cs : List Char) : Skip :=
  let digits :=
    match cs with
    | '+' :: rest | '-' :: rest => rest
    | rest => rest
  if digits.head?.any Char.isDigit then .ok (digits.dropWhile Char.isDigit)
  else failAt .invalidNumber digits

/-- Behind the digits of a number. -/
def skipAfterDigits : List Char → Skip
  | 'e' :: rest | 'E' :: rest => skipPower rest
  | rest => .ok rest

/-- Behind the whole part of a number. -/
def skipAfterWhole : List Char → Skip
  | '.' :: rest =>
    if rest.head?.any Char.isDigit then skipAfterDigits (rest.dropWhile Char.isDigit)
    else failAt .invalidNumber rest
  | rest => skipAfterDigits rest

/-- A number behind its sign. -/
def skipNumber : List Char → Skip
  | '0' :: rest =>
    if rest.head?.any Char.isDigit then failAt .invalidNumber rest else skipAfterWhole rest
  | cs =>
    if cs.head?.any Char.isDigit then skipAfterWhole (cs.dropWhile Char.isDigit)
    else failAt .invalidNumber cs

/-! ## Strings -/

/-- To behind the closing quote. A control character is refused before it is read. -/
def skipString : (bound : List Char) → List Char → Skip
  | [], rest => failHere (.ended .string) rest
  | _ :: _, [] => failHere (.ended .string) []
  | _ :: bound, c :: rest =>
    if c = '"' then .ok rest
    else if c = '\\' then
      match rest with
      | [] => failHere (.ended .string) []
      | e :: rest =>
        if (shortEscape? e).isSome then skipString bound rest
        else if e = 'u' then
          match codeUnit rest with
          | .ok (_, rest) => skipString bound rest
          | .error f => .error f
        else failAt .invalidEscape (e :: rest)
    else if c.toNat < 0x20 then failHere .controlCharacter (c :: rest)
    else skipString bound rest

/-! ## Lists and objects -/

/-- Items from the first one to behind the closing bracket. -/
def skipItems (item : List Char → Skip) : (bound : List Char) → List Char → Skip
  | [], rest => failHere (.ended .list) rest
  | _ :: bound, rest =>
    match item rest with
    | .error f => .error f
    | .ok rest =>
      match skipSpace rest with
      | [] => failHere (.ended .list) []
      | ']' :: rest => .ok rest
      | ',' :: rest => skipItems item bound rest
      | rest => failAt .expectedListEnd rest

/-- Members from the first one to behind the closing brace. -/
def skipMembers (item : List Char → Skip) : (bound : List Char) → List Char → Skip
  | [], rest => failHere (.ended .object) rest
  | _ :: bound, rest =>
    match skipSpace rest with
    | [] => failHere (.ended .object) []
    | '"' :: rest =>
      match skipString rest rest with
      | .error f => .error f
      | .ok rest =>
        match colon rest with
        | .error f => .error f
        | .ok rest =>
          match item rest with
          | .error f => .error f
          | .ok rest =>
            match skipSpace rest with
            | [] => failHere (.ended .object) []
            | '}' :: rest => .ok rest
            | ',' :: rest => skipMembers item bound rest
            | rest => failAt .expectedObjectEnd rest
    | rest => failAt .expectedKey rest

/-! ## Values -/

/-- One value. `inner` passes over the values in brackets. -/
def skipStep (inner : List Char → Skip) (cs : List Char) : Skip :=
  match skipSpace cs with
  | [] => failHere (.ended .value) []
  | 'n' :: rest => word ['u', 'l', 'l'] rest
  | 't' :: rest => word ['r', 'u', 'e'] rest
  | 'f' :: rest => word ['a', 'l', 's', 'e'] rest
  | '-' :: rest => skipNumber rest
  | '"' :: rest => skipString rest rest
  | '[' :: rest =>
    match skipSpace rest with
    | [] => failHere (.ended .list) []
    | ']' :: rest => .ok rest
    | rest => skipItems inner rest rest
  | '{' :: rest =>
    match skipSpace rest with
    | [] => failHere (.ended .object) []
    | '}' :: rest => .ok rest
    | rest => skipMembers inner rest rest
  | c :: rest => if c.isDigit then skipNumber (c :: rest) else failAt .expectedValue (c :: rest)

/-- One value; brackets nest no deeper than `bound` is long. -/
def skipNested : (bound : List Char) → List Char → Skip
  | [], rest => failHere (.ended .value) rest
  | _ :: bound, rest => skipStep (skipNested bound) rest

def skipValue (cs : List Char) : Skip := skipNested (' ' :: cs) cs

end YardConsole.Json
