import YardConsole.Json.Record

/-! # Messages between the operator and the assistant -/

namespace YardConsole

inductive Role where
  | user
  | assistant
deriving DecidableEq

namespace Role

def name : Role → String
  | user => "user"
  | assistant => "assistant"

/-- The role a string names, which has been read up to `rest`. -/
def named (name : String) (rest : List Char) : Json.Read Role :=
  match name with
  | "user" => .ok (user, rest)
  | "assistant" => .ok (assistant, rest)
  | _ => Json.failHere (.unknownVariant name "`user` or `assistant`") rest

/-- A role by its name, behind the quote that opens it. -/
def readName (cs : List Char) : Json.Read Role :=
  match Json.string cs with
  | .ok (name, rest) => named name rest
  | .error f => .error f

/-- The null behind a key. -/
def readNull (cs : List Char) : Except Json.Fault (List Char) :=
  match Json.skipSpace cs with
  | 'n' :: rest => Json.word ['u', 'l', 'l'] rest
  | rest => .error (Json.mismatch "unit" rest)

/-- The end of the object whose one key is the role. -/
def close (role : Role) (cs : List Char) : Json.Read Role :=
  match Json.skipSpace cs with
  | [] => Json.failHere (.ended .object) []
  | '}' :: rest => .ok (role, rest)
  | rest => Json.failHere .expectedValue rest

/-- A role as the one key of an object, whose value is null. -/
def readKey (cs : List Char) : Json.Read Role :=
  match Json.skipSpace cs with
  | [] => Json.failHere (.ended .object) []
  | '"' :: rest =>
    match readName rest with
    | .error f => .error f
    | .ok (role, rest) =>
      match Json.colon rest with
      | .error f => .error f
      | .ok rest =>
        match readNull rest with
        | .error f => .error f
        | .ok rest => close role rest
  | '}' :: rest => Json.failAt .expectedValue ('}' :: rest)
  | rest => Json.failAt .expectedKey rest

/-- A role: its name, or an object with the name as key and null as value. -/
def read (depth : Nat) (cs : List Char) : Json.Read Role :=
  match Json.skipSpace cs with
  | [] => Json.failHere (.ended .value) []
  | '"' :: rest => readName rest
  | '{' :: rest => Json.descend depth ('{' :: rest) fun _ => readKey rest
  | rest => Json.failAt .expectedValue rest

end Role

structure Message where
  role : Role
  content : String
deriving DecidableEq

namespace Message

def toJson (m : Message) : Json := .obj [("role", .str m.role.name), ("content", .str m.content)]

structure Draft where
  role : Option Role
  content : Option String

def record : Json.Record Draft Message where
  title := "struct ChatMessage"
  fields := [
    { name := "role"
      isRead := (·.role.isSome)
      read := fun depth draft cs =>
        (Role.read depth cs).map fun (role, rest) => ({ draft with role := some role }, rest) },
    { name := "content"
      isRead := (·.content.isSome)
      read := fun _ draft cs =>
        (Json.readString "a string" cs).map fun (s, rest) =>
          ({ draft with content := some s }, rest) }]
  start := ⟨none, none⟩
  finish
    | ⟨some role, some content⟩ => .ok ⟨role, content⟩
    | ⟨none, _⟩ => .error "role"
    | ⟨some _, none⟩ => .error "content"

def parse (text : String) : Except Json.ReadError Message :=
  Json.readWith (record.read Json.maxDepth) text.toList

end Message

end YardConsole
