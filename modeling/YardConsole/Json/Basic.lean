/-! # JSON values

An object keeps its members in the order they are written in. Values that were read hold them in
the order of their keys, each key once.
-/

namespace YardConsole

inductive Json where
  | null
  | bool (b : Bool)
  | int (n : Int)
  | float (x : Float)
  | str (s : String)
  | arr (items : List Json)
  | obj (members : List (String × Json))
deriving Inhabited

namespace Json

/-! ## Parts -/

def get? (key : String) : Json → Option Json
  | obj members => members.lookup key
  | _ => none

/-- An item of a list, counted from zero. -/
def item? (index : Nat) : Json → Option Json
  | arr items => items[index]?
  | _ => none

def string? : Json → Option String
  | str s => some s
  | _ => none

def bool? : Json → Option Bool
  | bool b => some b
  | _ => none

def items? : Json → Option (List Json)
  | arr items => some items
  | _ => none

def isNull : Json → Bool
  | null => true
  | _ => false

def text? (key : String) (j : Json) : Option String := (j.get? key).bind string?

/-! ## Members in order -/

/-- Puts a member at its place among sorted ones; a later value replaces an earlier one. -/
def insertMember (key : String) (value : Json) :
    List (String × Json) → List (String × Json)
  | [] => [(key, value)]
  | (k, v) :: rest =>
    if key < k then (key, value) :: (k, v) :: rest
    else if key = k then (key, value) :: rest
    else (k, v) :: insertMember key value rest

end Json

end YardConsole
