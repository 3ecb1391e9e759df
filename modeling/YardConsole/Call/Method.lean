import YardConsole.Text.Blank
import YardConsole.Text.Casing

/-! # The methods of a call -/

namespace YardConsole

inductive Method where
  | get
  | post
  | put
  | delete
deriving DecidableEq

namespace Method

def name : Method → String
  | get => "GET"
  | post => "POST"
  | put => "PUT"
  | delete => "DELETE"

def all : List Method := [get, post, put, delete]

/-- The method a text names, whatever its case and the blanks around it. -/
def ofText? (s : String) : Option Method :=
  all.find? fun m => Text.upperList (Text.trimList s.toList) == m.name.toList

/-- The payload of such a call is its query, of others its body. -/
def asksOnly : Method → Bool
  | get | delete => true
  | post | put => false

end Method

end YardConsole
