import YardConsole.Http.Job
import YardConsole.Http.Target
import YardConsole.Text.Utf16

/-! # A server that answers from two lists

Requests for advice are told from calls by what is asked of the server.
-/

namespace YardConsole

/-- An answer to be given. One that is cut off ends before the length it announced. -/
structure Reply where
  status : Nat
  body : List UInt8
  isCut : Bool

structure Server where
  /-- What the addresses of this server begin with. -/
  base : String
  calls : List Reply
  advice : List Reply
  /-- The answer when a list is at its end. -/
  exhausted : Reply
  isDown : Bool
  /-- What is said of a server that is not reached. -/
  unreachable : String
  /-- What is said of a body that is cut off. -/
  cut : String

namespace Server

/-- Statuses that never come with a body. -/
def hasNoBody (status : Nat) : Bool := status == 204 || status == 304

def delivery (s : Server) (r : Reply) : Delivery :=
  .answered r.status
    (if hasNoBody r.status then .ok ""
    else if r.isCut then .error s.cut
    else .ok (Text.decodeMarked r.body))

/-- What is asked of the server; none if the address is not one of this server. -/
def target? (s : Server) (url : String) : Option String :=
  if s.base.toList.isPrefixOf url.toList then
    Http.target? (String.ofList (url.toList.drop s.base.toList.length))
  else none

/-- Answers a request. The target is none when the request does not come to this server. -/
def answer (s : Server) (p : Post) : Option String × Delivery × Server :=
  match s.target? p.url with
  | none => (none, .unreachable s.unreachable, s)
  | some target =>
    if s.isDown then (none, .unreachable s.unreachable, s)
    else if target = "/ai/chat" then
      (some target, s.delivery (s.advice.headD s.exhausted), { s with advice := s.advice.tail })
    else (some target, s.delivery (s.calls.headD s.exhausted), { s with calls := s.calls.tail })

end Server

/-- How a job went: its result, what was shown, and the requests that came to the server, each a
target and a body. -/
structure JobRun (α : Type) where
  result : α
  shown : String
  received : List (String × String)
  server : Server

/-- Carries a job out. -/
def Job.run : Job α → Server → JobRun α
  | done a, s => ⟨a, "", [], s⟩
  | say text next, s =>
    let r := next.run s
    { r with shown := text ++ r.shown }
  | post p next, s =>
    let (target, delivery, s) := s.answer p
    let r := (next delivery).run s
    { r with received := (target.map (·, p.body)).toList ++ r.received }

end YardConsole
