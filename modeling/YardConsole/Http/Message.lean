import YardConsole.Http.Delivery
import YardConsole.Http.Target
import YardConsole.Text.Find
import YardConsole.Text.Utf16

/-! # Requests and answers as they are sent

One request a connection, with the bytes of a message as characters below 256.
-/

namespace YardConsole.Http

/-! ## Addresses -/

/-- Where a request goes: the host, the port and what is asked of it. -/
structure Address where
  host : String
  port : Nat
  target : String
deriving DecidableEq

def scheme : List Char := ['h', 't', 't', 'p', ':', '/', '/']

/-- What the name of a server ends before. -/
def endsServer : List Char := ['/', '\\', '?', '#']

/-- The parts of an address that begins with `http://`. -/
def Address.ofUrl? (url : String) : Option Address :=
  let cs := url.toList
  if scheme.isPrefixOf cs then
    let rest := cs.drop scheme.length
    let server := rest.takeWhile (!endsServer.contains ·)
    let host := String.ofList (server.takeWhile (· ≠ ':'))
    (target? (String.ofList (rest.drop server.length))).bind fun target =>
      match server.dropWhile (· ≠ ':') with
      | [] => some ⟨host, 80, target⟩
      | _ :: port => (String.ofList port).toNat?.map (⟨host, ·, target⟩)
  else none

/-! ## Requests -/

/-- The head of a request, which ends with an empty line. -/
def requestHead (a : Address) (length : Nat) : String :=
  "POST " ++ a.target ++ " HTTP/1.1\r\n" ++
  "Host: " ++ a.host ++ ":" ++ toString a.port ++ "\r\n" ++
  "Content-Type: application/json\r\n" ++
  "Content-Length: " ++ toString length ++ "\r\n" ++
  "Connection: close\r\n\r\n"

def requestBytes (a : Address) (body : String) : ByteArray :=
  (requestHead a body.utf8ByteSize ++ body).toUTF8

/-! ## Answers -/

def lineEnd : List Char := ['\r', '\n']

/-- The lines of a head. -/
def headLines : (bound : List Char) → List Char → List (List Char)
  | [], rest => [rest]
  | _ :: bound, rest =>
    match Text.cut lineEnd rest with
    | some (line, rest) => line :: headLines bound rest
    | none => [rest]

/-- The value of a header, without blanks around it. -/
def header? (name : String) (lines : List (List Char)) : Option (List Char) :=
  lines.findSome? fun line =>
    if Text.sameIgnoringCase (String.ofList (line.takeWhile (· ≠ ':'))) name then
      some (Text.trimList ((line.dropWhile (· ≠ ':')).drop 1))
    else none

/-- The status in the first line. -/
def statusOf? (line : List Char) : Option Nat :=
  (String.ofList (((line.dropWhile (· ≠ ' ')).drop 1).takeWhile (· ≠ ' '))).toNat?

/-- The chunks of a body, each behind its length; none if it breaks off. -/
def chunks : (bound : List Char) → List Char → Option (List Char)
  | [], _ => none
  | _ :: bound, rest => do
    let (line, rest) ← Text.cut lineEnd rest
    let digits ← (line.takeWhile Char.isAlphanum).mapM Json.hexValue?
    let size := digits.foldl (16 * · + ·) 0
    if size = 0 then some []
    else if rest.length < size then none
    else (chunks bound ((rest.drop size).drop 2)).map (rest.take size ++ ·)

/-- The body of an answer; none if it is shorter than announced. -/
def bodyOf? (lines : List (List Char)) (rest : List Char) : Option (List Char) :=
  if header? "transfer-encoding" lines = some "chunked".toList then chunks rest rest
  else
    match (header? "content-length" lines).bind fun n => (String.ofList n).toNat? with
    | some length => if rest.length < length then none else some (rest.take length)
    | none => some rest

def bodyText (cs : List Char) : String := Text.decodeMarked (cs.map fun c => c.toNat.toUInt8)

/-- What the bytes of an answer say. -/
def deliveryOf (bytes : List UInt8) : Delivery :=
  let cs := bytes.map fun b => Char.ofNat b.toNat
  let (head, rest) := (Text.cut (lineEnd ++ lineEnd) cs).getD (cs, [])
  match headLines head head with
  | [] => .unreachable "no answer"
  | first :: lines =>
    match statusOf? first with
    | none => .unreachable "no answer"
    | some status =>
      match bodyOf? lines rest with
      | some body => .answered status (.ok (bodyText body))
      | none => .answered status (.error "error decoding response body")

end YardConsole.Http
