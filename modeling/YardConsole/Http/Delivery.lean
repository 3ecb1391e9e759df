import YardConsole.Advice.Answer
import YardConsole.Rpc.Envelope

/-! # Deliveries: what becomes of a request -/

namespace YardConsole

/-- A request: JSON that is posted to an address. -/
structure Post where
  url : String
  body : String
deriving DecidableEq

inductive Delivery where
  | unreachable (why : String)
  /-- An answer, whose body may not have come through. -/
  | answered (status : Nat) (body : Except String String)

namespace Delivery

def isSuccess (status : Nat) : Bool := 200 ≤ status && status < 300

/-- The body, or nothing if it did not come through. -/
def bodyText : Except String String → String
  | .ok text => text
  | .error _ => ""

/-- What a delivery means as the answer to a call. -/
def asCall : Delivery → Except Failure Json
  | unreachable why => .error (.transport none why)
  | answered status body =>
    if isSuccess status then
      match body with
      | .ok text => Envelope.decode text
      | .error why => .error (.transport none why)
    else .error (.transport (some status) (Text.trim (bodyText body)))

/-- What a delivery means as the answer of the assistant. -/
def asAdvice : Delivery → Except Failure String
  | unreachable why => .error (.aiUnavailable ("service IA injoignable: " ++ why))
  | answered status body =>
    if isSuccess status then .ok (Answer.text (bodyText body))
    else .error (.aiUnavailable (Answer.errorText status (bodyText body)))

end Delivery

end YardConsole
