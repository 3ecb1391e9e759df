import YardConsole.Http.Delivery

/-! # Jobs: texts to show and requests to send, in order -/

namespace YardConsole

inductive Job (α : Type) where
  | done (a : α)
  | say (text : String) (next : Job α)
  | post (p : Post) (next : Delivery → Job α)

namespace Job

/-- One job after the other. -/
def bind : Job α → (α → Job β) → Job β
  | done a, f => f a
  | say text next, f => .say text (next.bind f)
  | post p next, f => .post p fun delivery => (next delivery).bind f

def map (f : α → β) (job : Job α) : Job β := job.bind fun a => .done (f a)

def line (text : String) (next : Job α) : Job α := .say (text ++ "\n") next

def lines (texts : List String) (next : Job α) : Job α := texts.foldr line next

end Job

end YardConsole
