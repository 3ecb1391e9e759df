import YardConsole.Advice.Provider
import YardConsole.Failure

/-! # Exchanges: work that waits for others

An exchange is done, or waits for the assistant or the yard. While it waits it holds the state
that stays if the wait is given up.
-/

namespace YardConsole

inductive Exchange (σ α : Type) where
  | done (result : α) (state : σ)
  | advise (held : σ) (provider : Provider) (prompt : String)
      (next : Except Failure String → Exchange σ α)
  | call (held : σ) (method : String) (params : Json)
      (next : Except Failure Json → Exchange σ α)

/-- The same work with another result. -/
def Exchange.map (f : α → β) : Exchange σ α → Exchange σ β
  | done result state => .done (f result) state
  | advise held provider prompt next => .advise held provider prompt fun answer => (next answer).map f
  | call held method params next => .call held method params fun answer => (next answer).map f

/-- The work, and then what follows from its result. While it waits, `hold` tells what stays. -/
def Exchange.andThen (hold : σ → τ) (next : α → σ → Exchange τ β) : Exchange σ α → Exchange τ β
  | done result state => next result state
  | advise held provider prompt later =>
    .advise (hold held) provider prompt fun answer => (later answer).andThen hold next
  | call held method params later =>
    .call (hold held) method params fun answer => (later answer).andThen hold next

/-- What was asked of others. -/
inductive Request where
  | advise (provider : Provider) (prompt : String)
  | call (method : String) (params : Json)
deriving DecidableEq

/-- The assistant and the yard, with a state of their own. One that never answers gives none. -/
structure Services (ω : Type) where
  advise : Provider → String → ω → Option (Except Failure String) × ω
  call : String → Json → ω → Option (Except Failure Json) × ω

/-- How an exchange went. One that was given up has no result. -/
structure Ran (σ α ω : Type) where
  result : Option α
  state : σ
  requests : List Request
  services : ω

/-- One more request, before the others. -/
def Ran.after (request : Request) (r : Ran σ α ω) : Ran σ α ω :=
  { r with requests := request :: r.requests }

def Exchange.run (services : Services ω) : Exchange σ α → ω → Ran σ α ω
  | done result state, w => ⟨some result, state, [], w⟩
  | advise held provider prompt next, w =>
    match services.advise provider prompt w with
    | (some answer, w) => (run services (next answer) w).after (.advise provider prompt)
    | (none, w) => ⟨none, held, [.advise provider prompt], w⟩
  | call held method params next, w =>
    match services.call method params w with
    | (some answer, w) => (run services (next answer) w).after (.call method params)
    | (none, w) => ⟨none, held, [.call method params], w⟩

/-! ## Scripts -/

/-- Answers to be given in order, and what is answered when there are no more. An answer that never
comes is none. -/
structure Script where
  advice : List (Option (Except Failure String))
  calls : List (Option (Except Failure Json))
  noAdvice : Failure
  noCall : Failure

def Script.services : Services Script where
  advise _ _ script :=
    match script.advice with
    | [] => (some (.error script.noAdvice), script)
    | answer :: rest => (answer, { script with advice := rest })
  call _ _ script :=
    match script.calls with
    | [] => (some (.error script.noCall), script)
    | answer :: rest => (answer, { script with calls := rest })

end YardConsole
