import YardConsole.Proofs.Http.Network
import YardConsole.Proofs.Session.History

/-! # Sessions over a network

A console over any network does what its session does by itself when it is told what the deliveries
say.
-/

namespace YardConsole

/-! ## What deliveries say -/

namespace Delivery

/-- The answer to a call: the result in a body that came with a success, else an error of the
transport, which has a status only where the status tells what went wrong. -/
def callAnswer : Delivery → Except Failure Json
  | unreachable why => .error (.transport none why)
  | answered status (.ok body) =>
    if 200 ≤ status ∧ status < 300 then Envelope.decode body
    else .error (.transport (some status) (Text.trim body))
  | answered status (.error why) =>
    if 200 ≤ status ∧ status < 300 then .error (.transport none why)
    else .error (.transport (some status) "")

/-- The answer of the assistant. A body that did not come through is an empty one. -/
def adviceAnswer : Delivery → Except Failure String
  | unreachable why => .error (.aiUnavailable ("service IA injoignable: " ++ why))
  | answered status body =>
    let text := body.toOption.getD ""
    if 200 ≤ status ∧ status < 300 then .ok (Answer.text text)
    else .error (.aiUnavailable (Answer.errorText status text))

theorem isSuccess_iff (status : Nat) : isSuccess status = true ↔ 200 ≤ status ∧ status < 300 := by
  rw [isSuccess, Bool.and_eq_true, decide_eq_true_iff, decide_eq_true_iff]

theorem asCall_eq (d : Delivery) : d.asCall = d.callAnswer := by
  match d with
  | unreachable why => rfl
  | answered status (.ok body) =>
    simp only [asCall, callAnswer, isSuccess_iff, bodyText]
  | answered status (.error why) =>
    have htrim : Text.trim "" = "" := by decide
    simp only [asCall, callAnswer, isSuccess_iff, bodyText, htrim]

theorem asAdvice_eq (d : Delivery) : d.asAdvice = d.adviceAnswer := by
  match d with
  | unreachable why => rfl
  | answered status (.ok body) =>
    simp only [asAdvice, adviceAnswer, isSuccess_iff, bodyText, Except.toOption, Option.getD_some]
  | answered status (.error why) =>
    simp only [asAdvice, adviceAnswer, isSuccess_iff, bodyText, Except.toOption, Option.getD_none]

end Delivery

/-- Services that only say what deliveries say, in their order, whatever they are asked. -/
def feed : Services (List Delivery) where
  advise _ _ ds :=
    match ds with
    | [] => (none, [])
    | d :: ds => (some d.adviceAnswer, ds)
  call _ _ ds :=
    match ds with
    | [] => (none, [])
    | d :: ds => (some d.callAnswer, ds)

/-! ## What is posted -/

/-- The posts for some requests. The calls are numbered, from `id` on. -/
def posted (base : String) : (id : UInt64) → List Request → List Post
  | _, [] => []
  | id, .call method params :: requests =>
    ⟨endpoint base "/mcp", (Json.obj [("jsonrpc", .str "2.0"), ("id", .int id.toNat),
      ("method", .str method), ("params", params)]).compact⟩ :: posted base (id + 1) requests
  | id, .advise provider prompt :: requests =>
    ⟨endpoint base "/ai/chat", (Json.obj [("provider", .str provider.id),
      ("message", .str prompt)]).compact⟩ :: posted base id requests

def isCall : Request → Bool
  | .call .. => true
  | .advise .. => false

def numberAfter (id : UInt64) (requests : List Request) : UInt64 :=
  id + .ofNat (requests.countP isCall)

section

variable (id : UInt64) (requests later : List Request)

theorem numberAfter_nil : numberAfter id [] = id :=
  UInt64.add_zero id

theorem numberAfter_advise (provider : Provider) (prompt : String) :
    numberAfter id (.advise provider prompt :: requests) = numberAfter id requests := rfl

theorem numberAfter_call (method : String) (params : Json) :
    numberAfter id (.call method params :: requests) = numberAfter (id + 1) requests := by
  rw [numberAfter, List.countP_cons_of_pos (p := isCall) rfl, Nat.add_comm, UInt64.ofNat_add,
    ← UInt64.add_assoc]
  rfl

theorem numberAfter_append :
    numberAfter id (requests ++ later) = numberAfter (numberAfter id requests) later := by
  rw [numberAfter, List.countP_append, UInt64.ofNat_add, ← UInt64.add_assoc]
  rfl

theorem posted_append (base : String) : posted base id (requests ++ later) =
    posted base id requests ++ posted base (numberAfter id requests) later := by
  induction requests generalizing id with
  | nil => rw [numberAfter_nil, posted, List.nil_append, List.nil_append]
  | cons request requests ih =>
    cases request with
    | advise provider prompt => simp only [List.cons_append, posted, ih, numberAfter_advise]
    | call method params => simp only [List.cons_append, posted, ih, numberAfter_call]

end

def Links.at (base : String) (id : UInt64) : Links := ⟨⟨endpoint base "/mcp", id⟩, .new base⟩

/-! ## One exchange -/

theorem Exchange.overHttp_refines {σ α ν : Type} (net : Network ν) (base : String) (id : UInt64)
    (x : Exchange σ α) (n : ν) (later : List Delivery) :
    let sent := (x.overHttp (.at base id)).through net n
    let ran := x.run feed (sent.posts.map Prod.snd ++ later)
    ran.result = some sent.result.1 ∧ ran.state = sent.result.2.1 ∧ ran.services = later ∧
      sent.posts.map Prod.fst = posted base id ran.requests ∧
      sent.result.2.2 = .at base (numberAfter id ran.requests) := by
  induction x generalizing id n with
  | done result state =>
    refine ⟨rfl, rfl, rfl, rfl, ?_⟩
    rw [run, numberAfter_nil]
    rfl
  | advise held provider prompt next ih =>
    rcases hd : net.deliver (AdviceClient.post (.new base) provider prompt) n with ⟨d, n'⟩
    obtain ⟨hresult, hstate, hrest, hposts, hlinks⟩ := ih d.adviceAnswer id n'
    simp only [overHttp, AdviceClient.ask, Job.bind, Job.through, Links.at, hd,
      Delivery.asAdvice_eq]
    exact ⟨hresult, hstate, hrest, congrArg (List.cons _) hposts, hlinks⟩
  | call held method params next ih =>
    rcases hd : net.deliver (YardClient.post ⟨endpoint base "/mcp", id⟩ method params) n
      with ⟨d, n'⟩
    obtain ⟨hresult, hstate, hrest, hposts, hlinks⟩ := ih d.callAnswer (id + 1) n'
    rw [← numberAfter_call id _ method params] at hlinks
    simp only [overHttp, YardClient.call, Job.bind, Job.through, Links.at, hd, Delivery.asCall_eq]
    exact ⟨hresult, hstate, hrest, congrArg (List.cons _) hposts, hlinks⟩

theorem Exchange.overHttp_map {σ α β : Type} (f : α → β) (x : Exchange σ α) (links : Links) :
    (x.map f).overHttp links =
      (x.overHttp links).map fun (result, state, links) => (f result, state, links) := by
  induction x generalizing links with
  | done result state => rfl
  | advise held provider prompt next ih => exact congrArg (Job.post _) (funext fun d => ih _ _)
  | call held method params next ih => exact congrArg (Job.post _) (funext fun d => ih _ _)

theorem Exchange.overHttp_shown {σ α ν : Type} (net : Network ν) (x : Exchange σ α)
    (links : Links) (n : ν) : (x.overHttp links).shown net n = "" := by
  induction x generalizing links n with
  | done result state => rfl
  | advise held provider prompt next ih => exact ih _ _ _
  | call held method params next ih => exact ih _ _ _

namespace Console

theorem perform_map {α β : Type} (f : α → β) (c : Console) (work : Session → Exchange Session α) :
    (c.perform fun s => (work s).map f) =
      (c.perform work).map fun (result, c) => (f result, c) := by
  rw [perform, perform, Exchange.overHttp_map, Job.map_map, Job.map_map]

theorem perform_map_through {α β ν : Type} (net : Network ν) (f : α → β) (c : Console)
    (work : Session → Exchange Session α) (n : ν) :
    let sent := (c.perform work).through net n
    (c.perform fun s => (work s).map f).through net n =
      { sent with result := (f sent.result.1, sent.result.2) } := by
  rw [perform_map, Job.through_map]

theorem perform_shown {α ν : Type} (net : Network ν) (c : Console)
    (work : Session → Exchange Session α) (n : ν) : (c.perform work).shown net n = "" := by
  rw [perform, Job.shown_map, Exchange.overHttp_shown]

end Console

/-! ## Whole runs -/

open Session (Step Answer Event)

structure WebEvent where
  step : Step
  before : Console
  answer : Answer
  after : Console
  posts : List (Post × Delivery)

def Console.history (net : Network ν) : List Step → Console → ν → List WebEvent
  | [], _, _ => []
  | step :: steps, c, n =>
    let sent := (c.perform step.work).through net n
    ⟨step, c, sent.result.1, sent.result.2, sent.posts⟩ ::
      history net steps sent.result.2 sent.network

structure WebEvent.Matches (v : WebEvent) (e : Event) : Prop where
  step : v.step = e.step
  before : v.before.session = e.before
  answer : some v.answer = e.answer
  after : v.after.session = e.after

theorem Console.perform_refines {α ν : Type} (net : Network ν) (base : String) (id : UInt64)
    (work : Session → Exchange Session α) (s : Session) (n : ν) (later : List Delivery) :
    let sent := (Console.perform ⟨s, .at base id⟩ work).through net n
    let ran := (work s).run feed (sent.posts.map Prod.snd ++ later)
    ran.result = some sent.result.1 ∧ ran.state = sent.result.2.session ∧ ran.services = later ∧
      sent.posts.map Prod.fst = posted base id ran.requests ∧
      sent.result.2.links = .at base (numberAfter id ran.requests) := by
  rw [perform, Job.through_map]
  exact Exchange.overHttp_refines net base id (work s) n later

theorem Console.history_refines {ν : Type} (net : Network ν) (base : String) (id : UInt64)
    (steps : List Step) (s : Session) (n : ν) :
    let web := Console.history net steps ⟨s, .at base id⟩ n
    let events := Session.history feed steps s (web.flatMap fun v => v.posts.map Prod.snd)
    List.Forall₂ WebEvent.Matches web events ∧
      web.flatMap (fun v => v.posts.map Prod.fst) =
        posted base id (events.flatMap Event.requests) := by
  induction steps generalizing s n id with
  | nil => exact ⟨.nil, rfl⟩
  | cons step steps ih =>
    intro web events
    let sent := (Console.perform ⟨s, .at base id⟩ step.work).through net n
    let rest := (Console.history net steps sent.result.2 sent.network).flatMap
      fun v => v.posts.map Prod.snd
    let ran := (step.work s).run feed (sent.posts.map Prod.snd ++ rest)
    obtain ⟨hresult, hstate, hrest, hposts, hlinks⟩ :=
      Console.perform_refines net base id step.work s n rest
    have hafter : sent.result.2 = ⟨ran.state, .at base (numberAfter id ran.requests)⟩ := by
      rw [hstate, ← hlinks]
    have hevents : events = ⟨step, s, ran.result, ran.state, ran.requests⟩ ::
        Session.history feed steps ran.state rest := by
      have hservices : ran.services = rest := hrest
      rw [← hservices]
      rfl
    obtain ⟨hmatches, hlater⟩ := ih (numberAfter id ran.requests) ran.state sent.network
    rw [← hafter] at hmatches hlater
    rw [hevents]
    constructor
    · exact .cons ⟨rfl, rfl, hresult.symm, hstate.symm⟩ hmatches
    · rw [List.flatMap_cons, posted_append, ← hlater]
      exact congrArg (· ++ _) hposts

/-- Whatever a network delivers, a new console does over it what its session does by itself when it
is told what the deliveries say, and posts what the session asks, the calls numbered from one. -/
theorem console_refines_session {ν : Type} (net : Network ν) (config : Config) (steps : List Step)
    (n : ν) :
    let web := Console.history net steps (.ofConfig config) n
    let events := Session.history feed steps (.start config.settings false)
      (web.flatMap fun v => v.posts.map Prod.snd)
    List.Forall₂ WebEvent.Matches web events ∧
      web.flatMap (fun v => v.posts.map Prod.fst) =
        posted config.address 1 (events.flatMap Event.requests) :=
  Console.history_refines net config.address 1 steps _ n

end YardConsole
