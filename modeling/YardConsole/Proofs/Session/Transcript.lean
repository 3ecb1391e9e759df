import YardConsole.Proofs.Session.History

/-! # Transcripts: what was asked, and what was answered

An exchange is determined by the answers it gets. Two exchanges that differ in their states only
go the same way when they are answered the same.
-/

namespace YardConsole

/-! ## What was heard -/

inductive Response where
  | advice (answer : Option (Except Failure String))
  | call (answer : Option (Except Failure Json))
deriving DecidableEq

inductive Heard where
  | advice (provider : Provider) (prompt : String) (answer : Option (Except Failure String))
  | call (method : String) (params : Json) (answer : Option (Except Failure Json))

def Heard.request : Heard → Request
  | advice provider prompt _ => .advise provider prompt
  | call method params _ => .call method params

def Heard.response : Heard → Response
  | advice _ _ answer => .advice answer
  | call _ _ answer => .call answer

namespace Exchange

variable {σ α β ω ω' : Type}

def heard (services : Services ω) : Exchange σ α → ω → List Heard
  | done _ _, _ => []
  | advise _ provider prompt next, w =>
    match services.advise provider prompt w with
    | (some answer, w) => .advice provider prompt (some answer) :: heard services (next answer) w
    | (none, _) => [.advice provider prompt none]
  | call _ method params next, w =>
    match services.call method params w with
    | (some answer, w) => .call method params (some answer) :: heard services (next answer) w
    | (none, _) => [.call method params none]

theorem requests_run (services : Services ω) (x : Exchange σ α) (w : ω) :
    (x.run services w).requests = (x.heard services w).map Heard.request := by
  induction x generalizing w with
  | done result state => rfl
  | advise held provider prompt next ih =>
    rw [run, heard]
    rcases services.advise provider prompt w with ⟨_ | answer, w'⟩
    · rfl
    · simp only [Ran.after, ih, List.map_cons, Heard.request]
  | call held method params next ih =>
    rw [run, heard]
    rcases services.call method params w with ⟨_ | answer, w'⟩
    · rfl
    · simp only [Ran.after, ih, List.map_cons, Heard.request]

theorem heard_map (services : Services ω) (f : α → β) (x : Exchange σ α) (w : ω) :
    (x.map f).heard services w = x.heard services w := by
  induction x generalizing w with
  | done result state => rfl
  | advise held provider prompt next ih =>
    rw [map, heard, heard]
    rcases services.advise provider prompt w with ⟨_ | answer, w'⟩
    · rfl
    · simp only [ih]
  | call held method params next ih =>
    rw [map, heard, heard]
    rcases services.call method params w with ⟨_ | answer, w'⟩
    · rfl
    · simp only [ih]

inductive CallsOnly (p : String → Prop) : Exchange σ α → Prop
  | done {result state} : CallsOnly p (.done result state)
  | advise {held provider prompt next} (hnext : ∀ answer, CallsOnly p (next answer)) :
      CallsOnly p (.advise held provider prompt next)
  | call {held method params next} (h : p method) (hnext : ∀ answer, CallsOnly p (next answer)) :
      CallsOnly p (.call held method params next)

theorem heard_callsOnly {p : String → Prop} {x : Exchange σ α} (h : x.CallsOnly p)
    (services : Services ω) (w : ω) {method : String} {params : Json}
    {answer : Option (Except Failure Json)}
    (hmem : .call method params answer ∈ x.heard services w) : p method := by
  induction h generalizing w with
  | done => cases hmem
  | @advise held provider prompt next _ ih =>
    rw [heard] at hmem
    split at hmem
    · exact ih _ _ (by simpa using hmem)
    · simp at hmem
  | @call held method' params' next hp _ ih =>
    rw [heard] at hmem
    split at hmem
    · rcases List.mem_cons.mp hmem with heq | hmem
      · cases heq
        exact hp
      · exact ih _ _ hmem
    · cases List.mem_singleton.mp hmem
      exact hp

/-! ## Exchanges that differ in their states -/

/-- The two ask the same and end with the same result, in states that `R` relates. -/
inductive Twin (R : σ → σ → Prop) : Exchange σ α → Exchange σ α → Prop
  | done {result s s'} (h : R s s') : Twin R (.done result s) (.done result s')
  | advise {s s' provider prompt next next'} (h : R s s')
      (hnext : ∀ answer, Twin R (next answer) (next' answer)) :
      Twin R (.advise s provider prompt next) (.advise s' provider prompt next')
  | call {s s' method params next next'} (h : R s s')
      (hnext : ∀ answer, Twin R (next answer) (next' answer)) :
      Twin R (.call s method params next) (.call s' method params next')

variable {R : σ → σ → Prop}

theorem Twin.map (f : α → β) {x y : Exchange σ α} (h : Twin R x y) :
    Twin R (x.map f) (y.map f) := by
  induction h with
  | done h => exact .done h
  | advise h _ ih => exact .advise h ih
  | call h _ ih => exact .call h ih

/-- Answered the same, the two go the same way, and leave the same answers to others. -/
theorem run_twin {x y : Exchange σ α} (h : Twin R x y) (services : Services ω)
    (services' : Services ω') (w : ω) (w' : ω') {rest rest' : List Response}
    (hreplies : (x.heard services w).map Heard.response ++ rest =
      (y.heard services' w').map Heard.response ++ rest') :
    x.heard services w = y.heard services' w' ∧ rest = rest' ∧
      (x.run services w).result = (y.run services' w').result ∧
      R (x.run services w).state (y.run services' w').state := by
  induction h generalizing w w' with
  | done h => exact ⟨rfl, hreplies, rfl, h⟩
  | @advise s s' provider prompt next next' h _ ih =>
    revert hreplies
    rw [heard, heard, run, run]
    rcases services.advise provider prompt w with ⟨_ | answer, v⟩ <;>
      rcases services'.advise provider prompt w' with ⟨_ | answer', v'⟩
    · intro hreplies
      exact ⟨rfl, (List.cons.inj hreplies).2, rfl, h⟩
    · intro hreplies
      cases (List.cons.inj hreplies).1
    · intro hreplies
      cases (List.cons.inj hreplies).1
    · intro hreplies
      obtain ⟨hfirst, hreplies⟩ := List.cons.inj hreplies
      cases hfirst
      obtain ⟨hheard, hrest, hresult, hstate⟩ := ih answer v v' hreplies
      exact ⟨congrArg _ hheard, hrest, hresult, hstate⟩
  | @call s s' method params next next' h _ ih =>
    revert hreplies
    rw [heard, heard, run, run]
    rcases services.call method params w with ⟨_ | answer, v⟩ <;>
      rcases services'.call method params w' with ⟨_ | answer', v'⟩
    · intro hreplies
      exact ⟨rfl, (List.cons.inj hreplies).2, rfl, h⟩
    · intro hreplies
      cases (List.cons.inj hreplies).1
    · intro hreplies
      cases (List.cons.inj hreplies).1
    · intro hreplies
      obtain ⟨hfirst, hreplies⟩ := List.cons.inj hreplies
      cases hfirst
      obtain ⟨hheard, hrest, hresult, hstate⟩ := ih answer v v' hreplies
      exact ⟨congrArg _ hheard, hrest, hresult, hstate⟩

end Exchange

/-! ## Whole runs -/

namespace Session

variable {ω : Type}

structure Moment where
  event : Event
  heard : List Heard

def moment (services : Services ω) (step : Step) (s : Session) (w : ω) : Moment :=
  ⟨event services step s w, (step.work s).heard services w⟩

def transcript (services : Services ω) : List Step → Session → ω → List Moment
  | [], _, _ => []
  | step :: steps, s, w =>
    let ran := (step.work s).run services w
    moment services step s w :: transcript services steps ran.state ran.services

theorem requests_moment (services : Services ω) (step : Step) (s : Session) (w : ω) :
    (moment services step s w).event.requests =
      (moment services step s w).heard.map Heard.request :=
  Exchange.requests_run services (step.work s) w

theorem requests_transcript (services : Services ω) (steps : List Step) (s : Session) (w : ω) :
    (transcript services steps s w).flatMap (·.event.requests) =
      ((transcript services steps s w).flatMap Moment.heard).map Heard.request := by
  induction steps generalizing s w with
  | nil => rfl
  | cons step steps ih =>
    rw [transcript, List.flatMap_cons, List.flatMap_cons, List.map_append, requests_moment, ih]

end Session

end YardConsole
