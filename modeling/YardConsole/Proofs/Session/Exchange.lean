import YardConsole.Session.Exchange

/-! # Exchanges: what they ask and what they leave

An exchange is judged without its services: whatever is answered, and wherever it is given up.
-/

namespace YardConsole

/-! ## Requests -/

namespace Ran

def advices (r : Ran σ α ω) : List (Provider × String) := r.requests.filterMap fun
  | .advise provider prompt => some (provider, prompt)
  | .call .. => none

def calls (r : Ran σ α ω) : List (String × Json) := r.requests.filterMap fun
  | .advise .. => none
  | .call method params => some (method, params)

variable (r : Ran σ α ω) (provider : Provider) (prompt : String)

@[simp] theorem advices_after_advise :
    (r.after (.advise provider prompt)).advices = (provider, prompt) :: r.advices := rfl

end Ran

/-! ## What is left -/

namespace Exchange

variable {σ α β ω : Type} {ended : α → σ → Prop} {held : σ → Prop}

/-- Whatever is answered, the end satisfies `ended`, and each state it may be given up in `held`. -/
inductive Leaves (ended : α → σ → Prop) (held : σ → Prop) : Exchange σ α → Prop
  | done {result state} (h : ended result state) : Leaves ended held (.done result state)
  | advise {state provider prompt next} (h : held state)
      (hnext : ∀ answer, Leaves ended held (next answer)) :
      Leaves ended held (.advise state provider prompt next)
  | call {state method params next} (h : held state)
      (hnext : ∀ answer, Leaves ended held (next answer)) :
      Leaves ended held (.call state method params next)

structure Left (ended : α → σ → Prop) (held : σ → Prop) (r : Ran σ α ω) : Prop where
  ended : ∀ result, r.result = some result → ended result r.state
  held : r.result = none → held r.state

theorem run_left (services : Services ω) (x : Exchange σ α) (w : ω) (h : x.Leaves ended held) :
    Left ended held (x.run services w) := by
  induction h generalizing w with
  | done h => exact ⟨fun _ hr => Option.some.inj hr ▸ h, nofun⟩
  | @advise state provider prompt next h _ ih =>
    rw [run]
    rcases services.advise provider prompt w with ⟨_ | answer, w'⟩
    · exact ⟨nofun, fun _ => h⟩
    · exact ⟨(ih answer w').ended, (ih answer w').held⟩
  | @call state method params next h _ ih =>
    rw [run]
    rcases services.call method params w with ⟨_ | answer, w'⟩
    · exact ⟨nofun, fun _ => h⟩
    · exact ⟨(ih answer w').ended, (ih answer w').held⟩

theorem run_keeps {keeps : σ → Prop} (services : Services ω) (x : Exchange σ α) (w : ω)
    (h : x.Leaves (fun _ => keeps) keeps) : keeps (x.run services w).state := by
  have hleft := run_left services x w h
  cases hr : (x.run services w).result with
  | none => exact hleft.held hr
  | some result => exact hleft.ended result hr

theorem run_map (services : Services ω) (f : α → β) (x : Exchange σ α) (w : ω) :
    (x.map f).run services w =
      { x.run services w with result := (x.run services w).result.map f } := by
  induction x generalizing w with
  | done result state => rfl
  | advise state provider prompt next ih =>
    rw [map, run, run]
    rcases services.advise provider prompt w with ⟨_ | answer, w'⟩
    · rfl
    · simp only [ih, Ran.after]
  | call state method params next ih =>
    rw [map, run, run]
    rcases services.call method params w with ⟨_ | answer, w'⟩
    · rfl
    · simp only [ih, Ran.after]

theorem run_map_state (services : Services ω) (f : α → β) (x : Exchange σ α) (w : ω) :
    ((x.map f).run services w).state = (x.run services w).state := by
  rw [run_map]

end Exchange

end YardConsole
