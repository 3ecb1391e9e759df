import YardConsole.Http.Client
import YardConsole.Http.Server

/-! # Jobs over any network -/

namespace YardConsole

structure Network (ν : Type) where
  deliver : Post → ν → Delivery × ν

/-- How a job went: its result, and what was posted, each with what became of it. -/
structure Sent (α ν : Type) where
  result : α
  posts : List (Post × Delivery)
  network : ν

def Sent.after (p : Post) (d : Delivery) (sent : Sent α ν) : Sent α ν :=
  { sent with posts := (p, d) :: sent.posts }

namespace Job

variable {α β ν : Type}

def through (net : Network ν) : Job α → ν → Sent α ν
  | done a, n => ⟨a, [], n⟩
  | say _ next, n => next.through net n
  | post p next, n =>
    match net.deliver p n with
    | (delivery, n) => ((next delivery).through net n).after p delivery

theorem through_map (net : Network ν) (f : α → β) (job : Job α) (n : ν) :
    (job.map f).through net n =
      { job.through net n with result := f (job.through net n).result } := by
  induction job generalizing n with
  | done a => rfl
  | say text next ih => exact ih n
  | post p next ih => exact congrArg (Sent.after p _) (ih _ _)

theorem map_map {γ : Type} (f : α → β) (g : β → γ) (job : Job α) :
    (job.map f).map g = job.map fun a => g (f a) := by
  induction job with
  | done a => rfl
  | say text next ih => exact congrArg (say text) ih
  | post p next ih => exact congrArg (post p) (funext fun d => ih d)

/-! ## What is shown -/

def shown (net : Network ν) : Job α → ν → String
  | done _, _ => ""
  | say text next, n => text ++ next.shown net n
  | post p next, n => (next (net.deliver p n).1).shown net (net.deliver p n).2

theorem through_bind (net : Network ν) (job : Job α) (f : α → Job β) (n : ν) :
    let first := job.through net n
    let later := (f first.result).through net first.network
    (job.bind f).through net n = ⟨later.result, first.posts ++ later.posts, later.network⟩ := by
  induction job generalizing n with
  | done a => rfl
  | say text next ih => exact ih n
  | post p next ih => exact congrArg (Sent.after p _) (ih _ _)

theorem shown_bind (net : Network ν) (job : Job α) (f : α → Job β) (n : ν) :
    let first := job.through net n
    (job.bind f).shown net n = job.shown net n ++ (f first.result).shown net first.network := by
  induction job generalizing n with
  | done a => exact String.empty_append.symm
  | say text next ih => exact (congrArg (text ++ ·) (ih n)).trans (String.append_assoc ..).symm
  | post p next ih => exact ih _ _

theorem shown_map (net : Network ν) (f : α → β) (job : Job α) (n : ν) :
    (job.map f).shown net n = job.shown net n := by
  rw [map, shown_bind]
  exact String.append_empty

theorem through_lines (net : Network ν) (texts : List String) (job : Job α) (n : ν) :
    (job.lines texts).through net n = job.through net n := by
  induction texts with
  | nil => rfl
  | cons text texts ih => exact ih

theorem shown_lines (net : Network ν) (texts : List String) (job : Job α) (n : ν) :
    (job.lines texts).shown net n = String.join (texts.map (· ++ "\n")) ++ job.shown net n := by
  induction texts with
  | nil => exact String.empty_append.symm
  | cons text texts ih =>
    rw [List.map_cons, String.join_cons, String.append_assoc]
    exact congrArg (text ++ "\n" ++ ·) ih

/-! ## What a job ends with -/

inductive Ends (ended : α → Prop) : Job α → Prop
  | done {a} (h : ended a) : Ends ended (.done a)
  | say {text next} (h : Ends ended next) : Ends ended (.say text next)
  | post {p next} (h : ∀ delivery, Ends ended (next delivery)) : Ends ended (.post p next)

variable {ended : β → Prop}

theorem ends_bind (job : Job α) {f : α → Job β} (hf : ∀ a, (f a).Ends ended) :
    (job.bind f).Ends ended := by
  induction job with
  | done a => exact hf a
  | say text next ih => exact .say ih
  | post p next ih => exact .post ih

theorem Ends.lines {job : Job β} (h : job.Ends ended) (texts : List String) :
    (job.lines texts).Ends ended := by
  induction texts with
  | nil => exact h
  | cons text texts ih => exact .say ih

theorem Ends.result_through {job : Job β} (h : job.Ends ended) (net : Network ν) (n : ν) :
    ended (job.through net n).result := by
  induction h generalizing n with
  | done h => exact h
  | say _ ih => exact ih n
  | post _ ih => exact ih _ _

end Job

/-! ## The server of two lists -/

def Server.network : Network Server where
  deliver p s := (s.answer p).2

/-- What is said of every network is said of this server. -/
theorem Job.run_eq_through {α : Type} (job : Job α) (s : Server) :
    (job.run s).result = (job.through Server.network s).result ∧
      (job.run s).server = (job.through Server.network s).network ∧
      (job.run s).shown = job.shown Server.network s := by
  induction job generalizing s with
  | done a => exact ⟨rfl, rfl, rfl⟩
  | say text next ih =>
    obtain ⟨hresult, hserver, hshown⟩ := ih s
    exact ⟨hresult, hserver, congrArg (text ++ ·) hshown⟩
  | post p next ih => exact ih _ _

end YardConsole
