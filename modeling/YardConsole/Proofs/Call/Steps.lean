import YardConsole.Proofs.Call.Path

/-! # Instructions built step by step

Every step writes the command anew. So it tells what the steps have left, whichever they were: the
last payload of each kind.
-/

namespace YardConsole.Instruction

/-! ## Well-formed instructions -/

def parts (i : Instruction) : List String :=
  i.method.name :: i.path :: (i.query.toList ++ i.body.toList).map Json.compact

structure WellFormed (i : Instruction) : Prop where
  path_ne : i.path ≠ ""
  slash : i.path.toList.head? = some '/'
  trimmed : Text.Trimmed i.path.toList
  command : i.command = " ".intercalate i.parts

/-- A payload stands where the method carries it, and nowhere else. -/
structure Placed (i : Instruction) : Prop where
  query : i.query.isSome → i.method = .get ∨ i.method = .delete
  body : i.body.isSome → i.method = .post ∨ i.method = .put
  single : i.query = none ∨ i.body = none

theorem placed_iff (i : Instruction) :
    i.Placed ↔ if i.method.asksOnly then i.body = none else i.query = none := by
  obtain ⟨m, path, query, body, command⟩ := i
  constructor
  · rintro ⟨hquery, hbody, -⟩
    cases m with
    | get | delete => simpa [Method.asksOnly] using hbody
    | post | put => simpa [Method.asksOnly] using hquery
  · intro h
    cases m with
    | get | delete =>
      obtain rfl : body = none := h
      exact ⟨fun _ => by simp, nofun, .inr rfl⟩
    | post | put =>
      obtain rfl : query = none := h
      exact ⟨nofun, fun _ => by simp, .inl rfl⟩

theorem slashed_cases (cs : List Char) : ∃ rest, slashed cs = '/' :: rest := by
  unfold slashed
  split
  · exact ⟨_, rfl⟩
  · exact ⟨_, rfl⟩

theorem wellFormed_of (m : Method) (path : String) (query body : Option Json) :
    (of m (normalPath path) query body).WellFormed := by
  obtain ⟨rest, hrest⟩ := slashed_cases (Text.trimList path.toList)
  have hpath : (normalPath path).toList = '/' :: rest := by rw [toList_normalPath, hrest]
  refine ⟨?_, by rw [path_of, hpath]; rfl, ?_, rfl⟩
  · intro hempty
    rw [path_of] at hempty
    rw [hempty] at hpath
    cases hpath
  · rw [path_of, toList_normalPath]
    exact trimmed_slashed (Text.trimmed_trimList _)

/-! ## Steps -/

inductive Step where
  | query (j : Json)
  | body (j : Json)
  /-- A payload where the method carries it. -/
  | payload (j : Json)

def follow (i : Instruction) : Step → Instruction
  | .query j => i.withQuery j
  | .body j => i.withBody j
  | .payload j => i.withPayload j

def build (m : Method) (path : String) (steps : List Step) : Instruction :=
  steps.foldl follow (new m path)

def Step.forQuery? (m : Method) : Step → Option Json
  | query j => some j
  | body _ => none
  | payload j => if m = .get ∨ m = .delete then some j else none

def Step.forBody? (m : Method) : Step → Option Json
  | query _ => none
  | body j => some j
  | payload j => if m = .post ∨ m = .put then some j else none

/-- What the last step gives that gives anything. -/
def last? (gives : Step → Option Json) (steps : List Step) : Option Json :=
  (steps.filterMap gives).getLast?

structure Follows (m : Method) (path : String) (steps : List Step) (i : Instruction) : Prop where
  method : i.method = m
  path : i.path = normalPath path
  normal : normalPath i.path = i.path
  query : i.query = last? (Step.forQuery? m) steps
  body : i.body = last? (Step.forBody? m) steps
  wellFormed : i.WellFormed

theorem last?_cons (gives : Step → Option Json) (s : Step) (steps : List Step) :
    last? gives (s :: steps) = (last? gives steps).or (gives s) := by
  unfold last?
  cases h : gives s with
  | none => rw [List.filterMap_cons_none h, Option.or_none]
  | some j =>
    rw [List.filterMap_cons_some h, List.getLast?_cons]
    cases (steps.filterMap gives).getLast? <;> rfl

section

variable (m : Method) (path : String) (query body : Option Json)

theorem follow_of (s : Step) : (of m path query body).follow s =
    of m path ((s.forQuery? m).or query) ((s.forBody? m).or body) := by
  cases s with
  | query j => exact withQuery_of m path query body j
  | body j => exact withBody_of m path query body j
  | payload j =>
    rw [follow, withPayload_of]
    cases m <;> rfl

theorem foldl_follow (steps : List Step) : steps.foldl follow (of m path query body) =
    of m path ((last? (Step.forQuery? m) steps).or query)
      ((last? (Step.forBody? m) steps).or body) := by
  induction steps generalizing query body with
  | nil => rfl
  | cons s steps ih =>
    rw [List.foldl_cons, follow_of, ih, last?_cons, last?_cons, Option.or_assoc, Option.or_assoc]

end

theorem build_eq (m : Method) (path : String) (steps : List Step) :
    build m path steps = of m (normalPath path) (last? (Step.forQuery? m) steps)
      (last? (Step.forBody? m) steps) := by
  rw [build, new_eq, foldl_follow, Option.or_none, Option.or_none]

theorem build_wellFormed (m : Method) (path : String) (steps : List Step) :
    (build m path steps).WellFormed := by
  rw [build_eq]
  exact wellFormed_of ..

/-- Of each kind of payload the last one stays, and the command names what stays. Nothing else of
the steps matters, and so not the order in which those of one kind stand among the others. -/
theorem follows_of_steps (m : Method) (path : String) (steps : List Step) :
    Follows m path steps (build m path steps) ∧
      ∀ others, last? (Step.forQuery? m) others = last? (Step.forQuery? m) steps →
        last? (Step.forBody? m) others = last? (Step.forBody? m) steps →
        build m path others = build m path steps := by
  have hbuild := build_eq m path steps
  have hpath : (build m path steps).path = normalPath path := by rw [hbuild, path_of]
  constructor
  · exact {
      method := by rw [hbuild, method_of]
      path := hpath
      normal := by rw [hpath, normalPath_normalPath]
      query := by rw [hbuild, query_of]
      body := by rw [hbuild, body_of]
      wellFormed := build_wellFormed m path steps }
  · intro others hquery hbody
    rw [build_eq, hbuild, hquery, hbody]

/-- An overwritten query and a body given sooner or later leave the same instruction. -/
theorem follows_of_reordered :
    let steps : List Step := [.query .null, .body (.int 1), .payload (.int 2)]
    let others : List Step := [.payload (.int 2), .body (.int 1)]
    Follows .delete "clients/12" steps
        ⟨.delete, "/clients/12", some (.int 2), some (.int 1), "DELETE /clients/12 2 1"⟩ ∧
      build .delete "clients/12" others = build .delete "clients/12" steps := by
  intro steps others
  have hbuild : build .delete "clients/12" steps =
      ⟨.delete, "/clients/12", some (.int 2), some (.int 1), "DELETE /clients/12 2 1"⟩ := by
    decide +kernel
  obtain ⟨hfollows, hothers⟩ := follows_of_steps .delete "clients/12" steps
  rw [hbuild] at hfollows
  exact ⟨hfollows, hothers others rfl rfl⟩

end YardConsole.Instruction
