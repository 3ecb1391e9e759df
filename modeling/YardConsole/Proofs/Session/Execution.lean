import YardConsole.Proofs.Session.History
import YardConsole.Proofs.Text.Find

/-! # What becomes of an instruction

One call says all of it. A failed call changes nothing, and one that succeeds adds one message. The
screens of a session are those its turns lead to.
-/

namespace YardConsole

/-! ## Routes -/

namespace Routes

inductive Leads (routes : Routes) (path : String) : Option String → Prop
  | nowhere (hrules : ∀ rule ∈ routes.rules, ¬ rule.fragment.toList <:+: path.toList) :
      Leads routes path none
  | first {before rule after} (hrules : routes.rules = before ++ rule :: after)
      (hbefore : ∀ r ∈ before, ¬ r.fragment.toList <:+: path.toList)
      (hrule : rule.fragment.toList <:+: path.toList) : Leads routes path (some rule.route)

theorem leads_destination (routes : Routes) (path : String) :
    routes.Leads path (routes.destination path) := by
  unfold destination
  cases h : routes.rules.find? fun rule => Text.contains path rule.fragment with
  | none =>
    apply Leads.nowhere
    intro rule hrule hin
    exact List.find?_eq_none.mp h rule hrule ((Text.contains_iff _ _).mpr hin)
  | some rule =>
    obtain ⟨hin, before, after, hrules, hbefore⟩ := List.find?_eq_some_iff_append.mp h
    apply Leads.first hrules
    · intro r hr hin'
      simpa [(Text.contains_iff _ _).mpr hin'] using hbefore r hr
    · exact (Text.contains_iff _ _).mp hin

end Routes

/-! ## Arguments -/

theorem Method.name_inj {m n : Method} (h : m.name = n.name) : m = n := by
  revert h
  cases m <;> cases n <;> decide

/-- The two are the same call, whatever commands they are told by. -/
structure Instruction.SameParts (i j : Instruction) : Prop where
  method : i.method = j.method
  path : i.path = j.path
  query : i.query = j.query
  body : i.body = j.body

namespace Tool

/-- The members are the parts of the instruction. A payload that is absent is no member. -/
structure Tells (arguments : Json) (i : Instruction) : Prop where
  method : arguments.get? "method" = some (.str i.method.name)
  path : arguments.get? "path" = some (.str i.path)
  query : arguments.get? "query" = i.query
  body : arguments.get? "body" = i.body
  others : ∀ key, key ∉ ["method", "path", "query", "body"] → arguments.get? key = none

theorem Tells.unique {arguments : Json} {i j : Instruction} (hi : Tells arguments i)
    (hj : Tells arguments j) : i.SameParts j := by
  have hmethod := hi.method.symm.trans hj.method
  have hpath := hi.path.symm.trans hj.path
  simp only [Option.some.injEq, Json.str.injEq] at hmethod hpath
  exact ⟨Method.name_inj hmethod, hpath, hi.query.symm.trans hj.query, hi.body.symm.trans hj.body⟩

theorem lookup_payloadMember (key name : String) (payload : Option Json) :
    (Instruction.payloadMember name payload).lookup key = if key = name then payload else none := by
  cases payload with
  | none => simp [Instruction.payloadMember]
  | some j =>
    rw [Instruction.payloadMember, List.lookup_cons]
    by_cases h : key = name
    · simp [h]
    · simp [h, beq_eq_false_iff_ne.mpr h]

theorem get?_arguments (i : Instruction) (key : String) : (arguments i).get? key =
    if key = "body" then i.body
    else if key = "method" then some (.str i.method.name)
    else if key = "path" then some (.str i.path)
    else if key = "query" then i.query
    else none := by
  unfold arguments Json.get?
  simp only [List.lookup_append, lookup_payloadMember, List.lookup_cons, List.lookup_nil]
  grind

theorem tells_arguments (i : Instruction) : Tells (arguments i) i := by
  constructor <;> simp +contextual [get?_arguments]

theorem arguments_inj (i j : Instruction) : arguments i = arguments j ↔ i.SameParts j := by
  constructor
  · intro h
    have hj := tells_arguments j
    rw [← h] at hj
    exact (tells_arguments i).unique hj
  · rintro ⟨hmethod, hpath, hquery, hbody⟩
    rw [arguments, arguments, hmethod, hpath, hquery, hbody]

theorem reportsError_iff (result : Json) :
    reportsError result = true ↔ result.get? "isError" = some (.bool true) := by
  unfold reportsError
  cases h : result.get? "isError" with
  | none => simp
  | some flag => cases flag <;> simp [Json.bool?]

end Tool

/-! ## One call -/

namespace Execution

variable {ω : Type}

structure Performed (routes : Routes) (i : Instruction) (c : Conversation)
    (answer : Option (Except Failure Json))
    (r : Ran Conversation (Except Failure (Option String)) ω) : Prop where
  asked : r.requests = [.call (Session.callFor i).1 (Session.callFor i).2]
  waits : answer = none → r.result = none ∧ r.state = c
  failed : ∀ e, answer = some (.error e) → r.result = some (.error e) ∧ r.state = c
  succeeded : ∀ result, answer = some (.ok result) →
    r.state = { c with messages := c.messages ++ [⟨.assistant, Tool.resultText result⟩] } ∧
      ∃ d, r.result = some (.ok d) ∧
        if result.get? "isError" = some (.bool true) then d = none else routes.Leads i.path d

theorem destination?_spec (routes : Routes) (i : Instruction) (result : Json) :
    if result.get? "isError" = some (.bool true) then destination? routes i result = none
    else routes.Leads i.path (destination? routes i result) := by
  unfold destination?
  split
  · rename_i h
    rw [if_pos ((Tool.reportsError_iff result).mpr h)]
  · rename_i h
    rw [if_neg (by rwa [Tool.reportsError_iff])]
    exact routes.leads_destination i.path

theorem execute_performed (routes : Routes) (i : Instruction) (c : Conversation)
    (services : Services ω) (w : ω) :
    Performed routes i c (services.call (Session.callFor i).1 (Session.callFor i).2 w).1
      ((execute routes i c).run services w) := by
  rw [Session.callFor_eq]
  unfold execute
  rw [Exchange.run]
  rcases services.call "tools/call" (Tool.instructionParams i) w with ⟨_ | e | result, w'⟩
  · refine ⟨by rw [Session.callFor_eq], fun _ => ⟨rfl, rfl⟩, ?_, ?_⟩
    · intro e h
      cases h
    · intro result h
      cases h
  · refine ⟨by rw [Session.callFor_eq]; rfl, ?_, ?_, ?_⟩
    · intro h
      cases h
    · rintro _ ⟨⟩
      exact ⟨rfl, rfl⟩
    · intro result h
      cases h
  · refine ⟨by rw [Session.callFor_eq]; rfl, ?_, ?_, ?_⟩
    · intro h
      cases h
    · intro e h
      cases h
    · rintro _ ⟨⟩
      exact ⟨rfl, _, rfl, destination?_spec routes i result⟩

end Execution

/-! ## Turns -/

namespace Session

variable {ω : Type}

/-- A turn does with an instruction what executing it does, and then ends. Its reply is the message
that was added, or tells of the failure. -/
def Executes (s : Session) (r : Ran Conversation (Except Failure (Option String)) ω)
    (turn : Ran Session (Option TurnOutcome) ω) : Prop :=
  match r.result with
  | none => turn.result = none ∧ turn.state = { s with conversation := r.state }
  | some (.ok d) => ∃ reply, r.state.messages.getLast? = some ⟨.assistant, reply⟩ ∧
      turn.result = some (some ⟨reply, d, false⟩) ∧
      turn.state = { s with conversation := r.state.endTurn }.showScreen d
  | some (.error e) => turn.result = some (some ⟨failureText e, none, true⟩) ∧
      turn.state =
        { s with conversation := (r.state.pushAssistant (failureText e)).endTurn }

theorem carryOut_executes (s : Session) (stage : Stage) (i : Instruction) (services : Services ω)
    (w : ω) :
    let r := (Execution.execute s.settings.routes i s.conversation).run services w
    let turn := (s.carryOut (.ok (stage, .execute i))).run services w
    turn.requests = r.requests ∧ turn.services = r.services ∧ Executes s r turn := by
  simp only [carryOut_execute, Execution.execute, Exchange.run]
  rcases services.call "tools/call" (Tool.instructionParams i) w with ⟨_ | e | result, w'⟩
  · exact ⟨rfl, rfl, rfl, rfl⟩
  · exact ⟨rfl, rfl, rfl, rfl⟩
  · refine ⟨rfl, rfl, Tool.resultText result, ?_, rfl, rfl⟩
    simp [Exchange.run, Ran.after, Conversation.pushAssistant, Conversation.push]

/-! ## Screens -/

def Event.destination? (e : Event) : Option String :=
  match e.answer with
  | some (.outcome (some o)) => o.destination
  | _ => none

def Shows (s : Session) (route : Option String) (after : Session) : Prop :=
  after.hasScreen = s.hasScreen ∧ after.shown = s.shown ++ if s.hasScreen then route.toList else []

theorem shows_none {s after : Session} (hscreen : after.hasScreen = s.hasScreen)
    (hshown : after.shown = s.shown) : s.Shows none after := by
  refine ⟨hscreen, ?_⟩
  rw [hshown]
  cases s.hasScreen <;> simp

theorem shows_showScreen (s : Session) (route : Option String) :
    s.Shows route (s.showScreen route) := by
  cases route with
  | none => exact shows_none rfl rfl
  | some route =>
    unfold Shows showScreen
    cases h : s.hasScreen <;> simp [h]

def ShowsOutcome (s : Session) (result : Option TurnOutcome) : Session → Prop :=
  s.Shows (result.bind (·.destination))

theorem endedWith_shows (s : Session) (o : TurnOutcome) :
    (s.endedWith o).Leaves s.ShowsOutcome (s.Shows none) :=
  .done (shows_showScreen
    { s with conversation := (s.conversation.pushAssistant o.reply).endTurn } o.destination)

theorem submit_shows (s : Session) (input : String) :
    (s.submit input).Leaves s.ShowsOutcome (s.Shows none) :=
  submit_leaves (fun _ => shows_none rfl rfl) (shows_none rfl rfl)
    (endedWith_shows (s.opened (Text.trim input)))

theorem handshake_shows (s : Session) :
    s.handshake.Leaves (fun _ => s.Shows none) (s.Shows none) := by
  unfold handshake
  split
  · exact .done (shows_none rfl rfl)
  · exact .call (shows_none rfl rfl) fun _ => .done (shows_none rfl rfl)

theorem event_shows (services : Services ω) (step : Step) (s : Session) (w : ω) :
    s.Shows (event services step s w).destination? (event services step s w).after := by
  cases step with
  | submit input =>
    have hleft := Exchange.run_left services _ w (submit_shows s input)
    simp only [event, Step.work, Exchange.run_map, Event.destination?]
    cases hr : ((s.submit input).run services w).result with
    | none => exact hleft.held hr
    | some result =>
      have hended := hleft.ended result hr
      cases result <;> exact hended
  | handshake =>
    have hkeeps := Exchange.run_keeps services _ w (handshake_shows s)
    simp only [event, Step.work, Exchange.run_map, Event.destination?]
    cases (s.handshake.run services w).result <;> exact hkeeps
  | dryRun input =>
    have hkeeps : ((s.dryRun input).run services w).state = s :=
      Exchange.run_keeps services _ w (dryRun_leaves s input)
    simp only [event, Step.work, Exchange.run_map, Event.destination?]
    cases ((s.dryRun input).run services w).result <;>
      exact shows_none (congrArg hasScreen hkeeps) (congrArg shown hkeeps)
  | setProvider provider => exact shows_none rfl rfl

theorem history_shows (services : Services ω) (steps : List Step) {s : Session} {w : ω}
    {past later : List Event} {e : Event} (h : history services steps s w = past ++ e :: later) :
    e.after.shown = s.shown ++
      if s.hasScreen then (past ++ [e]).filterMap Event.destination? else [] := by
  induction steps generalizing s w past with
  | nil => simp [history] at h
  | cons step steps ih =>
    obtain ⟨hscreen, hshown⟩ := event_shows services step s w
    rw [history] at h
    -- The first step of the run is `e` itself, or the first of those before it.
    cases past with
    | nil =>
      simp only [List.nil_append, List.cons.injEq] at h
      obtain ⟨rfl, -⟩ := h
      rw [hshown]
      cases hd : (event services step s w).destination? <;> simp [hd]
    | cons d past =>
      simp only [List.cons_append, List.cons.injEq] at h
      obtain ⟨rfl, h⟩ := h
      rw [ih h, ← event_after services step s w, hscreen, hshown]
      cases s.hasScreen <;> cases hd : (event services step s w).destination? <;>
        simp [hd, List.filterMap_cons]

/-! ## All of it -/

/-- An instruction is one call that says all of it, and nothing else happens unless that succeeds. A
turn does the same with it, and the screens of a run are where its turns led, in their order. -/
theorem performs_instruction (services : Services ω) (i : Instruction) :
    (∀ routes c w, Execution.Performed routes i c
      (services.call (callFor i).1 (callFor i).2 w).1
      ((Execution.execute routes i c).run services w)) ∧
    (Tool.Tells (Tool.arguments i) i ∧ ∀ j, Tool.arguments i = Tool.arguments j ↔ i.SameParts j) ∧
    (∀ s stage w,
      let r := (Execution.execute s.settings.routes i s.conversation).run services w
      let turn := (s.carryOut (.ok (stage, .execute i))).run services w
      turn.requests = r.requests ∧ turn.services = r.services ∧ Executes s r turn) ∧
    ∀ settings hasScreen steps w past later e,
      history services steps (start settings hasScreen) w = past ++ e :: later →
      e.after.shown = if hasScreen then (past ++ [e]).filterMap Event.destination? else [] := by
  refine ⟨fun routes c w => Execution.execute_performed routes i c services w,
    ⟨Tool.tells_arguments i, Tool.arguments_inj i⟩,
    fun s stage w => carryOut_executes s stage i services w, ?_⟩
  intro settings hasScreen steps w past later e h
  exact history_shows services steps h

def willingOnce : Script :=
  ⟨[], [some (.ok .null), some (.ok (.obj [("isError", .bool true)]))], .unresolved "",
    .unresolved ""⟩

theorem shown_behind_flagged :
    let first := event Script.services (.submit "liste les bateaux") (start .standard true)
      willingOnce
    let second := event Script.services (.submit "liste les clients") first.after
      (((start .standard true).submit "liste les bateaux").run Script.services
        willingOnce).services
    history Script.services [.submit "liste les bateaux", .submit "liste les clients"]
        (start .standard true) willingOnce = [first] ++ second :: [] ∧
      second.answer ≠ none ∧ second.after.shown = ["/clients/bateaux"] := by
  intro first second
  have hrun : history Script.services [.submit "liste les bateaux", .submit "liste les clients"]
      (start .standard true) willingOnce = [first] ++ second :: [] := by
    simp only [history, first, second, Step.work, Exchange.run_map, List.singleton_append]
    rfl
  have hled : [first, second].filterMap Event.destination? = ["/clients/bateaux"] := by
    decide +kernel
  obtain ⟨-, -, -, hshown⟩ := performs_instruction Script.services .listResources
  have hanswer : second.answer.isSome = true := by decide +kernel
  refine ⟨hrun, ?_, (hshown .standard true _ willingOnce [first] [] second hrun).trans hled⟩
  rw [← Option.isSome_iff_ne_none]
  exact hanswer

end Session

end YardConsole
