import YardConsole.Proofs.Session.Turn

/-! # Histories: the log over whole runs

A run is any list of steps on a new session, with any assistant and any yard. A step that is given
up while it waits has no answer.
-/

namespace YardConsole.Session

/-! ## Runs -/

inductive Step where
  | handshake
  | submit (input : String)
  | dryRun (input : String)
  | setProvider (provider : Provider)

inductive Answer where
  | readiness (r : Readiness)
  | outcome (o : Option TurnOutcome)
  | resolution (r : Except Failure Resolution)
  | done
deriving DecidableEq

def Step.work (s : Session) : Step → Exchange Session Answer
  | handshake => s.handshake.map .readiness
  | submit input => (s.submit input).map .outcome
  | dryRun input => (s.dryRun input).map .resolution
  | setProvider provider => .done .done (s.setProvider provider)

/-- A step that was done or given up. One that was given up has no answer. -/
structure Event where
  step : Step
  before : Session
  answer : Option Answer
  after : Session
  requests : List Request

def event (services : Services ω) (step : Step) (s : Session) (w : ω) : Event :=
  let ran := (step.work s).run services w
  ⟨step, s, ran.result, ran.state, ran.requests⟩

def history (services : Services ω) : List Step → Session → ω → List Event
  | [], _, _ => []
  | step :: steps, s, w =>
    let ran := (step.work s).run services w
    event services step s w :: history services steps ran.state ran.services

def log (s : Session) : List Message := s.conversation.messages

def Event.IsDroppedTurn (e : Event) : Prop := (∃ input, e.step = .submit input) ∧ e.answer = none

/-! ## The law of the log -/

/-- What one step does to the log and the turn flag. -/
structure Event.Lawful (e : Event) : Prop where
  grows : e.before.log <+: e.after.log
  /-- A turn that ends adds what was typed and what was replied. -/
  ended : ∀ input o, e.step = .submit input → e.answer = some (.outcome (some o)) →
    e.after.log = e.before.log ++ [⟨.user, Text.trim input⟩, ⟨.assistant, o.reply⟩]
  /-- A turn is refused for a blank input or a running turn, and then nothing happens. -/
  refused : ∀ input, e.step = .submit input → e.answer = some (.outcome none) →
    (Text.isBlankText input = true ∨ e.before.conversation.isLoading = true) ∧
      e.requests = [] ∧ e.after = e.before
  /-- A turn that is given up leaves what was typed. -/
  dropped : ∀ input, e.step = .submit input → e.answer = none →
    e.after.log = e.before.log ++ [⟨.user, Text.trim input⟩]
  quiet : (∃ input, e.step = .dryRun input) ∨ (∃ provider, e.step = .setProvider provider) →
    e.after.log = e.before.log
  /-- Only a turn that is given up leaves the flag set, and nothing takes it back. -/
  loading : e.after.conversation.isLoading = true ↔
    e.before.conversation.isLoading = true ∨ e.IsDroppedTurn
  /-- While the flag is set every turn is refused. -/
  closed : e.before.conversation.isLoading = true → ∀ input, e.step = .submit input →
    e.answer = some (.outcome none)

/-! ## One turn -/

@[simp] theorem conversation_showScreen (s : Session) (route : Option String) :
    (s.showScreen route).conversation = s.conversation := by
  unfold showScreen
  split
  · split <;> rfl
  · rfl

def Closed (s : Session) (result : Option TurnOutcome) (after : Session) : Prop :=
  ∃ o, result = some o ∧ after.log = s.log ++ [⟨.assistant, o.reply⟩] ∧
    after.conversation.isLoading = false

theorem endedWith_closed (s : Session) (o : TurnOutcome) :
    (s.endedWith o).Leaves s.Closed (· = s) := by
  refine .done ⟨o, rfl, ?_, ?_⟩
  · rw [log, conversation_showScreen]
    rfl
  · rw [conversation_showScreen]
    rfl

theorem submit_closed {s : Session} {input : String} (hblank : Text.isBlankText input = false)
    (hidle : s.conversation.isLoading = false) :
    (s.submit input).Leaves (s.opened (Text.trim input)).Closed
      (· = s.opened (Text.trim input)) :=
  submit_leaves (by simp [hblank, hidle]) rfl (endedWith_closed _)

/-! ## One step -/

theorem event_submit_refused (services : Services ω) {s : Session} {input : String} (w : ω)
    (h : Text.isBlankText input = true ∨ s.conversation.isLoading = true) :
    event services (.submit input) s w = ⟨.submit input, s, some (.outcome none), s, []⟩ := by
  simp only [event, Step.work, submit_refused h, Exchange.map, Exchange.run]

theorem event_submit_accepted (services : Services ω) {s : Session} {input : String} (w : ω)
    (hblank : Text.isBlankText input = false) (hidle : s.conversation.isLoading = false) :
    let e := event services (.submit input) s w
    (∃ o, e.answer = some (.outcome (some o)) ∧
        e.after.log = s.log ++ [⟨.user, Text.trim input⟩, ⟨.assistant, o.reply⟩] ∧
        e.after.conversation.isLoading = false) ∨
      e.answer = none ∧ e.after = s.opened (Text.trim input) := by
  have hleft := Exchange.run_left services _ w (submit_closed hblank hidle)
  simp only [event, Step.work, Exchange.run_map]
  cases hr : ((s.submit input).run services w).result with
  | none => exact .inr ⟨rfl, hleft.held hr⟩
  | some result =>
    obtain ⟨o, rfl, hlog, hdone⟩ := hleft.ended result hr
    refine .inl ⟨o, rfl, ?_, hdone⟩
    rw [hlog]
    simp [log, opened, Conversation.pushUser, Conversation.push]

theorem event_submit_lawful (services : Services ω) (input : String) (s : Session) (w : ω) :
    (event services (.submit input) s w).Lawful := by
  rcases s.accepted_or_refused input with ⟨hblank, hidle⟩ | hclosed
  · have hquiet : ¬ ((∃ text, Step.submit input = .dryRun text) ∨
        ∃ provider, Step.submit input = .setProvider provider) := by simp
    rcases event_submit_accepted services w hblank hidle with ⟨o, ho, hlog, hdone⟩ | ⟨hnone, hafter⟩
    · exact {
        grows := ⟨_, hlog.symm⟩
        ended := by
          rintro text o' ⟨⟩ h
          rw [ho] at h
          cases h
          exact hlog
        refused := by rintro text - h; simp [ho] at h
        dropped := by rintro text - h; simp [ho] at h
        quiet := fun h => absurd h hquiet
        loading := by
          rw [hdone, Event.IsDroppedTurn, ho]
          simp [event, hidle]
        closed := fun h => by simp [event, hidle] at h }
    · have hlog : (event services (.submit input) s w).after.log =
          s.log ++ [⟨.user, Text.trim input⟩] := by rw [hafter]; rfl
      exact {
        grows := ⟨_, hlog.symm⟩
        ended := by rintro text o - h; simp [hnone] at h
        refused := by rintro text - h; simp [hnone] at h
        dropped := by rintro text ⟨⟩ -; exact hlog
        quiet := fun h => absurd h hquiet
        loading := by
          rw [hafter]
          exact iff_of_true rfl (.inr ⟨⟨input, rfl⟩, hnone⟩)
        closed := fun h => by simp [event, hidle] at h }
  · rw [event_submit_refused services w hclosed]
    exact {
      grows := List.prefix_refl _
      ended := nofun
      refused := by rintro text ⟨⟩ -; exact ⟨hclosed, rfl, rfl⟩
      dropped := nofun
      quiet := fun _ => rfl
      loading := by simp [Event.IsDroppedTurn]
      closed := fun _ _ _ => rfl }

theorem lawful_of_no_submit {e : Event} (hstep : ∀ input, e.step ≠ .submit input)
    (hgrows : e.before.log <+: e.after.log)
    (hloading : e.after.conversation.isLoading = e.before.conversation.isLoading)
    (hquiet : (∃ input, e.step = .dryRun input) ∨ (∃ provider, e.step = .setProvider provider) →
      e.after.log = e.before.log) : e.Lawful where
  grows := hgrows
  ended := fun input _ h => absurd h (hstep input)
  refused := fun input h => absurd h (hstep input)
  dropped := fun input h => absurd h (hstep input)
  quiet := hquiet
  loading := by
    rw [hloading]
    exact ⟨.inl, fun h => h.resolve_right fun ⟨⟨input, hi⟩, _⟩ => hstep input hi⟩
  closed := fun _ input h => absurd h (hstep input)

theorem dryRun_leaves (s : Session) (input : String) :
    (s.dryRun input).Leaves (fun _ after => after = s) (· = s) :=
  Resolution.resolve_leaves _ _ _ rfl fun _ => .done rfl

theorem endHandshake_messages (c : Conversation) (ready : Bool) :
    (c.endHandshake ready).messages = c.messages ∧
      (c.endHandshake ready).isLoading = c.isLoading := by
  unfold Conversation.endHandshake
  split <;> exact ⟨rfl, rfl⟩

theorem warnOnce_messages (c : Conversation) (content : String) :
    c.messages <+: (c.warnOnce content).messages ∧
      (c.warnOnce content).isLoading = c.isLoading := by
  unfold Conversation.warnOnce
  split
  · exact ⟨List.prefix_refl _, rfl⟩
  · exact ⟨List.prefix_append _ _, rfl⟩

theorem greeted_messages (c : Conversation) (answer : Except Failure Json) :
    c.messages <+: (greeted c answer).messages ∧ (greeted c answer).isLoading = c.isLoading := by
  cases answer with
  | ok result =>
    obtain ⟨hmessages, hloading⟩ := endHandshake_messages c true
    exact ⟨by simp only [greeted, hmessages, List.prefix_refl], hloading⟩
  | error e =>
    obtain ⟨hmessages, hloading⟩ := endHandshake_messages c false
    obtain ⟨hgrows, hkept⟩ := warnOnce_messages (c.endHandshake false) (warning e)
    exact ⟨by rw [greeted, ← hmessages]; exact hgrows, hkept.trans hloading⟩

def Keeps (s after : Session) : Prop :=
  s.log <+: after.log ∧ after.conversation.isLoading = s.conversation.isLoading

theorem handshake_leaves (s : Session) : s.handshake.Leaves (fun _ => s.Keeps) s.Keeps := by
  unfold handshake Conversation.beginHandshake?
  split
  · exact .done ⟨List.prefix_refl _, rfl⟩
  · rename_i c hc
    split at hc
    · cases hc
      refine .call ⟨List.prefix_refl _, rfl⟩ fun answer => .done ?_
      exact greeted_messages { s.conversation with readiness := .initializing } answer
    · cases hc

theorem event_after (services : Services ω) (step : Step) (s : Session) (w : ω) :
    (event services step s w).after = ((step.work s).run services w).state := rfl

theorem event_lawful (services : Services ω) (step : Step) (s : Session) (w : ω) :
    (event services step s w).Lawful := by
  cases step with
  | submit input => exact event_submit_lawful services input s w
  | handshake =>
    have hkeeps := Exchange.run_keeps services _ w (handshake_leaves s)
    refine lawful_of_no_submit nofun ?_ ?_ (by rintro (⟨_, ⟨⟩⟩ | ⟨_, ⟨⟩⟩))
    · rw [event_after, Step.work, Exchange.run_map_state]
      exact hkeeps.1
    · rw [event_after, Step.work, Exchange.run_map_state]
      exact hkeeps.2
  | dryRun input =>
    have hafter : (event services (.dryRun input) s w).after = s := by
      have hkeeps := Exchange.run_keeps services _ w (dryRun_leaves s input)
      rw [event_after, Step.work, Exchange.run_map_state]
      exact hkeeps
    refine lawful_of_no_submit nofun ?_ ?_ ?_
    · rw [hafter]
      exact List.prefix_refl _
    · rw [hafter]
      rfl
    · intro _
      rw [hafter]
      rfl
  | setProvider provider =>
    exact lawful_of_no_submit nofun (List.prefix_refl _) rfl fun _ => rfl

/-! ## Whole runs -/

/-- Every step of a run is lawful, and the flag remembers the turns that were given up before. -/
theorem history_lawful (services : Services ω) (steps : List Step) {s : Session} {w : ω}
    {past later : List Event} {e : Event} (h : history services steps s w = past ++ e :: later) :
    e.Lawful ∧ (e.before.conversation.isLoading = true ↔
      s.conversation.isLoading = true ∨ ∃ d ∈ past, d.IsDroppedTurn) := by
  induction steps generalizing s w past with
  | nil => simp [history] at h
  | cons step steps ih =>
    rw [history] at h
    -- The first step of the run is `e` itself, or the first of those before it.
    cases past with
    | nil =>
      simp only [List.nil_append, List.cons.injEq] at h
      obtain ⟨rfl, -⟩ := h
      exact ⟨event_lawful services step s w, by simp [event]⟩
    | cons d past =>
      simp only [List.cons_append, List.cons.injEq] at h
      obtain ⟨rfl, h⟩ := h
      obtain ⟨hlawful, hbefore⟩ := ih h
      have hd := (event_lawful services step s w).loading
      refine ⟨hlawful, ?_⟩
      rw [hbefore]
      simp only [List.mem_cons, exists_eq_or_imp, ← or_assoc]
      exact or_congr_left hd

/-- What a run on a new session writes to its log, step by step: see `Event.Lawful`. The flag is
set exactly from the first turn on that was given up, and from there every turn is refused. -/
theorem log_of_run (services : Services ω) (settings : Settings) (hasScreen : Bool)
    (steps : List Step) (w : ω) (past later : List Event) (e : Event)
    (h : history services steps (start settings hasScreen) w = past ++ e :: later) :
    e.Lawful ∧
      (e.after.conversation.isLoading = true ↔ ∃ d ∈ past ++ [e], d.IsDroppedTurn) ∧
      ((∃ d ∈ past, d.IsDroppedTurn) → ∀ input, e.step = .submit input →
        e.answer = some (.outcome none) ∧ e.requests = [] ∧ e.after = e.before) := by
  obtain ⟨hlawful, hbefore⟩ := history_lawful services steps h
  have hnew : ¬ (start settings hasScreen).conversation.isLoading = true := nofun
  rw [or_iff_right hnew] at hbefore
  refine ⟨hlawful, ?_, ?_⟩
  · rw [hlawful.loading, hbefore]
    simp [or_and_right, exists_or]
  · intro hdropped input hstep
    have hrefused := hlawful.closed (hbefore.mpr hdropped) input hstep
    obtain ⟨-, hrequests, hafter⟩ := hlawful.refused input hstep hrefused
    exact ⟨hrefused, hrequests, hafter⟩

def silent : Script := ⟨[], [none], .unresolved "", .unresolved ""⟩

theorem refused_behind_dropped :
    let first := event Script.services (.submit "GET /clients") (start .standard true) silent
    let second := event Script.services (.submit "liste les bateaux") first.after
      (((start .standard true).submit "GET /clients").run Script.services silent).services
    history Script.services [.submit "GET /clients", .submit "liste les bateaux"]
        (start .standard true) silent = [first] ++ second :: [] ∧
      first.IsDroppedTurn ∧ second.answer = some (.outcome none) ∧
      second.after.log = first.after.log := by
  intro first second
  have hdropped : first.IsDroppedTurn :=
    ⟨⟨_, rfl⟩, Option.isNone_iff_eq_none.mp (by decide +kernel)⟩
  have hrun : history Script.services [.submit "GET /clients", .submit "liste les bateaux"]
      (start .standard true) silent = [first] ++ second :: [] := by
    simp only [history, first, second, Step.work, Exchange.run_map, List.singleton_append]
    rfl
  obtain ⟨-, -, hclosed⟩ :=
    log_of_run Script.services .standard true _ silent [first] [] second hrun
  obtain ⟨hanswer, -, hafter⟩ := hclosed ⟨first, by simp, hdropped⟩ _ rfl
  exact ⟨hrun, hdropped, hanswer, congrArg log hafter⟩

end YardConsole.Session
