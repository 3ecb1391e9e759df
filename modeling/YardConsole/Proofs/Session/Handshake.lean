import Mathlib.Logic.Relation
import YardConsole.Proofs.Session.Transcript

/-! # The handshake over whole runs

How far the handshake is follows from what was answered to it. Everything else neither changes
that nor looks at it.
-/

namespace YardConsole

theorem Resolution.resolve_callsOnly {σ α : Type} {p : String → Prop} (provider : Provider)
    (catalog : Catalog) (input : String) (held : σ) {next : Resolved → Exchange σ α}
    (hnext : ∀ resolved, (next resolved).CallsOnly p) :
    (resolve provider catalog input held next).CallsOnly p := by
  cases h : withoutAdvice? catalog (Text.trim input) with
  | none =>
    rw [resolve_of_none h]
    exact .advise fun answer => hnext _
  | some resolved =>
    rw [resolve_of_some h]
    exact hnext resolved

namespace Session

/-! ## Greetings -/

def isGreeting : Request → Bool
  | .call method _ => method == "initialize"
  | .advise .. => false

def greeting? : Heard → Option (Option (Except Failure Json))
  | .call method _ answer => if method = "initialize" then some answer else none
  | .advice .. => none

def greetings (run : List Moment) : List (Option (Except Failure Json)) :=
  (run.flatMap Moment.heard).filterMap greeting?

/-- How far the handshake is after these answers. There is one at most. -/
inductive Standing : List (Option (Except Failure Json)) → Readiness → Prop
  | idle : Standing [] .idle
  | dropped : Standing [none] .initializing
  | accepted (result : Json) : Standing [some (.ok result)] .ready
  | failed (e : Failure) : Standing [some (.error e)] .degraded

inductive Advances : Readiness → Readiness → Prop
  | opened : Advances .idle .initializing
  | accepted : Advances .initializing .ready
  | failed : Advances .initializing .degraded

theorem Standing.length_le {gs : List (Option (Except Failure Json))} {r : Readiness}
    (h : Standing gs r) : gs.length ≤ 1 := by
  cases h <;> simp

theorem greetings_append (run run' : List Moment) :
    greetings (run ++ run') = greetings run ++ greetings run' := by
  rw [greetings, List.flatMap_append, List.filterMap_append]
  rfl

theorem greetings_singleton (m : Moment) : greetings [m] = m.heard.filterMap greeting? := by
  rw [greetings, List.flatMap_singleton]

theorem countP_isGreeting (hs : List Heard) :
    (hs.map Heard.request).countP isGreeting = (hs.filterMap greeting?).length := by
  induction hs with
  | nil => rfl
  | cons h hs ih =>
    rw [List.map_cons, List.countP_cons, ih, List.filterMap_cons]
    cases h with
    | advice => rfl
    | call method params answer =>
      by_cases hm : method = "initialize"
      · simp [Heard.request, isGreeting, greeting?, hm]
      · simp [Heard.request, isGreeting, greeting?, hm]

/-! ## One step -/

structure Moment.Greets (m : Moment) : Prop where
  advances : Relation.ReflTransGen Advances m.event.before.conversation.readiness
    m.event.after.conversation.readiness
  settled : m.event.before.conversation.readiness ≠ .idle →
    m.event.after.conversation.readiness = m.event.before.conversation.readiness
  /-- Only the handshake calls for it. -/
  aside : m.event.step ≠ .handshake → greetings [m] = [] ∧
    m.event.after.conversation.readiness = m.event.before.conversation.readiness
  /-- A failed call is warned of. -/
  warned : m.event.step = .handshake → ∀ e, greetings [m] = [some (.error e)] →
    m.event.after.log = m.event.before.log ++ [⟨.assistant, warning e⟩]
  quiet : m.event.step = .handshake → (∀ e, greetings [m] ≠ [some (.error e)]) →
    m.event.after.log = m.event.before.log

def Untouched (s after : Session) : Prop :=
  after.conversation.readiness = s.conversation.readiness ∧
    after.conversation.isWarned = s.conversation.isWarned

theorem endedWith_untouched (s : Session) (o : TurnOutcome) :
    (s.endedWith o).Leaves (fun _ => s.Untouched) s.Untouched := by
  refine .done ⟨?_, ?_⟩
  · rw [conversation_showScreen]
    rfl
  · rw [conversation_showScreen]
    rfl

theorem submit_untouched (s : Session) (input : String) :
    (s.submit input).Leaves (fun _ => s.Untouched) s.Untouched :=
  submit_leaves (fun _ => ⟨rfl, rfl⟩) ⟨rfl, rfl⟩
    (endedWith_untouched (s.opened (Text.trim input)))

theorem work_untouched (services : Services ω) {step : Step} (hstep : step ≠ .handshake)
    (s : Session) (w : ω) : s.Untouched ((step.work s).run services w).state := by
  cases step with
  | handshake => exact absurd rfl hstep
  | submit input =>
    rw [Step.work, Exchange.run_map_state]
    exact Exchange.run_keeps services _ w (submit_untouched s input)
  | dryRun input =>
    have hkeeps := Exchange.run_keeps services _ w (dryRun_leaves s input)
    rw [Step.work, Exchange.run_map_state, hkeeps]
    exact ⟨rfl, rfl⟩
  | setProvider provider => exact ⟨rfl, rfl⟩

theorem carryOut_callsOnly (s : Session) (resolved : Resolved) :
    (s.carryOut resolved).CallsOnly (· = "tools/call") := by
  match resolved with
  | .error e => exact .done
  | .ok (_, .reply text) => exact .done
  | .ok (_, .execute i) =>
    refine .call rfl ?_
    rintro (e | result)
    · exact .done
    · exact .done

theorem submit_callsOnly (s : Session) (input : String) :
    (s.submit input).CallsOnly (· = "tools/call") := by
  rcases s.accepted_or_refused input with ⟨hblank, hidle⟩ | hclosed
  · rw [submit_accepted hblank hidle]
    exact Resolution.resolve_callsOnly _ _ _ _ (carryOut_callsOnly _)
  · rw [submit_refused hclosed]
    exact .done

theorem greetings_aside (services : Services ω) {step : Step} (hstep : step ≠ .handshake)
    (s : Session) (w : ω) : greetings [moment services step s w] = [] := by
  have hcalls : ∀ {α} {x : Exchange Session α}, x.CallsOnly (· = "tools/call") →
      (x.heard services w).filterMap greeting? = [] := by
    intro α x hx
    refine List.filterMap_eq_nil_iff.mpr fun h hmem => ?_
    cases h with
    | advice => rfl
    | call method params answer =>
      obtain rfl : method = "tools/call" := Exchange.heard_callsOnly hx services w hmem
      rfl
  rw [greetings_singleton, moment]
  cases step with
  | handshake => exact absurd rfl hstep
  | submit input =>
    simp only [Step.work, Exchange.heard_map, hcalls (submit_callsOnly s input)]
  | dryRun input =>
    have hdry : (s.dryRun input).CallsOnly (· = "tools/call") :=
      Resolution.resolve_callsOnly _ _ _ _ fun _ => .done
    simp only [Step.work, Exchange.heard_map, hcalls hdry]
  | setProvider provider => rfl

/-! ## The step of the handshake -/

theorem handshake_settled {s : Session} (h : s.conversation.readiness ≠ .idle) :
    s.handshake = .done s.conversation.readiness s := by
  simp only [handshake, Conversation.beginHandshake?, if_neg h]

def greeting (s : Session) : Conversation := { s.conversation with readiness := .initializing }

theorem handshake_idle {s : Session} (h : s.conversation.readiness = .idle) :
    s.handshake = .call { s with conversation := s.greeting } "initialize" Tool.handshakeParams
      fun answer => .done (greeted s.greeting answer).readiness
        { s with conversation := greeted s.greeting answer } := by
  simp only [handshake, Conversation.beginHandshake?, if_pos h, greeting]

theorem greeted_error {c : Conversation} (hinit : c.readiness = .initializing)
    (hwarned : c.isWarned = false) (e : Failure) :
    greeted c (.error e) = { c with
      readiness := .degraded, isWarned := true,
      messages := c.messages ++ [⟨.assistant, warning e⟩] } := by
  simp [greeted, Conversation.endHandshake, hinit, Conversation.warnOnce, hwarned,
    Conversation.pushAssistant, Conversation.push]

theorem greeted_ok {c : Conversation} (hinit : c.readiness = .initializing) (result : Json) :
    greeted c (.ok result) = { c with readiness := .ready } := by
  simp [greeted, Conversation.endHandshake, hinit]

/-- The answers so far account for the handshake, and a warning was given only when it failed. -/
structure Settled (gs : List (Option (Except Failure Json))) (s : Session) : Prop where
  standing : Standing gs s.conversation.readiness
  warned : s.conversation.isWarned = true → s.conversation.readiness = .degraded

theorem settled_of_untouched {gs : List (Option (Except Failure Json))} {s t : Session}
    (hs : Settled gs s) (ht : s.Untouched t) : Settled gs t := by
  obtain ⟨hready, hwarned⟩ := ht
  refine ⟨?_, ?_⟩
  · rw [hready]
    exact hs.standing
  · rw [hready, hwarned]
    exact hs.warned

theorem moment_idle (services : Services ω) {s : Session}
    (hidle : s.conversation.readiness = .idle) (w : ω) :
    ∃ answer, greetings [moment services .handshake s w] = [answer] ∧
      (moment services .handshake s w).event.after.conversation =
        answer.elim s.greeting (greeted s.greeting) := by
  simp only [greetings_singleton, moment, event, Step.work, handshake_idle hidle, Exchange.map,
    Exchange.heard, Exchange.run]
  rcases services.call "initialize" Tool.handshakeParams w with ⟨_ | answer, w'⟩
  · exact ⟨none, rfl, rfl⟩
  · exact ⟨some answer, rfl, rfl⟩

theorem settled_of_idle (services : Services ω) {gs : List (Option (Except Failure Json))}
    {s : Session} (hs : Settled gs s) (hidle : s.conversation.readiness = .idle) (w : ω) :
    let m := moment services .handshake s w
    Settled (gs ++ greetings [m]) m.event.after ∧ m.Greets := by
  intro m
  have hnone : gs = [] := by
    have hstanding := hs.standing
    rw [hidle] at hstanding
    cases hstanding
    rfl
  have hwarned : s.greeting.isWarned = false := by
    have hidle' := hs.warned
    rw [hidle] at hidle'
    simpa [greeting] using hidle'
  have hopened : Relation.ReflTransGen Advances .idle .initializing := .single .opened
  obtain ⟨answer, hanswer, hafter⟩ := moment_idle services hidle w
  have hgreets : ∀ {r}, m.event.after.conversation.readiness = r →
      Relation.ReflTransGen Advances .idle r →
      (∀ e, answer = some (.error e) →
        m.event.after.log = s.log ++ [⟨.assistant, warning e⟩]) →
      ((∀ e, answer ≠ some (.error e)) → m.event.after.log = s.log) → m.Greets := by
    intro r hr hadvances herror hquiet
    exact {
      advances := by
        rw [hr]
        simpa [m, moment, event, hidle] using hadvances
      settled := fun h => absurd hidle h
      aside := fun h => absurd rfl h
      warned := fun _ e he => herror e (by simpa [m, hanswer] using he)
      quiet := fun _ he => hquiet fun e h => he e (by simp [m, hanswer, h]) }
  rw [hnone, List.nil_append]
  rcases answer with _ | e | result
  · have hinit : m.event.after.conversation.readiness = .initializing := by rw [hafter]; rfl
    refine ⟨⟨?_, ?_⟩, hgreets hinit hopened (by simp) fun _ => ?_⟩
    · rw [hanswer, hinit]
      exact .dropped
    · rw [hafter]
      simp [hwarned]
    · rw [log, hafter]
      rfl
  · have hdegraded : m.event.after.conversation.readiness = .degraded := by
      rw [hafter, Option.elim_some, greeted_error rfl hwarned]
    refine ⟨⟨?_, fun _ => hdegraded⟩, hgreets hdegraded (hopened.tail .failed) ?_ ?_⟩
    · rw [hanswer, hdegraded]
      exact .failed e
    · rintro e' heq
      obtain rfl : e = e' := by simpa using heq
      rw [log, hafter, Option.elim_some, greeted_error rfl hwarned]
      rfl
    · exact fun h => absurd rfl (h e)
  · have hready : m.event.after.conversation.readiness = .ready := by
      rw [hafter, Option.elim_some, greeted_ok rfl]
    refine ⟨⟨?_, ?_⟩, hgreets hready (hopened.tail .accepted) (by simp) fun _ => ?_⟩
    · rw [hanswer, hready]
      exact .accepted result
    · rw [hafter, Option.elim_some, greeted_ok rfl]
      simp [hwarned]
    · rw [log, hafter, Option.elim_some, greeted_ok rfl]
      rfl

theorem moment_settled (services : Services ω) (step : Step)
    {gs : List (Option (Except Failure Json))} {s : Session} (hs : Settled gs s) (w : ω) :
    let m := moment services step s w
    Settled (gs ++ greetings [m]) m.event.after ∧ m.Greets := by
  intro m
  by_cases hstep : step = .handshake
  · subst hstep
    by_cases hidle : s.conversation.readiness = .idle
    · exact settled_of_idle services hs hidle w
    · have hafter : m.event.after = s := by
        simp only [m, moment, event, Step.work, handshake_settled hidle, Exchange.map, Exchange.run]
      have hnone : greetings [m] = [] := by
        simp only [m, greetings_singleton, moment, Step.work, handshake_settled hidle,
          Exchange.map, Exchange.heard, List.filterMap_nil]
      rw [hnone, List.append_nil, hafter]
      refine ⟨hs, ?_⟩
      exact {
        advances := by rw [hafter]; exact .refl
        settled := fun _ => by rw [hafter]; rfl
        aside := fun h => absurd rfl h
        warned := fun _ e he => by simp [hnone] at he
        quiet := fun _ _ => by rw [hafter]; rfl }
  · have hafter : s.Untouched m.event.after := work_untouched services hstep s w
    have hnone : greetings [m] = [] := greetings_aside services hstep s w
    rw [hnone, List.append_nil]
    refine ⟨settled_of_untouched hs hafter, ?_⟩
    exact {
      advances := by rw [hafter.1]; exact .refl
      settled := fun _ => hafter.1
      aside := fun _ => ⟨hnone, hafter.1⟩
      warned := fun h => absurd h hstep
      quiet := fun h => absurd h hstep }

/-! ## Whole runs -/

theorem settled_start (settings : Settings) (hasScreen : Bool) :
    Settled [] (start settings hasScreen) := ⟨.idle, nofun⟩

theorem transcript_settled (services : Services ω) (steps : List Step)
    {gs : List (Option (Except Failure Json))} {s : Session} (hs : Settled gs s) (w : ω)
    {past later : List Moment} {m : Moment}
    (h : transcript services steps s w = past ++ m :: later) :
    Standing (gs ++ greetings past) m.event.before.conversation.readiness ∧
      Standing (gs ++ greetings (past ++ [m])) m.event.after.conversation.readiness ∧
      m.Greets := by
  induction steps generalizing gs s w past with
  | nil => simp [transcript] at h
  | cons step steps ih =>
    obtain ⟨hafter, hgreets⟩ := moment_settled services step hs w
    rw [transcript] at h
    -- The first step of the run is `m` itself, or the first of those before it.
    cases past with
    | nil =>
      simp only [List.nil_append, List.cons.injEq] at h
      obtain ⟨rfl, -⟩ := h
      refine ⟨?_, hafter.standing, hgreets⟩
      rw [greetings, List.flatMap_nil, List.filterMap_nil, List.append_nil]
      exact hs.standing
    | cons m' past =>
      simp only [List.cons_append, List.cons.injEq] at h
      obtain ⟨rfl, h⟩ := h
      have hrest := ih hafter _ h
      rw [List.append_assoc, List.append_assoc, ← greetings_append, ← greetings_append] at hrest
      exact hrest

end Session

end YardConsole
