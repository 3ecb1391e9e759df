import YardConsole.Proofs.Session.Execution
import YardConsole.Proofs.Shell.Chat

/-! # One turn, and the code the program ends with

The code tells whether a turn failed. What the yard says of its own result is not asked.
-/

namespace YardConsole

/-! ## How a turn ends -/

namespace Session

variable {ω : Type}

def callResult? : Heard → Option Json
  | .call _ _ (some (.ok result)) => some result
  | _ => none

def Moment.callResults (m : Moment) : List Json := m.heard.filterMap callResult?

def Moment.Flagged (m : Moment) : Prop :=
  ∃ result ∈ m.callResults, result.get? "isError" = some (.bool true)

/-- How a turn ended, and what its calls gave it. One that fails has no result. -/
inductive Concluded (results : List Json) : Option TurnOutcome → Prop
  | refused (hnone : results = []) : Concluded results none
  | replied {o : TurnOutcome} (hfailed : o.failed = false) : Concluded results (some o)
  | converted (e : Failure) (hnone : results = []) :
      Concluded results (some ⟨"Erreur: " ++ e.message, none, true⟩)

theorem carryOut_concluded (s : Session) (resolved : Resolved) (services : Services ω) (w : ω)
    {outcome : Option TurnOutcome}
    (h : ((s.carryOut resolved).run services w).result = some outcome) :
    Concluded (((s.carryOut resolved).heard services w).filterMap callResult?) outcome := by
  match resolved with
  | .error e =>
    rw [carryOut_error] at h
    cases h
    exact .converted e rfl
  | .ok (_, .reply text) =>
    rw [carryOut_reply] at h
    cases h
    exact .replied rfl
  | .ok (_, .execute i) =>
    revert h
    simp only [carryOut_execute, Exchange.run, Exchange.heard]
    rcases services.call "tools/call" (Tool.instructionParams i) w with ⟨_ | e | result, w'⟩
    · intro h
      cases h
    · rintro ⟨⟩
      exact .converted e rfl
    · rintro ⟨⟩
      exact .replied rfl

theorem submit_concluded (s : Session) (input : String) (services : Services ω) (w : ω)
    {outcome : Option TurnOutcome} (h : ((s.submit input).run services w).result = some outcome) :
    Concluded (((s.submit input).heard services w).filterMap callResult?) outcome := by
  rcases s.accepted_or_refused input with ⟨hblank, hidle⟩ | hclosed
  · rw [submit_accepted hblank hidle] at h ⊢
    cases hstages : Resolution.withoutAdvice? s.settings.catalog (Text.trim input) with
    | some resolved =>
      rw [Resolution.resolve_of_some hstages] at h ⊢
      exact carryOut_concluded _ resolved services w h
    | none =>
      rw [Resolution.resolve_of_none hstages] at h ⊢
      rw [Exchange.run] at h
      rw [Exchange.heard]
      rcases hadvice : services.advise s.settings.provider
        (prompt (Text.trim input) s.settings.catalog) w with ⟨_ | answer, w'⟩
      · rw [hadvice] at h
        cases h
      · rw [hadvice] at h
        exact carryOut_concluded _ (Resolution.ofAnswer answer) services w' h
  · rw [submit_refused hclosed] at h ⊢
    cases h
    exact .refused rfl

theorem moment_concluded (services : Services ω) (input : String) (s : Session) (w : ω)
    {outcome : Option TurnOutcome}
    (h : (moment services (.submit input) s w).event.answer = some (.outcome outcome)) :
    Concluded (moment services (.submit input) s w).callResults outcome := by
  rw [Moment.callResults]
  simp only [moment, event, Step.work, Exchange.run_map, Exchange.heard_map] at h ⊢
  obtain ⟨outcome', hresult, houtcome⟩ := Option.map_eq_some_iff.mp h
  obtain rfl : outcome' = outcome := by simpa using houtcome
  exact submit_concluded s input services w hresult

end Session

namespace Shell

open Session (Step Answer Event Moment)

/-! ## The turn of a run -/

def turnOf (config : Config) (text : String) (deliveries : List Delivery) : Moment :=
  let s := Session.start config.settings false
  let greeted := (Step.handshake.work s).run feed deliveries
  Session.moment feed (.submit text) greeted.state greeted.services

def runExit (file : Option String) : Option TurnOutcome → Exit
  | none => failed file "Empty request"
  | some o => ⟨if o.failed then 1 else 0, "", file⟩

section

variable {ν : Type} (net : Network ν)

theorem runOnce_through (c : Console) (address : String) (file : Option String) (text : String)
    (n : ν) :
    let first := (c.perform Step.handshake.work).through net n
    let last := (first.result.2.perform (Step.submit text).work).through net first.network
    ∃ outcome, last.result.1 = .outcome outcome ∧
      (runOnce ⟨.run text, c, address, file⟩ text).through net n =
        ⟨runExit file outcome, first.posts ++ last.posts, last.network⟩ := by
  intro first
  have hgreet : (greet c).through net n = ⟨first.result.2, first.posts, first.network⟩ :=
    greet_through net c n
  clear_value first
  rw [work_submit, Console.perform_map_through]
  refine ⟨_, rfl, ?_⟩
  rw [runOnce, Job.through_bind, hgreet, Job.through_bind]
  generalize (first.result.2.perform (·.submit text)).through net first.network = last
  obtain ⟨⟨outcome, c'⟩, posts, n'⟩ := last
  cases outcome with
  | none => simp only [Job.through, List.append_nil, runExit]
  | some o => simp only [Job.through, Job.through_lines, List.append_nil, runExit, Ready.exit]

theorem history_run (c : Console) (text : String) (n : ν) :
    let first := (c.perform Step.handshake.work).through net n
    let last := (first.result.2.perform (Step.submit text).work).through net first.network
    Console.history net [.handshake, .submit text] c n =
      [⟨.handshake, c, first.result.1, first.result.2, first.posts⟩,
        ⟨.submit text, first.result.2, last.result.1, last.result.2, last.posts⟩] := rfl

theorem events_turnOf (config : Config) (text : String) (ds : List Delivery) :
    Session.history feed [.handshake, .submit text] (.start config.settings false) ds =
      [Session.event feed .handshake (.start config.settings false) ds,
        (turnOf config text ds).event] := rfl

theorem requests_handshake (settings : Settings) (ds : List Delivery) :
    (Session.event feed .handshake (.start settings false) ds).requests =
      [.call "initialize" Tool.handshakeParams] := by
  cases ds <;> rfl

theorem runOnce_refines (config : Config) (file : Option String) (text : String) (n : ν) :
    let sent :=
      (runOnce ⟨.run text, .ofConfig config, config.address, file⟩ text).through net n
    let turn := turnOf config text (sent.posts.map Prod.snd)
    sent.posts.map Prod.fst = posted config.address 1
        (.call "initialize" Tool.handshakeParams :: turn.event.requests) ∧
      ∃ outcome, turn.event.answer = some (.outcome outcome) ∧
        sent.result = runExit file outcome := by
  intro sent turn
  obtain ⟨hmatches, hposted⟩ := Console.history_refines net config.address 1
    [.handshake, .submit text] (.start config.settings false) n
  have hstart : Console.ofConfig config =
      ⟨.start config.settings false, .at config.address 1⟩ := rfl
  rw [← hstart] at hmatches hposted
  obtain ⟨outcome, hanswer, hthrough⟩ :=
    runOnce_through net (.ofConfig config) config.address file text n
  rw [history_run] at hmatches hposted
  generalize ((Console.ofConfig config).perform Step.handshake.work).through net n = first
    at hmatches hposted hanswer hthrough
  generalize (first.result.2.perform (Step.submit text).work).through net first.network = last
    at hmatches hposted hanswer hthrough
  have hposts : sent.posts = first.posts ++ last.posts := congrArg Sent.posts hthrough
  -- The session is told what was delivered in the whole run.
  simp only [List.flatMap_cons, List.flatMap_nil, List.append_nil, ← List.map_append, ← hposts]
    at hmatches hposted
  rw [events_turnOf] at hmatches hposted
  refine ⟨?_, outcome, ?_, congrArg Sent.result hthrough⟩
  · simpa only [List.flatMap_cons, List.flatMap_nil, List.append_nil, requests_handshake,
      List.singleton_append] using hposted
  · obtain ⟨-, hlater⟩ := List.forall₂_cons.mp hmatches
    obtain ⟨hlast, -⟩ := List.forall₂_cons.mp hlater
    rw [← hlast.answer]
    exact congrArg some hanswer

end

/-! ## The code -/

inductive Ends (turn : Moment) : Nat → Prop
  | refused (hanswer : turn.event.answer = some (.outcome none)) : Ends turn 1
  | converted (e : Failure) (hanswer : turn.event.answer =
      some (.outcome (some ⟨"Erreur: " ++ e.message, none, true⟩))) : Ends turn 1
  | replied {o : TurnOutcome} (hanswer : turn.event.answer = some (.outcome (some o)))
      (hfailed : o.failed = false) : Ends turn 0

structure Succeeded (turn : Moment) : Prop where
  accepted : turn.event.answer ≠ some (.outcome none)
  unconverted : ∀ e : Failure,
    turn.event.answer ≠ some (.outcome (some ⟨"Erreur: " ++ e.message, none, true⟩))
  unflagged : ¬ turn.Flagged

theorem ends_of_concluded {turn : Moment} {outcome : Option TurnOutcome}
    (hanswer : turn.event.answer = some (.outcome outcome))
    (h : Session.Concluded turn.callResults outcome) (file : Option String) :
    Ends turn (runExit file outcome).code ∧ (turn.Flagged → (runExit file outcome).code = 0) := by
  cases h with
  | refused hnone =>
    refine ⟨.refused hanswer, ?_⟩
    simp [Moment.Flagged, hnone]
  | converted e hnone =>
    refine ⟨.converted e hanswer, ?_⟩
    simp [Moment.Flagged, hnone]
  | @replied o hfailed =>
    have hcode : (runExit file (some o)).code = 0 := if_neg (by simp [hfailed])
    rw [hcode]
    exact ⟨.replied hanswer hfailed, fun _ => rfl⟩

theorem succeeded_iff_of_ends {turn : Moment} {code : Nat} (h : Ends turn code)
    (hflagged : turn.Flagged → code = 0) : (code = 0 → Succeeded turn) ↔ ¬ turn.Flagged := by
  constructor
  · intro hsucceeded hflag
    exact (hsucceeded (hflagged hflag)).unflagged hflag
  · intro hunflagged hcode
    cases h with
    | refused => cases hcode
    | converted => cases hcode
    | replied hanswer hfailed =>
      refine ⟨?_, ?_, hunflagged⟩
      · rw [hanswer]
        simp
      · intro e
        rw [hanswer]
        rintro ⟨⟩
        cases hfailed

def configured? (l : Launch) (a : Arguments) : Option Config :=
  (loaded? l.file).bind fun config =>
    (overridden config (a.options.orElse l.environment)).toOption

variable {ν : Type} {l : Launch} {a : Arguments} {text : String}

theorem run_of_not_configured (hread : Arguments.read l.arguments = .ok a)
    (h : configured? l a = none) (input : String) :
    ∃ message, l.run input = .done ⟨1, message, l.file⟩ := by
  cases hfile : loaded? l.file with
  | none => exact run_of_not_loaded hread input hfile
  | some config =>
    obtain ⟨file, htext, hload⟩ := load_of_loaded? hfile
    cases hoptions : overridden config (a.options.orElse l.environment) with
    | ok config' => simp [configured?, hfile, hoptions, Except.toOption] at h
    | error message =>
      refine ⟨"Error: " ++ message ++ "\n", ?_⟩
      rw [run_of_fileText input htext, program,
        start_of_refused (i := l.invocation file) hread hload hoptions, ← toUTF8_of_fileText htext]
      rfl

theorem run_of_configured (hread : Arguments.read l.arguments = .ok a)
    (hcommand : a.command = .run text) {config : Config} (h : configured? l a = some config)
    (input : String) : ∃ file, l.run input =
      (runOnce ⟨.run text, .ofConfig config, config.address, file⟩ text).map Exit.written := by
  obtain ⟨config', hfile, hoptions⟩ := Option.bind_eq_some_iff.mp h
  obtain ⟨file, htext, hload⟩ := load_of_loaded? hfile
  have hoverridden : overridden config' (a.options.orElse l.environment) = .ok config := by
    cases hoverridden : overridden config' (a.options.orElse l.environment) with
    | error message => simp [hoverridden, Except.toOption] at hoptions
    | ok found =>
      obtain rfl : found = config := by simpa [hoverridden, Except.toOption] using hoptions
      rfl
  refine ⟨file, ?_⟩
  rw [run_of_fileText input htext, program,
    start_of_overridden (i := l.invocation file) hread hload hoverridden, hcommand]
  rfl

/-- The code is zero exactly if the turn ended with a reply that is no failure. A zero says that all
went well exactly if the yard did not call its own result an error. -/
theorem code_of_run (hread : Arguments.read l.arguments = .ok a) (hcommand : a.command = .run text)
    (net : Network ν) (n : ν) (input : String) :
    let sent := (l.run input).through net n
    (configured? l a = none → sent.posts = [] ∧ sent.result.code = 1) ∧
    ∀ config, configured? l a = some config →
      let turn := turnOf config text (sent.posts.map Prod.snd)
      sent.posts.map Prod.fst = posted config.address 1
          (.call "initialize" Tool.handshakeParams :: turn.event.requests) ∧
        Ends turn sent.result.code ∧
        ((sent.result.code = 0 → Succeeded turn) ↔ ¬ turn.Flagged) := by
  refine ⟨fun hnone => ?_, fun config hconfig => ?_⟩
  · obtain ⟨message, hrun⟩ := run_of_not_configured hread hnone input
    rw [hrun]
    exact ⟨rfl, rfl⟩
  · obtain ⟨file, hrun⟩ := run_of_configured hread hcommand hconfig input
    obtain ⟨hposts, outcome, hanswer, hresult⟩ := runOnce_refines net config file text n
    have hconcluded := Session.moment_concluded feed text _ _ hanswer
    obtain ⟨hends, hflagged⟩ := ends_of_concluded hanswer hconcluded file
    rw [hrun, Job.through_map]
    simp only [Exit.written, Exit.ending, hresult]
    exact ⟨hposts, hends, succeeded_iff_of_ends hends hflagged⟩

def resultNetwork (result : String) : Network Unit :=
  let body := "\x7b\"jsonrpc\":\"2.0\",\"id\":1,\"result\":" ++ result ++ "\x7d"
  ⟨fun _ n => (.answered 200 (.ok body), n)⟩

def lookUp : Launch := ⟨["run", "GET /clients/99"], ⟨none, none⟩, none⟩

theorem code_of_unflagged :
    let net := resultNetwork "\x7b\"content\":[],\"isError\":false\x7d"
    Arguments.read lookUp.arguments = .ok ⟨⟨none, none⟩, .run "GET /clients/99"⟩ ∧
      ((lookUp.run "").through net ()).result.code = 0 ∧
      Succeeded (turnOf .standard "GET /clients/99"
        (((lookUp.run "").through net ()).posts.map Prod.snd)) := by
  intro net
  have hread : Arguments.read lookUp.arguments = .ok ⟨⟨none, none⟩, .run "GET /clients/99"⟩ := by
    decide
  have hconfig : configured? lookUp ⟨⟨none, none⟩, .run "GET /clients/99"⟩ = some .standard := rfl
  have hcode : ((lookUp.run "").through net ()).result.code = 0 := by decide +kernel
  obtain ⟨-, -, hsucceeded⟩ := (code_of_run hread rfl net () "").2 _ hconfig
  refine ⟨hread, hcode, hsucceeded.mpr ?_ hcode⟩
  unfold Moment.Flagged
  decide +kernel

/-- The yard says that it failed, and the program ends as if it had not. -/
theorem code_of_flagged :
    let net := resultNetwork
      "\x7b\"content\":[\x7b\"text\":\"introuvable\"\x7d],\"isError\":true\x7d"
    Arguments.read lookUp.arguments = .ok ⟨⟨none, none⟩, .run "GET /clients/99"⟩ ∧
      configured? lookUp ⟨⟨none, none⟩, .run "GET /clients/99"⟩ = some .standard ∧
      ((lookUp.run "").through net ()).result.code = 0 ∧
      ¬ Succeeded (turnOf .standard "GET /clients/99"
        (((lookUp.run "").through net ()).posts.map Prod.snd)) := by
  intro net
  refine ⟨by decide, rfl, by decide +kernel, fun h => h.unflagged ?_⟩
  unfold Moment.Flagged
  decide +kernel

end Shell

end YardConsole
