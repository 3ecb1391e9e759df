import YardConsole.Proofs.Http.Refinement
import YardConsole.Proofs.Session.Handshake
import YardConsole.Proofs.Shell.File

/-! # The chat

A chat is one handshake and then a turn for each line, up to the line that ends it. It posts what
the session asks and shows what the session answers when it is told what was delivered.
-/

namespace YardConsole.Shell

open Session (Step Answer Event)

/-! ## What a chat is -/

def turns (input : String) : List String := (inputLines input).takeWhile (!isFarewell ·)

def bannerText (config : Config) : String :=
  "moussAIllon (" ++ config.address ++ ", IA: " ++ config.settings.provider.displayName ++
    "). Tapez 'help' pour l'aide, 'exit' pour quitter." ++ "\n"

def greetingText : Except Failure Json → String
  | .ok _ => ""
  | .error e => Session.warning e ++ "\n"

def turnText (o : TurnOutcome) : String :=
  o.reply ++ "\n" ++ o.destination.elim "" fun route => "→ " ++ route ++ "\n"

def answerText : Option Answer → String
  | some (.outcome (some o)) => turnText o
  | _ => ""

/-- The turn of a line: a blank one is left alone, and any other one has an outcome. -/
structure IsTurn (line : String) (e : Event) : Prop where
  step : e.step = .submit line
  blank : Text.isBlankText line = true → e.answer = some (.outcome none) ∧ e.requests = []
  typed : Text.isBlankText line = false → ∃ o, e.answer = some (.outcome (some o))

def chatEvents (config : Config) (lines : List String) (deliveries : List Delivery) : List Event :=
  Session.history feed (.handshake :: lines.map .submit) (.start config.settings false) deliveries

/-- A chat over these lines, by what was posted, what became of it and what was shown. -/
structure Chats (config : Config) (lines : List String) (sent : List (Post × Delivery))
    (shown : String) : Prop where
  handshake : ((chatEvents config lines (sent.map Prod.snd)).take 1).map Event.requests =
    [[.call "initialize" Tool.handshakeParams]]
  turns : List.Forall₂ IsTurn lines (chatEvents config lines (sent.map Prod.snd)).tail
  posts : sent.map Prod.fst =
    posted config.address 1 ((chatEvents config lines (sent.map Prod.snd)).flatMap Event.requests)
  /-- A prompt stands before each turn, and one behind the last. -/
  text : ∃ post greeting rest, sent = (post, greeting) :: rest ∧
    shown = bannerText config ++ greetingText greeting.callAnswer ++
      String.join ((chatEvents config lines (sent.map Prod.snd)).tail.map fun e =>
        chatPrompt ++ answerText e.answer) ++ chatPrompt

/-! ## Lines -/

section

variable {ν : Type} (net : Network ν)

theorem outcomeLines_text (outcome : Option TurnOutcome) :
    String.join (((outcome.map outcomeLines).getD []).map (· ++ "\n")) =
      answerText (some (.outcome outcome)) := by
  cases outcome with
  | none => rfl
  | some o =>
    cases h : o.destination <;> simp [answerText, turnText, outcomeLines, h]

theorem work_submit (line : String) :
    (Step.submit line).work = fun s => (s.submit line).map Answer.outcome := rfl

theorem work_handshake : Step.handshake.work = fun s => s.handshake.map Answer.readiness := rfl

theorem answerLine_refines (c : Console) (line : String) (n : ν) :
    let sent := (c.perform (Step.submit line).work).through net n
    (answerLine c line).through net n = ⟨sent.result.2, sent.posts, sent.network⟩ ∧
      (answerLine c line).shown net n = answerText (some sent.result.1) := by
  rw [work_submit, Console.perform_map_through]
  constructor
  · rw [answerLine, Job.through_bind, Job.through_lines]
    simp only [Job.through, List.append_nil]
  · rw [answerLine, Job.shown_bind, Job.shown_lines, Console.perform_shown, outcomeLines_text]
    simp only [Job.shown, String.append_empty, String.empty_append]

theorem chatLines_refines (lines : List String) (c : Console) (n : ν) :
    let web := Console.history net ((lines.takeWhile (!isFarewell ·)).map .submit) c n
    ((chatLines c lines).through net n).posts = web.flatMap WebEvent.posts ∧
      (chatLines c lines).shown net n =
        String.join (web.map fun v => chatPrompt ++ answerText (some v.answer)) ++ chatPrompt := by
  -- The console goes from turn to turn, so the claim is about any console.
  induction lines generalizing c n with
  | nil => exact ⟨rfl, rfl⟩
  | cons line lines ih =>
    cases hfarewell : isFarewell line with
    | true => simp [chatLines, hfarewell, Console.history, Job.through, Job.shown]
    | false =>
      obtain ⟨hthrough, hshown⟩ := answerLine_refines net c line n
      obtain ⟨hposts, htext⟩ :=
        ih ((c.perform (Step.submit line).work).through net n).result.2
          ((c.perform (Step.submit line).work).through net n).network
      simp only [chatLines, hfarewell, Bool.false_eq_true, if_false, Job.through, Job.shown,
        Job.through_bind, Job.shown_bind, hthrough, hshown, hposts, htext, Bool.not_false,
        List.takeWhile_cons, if_true, List.map_cons, Console.history, List.flatMap_cons,
        String.join_cons, String.append_assoc, and_self]

/-! ## The handshake -/

theorem greet_through (c : Console) (n : ν) :
    let sent := (c.perform Step.handshake.work).through net n
    (greet c).through net n = ⟨sent.result.2, sent.posts, sent.network⟩ := by
  rw [work_handshake, Console.perform_map_through, greet, Job.through_bind, Job.through_lines]
  simp only [Job.through, List.append_nil]

def greetedBy (config : Config) (answer : Except Failure Json) : Console :=
  let s := Session.start config.settings false
  ⟨{ s with conversation := Session.greeted s.greeting answer },
    ⟨(YardClient.new config.address).next, .new config.address⟩⟩

theorem logLines_text (config : Config) (answer : Except Failure Json) :
    String.join ((logLines (greetedBy config answer)).map (· ++ "\n")) = greetingText answer := by
  let s := Session.start config.settings false
  cases answer with
  | ok result =>
    simp only [greetedBy, Session.greeted_ok (c := s.greeting) rfl, s]
    rfl
  | error e =>
    have hlog : logLines (greetedBy config (.error e)) = [Session.warning e] := by
      simp only [greetedBy, Session.greeted_error (c := s.greeting) rfl rfl, s]
      rfl
    simp [hlog, greetingText]

/-- A new session has not greeted yet, so it makes the one call, and its log is the warning. -/
theorem greet_new (config : Config) (n : ν) : ∃ post greeting,
    (((Console.ofConfig config).perform Step.handshake.work).through net n).posts =
        [(post, greeting)] ∧
      (greet (.ofConfig config)).shown net n = greetingText greeting.callAnswer := by
  let post := (YardClient.new config.address).post "initialize" Tool.handshakeParams
  let greeting := (net.deliver post n).1
  have hafter : (((Console.ofConfig config).perform Session.handshake).through net n).result.2 =
      greetedBy config greeting.asCall := rfl
  refine ⟨post, greeting, rfl, ?_⟩
  rw [greet, Job.shown_bind, Job.shown_lines, Console.perform_shown, hafter, logLines_text,
    Delivery.asCall_eq]
  simp only [Job.shown, String.append_empty, String.empty_append]

/-! ## The whole chat -/

theorem banner_line (config : Config) (file : Option String) :
    banner ⟨.chat, .ofConfig config, config.address, file⟩ ++ "\n" = bannerText config := rfl

theorem chat_refines (config : Config) (file : Option String) (lines : List String) (n : ν) :
    let job := perform ⟨.chat, .ofConfig config, config.address, file⟩ lines
    let web := Console.history net
      (.handshake :: (lines.takeWhile (!isFarewell ·)).map .submit) (.ofConfig config) n
    (job.through net n).posts = web.flatMap WebEvent.posts ∧
      (job.through net n).result = ⟨0, "", file⟩ ∧
      ∃ post greeting rest, (job.through net n).posts = (post, greeting) :: rest ∧
        job.shown net n = bannerText config ++ greetingText greeting.callAnswer ++
          String.join (web.tail.map fun v => chatPrompt ++ answerText (some v.answer)) ++
          chatPrompt := by
  intro job web
  let first := ((Console.ofConfig config).perform Step.handshake.work).through net n
  let c := first.result.2
  let n' := first.network
  obtain ⟨post, greeting, hgreeted, hwarned⟩ := greet_new net config n
  have hgreet : (greet (.ofConfig config)).through net n = ⟨c, first.posts, n'⟩ :=
    greet_through net (.ofConfig config) n
  obtain ⟨hposts, htext⟩ := chatLines_refines net lines c n'
  have hthrough : job.through net n =
      ⟨⟨0, "", file⟩, first.posts ++ ((chatLines c lines).through net n').posts,
        ((chatLines c lines).through net n').network⟩ := by
    simp only [job, perform, openChat, Job.line, Job.bind, Job.through, Job.through_bind,
      Job.through_map, hgreet]
    rfl
  have hshown : job.shown net n = bannerText config ++
      (greetingText greeting.callAnswer ++ (chatLines c lines).shown net n') := by
    simp only [job, perform, openChat, Job.line, Job.bind, Job.shown, Job.shown_bind,
      Job.shown_map, hgreet, hwarned, banner_line]
  have hall := congrArg Sent.posts hthrough
  refine ⟨hall.trans ?_, congrArg Sent.result hthrough, post, greeting,
    ((chatLines c lines).through net n').posts, hall.trans ?_, hshown.trans ?_⟩
  · exact congrArg (first.posts ++ ·) hposts
  · exact congrArg (· ++ ((chatLines c lines).through net n').posts) hgreeted
  · rw [htext]
    simp only [String.append_assoc]
    rfl

end

/-! ## The session beside it -/

theorem history_submit {ω : Type} (services : Services ω) (line : String) (lines : List String)
    (s : Session) (w : ω) :
    Session.history services ((line :: lines).map .submit) s w =
      Session.event services (.submit line) s w ::
        Session.history services (lines.map .submit)
          (Session.event services (.submit line) s w).after
          (((Step.submit line).work s).run services w).services := by
  rw [List.map_cons, Session.history, Session.event_after]

theorem isTurn_of_history {ω : Type} (services : Services ω) (lines : List String) {s : Session}
    (hidle : s.conversation.isLoading = false) (w : ω)
    (hended : ∀ e ∈ Session.history services (lines.map .submit) s w, e.answer ≠ none) :
    List.Forall₂ IsTurn lines (Session.history services (lines.map .submit) s w) := by
  induction lines generalizing s w with
  | nil => exact .nil
  | cons line lines ih =>
    rw [history_submit] at hended ⊢
    obtain ⟨hanswer, hlater⟩ := List.forall_mem_cons.mp hended
    cases hblank : Text.isBlankText line with
    | true =>
      have he := Session.event_submit_refused (s := s) services w (.inl hblank)
      have hturn : IsTurn line (Session.event services (.submit line) s w) :=
        ⟨rfl, fun _ => by simp [he], by simp [hblank]⟩
      exact .cons hturn (ih (by rw [he]; exact hidle) _ hlater)
    | false =>
      rcases Session.event_submit_accepted services w hblank hidle with
        ⟨o, ho, -, hidle'⟩ | ⟨hnone, -⟩
      · have hturn : IsTurn line (Session.event services (.submit line) s w) :=
          ⟨rfl, by simp [hblank], fun _ => ⟨o, ho⟩⟩
        exact .cons hturn (ih hidle' _ hlater)
      · exact absurd hnone hanswer

theorem handshake_idles {ω : Type} (services : Services ω) (s : Session) (w : ω) :
    ((Step.handshake.work s).run services w).state.conversation.isLoading =
      s.conversation.isLoading := by
  rw [Step.work, Exchange.run_map_state]
  exact (Exchange.run_keeps services _ w (Session.handshake_leaves s)).2

theorem texts_of_matches {web : List WebEvent} {events : List Event}
    (h : List.Forall₂ WebEvent.Matches web events) :
    web.map (fun v => chatPrompt ++ answerText (some v.answer)) =
      events.map fun e => chatPrompt ++ answerText e.answer := by
  induction h with
  | nil => rfl
  | cons hfirst _ ih => rw [List.map_cons, List.map_cons, ih, hfirst.answer]

theorem answered_of_matches {web : List WebEvent} {events : List Event}
    (h : List.Forall₂ WebEvent.Matches web events) : ∀ e ∈ events, e.answer ≠ none := by
  induction h with
  | nil => simp
  | cons hfirst _ ih =>
    refine List.forall_mem_cons.mpr ⟨?_, ih⟩
    rw [← hfirst.answer]
    exact nofun

theorem handshake_requests (config : Config) (lines : List String) (d : Delivery)
    (ds : List Delivery) : ((chatEvents config lines (d :: ds)).take 1).map Event.requests =
      [[.call "initialize" Tool.handshakeParams]] := by
  rw [chatEvents, Session.history]
  rfl

theorem isTurn_of_chatEvents (config : Config) (lines : List String) (ds : List Delivery)
    (hended : ∀ e ∈ chatEvents config lines ds, e.answer ≠ none) :
    List.Forall₂ IsTurn lines (chatEvents config lines ds).tail := by
  rw [chatEvents, Session.history] at hended ⊢
  have hidle := handshake_idles feed (.start config.settings false) ds
  exact isTurn_of_history feed lines hidle _ (List.forall_mem_cons.mp hended).2

theorem chats_of_perform {ν : Type} (net : Network ν) (config : Config) (file : Option String)
    (lines : List String) (n : ν) :
    let job := perform ⟨.chat, .ofConfig config, config.address, file⟩ lines
    Chats config (lines.takeWhile (!isFarewell ·)) (job.through net n).posts (job.shown net n) := by
  intro job
  obtain ⟨hposts, -, post, greeting, rest, hfirst, hshown⟩ := chat_refines net config file lines n
  obtain ⟨hmatches, hposted⟩ := Console.history_refines net config.address 1
    (.handshake :: (lines.takeWhile (!isFarewell ·)).map .submit)
    (.start config.settings false) n
  have hstart : Console.ofConfig config =
      ⟨.start config.settings false, .at config.address 1⟩ := rfl
  have hdeliveries := congrArg (List.map Prod.snd) hposts
  have hsent := congrArg (List.map Prod.fst) hposts
  rw [List.map_flatMap] at hdeliveries hsent
  -- The session is told what was delivered in the whole chat, handshake and turns.
  rw [← hstart, ← hdeliveries] at hmatches hposted
  have htexts := congrArg List.tail (texts_of_matches hmatches)
  rw [← List.map_tail, ← List.map_tail] at htexts
  exact {
    handshake := by
      rw [hfirst]
      exact handshake_requests config _ _ _
    turns := isTurn_of_chatEvents config _ _ (answered_of_matches hmatches)
    posts := hsent.trans hposted
    text := ⟨post, greeting, rest, hfirst, by
      rw [hshown, htexts]
      rfl⟩ }

/-! ## The program -/

variable {ν : Type} {l : Launch} {a : Arguments} {config : Config}

/-- A chat does one handshake and a turn for each line before the farewell, whatever the server
delivers, and ends well. -/
theorem chat_of_run (hread : Arguments.read l.arguments = .ok a) (hcommand : a.command = .chat)
    (hfile : loaded? l.file = some config) (hknown : (a.options.orElse l.environment).Known)
    (net : Network ν) (n : ν) (input : String) :
    ∃ config', overridden config (a.options.orElse l.environment) = .ok config' ∧
      Chats config' (turns input) ((l.run input).through net n).posts
        ((l.run input).shown net n) ∧
      ((l.run input).through net n).result = ⟨0, "", l.file⟩ := by
  obtain ⟨config', hconfig'⟩ := overridden_of_known config hknown
  obtain ⟨text, htext, hload⟩ := load_of_loaded? hfile
  have hprogram : program (l.invocation text) input =
      perform ⟨.chat, .ofConfig config', config'.address, text⟩ (inputLines input) := by
    simp only [program, start_of_overridden (i := l.invocation text) hread hload hconfig', hcommand]
    rfl
  have hrun : l.run input = (perform ⟨.chat, .ofConfig config', config'.address, text⟩
      (inputLines input)).map Exit.written := by
    rw [run_of_fileText input htext, hprogram]
  obtain ⟨-, hresult, -⟩ := chat_refines net config' text (inputLines input) n
  refine ⟨config', hconfig', ?_, ?_⟩
  · rw [hrun, Job.through_map, Job.shown_map]
    exact chats_of_perform net config' text (inputLines input) n
  · rw [hrun, Job.through_map, ← toUTF8_of_fileText htext]
    exact congrArg Exit.written hresult

theorem chat_of_farewell :
    let config : Config := { Config.standard with baseUrl := some "http://chantier.local:9000" }
    let l : Launch := ⟨["--provider=chatgpt"], ⟨none, some "claude"⟩, some config.fileText.toUTF8⟩
    let unreachable : Network Unit := ⟨fun _ n => (.unreachable "", n)⟩
    let input := "GET /clients\n\n EXIT \nGET /bateaux"
    turns input = ["GET /clients", ""] ∧
      (∃ config', Chats config' ["GET /clients", ""]
        ((l.run input).through unreachable ()).posts ((l.run input).shown unreachable ())) ∧
      ((l.run input).through unreachable ()).result.code = 0 := by
  intro config l unreachable input
  have hturns : turns input = ["GET /clients", ""] := by decide +kernel
  have hread : Arguments.read l.arguments = .ok ⟨⟨none, some "chatgpt"⟩, .chat⟩ := by decide
  obtain ⟨config', -, hchats, hresult⟩ :=
    chat_of_run hread rfl (loaded?_written config) (by decide) unreachable () input
  rw [hturns] at hchats
  exact ⟨hturns, ⟨config', hchats⟩, congrArg Ending.code hresult⟩

end YardConsole.Shell
