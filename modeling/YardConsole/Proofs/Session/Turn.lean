import YardConsole.Proofs.Session.Exchange
import YardConsole.Proofs.Text.Blank
import YardConsole.Session.Basic

/-! # Turns: what a dry run foretells

A dry run and a turn resolve the same text with the same settings. They part behind the
resolution, where a turn makes its one call and ends.
-/

namespace YardConsole

/-! ## Resolution -/

namespace Resolution

variable {σ τ α β ω ω' : Type}

theorem resolve_of_none {catalog : Catalog} {input : String}
    (h : withoutAdvice? catalog (Text.trim input) = none) (provider : Provider) (held : σ)
    (next : Resolved → Exchange σ α) :
    resolve provider catalog input held next =
      .advise held provider (prompt (Text.trim input) catalog) fun answer =>
        next (ofAnswer answer) := by
  simp only [resolve, h]

theorem resolve_of_some {catalog : Catalog} {input : String} {resolved : Resolved}
    (h : withoutAdvice? catalog (Text.trim input) = some resolved) (provider : Provider) (held : σ)
    (next : Resolved → Exchange σ α) :
    resolve provider catalog input held next = next resolved := by
  simp only [resolve, h]

theorem resolve_trim (provider : Provider) (catalog : Catalog) (input : String) (held : σ)
    (next : Resolved → Exchange σ α) :
    resolve provider catalog (Text.trim input) held next =
      resolve provider catalog input held next := by
  simp only [resolve, Text.trim_trim]

theorem resolve_leaves {ended : α → σ → Prop} {given : σ → Prop} (provider : Provider)
    (catalog : Catalog) (input : String) {held : σ} {next : Resolved → Exchange σ α}
    (hheld : given held) (hnext : ∀ resolved, (next resolved).Leaves ended given) :
    (resolve provider catalog input held next).Leaves ended given := by
  cases h : withoutAdvice? catalog (Text.trim input) with
  | none =>
    rw [resolve_of_none h]
    exact .advise hheld fun answer => hnext _
  | some resolved =>
    rw [resolve_of_some h]
    exact hnext resolved

end Resolution

/-! ## Beginning a turn -/

namespace Session

def opened (s : Session) (text : String) : Session :=
  { s with conversation := { s.conversation with isLoading := true }.pushUser text }

theorem accepted_or_refused (s : Session) (input : String) :
    (Text.isBlankText input = false ∧ s.conversation.isLoading = false) ∨
      (Text.isBlankText input = true ∨ s.conversation.isLoading = true) := by
  cases Text.isBlankText input <;> cases s.conversation.isLoading <;> simp

theorem submit_refused {s : Session} {input : String}
    (h : Text.isBlankText input = true ∨ s.conversation.isLoading = true) :
    s.submit input = .done none s := by
  rw [← Text.trim_isEmpty] at h
  rcases h with h | h
  · simp only [submit, h, if_true]
  · simp only [submit, Conversation.beginTurn?, h, if_true, ite_self]

theorem submit_accepted {s : Session} {input : String} (hblank : Text.isBlankText input = false)
    (hidle : s.conversation.isLoading = false) :
    s.submit input =
      Resolution.resolve s.settings.provider s.settings.catalog input (s.opened (Text.trim input))
        (s.opened (Text.trim input)).carryOut := by
  rw [← Text.trim_isEmpty] at hblank
  rw [submit, Conversation.beginTurn?, hidle]
  simp only [hblank, Bool.false_eq_true, if_false, Resolution.resolve_trim]
  rfl

/-! ## Ending a turn -/

/-- The turn ends with this outcome, whose reply is added to the log. -/
def endedWith (s : Session) (o : TurnOutcome) : Exchange Session (Option TurnOutcome) :=
  .done (some o)
    ({ s with conversation := (s.conversation.pushAssistant o.reply).endTurn }.showScreen
      o.destination)

theorem carryOut_error (s : Session) (e : Failure) :
    s.carryOut (.error e) = s.endedWith ⟨failureText e, none, true⟩ := rfl

theorem close_replied (s : Session) (text : String) (destination : Option String) :
    s.close (.ok destination) (s.conversation.pushAssistant text) =
      s.endedWith ⟨text, destination, false⟩ := by
  simp [close, concluded, endedWith, Conversation.pushAssistant, Conversation.push]

theorem carryOut_reply (s : Session) (stage : Stage) (text : String) :
    s.carryOut (.ok (stage, .reply text)) = s.endedWith ⟨text, none, false⟩ :=
  s.close_replied text none

theorem carryOut_execute (s : Session) (stage : Stage) (i : Instruction) :
    s.carryOut (.ok (stage, .execute i)) = .call s "tools/call" (Tool.instructionParams i) fun
      | .ok result => s.endedWith
          ⟨Tool.resultText result, Execution.destination? s.settings.routes i result, false⟩
      | .error e => s.endedWith ⟨failureText e, none, true⟩ := by
  simp only [carryOut, enact, Execution.execute, Exchange.andThen]
  congr 1
  funext answer
  cases answer with
  | ok result => exact s.close_replied ..
  | error e => rfl

/-- A turn ends at once, or behind its one call. -/
theorem carryOut_leaves {ended : Option TurnOutcome → Session → Prop} {held : Session → Prop}
    {s : Session} (hheld : held s) (hended : ∀ o, (s.endedWith o).Leaves ended held)
    (resolved : Resolved) : (s.carryOut resolved).Leaves ended held := by
  match resolved with
  | .error e =>
    rw [carryOut_error]
    exact hended _
  | .ok (_, .reply text) =>
    rw [carryOut_reply]
    exact hended _
  | .ok (_, .execute i) =>
    rw [carryOut_execute]
    refine .call hheld ?_
    rintro (e | result)
    · exact hended _
    · exact hended _

/-- A turn is refused, or opens and ends behind its resolution. -/
theorem submit_leaves {ended : Option TurnOutcome → Session → Prop} {held : Session → Prop}
    {s : Session} {input : String}
    (hrefused : Text.isBlankText input = true ∨ s.conversation.isLoading = true → ended none s)
    (hheld : held (s.opened (Text.trim input)))
    (hended : ∀ o, ((s.opened (Text.trim input)).endedWith o).Leaves ended held) :
    (s.submit input).Leaves ended held := by
  rcases s.accepted_or_refused input with ⟨hblank, hidle⟩ | hclosed
  · rw [submit_accepted hblank hidle]
    exact Resolution.resolve_leaves _ _ _ hheld (carryOut_leaves hheld hended)
  · rw [submit_refused hclosed]
    exact .done (hrefused hclosed)

/-! ## The two beside each other -/

/-- The one call of an instruction: the listing tool for the path of all resources, else the
general tool with all that the instruction says. -/
def callFor (i : Instruction) : String × Json :=
  if i.path = "/_resources" then
    ("tools/call", Tool.params "moussaillon_list_api_resources" (.obj []))
  else ("tools/call", Tool.params "moussaillon_call_api_resource" (Tool.arguments i))

theorem callFor_eq (i : Instruction) : callFor i = ("tools/call", Tool.instructionParams i) := by
  unfold callFor Tool.instructionParams Instruction.isListing
  simp only [beq_iff_eq, resourcesPath, Tool.listResources, Tool.callResource]
  split <;> rfl

def Foretold (r : Except Failure Resolution) (turn : Ran Session (Option TurnOutcome) ω) : Prop :=
  match r with
  | .ok (.reply text) => turn.calls = [] ∧ turn.result = some (some ⟨text, none, false⟩)
  | .ok (.execute i) => turn.calls = [callFor i]
  | .error e => turn.calls = [] ∧ turn.result = some (some ⟨"Erreur: " ++ e.message, none, true⟩)

theorem carryOut_foretold (s : Session) (resolved : Resolved) (services : Services ω) (w : ω) :
    ((s.carryOut resolved).run services w).advices = [] ∧
      Foretold (resolved.map (·.2)) ((s.carryOut resolved).run services w) := by
  match resolved with
  | .error e =>
    rw [carryOut_error]
    exact ⟨rfl, rfl, rfl⟩
  | .ok (_, .reply text) =>
    rw [carryOut_reply]
    exact ⟨rfl, rfl, rfl⟩
  | .ok (_, .execute i) =>
    simp only [carryOut_execute, Exchange.run, Except.map, Foretold, callFor_eq]
    rcases services.call "tools/call" (Tool.instructionParams i) w with ⟨_ | _ | result, w'⟩
    · exact ⟨rfl, rfl⟩
    · exact ⟨rfl, rfl⟩
    · exact ⟨rfl, rfl⟩

/-- A dry run calls nothing and leaves the session as it is. The turn on the same input asks the
assistant the same, and given the same answer does what the dry run foretells; if the answer never
comes, neither ends and nothing is called. -/
theorem dryRun_foretells_submit (s : Session) (input : String)
    (hidle : s.conversation.isLoading = false) (hblank : Text.isBlankText input = false)
    (rehearsal : Services ω) (real : Services ω') (w : ω) (w' : ω')
    (hsame : ∀ provider prompt,
      (rehearsal.advise provider prompt w).1 = (real.advise provider prompt w').1) :
    let dry := (s.dryRun input).run rehearsal w
    let turn := (s.submit input).run real w'
    dry.calls = [] ∧ dry.state = s ∧ turn.advices = dry.advices ∧
      match dry.result with
      | some r => Foretold r turn
      | none => turn.calls = [] ∧ turn.result = none := by
  intro dry turn
  have hturn : turn = (Resolution.resolve s.settings.provider s.settings.catalog input
      (s.opened (Text.trim input)) (s.opened (Text.trim input)).carryOut).run real w' := by
    rw [← submit_accepted hblank hidle]
  have hdry : dry = (Resolution.resolve s.settings.provider s.settings.catalog input s
      fun resolved => .done (resolved.map (·.2)) s).run rehearsal w := rfl
  cases h : Resolution.withoutAdvice? s.settings.catalog (Text.trim input) with
  | some resolved =>
    rw [Resolution.resolve_of_some h] at hturn hdry
    obtain ⟨hadvices, hforetold⟩ :=
      carryOut_foretold (s.opened (Text.trim input)) resolved real w'
    rw [hturn, hdry]
    exact ⟨rfl, rfl, hadvices, hforetold⟩
  | none =>
    rw [Resolution.resolve_of_none h, Exchange.run] at hturn hdry
    have hanswer := hsame s.settings.provider (prompt (Text.trim input) s.settings.catalog)
    revert hturn hdry hanswer
    rcases rehearsal.advise s.settings.provider _ w with ⟨a, w₁⟩
    rcases real.advise s.settings.provider _ w' with ⟨b, w₂⟩
    -- Both have asked the same, so they go on with the same answer.
    rintro hturn hdry (rfl : a = b)
    rw [hturn, hdry]
    cases a with
    | none => exact ⟨rfl, rfl, rfl, rfl, rfl⟩
    | some answer =>
      obtain ⟨hadvices, hforetold⟩ := carryOut_foretold (s.opened (Text.trim input))
        (Resolution.ofAnswer answer) real w₂
      refine ⟨rfl, rfl, ?_, ?_⟩
      · simp only [Ran.advices_after_advise, hadvices]
        rfl
      · exact hforetold

def refusing : Script := ⟨[], [], .unresolved "", .transport (some 500) ""⟩

theorem deletion_foretold :
    (start .standard true).conversation.isLoading = false ∧
      Text.isBlankText "supprime le client 12" = false ∧
      (((start .standard true).submit "supprime le client 12").run
        Script.services refusing).calls = [callFor (.new .delete "/clients/12")] := by
  have hblank : Text.isBlankText "supprime le client 12" = false := by decide +kernel
  have hdry : (((start .standard true).dryRun "supprime le client 12").run
      Script.services refusing).result = some (.ok (.execute (.new .delete "/clients/12"))) := by
    decide +kernel
  have h := (dryRun_foretells_submit (start .standard true) "supprime le client 12" rfl hblank
    Script.services Script.services refusing refusing fun _ _ => rfl).2.2.2
  rw [hdry] at h
  exact ⟨rfl, hblank, h⟩

end Session

end YardConsole
