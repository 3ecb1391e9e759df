import YardConsole.Proofs.Session.Handshake

/-! # Runs that differ in their handshakes

What an operator sees of a turn does not depend on how the handshake went, or whether there was
one.
-/

namespace YardConsole

open Exchange (Twin)

theorem Resolution.resolve_twin {σ α : Type} {R : σ → σ → Prop} (provider : Provider)
    (catalog : Catalog) (input : String) {held held' : σ} {next next' : Resolved → Exchange σ α}
    (hheld : R held held') (hnext : ∀ resolved, Twin R (next resolved) (next' resolved)) :
    Twin R (resolve provider catalog input held next)
      (resolve provider catalog input held' next') := by
  cases h : withoutAdvice? catalog (Text.trim input) with
  | none =>
    rw [resolve_of_none h, resolve_of_none h]
    exact .advise hheld fun answer => hnext _
  | some resolved =>
    rw [resolve_of_some h, resolve_of_some h]
    exact hnext resolved

namespace Session

/-! ## Sessions that are alike -/

/-- The two differ at most in their logs and their handshakes. -/
structure Alike (s t : Session) : Prop where
  settings : s.settings = t.settings
  hasScreen : s.hasScreen = t.hasScreen
  shown : s.shown = t.shown
  isLoading : s.conversation.isLoading = t.conversation.isLoading

theorem Alike.refl (s : Session) : s.Alike s := ⟨rfl, rfl, rfl, rfl⟩

theorem Alike.trans {s t u : Session} (h : s.Alike t) (h' : t.Alike u) : s.Alike u :=
  ⟨h.settings.trans h'.settings, h.hasScreen.trans h'.hasScreen, h.shown.trans h'.shown,
    h.isLoading.trans h'.isLoading⟩

theorem Alike.symm {s t : Session} (h : s.Alike t) : t.Alike s :=
  ⟨h.settings.symm, h.hasScreen.symm, h.shown.symm, h.isLoading.symm⟩

/-- Two sessions that were `s` and `t` are alike, and their logs have grown by the same. -/
structure GrownAlike (s t s' t' : Session) : Prop where
  alike : s'.Alike t'
  added : ∃ new, s'.log = s.log ++ new ∧ t'.log = t.log ++ new

variable {s t s' t' : Session}

theorem GrownAlike.refl (h : s.Alike t) : GrownAlike s t s t := ⟨h, [], by simp, by simp⟩

theorem Alike.showScreen (h : s.Alike t) (route : Option String) :
    (s.showScreen route).Alike (t.showScreen route) := by
  unfold Session.showScreen
  cases route with
  | none => exact h
  | some route =>
    by_cases hscreen : s.hasScreen = true
    · simp only
      rw [if_pos hscreen, if_pos (h.hasScreen ▸ hscreen)]
      exact ⟨h.settings, h.hasScreen, congrArg (· ++ [route]) h.shown, h.isLoading⟩
    · simp only
      rw [if_neg hscreen, if_neg (h.hasScreen ▸ hscreen)]
      exact h

theorem endedWith_twin (h : GrownAlike s t s' t') (o : TurnOutcome) :
    Twin (GrownAlike s t) (s'.endedWith o) (t'.endedWith o) := by
  obtain ⟨⟨hsettings, hscreen, hshown, -⟩, new, hs, ht⟩ := h
  have hended : Alike
      { s' with conversation := (s'.conversation.pushAssistant o.reply).endTurn }
      { t' with conversation := (t'.conversation.pushAssistant o.reply).endTurn } :=
    ⟨hsettings, hscreen, hshown, rfl⟩
  refine .done ⟨hended.showScreen _, new ++ [⟨.assistant, o.reply⟩], ?_, ?_⟩
  · rw [log, conversation_showScreen, ← List.append_assoc, ← hs]
    rfl
  · rw [log, conversation_showScreen, ← List.append_assoc, ← ht]
    rfl

theorem carryOut_twin (h : GrownAlike s t s' t') (resolved : Resolved) :
    Twin (GrownAlike s t) (s'.carryOut resolved) (t'.carryOut resolved) := by
  match resolved with
  | .error e =>
    rw [carryOut_error, carryOut_error]
    exact endedWith_twin h _
  | .ok (_, .reply text) =>
    rw [carryOut_reply, carryOut_reply]
    exact endedWith_twin h _
  | .ok (_, .execute i) =>
    rw [carryOut_execute, carryOut_execute, h.alike.settings]
    refine .call h ?_
    rintro (e | result)
    · exact endedWith_twin h _
    · exact endedWith_twin h _

theorem submit_twin (h : s.Alike t) (input : String) :
    Twin (GrownAlike s t) (s.submit input) (t.submit input) := by
  rcases s.accepted_or_refused input with ⟨hblank, hidle⟩ | hclosed
  · have hopened : GrownAlike s t (s.opened (Text.trim input)) (t.opened (Text.trim input)) :=
      ⟨⟨h.settings, h.hasScreen, h.shown, rfl⟩, _, rfl, rfl⟩
    rw [submit_accepted hblank hidle, submit_accepted hblank (h.isLoading ▸ hidle),
      h.settings]
    exact Resolution.resolve_twin _ _ _ hopened (carryOut_twin hopened)
  · rw [submit_refused hclosed, submit_refused (h.isLoading ▸ hclosed)]
    exact .done (.refl h)

theorem dryRun_twin (h : s.Alike t) (input : String) :
    Twin (GrownAlike s t) (s.dryRun input) (t.dryRun input) := by
  rw [dryRun, dryRun, h.settings]
  exact Resolution.resolve_twin _ _ _ (.refl h) fun _ => .done (.refl h)

theorem work_twin (h : s.Alike t) {step : Step} (hstep : step ≠ .handshake) :
    Twin (GrownAlike s t) (step.work s) (step.work t) := by
  cases step with
  | handshake => exact absurd rfl hstep
  | submit input => exact (submit_twin h input).map Answer.outcome
  | dryRun input => exact (dryRun_twin h input).map Answer.resolution
  | setProvider provider =>
    have hsettings : (s.setProvider provider).settings = (t.setProvider provider).settings := by
      rw [setProvider, setProvider, h.settings]
    refine .done ⟨⟨hsettings, h.hasScreen, h.shown, h.isLoading⟩, [], ?_, ?_⟩
    · rw [List.append_nil]
      rfl
    · rw [List.append_nil]
      rfl

theorem handshake_alike (services : Services ω) (s : Session) (w : ω) :
    s.Alike ((Step.handshake.work s).run services w).state := by
  have hleaves : s.handshake.Leaves (fun _ => s.Alike) s.Alike := by
    by_cases hidle : s.conversation.readiness = .idle
    · rw [handshake_idle hidle]
      refine .call ⟨rfl, rfl, rfl, rfl⟩ fun answer => .done ⟨rfl, rfl, rfl, ?_⟩
      exact (greeted_messages s.greeting answer).2.symm
    · rw [handshake_settled hidle]
      exact .done (.refl s)
  rw [Step.work, Exchange.run_map_state]
  exact Exchange.run_keeps services _ w hleaves

/-! ## Runs -/

def Step.isHandshake : Step → Bool
  | handshake => true
  | _ => false

def apart (run : List Moment) : List Moment := run.filter (!·.event.step.isHandshake)

def replies (run : List Moment) : List Response := run.flatMap fun m => m.heard.map Heard.response

/-- The two steps look the same: the same answer to the operator, the same requests, and the same
messages. -/
structure Moment.Same (m n : Moment) : Prop where
  step : m.event.step = n.event.step
  answer : m.event.answer = n.event.answer
  requests : m.event.requests = n.event.requests
  added : ∃ new, m.event.after.log = m.event.before.log ++ new ∧
    n.event.after.log = n.event.before.log ++ new

def others (steps : List Step) : List Step := steps.filter (!·.isHandshake)

theorem apart_transcript (services : Services ω) (step : Step) (steps : List Step) (s : Session)
    (w : ω) :
    apart (transcript services (step :: steps) s w) =
      let ran := (step.work s).run services w
      let rest := apart (transcript services steps ran.state ran.services)
      if step.isHandshake then rest else moment services step s w :: rest := by
  have hstep : (moment services step s w).event.step = step := rfl
  rw [transcript, apart, List.filter_cons, hstep]
  cases step.isHandshake <;> rfl

theorem others_cons (step : Step) (steps : List Step) :
    others (step :: steps) = if step.isHandshake then others steps else step :: others steps := by
  unfold others
  rw [List.filter_cons]
  cases step.isHandshake <;> rfl

theorem apart_of_none (services : Services ω) {steps : List Step} (h : others steps = [])
    (s : Session) (w : ω) : apart (transcript services steps s w) = [] := by
  induction steps generalizing s w with
  | nil => rfl
  | cons step steps ih =>
    rw [others_cons] at h
    split at h
    · rename_i hstep
      rw [apart_transcript, if_pos hstep]
      exact ih h _ _
    · cases h

/-- The first step that is no handshake begins in a session that is like the one before. -/
theorem apart_of_cons (services : Services ω) {steps : List Step} {step : Step}
    {rest : List Step} (h : others steps = step :: rest) (s : Session) (w : ω) :
    step ≠ .handshake ∧ ∃ steps' s' w', others steps' = rest ∧ s.Alike s' ∧
      apart (transcript services steps s w) = moment services step s' w' ::
        apart (transcript services steps' ((step.work s').run services w').state
          ((step.work s').run services w').services) := by
  induction steps generalizing s w with
  | nil => cases h
  | cons first steps ih =>
    rw [others_cons] at h
    split at h
    · rename_i hfirst
      obtain rfl : first = .handshake := by
        cases first <;> first | rfl | cases hfirst
      obtain ⟨hstep, steps', s', w', hrest, halike, hapart⟩ :=
        ih h ((Step.handshake.work s).run services w).state
          ((Step.handshake.work s).run services w).services
      refine ⟨hstep, steps', s', w', hrest, (handshake_alike services s w).trans halike, ?_⟩
      rw [apart_transcript, if_pos hfirst]
      exact hapart
    · rename_i hfirst
      obtain ⟨rfl, rfl⟩ := List.cons.inj h
      refine ⟨?_, steps, s, w, rfl, .refl s, ?_⟩
      · rintro rfl
        exact hfirst rfl
      · rw [apart_transcript, if_neg hfirst]

theorem apart_same (services : Services ω) (services' : Services ω') {steps steps' : List Step}
    {s t : Session} (w : ω) (w' : ω') (hsteps : others steps = others steps') (halike : s.Alike t)
    (hreplies : replies (apart (transcript services steps s w)) =
      replies (apart (transcript services' steps' t w'))) :
    List.Forall₂ Moment.Same (apart (transcript services steps s w))
      (apart (transcript services' steps' t w')) := by
  generalize hothers : others steps = rest at hsteps
  induction rest generalizing steps steps' s t w w' with
  | nil =>
    rw [apart_of_none services hothers, apart_of_none services' hsteps.symm]
    exact .nil
  | cons step rest ih =>
    obtain ⟨hstep, steps₁, s₁, w₁, hrest₁, halike₁, hapart₁⟩ :=
      apart_of_cons services hothers s w
    obtain ⟨-, steps₂, s₂, w₂, hrest₂, halike₂, hapart₂⟩ :=
      apart_of_cons services' hsteps.symm t w'
    rw [hapart₁, hapart₂] at hreplies ⊢
    have hboth : s₁.Alike s₂ := (halike₁.symm.trans halike).trans halike₂
    obtain ⟨hheard, hlater, hanswer, hstate⟩ :=
      Exchange.run_twin (work_twin hboth hstep) services services' w₁ w₂ hreplies
    refine .cons ⟨rfl, hanswer, ?_, hstate.added⟩
      (ih _ _ hstate.alike hlater hrest₁ hrest₂.symm)
    rw [requests_moment, requests_moment]
    exact congrArg _ hheard

/-! ## The handshake and the turns -/

/-- One call opens the handshake of a run at most, its answer tells how far the handshake is at
every time, and only a failure is warned of. Another run with the same settings that differs in its
handshakes, but is answered the same to all else, looks the same to the operator and to those who
are asked. -/
theorem handshake_of_run (services : Services ω) (settings : Settings) (hasScreen : Bool)
    (steps : List Step) (w : ω) :
    let run := transcript services steps (start settings hasScreen) w
    (run.flatMap fun m => m.event.requests).countP isGreeting ≤ 1 ∧
    (∀ past m later, run = past ++ m :: later →
      Standing (greetings past) m.event.before.conversation.readiness ∧
        Standing (greetings (past ++ [m])) m.event.after.conversation.readiness ∧ m.Greets) ∧
    ∀ (ω' : Type) (services' : Services ω') (steps' : List Step) (w' : ω'),
      let run' := transcript services' steps' (start settings hasScreen) w'
      others steps = others steps' → replies (apart run) = replies (apart run') →
        List.Forall₂ Moment.Same (apart run) (apart run') := by
  intro run
  have hmoments : ∀ past m later, run = past ++ m :: later →
      Standing (greetings past) m.event.before.conversation.readiness ∧
        Standing (greetings (past ++ [m])) m.event.after.conversation.readiness ∧ m.Greets :=
    fun past m later h => transcript_settled services steps (settled_start settings hasScreen) w h
  refine ⟨?_, hmoments, ?_⟩
  · rw [requests_transcript, countP_isGreeting]
    change (greetings run).length ≤ 1
    rcases List.eq_nil_or_concat run with h | ⟨past, m, h⟩
    · rw [h]
      exact Nat.zero_le 1
    · rw [List.concat_eq_append] at h
      rw [h]
      exact (hmoments past m [] h).2.1.length_le
  · intro ω' services' steps' w' run' hsteps hreplies
    exact apart_same services services' w w' hsteps (.refl _) hreplies

def removed : Json := .obj [("content", .arr [.obj [("text", .str "Client supprimé")]])]

def unreachedFirst : Script :=
  ⟨[], [some (.error (.transport none "")), some (.ok removed)], .unresolved "", .unresolved ""⟩

def willing : Script := ⟨[], [some (.ok removed)], .unresolved "", .unresolved ""⟩

/-- A deletion goes the same way behind a handshake that failed and without one. -/
theorem deletion_ungated :
    let run := transcript Script.services [.handshake, .submit "supprime le client 12"]
      (start .standard true) unreachedFirst
    let run' := transcript Script.services [.submit "supprime le client 12"]
      (start .standard true) willing
    let deletion := callFor (.new .delete "/clients/12")
    Standing (greetings (run.take 1)) .degraded ∧ replies (apart run) = replies (apart run') ∧
      List.Forall₂ Moment.Same (apart run) (apart run') ∧
      (apart run).map (·.event.requests) = [[.call deletion.1 deletion.2]] ∧
      (apart run).map (·.event.answer) =
        [some (.outcome (some ⟨"Client supprimé", some "/clients", false⟩))] := by
  intro run run' deletion
  have hreplies : replies (apart run) = replies (apart run') := by decide +kernel
  obtain ⟨-, hmoments, hsame⟩ := handshake_of_run Script.services .standard true
    [.handshake, .submit "supprime le client 12"] unreachedFirst
  exact ⟨(hmoments [] _ _ rfl).2.1, hreplies, hsame _ _ _ willing rfl hreplies,
    by decide +kernel, by decide +kernel⟩

end Session

end YardConsole
