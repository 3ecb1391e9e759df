import Mathlib.Data.List.Induction
import YardConsole.Dialogue.Conversation

/-! # Conversations after any calls

The log, the handshake and the turn share one conversation. Each call is about one of the three, and
what it does and returns depends on that part alone.
-/

namespace YardConsole.Conversation

/-! ## Calls -/

inductive Call where
  | user (text : String)
  | assistant (text : String)
  | warn (text : String)
  | beginHandshake
  | endHandshake (ready : Bool)
  | beginTurn
  | endTurn
deriving DecidableEq

/-- The conversation a call leaves. One that refuses to begin leaves it as it was. -/
def next (c : Conversation) : Call → Conversation
  | .user text => c.pushUser text
  | .assistant text => c.pushAssistant text
  | .warn text => c.warnOnce text
  | .beginHandshake => c.beginHandshake?.getD c
  | .endHandshake ready => c.endHandshake ready
  | .beginTurn => c.beginTurn?.getD c
  | .endTurn => c.endTurn

def returned (c : Conversation) : Call → Option Bool
  | .beginHandshake => some c.beginHandshake?.isSome
  | .beginTurn => some c.beginTurn?.isSome
  | _ => none

def after (calls : List Call) : Conversation := calls.foldl next start

def answers : Conversation → List Call → List (Call × Option Bool)
  | _, [] => []
  | c, call :: calls => (call, c.returned call) :: answers (c.next call) calls

theorem after_append (calls more : List Call) :
    after (calls ++ more) = more.foldl next (after calls) := List.foldl_append

theorem after_concat (calls : List Call) (call : Call) :
    after (calls ++ [call]) = (after calls).next call := after_append calls [call]

/-! ## One call -/

section

variable (c : Conversation)

@[simp] theorem next_user (text : String) :
    c.next (.user text) = { c with messages := c.messages ++ [⟨.user, text⟩] } := rfl

@[simp] theorem next_assistant (text : String) :
    c.next (.assistant text) = { c with messages := c.messages ++ [⟨.assistant, text⟩] } := rfl

@[simp] theorem next_warn (text : String) :
    c.next (.warn text) = { c with
      messages := if c.isWarned then c.messages else c.messages ++ [⟨.assistant, text⟩]
      isWarned := true } := by
  obtain ⟨messages, readiness, isLoading, isWarned⟩ := c
  cases isWarned <;> rfl

@[simp] theorem next_beginHandshake :
    c.next .beginHandshake =
      { c with readiness := if c.readiness = .idle then .initializing else c.readiness } := by
  obtain ⟨messages, readiness, isLoading, isWarned⟩ := c
  cases readiness <;> rfl

@[simp] theorem next_endHandshake (ready : Bool) :
    c.next (.endHandshake ready) = { c with
      readiness := if c.readiness = .initializing then if ready then .ready else .degraded
        else c.readiness } := by
  obtain ⟨messages, readiness, isLoading, isWarned⟩ := c
  cases readiness <;> rfl

@[simp] theorem next_beginTurn : c.next .beginTurn = { c with isLoading := true } := by
  obtain ⟨messages, readiness, isLoading, isWarned⟩ := c
  cases isLoading <;> rfl

@[simp] theorem next_endTurn : c.next .endTurn = { c with isLoading := false } := rfl

theorem returned_beginHandshake :
    c.returned .beginHandshake = some (decide (c.readiness = .idle)) := by
  obtain ⟨messages, readiness, isLoading, isWarned⟩ := c
  cases readiness <;> rfl

theorem returned_beginTurn : c.returned .beginTurn = some !c.isLoading := by
  obtain ⟨messages, readiness, isLoading, isWarned⟩ := c
  cases isLoading <;> rfl

end

/-! ## The log -/

def Call.pushed? : Call → Option Message
  | user text => some ⟨.user, text⟩
  | assistant text => some ⟨.assistant, text⟩
  | _ => none

def Call.isWarning : Call → Bool
  | warn _ => true
  | _ => false

/-- The log that calls write: what they push, and the first warning where it was given. -/
inductive Writes : List Call → List Message → Prop
  | unwarned {calls} (hfree : ∀ call ∈ calls, call.isWarning = false) :
      Writes calls (calls.filterMap Call.pushed?)
  | warned {before text later} (hfree : ∀ call ∈ before, call.isWarning = false) :
      Writes (before ++ .warn text :: later)
        (before.filterMap Call.pushed? ++ ⟨.assistant, text⟩ :: later.filterMap Call.pushed?)

theorem next_log {c : Conversation} {call : Call} (h : c.isWarned = true ∨ call.isWarning = false) :
    (c.next call).messages = c.messages ++ call.pushed?.toList ∧
      (c.next call).isWarned = c.isWarned := by
  cases call with
  | warn text =>
    have hwarned : c.isWarned = true := h.resolve_right (by simp [Call.isWarning])
    simp [hwarned, Call.pushed?]
  | _ => simp [Call.pushed?]

theorem foldl_log {calls : List Call} {c : Conversation}
    (h : c.isWarned = true ∨ ∀ call ∈ calls, call.isWarning = false) :
    (calls.foldl next c).messages = c.messages ++ calls.filterMap Call.pushed? ∧
      (calls.foldl next c).isWarned = c.isWarned := by
  induction calls generalizing c with
  | nil => simp
  | cons call calls ih =>
    obtain ⟨hlog, hkept⟩ := next_log (h.imp_right fun hfree => hfree call (by simp))
    have hlater : (c.next call).isWarned = true ∨ ∀ later ∈ calls, later.isWarning = false := by
      rw [hkept]
      exact h.imp_right fun hfree later hlater => hfree later (by simp [hlater])
    obtain ⟨hmessages, hwarned⟩ := ih hlater
    rw [List.foldl_cons, hmessages, hwarned, hlog, hkept]
    refine ⟨?_, rfl⟩
    cases hpushed : call.pushed? <;> simp [hpushed]

theorem messages_of_writes {calls : List Call} {log : List Message} (h : Writes calls log) :
    (after calls).messages = log := by
  cases h with
  | unwarned hfree => exact (foldl_log (c := start) (.inr hfree)).1
  | @warned before text later hfree =>
    obtain ⟨hmessages, hwarned⟩ := foldl_log (c := start) (.inr hfree)
    have hwarn : ((after before).next (.warn text)).messages =
        before.filterMap Call.pushed? ++ [⟨.assistant, text⟩] := by
      rw [after, next_warn, hwarned, hmessages]
      rfl
    rw [after_append, List.foldl_cons, (foldl_log (.inl (by simp))).1, hwarn, List.append_assoc,
      List.singleton_append]

theorem exists_writes (calls : List Call) : ∃ log, Writes calls log := by
  cases hfind : calls.find? Call.isWarning with
  | none =>
    rw [List.find?_eq_none] at hfind
    exact ⟨_, .unwarned fun call hcall => by simpa using hfind call hcall⟩
  | some call =>
    obtain ⟨hwarning, before, later, rfl, hfree⟩ := List.find?_eq_some_iff_append.mp hfind
    cases call with
    | warn text => exact ⟨_, .warned fun call hcall => by simpa using hfree call hcall⟩
    | _ => cases hwarning

theorem messages_eq_iff (calls : List Call) (log : List Message) :
    (after calls).messages = log ↔ Writes calls log := by
  refine ⟨?_, messages_of_writes⟩
  rintro rfl
  obtain ⟨log, hlog⟩ := exists_writes calls
  rwa [messages_of_writes hlog]

theorem Writes.length {calls : List Call} {log : List Message} (h : Writes calls log) :
    log.length =
      calls.countP (·.pushed?.isSome) + if calls.any Call.isWarning then 1 else 0 := by
  cases h with
  | unwarned hfree =>
    have hnone : calls.any Call.isWarning = false := by simpa using hfree
    rw [List.length_filterMap_eq_countP, hnone]
    simp
  | warned hfree =>
    simp [List.length_filterMap_eq_countP, Call.isWarning, Call.pushed?]
    omega

theorem next_grows (c : Conversation) (call : Call) : c.messages <+: (c.next call).messages := by
  cases call with
  | warn text =>
    rw [next_warn]
    split
    · exact List.prefix_refl _
    · exact List.prefix_append _ _
  | _ => simp

theorem foldl_grows (calls : List Call) (c : Conversation) :
    c.messages <+: (calls.foldl next c).messages := by
  induction calls generalizing c with
  | nil => exact List.prefix_refl _
  | cons call calls ih => exact (next_grows c call).trans (ih (c.next call))

/-! ## The handshake -/

/-- How far the handshake is after calls: it begins once, and the first end behind that decides. -/
inductive Stands : List Call → Readiness → Prop
  | idle {calls} (hfree : .beginHandshake ∉ calls) : Stands calls .idle
  | begun {before later} (hfree : .beginHandshake ∉ before)
      (hopen : ∀ ready, .endHandshake ready ∉ later) :
      Stands (before ++ .beginHandshake :: later) .initializing
  | decided {before between ready later} (hfree : .beginHandshake ∉ before)
      (hopen : ∀ ready, .endHandshake ready ∉ between) :
      Stands (before ++ .beginHandshake :: (between ++ .endHandshake ready :: later))
        (if ready then .ready else .degraded)

theorem foldl_readiness {calls : List Call} {r : Readiness}
    (h : ∀ call ∈ calls, ∀ c : Conversation, c.readiness = r → (c.next call).readiness = r)
    {c : Conversation} (hc : c.readiness = r) : (calls.foldl next c).readiness = r := by
  induction calls generalizing c with
  | nil => exact hc
  | cons call calls ih =>
    exact ih (fun later hlater => h later (by simp [hlater])) (h call (by simp) c hc)

theorem idle_of_free {calls : List Call} (h : .beginHandshake ∉ calls) :
    (after calls).readiness = .idle := by
  apply foldl_readiness (r := .idle) _ rfl
  intro call hcall c hc
  cases call with
  | beginHandshake => exact absurd hcall h
  | _ => simp [hc]

theorem begun_of_free {before : List Call} (h : .beginHandshake ∉ before) :
    ((after before).next .beginHandshake).readiness = .initializing := by
  simp [idle_of_free h]

theorem begun_of_open {calls : List Call} (h : ∀ ready, .endHandshake ready ∉ calls)
    {c : Conversation} (hc : c.readiness = .initializing) :
    (calls.foldl next c).readiness = .initializing := by
  apply foldl_readiness _ hc
  intro call hcall c hc
  cases call with
  | endHandshake ready => exact absurd hcall (h ready)
  | _ => simp [hc]

theorem decided_stays (calls : List Call) (ready : Bool) {c : Conversation}
    (hc : c.readiness = if ready then .ready else .degraded) :
    (calls.foldl next c).readiness = if ready then .ready else .degraded := by
  apply foldl_readiness _ hc
  intro call _ c hc
  cases ready <;> cases call <;> simp_all

theorem readiness_of_stands {calls : List Call} {r : Readiness} (h : Stands calls r) :
    (after calls).readiness = r := by
  cases h with
  | idle hfree => exact idle_of_free hfree
  | begun hfree hopen =>
    rw [after_append, List.foldl_cons]
    exact begun_of_open hopen (begun_of_free hfree)
  | @decided before between ready later hfree hopen =>
    rw [after_append, List.foldl_cons, List.foldl_append, List.foldl_cons]
    apply decided_stays later ready
    rw [next_endHandshake]
    exact if_pos (begun_of_open hopen (begun_of_free hfree))

theorem exists_stands (calls : List Call) : ∃ r, Stands calls r := by
  by_cases hbegun : .beginHandshake ∈ calls
  · obtain ⟨before, later, rfl, hfree⟩ := List.eq_append_cons_of_mem hbegun
    cases hfind : later.find? (fun call => call matches .endHandshake _) with
    | none =>
      rw [List.find?_eq_none] at hfind
      exact ⟨_, .begun hfree fun ready hmem => hfind _ hmem rfl⟩
    | some call =>
      obtain ⟨hend, between, later, rfl, hopen⟩ := List.find?_eq_some_iff_append.mp hfind
      cases call with
      | endHandshake ready =>
        exact ⟨_, .decided hfree fun ready hmem => by simpa using hopen _ hmem⟩
      | _ => cases hend
  · exact ⟨_, .idle hbegun⟩

theorem readiness_eq_iff (calls : List Call) (r : Readiness) :
    (after calls).readiness = r ↔ Stands calls r := by
  refine ⟨?_, readiness_of_stands⟩
  rintro rfl
  obtain ⟨r, hr⟩ := exists_stands calls
  rwa [readiness_of_stands hr]

theorem begins_iff (calls : List Call) :
    (after calls).returned .beginHandshake = some true ↔ .beginHandshake ∉ calls := by
  rw [returned_beginHandshake, Option.some.injEq, decide_eq_true_iff]
  refine ⟨fun h => ?_, idle_of_free⟩
  have hstands := (readiness_eq_iff calls .idle).mp h
  generalize hr : Readiness.idle = r at hstands
  cases hstands with
  | idle hfree => exact hfree
  | begun => cases hr
  | decided => split at hr <;> cases hr

/-! ## The turn -/

def Pending (calls : List Call) : Prop :=
  ∃ before later, calls = before ++ .beginTurn :: later ∧
    (after before).returned .beginTurn = some true ∧ .endTurn ∉ later

theorem loading_of_pending {later : List Call} (h : .endTurn ∉ later) {c : Conversation}
    (hc : c.isLoading = true) : (later.foldl next c).isLoading = true := by
  induction later generalizing c with
  | nil => exact hc
  | cons call later ih =>
    rw [List.mem_cons, not_or] at h
    apply ih h.2
    cases call with
    | endTurn => exact absurd rfl h.1
    | _ => simp [hc]

theorem pending_of_loading {calls : List Call} (h : (after calls).isLoading = true) :
    Pending calls := by
  induction calls using List.reverseRecOn with
  | nil => cases h
  | append_singleton calls call ih =>
    rw [after_concat] at h
    have hend : call ≠ .endTurn := by
      rintro rfl
      simp at h
    by_cases hloading : (after calls).isLoading = true
    · obtain ⟨before, later, rfl, hbegan, hopen⟩ := ih hloading
      refine ⟨before, later ++ [call], by simp, hbegan, ?_⟩
      simpa [hopen] using hend.symm
    · have hbegin : call = .beginTurn := by
        cases call with
        | beginTurn => rfl
        | _ => simp [hloading] at h
      subst hbegin
      refine ⟨calls, [], rfl, ?_, List.not_mem_nil⟩
      rw [returned_beginTurn]
      simpa using hloading

theorem loading_iff (calls : List Call) : (after calls).isLoading = true ↔ Pending calls := by
  refine ⟨pending_of_loading, ?_⟩
  rintro ⟨before, later, rfl, -, hopen⟩
  rw [after_append, List.foldl_cons]
  exact loading_of_pending hopen (by simp)

/-! ## The three parts -/

inductive Part where
  | log
  | handshake
  | turn
deriving DecidableEq

def Call.part : Call → Part
  | user _ | assistant _ | warn _ => .log
  | beginHandshake | endHandshake _ => .handshake
  | beginTurn | endTurn => .turn

def Same (c d : Conversation) : Part → Prop
  | .log => c.messages = d.messages ∧ c.isWarned = d.isWarned
  | .handshake => c.readiness = d.readiness
  | .turn => c.isLoading = d.isLoading

theorem Same.refl (c : Conversation) (p : Part) : Same c c p := by
  cases p with
  | log => exact ⟨rfl, rfl⟩
  | handshake => exact rfl
  | turn => exact rfl

theorem same_skip {c d : Conversation} {call : Call} {p : Part} (hp : p ≠ call.part)
    (h : Same c d p) : Same (c.next call) d p := by
  cases p <;> cases call <;> simp_all [Same, Call.part]

/-- What a call does depends on its own part alone, and so does what it returns. -/
theorem same_next {c d : Conversation} {call : Call} (hcall : Same c d call.part) {p : Part}
    (h : Same c d p) : Same (c.next call) (d.next call) p := by
  cases p <;> cases call <;> simp_all [Same, Call.part]

theorem returned_congr {c d : Conversation} {call : Call} (h : Same c d call.part) :
    c.returned call = d.returned call := by
  cases call with
  | beginHandshake =>
    have hready : c.readiness = d.readiness := h
    rw [returned_beginHandshake, returned_beginHandshake, hready]
  | beginTurn =>
    have hloading : c.isLoading = d.isLoading := h
    rw [returned_beginTurn, returned_beginTurn, hloading]
  | _ => rfl

theorem foldl_without (p : Part) (calls : List Call) {c d : Conversation}
    (h : ∀ q ≠ p, Same c d q) :
    (∀ q ≠ p, Same (calls.foldl next c) ((calls.filter (·.part ≠ p)).foldl next d) q) ∧
      (answers c calls).filter (·.1.part ≠ p) = answers d (calls.filter (·.part ≠ p)) := by
  induction calls generalizing c d with
  | nil => exact ⟨h, rfl⟩
  | cons call calls ih =>
    by_cases hpart : call.part = p
    · have hnext : ∀ q ≠ p, Same (c.next call) d q :=
        fun q hq => same_skip (hpart ▸ hq) (h q hq)
      simpa [answers, hpart] using ih hnext
    · have hcall : Same c d call.part := h call.part hpart
      have hnext : ∀ q ≠ p, Same (c.next call) (d.next call) q :=
        fun q hq => same_next hcall (h q hq)
      simpa [answers, hpart, returned_congr hcall] using ih hnext

/-! ## Any calls -/

/-- What calls on a new conversation come to. -/
structure Lawful (calls : List Call) : Prop where
  grows : ∀ more, (after calls).messages <+: (after (calls ++ more)).messages
  log : ∀ log, (after calls).messages = log ↔ Writes calls log
  length : (after calls).messages.length =
    calls.countP (·.pushed?.isSome) + if calls.any Call.isWarning then 1 else 0
  begins : (after calls).returned .beginHandshake = some true ↔ .beginHandshake ∉ calls
  readiness : ∀ r, (after calls).readiness = r ↔ Stands calls r
  turns : (after calls).returned .beginTurn = some true ↔ ¬ Pending calls
  /-- The calls about one part neither see nor change the others. -/
  apart : ∀ p,
    (∀ q ≠ p, Same (after calls) (after (calls.filter (·.part ≠ p))) q) ∧
      (answers start calls).filter (·.1.part ≠ p) = answers start (calls.filter (·.part ≠ p))

theorem lawful_of_calls (calls : List Call) : Lawful calls where
  grows more := by
    rw [after_append]
    exact foldl_grows more (after calls)
  log := messages_eq_iff calls
  length := ((messages_eq_iff calls _).mp rfl).length
  begins := begins_iff calls
  readiness := readiness_eq_iff calls
  turns := by
    rw [returned_beginTurn, ← loading_iff]
    simp
  apart p := foldl_without p calls fun q _ => Same.refl start q

end YardConsole.Conversation
