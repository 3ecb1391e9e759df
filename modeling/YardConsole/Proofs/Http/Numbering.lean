import Mathlib.Logic.Function.Basic
import YardConsole.Proofs.Http.Refinement
import YardConsole.Proofs.Json.RoundTrip

/-! # Numbers of calls

Clients are used through sessions and directly, in any order, over one network that may deliver
anything. What is done through a session may be dropped while it waits. Each client numbers its
calls from one, and no number is left out or given twice.
-/

namespace YardConsole

/-! ## Exchanges that are dropped -/

/-- The exchange, dropped while the request behind so many others waits. The request has been made,
but nobody hears what becomes of it. -/
def Exchange.dropped : Nat → Exchange σ α → Exchange σ (Option α)
  | _, done result state => .done (some result) state
  | 0, advise held provider prompt _ => .advise held provider prompt fun _ => .done none held
  | 0, call held method params _ => .call held method params fun _ => .done none held
  | before + 1, advise held provider prompt next =>
    .advise held provider prompt fun answer => (next answer).dropped before
  | before + 1, call held method params next =>
    .call held method params fun answer => (next answer).dropped before

/-! ## One client -/

/-- A client, what was asked of it so far, and what it has posted. -/
structure Sender where
  links : Links
  asked : List Request
  posts : List Post

namespace Sender

def after (c : Sender) (links : Links) (asked : List Request) (posts : List (Post × Delivery)) :
    Sender :=
  ⟨links, c.asked ++ asked, c.posts ++ posts.map Prod.fst⟩

/-- All that was asked is posted, numbered from one, and the next number is the next call's. -/
def Numbered (base : String) (c : Sender) : Prop :=
  c.posts = posted base 1 c.asked ∧ c.links = .at base (numberAfter 1 c.asked)

theorem Numbered.after {base : String} {c : Sender} (h : c.Numbered base) {links : Links}
    {asked : List Request} {posts : List (Post × Delivery)}
    (hposts : posts.map Prod.fst = posted base (numberAfter 1 c.asked) asked)
    (hlinks : links = .at base (numberAfter (numberAfter 1 c.asked) asked)) :
    (c.after links asked posts).Numbered base := by
  constructor
  · rw [Sender.after, posted_append, ← h.1, hposts]
  · rw [Sender.after, numberAfter_append, hlinks]

end Sender

/-! ## Many clients -/

structure World (ι κ ν : Type) where
  senders : ι → Sender
  sessions : κ → Session
  network : ν

inductive Use (κ : Type) where
  | step (k : κ) (step : Session.Step)
  | droppedStep (k : κ) (step : Session.Step) (before : Nat)
  | listTools (k : κ)
  | droppedListing (k : κ)
  | call (method : String) (params : Json)
  | ask (provider : Provider) (message : String)

namespace World

variable {ι κ ν : Type} {base : ι → String} {w : World ι κ ν}

def start (base : ι → String) (sessions : κ → Session) (n : ν) : World ι κ ν :=
  ⟨fun i => ⟨.new (base i), [], []⟩, sessions, n⟩

def Numbered (base : ι → String) (w : World ι κ ν) : Prop := ∀ i, (w.senders i).Numbered (base i)

theorem numbered_start (base : ι → String) (sessions : κ → Session) (n : ν) :
    (start base sessions n).Numbered base := by
  intro i
  refine ⟨rfl, ?_⟩
  rw [start, numberAfter_nil]
  rfl

variable [DecidableEq ι]

def put (w : World ι κ ν) (i : ι) (c : Sender) (n : ν) : World ι κ ν :=
  { w with senders := Function.update w.senders i c, network := n }

theorem Numbered.put (h : w.Numbered base) {i : ι} {c : Sender} (hc : c.Numbered (base i)) (n : ν) :
    (w.put i c n).Numbered base := by
  intro j
  by_cases hj : j = i
  · subst hj
    simpa [World.put] using hc
  · simpa [World.put, hj] using h j

def call (net : Network ν) (w : World ι κ ν) (i : ι) (method : String) (params : Json) :
    World ι κ ν :=
  let c := w.senders i
  let sent := (c.links.yard.call method params).through net w.network
  let links := { c.links with yard := sent.result.2 }
  w.put i (c.after links [.call method params] sent.posts) sent.network

def ask (net : Network ν) (w : World ι κ ν) (i : ι) (provider : Provider) (message : String) :
    World ι κ ν :=
  let c := w.senders i
  let sent := (c.links.assistant.ask provider message).through net w.network
  w.put i (c.after c.links [.advise provider message] sent.posts) sent.network

theorem Numbered.call (h : w.Numbered base) (net : Network ν) (i : ι) (method : String)
    (params : Json) : (w.call net i method params).Numbered base := by
  refine h.put ((h i).after ?_ ?_) _
  · rw [(h i).2]
    rfl
  · rw [(h i).2, numberAfter_call, numberAfter_nil]
    rfl

theorem Numbered.ask (h : w.Numbered base) (net : Network ν) (i : ι) (provider : Provider)
    (message : String) : (w.ask net i provider message).Numbered base := by
  refine h.put ((h i).after ?_ ?_) _
  · rw [(h i).2]
    rfl
  · rw [(h i).2, numberAfter_advise, numberAfter_nil]

variable [DecidableEq κ]

/-- What a session does with a client. It asks what it would ask by itself, told what the deliveries
say. -/
def perform {α : Type} (net : Network ν) (w : World ι κ ν) (i : ι) (k : κ)
    (work : Session → Exchange Session α) : World ι κ ν :=
  let c := w.senders i
  let sent := (Console.perform ⟨w.sessions k, c.links⟩ work).through net w.network
  let asked := ((work (w.sessions k)).run feed (sent.posts.map Prod.snd)).requests
  { w.put i (c.after sent.result.2.links asked sent.posts) sent.network with
    sessions := Function.update w.sessions k sent.result.2.session }

def use (net : Network ν) (w : World ι κ ν) (i : ι) : Use κ → World ι κ ν
  | .step k step => w.perform net i k step.work
  | .droppedStep k step before => w.perform net i k fun s => (step.work s).dropped before
  | .listTools k => w.perform net i k Session.listTools
  | .droppedListing k => w.perform net i k fun s => s.listTools.dropped 0
  | .call method params => w.call net i method params
  | .ask provider message => w.ask net i provider message

def run (net : Network ν) (w : World ι κ ν) (uses : List (ι × Use κ)) : World ι κ ν :=
  uses.foldl (fun w (i, u) => w.use net i u) w

theorem Numbered.perform {α : Type} (h : w.Numbered base) (net : Network ν) (i : ι) (k : κ)
    (work : Session → Exchange Session α) : (w.perform net i k work).Numbered base := by
  have hrefines := Console.perform_refines net (base i) (numberAfter 1 (w.senders i).asked) work
    (w.sessions k) w.network []
  simp only [List.append_nil, ← (h i).2] at hrefines
  obtain ⟨-, -, -, hposts, hlinks⟩ := hrefines
  have hput := h.put ((h i).after hposts hlinks)
    ((Console.perform ⟨w.sessions k, (w.senders i).links⟩ work).through net w.network).network
  exact hput

theorem Numbered.use (h : w.Numbered base) (net : Network ν) (i : ι) (u : Use κ) :
    (w.use net i u).Numbered base := by
  cases u with
  | step k step => exact h.perform net i k _
  | droppedStep k step before => exact h.perform net i k _
  | listTools k => exact h.perform net i k _
  | droppedListing k => exact h.perform net i k _
  | call method params => exact h.call net i method params
  | ask provider message => exact h.ask net i provider message

theorem Numbered.run (h : w.Numbered base) (net : Network ν) (uses : List (ι × Use κ)) :
    (w.run net uses).Numbered base := by
  induction uses generalizing w with
  | nil => exact h
  | cons used uses ih => exact ih (h.use net used.1 used.2)

end World

/-! ## Numbers in posts -/

def numberHead : List Char := "\x7b\"jsonrpc\":\"2.0\",\"id\":".toList

def Post.id? (p : Post) : Option Nat :=
  if numberHead.isPrefixOf p.body.toList then
    match Json.startValue? (p.body.toList.drop numberHead.length) with
    | some (.int n) => some n.toNat
    | _ => none
  else none

theorem startValue?_number {n : Nat} (h : n < UInt64.size) (rest : List Char) :
    Json.startValue? (Json.intText n ++ ',' :: rest) = some (.int n) := by
  have hsize : UInt64.size = 18446744073709551616 := rfl
  have hword : Json.FitsWord n := by
    unfold Json.FitsWord
    omega
  have htext : Json.ValueText Json.maxDepth (Json.intText n) (.int n) :=
    Json.valueText_of_stepText (Json.stepText_intText hword)
  have hstops : Json.Stops (',' :: rest) := by simp [Json.Stops]
  have hread := (Json.value_reads Json.maxDepth).takes _ _ htext [] (',' :: rest)
    Json.spaces_nil hstops
  rw [List.nil_append] at hread
  rw [Json.startValue?, hread]

theorem body_call (c : YardClient) (method : String) (params : Json) :
    ∃ rest, (c.post method params).body.toList =
      numberHead ++ (Json.intText c.nextId.toNat ++ ',' :: rest) := by
  have hhead : numberHead = '{' :: Json.stringText "jsonrpc" ++ ':' :: Json.stringText "2.0" ++
      ',' :: Json.stringText "id" ++ [':'] := by decide +kernel
  refine ⟨Json.stringText "method" ++ ':' :: Json.stringText method ++
    Json.writeMembers .compact 0 [("params", params)], ?_⟩
  rw [YardClient.post, Json.toList_compact, hhead]
  simp [Json.line, Json.write, Json.writeMembers, Json.Layout.compact]

theorem id?_call (c : YardClient) (method : String) (params : Json) :
    (c.post method params).id? = some c.nextId.toNat := by
  obtain ⟨rest, hbody⟩ := body_call c method params
  unfold Post.id?
  rw [hbody, if_pos (List.isPrefixOf_iff_prefix.mpr (List.prefix_append ..)), List.drop_left,
    startValue?_number c.nextId.toNat_lt]
  rfl

theorem id?_advice (c : AdviceClient) (provider : Provider) (message : String) :
    (c.post provider message).id? = none := by
  have hkey : Json.stringText "provider" = '"' :: 'p' :: "rovider\"".toList := by decide +kernel
  have hbody : (c.post provider message).body.toList[2]? = some 'p' := by
    rw [AdviceClient.post, Json.toList_compact]
    simp [Json.line, Json.write, Json.Layout.compact, hkey]
  have hhead : ¬ numberHead <+: (c.post provider message).body.toList := by
    rintro ⟨rest, hrest⟩
    have hthird : (numberHead ++ rest)[2]? = some 'j' := by
      rw [List.getElem?_append_left (by decide +kernel)]
      decide +kernel
    rw [hrest, hbody] at hthird
    exact absurd hthird (by decide)
  unfold Post.id?
  rw [if_neg (by rwa [List.isPrefixOf_iff_prefix])]

/-! ## All posts of a client -/

def yardCalls (base : String) (posts : List Post) : List Post :=
  posts.filter (·.url = endpoint base "/mcp")

section

variable (base : String) (id : Nat) (requests : List Request)

theorem posted_call (method : String) (params : Json) :
    posted base (.ofNat id) (.call method params :: requests) =
      YardClient.post ⟨endpoint base "/mcp", .ofNat id⟩ method params ::
        posted base (.ofNat (id + 1)) requests := by
  rw [UInt64.ofNat_add]
  rfl

theorem posted_advise (provider : Provider) (prompt : String) :
    posted base (.ofNat id) (.advise provider prompt :: requests) =
      AdviceClient.post (.new base) provider prompt :: posted base (.ofNat id) requests := rfl

theorem id?_of_lt {id : Nat} (h : id < UInt64.size) (url method : String) (params : Json) :
    (YardClient.post ⟨url, .ofNat id⟩ method params).id? = some id := by
  rw [id?_call, UInt64.toNat_ofNat_of_lt' h]

theorem ids_posted (hfew : id + requests.countP isCall ≤ UInt64.size) :
    (yardCalls base (posted base (.ofNat id) requests)).map Post.id? =
      (List.range' id (requests.countP isCall)).map some := by
  induction requests generalizing id with
  | nil => rfl
  | cons request requests ih =>
    cases request with
    | advise provider prompt =>
      rw [posted_advise, yardCalls, List.filter_cons_of_neg (by simp [AdviceClient.post,
        AdviceClient.new, endpoint])]
      exact ih id hfew
    | call method params =>
      rw [List.countP_cons_of_pos rfl] at hfew ⊢
      rw [posted_call, yardCalls, List.filter_cons_of_pos (by simp [YardClient.post]),
        List.map_cons, id?_of_lt (by omega), List.range'_succ, List.map_cons]
      exact congrArg (some id :: ·) (ih (id + 1) (by omega))

theorem advice_of_posted {p : Post} (hp : p ∈ posted base (.ofNat id) requests)
    (hcall : p.url ≠ endpoint base "/mcp") :
    p.url = endpoint base "/ai/chat" ∧ p.id? = none := by
  induction requests generalizing id with
  | nil => cases hp
  | cons request requests ih =>
    cases request with
    | advise provider prompt =>
      rw [posted_advise] at hp
      rcases List.mem_cons.mp hp with rfl | hp
      · exact ⟨rfl, id?_advice ..⟩
      · exact ih id hp
    | call method params =>
      rw [posted_call] at hp
      rcases List.mem_cons.mp hp with rfl | hp
      · exact absurd rfl hcall
      · exact ih (id + 1) hp

/-- The numbers that are borne at all are those of the calls. -/
theorem filterMap_id?_posted (hfew : id + requests.countP isCall ≤ UInt64.size) :
    (posted base (.ofNat id) requests).filterMap Post.id? =
      List.range' id (requests.countP isCall) := by
  let posts := posted base (.ofNat id) requests
  have hcalls : posts.filterMap Post.id? = (yardCalls base posts).filterMap Post.id? := by
    rw [yardCalls, List.filterMap_filter]
    refine List.filterMap_congr fun p hp => ?_
    by_cases hcall : p.url = endpoint base "/mcp"
    · simp [hcall]
    · simp [hcall, (advice_of_posted base id requests hp hcall).2]
  calc posts.filterMap Post.id?
    _ = (yardCalls base posts).filterMap Post.id? := hcalls
    _ = ((yardCalls base posts).map Post.id?).filterMap (fun n => n) := by
      rw [List.filterMap_map]
      rfl
    _ = ((List.range' id (requests.countP isCall)).map some).filterMap (fun n => n) := by
      rw [ids_posted base id requests hfew]
    _ = List.range' id (requests.countP isCall) := by
      rw [List.filterMap_map]
      exact List.filterMap_some

end

/-! ## Every run -/

/-- In every run each client posts what it was asked and nothing else, whatever becomes of it and
whatever other clients do in between. Fewer than `UInt64.size` calls of a client bear the numbers
from one on; what it asks of the assistant bears none. What comes to the server of all this bears
each number once, in order. -/
theorem calls_numbered {ι κ ν : Type} [DecidableEq ι] [DecidableEq κ] (net : Network ν)
    (base : ι → String) (sessions : κ → Session) (n : ν) (uses : List (ι × Use κ)) (i : ι) :
    let c := ((World.start base sessions n).run net uses).senders i
    let calls := c.asked.countP isCall
    c.posts = posted (base i) 1 c.asked ∧
      (calls < UInt64.size →
        (yardCalls (base i) c.posts).map Post.id? = (List.range' 1 calls).map some ∧
        (∀ p ∈ c.posts, p.url ≠ endpoint (base i) "/mcp" →
          p.url = endpoint (base i) "/ai/chat" ∧ p.id? = none) ∧
        ∀ seen, List.Sublist seen c.posts →
          (seen.filterMap Post.id?).Pairwise (· < ·) ∧ (seen.filterMap Post.id?).Nodup) := by
  intro c calls
  obtain ⟨hposts, -⟩ := (World.numbered_start base sessions n).run net uses i
  refine ⟨hposts, fun hfew => ?_⟩
  have hbound : 1 + calls ≤ UInt64.size := by omega
  have hposted : c.posts = posted (base i) (.ofNat 1) c.asked := hposts
  rw [hposted]
  refine ⟨ids_posted _ _ _ hbound, fun p hp => advice_of_posted _ _ _ hp, fun seen hseen => ?_⟩
  have hids := hseen.filterMap Post.id?
  rw [filterMap_id?_posted _ _ _ hbound] at hids
  have hordered := List.Pairwise.sublist hids List.pairwise_lt_range'
  exact ⟨hordered, hordered.imp Nat.ne_of_lt⟩

def downNetwork : Network Unit where
  deliver _ n := (.unreachable "down", n)

/-- One of two clients greets and is dropped meanwhile, asks for advice and lists tools, and the
other one calls in between. -/
def mixedUses : List (Bool × Use Unit) := [
  (true, .droppedStep () .handshake 0), (true, .ask .openai "Bonjour"),
  (false, .call "tools/list" (.obj [])), (true, .listTools ())]

theorem mixedUses_numbered :
    let start : World Bool Unit Unit :=
      .start (fun _ => "http://localhost:8080") (fun _ => .start .standard false) ()
    let c := (start.run downNetwork mixedUses).senders true
    c.asked = [.call "initialize" Tool.handshakeParams, .advise .openai "Bonjour",
      .call "tools/list" (.obj [])] ∧
    (yardCalls "http://localhost:8080" c.posts).map Post.id? = [some 1, some 2] := by
  intro start c
  have hasked : c.asked = [.call "initialize" Tool.handshakeParams, .advise .openai "Bonjour",
      .call "tools/list" (.obj [])] := by decide +kernel
  have hfew : c.asked.countP isCall < UInt64.size := by
    rw [hasked]
    decide
  obtain ⟨-, hnumbers⟩ := calls_numbered downNetwork (fun _ => "http://localhost:8080")
    (fun _ => .start .standard false) () mixedUses true
  refine ⟨hasked, (hnumbers hfew).1.trans ?_⟩
  rw [show (c.asked.countP isCall) = 2 by rw [hasked]; rfl]
  rfl

end YardConsole
