import YardConsole.Session.Execution
import YardConsole.Session.Resolution

/-! # Sessions: one operator at the console

A turn ends before the next one begins. Whatever fails in it becomes one message.
-/

namespace YardConsole

structure Settings where
  provider : Provider
  catalog : Catalog
  routes : Routes
deriving DecidableEq

def Settings.standard : Settings := ⟨.standard, .standard, .standard⟩

structure Session where
  settings : Settings
  conversation : Conversation
  /-- Screens are shown. -/
  hasScreen : Bool
  /-- The screens shown so far. -/
  shown : List String
deriving DecidableEq

/-- How a turn ended. -/
structure TurnOutcome where
  reply : String
  destination : Option String
  failed : Bool
deriving DecidableEq

namespace Session

def start (settings : Settings) (hasScreen : Bool) : Session :=
  ⟨settings, .start, hasScreen, []⟩

def setProvider (s : Session) (provider : Provider) : Session :=
  { s with settings := { s.settings with provider } }

/-! ## The handshake -/

def warning (e : Failure) : String :=
  "Attention: connexion MCP non initialisée (" ++ e.message ++
    "). Les commandes risquent d'échouer."

/-- The conversation after the yard's answer to the handshake. -/
def greeted (c : Conversation) : Except Failure Json → Conversation
  | .ok _ => c.endHandshake true
  | .error e => (c.endHandshake false).warnOnce (warning e)

/-- The handshake, once. A failure is only warned of. -/
def handshake (s : Session) : Exchange Session Readiness :=
  match s.conversation.beginHandshake? with
  | none => .done s.conversation.readiness s
  | some c =>
    .call { s with conversation := c } "initialize" Tool.handshakeParams fun answer =>
      .done (greeted c answer).readiness { s with conversation := greeted c answer }

/-! ## Turns -/

def failureText (e : Failure) : String := "Erreur: " ++ e.message

/-- Shows a screen, if screens are shown. -/
def showScreen (s : Session) : Option String → Session
  | some route => if s.hasScreen then { s with shown := s.shown ++ [route] } else s
  | none => s

/-- Appends what a resolution comes to, and tells the screen it leads to. -/
def enact (s : Session) : Resolved → Exchange Conversation (Except Failure (Option String))
  | .error e => .done (.error e) s.conversation
  | .ok (_, .reply text) => .done (.ok none) (s.conversation.pushAssistant text)
  | .ok (_, .execute i) => Execution.execute s.settings.routes i s.conversation

/-- How a turn ended that came to `result`, and the conversation then. The reply is the last
message. -/
def concluded (c : Conversation) : Except Failure (Option String) → TurnOutcome × Conversation
  | .ok destination => (⟨(c.messages.getLast?.map (·.content)).getD "", destination, false⟩, c)
  | .error e => (⟨failureText e, none, true⟩, c.pushAssistant (failureText e))

/-- Ends a turn that came to `result`. -/
def close (s : Session) (result : Except Failure (Option String)) (c : Conversation) :
    Exchange Session (Option TurnOutcome) :=
  let (outcome, c) := concluded c result
  .done (some outcome) ({ s with conversation := c.endTurn }.showScreen outcome.destination)

/-- What is done about a resolution. -/
def carryOut (s : Session) (resolved : Resolved) : Exchange Session (Option TurnOutcome) :=
  (s.enact resolved).andThen (fun c => { s with conversation := c }) s.close

/-- One input of the operator. Blank input, and input while a turn is running, is left alone. -/
def submit (s : Session) (input : String) : Exchange Session (Option TurnOutcome) :=
  let text := Text.trim input
  if text.isEmpty then .done none s
  else
    match s.conversation.beginTurn? with
    | none => .done none s
    | some c =>
      let s := { s with conversation := c.pushUser text }
      Resolution.resolve s.settings.provider s.settings.catalog text s s.carryOut

def listTools (s : Session) : Exchange Session (Except Failure (List Json)) :=
  .call s "tools/list" (.obj []) fun answer => .done (answer.map Tool.listed) s

/-- Resolves an input, and leaves it at that. -/
def dryRun (s : Session) (input : String) : Exchange Session (Except Failure Resolution) :=
  Resolution.resolve s.settings.provider s.settings.catalog input s fun resolved =>
    .done (resolved.map (·.2)) s

end Session

end YardConsole
