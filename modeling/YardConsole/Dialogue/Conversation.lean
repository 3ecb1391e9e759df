import YardConsole.Dialogue.Message

/-! # Conversations

The log only grows. How far the handshake is and whether a turn is running change in the steps
below and nowhere else.
-/

namespace YardConsole

/-- How far the handshake with the yard is. It never holds up a turn. -/
inductive Readiness where
  | idle
  | initializing
  | ready
  | degraded
deriving DecidableEq

structure Conversation where
  messages : List Message
  readiness : Readiness
  /-- A turn is running. -/
  isLoading : Bool
  /-- The warning about the handshake has been given. -/
  isWarned : Bool
deriving DecidableEq

namespace Conversation

def start : Conversation := ⟨[], .idle, false, false⟩

/-! ## The log -/

def push (c : Conversation) (role : Role) (content : String) : Conversation :=
  { c with messages := c.messages ++ [⟨role, content⟩] }

def pushUser (c : Conversation) (content : String) : Conversation := c.push .user content

def pushAssistant (c : Conversation) (content : String) : Conversation := c.push .assistant content

/-- Warns, unless that has been done. -/
def warnOnce (c : Conversation) (content : String) : Conversation :=
  if c.isWarned then c else { c with isWarned := true }.pushAssistant content

/-! ## The handshake -/

def isReady (c : Conversation) : Bool := c.readiness = .ready

/-- Begins the handshake, unless there has been one. -/
def beginHandshake? (c : Conversation) : Option Conversation :=
  if c.readiness = .idle then some { c with readiness := .initializing } else none

def endHandshake (c : Conversation) (ready : Bool) : Conversation :=
  if c.readiness = .initializing then
    { c with readiness := if ready then .ready else .degraded }
  else c

/-! ## Turns -/

/-- Begins a turn, unless one is running. -/
def beginTurn? (c : Conversation) : Option Conversation :=
  if c.isLoading then none else some { c with isLoading := true }

def endTurn (c : Conversation) : Conversation := { c with isLoading := false }

end Conversation

end YardConsole
