import YardConsole.Http.Client
import YardConsole.Shell.Arguments

/-! # The program

It shows texts and sends requests, and ends with a code. The file changes only by the command
that saves a provider.
-/

namespace YardConsole.Shell

/-! ## Beginning and end -/

/-- What the program is started with. -/
structure Invocation where
  arguments : List String
  /-- What the environment has for the options. -/
  environment : Options
  /-- The text of the configuration file, if there is one. -/
  file : Option String

/-- How the program ends, and the file then. -/
structure Exit where
  code : Nat
  errors : String
  file : Option String
deriving DecidableEq

/-- A program that is ready to do its command. -/
structure Ready where
  command : Command
  console : Console
  address : String
  file : Option String

def Ready.exit (r : Ready) (code : Nat) : Exit := ⟨code, "", r.file⟩

def failed (file : Option String) (message : String) : Exit :=
  ⟨1, "Error: " ++ message ++ "\n", file⟩

def Usage.exit (file : Option String) : Usage → Exit
  | .wrong => ⟨2, "", file⟩
  | .help => ⟨0, "", file⟩

/-- The configuration with what the options say; an unknown provider is refused. -/
def overridden (config : Config) (o : Options) : Except String Config :=
  let config := { config with baseUrl := o.url.or config.baseUrl }
  match o.provider with
  | none => .ok config
  | some name =>
    match Provider.ofText? name with
    | some provider => .ok { config with provider := some provider.id }
    | none => .error (Config.unknownProvider name)

/-- Gets ready, or ends right away. -/
def start (i : Invocation) : Except Exit Ready :=
  match Arguments.read i.arguments with
  | .error usage => .error (usage.exit i.file)
  | .ok arguments =>
    match Config.load i.file with
    | .error e => .error (failed i.file e.message)
    | .ok config =>
      match overridden config (arguments.options.orElse i.environment) with
      | .error message => .error (failed i.file message)
      | .ok config => .ok ⟨arguments.command, .ofConfig config, config.address, i.file⟩

/-! ## What is shown -/

def outcomeLines (o : TurnOutcome) : List String :=
  o.reply :: (o.destination.map ("→ " ++ ·)).toList

def logLines (c : Console) : List String :=
  (c.session.conversation.messages.filter (·.role = .assistant)).map (·.content)

/-- The handshake, and the warning if it failed. -/
def greet (c : Console) : Job Console :=
  (c.perform Session.handshake).bind fun (_, c) => .lines (logLines c) (.done c)

/-! ## Chat -/

def banner (r : Ready) : String :=
  "moussAIllon (" ++ r.address ++ ", IA: " ++ r.console.session.settings.provider.displayName ++
    "). Tapez 'help' pour l'aide, 'exit' pour quitter."

def chatPrompt : String := "> "

/-- A line that ends the chat. -/
def isFarewell (line : String) : Bool :=
  ["exit", "quit"].any (Text.sameIgnoringCase (Text.trim line))

/-- One line of the operator. -/
def answerLine (c : Console) (line : String) : Job Console :=
  (c.perform (·.submit line)).bind fun (outcome, c) =>
    .lines ((outcome.map outcomeLines).getD []) (.done c)

/-- The chat over some lines, with a prompt before each of them and at the end. -/
def chatLines (c : Console) : List String → Job Console
  | [] => .say chatPrompt (.done c)
  | line :: rest =>
    .say chatPrompt
      (if isFarewell line then .done c
      else (answerLine c line).bind fun c => chatLines c rest)

def openChat (r : Ready) : Job Console := .line (banner r) (greet r.console)

/-! ## Other commands -/

def runOnce (r : Ready) (text : String) : Job Exit :=
  (greet r.console).bind fun c =>
    (c.perform (·.submit text)).bind fun
      | (none, _) => .done (failed r.file "Empty request")
      | (some o, _) => .lines (outcomeLines o) (.done (r.exit (if o.failed then 1 else 0)))

/-- What a resolution is shown as. -/
def resolutionText : Resolution → String
  | .reply text => text
  | .execute i => i.toJson.indented

def parseOnly (r : Ready) (text : String) : Job Exit :=
  (r.console.perform (·.dryRun text)).bind fun
    | (.ok resolution, _) => .line (resolutionText resolution) (.done (r.exit 0))
    | (.error e, _) => .done (failed r.file e.message)

def toolLine (tool : Json) : String :=
  let name := (tool.text? "name").getD "?"
  match tool.text? "description" with
  | some description => name ++ "  " ++ description
  | none => name

def toolLines : List Json → List String
  | [] => ["Aucun outil exposé."]
  | tools => tools.map toolLine

def showTools (r : Ready) : Job Exit :=
  r.console.tools.bind fun
    | (.ok tools, _) => .lines (toolLines tools) (.done (r.exit 0))
    | (.error e, _) => .done (failed r.file e.message)

def setProvider (r : Ready) (name : String) : Job Exit :=
  match Config.saveProvider name r.file with
  | .ok file =>
    .line ("Fournisseur IA par défaut: " ++ name) (.done ⟨0, "", some file⟩)
  | .error message => .done (failed r.file message)

/-! ## All of it -/

/-- Does the command. `input` are the lines a chat is given. -/
def perform (r : Ready) (input : List String) : Job Exit :=
  match r.command with
  | .chat => (openChat r).bind fun c => (chatLines c input).map fun _ => r.exit 0
  | .run text => runOnce r text
  | .parse text => parseOnly r text
  | .tools => showTools r
  | .setProvider name => setProvider r name

/-- The lines of a text; the end of the text ends the last one too. -/
def inputLines (text : String) : List String :=
  let lines := text.toList.splitOn '\n'
  (if lines.getLast? = some [] then lines.dropLast else lines).map String.ofList

/-- The whole program, on an input that is known beforehand. -/
def program (i : Invocation) (input : String) : Job Exit :=
  match start i with
  | .error exit => .done exit
  | .ok ready => perform ready (inputLines input)

end YardConsole.Shell
