/-! # The arguments of the program

Options may stand before and behind the command; the inner ones win. What cannot be understood is
a wrong use, found as the arguments are read from the left.
-/

namespace YardConsole.Shell

inductive Command where
  | chat
  | run (text : String)
  | parse (text : String)
  | tools
  | setProvider (name : String)
deriving DecidableEq

structure Options where
  url : Option String
  provider : Option String
deriving DecidableEq

structure Arguments where
  options : Options
  command : Command
deriving DecidableEq

/-- Why the program does not start. -/
inductive Usage where
  | wrong
  | help
deriving DecidableEq

namespace Options

def none : Options := ⟨.none, .none⟩

/-- What is given here, else what is given there. -/
def orElse (inner outer : Options) : Options :=
  ⟨inner.url.or outer.url, inner.provider.or outer.provider⟩

/-- Sets an option by its name, once. -/
def set (o : Options) (name value : String) : Except Usage Options :=
  if name = "url" ∧ o.url = .none then .ok { o with url := some value }
  else if name = "provider" ∧ o.provider = .none then .ok { o with provider := some value }
  else .error .wrong

end Options

/-! ## Commands -/

/-- The names of the commands, and whether a text follows. -/
def commandNames : List (String × Bool) :=
  [("chat", false), ("run", true), ("parse", true), ("tools", false), ("set-provider", true)]

/-- A command by its name, with its text if it takes one. -/
def commandOf (name : String) (text : Option String) : Except Usage Command :=
  match name, text with
  | "chat", none => .ok .chat
  | "run", some text => .ok (.run text)
  | "parse", some text => .ok (.parse text)
  | "tools", none => .ok .tools
  | "set-provider", some text => .ok (.setProvider text)
  | _, _ => .error .wrong

/-! ## Options -/

/-- Looks like an option: a dash, and something behind it. -/
def looksLikeOption (arg : String) : Bool :=
  match arg.toList with
  | '-' :: _ :: _ => true
  | _ => false

/-- The name and the value of a long option. -/
def longOption? (arg : String) : Option (String × Option String) :=
  match arg.toList with
  | '-' :: '-' :: rest =>
    let name := String.ofList (rest.takeWhile (· ≠ '='))
    match rest.dropWhile (· ≠ '=') with
    | [] => some (name, none)
    | _ :: value => some (name, some (String.ofList value))
  | _ => none

/-- Reads an option, whose value may be the next argument. -/
def readOption (o : Options) (arg : String) (rest : List String) :
    Except Usage (Options × List String) :=
  match longOption? arg with
  | some ("help", none) => .error .help
  | some (name, some value) => (o.set name value).map (·, rest)
  | some (name, none) =>
    match rest with
    | value :: rest =>
      if looksLikeOption value then .error .wrong else (o.set name value).map (·, rest)
    | [] => .error .wrong
  | none => if arg.toList.take 2 = ['-', 'h'] then .error .help else .error .wrong

/-! ## Arguments -/

/-- What is read behind a command: its options and its texts. `fuel` bounds the arguments. -/
def readInner (takesText : Bool) (o : Options) (texts : List String) :
    (fuel : Nat) → List String → Except Usage (Options × List String)
  | 0, _ => .error .wrong
  | _ + 1, [] => .ok (o, texts)
  | fuel + 1, arg :: rest =>
    if arg = "--" then .ok (o, texts ++ rest)
    else if looksLikeOption arg then
      match readOption o arg rest with
      | .ok (o, rest) => readInner takesText o texts fuel rest
      | .error e => .error e
    else if takesText ∧ texts = [] then readInner takesText o [arg] fuel rest
    else .error .wrong

/-- The arguments behind the name of a command. -/
def readCommand (outer : Options) (name : String) (takesText : Bool) (rest : List String) :
    Except Usage Arguments :=
  match readInner takesText .none [] (rest.length + 1) rest with
  | .error e => .error e
  | .ok (_, _ :: _ :: _) => .error .wrong
  | .ok (inner, texts) =>
    (commandOf name texts.head?).map fun command => ⟨inner.orElse outer, command⟩

/-- Help about a command is asked for by its name. -/
def readHelp : List String → Usage
  | [] => .help
  | [name] => if name = "help" ∨ commandNames.any (·.1 == name) then .help else .wrong
  | _ => .wrong

/-- The arguments up to the command, which is `chat` if there is none. -/
def readOuter (o : Options) : (fuel : Nat) → List String → Except Usage Arguments
  | 0, _ => .error .wrong
  | _ + 1, [] => .ok ⟨o, .chat⟩
  | fuel + 1, arg :: rest =>
    match commandNames.find? (·.1 == arg) with
    | some (name, takesText) => readCommand o name takesText rest
    | none =>
      if arg = "help" then .error (readHelp rest)
      else if arg = "--" then if rest = [] then .ok ⟨o, .chat⟩ else .error .wrong
      else if looksLikeOption arg then
        match readOption o arg rest with
        | .ok (o, rest) => readOuter o fuel rest
        | .error e => .error e
      else .error .wrong

def Arguments.read (args : List String) : Except Usage Arguments :=
  readOuter .none (args.length + 1) args

end YardConsole.Shell
