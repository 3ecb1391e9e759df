import YardConsole.Shell.Program

/-! # The program and the bytes of its file -/

namespace YardConsole.Shell

/-- What the program is started with. Any bytes may be in the configuration file, if there is one. -/
structure Launch where
  arguments : List String
  environment : Options
  file : Option ByteArray

/-- How the program ends, and the bytes of the file then. -/
structure Ending where
  code : Nat
  errors : String
  file : Option ByteArray

def Exit.ending (e : Exit) (file : Option ByteArray) : Ending := ⟨e.code, e.errors, file⟩

/-- The end with the text of the file written to it. -/
def Exit.written (e : Exit) : Ending := e.ending (e.file.map String.toUTF8)

/-- The text of a file, if there is one. Bytes that are no text cannot be read. -/
def fileText : Option ByteArray → Except String (Option String)
  | none => .ok none
  | some bytes =>
    match String.fromUTF8? bytes with
    | some text => .ok (some text)
    | none => .error "stream did not contain valid UTF-8"

namespace Launch

def invocation (l : Launch) (file : Option String) : Invocation :=
  ⟨l.arguments, l.environment, file⟩

/-- The end if the file cannot be read. A wrong use is found before. -/
def unreadable (l : Launch) (message : String) : Ending :=
  match Arguments.read l.arguments with
  | .error usage => (usage.exit none).ending l.file
  | .ok _ => (failed none message).ending l.file

/-- The whole program, on an input that is known beforehand. -/
def run (l : Launch) (input : String) : Job Ending :=
  match fileText l.file with
  | .error message => .done (l.unreadable message)
  | .ok file => (program (l.invocation file) input).map Exit.written

end Launch

end YardConsole.Shell
