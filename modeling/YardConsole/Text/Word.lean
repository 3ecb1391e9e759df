import YardConsole.Text.Alphabetic
import YardConsole.Text.Newest
import YardConsole.Text.Numeral

/-! # Words and numbers in a text -/

namespace YardConsole.Text

/-! ## Classes -/

def isAlphabetic (c : Char) : Bool := if isAscii c then c.isAlpha else alphabetic.has c

/-- A decimal digit of any script. -/
def isDigit (c : Char) : Bool := if isAscii c then c.isDigit else decimalDigits.has c

/-- A letter, a decimal digit or another number. -/
def isAlphanumeric (c : Char) : Bool :=
  isAlphabetic c || isDigit c || (!isAscii c && otherNumbers.has c)

/-- What a word boundary sees as part of a word. The newest characters are none to it. -/
def isWordChar (c : Char) : Bool :=
  if isAscii c then c.isAlphanum || c == '_'
  else
    !newest.has c &&
      (isAlphabetic c || isDigit c || marks.has c || connectors.has c || joiners.has c)

/-! ## Runs -/

/-- The maximal runs of characters in `p`, in order; `run` is the one being read, reversed. -/
def runsFrom (p : Char → Bool) (run : List Char) : List Char → List (List Char)
  | [] => if run.isEmpty then [] else [run.reverse]
  | c :: rest =>
    if p c then runsFrom p (c :: run) rest
    else if run.isEmpty then runsFrom p [] rest
    else run.reverse :: runsFrom p [] rest

/-- The maximal runs of characters in `p`, in order. -/
def runs (p : Char → Bool) (cs : List Char) : List (List Char) := runsFrom p [] cs

def words (cs : List Char) : List (List Char) := runs isAlphanumeric cs

/-- The first run of word characters that holds only digits. -/
def firstNumber (cs : List Char) : Option (List Char) := (runs isWordChar cs).find? (·.all isDigit)

end YardConsole.Text
