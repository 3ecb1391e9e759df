import YardConsole.Text.Cased
import YardConsole.Text.LowerRuns

/-! # Upper and lower case -/

namespace YardConsole.Text

/-! ## Lower case -/

/-- The lower case of a character that does not hang on its neighbours. -/
def lowerChar (c : Char) : List Char :=
  if isAscii c then [c.toLower]
  else if c = 'İ' then ['i', '\u0307']
  else match lowerRuns.find? (·.has c.toNat) with
    | some run => [Char.ofNat (run.map c.toNat)]
    | none => [c]

def isCased (c : Char) : Bool := if isAscii c then c.isAlpha else casedRanges.has c

def isCaseIgnorable (c : Char) : Bool :=
  if isAscii c then c ∈ ['\'', '.', ':', '^', '\x60'] else caseIgnorable.has c

/-- A letter with a case comes next, behind characters that case rules look through. -/
def nextIsCased (cs : List Char) : Bool := (cs.dropWhile isCaseIgnorable).head?.any isCased

/-- Sigma takes its final form after a letter with no letter behind. `before` is reversed. -/
def lowerSigma (before after : List Char) : Char :=
  if nextIsCased before && !nextIsCased after then 'ς' else 'σ'

def lowerAfter (before : List Char) : List Char → List Char
  | [] => []
  | c :: rest =>
    (if c = 'Σ' then [lowerSigma before rest] else lowerChar c) ++ lowerAfter (c :: before) rest

/-- The text in lower case, by the full Unicode rule. -/
def lowerList (cs : List Char) : List Char := lowerAfter [] cs

def lower (s : String) : String := String.ofList (lowerList s.toList)

/-! ## Upper case -/

/-- The upper case of a character where it is ASCII, else the character. -/
def upperChar (c : Char) : List Char :=
  if isAscii c then [c.toUpper]
  else match c with
    | 'ß' => ['S', 'S']
    | 'ı' => ['I']
    | 'ſ' => ['S']
    | 'ﬀ' => ['F', 'F']
    | 'ﬁ' => ['F', 'I']
    | 'ﬂ' => ['F', 'L']
    | 'ﬃ' => ['F', 'F', 'I']
    | 'ﬄ' => ['F', 'F', 'L']
    | 'ﬅ' | 'ﬆ' => ['S', 'T']
    | c => [c]

/-- The upper case of a text, as far as it is ASCII. -/
def upperList (cs : List Char) : List Char := cs.flatMap upperChar

/-! ## ASCII -/

/-- Equal when ASCII letters may differ in case. -/
def sameIgnoringCase (a b : String) : Bool := a.toList.map Char.toLower == b.toList.map Char.toLower

end YardConsole.Text
