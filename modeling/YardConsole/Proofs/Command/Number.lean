import Mathlib.Tactic.MkIffOfInductiveProp
import YardConsole.Command.Phrase
import YardConsole.Proofs.Text.Pattern
import YardConsole.Proofs.Text.Run

/-! # The number of a phrase

The number is the first run of word characters that holds only digits. It is what one pattern takes:
digits between two boundaries of words.
-/

namespace YardConsole.Phrase

/-! ## Characters of words -/

/-- A part of a word: a letter, a decimal digit, a mark, a connector or a joiner, if it is none of
the newest characters. -/
@[mk_iff]
structure IsWordPart (c : Char) : Prop where
  known : Text.newest.has c = false
  kind : Text.isAlphabetic c = true ∨ Text.isDigit c = true ∨ Text.marks.has c = true ∨ c = '_' ∨
    Text.connectors.has c = true ∨ Text.joiners.has c = true

theorem isWordChar_iff (c : Char) : Text.isWordChar c = true ↔ IsWordPart c := by
  rw [isWordPart_iff]
  unfold Text.isWordChar Text.isAlphabetic Text.isDigit
  split
  · rename_i hascii
    have hlow : Text.Ranges.has [(0, 0x7f)] c = true := by
      simp only [Text.isAscii, decide_eq_true_eq] at hascii
      simp [Text.Ranges.has]
      omega
    have hapart := fun (b : Text.Ranges) h => Text.Ranges.has_of_apart (b := b) h hlow
    rw [hapart Text.newest (by decide), hapart Text.marks (by decide +kernel),
      hapart Text.connectors (by decide), hapart Text.joiners (by decide)]
    simp [Char.isAlphanum, or_assoc]
  · rename_i hascii
    have hunder : c ≠ '_' := by
      rintro rfl
      exact hascii (by decide)
    simp [hunder, or_assoc]

/-! ## The first number -/

/-- A run of word characters that are all digits, and no run before it is so. -/
inductive FirstNumber : (text number : List Char) → Prop
  | intro {before number after} (hrun : Text.Between Text.isWordChar before number after)
      (hdigits : ∀ c ∈ number, Text.isDigit c = true)
      (hfirst : ∀ left run right, before ++ number ++ after = left ++ run ++ right →
        Text.Between Text.isWordChar left run right → left.length < before.length →
        ∃ c ∈ run, Text.isDigit c = false) :
      FirstNumber (before ++ number ++ after) number

theorem firstNumber_eq_some_iff (text number : List Char) :
    Text.firstNumber text = some number ↔ FirstNumber text number := by
  rw [Text.firstNumber, List.find?_eq_some_iff_append]
  constructor
  · rintro ⟨hdigits, earlier, later, hruns, hearlier⟩
    obtain ⟨before, after, rfl, hrun, rfl⟩ := Text.Runs.split ((Text.runs_iff _ _ _).mpr hruns)
    refine .intro hrun (by simpa using hdigits) fun left run right htext hother hshort => ?_
    have halone := (hrun.alone_before_iff run).mpr ⟨left, right, htext, hother, hshort⟩
    simpa using hearlier run ((Text.mem_runs_iff run).mpr halone)
  · rintro ⟨hrun, hdigits, hfirst⟩
    refine ⟨by simpa using hdigits, _, _, hrun.runs_eq, fun run hmem => ?_⟩
    obtain ⟨left, right, htext, hother, hshort⟩ :=
      (hrun.alone_before_iff run).mp ((Text.mem_runs_iff run).mp hmem)
    simpa using hfirst left run right htext hother hshort

theorem firstNumber_eq_none_iff (text : List Char) : Text.firstNumber text = none ↔
    ∀ run, Text.Alone Text.isWordChar run text → ∃ c ∈ run, Text.isDigit c = false := by
  simp [Text.firstNumber, Text.mem_runs_iff]

/-! ## The pattern -/

def inWord (c : Option Char) : Bool := c.any Text.isWordChar

def boundary : Pattern := .place fun before after => inWord before != inWord after

def isFigure (c : Char) : Bool := Text.isDigit c && Text.isWordChar c

def numberPattern : Pattern := .sequence [boundary, .group 1 (.several isFigure), boundary]

def leadingNumber (cs : List Char) : Option (List Char) :=
  if cs.takeWhile Text.isWordChar ≠ [] ∧ (cs.takeWhile Text.isWordChar).all Text.isDigit then
    some (cs.takeWhile Text.isWordChar)
  else none

theorem inWord_last {c : Char} {text : List Char} (hc : isFigure c = true)
    (htext : ∀ x ∈ text, isFigure x = true) (before : Option Char) :
    inWord ((c :: text).getLast?.or before) = true := by
  have hlast : isFigure ((c :: text).getLast (List.cons_ne_nil c text)) = true :=
    (List.forall_mem_cons (p := (isFigure · = true))).mpr ⟨hc, htext⟩ _ (List.getLast_mem _)
  rw [isFigure, Bool.and_eq_true] at hlast
  rw [List.getLast?_eq_some_getLast (List.cons_ne_nil c text)]
  exact hlast.2

/-- The figures that begin a text are followed by another word character unless all of the word is
digits. -/
theorem word_of_figures (cs : List Char) :
    (cs.takeWhile Text.isWordChar).all Text.isDigit = !inWord (cs.dropWhile isFigure).head? ∧
      ((cs.takeWhile Text.isWordChar).all Text.isDigit = true →
        cs.takeWhile isFigure = cs.takeWhile Text.isWordChar) := by
  induction cs with
  | nil => exact ⟨rfl, fun _ => rfl⟩
  | cons c cs ih =>
    cases hword : Text.isWordChar c with
    | false => simp [isFigure, inWord, hword]
    | true =>
      cases hdigit : Text.isDigit c with
      | false => simp [isFigure, inWord, hword, hdigit]
      | true => simpa [isFigure, hword, hdigit] using ih

theorem leadingNumber_of_figure {c : Char} (hc : isFigure c = true) (cs : List Char) :
    leadingNumber (c :: cs) = if inWord (cs.dropWhile isFigure).head? then none
      else some (c :: cs.takeWhile isFigure) := by
  obtain ⟨hall, hsame⟩ := word_of_figures cs
  obtain ⟨hdigit, hword⟩ := Bool.and_eq_true_iff.mp hc
  rw [leadingNumber, List.takeWhile_cons_of_pos hword, List.all_cons, hdigit, Bool.true_and]
  cases hnext : inWord (cs.dropWhile isFigure).head? with
  | true => simp [hall, hnext]
  | false =>
    have hdigits : (cs.takeWhile Text.isWordChar).all Text.isDigit = true := by
      rw [hall, hnext]
      rfl
    simp [hdigits, hsame hdigits]

theorem leadingNumber_of_not_figure {c : Char} (hc : isFigure c = false) (cs : List Char) :
    leadingNumber (c :: cs) = none := by
  cases hword : Text.isWordChar c with
  | false => simp [leadingNumber, hword]
  | true =>
    have hdigit : Text.isDigit c = false := by simpa [isFigure, hword] using hc
    simp [leadingNumber, hword, hdigit]

section

variable {α : Type} (before : Option Char)

theorem firstWay_boundary (cs : List Char) (next : Taken → Option α) :
    boundary.firstWay before cs next =
      if inWord before = inWord cs.head? then none else next (.none cs) := by
  rw [Pattern.firstWay, boundary, Pattern.ways_place]
  cases inWord before <;> cases inWord cs.head? <;> simp

theorem firstWay_close {c : Char} (hc : isFigure c = true) (cs : List Char)
    (g : List (Nat × List Char) → α) :
    (Pattern.firstWay (.sequence [.group 1 (.several isFigure), boundary]) before (c :: cs) fun t =>
      some (g t.groups)) = (leadingNumber (c :: cs)).map fun number => g [(1, number)] := by
  have hend : ∀ t : Taken, (∀ x ∈ t.text, isFigure x = true) →
      (Pattern.firstWay (.sequence [boundary]) ((c :: t.text).getLast?.or before) t.rest fun u =>
        some (g (((t.cons c).group 1).append u).groups)) =
      if inWord t.rest.head? then none else some (g ((1, c :: t.text) :: t.groups)) := by
    intro t htext
    rw [Pattern.firstWay_sequence_cons, firstWay_boundary, inWord_last hc htext before]
    cases inWord t.rest.head? <;> simp [Taken.append, Taken.group, Taken.cons, Taken.none]
  rw [Pattern.firstWay_sequence_cons, Pattern.firstWay_group, Pattern.firstWay_several, if_pos hc,
    Pattern.firstWay_greedy]
  · refine (hend _ fun x hx => List.mem_takeWhile_imp hx).trans ?_
    rw [leadingNumber_of_figure hc]
    cases inWord (cs.dropWhile isFigure).head? <;> rfl
  · intro t d rest htext hrest hd
    refine (hend t htext).trans (if_pos ?_)
    rw [hrest]
    exact (Bool.and_eq_true_iff.mp hd).2

end

theorem head_ways_number (before : Option Char) (cs : List Char) :
    ((numberPattern.ways before cs).head?).map (·.groups) =
      if inWord before then none else (leadingNumber cs).map fun number => [(1, number)] := by
  rw [Pattern.head?_ways, numberPattern, Pattern.firstWay_sequence_cons, firstWay_boundary]
  cases cs with
  | nil =>
    cases inWord before <;> rfl
  | cons c cs =>
    cases hc : isFigure c with
    | true =>
      have hword : inWord (c :: cs).head? = true := (Bool.and_eq_true_iff.mp hc).2
      rw [hword]
      cases inWord before with
      | true => rfl
      | false => exact firstWay_close _ hc cs fun groups => groups
    | false =>
      have hnone : (Pattern.firstWay (.sequence [.group 1 (.several isFigure), boundary]) before
          (c :: cs) fun u => some u.groups) = none := by
        rw [Pattern.firstWay_sequence_cons, Pattern.firstWay_group, Pattern.firstWay_several,
          if_neg (by simp [hc])]
      rw [leadingNumber_of_not_figure hc, Option.map_none, ite_self]
      split
      · rfl
      · exact hnone

/-! ## The search -/

theorem firstNumber_leading (cs : List Char) : Text.firstNumber cs =
    (leadingNumber cs).or (Text.firstNumber (cs.dropWhile Text.isWordChar)) := by
  cases hrun : cs.takeWhile Text.isWordChar with
  | nil =>
    have hwhole := List.takeWhile_append_dropWhile (p := Text.isWordChar) (l := cs)
    rw [hrun, List.nil_append] at hwhole
    rw [hwhole, leadingNumber, hrun]
    rfl
  | cons c run =>
    have hcs : cs = [] ++ (c :: run) ++ cs.dropWhile Text.isWordChar := by
      rw [List.nil_append, ← hrun, List.takeWhile_append_dropWhile]
    have hin : ∀ x ∈ c :: run, Text.isWordChar x = true := by
      rw [← hrun]
      exact fun x hx => List.mem_takeWhile_imp hx
    have hruns := Text.runs_append (List.forall_mem_nil _) (List.cons_ne_nil c run) hin
      (Text.head_dropWhile Text.isWordChar cs)
    rw [← hcs] at hruns
    rw [Text.firstNumber, hruns, List.find?_cons, leadingNumber, hrun]
    cases (c :: run).all Text.isDigit <;> simp [Text.firstNumber]

theorem firstNumber_behind (c : Char) (cs : List Char) :
    Text.firstNumber ((c :: cs).dropWhile Text.isWordChar) =
      Text.firstNumber (if Text.isWordChar c then cs.dropWhile Text.isWordChar else cs) := by
  cases hc : Text.isWordChar c with
  | true => rw [List.dropWhile_cons_of_pos hc, if_pos rfl]
  | false =>
    have hgap : ∀ x ∈ [c], Text.isWordChar x = false := by simpa using hc
    rw [List.dropWhile_cons_of_neg (by simp [hc]), if_neg (by simp), Text.firstNumber, Text.runs,
      ← List.singleton_append, Text.runsFrom_gap hgap]
    rfl

theorem groups_search? (before : Option Char) (cs : List Char) :
    (numberPattern.search? before cs).map (·.groups) =
      (Text.firstNumber (if inWord before then cs.dropWhile Text.isWordChar else cs)).map
        fun number => [(1, number)] := by
  induction cs generalizing before with
  | nil =>
    rw [Pattern.search?, head_ways_number]
    cases inWord before <;> rfl
  | cons c cs ih =>
    have hc : inWord (some c) = Text.isWordChar c := rfl
    rw [Pattern.search?, Option.map_or, head_ways_number, ih, hc, ← firstNumber_behind]
    cases inWord before with
    | true => rfl
    | false =>
      rw [if_neg Bool.false_ne_true, if_neg Bool.false_ne_true, firstNumber_leading (c :: cs),
        Option.map_or]

/-! ## The number of a text -/

structure FindsNumber (text : String) (found : Option String) : Prop where
  number : ∀ n, found = some n ↔ FirstNumber text.toList n.toList
  missing : found = none ↔
    ∀ run, Text.Alone Text.isWordChar run text.toList → ∃ c ∈ run, Text.isDigit c = false

theorem findsNumber_numberOf? (text : String) : FindsNumber text (numberOf? text) := by
  constructor
  · intro n
    rw [numberOf?, ← firstNumber_eq_some_iff, Option.map_eq_some_iff]
    constructor
    · rintro ⟨run, hrun, rfl⟩
      rwa [String.toList_ofList]
    · intro h
      exact ⟨_, h, String.ofList_toList⟩
  · rw [numberOf?, Option.map_eq_none_iff, firstNumber_eq_none_iff]

/-- Digits count where they are a whole word, and the first ones are found. -/
theorem captured_findsNumber (text : String) :
    (∀ c, Text.isWordChar c = true ↔ IsWordPart c) ∧
      (numberPattern.captured 1 text.toList).map String.ofList = numberOf? text ∧
      FindsNumber text (numberOf? text) := by
  have hcaptured : numberPattern.captured 1 text.toList = Text.firstNumber text.toList :=
    Pattern.captured_of_groups (groups_search? none text.toList)
  refine ⟨isWordChar_iff, ?_, findsNumber_numberOf? text⟩
  rw [hcaptured, numberOf?]

end YardConsole.Phrase
