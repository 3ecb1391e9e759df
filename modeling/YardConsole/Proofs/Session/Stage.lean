import YardConsole.Proofs.Command.Keyword
import YardConsole.Proofs.Session.Turn

/-! # Stages: what comes to an outcome before the assistant is asked -/

namespace YardConsole.Resolution

/-- What an input means, and the stage that says so. -/
def staged (provider : Provider) (catalog : Catalog) (input : String) : Exchange Unit Resolved :=
  resolve provider catalog input () fun resolved => .done resolved ()

def isHelp (text : String) : Bool := ["help", "aide"].any (Text.sameIgnoringCase text)

def isListing (text : String) : Bool := ["resources", "ressources"].any (Text.sameIgnoringCase text)

def isKeyword (text : String) : Bool := isHelp text || isListing text

/-! ## Keywords -/

def keywords : List String := ["help", "aide", "resources", "ressources"]

theorem spells_of_isKeyword {text : String} (h : isKeyword text = true) :
    ∃ word ∈ keywords, Spells text word.toList := by
  have hany : keywords.any (Text.sameIgnoringCase text) = true := by
    simpa [isKeyword, isHelp, isListing, keywords, or_assoc] using h
  obtain ⟨word, hword, hsame⟩ := List.any_eq_true.mp hany
  have hall : keywords.all (·.toList.all fun c => decide (Text.IsSmall c)) = true := by decide
  have hsmall : ∀ word ∈ keywords, ∀ c ∈ word.toList, Text.IsSmall c := by
    simpa only [List.all_eq_true, decide_eq_true_eq] using hall
  exact ⟨word, hword, spells_of_sameIgnoringCase (hsmall word hword) hsame⟩

theorem exact_of_isKeyword {text : String} (h : isKeyword text = true) :
    Exact.parse text = .ok none := by
  obtain ⟨word, -, hspells⟩ := spells_of_isKeyword h
  exact Exact.parse_of_solid hspells.solid

theorem phrase_of_isKeyword (catalog : Catalog) {text : String} (h : isKeyword text = true) :
    Phrase.parse catalog text = .ok none := by
  obtain ⟨word, hword, hspells⟩ := spells_of_isKeyword h
  have hsilent : ∀ word ∈ keywords, Phrase.Silent word := by decide +kernel
  refine Phrase.parse_of_silent catalog ?_
  rw [Phrase.headOf_of_spells hspells, String.ofList_toList]
  exact hsilent word hword

/-! ## Outcomes -/

/-- What the stages that ask nobody come to. Each of them is asked when those before it have no
outcome, and an error is an outcome too. -/
inductive FirstOutcome (catalog : Catalog) (text : String) : Option Resolved → Prop
  | help (hhelp : isHelp text = true) :
      FirstOutcome catalog text (some (.ok (.help, .reply helpText)))
  | resources (hhelp : isHelp text = false) (hlisting : isListing text = true) :
      FirstOutcome catalog text (some (.ok (.resources, .execute .listResources)))
  | malformed {e} (hkeyword : isKeyword text = false) (hexact : Exact.parse text = .error e) :
      FirstOutcome catalog text (some (.error e))
  | exact {i} (hkeyword : isKeyword text = false) (hexact : Exact.parse text = .ok (some i)) :
      FirstOutcome catalog text (some (.ok (.exact, .execute i)))
  | incomplete {e} (hkeyword : isKeyword text = false) (hexact : Exact.parse text = .ok none)
      (hphrase : Phrase.parse catalog text = .error e) :
      FirstOutcome catalog text (some (.error e))
  | phrase {i} (hkeyword : isKeyword text = false) (hexact : Exact.parse text = .ok none)
      (hphrase : Phrase.parse catalog text = .ok (some i)) :
      FirstOutcome catalog text (some (.ok (.phrase, .execute i)))
  | none (hkeyword : isKeyword text = false) (hexact : Exact.parse text = .ok none)
      (hphrase : Phrase.parse catalog text = .ok none) : FirstOutcome catalog text none

theorem withoutAdvice?_firstOutcome (catalog : Catalog) (text : String) :
    FirstOutcome catalog text (withoutAdvice? catalog text) := by
  unfold withoutAdvice?
  split
  · rename_i hhelp
    exact .help hhelp
  · rename_i hhelp
    have hhelp : isHelp text = false := eq_false_of_ne_true hhelp
    split
    · rename_i hlisting
      exact .resources hhelp hlisting
    · rename_i hlisting
      have hlisting : isListing text = false := eq_false_of_ne_true hlisting
      have hkeyword : isKeyword text = false := by rw [isKeyword, hhelp, hlisting, Bool.or_false]
      split
      · rename_i hexact
        exact .malformed hkeyword hexact
      · rename_i hexact
        exact .exact hkeyword hexact
      · rename_i hexact
        split
        · rename_i hphrase
          exact .incomplete hkeyword hexact hphrase
        · rename_i hphrase
          exact .phrase hkeyword hexact hphrase
        · rename_i hphrase
          exact .none hkeyword hexact hphrase

theorem directive_of_ofAnswer {answer : Except Failure String} {stage : Stage} {i : Instruction}
    (h : ofAnswer answer = .ok (stage, .execute i)) :
    stage = .planner ∧ ∃ text d, answer = .ok text ∧ Advice.interpret text = .directive d ∧
      d.instruction? = some i := by
  cases answer with
  | error e => cases h
  | ok text =>
    rw [ofAnswer] at h
    cases hadvice : Advice.interpret text with
    | text message =>
      rw [hadvice] at h
      cases h
    | empty =>
      rw [hadvice] at h
      cases h
    | directive d =>
      rw [hadvice] at h
      cases d with
      | reply message => cases h
      | call method path query body =>
        cases h
        exact ⟨rfl, text, _, rfl, hadvice, rfl⟩

end YardConsole.Resolution
