import YardConsole.Command.Phrase
import YardConsole.Proofs.Call.Path
import YardConsole.Proofs.Command.Embedded
import YardConsole.Proofs.Text.Find
import YardConsole.Proofs.Text.Run

/-! # What phrases ask for

The calls of a phrase that change something, each with what the text has to say for it.
-/

namespace YardConsole.Phrase

open Embedded (ObjectAtBrace)

/-! ## What a text says -/

def Mentions (head : String) (rule : ResourceRule) : Prop :=
  ∃ keyword ∈ rule.keywords, keyword.toList <:+: head.toList

/-- A word that means the verb stands in `head` as a whole word, or a phrase that means it. -/
def Says (head : String) (verb : Verb) : Prop :=
  (∃ word ∈ verb.words, Text.Alone Text.isAlphanumeric word.toList head.toList) ∨
    ∃ phrase ∈ verb.phrases, phrase.toList <:+: head.toList

/-- `number` holds only digits and stands in `head` with no word character beside it. -/
def Numbers (head number : String) : Prop :=
  Text.Alone Text.isWordChar number.toList head.toList ∧
    ∀ c ∈ number.toList, Text.isDigit c = true

inductive Asked (catalog : Catalog) (text : List Char) : Instruction → Prop
  | creation {rule body} (hrule : rule ∈ catalog.rules) (hkeyword : Mentions (headOf text) rule)
      (hverb : Says (headOf text) .create) (hbody : ObjectAtBrace text body) :
      Asked catalog text (.of .post (normalPath rule.path) none (some body))
  | update {rule number body} (hrule : rule ∈ catalog.rules)
      (hkeyword : Mentions (headOf text) rule) (hverb : Says (headOf text) .update)
      (hnumber : Numbers (headOf text) number) (hbody : ObjectAtBrace text body) :
      Asked catalog text (.of .put (normalPath (rule.path ++ "/" ++ number)) none (some body))
  | deletion {rule number} (hrule : rule ∈ catalog.rules)
      (hkeyword : Mentions (headOf text) rule) (hverb : Says (headOf text) .delete)
      (hnumber : Numbers (headOf text) number) :
      Asked catalog text (.of .delete (normalPath (rule.path ++ "/" ++ number)) none none)

/-! ## How it is read -/

theorem mentions_of_resolve {catalog : Catalog} {head path keyword : String}
    (h : catalog.resolve head = some (path, keyword)) :
    ∃ rule ∈ catalog.rules, rule.path = path ∧ Mentions head rule := by
  obtain ⟨rule, hrule, hfound⟩ := List.exists_of_findSome?_eq_some h
  simp only [Option.map_eq_some_iff, Prod.mk.injEq] at hfound
  obtain ⟨k, hk, hpath, -⟩ := hfound
  refine ⟨rule, hrule, hpath, k, List.mem_of_find?_eq_some hk, ?_⟩
  exact (Text.contains_iff _ _).mp (List.find?_some hk)

theorem says_iff (head : String) (verb : Verb) : ((wordsOf head).any (· ∈ verb.words) ||
    verb.phrases.any (Text.contains head)) = true ↔ Says head verb := by
  rw [Bool.or_eq_true, List.any_eq_true, List.any_eq_true, Says]
  refine or_congr ⟨?_, ?_⟩ (exists_congr fun phrase => and_congr_right' (Text.contains_iff _ _))
  · rintro ⟨word, hword, hmeans⟩
    obtain ⟨run, hrun, rfl⟩ := List.mem_map.mp hword
    refine ⟨_, by simpa using hmeans, ?_⟩
    rw [String.toList_ofList]
    exact (Text.mem_runs_iff _).mp hrun
  · rintro ⟨word, hmeans, halone⟩
    refine ⟨word, List.mem_map.mpr ⟨word.toList, ?_, String.ofList_toList⟩, by simpa using hmeans⟩
    exact (Text.mem_runs_iff _).mpr halone

theorem says_of_verbOf? {head : String} {verb : Verb}
    (h : verbOf? head (wordsOf head) = some verb) : Says head verb := by
  have hverb := List.find?_some h
  exact (says_iff head verb).mp hverb

theorem numbers_of_numberOf? {head number : String} (h : numberOf? head = some number) :
    Numbers head number := by
  obtain ⟨run, hrun, rfl⟩ := Option.map_eq_some_iff.mp h
  rw [Numbers, String.toList_ofList]
  exact Text.alone_of_firstNumber hrun

theorem requiredBody_eq_ok {tail : List Char} {missing : String} {body : Json}
    (h : requiredBody tail missing = .ok body) : Embedded.atFirstBrace tail = .value body := by
  unfold requiredBody at h
  cases hfound : Embedded.atFirstBrace tail with
  | value j =>
    obtain rfl : j = body := by simpa [hfound] using h
    rfl
  | absent => simp [hfound] at h
  | invalid e => simp [hfound] at h

inductive Wants (r : Reading) : Instruction → Prop
  | deletion {number} (hverb : r.verb = some .delete) (hnumber : r.number = some number) :
      Wants r (.new .delete (itemPath r.path number))
  | creation {body} (hverb : r.verb = some .create)
      (hbody : Embedded.atFirstBrace r.tail = .value body) :
      Wants r ((Instruction.new .post r.path).withBody body)
  | update {number body} (hverb : r.verb = some .update) (hnumber : r.number = some number)
      (hbody : Embedded.atFirstBrace r.tail = .value body) :
      Wants r ((Instruction.new .put (itemPath r.path number)).withBody body)
  | search (hverb : r.verb = some .search) (hterms : terms r.keyword r.words ≠ []) :
      Wants r ((Instruction.new .get (r.path ++ "/search")).withQuery
        (.obj [("q", .str (" ".intercalate (terms r.keyword r.words)))]))
  | list (hverb : r.verb = some .list) : Wants r (.new .get r.path)
  | item {number} (hverb : r.verb = none) (hnumber : r.number = some number) :
      Wants r (.new .get (itemPath r.path number))

theorem wants_of_creation {r : Reading} {i : Instruction} (hverb : r.verb = some .create)
    (h : creation r = .ok i) : Wants r i := by
  obtain ⟨body, hbody, rfl⟩ := Json.map_eq_ok h
  exact .creation hverb (requiredBody_eq_ok hbody)

theorem wants_of_update {r : Reading} {i : Instruction} (hverb : r.verb = some .update)
    (h : update r = .ok i) : Wants r i := by
  unfold update at h
  cases hnumber : r.number with
  | none => simp [hnumber] at h
  | some number =>
    simp only [hnumber] at h
    obtain ⟨body, hbody, rfl⟩ := Json.map_eq_ok h
    exact .update hverb hnumber (requiredBody_eq_ok hbody)

theorem wants_of_search {r : Reading} {i : Instruction} (hverb : r.verb = some .search)
    (h : search r = .ok i) : Wants r i := by
  unfold search at h
  split at h
  · cases h
  · rename_i hne
    cases h
    exact .search hverb hne

theorem wants_of_instruction {r : Reading} {i : Instruction} (h : instruction r = .ok (some i)) :
    Wants r i := by
  have hmap : ∀ {found : Except Failure Instruction}, found.map some = .ok (some i) →
      found = .ok i := by
    intro found h
    obtain ⟨j, hj, hi⟩ := Json.map_eq_ok h
    rw [hj, Option.some.inj hi]
  unfold instruction at h
  split at h
  · rename_i hverb
    obtain ⟨number, hnumber, rfl⟩ := Option.map_eq_some_iff.mp (Except.ok.inj h)
    exact .deletion hverb hnumber
  · rename_i hverb
    exact wants_of_creation hverb (hmap h)
  · rename_i hverb
    exact wants_of_update hverb (hmap h)
  · rename_i hverb
    exact wants_of_search hverb (hmap h)
  · rename_i hverb
    cases h
    exact .list hverb
  · rename_i hverb
    obtain ⟨number, hnumber, rfl⟩ := Option.map_eq_some_iff.mp (Except.ok.inj h)
    exact .item hverb hnumber

structure IsReading (catalog : Catalog) (text : List Char) (rule : ResourceRule) (r : Reading) :
    Prop where
  member : rule ∈ catalog.rules
  keyword : Mentions (headOf text) rule
  path : r.path = rule.path
  verb : r.verb = verbOf? (headOf text) (wordsOf (headOf text))
  number : r.number = numberOf? (headOf text)
  tail : r.tail = Embedded.fromBrace text

theorem wants_of_parse {catalog : Catalog} {input : String} {i : Instruction}
    (h : parse catalog input = .ok (some i)) : i = .listResources ∨
      ∃ rule r, IsReading catalog (Text.trimList input.toList) rule r ∧ Wants r i := by
  unfold parse at h
  simp only at h
  split at h
  · cases h
    exact .inl rfl
  · split at h
    · cases h
    · rename_i path keyword hresolve
      obtain ⟨rule, hrule, hpath, hkeyword⟩ := mentions_of_resolve hresolve
      refine .inr ⟨rule, _, ?_, wants_of_instruction h⟩
      refine ⟨hrule, hkeyword, hpath.symm, ?_, ?_, ?_⟩
      · dsimp only
      · dsimp only
      · dsimp only

theorem asked_of_wants {catalog : Catalog} {text : List Char} {rule : ResourceRule}
    {r : Reading} {i : Instruction} (hr : IsReading catalog text rule r) (h : Wants r i)
    (hmethod : i.method ≠ .get) : Asked catalog text i := by
  have hverbs : ∀ {verb}, r.verb = some verb → Says (headOf text) verb :=
    fun hverb => says_of_verbOf? (hr.verb.symm.trans hverb)
  have hnumbers : ∀ {number}, r.number = some number → Numbers (headOf text) number :=
    fun hnumber => numbers_of_numberOf? (hr.number.symm.trans hnumber)
  have hbodies : ∀ {body}, Embedded.atFirstBrace r.tail = .value body →
      ObjectAtBrace text body := by
    intro body hbody
    rw [hr.tail] at hbody
    exact Embedded.objectAtBrace_of_value hbody
  cases h with
  | deletion hverb hnumber =>
    rw [hr.path, Instruction.new_eq]
    exact .deletion hr.member hr.keyword (hverbs hverb) (hnumbers hnumber)
  | creation hverb hbody =>
    rw [hr.path, Instruction.new_eq, Instruction.withBody_of]
    exact .creation hr.member hr.keyword (hverbs hverb) (hbodies hbody)
  | update hverb hnumber hbody =>
    rw [hr.path, Instruction.new_eq, Instruction.withBody_of]
    exact .update hr.member hr.keyword (hverbs hverb) (hnumbers hnumber) (hbodies hbody)
  | search => exact absurd rfl hmethod
  | list => exact absurd rfl hmethod
  | item => exact absurd rfl hmethod

theorem asked_of_parse {catalog : Catalog} {input : String} {i : Instruction}
    (h : parse catalog input = .ok (some i)) (hmethod : i.method ≠ .get) :
    Asked catalog (Text.trimList input.toList) i := by
  rcases wants_of_parse h with rfl | ⟨rule, r, hr, hwants⟩
  · exact absurd rfl hmethod
  · exact asked_of_wants hr hwants hmethod

end YardConsole.Phrase
