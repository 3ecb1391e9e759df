import Mathlib.Data.List.Find
import YardConsole.Proofs.Command.Behind
import YardConsole.Proofs.Command.Grammar

/-! # Texts that start with a word

Behind a small word the head of a phrase does not depend on the word. So words that mean the same
verb make the same phrase of a text.
-/

namespace YardConsole

/-! ## Texts that start with a word -/

def IsSmallWord (word : List Char) : Prop := word ≠ [] ∧ ∀ c ∈ word, Text.IsSmall c

instance (word : List Char) : Decidable (IsSmallWord word) :=
  decidable_of_iff (word ≠ [] ∧ word.all (fun c => decide (Text.IsSmall c)) = true)
    (by simp [IsSmallWord])

section

variable {word : List Char} (hword : IsSmallWord word)

include hword

theorem isToken_of_isSmallWord : Exact.IsToken word :=
  ⟨hword.1, fun c hc => Text.isBlank_of_isSmall (hword.2 c hc)⟩

theorem trimList_word (r : List Char) :
    Text.trimList (word ++ ' ' :: r) = word ++ Text.trimEnd (' ' :: r) := by
  have htoken := isToken_of_isSmallWord hword
  rw [Text.trimList, Text.trimStart_of_head (Exact.head_token_append htoken _)]
  exact Text.trimEnd_append (fun c hc => htoken.2 c (List.mem_of_getLast? hc)) _

end

theorem toList_behind (word r : String) :
    (word ++ " " ++ r).toList = word.toList ++ ' ' :: r.toList := by
  rw [String.toList_append, String.toList_append, List.append_assoc]
  rfl

theorem trimList_behind {word : String} (hword : IsSmallWord word.toList) {r : String}
    (hr : Text.trimEnd r.toList ≠ []) : Text.trimList (word ++ " " ++ r).toList =
      word.toList ++ ' ' :: Text.trimEnd r.toList := by
  rw [toList_behind, trimList_word hword]
  exact congrArg _ (Text.trimEnd_append_of_ne hr [' '])

namespace Exact

theorem splitWord_word {word : List Char} (hword : IsSmallWord word) (s : List Char) :
    splitWord (word ++ ' ' :: s) = (word, ' ' :: s) := by
  have hblank : Text.isBlank ' ' = true := by decide
  exact splitWord_append (isToken_of_isSmallWord hword).2 (by simpa [IsBehind] using hblank)

theorem parseList_word {word : List Char} (hword : IsSmallWord word)
    (hmethod : methodOf? word = none) (s : List Char) : parseList (word ++ ' ' :: s) = .ok none := by
  have hfirst := head_token_append (isToken_of_isSmallWord hword) (' ' :: s)
  rw [parseList, Text.trimStart_of_head hfirst, splitWord_word hword]
  simp only [hmethod]

theorem parts_word {word s : List Char} (hword : IsSmallWord word)
    (htrimmed : Text.Trimmed (word ++ ' ' :: s)) :
    ∃ path payload, Parts (word ++ ' ' :: s) word (some path) payload := by
  obtain ⟨first, path, payload, hparts⟩ := exists_parts htrimmed
  obtain ⟨rest, htext, hsolid, hbehind⟩ := hparts.split
  have hsplit := splitWord_append hsolid hbehind
  rw [← htext, splitWord_word hword] at hsplit
  obtain ⟨rfl, rfl⟩ := Prod.mk.inj hsplit
  cases path with
  | some path => exact ⟨path, payload, hparts⟩
  | none =>
    -- A text of one word has no blank.
    generalize htext' : word ++ ' ' :: s = text at hparts
    cases hparts with
    | one => simp at htext'

theorem means_delete {path : List Char} {payload : Option (List Char)}
    {x : Except Failure (Option Instruction)}
    (h : Means "delete".toList (some path) payload x) (item : String) :
    x ≠ .ok none ∧ (x = .ok (some (.of .delete item none none)) ↔
      payload = none ∧ item.toList = slashed path) := by
  have hdelete : methodOf? "delete".toList = some .delete := by decide
  cases h with
  | foreign hword => exact absurd ((methodOf?_eq_some_iff _ _).mp hdelete) (hword .delete)
  | bare hword =>
    obtain rfl := Option.some.inj (((methodOf?_eq_some_iff _ _).mpr hword).symm.trans hdelete)
    refine ⟨nofun, fun hsame => ⟨rfl, ?_⟩, fun hpath => ?_⟩
    · have hpath := congrArg Instruction.path (Option.some.inj (Except.ok.inj hsame))
      rw [← show String.ofList (slashed path) = item from hpath, String.toList_ofList]
    · rw [← hpath.2, String.ofList_toList]
  | asking => exact ⟨nofun, nofun, nofun⟩
  | sending => exact ⟨nofun, nofun, nofun⟩
  | broken => exact ⟨nofun, nofun, nofun⟩

end Exact

namespace Phrase

section

variable {word : List Char} (hword : IsSmallWord word)

include hword

theorem ne_brace_of_isSmallWord : ∀ c ∈ word ++ [' '], decide (c ≠ '{') = true := by
  intro c hc
  rw [decide_eq_true_eq]
  rintro rfl
  rcases List.mem_append.mp hc with hc | hc
  · exact absurd (hword.2 _ hc) (by decide)
  · simp at hc

/-- Behind the word it does not matter which word it is. -/
theorem headOf_word (s : List Char) : headOf (word ++ ' ' :: s) =
    String.ofList (word ++ ' ' :: Text.lowerAfter [' '] (Embedded.before s)) := by
  have hbefore : Embedded.before (word ++ ' ' :: s) = word ++ [' '] ++ Embedded.before s := by
    rw [List.append_cons]
    exact List.takeWhile_append_of_pos (ne_brace_of_isSmallWord hword)
  have hascii : ∀ c ∈ word ++ [' '], Text.isAscii c = true := by
    intro c hc
    rcases List.mem_append.mp hc with hc | hc
    · exact Text.isAscii_of_isSmall (hword.2 c hc)
    · obtain rfl := List.mem_singleton.mp hc
      decide
  have hlower : word.map Char.toLower = word :=
    (List.map_congr_left fun c hc => Text.toLower_of_isSmall (hword.2 c hc)).trans (List.map_id _)
  rw [headOf, hbefore, Text.lowerList, Text.lowerAfter_append_of_ascii _ hascii, List.map_append,
    hlower]
  have hcontext := Text.lowerAfter_append_cons (c := ' ') (by decide) [] word.reverse
    (Embedded.before s)
  simp only [List.nil_append] at hcontext
  simp [hcontext]

theorem wordsOf_word (h : List Char) :
    wordsOf (String.ofList (word ++ ' ' :: h)) = String.ofList word :: wordsOf (String.ofList h) := by
  have hin : ∀ c ∈ word, Text.isAlphanumeric c = true := fun c hc =>
    Text.isAlphanumeric_of_isSmall (hword.2 c hc)
  rw [wordsOf, wordsOf, String.toList_ofList, String.toList_ofList, Text.words, Text.words,
    Text.runs_append_cons hword.1 hin (by decide), List.map_cons]

theorem numberOf?_word (h : List Char) :
    numberOf? (String.ofList (word ++ ' ' :: h)) = numberOf? (String.ofList h) := by
  have hin : ∀ c ∈ word, Text.isWordChar c = true := fun c hc =>
    Text.isWordChar_of_isSmall (hword.2 c hc)
  have hdigit : ¬ word.all Text.isDigit = true := by
    obtain ⟨c, hc⟩ := List.exists_mem_of_ne_nil _ hword.1
    intro hall
    have hdigit := List.all_eq_true.mp hall c hc
    rw [Text.isDigit_of_isSmall (hword.2 c hc)] at hdigit
    cases hdigit
  rw [numberOf?, numberOf?, String.toList_ofList, String.toList_ofList, Text.firstNumber,
    Text.firstNumber, Text.runs_append_cons hword.1 hin (by decide), List.find?_cons_of_neg]
  exact hdigit

end

theorem contains_word {word : List Char} {needle : String}
    (hapart : Text.Apart needle.toList (word ++ [' '])) (h : List Char) :
    Text.contains (String.ofList (word ++ ' ' :: h)) needle =
      Text.contains (String.ofList h) needle := by
  rw [Bool.eq_iff_iff, Text.contains_iff, Text.contains_iff, String.toList_ofList,
    String.toList_ofList, List.append_cons]
  exact Text.infix_append_of_apart hapart h

theorem resolve_congr {catalog : Catalog} {text text' : String}
    (h : ∀ rule ∈ catalog.rules, ∀ keyword ∈ rule.keywords,
      Text.contains text keyword = Text.contains text' keyword) :
    catalog.resolve text = catalog.resolve text' := by
  obtain ⟨rules⟩ := catalog
  simp only [Catalog.resolve] at h ⊢
  induction rules with
  | nil => rfl
  | cons rule rules ih =>
    rw [List.findSome?_cons, List.findSome?_cons, List.find?_congr (h rule (by simp)),
      ih fun rule hrule => h rule (List.mem_cons_of_mem _ hrule)]

/-! ## Phrases that start with a word to delete -/

def deletion (catalog : Catalog) (head : String) : Option Instruction :=
  if listingPhrases.any (Text.contains head) then some .listResources
  else
    (catalog.resolve head).bind fun found =>
      (numberOf? head).map fun number => .new .delete (itemPath found.1 number)

theorem item_of_deletion {catalog : Catalog} {head : String} {i : Instruction}
    (h : deletion catalog head = some i) (hmethod : i.method = .delete) :
    ∃ item, i = .of .delete item none none := by
  unfold deletion at h
  split at h
  · obtain rfl := Option.some.inj h
    cases hmethod
  · obtain ⟨found, -, h⟩ := Option.bind_eq_some_iff.mp h
    obtain ⟨number, -, rfl⟩ := Option.map_eq_some_iff.mp h
    exact ⟨_, Instruction.new_eq .delete _⟩

/-- No keyword of the catalog and no phrase for the listing begins in the word. -/
def Clear (catalog : Catalog) (word : String) : Prop :=
  (∀ phrase ∈ listingPhrases, Text.Apart phrase.toList (word.toList ++ [' '])) ∧
    ∀ rule ∈ catalog.rules, ∀ keyword ∈ rule.keywords,
      Text.Apart keyword.toList (word.toList ++ [' '])

instance (catalog : Catalog) (word : String) : Decidable (Clear catalog word) :=
  inferInstanceAs (Decidable (_ ∧ _))

theorem verbOf?_word {word : String} (hmem : word ∈ Verb.delete.words)
    (hword : IsSmallWord word.toList) (h : List Char) :
    verbOf? (String.ofList (word.toList ++ ' ' :: h))
      (wordsOf (String.ofList (word.toList ++ ' ' :: h))) = some .delete := by
  rw [wordsOf_word hword, String.ofList_toList, verbOf?, Verb.order, List.find?_cons_of_pos]
  simp [hmem]

theorem outcome_word {catalog : Catalog} {word : String} (hmem : word ∈ Verb.delete.words)
    (hword : IsSmallWord word.toList) (hclear : Clear catalog word) (h tail : List Char) :
    outcome catalog (String.ofList (word.toList ++ ' ' :: h)) tail =
      .ok (deletion catalog (String.ofList h)) := by
  have hlisting : listingPhrases.any (Text.contains (String.ofList (word.toList ++ ' ' :: h))) =
      listingPhrases.any (Text.contains (String.ofList h)) := by
    rw [Bool.eq_iff_iff, List.any_eq_true, List.any_eq_true]
    refine exists_congr fun phrase => and_congr_right fun hphrase => ?_
    rw [contains_word (hclear.1 phrase hphrase)]
  have hresolve : catalog.resolve (String.ofList (word.toList ++ ' ' :: h)) =
      catalog.resolve (String.ofList h) :=
    resolve_congr fun rule hrule keyword hkeyword =>
      contains_word (hclear.2 rule hrule keyword hkeyword) h
  unfold outcome deletion
  rw [hlisting, hresolve]
  split
  · rfl
  · cases catalog.resolve (String.ofList h) with
    | none => rfl
    | some found =>
      simp only [verbOf?_word hmem hword, numberOf?_word hword, instruction]
      rfl

theorem isSmallWord_of_deletes : ∀ word ∈ Verb.delete.words, IsSmallWord word.toList := by decide

theorem clear_of_deletes : ∀ word ∈ Verb.delete.words, Clear .standard word := by decide +kernel

theorem parse_deletes {word : String} (hword : word ∈ Verb.delete.words) {r : String}
    (hr : Text.trimEnd r.toList ≠ []) : parse .standard (Text.trim (word ++ " " ++ r)) =
      .ok (deletion .standard (String.ofList
        (Text.lowerAfter [' '] (Embedded.before (Text.trimEnd r.toList))))) := by
  have hsmall := isSmallWord_of_deletes word hword
  rw [parse_eq_outcome, Text.toList_trim, Text.trimList_trimList, trimList_behind hsmall hr,
    headOf_word hsmall, outcome_word hword hsmall (clear_of_deletes word hword)]

theorem parse_of_blank {word : String} (hword : word ∈ Verb.delete.words) {r : String}
    (hr : Text.trimEnd r.toList = []) :
    parse .standard (Text.trim (word ++ " " ++ r)) = .ok none := by
  have hnone : ∀ word ∈ Verb.delete.words, parse .standard word = .ok none := by decide +kernel
  have htext : Text.trimList (word ++ " " ++ r).toList = word.toList := by
    rw [Text.trimEnd_eq_rdropWhile, List.rdropWhile_eq_nil_iff] at hr
    have hblank : ∀ c ∈ ' ' :: r.toList, Text.isBlank c = true :=
      List.forall_mem_cons.mpr ⟨by decide, hr⟩
    rw [toList_behind, trimList_word (isSmallWord_of_deletes word hword),
      Text.trimEnd_of_blank hblank, List.append_nil]
  rw [Text.trim, htext, String.ofList_toList]
  exact hnone word hword

end Phrase

end YardConsole
