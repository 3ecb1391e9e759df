import YardConsole.Proofs.Command.Exact
import YardConsole.Proofs.Command.Phrase

/-! # Single words

A text without blanks is no exact command, and a phrase only if its one word says something.
-/

namespace YardConsole

/-! ## Letters -/

/-- But for case, the text is that word. -/
structure Spells (text : String) (word : List Char) : Prop where
  lower : text.toList.map Char.toLower = word
  letters : ∀ c ∈ text.toList, 65 ≤ c.toNat ∧ c.toNat ≤ 122

theorem spells_of_sameIgnoringCase {text word : String} (hword : ∀ c ∈ word.toList, Text.IsSmall c)
    (h : Text.sameIgnoringCase text word = true) : Spells text word.toList := by
  have hsame : text.toList.map Char.toLower = word.toList.map Char.toLower := by
    simpa [Text.sameIgnoringCase] using h
  have hsmall : word.toList.map Char.toLower = word.toList :=
    (List.map_congr_left fun c hc => Text.toLower_of_isSmall (hword c hc)).trans (List.map_id _)
  rw [hsmall] at hsame
  refine ⟨hsame, fun c hc => Text.toNat_of_isSmall_toLower (hword _ ?_)⟩
  rw [← hsame]
  exact List.mem_map_of_mem hc

namespace Spells

variable {text : String} {word : List Char}

theorem ascii (h : Spells text word) : ∀ c ∈ text.toList, Text.isAscii c = true := by
  intro c hc
  obtain ⟨-, hhigh⟩ := h.letters c hc
  simp only [Text.isAscii, decide_eq_true_eq]
  omega

theorem solid (h : Spells text word) : ∀ c ∈ text.toList, Text.isBlank c = false := by
  intro c hc
  obtain ⟨hlow, hhigh⟩ := h.letters c hc
  exact Text.isBlank_of_visible (by omega) (by omega)

end Spells

/-! ## Commands -/

theorem Exact.parse_of_solid {text : String} (h : ∀ c ∈ text.toList, Text.isBlank c = false) :
    parse text = .ok none := by
  refine (parseList_eq_none_iff _).mpr ?_
  -- Behind its first word an exact command has a gap.
  rintro m path rest ⟨⟨word, gap, htext, -, hgap, -⟩, -, -⟩
  obtain ⟨c, gap, rfl⟩ := List.exists_cons_of_ne_nil hgap.1
  have hmem : c ∈ Text.trimStart text.toList := by
    rw [htext]
    simp
  have hsolid := h c ((List.dropWhile_suffix _).subset hmem)
  rw [hgap.2 c (by simp)] at hsolid
  cases hsolid

namespace Phrase

/-- There is no verb in the text, no number, and no phrase for the listing. -/
def Silent (head : String) : Prop :=
  listingPhrases.any (Text.contains head) = false ∧ verbOf? head (wordsOf head) = none ∧
    numberOf? head = none

instance (head : String) : Decidable (Silent head) := inferInstanceAs (Decidable (_ ∧ _))

theorem headOf_of_spells {text : String} {word : List Char} (h : Spells text word) :
    headOf (Text.trimList text.toList) = String.ofList word := by
  have hbrace : Embedded.before text.toList = text.toList := by
    rw [Embedded.before, List.takeWhile_eq_self_iff]
    intro c hc
    rw [decide_eq_true_eq]
    rintro rfl
    exact absurd (h.letters _ hc).2 (by decide)
  rw [headOf, Text.trimList_of_solid h.solid, hbrace, Text.lowerList_of_ascii h.ascii, h.lower]

theorem parse_of_silent (catalog : Catalog) {text : String}
    (h : Silent (headOf (Text.trimList text.toList))) : parse catalog text = .ok none := by
  obtain ⟨hlisting, hverb, hnumber⟩ := h
  unfold parse
  simp only [hlisting, Bool.false_eq_true, if_false]
  cases catalog.resolve (headOf (Text.trimList text.toList)) with
  | none => rfl
  | some found =>
    simp only [instruction, hverb, hnumber]
    rfl

end Phrase

end YardConsole
