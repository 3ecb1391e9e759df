import YardConsole.Proofs.Command.Behind

/-! # Searches: what a text asks to look for -/

namespace YardConsole.Phrase

/-! ## The keyword -/

/-- The keyword stands in the text, and nothing that is asked before it does: neither an earlier
rule of the catalog nor an earlier keyword of its own rule. -/
inductive FirstKeyword (catalog : Catalog) (head : String) : String → String → Prop
  | intro {path keyword earlier later before after}
      (hrules : catalog.rules = earlier ++ ⟨path, before ++ keyword :: after⟩ :: later)
      (hearlier : ∀ rule ∈ earlier, ¬ Mentions head rule)
      (hbefore : ∀ k ∈ before, ¬ k.toList <:+: head.toList)
      (hstands : keyword.toList <:+: head.toList) : FirstKeyword catalog head path keyword

theorem find?_keyword_eq_some_iff (head keyword : String) (keywords : List String) :
    keywords.find? (Text.contains head) = some keyword ↔ keyword.toList <:+: head.toList ∧
      ∃ before after, keywords = before ++ keyword :: after ∧
        ∀ k ∈ before, ¬ k.toList <:+: head.toList := by
  simp only [List.find?_eq_some_iff_append, Bool.not_eq_true', ← Bool.not_eq_true,
    Text.contains_iff]

theorem find?_keyword_eq_none_iff (head : String) (rule : ResourceRule) :
    rule.keywords.find? (Text.contains head) = none ↔ ¬ Mentions head rule := by
  simp only [List.find?_eq_none, Text.contains_iff, Mentions, not_exists, not_and]

theorem resolve_eq_some_iff (catalog : Catalog) (head path keyword : String) :
    catalog.resolve head = some (path, keyword) ↔ FirstKeyword catalog head path keyword := by
  rw [Catalog.resolve, List.findSome?_eq_some_iff]
  constructor
  · rintro ⟨earlier, ⟨rulePath, keywords⟩, later, hrules, hfound, hearlier⟩
    simp only [Option.map_eq_some_iff, Prod.mk.injEq] at hfound
    obtain ⟨k, hk, rfl, rfl⟩ := hfound
    obtain ⟨hstands, before, after, rfl, hbefore⟩ := (find?_keyword_eq_some_iff _ _ _).mp hk
    refine .intro hrules (fun rule hrule => ?_) hbefore hstands
    exact (find?_keyword_eq_none_iff _ _).mp (Option.map_eq_none_iff.mp (hearlier rule hrule))
  · rintro ⟨hrules, hearlier, hbefore, hstands⟩
    refine ⟨_, _, _, hrules, ?_, fun rule hrule => ?_⟩
    · rw [(find?_keyword_eq_some_iff _ _ _).mpr ⟨hstands, _, _, rfl, hbefore⟩]
      rfl
    · rw [(find?_keyword_eq_none_iff _ _).mpr (hearlier rule hrule)]
      rfl

/-! ## The verb -/

theorem verbOf?_eq_search_iff (head : String) : verbOf? head (wordsOf head) = some .search ↔
    (∀ verb ∈ [.delete, .create, .update], ¬ Says head verb) ∧ Says head .search := by
  simp only [verbOf?, Verb.order, List.find?_cons_eq_some, Bool.not_eq_true', ← Bool.not_eq_true,
    says_iff]
  simp [and_assoc]

/-! ## The terms -/

/-- A word that may be looked for: no verb of a search, no stopword, and the keyword is not in it. -/
structure IsTerm (keyword word : String) : Prop where
  verb : word ∉ Verb.search.words
  stopword : word ∉ stopwords
  resource : ¬ keyword.toList <:+: word.toList

theorem isTerm_iff (keyword word : String) : isTerm keyword word = true ↔ IsTerm keyword word := by
  rw [isTerm, Bool.and_eq_true, Bool.and_eq_true, decide_eq_true_eq, decide_eq_true_eq,
    Bool.not_eq_true', ← Bool.not_eq_true, Text.contains_iff, and_assoc]
  exact ⟨fun ⟨hverb, hstop, hresource⟩ => ⟨hverb, hstop, hresource⟩,
    fun ⟨hverb, hstop, hresource⟩ => ⟨hverb, hstop, hresource⟩⟩

instance (keyword word : String) : Decidable (IsTerm keyword word) :=
  decidable_of_iff _ (isTerm_iff keyword word)

/-! ## What is found -/

structure Searches (catalog : Catalog) (head path keyword : String) : Prop where
  listing : ∀ phrase ∈ listingPhrases, ¬ phrase.toList <:+: head.toList
  resource : FirstKeyword catalog head path keyword
  first : ∀ verb ∈ [.delete, .create, .update], ¬ Says head verb
  verb : Says head .search

theorem searches_iff (catalog : Catalog) (head path keyword : String) :
    Searches catalog head path keyword ↔ listingPhrases.any (Text.contains head) = false ∧
      catalog.resolve head = some (path, keyword) ∧
      verbOf? head (wordsOf head) = some .search := by
  have hlisting : listingPhrases.any (Text.contains head) = false ↔
      ∀ phrase ∈ listingPhrases, ¬ phrase.toList <:+: head.toList := by
    simp only [List.any_eq_false, Text.contains_iff]
  rw [hlisting, resolve_eq_some_iff, verbOf?_eq_search_iff]
  exact ⟨fun ⟨hlisting, hresource, hfirst, hverb⟩ => ⟨hlisting, hresource, hfirst, hverb⟩,
    fun ⟨hlisting, hresource, hfirst, hverb⟩ => ⟨hlisting, hresource, hfirst, hverb⟩⟩

/-- The words of a text are its maximal alphanumeric runs, in order. -/
def AreWords (text : String) (words : List String) : Prop :=
  Text.Runs Text.isAlphanumeric text.toList (words.map String.toList)

theorem areWords_iff (text : String) (words : List String) :
    AreWords text words ↔ words = wordsOf text := by
  have hread : ∀ runs : List (List Char), (runs.map String.ofList).map String.toList = runs := by
    simp [Function.comp_def]
  rw [AreWords, Text.runs_iff, wordsOf, Text.words]
  constructor
  · intro h
    rw [h, List.map_map]
    simp [Function.comp_def]
  · rintro rfl
    rw [hread]

theorem alone_of_areWords {text word : String} {words : List String} (h : AreWords text words) :
    word ∈ words ↔ Text.Alone Text.isAlphanumeric word.toList text.toList := by
  rw [← Text.mem_runs_iff, (Text.runs_iff _ _ _).mp h]
  simp [String.toList_inj]

theorem areWords_intercalate {text : String} {words kept : List String} (h : AreWords text words)
    (hkept : kept ⊆ words) : AreWords (" ".intercalate kept) kept := by
  have hword : ∀ word ∈ kept.map String.toList,
      Text.Alone Text.isAlphanumeric word text.toList := by
    intro _ hmem
    obtain ⟨word, hword, rfl⟩ := List.mem_map.mp hmem
    exact (alone_of_areWords h).mp (hkept hword)
  rw [AreWords, String.toList_intercalate]
  exact .intercalate (by decide) (fun word hmem => (hword word hmem).nonempty)
    fun word hmem => (hword word hmem).inside

structure Keeps (keyword : String) (words : List String) (q : String) : Prop where
  joined : q = " ".intercalate (words.filter (IsTerm keyword ·))
  nonempty : q ≠ ""
  words : AreWords q (words.filter (IsTerm keyword ·))
  terms : ∀ word : String, Text.Alone Text.isAlphanumeric word.toList q.toList →
    IsTerm keyword word

theorem keeps_of_areWords {text keyword : String} {words : List String} (h : AreWords text words)
    (hne : words.filter (IsTerm keyword ·) ≠ []) :
    Keeps keyword words (" ".intercalate (words.filter (IsTerm keyword ·))) := by
  have hkept := areWords_intercalate h (List.filter_sublist (p := (IsTerm keyword ·))).subset
  refine ⟨rfl, ?_, hkept, ?_⟩
  · obtain ⟨word, hword⟩ := List.exists_mem_of_ne_nil _ hne
    intro hempty
    -- A word stands in what was joined, so that is not empty.
    have halone := (alone_of_areWords hkept).mp hword
    obtain ⟨hsome, -, before, after, htext, -⟩ := halone
    rw [hempty] at htext
    simp [hsome] at htext
  · intro word halone
    have hword := (alone_of_areWords hkept).mpr halone
    exact of_decide_eq_true (List.mem_filter.mp hword).2

/-- What a search among the words comes to: a call for all its terms, and without terms an error. -/
inductive Finds (path keyword : String) (words : List String) :
    Except Failure (Option Instruction) → Prop
  | nothing (message : String) (hnone : ∀ word ∈ words, ¬ IsTerm keyword word) :
      Finds path keyword words (.error (.malformed message))
  | call {q} (hsome : ∃ word ∈ words, IsTerm keyword word) (hkept : Keeps keyword words q) :
      Finds path keyword words
        (.ok (some (.of .get (normalPath (path ++ "/search")) (some (.obj [("q", .str q)])) none)))

theorem terms_eq_filter (keyword : String) (words : List String) :
    terms keyword words = words.filter (IsTerm keyword ·) := by
  simp only [terms, ← isTerm_iff, Bool.decide_eq_true]

theorem finds_search {text : String} {r : Reading} (h : AreWords text r.words) :
    Finds r.path r.keyword r.words ((search r).map some) := by
  unfold search
  split
  · rename_i hnil
    rw [terms_eq_filter, List.filter_eq_nil_iff] at hnil
    exact .nothing _ (by simpa using hnil)
  · rename_i hne
    rw [terms_eq_filter] at hne
    obtain ⟨word, hword⟩ := List.exists_mem_of_ne_nil _ hne
    rw [terms_eq_filter]
    exact .call ⟨word, by simpa using hword⟩ (keeps_of_areWords h hne)

theorem finds_of_searches {catalog : Catalog} {head path keyword : String}
    (h : Searches catalog head path keyword) (tail : List Char) :
    Finds path keyword (wordsOf head) (outcome catalog head tail) := by
  obtain ⟨hlisting, hresource, hverb⟩ := (searches_iff _ _ _ _).mp h
  have hwords : AreWords head (wordsOf head) := (areWords_iff _ _).mpr rfl
  simp only [outcome, hlisting, hresource, hverb, instruction]
  exact finds_search (r := ⟨path, keyword, _, numberOf? head, some .search, tail⟩) hwords

/-- A search keeps just the terms of its text. -/
theorem parse_search {catalog : Catalog} {input path keyword : String}
    (h : Searches catalog (headOf (Text.trimList input.toList)) path keyword) :
    ∃ words, (∀ found, AreWords (headOf (Text.trimList input.toList)) found ↔ found = words) ∧
      Finds path keyword words (parse catalog input) := by
  rw [parse_eq_outcome]
  exact ⟨_, areWords_iff _, finds_of_searches h _⟩

theorem parse_search_two : Searches .standard
      (headOf (Text.trimList "Cherche Dupont, le plombier, dans les clients \x7b12".toList))
      "/clients" "client" ∧
    ∃ words, (∀ found, AreWords
        (headOf (Text.trimList "Cherche Dupont, le plombier, dans les clients \x7b12".toList))
        found ↔ found = words) ∧
      Finds "/clients" "client" words
        (parse .standard "Cherche Dupont, le plombier, dans les clients \x7b12") := by
  have h : Searches .standard
      (headOf (Text.trimList "Cherche Dupont, le plombier, dans les clients \x7b12".toList))
      "/clients" "client" :=
    (searches_iff _ _ _ _).mpr ⟨by decide +kernel, by decide +kernel, by decide +kernel⟩
  exact ⟨h, parse_search h⟩

end YardConsole.Phrase
