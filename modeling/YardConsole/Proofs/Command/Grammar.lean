import YardConsole.Proofs.Command.Pattern

/-! # The grammar of exact commands

A text is split at its first two gaps. What it comes to depends on the three parts alone.
-/

namespace YardConsole.Exact

/-! ## The parts of a text -/

/-- The first word of a text, the second one, and all that stands behind the gap after it. -/
inductive Parts : (text word : List Char) → (path payload : Option (List Char)) → Prop
  | one {word : List Char} (hword : ∀ c ∈ word, Text.isBlank c = false) : Parts word word none none
  | two {word gap path : List Char} (hword : IsToken word) (hgap : IsGap gap)
      (hpath : IsToken path) : Parts (word ++ gap ++ path) word (some path) none
  | three {word gap path gap' payload : List Char} (hword : IsToken word) (hgap : IsGap gap)
      (hpath : IsToken path) (hgap' : IsGap gap') (hpayload : payload ≠ [])
      (hfirst : ∀ c ∈ payload.head?, Text.isBlank c = false) :
      Parts (word ++ gap ++ path ++ gap' ++ payload) word (some path) (some payload)

theorem isToken_splitWord {cs : List Char} (hne : cs ≠ [])
    (hfirst : ∀ c ∈ cs.head?, Text.isBlank c = false) : IsToken (splitWord cs).1 := by
  refine ⟨?_, (splitWord_spec cs).2.1⟩
  obtain ⟨c, cs, rfl⟩ := List.exists_cons_of_ne_nil hne
  simp [splitWord, hfirst c rfl]

theorem getLast?_append_right {cs ds : List Char} {p : Char → Bool}
    (h : ∀ c ∈ (cs ++ ds).getLast?, p c = false) : ∀ c ∈ ds.getLast?, p c = false := by
  intro c hc
  refine h c ?_
  rw [List.getLast?_append, Option.mem_def.mp hc]
  rfl

theorem exists_parts {text : List Char} (htext : Text.Trimmed text) :
    ∃ word path payload, Parts text word path payload := by
  obtain ⟨hsplit, hsolid, hbehind⟩ := splitWord_spec text
  have hend := htext.2
  rw [hsplit] at hend
  rcases behind_cases hbehind (getLast?_append_right hend) with
    hnil | ⟨gap, more, hrest, hgap, hne, hmore⟩
  · rw [hnil, List.append_nil] at hsplit
    rw [hsplit]
    exact ⟨_, _, _, .one hsolid⟩
  · have hword : IsToken (splitWord text).1 := by
      refine isToken_splitWord ?_ htext.1
      rintro rfl
      exact hgap.1 (List.append_eq_nil_iff.mp hrest.symm).1
    have hpath := isToken_splitWord hne hmore.1
    obtain ⟨hsplit', -, hbehind'⟩ := splitWord_spec more
    have hend' := hmore.2
    rw [hsplit'] at hend'
    rcases behind_cases hbehind' (getLast?_append_right hend') with
      hnil | ⟨gap', payload, hrest', hgap', hne', hpayload⟩
    · rw [hnil, List.append_nil] at hsplit'
      rw [hsplit, hrest, hsplit', ← List.append_assoc]
      exact ⟨_, _, _, .two hword hgap hpath⟩
    · rw [hsplit, hrest, hsplit', hrest', ← List.append_assoc, ← List.append_assoc,
        ← List.append_assoc]
      exact ⟨_, _, _, .three hword hgap hpath hgap' hne' hpayload.1⟩

/-! ## What the parts come to -/

/-- A method is named as the pattern compares it, and a payload is there even if it is null. -/
inductive Means : (word : List Char) → (path payload : Option (List Char)) →
    Except Failure (Option Instruction) → Prop
  | lone {word : List Char} {payload : Option (List Char)} : Means word none payload (.ok none)
  | foreign {word : List Char} {path payload : Option (List Char)}
      (hword : ∀ m : Method, ¬ Spelled word m.name.toList) : Means word path payload (.ok none)
  | bare {word path : List Char} {m : Method} (hword : Spelled word m.name.toList) :
      Means word (some path) none (.ok (some (.of m (String.ofList (slashed path)) none none)))
  | asking {word path payload : List Char} {m : Method} {j : Json}
      (hword : Spelled word m.name.toList) (hm : m = .get ∨ m = .delete)
      (hread : Json.read payload = .ok j) : Means word (some path) (some payload)
        (.ok (some (.of m (String.ofList (slashed path)) (some j) none)))
  | sending {word path payload : List Char} {m : Method} {j : Json}
      (hword : Spelled word m.name.toList) (hm : m = .post ∨ m = .put)
      (hread : Json.read payload = .ok j) : Means word (some path) (some payload)
        (.ok (some (.of m (String.ofList (slashed path)) none (some j))))
  | broken {word path payload : List Char} {m : Method} {e : Json.ReadError}
      (hword : Spelled word m.name.toList) (hread : Json.read payload = .error e) :
      Means word (some path) (some payload)
        (.error (.malformed ("JSON " ++ payloadName m ++ " invalide: " ++ e.message)))

theorem exists_means (word : List Char) (path payload : Option (List Char)) :
    ∃ r, Means word path payload r := by
  cases path with
  | none => exact ⟨_, .lone⟩
  | some path =>
    by_cases hword : ∃ m : Method, Spelled word m.name.toList
    · obtain ⟨m, hm⟩ := hword
      cases payload with
      | none => exact ⟨_, .bare hm⟩
      | some payload =>
        cases hread : Json.read payload with
        | error e => exact ⟨_, .broken hm hread⟩
        | ok j =>
          cases m with
          | get => exact ⟨_, .asking hm (.inl rfl) hread⟩
          | post => exact ⟨_, .sending hm (.inl rfl) hread⟩
          | put => exact ⟨_, .sending hm (.inr rfl) hread⟩
          | delete => exact ⟨_, .asking hm (.inr rfl) hread⟩
    · exact ⟨_, .foreign (not_exists.mp hword)⟩

/-! ## Reading -/

theorem Parts.split {text word : List Char} {path payload : Option (List Char)}
    (h : Parts text word path payload) :
    ∃ rest, text = word ++ rest ∧ (∀ c ∈ word, Text.isBlank c = false) ∧ IsBehind rest := by
  cases h with
  | one hword => exact ⟨[], (List.append_nil _).symm, hword, isBehind_nil⟩
  | two hword hgap hpath =>
    exact ⟨_, List.append_assoc .., hword.2, isBehind_gap_append hgap _⟩
  | @three word gap path gap' payload hword hgap =>
    refine ⟨gap ++ (path ++ (gap' ++ payload)), ?_, hword.2, isBehind_gap_append hgap _⟩
    simp only [List.append_assoc]

theorem parseList_of_foreign {text word : List Char} {path payload : Option (List Char)}
    (htext : Text.Trimmed text) (hparts : Parts text word path payload)
    (hword : ∀ m : Method, ¬ Spelled word m.name.toList) : parseList text = .ok none := by
  have hmethod : methodOf? word = none := by
    rw [Option.eq_none_iff_forall_ne_some]
    exact fun m hm => hword m ((methodOf?_eq_some_iff word m).mp hm)
  obtain ⟨rest, rfl, hsolid, hrest⟩ := hparts.split
  rw [parseList, Text.trimStart_of_head htext.1, splitWord_append hsolid hrest]
  simp only [hmethod]

theorem parseList_of_lone {word : List Char} (hword : ∀ c ∈ word, Text.isBlank c = false) :
    parseList word = .ok none := by
  have hsplit : splitWord word = (word, []) := by
    simpa using splitWord_append hword isBehind_nil
  rw [parseList, Text.trimStart_of_head (Text.trimmed_of_solid hword).1, hsplit]
  simp only
  cases methodOf? word <;> rfl

theorem new_of_token {path : List Char} (hpath : IsToken path) (m : Method) :
    Instruction.new m (String.ofList path) = .of m (String.ofList (slashed path)) none none := by
  have hnormal : normalPath (String.ofList path) = String.ofList (slashed path) := by
    apply String.toList_injective
    rw [toList_normalPath, String.toList_ofList, String.toList_ofList,
      Text.trimList_of_solid hpath.2]
  rw [Instruction.new_eq, hnormal]

theorem parseList_of_two {word gap path : List Char} {m : Method} (hword : IsToken word)
    (hgap : IsGap gap) (hpath : IsToken path) (hm : Spelled word m.name.toList)
    (htext : Text.Trimmed (word ++ gap ++ path)) : parseList (word ++ gap ++ path) =
      .ok (some (.of m (String.ofList (slashed path)) none none)) := by
  have hshape : Shape (word ++ gap ++ path) m path [] :=
    ⟨⟨word, gap, (List.append_nil _).symm, hword, hgap, (methodOf?_eq_some_iff word m).mpr hm⟩,
      hpath, isBehind_nil⟩
  rw [← Text.trimStart_of_head htext.1] at hshape
  rw [parseList_of_shape hshape, meaning, new_of_token hpath]
  rfl

theorem parseList_of_three {word gap path gap' payload : List Char} {m : Method}
    (hword : IsToken word) (hgap : IsGap gap) (hpath : IsToken path) (hgap' : IsGap gap')
    (hpayload : payload ≠ []) (hfirst : ∀ c ∈ payload.head?, Text.isBlank c = false)
    (hm : Spelled word m.name.toList) (htext : Text.Trimmed (word ++ gap ++ path ++ gap' ++ payload)) :
    parseList (word ++ gap ++ path ++ gap' ++ payload) =
      (withPayloadText (.of m (String.ofList (slashed path)) none none) payload).map some := by
  have htrim : Text.Trimmed payload := ⟨hfirst, getLast?_append_right htext.2⟩
  have hshape : Shape (word ++ gap ++ path ++ gap' ++ payload) m path (gap' ++ payload) :=
    ⟨⟨word, gap, List.append_assoc .., hword, hgap, (methodOf?_eq_some_iff word m).mpr hm⟩,
      hpath, isBehind_gap_append hgap' payload⟩
  rw [← Text.trimStart_of_head htext.1] at hshape
  rw [parseList_of_shape hshape, meaning, new_of_token hpath]
  simp only [payload?_gap_append hgap'.2 hpayload htrim]

theorem parseList_of_means {text word : List Char} {path payload : Option (List Char)}
    {r : Except Failure (Option Instruction)} (htext : Text.Trimmed text)
    (hparts : Parts text word path payload) (h : Means word path payload r) :
    parseList text = r := by
  cases h with
  | lone =>
    cases hparts with
    | one hword => exact parseList_of_lone hword
  | foreign hword => exact parseList_of_foreign htext hparts hword
  | bare hm =>
    cases hparts with
    | two hword hgap hpath => exact parseList_of_two hword hgap hpath hm htext
  | asking hm hasks hread =>
    cases hparts with
    | three hword hgap hpath hgap' hpayload hfirst =>
      rw [parseList_of_three hword hgap hpath hgap' hpayload hfirst hm htext]
      rcases hasks with rfl | rfl <;> simp only [withPayloadText, hread] <;> rfl
  | sending hm hsends hread =>
    cases hparts with
    | three hword hgap hpath hgap' hpayload hfirst =>
      rw [parseList_of_three hword hgap hpath hgap' hpayload hfirst hm htext]
      rcases hsends with rfl | rfl <;> simp only [withPayloadText, hread] <;> rfl
  | broken hm hread =>
    cases hparts with
    | three hword hgap hpath hgap' hpayload hfirst =>
      rw [parseList_of_three hword hgap hpath hgap' hpayload hfirst hm htext]
      simp only [withPayloadText, hread]
      rfl

theorem parseList_eq_iff_means {text word : List Char} {path payload : Option (List Char)}
    (htext : Text.Trimmed text) (hparts : Parts text word path payload)
    (r : Except Failure (Option Instruction)) : parseList text = r ↔ Means word path payload r := by
  obtain ⟨r', hr'⟩ := exists_means word path payload
  have heq := parseList_of_means htext hparts hr'
  constructor
  · rintro rfl
    rwa [heq]
  · exact parseList_of_means htext hparts

theorem means_none_iff (word : List Char) (path payload : Option (List Char)) :
    Means word path payload (.ok none) ↔
      path = none ∨ ∀ m : Method, ¬ Spelled word m.name.toList := by
  constructor
  · intro h
    cases h with
    | lone => exact .inl rfl
    | foreign hword => exact .inr hword
  · rintro (rfl | hword)
    · exact .lone
    · exact .foreign hword

/-- A trimmed text comes to what its parts mean, and its pattern takes the same. -/
theorem parse_accepts_grammar (text : String) (htext : Text.Trimmed text.toList) :
    (∃ word path payload, Parts text.toList word path payload) ∧
      ∀ word path payload, Parts text.toList word path payload →
        (parse text = .ok none ↔ path = none ∨ ∀ m : Method, ¬ Spelled word m.name.toList) ∧
        (∀ r, parse text = r ↔ Means word path payload r) ∧
        (∀ m : Method, Spelled word m.name.toList →
          Method.ofText? (String.ofList word) = some m) ∧
        parse text = parseByPattern text := by
  refine ⟨exists_parts htext, fun word path payload hparts => ?_⟩
  have hmeans := parseList_eq_iff_means htext hparts
  exact ⟨(hmeans _).trans (means_none_iff word path payload), hmeans,
    fun m => ofText?_of_spelled, parse_eq_parseByPattern text⟩

theorem parse_accepts_longS : Text.Trimmed "poſt clients null".toList ∧
    parse "poſt clients null" = .ok (some (.of .post "/clients" none (some .null))) := by
  have htext : Text.Trimmed "poſt clients null".toList := by
    have htrimmed := Text.trimmed_trimList "poſt clients null".toList
    rwa [show Text.trimList "poſt clients null".toList = "poſt clients null".toList by decide]
      at htrimmed
  have hgap : IsGap [' '] := ⟨nofun, List.forall_mem_singleton.mpr (by decide)⟩
  have hword : IsToken "poſt".toList := ⟨by decide, Text.forall_not_blank (by decide)⟩
  have hpath : IsToken "clients".toList := ⟨by decide, Text.forall_not_blank (by decide)⟩
  have hpayload : IsToken "null".toList := ⟨by decide, Text.forall_not_blank (by decide)⟩
  have hparts : Parts "poſt clients null".toList "poſt".toList (some "clients".toList)
      (some "null".toList) :=
    .three hword hgap hpath hgap hpayload.1 (Text.trimmed_of_solid hpayload.2).1
  have hspelled : Spelled "poſt".toList Method.post.name.toList :=
    (methodOf?_eq_some_iff _ .post).mp (by decide)
  obtain ⟨-, hmeans, -⟩ := (parse_accepts_grammar "poſt clients null" htext).2 _ _ _ hparts
  exact ⟨htext, (hmeans _).mpr (.sending hspelled (.inl rfl) (by rfl))⟩

end YardConsole.Exact
