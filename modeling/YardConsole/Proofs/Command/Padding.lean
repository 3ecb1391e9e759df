import YardConsole.Proofs.Command.Grammar
import YardConsole.Proofs.Json.Regular
import YardConsole.Proofs.Text.Blank

/-! # Blanks around exact commands

Blanks before a command do not matter, and neither do those behind it, but for one case: behind a
path alone, all blanks but the last set that one off as a payload.
-/

namespace YardConsole.Exact

/-! ## Shapes without the blanks at the end -/

theorem IsToken.getLast {path : List Char} (h : IsToken path) (before : List Char) :
    ∀ c ∈ (before ++ path).getLast?, Text.isBlank c = false := by
  intro c hc
  rw [List.getLast?_append_of_ne_nil before h.1] at hc
  exact h.2 c (List.mem_of_getLast? hc)

theorem Shape.trimEnd {text path rest : List Char} {m : Method} (h : Shape text m path rest) :
    Shape (Text.trimEnd text) m path (Text.trimEnd rest) := by
  obtain ⟨⟨word, gap, rfl, hwords⟩, hpath, hrest⟩ := h
  refine ⟨⟨word, gap, ?_, hwords⟩, hpath, fun c hc => hrest c (Text.head_trimEnd rest c hc)⟩
  exact Text.trimEnd_append (hpath.getLast (word ++ gap)) rest

theorem Shape.of_trimEnd {text path rest : List Char} {m : Method}
    (h : Shape (Text.trimEnd text) m path rest) : ∃ rest', Shape text m path rest' := by
  obtain ⟨⟨word, gap, htext, hwords⟩, hpath, hrest⟩ := h
  obtain ⟨tail, hsplit, htail⟩ := Text.exists_trimEnd text
  refine ⟨rest ++ tail, ⟨word, gap, ?_, hwords⟩, hpath, ?_⟩
  · rw [hsplit, htext]
    simp
  · intro c hc
    cases rest with
    | nil => exact htail c (List.mem_of_mem_head? hc)
    | cons x rest => exact hrest c hc

theorem parseList_trimList_of_shape {cs path rest : List Char} {m : Method}
    (h : Shape (Text.trimStart cs) m path rest) :
    parseList (Text.trimList cs) = meaning m path (Text.trimEnd rest) := by
  have hshape : Shape (Text.trimList cs) m path (Text.trimEnd rest) := h.trimEnd
  rw [← Text.trimStart_trimList] at hshape
  exact parseList_of_shape hshape

theorem parseList_trimList_of_none {cs : List Char}
    (h : ∀ m path rest, ¬ Shape (Text.trimStart cs) m path rest) :
    parseList (Text.trimList cs) = .ok none := by
  rw [parseList_eq_none_iff, Text.trimStart_trimList]
  intro m path rest hshape
  obtain ⟨rest', hshape'⟩ := hshape.of_trimEnd
  exact h m path rest' hshape'

/-! ## Payloads without the blanks at the end -/

theorem payload?_trimEnd_of_some {rest : List Char} (h : Text.trimList rest ≠ []) :
    payload? (Text.trimEnd rest) = payload? rest := by
  obtain ⟨gap, hgap, hblank⟩ := trimStart_spec rest
  have hend : Text.trimEnd rest = gap ++ Text.trimList rest := by
    obtain ⟨tail, htail, htailBlank⟩ := Text.exists_trimEnd (Text.trimStart rest)
    have hlast : ∀ c ∈ (gap ++ Text.trimList rest).getLast?, Text.isBlank c = false := by
      intro c hc
      rw [List.getLast?_append_of_ne_nil gap h] at hc
      exact (Text.trimmed_trimList rest).2 c hc
    calc Text.trimEnd rest
        = Text.trimEnd (gap ++ Text.trimList rest ++ tail) := by
          rw [List.append_assoc, Text.trimList, ← htail, ← hgap]
      _ = gap ++ Text.trimList rest ++ Text.trimEnd tail := Text.trimEnd_append hlast tail
      _ = gap ++ Text.trimList rest := by rw [Text.trimEnd_of_blank htailBlank, List.append_nil]
  rw [hend, payload?_gap_append hblank h (Text.trimmed_trimList rest), payload?_of_trim rfl h]

theorem payload?_of_long {tail : List Char} (hblank : ∀ c ∈ tail, Text.isBlank c = true)
    (hlong : 2 ≤ tail.length) :
    ∃ last, tail.getLast? = some last ∧ payload? tail = some [last] := by
  obtain rfl | ⟨before, last, rfl⟩ := List.eq_nil_or_concat' tail
  · exact absurd hlong (by decide)
  · refine ⟨last, List.getLast?_concat, ?_⟩
    rw [payload?_of_blank hblank, if_neg (by omega), List.length_append, List.length_singleton,
      Nat.add_sub_cancel, List.drop_left]

/-! ## Whole commands -/

/-- A method and a path alone, with blanks before them and `tail` behind. -/
structure Lone (text : List Char) (m : Method) (path tail : List Char) : Prop where
  words : ∃ lead word gap, text = lead ++ word ++ gap ++ path ++ tail ∧
    (∀ c ∈ lead, Text.isBlank c = true) ∧ Spelled word m.name.toList ∧ IsGap gap
  path : IsToken path
  tail : ∀ c ∈ tail, Text.isBlank c = true

theorem lone_iff (text : List Char) (m : Method) (path tail : List Char) :
    Lone text m path tail ↔
      Shape (Text.trimStart text) m path tail ∧ ∀ c ∈ tail, Text.isBlank c = true := by
  constructor
  · rintro ⟨⟨lead, word, gap, rfl, hlead, hword, hgap⟩, hpath, htail⟩
    have hm : methodOf? word = some m := (methodOf?_eq_some_iff word m).mpr hword
    have htoken : IsToken word := by
      refine ⟨?_, solid_of_spelled hword⟩
      rintro rfl
      rw [methodOf?_nil] at hm
      cases hm
    have hstart : Text.trimStart (lead ++ word ++ gap ++ path ++ tail) =
        word ++ gap ++ path ++ tail := by
      simp only [List.append_assoc]
      exact trimStart_gap_append hlead (head_token_append htoken _)
    rw [hstart]
    exact ⟨⟨⟨word, gap, rfl, htoken, hgap, hm⟩, hpath,
      fun c hc => htail c (List.mem_of_mem_head? hc)⟩, htail⟩
  · rintro ⟨⟨⟨word, gap, htext, -, hgap, hm⟩, hpath, -⟩, htail⟩
    obtain ⟨lead, hlead, hblank⟩ := trimStart_spec text
    refine ⟨⟨lead, word, gap, ?_, hblank, (methodOf?_eq_some_iff word m).mp hm, hgap⟩, hpath, htail⟩
    rw [hlead, htext]
    simp

theorem parseList_trimList {cs : List Char}
    (h : ∀ m path tail, Lone cs m path tail → tail.length ≤ 1) :
    parseList (Text.trimList cs) = parseList cs := by
  by_cases hsome : ∃ m path rest, Shape (Text.trimStart cs) m path rest
  · obtain ⟨m, path, rest, hshape⟩ := hsome
    have hpayload : payload? (Text.trimEnd rest) = payload? rest := by
      -- Behind the path there are blanks alone, or a payload that ends before them.
      by_cases htrim : Text.trimList rest = []
      · have hblank := (Text.trimList_eq_nil_iff rest).mp htrim
        have hshort := h m path rest ((lone_iff cs m path rest).mpr ⟨hshape, hblank⟩)
        rw [payload?_of_blank hblank, if_pos hshort, Text.trimEnd_of_blank hblank]
        rfl
      · exact payload?_trimEnd_of_some htrim
    rw [parseList_trimList_of_shape hshape, parseList_of_shape hshape, meaning, meaning, hpayload]
  · simp only [not_exists] at hsome
    rw [parseList_trimList_of_none hsome, (parseList_eq_none_iff cs).mpr hsome]

/-- Two blanks behind a path are enough for a payload, which then cannot be read. -/
theorem parseList_of_padded {cs path tail : List Char} {m : Method} (h : Lone cs m path tail)
    (hlong : 2 ≤ tail.length) :
    parseList (Text.trimList cs) = .ok (some (.of m (String.ofList (slashed path)) none none)) ∧
      ∃ last e, tail.getLast? = some last ∧ Json.read [last] = .error e ∧ parseList cs =
        .error (.malformed ("JSON " ++ payloadName m ++ " invalide: " ++ e.message)) := by
  obtain ⟨hshape, hblank⟩ := (lone_iff cs m path tail).mp h
  constructor
  · rw [parseList_trimList_of_shape hshape, Text.trimEnd_of_blank hblank, meaning,
      new_of_token h.path]
    rfl
  · obtain ⟨last, hlast, hpayload⟩ := payload?_of_long hblank hlong
    have hlastBlank : ∀ c ∈ [last], Text.isBlank c = true :=
      List.forall_mem_singleton.mpr (hblank last (List.mem_of_getLast? hlast))
    obtain ⟨e, he⟩ := Json.read_of_blank hlastBlank
    refine ⟨last, e, hlast, he, ?_⟩
    rw [parseList_of_shape hshape, meaning, hpayload]
    simp only [withPayloadText, he]
    rfl

/-- Blanks around a command do not matter, unless it is a method and a path alone with at least two
blanks behind them. Then the last blank is taken for a payload, and the command fails. -/
theorem parse_trim_iff (text : String) :
    (parse text = parse (Text.trim text) ↔
        ∀ m path tail, Lone text.toList m path tail → tail.length ≤ 1) ∧
      ∀ m path tail, Lone text.toList m path tail → 2 ≤ tail.length →
        parse (Text.trim text) = .ok (some (.of m (String.ofList (slashed path)) none none)) ∧
        ∃ last e, tail.getLast? = some last ∧ Json.read [last] = .error e ∧
          parse text =
            .error (.malformed ("JSON " ++ payloadName m ++ " invalide: " ++ e.message)) := by
  simp only [parse, Text.toList_trim]
  have hfails := fun m path tail (h : Lone text.toList m path tail) => parseList_of_padded h
  refine ⟨⟨?_, ?_⟩, hfails⟩
  · intro hsame m path tail hlone
    by_contra hlong
    obtain ⟨htrimmed, last, e, -, -, hfailed⟩ := hfails m path tail hlone (by omega)
    rw [hsame, htrimmed] at hfailed
    cases hfailed
  · intro h
    exact (parseList_trimList h).symm

theorem paddedCommand_fails :
    parse "GET /clients" = .ok (some (.of .get "/clients" none none)) ∧
      Text.trim "GET /clients  " = "GET /clients" ∧
      parse "GET /clients  " = .error (.malformed
        "JSON query invalide: EOF while parsing a value at line 1 column 1") := by
  refine ⟨by decide +kernel, by decide +kernel, by decide +kernel⟩

theorem paddedCommand_lone : Lone "GET /clients  ".toList .get "/clients".toList [' ', ' '] ∧
    parse (Text.trim "GET /clients  ") = .ok (some (.of .get "/clients" none none)) ∧
    ∃ e, Json.read [' '] = .error e ∧
      parse "GET /clients  " = .error (.malformed ("JSON query invalide: " ++ e.message)) := by
  have hword : Spelled "GET".toList Method.get.name.toList :=
    (methodOf?_eq_some_iff _ .get).mp (by decide)
  have hgap : IsGap [' '] := ⟨nofun, List.forall_mem_singleton.mpr (by decide)⟩
  have hpath : IsToken "/clients".toList := ⟨by decide, Text.forall_not_blank (by decide)⟩
  have hlone : Lone "GET /clients  ".toList .get "/clients".toList [' ', ' '] :=
    ⟨⟨[], "GET".toList, [' '], rfl, by simp, hword, hgap⟩, hpath, List.all_eq_true.mp (by decide)⟩
  obtain ⟨htrim, last, e, hlast, he, hfailed⟩ :=
    (parse_trim_iff "GET /clients  ").2 _ _ _ hlone (by decide)
  obtain rfl : ' ' = last := Option.some.inj hlast
  exact ⟨hlone, htrim, e, he, hfailed⟩

end YardConsole.Exact
