import YardConsole.Command.Exact
import YardConsole.Proofs.Call.Path
import YardConsole.Proofs.Text.Casing

/-! # The shape of exact commands -/

namespace YardConsole.Exact

/-! ## Words -/

def IsToken (cs : List Char) : Prop := cs ≠ [] ∧ ∀ c ∈ cs, Text.isBlank c = false

def IsGap (cs : List Char) : Prop := cs ≠ [] ∧ ∀ c ∈ cs, Text.isBlank c = true

def IsBehind (cs : List Char) : Prop := ∀ c ∈ cs.head?, Text.isBlank c = true

theorem isBehind_nil : IsBehind [] := nofun

theorem isBehind_gap_append {gap : List Char} (hgap : IsGap gap) (cs : List Char) :
    IsBehind (gap ++ cs) := by
  intro c hc
  obtain ⟨x, gap, rfl⟩ := List.exists_cons_of_ne_nil hgap.1
  obtain rfl : x = c := by simpa using hc
  exact hgap.2 x (List.mem_cons_self ..)

theorem head_token_append {word : List Char} (hword : IsToken word) (cs : List Char) :
    ∀ c ∈ (word ++ cs).head?, Text.isBlank c = false := by
  intro c hc
  obtain ⟨x, word, rfl⟩ := List.exists_cons_of_ne_nil hword.1
  obtain rfl : x = c := by simpa using hc
  exact hword.2 x (List.mem_cons_self ..)

theorem splitWord_append {word rest : List Char} (hword : ∀ c ∈ word, Text.isBlank c = false)
    (hrest : IsBehind rest) : splitWord (word ++ rest) = (word, rest) := by
  have hstop : rest.takeWhile (!Text.isBlank ·) = [] ∧ rest.dropWhile (!Text.isBlank ·) = rest := by
    cases rest with
    | nil => exact ⟨rfl, rfl⟩
    | cons c rest => simp [hrest c (by simp)]
  have hin : ∀ c ∈ word, (!Text.isBlank c) = true := by simpa using hword
  rw [splitWord, List.takeWhile_append_of_pos hin, List.dropWhile_append_of_pos hin, hstop.1,
    hstop.2, List.append_nil]

theorem splitWord_spec (cs : List Char) :
    cs = (splitWord cs).1 ++ (splitWord cs).2 ∧ (∀ c ∈ (splitWord cs).1, Text.isBlank c = false) ∧
      IsBehind (splitWord cs).2 := by
  refine ⟨List.takeWhile_append_dropWhile.symm, ?_, ?_⟩
  · intro c hc
    simpa using List.mem_takeWhile_imp hc
  · intro c hc
    have hstops := Text.head_dropWhile (!Text.isBlank ·) cs c hc
    simpa using hstops

theorem trimStart_spec (cs : List Char) :
    ∃ gap, cs = gap ++ Text.trimStart cs ∧ ∀ c ∈ gap, Text.isBlank c = true :=
  ⟨cs.takeWhile Text.isBlank, List.takeWhile_append_dropWhile.symm,
    fun _ hc => List.mem_takeWhile_imp hc⟩

theorem trimStart_gap_append {gap cs : List Char} (hgap : ∀ c ∈ gap, Text.isBlank c = true)
    (hcs : ∀ c ∈ cs.head?, Text.isBlank c = false) : Text.trimStart (gap ++ cs) = cs := by
  rw [Text.trimStart, List.dropWhile_append_of_pos hgap]
  exact Text.trimStart_of_head hcs

theorem methodOf?_nil : methodOf? [] = none := by decide

theorem isCapital_name (m : Method) : ∀ d ∈ m.name.toList, Text.IsCapital d := by
  cases m <;> simp [Method.name, Text.IsCapital]

theorem upperChar_of_fold {c d : Char} (hd : Text.IsCapital d) (h : fold c = fold d) :
    Text.upperChar c = [d] := by
  have hfold : fold d = d.toLower := by
    refine if_neg ?_
    rintro rfl
    exact absurd hd (by decide)
  rw [hfold] at h
  by_cases hs : c = 'ſ'
  · subst hs
    obtain ⟨-, hd'⟩ := Text.toUpper_of_toLower_eq hd (show 's'.toLower = d.toLower from h)
    subst hd'
    decide
  · rw [fold, if_neg hs] at h
    obtain ⟨hascii, hupper⟩ := Text.toUpper_of_toLower_eq hd h
    unfold Text.upperChar
    rw [if_pos hascii, hupper]

theorem upperList_of_methodOf? {word : List Char} {m : Method} (h : methodOf? word = some m) :
    Text.upperList word = m.name.toList := by
  have hfold : word.map fold = m.name.toList.map fold := by
    simpa using List.find?_some h
  have hletters := isCapital_name m
  clear h
  -- Any capital letters do in place of the name, so they can be taken off one by one.
  generalize m.name.toList = name at hfold hletters
  induction word generalizing name with
  | nil =>
    obtain rfl : name = [] := by simpa using hfold.symm
    rfl
  | cons c word ih =>
    cases name with
    | nil => simp at hfold
    | cons d name =>
      simp only [List.map_cons, List.cons.injEq] at hfold
      rw [Text.upperList, List.flatMap_cons, upperChar_of_fold (hletters d (by simp)) hfold.1]
      exact congrArg (d :: ·) (ih name hfold.2 fun x hx => hletters x (by simp [hx]))

/-! ## Commands -/

/-- The text is a word for a method, a path, and what stands behind the path. -/
structure Shape (text : List Char) (m : Method) (path rest : List Char) : Prop where
  word : ∃ word gap, text = word ++ gap ++ path ++ rest ∧ IsToken word ∧ IsGap gap ∧
    methodOf? word = some m
  path : IsToken path
  rest : IsBehind rest

def meaning (m : Method) (path rest : List Char) : Except Failure (Option Instruction) :=
  let i := Instruction.new m (String.ofList path)
  match payload? rest with
  | none => .ok (some i)
  | some payload => (withPayloadText i payload).map some

theorem parseList_of_shape {text path rest : List Char} {m : Method}
    (h : Shape (Text.trimStart text) m path rest) : parseList text = meaning m path rest := by
  obtain ⟨⟨word, gap, htext, hword, hgap, hm⟩, hpath, hrest⟩ := h
  have hbehind : IsBehind (gap ++ (path ++ rest)) := isBehind_gap_append hgap _
  have hhead := head_token_append hpath rest
  have hsplit : splitWord (Text.trimStart text) = (word, gap ++ (path ++ rest)) := by
    rw [htext, List.append_assoc, List.append_assoc, splitWord_append hword.2 hbehind]
  have hnext : splitWord (Text.trimStart (gap ++ (path ++ rest))) = (path, rest) := by
    rw [trimStart_gap_append hgap.2 hhead, splitWord_append hpath.2 hrest]
  unfold parseList
  simp only [hsplit, hm, hnext]
  cases path with
  | nil => exact absurd rfl hpath.1
  | cons x path => rfl

theorem shape_or_none (text : List Char) :
    (∃ m path rest, Shape (Text.trimStart text) m path rest) ∨ parseList text = .ok none := by
  obtain ⟨htext, hword, hbehind⟩ := splitWord_spec (Text.trimStart text)
  revert htext hword hbehind
  unfold parseList
  generalize splitWord (Text.trimStart text) = first
  obtain ⟨word, behind⟩ := first
  intro htext hword hbehind
  cases hm : methodOf? word with
  | none => exact .inr (by simp only [hm])
  | some m =>
    obtain ⟨hnext, hpath, hrest⟩ := splitWord_spec (Text.trimStart behind)
    obtain ⟨gap, hgap, hblank⟩ := trimStart_spec behind
    revert hnext hpath hrest
    simp only
    generalize splitWord (Text.trimStart behind) = second
    obtain ⟨path, rest⟩ := second
    intro hnext hpath hrest
    cases path with
    | nil => exact .inr (by simp only [hm])
    | cons x path =>
      refine .inl ⟨m, x :: path, rest, ⟨word, gap, ?_, ⟨?_, hword⟩, ⟨?_, hblank⟩, hm⟩,
        ⟨by simp, hpath⟩, hrest⟩
      · rw [htext, hgap, hnext]
        simp
      · rintro rfl
        simp [methodOf?_nil] at hm
      · -- Without a gap the path would go on with the first word.
        rintro rfl
        have hx : Text.isBlank x = true := by
          refine hbehind x ?_
          rw [hgap, hnext]
          rfl
        rw [hpath x (List.mem_cons_self ..)] at hx
        cases hx

theorem meaning_ne_none (m : Method) (path rest : List Char) : meaning m path rest ≠ .ok none := by
  unfold meaning
  simp only
  split
  · simp
  · cases withPayloadText (.new m (String.ofList path)) _ <;> simp [Except.map]

theorem parseList_eq_none_iff (text : List Char) :
    parseList text = .ok none ↔ ∀ m path rest, ¬ Shape (Text.trimStart text) m path rest := by
  constructor
  · intro h m path rest hshape
    rw [parseList_of_shape hshape] at h
    exact meaning_ne_none m path rest h
  · intro h
    refine (shape_or_none text).resolve_left ?_
    rintro ⟨m, path, rest, hshape⟩
    exact h m path rest hshape

/-! ## What was asked -/

def Carries (i : Instruction) (rest : List Char) : Prop :=
  (rest = [] ∧ i.query = none ∧ i.body = none) ∨
    ∃ gap payload j, rest = gap ++ payload ∧ IsGap gap ∧ Json.read payload = .ok j ∧
      if i.method.asksOnly then i.query = some j ∧ i.body = none
      else i.query = none ∧ i.body = some j

/-- The first word is the name of the method, but for case, the second one the path, and what
stands behind that the payload. -/
def Asked (text : List Char) (i : Instruction) : Prop :=
  ∃ word gap path rest, text = word ++ gap ++ path ++ rest ∧ IsToken word ∧ IsGap gap ∧
    IsToken path ∧ IsBehind rest ∧ Text.upperList word = i.method.name.toList ∧
    i.path.toList = slashed path ∧ Carries i rest

theorem behind_cases {rest : List Char} (hrest : IsBehind rest)
    (hend : ∀ c ∈ rest.getLast?, Text.isBlank c = false) :
    rest = [] ∨ ∃ gap more, rest = gap ++ more ∧ IsGap gap ∧ more ≠ [] ∧ Text.Trimmed more := by
  obtain ⟨gap, hgap, hblank⟩ := trimStart_spec rest
  have hfirst := Text.head_trimStart rest
  generalize Text.trimStart rest = more at hgap hfirst
  subst hgap
  cases more with
  | nil =>
    left
    rw [List.append_nil] at hend ⊢
    rw [← List.getLast?_eq_none_iff, Option.eq_none_iff_forall_not_mem]
    intro c hc
    have hblank := hblank c (List.mem_of_getLast? hc)
    rw [hend c hc] at hblank
    cases hblank
  | cons x more =>
    refine .inr ⟨gap, x :: more, rfl, ⟨?_, hblank⟩, by simp, hfirst, fun c hc => hend c ?_⟩
    · rintro rfl
      have hx : Text.isBlank x = true := hrest x rfl
      rw [hfirst x rfl] at hx
      cases hx
    · rw [List.getLast?_append, Option.mem_def.mp hc]
      rfl

theorem payload?_gap_append {gap payload : List Char} (hgap : ∀ c ∈ gap, Text.isBlank c = true)
    (hne : payload ≠ []) (hpayload : Text.Trimmed payload) :
    payload? (gap ++ payload) = some payload := by
  rw [payload?, Text.trimList, trimStart_gap_append hgap hpayload.1,
    Text.trimEnd_of_getLast hpayload.2]
  cases payload with
  | nil => exact absurd rfl hne
  | cons c payload => rfl

theorem payload?_spec {rest : List Char} (hrest : IsBehind rest)
    (hend : ∀ c ∈ rest.getLast?, Text.isBlank c = false) :
    (rest = [] ∧ payload? rest = none) ∨
      ∃ gap payload, rest = gap ++ payload ∧ IsGap gap ∧ payload? rest = some payload := by
  rcases behind_cases hrest hend with rfl | ⟨gap, payload, rfl, hgap, hne, hpayload⟩
  · exact .inl ⟨rfl, rfl⟩
  · exact .inr ⟨gap, payload, rfl, hgap, payload?_gap_append hgap.2 hne hpayload⟩

theorem meaning_cases {m : Method} {path rest : List Char} {i : Instruction}
    (h : meaning m path rest = .ok (some i)) :
    (payload? rest = none ∧ i = .new m (String.ofList path)) ∨
      ∃ payload j, payload? rest = some payload ∧ Json.read payload = .ok j ∧
        i = (Instruction.new m (String.ofList path)).withPayload j := by
  unfold meaning at h
  cases hpayload : payload? rest with
  | none =>
    simp only [hpayload, Except.ok.injEq, Option.some.injEq] at h
    exact .inl ⟨rfl, h.symm⟩
  | some payload =>
    simp only [hpayload, withPayloadText] at h
    cases hread : Json.read payload with
    | error e => simp [hread, Except.map] at h
    | ok j =>
      simp only [hread, Except.map, Except.ok.injEq, Option.some.injEq] at h
      exact .inr ⟨payload, j, rfl, hread, h.symm⟩

theorem meaning_carries {m : Method} {path rest : List Char} {i : Instruction}
    (hrest : IsBehind rest) (hend : ∀ c ∈ rest.getLast?, Text.isBlank c = false)
    (h : meaning m path rest = .ok (some i)) :
    i.method = m ∧ i.path = normalPath (String.ofList path) ∧ Carries i rest := by
  rcases payload?_spec hrest hend with ⟨rfl, hnone⟩ | ⟨gap, payload, hsplit, hgap, hsome⟩
  · rcases meaning_cases h with ⟨-, rfl⟩ | ⟨payload, j, hsome, -, -⟩
    · exact ⟨rfl, rfl, .inl ⟨rfl, rfl, rfl⟩⟩
    · rw [hnone] at hsome
      cases hsome
  · rcases meaning_cases h with ⟨hnone, -⟩ | ⟨payload', j, hsome', hread, rfl⟩
    · rw [hsome] at hnone
      cases hnone
    · obtain rfl : payload = payload' := Option.some.inj (hsome.symm.trans hsome')
      refine ⟨Instruction.withPayload_method _ _, Instruction.withPayload_path _ _,
        .inr ⟨gap, payload, j, hsplit, hgap, hread, ?_⟩⟩
      rw [Instruction.withPayload_method]
      unfold Instruction.withPayload
      split
      · exact ⟨rfl, rfl⟩
      · exact ⟨rfl, rfl⟩

theorem asked_of_parseList {text : List Char} {i : Instruction} (htrim : Text.Trimmed text)
    (h : parseList text = .ok (some i)) : Asked text i := by
  rcases shape_or_none text with ⟨m, path, rest, hshape⟩ | hnone
  · rw [parseList_of_shape hshape] at h
    rw [Text.trimStart_of_head htrim.1] at hshape
    obtain ⟨⟨word, gap, htext, hword, hgap, hm⟩, hpath, hrest⟩ := hshape
    have hend : ∀ c ∈ rest.getLast?, Text.isBlank c = false := by
      intro c hc
      refine htrim.2 c ?_
      rw [htext]
      simp [List.getLast?_append, Option.mem_def.mp hc]
    obtain ⟨rfl, hnormal, hcarries⟩ := meaning_carries hrest hend h
    refine ⟨word, gap, path, rest, htext, hword, hgap, hpath, hrest, upperList_of_methodOf? hm,
      ?_, hcarries⟩
    rw [hnormal, toList_normalPath, String.toList_ofList, Text.trimList_of_solid hpath.2]
  · rw [hnone] at h
    cases h

end YardConsole.Exact
