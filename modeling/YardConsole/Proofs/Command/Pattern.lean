import Mathlib.Data.List.Forall2
import YardConsole.Proofs.Command.Exact
import YardConsole.Proofs.Text.Pattern

/-! # The pattern of exact commands

An exact command is what one pattern takes. The words are split off without trying the ways of the
pattern, and come to the same.
-/

namespace YardConsole.Exact

/-! ## The pattern -/

/-- The ways to write a capital letter. Of those in the names of methods, the S has a third one. -/
def spellings : Char → List Char
  | 'S' => ['S', 's', 'ſ']
  | c => [c, c.toLower]

def letter (c : Char) : Pattern := .one fun x => decide (x ∈ spellings c)

def methodPattern (m : Method) : Pattern := .sequence (m.name.toList.map letter)

def anyMethod : Pattern :=
  .either (methodPattern .get) (.either (methodPattern .post)
    (.either (methodPattern .put) (methodPattern .delete)))

def isSolid (c : Char) : Bool := !Text.isBlank c

def payloadPattern : Pattern :=
  .andThen (.several Text.isBlank) (.group 3 (.severalLazy fun _ => true))

def commandPattern : Pattern := .sequence [
  .atStart, .greedy Text.isBlank, .group 1 anyMethod, .several Text.isBlank,
  .group 2 (.several isSolid), .optional payloadPattern, .greedy Text.isBlank, .atEnd]

def ofGroups (groups : List (Nat × List Char)) : Except Failure (Option Instruction) :=
  match (groups.lookup 1).bind fun word => Method.ofText? (String.ofList word) with
  | none => .ok none
  | some method =>
    match groups.lookup 2 with
    | none => .ok none
    | some path =>
      let i := Instruction.new method (String.ofList path)
      match groups.lookup 3 with
      | none => .ok (some i)
      | some payload => (withPayloadText i payload).map some

def parseByPattern (text : String) : Except Failure (Option Instruction) :=
  match commandPattern.search? none text.toList with
  | none => .ok none
  | some taken => ofGroups taken.groups

/-! ## Names of methods -/

/-- The word is the name but for the way its letters are written. -/
def Spelled (word name : List Char) : Prop := List.Forall₂ (fun c d => c ∈ spellings d) word name

theorem toNat_small {d : Char} (hd : Text.IsCapital d) : d.toLower.toNat = d.toNat + 32 :=
  (Text.toNat_toLower d).trans (if_pos hd)

theorem eq_or_eq_of_toLower_eq {c d : Char} (hd : Text.IsCapital d) (h : c.toLower = d.toLower) :
    c = d ∨ c = d.toLower := by
  have hnat := congrArg Char.toNat h
  rw [Text.toNat_toLower c, toNat_small hd] at hnat
  split at hnat
  · exact .inl (Char.toNat_inj.mp (by omega))
  · exact .inr (Char.toNat_inj.mp (hnat.trans (toNat_small hd).symm))

theorem toLower_toLower {d : Char} (hd : Text.IsCapital d) : d.toLower.toLower = d.toLower := by
  apply Text.toLower_of_isSmall
  unfold Text.IsSmall
  rw [toNat_small hd]
  unfold Text.IsCapital at hd
  omega

theorem mem_spellings_iff (c d : Char) :
    c ∈ spellings d ↔ c = d ∨ c = d.toLower ∨ d = 'S' ∧ c = 'ſ' := by
  have hlower : 'S'.toLower = 's' := by decide
  unfold spellings
  split
  · simp [hlower]
  · rename_i hd
    have hd : d ≠ 'S' := hd
    simp [hd]

theorem fold_eq_iff {c d : Char} (hd : Text.IsCapital d) : fold c = fold d ↔ c ∈ spellings d := by
  have hlong : d ≠ 'ſ' := by
    rintro rfl
    exact absurd hd (by decide)
  have hfold : fold d = d.toLower := if_neg hlong
  rw [mem_spellings_iff, hfold]
  by_cases hc : c = 'ſ'
  · subst hc
    have hsmall : 'ſ' ≠ d.toLower := by
      intro h
      have hnat := congrArg Char.toNat h
      rw [toNat_small hd] at hnat
      unfold Text.IsCapital at hd
      have hcode : 'ſ'.toNat = 383 := by decide
      omega
    have hlow : 's' = d.toLower ↔ d = 'S' := by
      constructor
      · intro h
        exact (Text.toUpper_of_toLower_eq hd (show 's'.toLower = d.toLower from h)).2.symm
      · rintro rfl
        decide
    rw [fold, if_pos rfl, hlow]
    simp [hlong.symm, hsmall]
  · rw [fold, if_neg hc]
    constructor
    · intro h
      rcases eq_or_eq_of_toLower_eq hd h with heq | heq
      · exact .inl heq
      · exact .inr (.inl heq)
    · rintro (rfl | rfl | ⟨-, hlast⟩)
      · rfl
      · exact toLower_toLower hd
      · exact absurd hlast hc

theorem map_fold_eq_iff {word name : List Char} (hname : ∀ d ∈ name, Text.IsCapital d) :
    word.map fold = name.map fold ↔ Spelled word name := by
  induction name generalizing word with
  | nil => rw [Spelled, List.forall₂_nil_right_iff, List.map_nil, List.map_eq_nil_iff]
  | cons d name ih =>
    have hd : Text.IsCapital d := hname d (List.mem_cons_self ..)
    have hrest : ∀ x ∈ name, Text.IsCapital x := fun x hx => hname x (List.mem_cons_of_mem d hx)
    cases word with
    | nil => exact ⟨nofun, nofun⟩
    | cons c word =>
      rw [Spelled, List.forall₂_cons, List.map_cons, List.map_cons, List.cons.injEq,
        fold_eq_iff hd, ih hrest, Spelled]

theorem methodOf?_eq_some_iff (word : List Char) (m : Method) :
    methodOf? word = some m ↔ Spelled word m.name.toList := by
  rw [← map_fold_eq_iff (isCapital_name m)]
  constructor
  · intro h
    simpa using List.find?_some h
  · intro h
    rw [methodOf?, h]
    cases m <;> decide

theorem solid_of_spelled {word : List Char} {m : Method} (h : Spelled word m.name.toList) :
    ∀ c ∈ word, Text.isBlank c = false := by
  have hletters : (m.name.toList.all fun d => (spellings d).all isSolid) = true := by
    cases m <;> decide
  simp only [List.all_eq_true, isSolid, Bool.not_eq_true'] at hletters
  intro c hc
  obtain ⟨i, hi, rfl⟩ := List.getElem_of_mem hc
  have hi' : i < m.name.toList.length := h.length_eq ▸ hi
  exact hletters _ (List.getElem_mem hi') _ (List.forall₂_iff_get.mp h |>.2 i hi hi')

section

variable {α : Type} (before : Option Char) (next : Taken → Option α)

theorem firstWay_letter {c d : Char} (hc : c ∈ spellings d) (cs : List Char) :
    (letter d).firstWay before (c :: cs) next = next ⟨[c], cs, []⟩ :=
  Pattern.firstWay_one before next (decide_eq_true hc)

theorem firstWay_letters {word name : List Char} (h : Spelled word name) (rest : List Char) :
    Pattern.firstWay (.sequence (name.map letter)) before (word ++ rest) next =
      next ⟨word, rest, []⟩ := by
  induction h generalizing before next with
  | nil => exact Pattern.firstWay_nothing before next
  | @cons c d word name hc _ ih =>
    rw [List.map_cons, Pattern.firstWay_sequence_cons, List.cons_append, firstWay_letter _ _ hc, ih]
    rfl

theorem spelled_of_firstWay {name cs : List Char} {x : α}
    (h : Pattern.firstWay (.sequence (name.map letter)) before cs next = some x) :
    ∃ word rest, cs = word ++ rest ∧ Spelled word name ∧ next ⟨word, rest, []⟩ = some x := by
  induction name generalizing before cs next with
  | nil => exact ⟨[], cs, rfl, .nil, (Pattern.firstWay_nothing before next).symm.trans h⟩
  | cons d name ih =>
    rw [List.map_cons, Pattern.firstWay_sequence_cons] at h
    cases cs with
    | nil => cases h
    | cons c cs =>
      by_cases hc : c ∈ spellings d
      · rw [firstWay_letter _ _ hc] at h
        obtain ⟨word, rest, rfl, hword, hx⟩ := ih _ _ h
        exact ⟨c :: word, rest, rfl, .cons hc hword, hx⟩
      · rw [letter, Pattern.firstWay_one_of_not _ _ (decide_eq_false hc)] at h
        cases h

end

/-! ## What stands behind the path -/

section

variable {α : Type} (before : Option Char)

def trailing : Pattern := .sequence [.greedy Text.isBlank, .atEnd]

theorem firstWay_trailing (cs : List Char) (next : Taken → Option α) :
    trailing.firstWay before cs next =
      if cs.all Text.isBlank then next ⟨cs, [], []⟩ else none := by
  have hend : ∀ t : Taken, (Pattern.firstWay (.sequence [.atEnd]) (t.text.getLast?.or before) t.rest
      fun u => next (t.append u)) = if t.rest.isEmpty then next (t.append (.none [])) else none := by
    intro t
    rw [Pattern.firstWay_sequence_cons, Pattern.firstWay_atEnd]
    cases hrest : t.rest with
    | nil => simp [Taken.append, Taken.none]
    | cons c rest => rfl
  rw [trailing, Pattern.firstWay_sequence_cons]
  simp only [hend]
  rw [Pattern.firstWay_greedy]
  · by_cases hblank : ∀ c ∈ cs, Text.isBlank c = true
    · have hall : cs.all Text.isBlank = true := List.all_eq_true.mpr hblank
      simp [hall, List.takeWhile_eq_self_iff.mpr hblank, List.dropWhile_eq_nil_iff.mpr hblank,
        Taken.append, Taken.none]
    · have hall : cs.all Text.isBlank = false := by
        rwa [← Bool.not_eq_true, List.all_eq_true]
      rw [← List.dropWhile_eq_nil_iff] at hblank
      simp [hall, hblank]
  · intro t c rest _ hrest _
    rw [hrest]
    rfl

theorem firstWay_payloadGroup {c : Char} {a b : List Char} (g : List (Nat × List Char) → α)
    (ha : ∀ x ∈ a.getLast?, Text.isBlank x = false) (hb : ∀ x ∈ b, Text.isBlank x = true) :
    (Pattern.group 3 (.severalLazy fun _ => true)).firstWay before (c :: (a ++ b)) (fun t =>
      if t.rest.all Text.isBlank then some (g t.groups) else none) = some (g [(3, c :: a)]) := by
  rw [Pattern.firstWay_group, Pattern.severalLazy, Pattern.firstWay_andThen,
    Pattern.firstWay_one _ _ rfl]
  exact Pattern.firstWay_lazy (some c) (fun u => g ((3, c :: u.text) :: u.groups)) ha hb

def payloadGroup (rest : List Char) : List (Nat × List Char) :=
  ((payload? rest).map fun payload => (3, payload)).toList

theorem payload?_of_trim {rest payload : List Char} (h : Text.trimList rest = payload)
    (hne : payload ≠ []) : payload? rest = some payload := by
  rw [payload?, h]
  cases payload with
  | nil => exact absurd rfl hne
  | cons c payload => rfl

theorem payload?_of_blank {rest : List Char} (h : ∀ c ∈ rest, Text.isBlank c = true) :
    payload? rest = if rest.length ≤ 1 then none else some (rest.drop (rest.length - 1)) := by
  rw [payload?, (Text.trimList_eq_nil_iff rest).mpr h]

theorem exists_payload {d : Char} (hd : Text.isBlank d = false) (ds : List Char) :
    ∃ a b, ds = a ++ b ∧ Text.trimEnd (d :: ds) = d :: a ∧
      (∀ x ∈ a.getLast?, Text.isBlank x = false) ∧ ∀ x ∈ b, Text.isBlank x = true := by
  have hsplit : (d :: ds).rdropWhile Text.isBlank ++ (d :: ds).rtakeWhile Text.isBlank = d :: ds :=
    List.rdropWhile_append_rtakeWhile
  rw [← Text.trimEnd_eq_rdropWhile] at hsplit
  have hlast := Text.getLast_trimEnd (d :: ds)
  cases hpayload : Text.trimEnd (d :: ds) with
  | nil =>
    rw [Text.trimEnd_eq_rdropWhile, List.rdropWhile_eq_nil_iff] at hpayload
    rw [hpayload d (List.mem_cons_self ..)] at hd
    cases hd
  | cons x a =>
    rw [hpayload, List.cons_append, List.cons.injEq] at hsplit
    obtain ⟨rfl, hds⟩ := hsplit
    refine ⟨a, _, hds.symm, rfl, ?_, fun y hy => ?_⟩
    · intro y hy
      refine hlast y ?_
      rw [hpayload, List.getLast?_cons, Option.mem_def.mp hy]
      rfl
    · exact List.mem_rtakeWhile_imp hy

/-- The first of the blanks before a payload is taken, then as many as leave something. -/
theorem firstWay_loaded {b : Char} {more : List Char} (hb : Text.isBlank b = true)
    (hmore : more ≠ []) (g : List (Nat × List Char) → α) :
    (payloadPattern.firstWay before (b :: more) fun t =>
      if t.rest.all Text.isBlank then some (g t.groups) else none) =
      some (g (payloadGroup (b :: more))) := by
  rw [payloadPattern, Pattern.firstWay_andThen, Pattern.firstWay_several, if_pos hb]
  have hstart : Text.trimStart (b :: more) = Text.trimStart more := by
    rw [Text.trimStart, List.dropWhile_cons_of_pos hb]
    rfl
  cases htrim : Text.trimStart more with
  | nil =>
    -- Of blanks alone, the last one is left for the payload.
    have hblank : ∀ c ∈ more, Text.isBlank c = true := List.dropWhile_eq_nil_iff.mp htrim
    obtain ⟨xs, last, rfl⟩ := List.eq_nil_or_concat' more |>.resolve_left hmore
    have hlast : Text.isBlank last = true := hblank last (by simp)
    have hxs : ∀ c ∈ xs, Text.isBlank c = true := fun c hc => hblank c (by simp [hc])
    have hfound : payload? (b :: (xs ++ [last])) = some [last] := by
      rw [payload?_of_blank (List.forall_mem_cons.mpr ⟨hb, hblank⟩)]
      simp
    rw [payloadGroup, hfound]
    refine Pattern.firstWay_greedy_concat _ _ hxs hlast rfl ?_
    exact firstWay_payloadGroup _ (fun groups => g groups) (a := []) (b := []) (by simp) (by simp)
  | cons d ds =>
    have hd : Text.isBlank d = false := Text.head_trimStart more d (by rw [htrim]; rfl)
    obtain ⟨x, y, rfl, hpayload, hx, hy⟩ := exists_payload hd ds
    have hfound : payload? (b :: more) = some (d :: x) :=
      payload?_of_trim (by rw [Text.trimList, hstart, htrim, hpayload]) (by simp)
    rw [payloadGroup, hfound]
    refine Pattern.firstWay_greedy_of_some _ _ ?_
    rw [Text.trimStart] at htrim
    rw [htrim]
    exact firstWay_payloadGroup _ (fun groups => g groups) hx hy

theorem firstWay_optional_payload {rest : List Char} (hrest : IsBehind rest)
    (g : List (Nat × List Char) → α) :
    (Pattern.firstWay (.optional payloadPattern) before rest fun t =>
      if t.rest.all Text.isBlank then some (g t.groups) else none) =
      some (g (payloadGroup rest)) := by
  rw [Pattern.firstWay_optional]
  cases rest with
  | nil => rfl
  | cons b more =>
    have hb : Text.isBlank b = true := hrest b rfl
    cases more with
    | nil =>
      have hnone : payloadGroup [b] = [] := by
        rw [payloadGroup, payload?_of_blank (List.forall_mem_singleton.mpr hb)]
        rfl
      have hnothing : (payloadPattern.firstWay before [b] fun t =>
          if t.rest.all Text.isBlank then some (g t.groups) else none) = none := by
        rw [payloadPattern, Pattern.firstWay_andThen, Pattern.firstWay_several, if_pos hb]
        rfl
      rw [hnothing, hnone]
      simp [Taken.none, hb]
    | cons c more =>
      rw [firstWay_loaded before hb (by simp)]
      rfl

theorem firstWay_behind {rest : List Char} (hrest : IsBehind rest)
    (g : List (Nat × List Char) → α) :
    (Pattern.firstWay (.sequence [.optional payloadPattern, .greedy Text.isBlank, .atEnd]) before
      rest fun t => some (g t.groups)) = some (g (payloadGroup rest)) := by
  rw [Pattern.firstWay_sequence_cons]
  have htrailing : ∀ t : Taken, (trailing.firstWay (t.text.getLast?.or before) t.rest fun u =>
      some (g (t.append u).groups)) = if t.rest.all Text.isBlank then some (g t.groups) else none := by
    intro t
    rw [firstWay_trailing]
    simp [Taken.append]
  rw [trailing] at htrailing
  simp only [htrailing]
  exact firstWay_optional_payload before hrest g

/-! ## The words -/

def pathGroups (cs : List Char) : Option (List (Nat × List Char)) :=
  match splitWord cs with
  | ([], _) => none
  | (path, rest) => some ((2, path) :: payloadGroup rest)

theorem pathGroups_of_blank {c : Char} (hc : Text.isBlank c = true) (cs : List Char) :
    pathGroups (c :: cs) = none := by
  simp [pathGroups, splitWord, hc]

theorem pathGroups_of_solid {c : Char} (hc : Text.isBlank c = false) (cs : List Char) :
    pathGroups (c :: cs) =
      some ((2, c :: (splitWord cs).1) :: payloadGroup (splitWord cs).2) := by
  simp [pathGroups, splitWord, hc]

theorem firstWay_path (cs : List Char) (g : List (Nat × List Char) → α) :
    (Pattern.firstWay (.sequence [.group 2 (.several isSolid), .optional payloadPattern,
      .greedy Text.isBlank, .atEnd]) before cs fun t => some (g t.groups)) =
      (pathGroups cs).map g := by
  rw [Pattern.firstWay_sequence_cons, Pattern.firstWay_group]
  cases cs with
  | nil => rfl
  | cons c cs =>
    rw [Pattern.firstWay_several]
    cases hc : Text.isBlank c with
    | true =>
      rw [pathGroups_of_blank hc, isSolid, hc]
      rfl
    | false =>
      obtain ⟨-, -, hbehind⟩ := splitWord_spec cs
      rw [pathGroups_of_solid hc, isSolid, hc]
      refine Pattern.firstWay_greedy_of_some _ _ ?_
      exact firstWay_behind _ hbehind fun groups => g ((2, c :: (splitWord cs).1) :: groups)

theorem firstWay_gap {behind : List Char} (hbehind : IsBehind behind)
    (g : List (Nat × List Char) → α) :
    (Pattern.firstWay (.sequence [.several Text.isBlank, .group 2 (.several isSolid),
      .optional payloadPattern, .greedy Text.isBlank, .atEnd]) before behind
      fun t => some (g t.groups)) = (pathGroups (Text.trimStart behind)).map g := by
  rw [Pattern.firstWay_sequence_cons]
  cases behind with
  | nil => rfl
  | cons b more =>
    have hb : Text.isBlank b = true := hbehind b rfl
    have hstart : Text.trimStart (b :: more) = more.dropWhile Text.isBlank := by
      rw [Text.trimStart, List.dropWhile_cons_of_pos hb]
    rw [Pattern.firstWay_several, if_pos hb, Pattern.firstWay_greedy, hstart]
    · exact firstWay_path _ _ g
    · intro t c rest _ hrest hc
      have hnone := firstWay_path ((t.cons b).text.getLast?.or before) t.rest
        fun groups => g (t.groups ++ groups)
      rw [hrest, pathGroups_of_blank hc, ← hrest] at hnone
      exact hnone

/-- The words of a command are not taken apart: a word that is only begun by a name is none. -/
theorem firstWay_methodPattern (m : Method) (cs : List Char) (next : Taken → Option α)
    (hnext : ∀ t : Taken, ¬ IsBehind t.rest → next t = none) :
    (methodPattern m).firstWay before cs next =
      if methodOf? (splitWord cs).1 = some m then next ⟨(splitWord cs).1, (splitWord cs).2, []⟩
      else none := by
  split
  · rename_i hm
    have hspelled := (methodOf?_eq_some_iff _ m).mp hm
    conv => lhs; rw [(splitWord_spec cs).1]
    exact firstWay_letters before next hspelled _
  · rename_i hm
    rw [Option.eq_none_iff_forall_ne_some]
    intro x hx
    obtain ⟨word, rest, rfl, hspelled, hsome⟩ := spelled_of_firstWay before next hx
    have hbehind : IsBehind rest := by
      by_contra hbehind
      rw [hnext _ hbehind] at hsome
      cases hsome
    rw [splitWord_append (solid_of_spelled hspelled) hbehind] at hm
    exact hm ((methodOf?_eq_some_iff word m).mpr hspelled)

/-- At most one of the names is the word, so their order does not matter. -/
theorem firstWay_anyMethod (cs : List Char) (next : Taken → Option α)
    (hnext : ∀ t : Taken, ¬ IsBehind t.rest → next t = none) :
    anyMethod.firstWay before cs next =
      if (methodOf? (splitWord cs).1).isSome then next ⟨(splitWord cs).1, (splitWord cs).2, []⟩
      else none := by
  simp only [anyMethod, Pattern.firstWay_either, firstWay_methodPattern before _ cs next hnext]
  cases methodOf? (splitWord cs).1 with
  | none => rfl
  | some m => cases m <;> simp

def wordGroups (cs : List Char) : Option (List (Nat × List Char)) :=
  if (methodOf? (splitWord cs).1).isSome then
    (pathGroups (Text.trimStart (splitWord cs).2)).map ((1, (splitWord cs).1) :: ·)
  else none

theorem wordGroups_of_blank {c : Char} (hc : Text.isBlank c = true) (cs : List Char) :
    wordGroups (c :: cs) = none := by
  have hword : splitWord (c :: cs) = ([], c :: cs) := by simp [splitWord, hc]
  rw [wordGroups, hword, methodOf?_nil]
  rfl

theorem firstWay_word (cs : List Char) (g : List (Nat × List Char) → α) :
    (Pattern.firstWay (.sequence [.group 1 anyMethod, .several Text.isBlank,
      .group 2 (.several isSolid), .optional payloadPattern, .greedy Text.isBlank, .atEnd]) before cs
      fun t => some (g t.groups)) = (wordGroups cs).map g := by
  rw [Pattern.firstWay_sequence_cons, Pattern.firstWay_group, firstWay_anyMethod]
  · rw [wordGroups]
    split
    · rw [Option.map_map]
      exact firstWay_gap _ (splitWord_spec cs).2.2 fun groups => g ((1, (splitWord cs).1) :: groups)
    · rfl
  · intro t hbehind
    rw [Pattern.firstWay_sequence_cons, Taken.group]
    cases hrest : t.rest with
    | nil => rfl
    | cons c rest =>
      have hc : Text.isBlank c = false := by
        rw [← Bool.not_eq_true]
        intro hc
        apply hbehind
        rw [hrest]
        rintro d ⟨⟩
        exact hc
      rw [Pattern.firstWay_several, hc]
      rfl

theorem firstWay_command (cs : List Char) (g : List (Nat × List Char) → α) :
    (Pattern.firstWay (.sequence [.greedy Text.isBlank, .group 1 anyMethod, .several Text.isBlank,
      .group 2 (.several isSolid), .optional payloadPattern, .greedy Text.isBlank, .atEnd]) before cs
      fun t => some (g t.groups)) = (wordGroups (Text.trimStart cs)).map g := by
  rw [Pattern.firstWay_sequence_cons, Pattern.firstWay_greedy]
  · exact firstWay_word _ _ g
  · intro t c rest _ hrest hc
    have hnone := firstWay_word (t.text.getLast?.or before) t.rest
      fun groups => g (t.groups ++ groups)
    rw [hrest, wordGroups_of_blank hc, ← hrest] at hnone
    exact hnone

end

theorem groups_search? (cs : List Char) :
    (commandPattern.search? none cs).map (·.groups) = wordGroups (Text.trimStart cs) := by
  rw [commandPattern, Pattern.search?_atStart]
  have hgroups := firstWay_command none cs id
  rw [Option.map_id_apply] at hgroups
  rw [← hgroups]
  unfold Pattern.firstWay
  rw [List.map_findSome?]
  rfl

/-! ## The instruction -/

/-- The case rules of names know every word that the pattern takes for one. -/
theorem ofText?_of_spelled {word : List Char} {m : Method} (h : Spelled word m.name.toList) :
    Method.ofText? (String.ofList word) = some m := by
  have hupper : Text.upperList (Text.trimList (String.ofList word).toList) = m.name.toList := by
    rw [String.toList_ofList, Text.trimList_of_solid (solid_of_spelled h)]
    exact upperList_of_methodOf? ((methodOf?_eq_some_iff word m).mpr h)
  rw [Method.ofText?, hupper]
  cases m <;> decide

theorem ofGroups_pathGroups {word path rest : List Char} {m : Method}
    (h : Spelled word m.name.toList) :
    ofGroups ((1, word) :: (2, path) :: payloadGroup rest) = meaning m path rest := by
  have hword : (List.lookup 1 ((1, word) :: (2, path) :: payloadGroup rest)).bind
      (fun word => Method.ofText? (String.ofList word)) = some m := ofText?_of_spelled h
  have hpath : List.lookup 2 ((1, word) :: (2, path) :: payloadGroup rest) = some path := rfl
  have hpayload : List.lookup 3 ((1, word) :: (2, path) :: payloadGroup rest) = payload? rest := by
    rw [payloadGroup]
    cases payload? rest <;> rfl
  rw [ofGroups, hword, hpath, hpayload]
  rfl

theorem parse_eq_parseByPattern (text : String) : parse text = parseByPattern text := by
  have hgroups := groups_search? text.toList
  have hpattern : parseByPattern text =
      match wordGroups (Text.trimStart text.toList) with
      | none => .ok none
      | some groups => ofGroups groups := by
    rw [← hgroups, parseByPattern]
    cases commandPattern.search? none text.toList <;> rfl
  rw [hpattern, parse, parseList, wordGroups]
  cases hm : methodOf? (splitWord (Text.trimStart text.toList)).1 with
  | none => simp only [hm, Option.isSome_none, Bool.false_eq_true, if_false]
  | some m =>
    simp only [hm, Option.isSome_some, if_true, pathGroups]
    have hspelled := (methodOf?_eq_some_iff _ m).mp hm
    cases hpath : splitWord (Text.trimStart (splitWord (Text.trimStart text.toList)).2) with
    | mk path rest =>
      cases path with
      | nil => rfl
      | cons c path => exact (ofGroups_pathGroups hspelled).symm

end YardConsole.Exact
