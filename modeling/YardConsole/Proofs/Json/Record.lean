import YardConsole.Proofs.Json.Part
import YardConsole.Proofs.Json.RoundTrip

/-! # The texts of records

What a record is read from, over the texts of its fields: an object with its members in any order,
or a list of its first fields.
-/

namespace YardConsole.Json

variable {α σ : Type}

/-! ## Members -/

namespace Record

variable {r : Record σ α} {P : String → σ → List Char → σ → Prop}

/-- What a member adds: a field that is new, or nothing. -/
inductive PartText (r : Record σ α) (P : String → σ → List Char → σ → Prop) (key : String)
    (a : σ) : List Char → σ → Prop
  | known {field c b} (hfield : r.fields.find? (·.name == key) = some field)
      (hnew : field.isRead a = false) (hc : P key a c b) : PartText r P key a c b
  | unknown {c} (hfield : r.fields.find? (·.name == key) = none) (hc : Loose c) :
      PartText r P key a c a

theorem member_reads {depth : Nat}
    (hP : ∀ field ∈ r.fields, ∀ a, Reads (field.read depth a) (P field.name a)) :
    ReadsMember (r.member depth) (KeyText (PartText r P)) where
  sound key a s b rest hread := by
    unfold member at hread
    split at hread
    · rename_i field hfield
      obtain rfl : field.name = key := by simpa using List.find?_some hfield
      split at hread
      · split at hread <;> cases hread
      · rename_i hnew
        split at hread
        · rename_i rest' hcolon
          obtain ⟨sp, rfl, hsp⟩ := spaces_of_colon hcolon
          have hreads := hP field (List.mem_of_find?_eq_some hfield) a
          obtain ⟨sp', c, rfl, hsp', hc⟩ := hreads.sound _ _ _ hread
          refine ⟨sp ++ ':' :: (sp' ++ c), by simp, .colon hsp hsp' ?_⟩
          exact .known hfield (Bool.eq_false_iff.mpr hnew) hc
        · cases hread
    · rename_i hfield
      split at hread
      · rename_i rest' hcolon
        obtain ⟨sp, rfl, hsp⟩ := spaces_of_colon hcolon
        obtain ⟨rest'', hskip, heq⟩ := map_eq_ok hread
        cases heq
        obtain ⟨sp', c, rfl, hsp', hc⟩ := skipValue_skips.sound _ _ hskip
        exact ⟨sp ++ ':' :: (sp' ++ c), by simp, .colon hsp hsp' (.unknown hfield hc)⟩
      · cases hread
  takes key a c b hc rest hrest := by
    cases hc with
    | @colon sp sp' c b hsp hsp' hc =>
      have htext : sp ++ ':' :: (sp' ++ c) ++ rest = sp ++ ':' :: (sp' ++ (c ++ rest)) := by simp
      unfold member
      rw [htext]
      cases hc with
      | @known field c b hfield hnew hc =>
        obtain rfl : field.name = key := by simpa using List.find?_some hfield
        have hreads := hP field (List.mem_of_find?_eq_some hfield) a
        simp only [hfield, hnew, Bool.false_eq_true, if_false, colon_append hsp]
        exact hreads.takes c b hc sp' rest hsp' hrest
      | unknown hfield hc =>
        simp only [hfield, colon_append hsp, skipValue_skips.takes c hc sp' rest hsp' hrest]
        rfl

theorem partText_known {key : String} {field : Field σ} {a b : σ} {c : List Char}
    (hfield : r.fields.find? (·.name == key) = some field) :
    PartText r P key a c b ↔ field.isRead a = false ∧ P key a c b := by
  constructor
  · intro h
    cases h with
    | known hfound hnew hc =>
      obtain rfl := Option.some.inj (hfield.symm.trans hfound)
      exact ⟨hnew, hc⟩
    | unknown hfound => simp [hfield] at hfound
  · rintro ⟨hnew, hc⟩
    exact .known hfield hnew hc

theorem partText_unknown {key : String} {a b : σ} {c : List Char}
    (hfield : r.fields.find? (·.name == key) = none) :
    PartText r P key a c b ↔ Loose c ∧ b = a := by
  constructor
  · intro h
    cases h with
    | known hfound => simp [hfield] at hfound
    | unknown _ hc => exact ⟨hc, rfl⟩
  · rintro ⟨hc, rfl⟩
    exact .unknown hfield hc

theorem PartText.loose (hP : ∀ key a c b, P key a c b → Loose c) (key : String) (a : σ)
    (c : List Char) (b : σ) (h : PartText r P key a c b) : Loose c := by
  cases h with
  | known _ _ hc => exact hP _ _ _ _ hc
  | unknown _ hc => exact hc

/-! ## Fields in order -/

def BracketText (t : List Char) (cs : List (List Char)) : Prop :=
  ListText (fun c x => Loose c ∧ x = c) t cs

inductive InOrder (P : String → σ → List Char → σ → Prop) :
    List (Field σ) → σ → List (List Char) → σ → Prop
  | done {fields a} : InOrder P fields a [] a
  | next {field fields a b b' c cs} (hc : P field.name a c b) (hcs : InOrder P fields b cs b') :
      InOrder P (field :: fields) a (c :: cs) b'

theorem InOrder.eq_of_nil {fields : List (Field σ)} {a b : σ} (h : InOrder P fields a [] b) :
    b = a := by
  cases h with
  | done => rfl

theorem spaces_of_listEnd {s rest : List Char} (h : listEnd s = .ok rest) :
    ∃ sp, s = sp ++ ']' :: rest ∧ Spaces sp := by
  obtain ⟨sp, hs, hsp, -⟩ := spaces_append_skipSpace s
  unfold listEnd at h
  split at h
  · cases h
  · rename_i rest' hskip
    cases h
    rw [hskip] at hs
    exact ⟨sp, hs, hsp⟩
  · split at h <;> cases h
  · cases h

theorem listEnd_append {sp : List Char} (hsp : Spaces sp) (rest : List Char) :
    listEnd (sp ++ ']' :: rest) = .ok rest := by
  rw [listEnd, skipSpace_append hsp (solid_cons rfl rest)]
  rfl

inductive Gap : (first : Bool) → List Char → Prop
  | first {s} (hs : Spaces s) : Gap true s
  | comma {s s'} (hs : Spaces s) (hs' : Spaces s') : Gap false (s ++ ',' :: s')

theorem gap_of_nextItem {first : Bool} {s rest : List Char}
    (h : nextItem first s = .ok (some rest)) :
    ∃ gap, s = gap ++ rest ∧ Gap first gap ∧ Solid rest := by
  obtain ⟨sp, hs, hsp, hsolid⟩ := spaces_append_skipSpace s
  unfold nextItem at h
  split at h
  · cases h
  · cases h
  · rename_i c s' _ hskip
    rw [hskip] at hs hsolid
    cases first with
    | true =>
      cases h
      exact ⟨sp, hs, .first hsp, hsolid⟩
    | false =>
      simp only [Bool.false_eq_true, if_false] at h
      split at h
      · rename_i hcomma
        obtain ⟨sp', hs', hsp', hsolid'⟩ := spaces_append_skipSpace s'
        split at h
        · cases h
        · cases h
        · cases h
          refine ⟨sp ++ ',' :: sp', ?_, .comma hsp hsp', hsolid'⟩
          rw [hs, hcomma, List.append_assoc, List.cons_append, ← hs']
      · cases h

theorem nextItem_comma {sp : List Char} (hsp : Spaces sp) (sp' : List Char) (x : Char)
    (s : List Char) : nextItem false (sp ++ ',' :: sp' ++ x :: s) =
      match skipSpace (sp' ++ x :: s) with
      | [] => failHere (.ended .value) []
      | ']' :: rest => failAt .trailingComma (']' :: rest)
      | rest => .ok (some rest) := by
  rw [nextItem, List.append_assoc, List.cons_append, skipSpace_append hsp (solid_cons rfl _)]
  rfl

theorem nextItem_append {first : Bool} {gap : List Char} (hgap : Gap first gap) {x : Char}
    (hx : isSpace x = false) (hne : x ≠ ']') (s : List Char) :
    nextItem first (gap ++ x :: s) = .ok (some (x :: s)) := by
  cases hgap with
  | first hsp =>
    unfold nextItem
    rw [skipSpace_append hsp (solid_cons hx s)]
    split
    · rename_i heq
      cases heq
    · rename_i heq
      exact absurd (List.cons.inj heq).1 hne
    · rename_i heq
      cases heq
      rfl
  | @comma sp sp' hsp hsp' =>
    rw [nextItem_comma hsp, skipSpace_append hsp' (solid_cons hx s)]
    split
    · rename_i heq
      cases heq
    · rename_i heq
      exact absurd (List.cons.inj heq).1 hne
    · rfl

section

variable {depth : Nat} {fields : List (Field σ)}

theorem itemsText_of_fieldsInOrder (hloose : ∀ key a c b, P key a c b → Loose c)
    (hP : ∀ field ∈ fields, ∀ a, Reads (field.read depth a) (P field.name a))
    {a b : σ} {s rest rest' : List Char}
    (hread : fieldsInOrder depth false fields a s = .ok (b, rest))
    (hend : listEnd rest = .ok rest') :
    ∃ t cs, s = t ++ rest' ∧ InOrder P fields a cs b ∧
      ∀ c, Loose c → ItemsText (fun c x => Loose c ∧ x = c) (c ++ t) (c :: cs) := by
  have hdone : ∀ {fields a s}, listEnd s = .ok rest' → ∃ t cs, s = t ++ rest' ∧
      InOrder P fields a cs a ∧
        ∀ c, Loose c → ItemsText (fun c x => Loose c ∧ x = c) (c ++ t) (c :: cs) := by
    intro fields a s hs
    obtain ⟨sp, rfl, hsp⟩ := spaces_of_listEnd hs
    exact ⟨sp ++ [']'], [], by simp, .done, fun c hc => .last ⟨hc, rfl⟩ hsp⟩
  induction fields generalizing a s with
  | nil =>
    cases hread
    exact hdone hend
  | cons field fields ih =>
    unfold fieldsInOrder at hread
    split at hread
    · cases hread
    · cases hread
      exact hdone hend
    · rename_i next hnext
      obtain ⟨gap, rfl, hgap, hsolid⟩ := gap_of_nextItem hnext
      cases hgap with
      | @comma sp sp' hsp hsp' =>
        split at hread
        · cases hread
        · rename_i b' next' hfield
          obtain ⟨c, rfl, hc⟩ := (hP field (by simp) a).sound_solid hsolid hfield
          obtain ⟨t, cs, rfl, hcs, htext⟩ := ih (fun f hf => hP f (by simp [hf])) hread
          refine ⟨sp ++ ',' :: (sp' ++ (c ++ t)), c :: cs, by simp, .next hc hcs, fun x hx => ?_⟩
          exact .more ⟨hx, rfl⟩ hsp hsp' (htext c (hloose _ _ _ _ hc))

theorem bracketText_of_fieldsInOrder (hloose : ∀ key a c b, P key a c b → Loose c)
    (hP : ∀ field ∈ fields, ∀ a, Reads (field.read depth a) (P field.name a))
    {a b : σ} {s rest rest' : List Char}
    (hread : fieldsInOrder depth true fields a s = .ok (b, rest))
    (hend : listEnd rest = .ok rest') :
    ∃ t cs, s = t ++ rest' ∧ BracketText t cs ∧ InOrder P fields a cs b := by
  have hdone : ∀ {fields a s}, listEnd s = .ok rest' → ∃ t cs, s = t ++ rest' ∧
      BracketText t cs ∧ InOrder P fields a cs a := by
    intro fields a s hs
    obtain ⟨sp, rfl, hsp⟩ := spaces_of_listEnd hs
    exact ⟨sp ++ [']'], [], by simp, .empty hsp, .done⟩
  cases fields with
  | nil =>
    cases hread
    exact hdone hend
  | cons field fields =>
    unfold fieldsInOrder at hread
    split at hread
    · cases hread
    · cases hread
      exact hdone hend
    · rename_i next hnext
      obtain ⟨gap, rfl, hgap, hsolid⟩ := gap_of_nextItem hnext
      cases hgap with
      | first hsp =>
        split at hread
        · cases hread
        · rename_i b' next' hfield
          obtain ⟨c, rfl, hc⟩ := (hP field (by simp) a).sound_solid hsolid hfield
          obtain ⟨t, cs, rfl, hcs, htext⟩ :=
            itemsText_of_fieldsInOrder hloose (fun f hf => hP f (by simp [hf])) hread hend
          exact ⟨_, c :: cs, by simp, .items hsp (htext c (hloose _ _ _ _ hc)), .next hc hcs⟩

theorem fieldsInOrder_close (first : Bool) (a : σ) {sp : List Char} (hsp : Spaces sp)
    (rest : List Char) :
    fieldsInOrder depth first fields a (sp ++ ']' :: rest) = .ok (a, sp ++ ']' :: rest) := by
  cases fields with
  | nil => rfl
  | cons field fields =>
    rw [fieldsInOrder, nextItem, skipSpace_append hsp (solid_cons rfl rest)]
    rfl

theorem fieldsInOrder_append
    (hP : ∀ field ∈ fields, ∀ a, Reads (field.read depth a) (P field.name a))
    {t : List Char} {cs : List (List Char)}
    (ht : ItemsText (fun c x => Loose c ∧ x = c) t cs) {a b : σ} (hcs : InOrder P fields a cs b)
    {first : Bool} {gap : List Char} (hgap : Gap first gap) (rest : List Char) :
    ∃ rest', fieldsInOrder depth first fields a (gap ++ (t ++ rest)) = .ok (b, rest') ∧
      listEnd rest' = .ok rest := by
  have hfirst : ∀ {field : Field σ} {fields a b c s}, Reads (field.read depth a) (P field.name a) →
      P field.name a c b → ∀ {first gap}, Gap first gap → Stops s →
        fieldsInOrder depth first (field :: fields) a (gap ++ (c ++ s)) =
          fieldsInOrder depth false fields b s := by
    intro field fields a b c s hreads hc first gap hgap hs
    obtain ⟨x, u, rfl, hx, hne⟩ := hreads.begins c b hc
    have hread := hreads.takes _ b hc [] s spaces_nil hs
    rw [List.nil_append, List.cons_append] at hread
    rw [fieldsInOrder, List.cons_append, nextItem_append hgap hx hne]
    simp only [hread]
  induction ht generalizing fields a first gap with
  | @last c x sp hx hsp =>
    obtain ⟨-, rfl⟩ := hx
    cases hcs with
    | next hc hcs =>
      cases hcs with
      | done =>
        rw [List.append_assoc, List.append_assoc, List.singleton_append,
          hfirst (hP _ (by simp) a) hc hgap (stops_append hsp (stops_cons (by simp) rest)),
          fieldsInOrder_close false _ hsp]
        exact ⟨_, rfl, listEnd_append hsp rest⟩
  | @more c x sp sp' t xs hx hsp hsp' _ ih =>
    obtain ⟨-, rfl⟩ := hx
    cases hcs with
    | next hc hcs =>
      have htext : x ++ (sp ++ ',' :: (sp' ++ t)) ++ rest =
          x ++ ((sp ++ ',' :: sp') ++ (t ++ rest)) := by simp
      rw [htext, hfirst (hP _ (by simp) a) hc hgap]
      · exact ih (fun f hf => hP f (by simp [hf])) hcs (.comma hsp hsp')
      · rw [List.append_assoc]
        exact stops_append hsp (stops_cons (by simp) _)

end

/-! ## Records -/

inductive RecordText (r : Record σ α) (P : Nat → String → σ → List Char → σ → Prop) :
    (depth : Nat) → List Char → α → Prop
  | object {depth t ms b x} (ht : BraceText t ms) (hms : Chain (PartText r (P depth)) r.start ms b)
      (hx : r.finish b = .ok x) : RecordText r P (depth + 1) ('{' :: t) x
  | list {depth t cs b x} (ht : BracketText t cs) (hcs : InOrder (P depth) r.fields r.start cs b)
      (hx : r.finish b = .ok x) : RecordText r P (depth + 1) ('[' :: t) x

theorem RecordText.loose {P : Nat → String → σ → List Char → σ → Prop} {depth : Nat}
    {c : List Char} {x : α} (h : RecordText r P depth c x) : Loose c := by
  cases h with
  | object ht => exact ht.loose_brace
  | list ht => exact .of_step (ht.loose fun _ _ hc => hc.1)

/-- The fields of the record are read from the texts `P`, and only from those. -/
structure HasFields (r : Record σ α) (P : Nat → String → σ → List Char → σ → Prop) : Prop where
  reads : ∀ depth, ∀ field ∈ r.fields, ∀ a, Reads (field.read depth a) (P depth field.name a)
  loose : ∀ depth key a c b, P depth key a c b → Loose c

namespace HasFields

variable {P : Nat → String → σ → List Char → σ → Prop}

theorem read_reads (h : HasFields r P) (depth : Nat) :
    Reads (r.read depth) (RecordText r P depth) where
  sound s x rest hread := by
    obtain ⟨sp, hs, hsp, -⟩ := spaces_append_skipSpace s
    unfold Record.read at hread
    split at hread
    · rename_i s' hskip
      cases depth with
      | zero => cases hread
      | succ depth =>
        rw [hskip] at hs
        simp only [descend, ofObject] at hread
        split at hread
        · cases hread
        · rename_i b rest' hmembers
          obtain ⟨t, rfl, ht⟩ := objectText_of_members (member_reads (h.reads depth)) hmembers
          obtain ⟨ms, hbrace, hms⟩ :=
            (objectText_iff_chain (PartText.loose (h.loose depth))).mp ht
          split at hread
          · rename_i y hfinish
            cases hread
            exact ⟨sp, '{' :: t, hs, hsp, .object hbrace hms hfinish⟩
          · cases hread
    · rename_i s' hskip
      cases depth with
      | zero => cases hread
      | succ depth =>
        rw [hskip] at hs
        simp only [descend, ofList] at hread
        split at hread
        · cases hread
        · rename_i b rest' hfields
          split at hread
          · cases hread
          · rename_i rest'' hend
            obtain ⟨t, cs, rfl, ht, hcs⟩ :=
              bracketText_of_fieldsInOrder (h.loose depth) (h.reads depth) hfields hend
            split at hread
            · rename_i y hfinish
              cases hread
              exact ⟨sp, '[' :: t, hs, hsp, .list ht hcs hfinish⟩
            · cases hread
    · cases hread
  takes c x hx sp rest hsp _ := by
    cases hx with
    | object ht hms hfinish =>
      have hobject :=
        (objectText_iff_chain (PartText.loose (h.loose _))).mpr ⟨_, ht, hms⟩
      unfold Record.read
      rw [List.cons_append, skipSpace_append hsp (solid_cons rfl _)]
      simp only [descend, ofObject, members_append (member_reads (h.reads _)) hobject, hfinish]
    | @list depth t cs b x ht hcs hfinish =>
      unfold Record.read
      rw [List.cons_append, skipSpace_append hsp (solid_cons rfl _)]
      have hread : ∃ rest', fieldsInOrder depth true r.fields r.start (t ++ rest) = .ok (b, rest') ∧
          listEnd rest' = .ok rest := by
        cases ht with
        | empty hs =>
          obtain rfl := hcs.eq_of_nil
          rw [List.append_assoc, List.singleton_append]
          exact ⟨_, fieldsInOrder_close true _ hs rest, listEnd_append hs rest⟩
        | items hs ht =>
          rw [List.append_assoc]
          exact fieldsInOrder_append (h.reads depth) ht hcs (.first hs) rest
      obtain ⟨rest', hfields, hend⟩ := hread
      simp only [descend, ofList, hfields, hend, hfinish]
  begins c x hx := by
    cases hx with
    | object => exact ⟨_, _, rfl, rfl, by decide⟩
    | list => exact ⟨_, _, rfl, rfl, by decide⟩

end HasFields

/-! ## Records as they are written -/

theorem HasFields.recordText_write {P : Nat → String → σ → List Char → σ → Prop}
    (h : HasFields r P) {l : Layout} (hl : l.Blank) {depth column : Nat}
    {ms : List (String × Json)} {b : σ} {x : α}
    (hms : Chain (PartText r (P depth)) r.start
      (ms.map fun (k, x) => (k, x.write l (column + 1))) b) (hx : r.finish b = .ok x) :
    RecordText r P (depth + 1) ((Json.obj ms).write l column) x := by
  obtain ⟨t, htext, ht⟩ := objectText_write hl (chain_memberTexts hl hms)
  obtain ⟨raw, hbrace, hraw⟩ := (objectText_iff_chain (PartText.loose (h.loose depth))).mp ht
  rw [htext]
  exact .object hbrace hraw hx

end Record

/-! ## Whole texts -/

theorem readWith_eq_ok_iff {reader : List Char → Read α} {P : List Char → α → Prop}
    (h : Reads reader P) (text : List Char) (x : α) :
    readWith reader text = .ok x ↔
      ∃ sp c sp', text = sp ++ (c ++ sp') ∧ Spaces sp ∧ Spaces sp' ∧ P c x := by
  constructor
  · intro hread
    unfold readWith at hread
    split at hread
    · cases hread
    · rename_i y rest hreader
      obtain ⟨sp, c, rfl, hsp, hx⟩ := h.sound _ _ _ hreader
      obtain ⟨sp', hrest, hsp', -⟩ := spaces_append_skipSpace rest
      split at hread
      · rename_i hskip
        cases hread
        rw [hskip, List.append_nil] at hrest
        exact ⟨sp, c, sp', by rw [hrest], hsp, hsp', hx⟩
      · cases hread
  · rintro ⟨sp, c, sp', rfl, hsp, hsp', hx⟩
    have hstops : Stops sp' := by simpa using stops_append hsp' stops_nil
    have hskip : skipSpace sp' = [] := by simpa using skipSpace_append hsp' (t := []) nofun
    unfold readWith
    rw [h.takes c x hx sp sp' hsp hstops]
    simp only [hskip]

end YardConsole.Json
