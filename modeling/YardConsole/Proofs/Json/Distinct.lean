import YardConsole.Proofs.Json.Record

/-! # Names that come once

The text of an object names its members in one way only. Where no name comes twice, each member is
read from the text under its name, whatever stands before and behind it.
-/

namespace YardConsole.Json

open Record (BracketText)

/-! ## One way to list the members -/

def listMember (key : String) (done : List (String × List Char)) (cs : List Char) :
    Read (List (String × List Char)) :=
  match colon cs with
  | .error f => .error f
  | .ok rest => (skipValue rest).map fun after =>
    (done ++ [(key, (skipSpace rest).take ((skipSpace rest).length - after.length))], after)

theorem Loose.skipSpace {c : List Char} (hc : Loose c) {sp : List Char} (hsp : Spaces sp)
    (r : List Char) : Json.skipSpace (sp ++ (c ++ r)) = c ++ r := by
  obtain ⟨a, t, rfl, ha, -⟩ := skipValue_skips.begins c hc
  exact skipSpace_append hsp (solid_cons ha _)

theorem listMember_colon {sp sp' c : List Char} (hsp : Spaces sp) (hsp' : Spaces sp')
    (hc : Loose c) {r : List Char} (hskip : skipValue (sp' ++ (c ++ r)) = .ok r) (key : String)
    (done : List (String × List Char)) :
    listMember key done (sp ++ ':' :: (sp' ++ (c ++ r))) = .ok (done ++ [(key, c)], r) := by
  have htake : (c ++ r).take ((c ++ r).length - r.length) = c := by simp
  simp only [listMember, colon_append hsp, hskip, Except.map, hc.skipSpace hsp', htake]

theorem listMember_reads : ReadsMember listMember (KeyText Lists) where
  sound key done s b r hread := by
    cases hcolon : colon s with
    | error f => simp [listMember, hcolon] at hread
    | ok rest =>
      obtain ⟨sp, rfl, hsp⟩ := spaces_of_colon hcolon
      cases hskip : skipValue rest with
      | error f => simp [listMember, hcolon, hskip, Except.map] at hread
      | ok after =>
        obtain ⟨sp', c, rfl, hsp', hc⟩ := skipValue_skips.sound _ _ hskip
        rw [listMember_colon hsp hsp' hc hskip] at hread
        cases hread
        exact ⟨sp ++ ':' :: (sp' ++ c), by simp, .colon hsp hsp' ⟨hc, rfl⟩⟩
  takes key done c b hb r hr := by
    cases hb with
    | colon hsp hsp' hlists =>
      obtain ⟨hc, rfl⟩ := hlists
      have hskip := skipValue_skips.takes _ hc _ r hsp' hr
      simpa using listMember_colon hsp hsp' hc hskip key done

theorem BraceText.unique {t t' r r' : List Char} {ms ms' : List (String × List Char)}
    (h : BraceText t ms) (h' : BraceText t' ms') (heq : t ++ r = t' ++ r') :
    t = t' ∧ ms = ms' := by
  have hread := members_append listMember_reads h r
  rw [heq, members_append listMember_reads h' r'] at hread
  obtain ⟨rfl, rfl⟩ : ms' = ms ∧ r' = r := by simpa using hread
  exact ⟨List.append_cancel_right heq, rfl⟩

theorem Loose.unique {sp sp' c c' r r' : List Char} (hc : Loose c) (hc' : Loose c')
    (hsp : Spaces sp) (hsp' : Spaces sp') (hr : Stops r) (hr' : Stops r')
    (heq : sp ++ (c ++ r) = sp' ++ (c' ++ r')) : c = c' ∧ r = r' := by
  have hread := skipValue_skips.takes c hc sp r hsp hr
  rw [heq, skipValue_skips.takes c' hc' sp' r' hsp' hr'] at hread
  obtain rfl := Except.ok.inj hread
  have hskip := congrArg Json.skipSpace heq
  rw [hc.skipSpace hsp, hc'.skipSpace hsp'] at hskip
  exact ⟨List.append_cancel_right hskip, rfl⟩

theorem ValueText.unique {depth : Nat} {c : List Char} {v v' : Json} (h : ValueText depth c v)
    (h' : ValueText depth c v') : v = v' := by
  have hread := (value_reads depth).takes c v h [] [] spaces_nil stops_nil
  rw [(value_reads depth).takes c v' h' [] [] spaces_nil stops_nil] at hread
  exact (congrArg Prod.fst (Except.ok.inj hread)).symm

/-! ## What members leave behind -/

section

variable {σ γ : Type} {V : String → σ → List Char → σ → Prop} {name : String} {a b : σ}
variable {ms : List (String × List Char)}

theorem Chain.kept (get : σ → γ)
    (hother : ∀ key a c b, key ≠ name → V key a c b → get b = get a)
    (hname : name ∉ ms.map Prod.fst) (h : Chain V a ms b) : get b = get a := by
  induction h with
  | nil => rfl
  | cons hc _ ih =>
    simp only [List.map_cons, List.mem_cons, not_or] at hname
    rw [ih hname.2, hother _ _ _ _ (Ne.symm hname.1) hc]

theorem Chain.left (get : σ → γ) {c : List Char} {Q : γ → Prop}
    (hother : ∀ key a c b, key ≠ name → V key a c b → get b = get a)
    (hset : ∀ a b, V name a c b → Q (get b)) (hnames : (ms.map Prod.fst).Nodup)
    (hc : (name, c) ∈ ms) (h : Chain V a ms b) : Q (get b) := by
  induction h with
  | nil => cases hc
  | cons hstep hrest ih =>
    obtain ⟨hnew, hnames⟩ := List.nodup_cons.mp hnames
    rcases List.mem_cons.mp hc with heq | hc
    · cases heq
      rw [hrest.kept get hother hnew]
      exact hset _ _ hstep
    · exact ih hnames hc

/-- Members of different names, each of which can be read while its name is new, can be read one
after the other. What is good of a name after its member stays so. -/
theorem exists_chain (new good : String → σ → Prop)
    (hstep : ∀ m ∈ ms, ∀ a, new m.1 a → ∃ b, V m.1 a m.2 b ∧ good m.1 b ∧
      ∀ key, key ≠ m.1 → (new key a → new key b) ∧ (good key a → good key b))
    (hnames : (ms.map Prod.fst).Nodup) (hnew : ∀ key ∈ ms.map Prod.fst, new key a) :
    ∃ b, Chain V a ms b ∧ (∀ key ∈ ms.map Prod.fst, good key b) ∧
      ∀ key, key ∉ ms.map Prod.fst → (new key a → new key b) ∧ (good key a → good key b) := by
  induction ms generalizing a with
  | nil => exact ⟨a, .nil, nofun, fun key _ => ⟨id, id⟩⟩
  | cons m ms ih =>
    obtain ⟨hfirst, hnames⟩ := List.nodup_cons.mp hnames
    obtain ⟨b, hb, hgood, hkeeps⟩ := hstep m (by simp) a (hnew _ (by simp))
    have hrest : ∀ key ∈ ms.map Prod.fst, new key b := by
      intro key hkey
      refine (hkeeps key ?_).1 (hnew key (by simp [List.mem_cons_of_mem _ hkey]))
      rintro rfl
      exact hfirst hkey
    obtain ⟨b', hb', hgood', hkeeps'⟩ :=
      ih (fun m hm => hstep m (List.mem_cons_of_mem _ hm)) hnames hrest
    refine ⟨b', .cons hb hb', fun key hkey => ?_, fun key hkey => ?_⟩
    · rcases List.mem_cons.mp hkey with rfl | hkey
      · exact (hkeeps' _ hfirst).2 hgood
      · exact hgood' key hkey
    · simp only [List.map_cons, List.mem_cons, not_or] at hkey
      obtain ⟨hne, hkey⟩ := hkey
      exact ⟨fun h => (hkeeps' key hkey).1 ((hkeeps key hne).1 h),
        fun h => (hkeeps' key hkey).2 ((hkeeps key hne).2 h)⟩

end

/-! ## Texts in which no name comes twice -/

/-- A text of a value in which no object, however deep, names a member twice. -/
inductive Distinct : List Char → Prop
  | scalar {c} (h : Loose c) (hopen : ∀ a ∈ c.head?, a ≠ '[' ∧ a ≠ '{') : Distinct c
  | list {t cs} (ht : BracketText t cs) (hcs : ∀ c ∈ cs, Distinct c) : Distinct ('[' :: t)
  | object {t ms} (ht : BraceText t ms) (hnames : (ms.map Prod.fst).Nodup)
      (hms : ∀ m ∈ ms, Distinct m.2) : Distinct ('{' :: t)

def NamesOnce (text : List Char) : Prop :=
  ∃ sp c sp', text = sp ++ (c ++ sp') ∧ Spaces sp ∧ Spaces sp' ∧ Distinct c

theorem Distinct.loose {c : List Char} (h : Distinct c) : Loose c := by
  cases h with
  | scalar h => exact h
  | list ht => exact .of_step (ht.loose fun _ _ hc => hc.1)
  | object ht => exact ht.loose_brace

/-! ## Values under their names -/

def Inserts (V : List Char → Json → Prop) (key : String) :
    List (String × Json) → List Char → List (String × Json) → Prop :=
  Sets V fun ms v => insertMember key v ms

theorem plainText_eq (V : List Char → Json → Prop) : PlainText V = KeyText (Inserts V) := by
  funext key a c b
  refine propext ⟨?_, ?_⟩
  · rintro ⟨hsp, hsp', hv⟩
    exact .colon hsp hsp' ⟨_, hv, rfl⟩
  · rintro ⟨hsp, hsp', v, hv, rfl⟩
    exact .colon hsp hsp' hv

theorem lookup_member (k key : String) (v : Json) (ms : List (String × Json)) :
    ((key, v) :: ms).lookup k = if k = key then some v else ms.lookup k := by
  rw [List.lookup_cons]
  by_cases hk : k = key
  · simp [hk]
  · simp [hk, beq_false_of_ne hk]

theorem lookup_insertMember (k key : String) (v : Json) (ms : List (String × Json)) :
    (insertMember key v ms).lookup k = if k = key then some v else ms.lookup k := by
  induction ms with
  | nil => exact lookup_member k key v []
  | cons m ms ih =>
    obtain ⟨k', v'⟩ := m
    rw [insertMember]
    split
    · exact lookup_member k key v _
    · split
      · rename_i heq
        subst heq
        rw [lookup_member, lookup_member]
        split <;> rfl
      · rename_i hne
        rw [lookup_member, ih, lookup_member]
        by_cases hk : k = k'
        · rw [if_pos hk, if_neg fun hkey => hne (hkey.symm.trans hk), if_pos hk]
        · rw [if_neg hk, if_neg hk]

structure ValuesOf (V : List Char → Json → Prop) (ms : List (String × List Char))
    (members : List (String × Json)) : Prop where
  absent : ∀ key, key ∉ ms.map Prod.fst → members.lookup key = none
  present : ∀ key c, (key, c) ∈ ms → ∃ v, V c v ∧ members.lookup key = some v

theorem valuesOf_of_chain {V : List Char → Json → Prop} {ms : List (String × List Char)}
    {members : List (String × Json)} (hnames : (ms.map Prod.fst).Nodup)
    (h : Chain (Inserts V) [] ms members) : ValuesOf V ms members where
  absent key hkey := by
    refine h.kept (List.lookup key) ?_ hkey
    rintro k a c b hk ⟨v, -, rfl⟩
    rw [lookup_insertMember, if_neg (Ne.symm hk)]
  present key c hc := by
    refine h.left (List.lookup key) (Q := fun found => ∃ v, V c v ∧ found = some v) ?_ ?_ hnames hc
    · rintro k a c b hk ⟨v, -, rfl⟩
      rw [lookup_insertMember, if_neg (Ne.symm hk)]
    · rintro a b ⟨v, hv, rfl⟩
      exact ⟨v, hv, by rw [lookup_insertMember, if_pos rfl]⟩

section

variable {depth : Nat} {key : String} {ms : List (String × List Char)}
variable {members : List (String × Json)}

theorem ValuesOf.lookup_eq_none_iff {V : List Char → Json → Prop} (h : ValuesOf V ms members) :
    members.lookup key = none ↔ key ∉ ms.map Prod.fst := by
  refine ⟨fun hnone hkey => ?_, h.absent key⟩
  obtain ⟨⟨_, c⟩, hc, rfl⟩ := List.mem_map.mp hkey
  obtain ⟨v, -, hv⟩ := h.present _ c hc
  rw [hnone] at hv
  cases hv

theorem ValuesOf.lookup_eq_some_iff (h : ValuesOf (ValueText depth) ms members) {v : Json} :
    members.lookup key = some v ↔ ∃ c, (key, c) ∈ ms ∧ ValueText depth c v := by
  constructor
  · intro hv
    have hkey : key ∈ ms.map Prod.fst := by
      by_contra hkey
      rw [h.absent key hkey] at hv
      cases hv
    obtain ⟨⟨_, c⟩, hc, rfl⟩ := List.mem_map.mp hkey
    obtain ⟨v', hv', hfound⟩ := h.present _ c hc
    obtain rfl := Option.some.inj (hfound.symm.trans hv)
    exact ⟨c, hc, hv'⟩
  · rintro ⟨c, hc, hv⟩
    obtain ⟨v', hv', hfound⟩ := h.present key c hc
    rw [hfound, hv.unique hv']

theorem objectText_of_valueText {c : List Char} (h : ValueText depth c (.obj members)) :
    ∃ d t, depth = d + 1 ∧ c = '{' :: t ∧
      ObjectText (PlainText (ValueText d)) [] t members := by
  have hnumber : ¬ IsNumber (.obj members) := nofun
  cases depth with
  | zero =>
    cases h with
    | negative h => exact absurd (IsNumber.of_takes h) hnumber
    | natural _ h => exact absurd (IsNumber.of_takes h) hnumber
    | object hinner => cases hinner
  | succ d =>
    cases h with
    | negative h => exact absurd (IsNumber.of_takes h) hnumber
    | natural _ h => exact absurd (IsNumber.of_takes h) hnumber
    | object hinner h =>
      cases hinner
      exact ⟨d, _, rfl, rfl, h⟩

theorem Distinct.valuesOf {c : List Char} (h : Distinct c)
    (hc : ValueText depth c (.obj members)) :
    ∃ d t ms, depth = d + 1 ∧ c = '{' :: t ∧ BraceText t ms ∧ (ms.map Prod.fst).Nodup ∧
      (∀ m ∈ ms, Distinct m.2) ∧ ValuesOf (ValueText d) ms members := by
  obtain ⟨d, t, rfl, rfl, ht⟩ := objectText_of_valueText hc
  have hloose : ∀ key a c b, Inserts (ValueText d) key a c b → Loose c :=
    fun _ _ _ _ hb => Sets.loose (fun _ _ => ValueText.loose) hb
  rw [plainText_eq, objectText_iff_chain hloose] at ht
  obtain ⟨ms, hbrace, hchain⟩ := ht
  cases h with
  | scalar _ hopen => exact absurd rfl (hopen '{' rfl).2
  | object hbrace' hnames hms =>
    obtain ⟨-, rfl⟩ := hbrace.unique hbrace' (rfl : t ++ [] = t ++ [])
    exact ⟨d, t, ms, rfl, rfl, hbrace, hnames, hms, valuesOf_of_chain hnames hchain⟩

theorem stops_of_spaces {sp : List Char} (hsp : Spaces sp) : Stops sp := by
  simpa using stops_append hsp stops_nil

/-- A whole text of an object with these members, which has the other ones as texts. -/
structure ObjectOf (text : List Char) (ms : List (String × List Char))
    (members : List (String × Json)) : Prop where
  brace : ∃ sp t sp', text = sp ++ ('{' :: t ++ sp') ∧ Spaces sp ∧ Spaces sp' ∧ BraceText t ms
  names : (ms.map Prod.fst).Nodup
  distinct : ∀ m ∈ ms, Distinct m.2
  values : ValuesOf (ValueText (maxDepth - 1)) ms members

theorem NamesOnce.objectOf {text : List Char} (h : NamesOnce text)
    (hread : read text = .ok (.obj members)) : ∃ ms, ObjectOf text ms members := by
  obtain ⟨sp, c, sp', rfl, hsp, hsp', hc⟩ :=
    (readWith_eq_ok_iff (value_reads maxDepth) _ _).mp hread
  obtain ⟨sp₂, c₂, sp₂', heq, hsp₂, hsp₂', hdistinct⟩ := h
  -- The value that is read and the one with each name once are the same piece of the text.
  obtain ⟨rfl, -⟩ := hc.loose.unique hdistinct.loose hsp hsp₂ (stops_of_spaces hsp')
    (stops_of_spaces hsp₂') heq
  obtain ⟨d, t, ms, hd, rfl, ht, hnames, hms, hvalues⟩ := hdistinct.valuesOf hc
  obtain rfl : d = maxDepth - 1 := by rw [hd, Nat.add_sub_cancel]
  exact ⟨ms, ⟨sp, t, sp', rfl, hsp, hsp', ht⟩, hnames, hms, hvalues⟩

end

/-! ## Records of objects -/

namespace Record

section

variable {σ α : Type} {r : Record σ α} {ms : List (String × List Char)}

theorem HasFields.readWith_iff_chain {P : Nat → String → σ → List Char → σ → Prop}
    (h : HasFields r P) {text : List Char} {members : List (String × Json)}
    (hobject : ObjectOf text ms members) (x : α) :
    readWith (r.read maxDepth) text = .ok x ↔
      ∃ b, Chain (PartText r (P (maxDepth - 1))) r.start ms b ∧ r.finish b = .ok x := by
  obtain ⟨sp, t, sp', rfl, hsp, hsp', ht⟩ := hobject.brace
  rw [readWith_eq_ok_iff (h.read_reads _)]
  constructor
  · rintro ⟨sp₂, c, sp₂', htext, hsp₂, hsp₂', hc⟩
    obtain ⟨rfl, rfl⟩ := ht.loose_brace.unique hc.loose hsp hsp₂ (stops_of_spaces hsp')
      (stops_of_spaces hsp₂') htext
    cases hc with
    | object ht' hms hx =>
      obtain ⟨-, rfl⟩ := ht.unique ht' (rfl : t ++ [] = t ++ [])
      exact ⟨_, hms, hx⟩
  · rintro ⟨b, hms, hx⟩
    exact ⟨sp, _, sp', rfl, hsp, hsp', .object ht hms hx⟩

end

end Record

/-! ## Texts that are written -/

theorem ItemsText.asTexts {α : Type} {P : List Char → α → Prop} (hP : ∀ c x, P c x → Distinct c)
    {t : List Char} {xs : List α} (h : ItemsText P t xs) :
    ∃ cs, ItemsText (fun c x => Loose c ∧ x = c) t cs ∧ ∀ c ∈ cs, Distinct c := by
  induction h with
  | @last c x s hx hs =>
    have hc := hP c x hx
    exact ⟨[c], .last ⟨hc.loose, rfl⟩ hs, by simpa using hc⟩
  | @more c x s s' t xs hx hs hs' _ ih =>
    obtain ⟨cs, hcs, hdistinct⟩ := ih
    have hc := hP c x hx
    exact ⟨c :: cs, .more ⟨hc.loose, rfl⟩ hs hs' hcs, List.forall_mem_cons.mpr ⟨hc, hdistinct⟩⟩

theorem Distinct.of_listText {α : Type} {P : List Char → α → Prop}
    (hP : ∀ c x, P c x → Distinct c) {t : List Char} {xs : List α} (h : ListText P t xs) :
    Distinct ('[' :: t) := by
  cases h with
  | empty hs => exact .list (.empty hs) nofun
  | items hs ht =>
    obtain ⟨cs, hcs, hdistinct⟩ := ht.asTexts hP
    exact .list (.items hs hcs) hdistinct

theorem chain_lists {a ms : List (String × List Char)} (h : ∀ m ∈ ms, Loose m.2) :
    Chain Lists a ms (a ++ ms) := by
  induction ms generalizing a with
  | nil =>
    rw [List.append_nil]
    exact .nil
  | cons m ms ih =>
    obtain ⟨key, c⟩ := m
    have hrest := ih (a := a ++ [(key, c)]) fun m hm => h m (List.mem_cons_of_mem _ hm)
    rw [List.append_assoc] at hrest
    exact .cons ⟨h (key, c) (by simp), rfl⟩ hrest

theorem nodup_of_sorted {ms : List (String × Json)} (h : Sorted ms) : (ms.map Prod.fst).Nodup := by
  refine h.imp fun hlt heq => ?_
  rw [heq] at hlt
  exact String.lt_irrefl _ hlt

theorem distinct_write {l : Layout} (hl : l.Blank) {depth : Nat} {j : Json}
    (h : Regular depth j) (hfloat : Floatless j) (column : Nat) : Distinct (j.write l column) := by
  have hscalar : ∀ {depth j column}, Regular depth j → Floatless j →
      (∀ a ∈ (j.write l column).head?, a ≠ '[' ∧ a ≠ '{') → Distinct (j.write l column) :=
    fun h hfloat => .scalar (valueText_write hl h hfloat _).loose
  induction h generalizing column with
  | null => exact hscalar (.null : Regular 0 _) hfloat (by simp [write])
  | bool b => cases b <;> exact hscalar (.bool _ : Regular 0 _) hfloat (by simp [write])
  | int hn =>
    refine hscalar (.int hn : Regular 0 _) hfloat fun a ha => ?_
    have hnumeral := isNumeral_intText _ a (List.mem_of_mem_head? ha)
    constructor <;> rintro rfl <;> exact absurd hnumeral (by decide)
  | float x => exact absurd rfl (hfloat.ne_float x)
  | str s => exact hscalar (.str s : Regular 0 _) hfloat (by simp [write, stringText])
  | @arr depth xs _ ih =>
    have hitems : ∀ x ∈ xs, Distinct (write l (column + 1) x) := fun x hx =>
      ih x hx (hfloat.of_holds (.item hx)) (column + 1)
    obtain ⟨t, htext, ht⟩ := listText_write (P := fun c _ => Distinct c) (f := id) hl hitems
    rw [List.map_id] at htext
    rw [htext]
    exact .of_listText (fun _ _ hc => hc) ht
  | @obj depth ms hsorted _ ih =>
    let texts := ms.map fun m => (m.1, m.2.write l (column + 1))
    have htexts : ∀ m ∈ texts, Distinct m.2 := by
      intro m hm
      obtain ⟨member, hmember, rfl⟩ := List.mem_map.mp hm
      exact ih member hmember (hfloat.of_holds (.member hmember)) (column + 1)
    have hnames : texts.map Prod.fst = ms.map Prod.fst := by simp [texts, Function.comp_def]
    have hchain : Chain Lists [] texts texts := chain_lists fun m hm => (htexts m hm).loose
    obtain ⟨t, htext, ht⟩ := objectText_write hl (chain_memberTexts hl hchain)
    rw [htext]
    exact .object ht (hnames ▸ nodup_of_sorted hsorted) htexts

theorem namesOnce_compact {j : Json} (h : Regular maxDepth j) (hfloat : Floatless j) :
    NamesOnce j.compact.toList := by
  refine ⟨[], line j, [], ?_, spaces_nil, spaces_nil, ?_⟩
  · rw [toList_compact, List.nil_append, List.append_nil]
  · exact distinct_write Layout.blank_compact h hfloat 0

end YardConsole.Json
