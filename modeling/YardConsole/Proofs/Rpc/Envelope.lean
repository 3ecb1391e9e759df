import YardConsole.Proofs.Json.Record
import YardConsole.Rpc.Envelope

/-! # Which answers of the yard are results -/

namespace YardConsole

open Json Json.Record

/-! ## Errors -/

namespace RpcError

def FieldText (depth : Nat) (key : String) (a : Draft) (c : List Char) (b : Draft) : Prop :=
  key = "code" ∧ Sets IntegerText (fun draft n => { draft with code := some n }) a c b ∨
  key = "message" ∧ Sets LiteralText (fun draft s => { draft with message := some s }) a c b ∨
  key = "data" ∧
    Sets (OptionalText (ValueText depth)) (fun draft j => { draft with data := some j }) a c b

theorem hasFields : record.HasFields FieldText where
  reads depth := by
    have hdata := readOptional_reads (value_reads depth)
    refine List.forall_mem_cons.mpr ⟨fun a => ?_, List.forall_mem_cons.mpr ⟨fun a => ?_,
      List.forall_mem_cons.mpr ⟨fun a => ?_, nofun⟩⟩⟩
    · have hcode := readInteger_reads.sets (fun draft n => { draft with code := some n }) a
      exact hcode.congr fun c b => by simp [FieldText]
    · have hmessage := (readString_reads "a string").sets
        (fun draft s => { draft with message := some s }) a
      exact hmessage.congr fun c b => by simp [FieldText]
    · have hset := hdata.sets (fun draft j => { draft with data := some j }) a
      exact hset.congr fun c b => by simp [FieldText]
  loose depth key a c b h := by
    rcases h with ⟨-, h⟩ | ⟨-, h⟩ | ⟨-, h⟩
    · exact h.loose fun _ _ => IntegerText.loose
    · exact h.loose fun _ _ => LiteralText.loose
    · exact h.loose fun _ _ => OptionalText.loose fun _ _ => ValueText.loose

def ErrorText : Nat → List Char → RpcError → Prop := RecordText record FieldText

end RpcError

/-! ## Answers -/

namespace Envelope

def FieldText (depth : Nat) (key : String) (a : Draft) (c : List Char) (b : Draft) : Prop :=
  key = "result" ∧
    Sets (OptionalText (ValueText depth)) (fun draft j => { draft with result := some j }) a c b ∨
  key = "error" ∧
    Sets (OptionalText (RpcError.ErrorText depth)) (fun draft e => { draft with error := some e })
      a c b

theorem hasFields : record.HasFields FieldText where
  reads depth := by
    have hresult := readOptional_reads (value_reads depth)
    have herror := readOptional_reads (RpcError.hasFields.read_reads depth)
    refine List.forall_mem_cons.mpr ⟨fun a => ?_, List.forall_mem_cons.mpr ⟨fun a => ?_, nofun⟩⟩
    · have hset := hresult.sets (fun draft j => { draft with result := some j }) a
      exact hset.congr fun c b => by simp [FieldText]
    · have hset := herror.sets (fun draft e => { draft with error := some e }) a
      exact hset.congr fun c b => by simp [FieldText, RpcError.ErrorText]
  loose depth key a c b h := by
    rcases h with ⟨-, h⟩ | ⟨-, h⟩
    · exact h.loose fun _ _ => OptionalText.loose fun _ _ => ValueText.loose
    · exact h.loose fun _ _ => OptionalText.loose fun _ _ => RecordText.loose

/-! ### The members of an object -/

def texts (key : String) (ms : List (String × List Char)) : List (List Char) :=
  (ms.filter (·.1 == key)).map (·.2)

/-- What a field that was `x` is after the texts met under its key. -/
def Filled {β : Type} (P : List Char → β → Prop) (x : Option β) : List (List Char) → Option β → Prop
  | [], y => y = x
  | [c], y => x = none ∧ ∃ z, P c z ∧ y = some z
  | _, _ => False

theorem filled_cons {β : Type} {P : List Char → β → Prop} {x y : Option β} {c : List Char}
    {cs : List (List Char)} :
    Filled P x (c :: cs) y ↔ x = none ∧ ∃ z, P c z ∧ Filled P (some z) cs y := by
  match cs with
  | [] => simp [Filled]
  | [_] => simp [Filled]
  | _ :: _ :: _ => simp [Filled]

section

variable {depth : Nat} {a b : Draft} {c : List Char}

theorem fieldText_result :
    FieldText depth "result" a c b ↔
      ∃ j, OptionalText (ValueText depth) c j ∧ b = { a with result := some j } := by
  simp [FieldText, Sets]

theorem fieldText_error :
    FieldText depth "error" a c b ↔
      ∃ e, OptionalText (RpcError.ErrorText depth) c e ∧ b = { a with error := some e } := by
  simp [FieldText, Sets]

theorem partText_result :
    PartText record (FieldText depth) "result" a c b ↔
      a.result = none ∧
        ∃ j, OptionalText (ValueText depth) c j ∧ b = { a with result := some j } := by
  rw [partText_known rfl, fieldText_result, Option.isSome_eq_false_iff, Option.isNone_iff_eq_none]

theorem partText_error :
    PartText record (FieldText depth) "error" a c b ↔
      a.error = none ∧
        ∃ e, OptionalText (RpcError.ErrorText depth) c e ∧ b = { a with error := some e } := by
  rw [partText_known rfl, fieldText_error, Option.isSome_eq_false_iff, Option.isNone_iff_eq_none]

theorem partText_other {key : String} (hresult : key ≠ "result") (herror : key ≠ "error") :
    PartText record (FieldText depth) key a c b ↔ Loose c ∧ b = a :=
  partText_unknown (by simp [record, hresult.symm, herror.symm])

theorem chain_iff {ms : List (String × List Char)} (hms : ∀ m ∈ ms, Loose m.2) :
    Chain (PartText record (FieldText depth)) a ms b ↔
      Filled (OptionalText (ValueText depth)) a.result (texts "result" ms) b.result ∧
      Filled (OptionalText (RpcError.ErrorText depth)) a.error (texts "error" ms) b.error := by
  induction ms generalizing a with
  | nil =>
    rw [chain_nil]
    obtain ⟨result, error⟩ := b
    obtain ⟨result', error'⟩ := a
    simp [texts, Filled]
  | cons m ms ih =>
    obtain ⟨key, c⟩ := m
    have hrest := fun a => ih (a := a) fun m hm => hms m (List.mem_cons_of_mem _ hm)
    rw [chain_cons]
    by_cases hresult : key = "result"
    · subst hresult
      have hmore : texts "result" (("result", c) :: ms) = c :: texts "result" ms := by simp [texts]
      have hsame : texts "error" (("result", c) :: ms) = texts "error" ms := by simp [texts]
      simp only [partText_result, hmore, hsame, filled_cons, hrest]
      constructor
      · rintro ⟨a', ⟨hnew, j, hc, rfl⟩, hj, he⟩
        exact ⟨⟨hnew, j, hc, hj⟩, he⟩
      · rintro ⟨⟨hnew, j, hc, hj⟩, he⟩
        exact ⟨_, ⟨hnew, j, hc, rfl⟩, hj, he⟩
    by_cases herror : key = "error"
    · subst herror
      have hmore : texts "error" (("error", c) :: ms) = c :: texts "error" ms := by simp [texts]
      have hsame : texts "result" (("error", c) :: ms) = texts "result" ms := by simp [texts]
      simp only [partText_error, hmore, hsame, filled_cons, hrest]
      constructor
      · rintro ⟨a', ⟨hnew, e, hc, rfl⟩, hj, he⟩
        exact ⟨hj, hnew, e, hc, he⟩
      · rintro ⟨hj, hnew, e, hc, he⟩
        exact ⟨_, ⟨hnew, e, hc, rfl⟩, hj, he⟩
    have hsame : ∀ name, key ≠ name → texts name ((key, c) :: ms) = texts name ms := by
      intro name hne
      simp [texts, hne]
    rw [hsame _ hresult, hsame _ herror, ← hrest]
    simp only [partText_other hresult herror]
    constructor
    · rintro ⟨a', ⟨-, rfl⟩, hchain⟩
      exact hchain
    · exact fun hchain => ⟨a, ⟨hms (key, c) (by simp), rfl⟩, hchain⟩

end

theorem filled_none_some {β : Type} {P : List Char → β → Prop} {cs : List (List Char)} {y : β} :
    Filled P none cs (some y) ↔ ∃ c, cs = [c] ∧ P c y := by
  match cs with
  | [] => simp [Filled]
  | [_] => simp [Filled]
  | _ :: _ :: _ => simp [Filled]

theorem filled_none_none {β : Type} {P : List Char → β → Prop} {cs : List (List Char)} :
    Filled P none cs none ↔ cs = [] := by
  match cs with
  | [] => simp [Filled]
  | [_] => simp [Filled]
  | _ :: _ :: _ => simp [Filled]

/-! ### Results -/

theorem outcome_eq_ok_iff (e : Envelope) (v : Json) :
    e.outcome = .ok v ↔ e.result = some v ∧ e.error = none := by
  obtain ⟨result, error⟩ := e
  cases error with
  | none => cases result <;> simp [outcome]
  | some error => simp [outcome]

theorem begins_null_iff {depth : Nat} {c : List Char} {v : Json} (h : ValueText depth c v) :
    c.head? = some 'n' ↔ v = .null := by
  have hstep : ∀ {inner}, StepText inner c v → (c.head? = some 'n' ↔ v = .null) := by
    intro inner h
    cases h with
    | null => simp
    | negative h => cases IsNumber.of_takes h <;> simp
    | @natural c cs _ hc h =>
      have hn : c ≠ 'n' := by
        rintro rfl
        exact absurd hc (by decide)
      cases IsNumber.of_takes h <;> simp [hn]
    | _ => simp
  cases depth with
  | zero => exact hstep h
  | succ depth => exact hstep h

def nullText : List Char := ['n', 'u', 'l', 'l']

theorem optionalText_none {β : Type} {P : List Char → β → Prop} {c : List Char} :
    OptionalText P c none ↔ c = nullText := by
  constructor
  · intro h
    cases h with
    | null => rfl
  · rintro rfl
    exact .null

theorem optionalText_value {depth : Nat} {c : List Char} {v : Json} :
    OptionalText (ValueText depth) c (some v) ↔ ValueText depth c v ∧ v ≠ .null := by
  constructor
  · intro h
    cases h with
    | some hn hc => exact ⟨hc, fun hv => hn ((begins_null_iff hc).mpr hv)⟩
  · rintro ⟨hc, hv⟩
    exact .some (fun hn => hv ((begins_null_iff hc).mp hn)) hc

/-- An object with one result, which is `v`, and with no error but null. -/
structure HoldsResult (v : Json) (ms : List (String × List Char)) : Prop where
  result : ∃ c, texts "result" ms = [c] ∧ ValueText (maxDepth - 1) c v
  error : texts "error" ms = [] ∨ texts "error" ms = [nullText]

/-- A list with the result `v` first, and with nothing behind it but null. -/
def LeadsWith (v : Json) (cs : List (List Char)) : Prop :=
  ∃ c, ValueText (maxDepth - 1) c v ∧ (cs = [c] ∨ cs = [c, nullText])

theorem finish_eq_ok_iff (b : Draft) (v : Json) :
    (∃ e, record.finish b = .ok e ∧ e.outcome = .ok v) ↔
      b.result = some (some v) ∧ (b.error = none ∨ b.error = some none) := by
  simp only [record, outcome_eq_ok_iff, Except.ok.injEq, exists_eq_left', Option.join_eq_some_iff,
    Option.join_eq_none_iff]

theorem chain_holds_iff {ms : List (String × List Char)} (hms : ∀ m ∈ ms, Loose m.2) (v : Json) :
    (∃ b, Chain (PartText record (FieldText (maxDepth - 1))) record.start ms b ∧
      b.result = some (some v) ∧ (b.error = none ∨ b.error = some none)) ↔
      v ≠ .null ∧ HoldsResult v ms := by
  simp only [chain_iff hms]
  constructor
  · rintro ⟨b, ⟨hresult, herror⟩, hv, hb⟩
    rw [hv, record, filled_none_some] at hresult
    obtain ⟨c, hc, htext⟩ := hresult
    obtain ⟨htext, hne⟩ := optionalText_value.mp htext
    refine ⟨hne, ⟨c, hc, htext⟩, ?_⟩
    rcases hb with hb | hb
    · rw [hb, record, filled_none_none] at herror
      exact .inl herror
    · rw [hb, record, filled_none_some] at herror
      obtain ⟨c', hc', htext'⟩ := herror
      exact .inr (by rw [hc', optionalText_none.mp htext'])
  · rintro ⟨hne, ⟨c, hc, htext⟩, herror⟩
    have hresult : Filled (OptionalText (ValueText (maxDepth - 1))) none (texts "result" ms)
        (some (some v)) := filled_none_some.mpr ⟨c, hc, optionalText_value.mpr ⟨htext, hne⟩⟩
    rcases herror with herror | herror
    · exact ⟨⟨some (some v), none⟩, ⟨hresult, filled_none_none.mpr herror⟩, rfl, .inl rfl⟩
    · exact ⟨⟨some (some v), some none⟩,
        ⟨hresult, filled_none_some.mpr ⟨_, herror, optionalText_none.mpr rfl⟩⟩, rfl, .inr rfl⟩

theorem inOrder_leads_iff (cs : List (List Char)) (v : Json) :
    (∃ b, InOrder (FieldText (maxDepth - 1)) record.fields record.start cs b ∧
      b.result = some (some v) ∧ (b.error = none ∨ b.error = some none)) ↔
      v ≠ .null ∧ LeadsWith v cs := by
  constructor
  · rintro ⟨b, hcs, hv, hb⟩
    cases hcs with
    | done => cases hv
    | next hc hcs =>
      obtain ⟨j, hj, rfl⟩ := fieldText_result.mp hc
      cases hcs with
      | done =>
        obtain rfl : j = some v := Option.some.inj hv
        obtain ⟨htext, hne⟩ := optionalText_value.mp hj
        exact ⟨hne, _, htext, .inl rfl⟩
      | next hc hcs =>
        obtain ⟨e, he, rfl⟩ := fieldText_error.mp hc
        cases hcs with
        | done =>
          obtain rfl : j = some v := Option.some.inj hv
          obtain rfl : e = none := by simpa using hb
          obtain ⟨htext, hne⟩ := optionalText_value.mp hj
          exact ⟨hne, _, htext, .inr (by rw [optionalText_none.mp he])⟩
  · rintro ⟨hne, c, hc, hcs⟩
    have hresult : FieldText (maxDepth - 1) "result" record.start c ⟨some (some v), none⟩ :=
      fieldText_result.mpr ⟨some v, optionalText_value.mpr ⟨hc, hne⟩, rfl⟩
    have herror : FieldText (maxDepth - 1) "error" ⟨some (some v), none⟩ nullText
        ⟨some (some v), some none⟩ := fieldText_error.mpr ⟨none, .null, rfl⟩
    rcases hcs with rfl | rfl
    · exact ⟨_, .next hresult .done, rfl, .inl rfl⟩
    · exact ⟨_, .next hresult (.next herror .done), rfl, .inr rfl⟩

theorem decode_eq_ok_iff_recordText (body : String) (v : Json) :
    decode body = .ok v ↔ ∃ sp c sp', body.toList = sp ++ (c ++ sp') ∧ Spaces sp ∧ Spaces sp' ∧
      ∃ e, RecordText record FieldText maxDepth c e ∧ e.outcome = .ok v := by
  have hread := readWith_eq_ok_iff (hasFields.read_reads maxDepth) body.toList
  unfold decode
  constructor
  · intro h
    split at h
    · rename_i e hbody
      obtain ⟨sp, c, sp', htext, hsp, hsp', hc⟩ := (hread e).mp hbody
      exact ⟨sp, c, sp', htext, hsp, hsp', e, hc, h⟩
    · cases h
  · rintro ⟨sp, c, sp', htext, hsp, hsp', e, hc, houtcome⟩
    have hbody : read body = .ok e := (hread e).mpr ⟨sp, c, sp', htext, hsp, hsp', hc⟩
    rw [hbody]
    exact houtcome

/-- An answer is a result exactly if it is an object with a result and no error, or a list that
such an object's fields are read from in order. -/
theorem decode_eq_ok_iff (body : String) (v : Json) :
    decode body = .ok v ↔ v ≠ .null ∧ ∃ sp c sp',
      body.toList = sp ++ (c ++ sp') ∧ Spaces sp ∧ Spaces sp' ∧
        ((∃ t ms, c = '{' :: t ∧ BraceText t ms ∧ HoldsResult v ms) ∨
          ∃ t cs, c = '[' :: t ∧ BracketText t cs ∧ LeadsWith v cs) := by
  rw [decode_eq_ok_iff_recordText]
  constructor
  · rintro ⟨sp, c, sp', htext, hsp, hsp', e, hc, houtcome⟩
    cases hc with
    | object ht hms hx =>
      obtain ⟨hresult, herror⟩ := (finish_eq_ok_iff _ v).mp ⟨e, hx, houtcome⟩
      obtain ⟨hne, hholds⟩ := (chain_holds_iff ht.loose v).mp ⟨_, hms, hresult, herror⟩
      exact ⟨hne, sp, _, sp', htext, hsp, hsp', .inl ⟨_, _, rfl, ht, hholds⟩⟩
    | list ht hcs hx =>
      obtain ⟨hresult, herror⟩ := (finish_eq_ok_iff _ v).mp ⟨e, hx, houtcome⟩
      obtain ⟨hne, hleads⟩ := (inOrder_leads_iff _ v).mp ⟨_, hcs, hresult, herror⟩
      exact ⟨hne, sp, _, sp', htext, hsp, hsp', .inr ⟨_, _, rfl, ht, hleads⟩⟩
  · rintro ⟨hne, sp, c, sp', htext, hsp, hsp', hc⟩
    refine ⟨sp, c, sp', htext, hsp, hsp', ?_⟩
    rcases hc with ⟨t, ms, rfl, ht, hholds⟩ | ⟨t, cs, rfl, ht, hleads⟩
    · obtain ⟨b, hms, hb⟩ := (chain_holds_iff ht.loose v).mpr ⟨hne, hholds⟩
      obtain ⟨e, hx, houtcome⟩ := (finish_eq_ok_iff b v).mpr hb
      exact ⟨e, .object ht hms hx, houtcome⟩
    · obtain ⟨b, hcs, hb⟩ := (inOrder_leads_iff cs v).mpr ⟨hne, hleads⟩
      obtain ⟨e, hx, houtcome⟩ := (finish_eq_ok_iff b v).mpr hb
      exact ⟨e, .list ht hcs hx, houtcome⟩

def failedBatch : String :=
  "[\x7b\"jsonrpc\":\"2.0\",\"id\":1,\"error\":\x7b\"code\":1,\"message\":\"boom\"\x7d\x7d]"

/-- The list is decoded as a success, and the result is the answer with the error. -/
theorem decode_failedBatch :
    ∃ answer error, Json.parse failedBatch = .ok (.arr [answer]) ∧
      answer.get? "error" = some error ∧ error ≠ .null ∧ decode failedBatch = .ok answer := by
  refine ⟨.obj [("error", .obj [("code", .int 1), ("message", .str "boom")]),
    ("id", .int 1), ("jsonrpc", .str "2.0")], _, ?_, rfl, nofun, ?_⟩
  · decide +kernel
  · decide +kernel

end Envelope

end YardConsole
