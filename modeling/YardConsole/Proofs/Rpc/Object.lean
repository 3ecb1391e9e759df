import Mathlib.Data.List.Nodup
import YardConsole.Proofs.Json.Distinct
import YardConsole.Proofs.Rpc.Envelope

/-! # What an answer that is an object says

The result and the error of the answer are its members of these names, however many others there
are and in whatever order they stand.
-/

namespace YardConsole

open Json Json.Record

/-! ## Parts by their values -/

section

variable {depth : Nat} {c : List Char}

theorem stepText_of_scalar {inner inner' : Option (List Char → Json → Prop)} {j : Json}
    (hlist : ∀ xs, j ≠ .arr xs) (hobject : ∀ ms, j ≠ .obj ms) (h : StepText inner c j) :
    StepText inner' c j := by
  cases h with
  | null => exact .null
  | yes => exact .yes
  | no => exact .no
  | negative h => exact .negative h
  | natural hc h => exact .natural hc h
  | string h => exact .string h
  | list => exact absurd rfl (hlist _)
  | object => exact absurd rfl (hobject _)

theorem valueText_scalar_iff {j : Json} (hlist : ∀ xs, j ≠ .arr xs) (hobject : ∀ ms, j ≠ .obj ms) :
    ValueText 0 c j ↔ ValueText depth c j := by
  cases depth with
  | zero => rfl
  | succ depth => exact ⟨stepText_of_scalar hlist hobject, stepText_of_scalar hlist hobject⟩

theorem integerText_iff {n : Int} :
    IntegerText c n ↔ ValueText depth c (.int n) ∧ n < Int.pow 2 63 :=
  and_congr_left' (valueText_scalar_iff nofun nofun)

theorem literalText_iff {s : String} : LiteralText c s ↔ ValueText depth c (.str s) := by
  rw [← valueText_scalar_iff (j := .str s) nofun nofun]
  constructor
  · rintro ⟨h⟩
    exact .string h
  · intro h
    cases h with
    | negative h => cases IsNumber.of_takes h
    | natural _ h => cases IsNumber.of_takes h
    | string h => exact .quote h

theorem nullText_of_valueText (h : ValueText depth c .null) : c = Envelope.nullText := by
  rw [← valueText_scalar_iff (j := .null) nofun nofun] at h
  cases h with
  | null => rfl
  | negative h => cases IsNumber.of_takes h
  | natural _ h => cases IsNumber.of_takes h

theorem optionalText_iff {x : Option Json} :
    OptionalText (ValueText depth) c x ↔
      ∃ v, ValueText depth c v ∧ x = (some v).filter (!·.isNull) := by
  have hfilter : ∀ v : Json, (some v).filter (!·.isNull) = if v = .null then none else some v := by
    intro v
    cases v <;> rfl
  constructor
  · intro h
    cases x with
    | none =>
      rw [Envelope.optionalText_none.mp h]
      exact ⟨.null, valueText_of_stepText fun _ => .null, rfl⟩
    | some v =>
      obtain ⟨hv, hne⟩ := Envelope.optionalText_value.mp h
      exact ⟨v, hv, by rw [hfilter, if_neg hne]⟩
  · rintro ⟨v, hv, rfl⟩
    rw [hfilter]
    split
    · rename_i hnull
      subst hnull
      exact Envelope.optionalText_none.mpr (nullText_of_valueText hv)
    · rename_i hne
      exact Envelope.optionalText_value.mpr ⟨hv, hne⟩

end

namespace RpcError

/-! ## Errors -/

/-- The object says the error: a code of sixty-four bits with a sign, a message, and data or not.
Null is no data. -/
structure Says (j : Json) (e : RpcError) : Prop where
  code : j.get? "code" = some (.int e.code)
  fits : -2 ^ 63 ≤ e.code ∧ e.code < 2 ^ 63
  message : j.get? "message" = some (.str e.message)
  data : e.data = (j.get? "data").filter (!·.isNull)

def Unread (key : String) (a : Draft) : Prop :=
  (key = "code" → a.code = none) ∧ (key = "message" → a.message = none) ∧
    (key = "data" → a.data = none)

def Agrees (e : RpcError) (key : String) (a : Draft) : Prop :=
  (key = "code" → a.code = some e.code) ∧ (key = "message" → a.message = some e.message) ∧
    (key = "data" → a.data = some e.data)

section

variable {depth : Nat} {members : List (String × Json)} {e : RpcError}

theorem exists_partText (h : Says (.obj members) e) {key : String} {c : List Char} {v : Json}
    (hc : ValueText depth c v) (hv : members.lookup key = some v) {a : Draft} (ha : Unread key a) :
    ∃ b, PartText record (FieldText depth) key a c b ∧ Agrees e key b ∧
      ∀ other, other ≠ key →
        (Unread other a → Unread other b) ∧ (Agrees e other a → Agrees e other b) := by
  have hvalue : ∀ {w}, (Json.obj members).get? key = some w → v = w := fun hw =>
    Option.some.inj (hv.symm.trans hw)
  by_cases hcode : key = "code"
  · subst hcode
    obtain rfl := hvalue h.code
    have htext := integerText_iff.mpr ⟨hc, h.fits.2⟩
    refine ⟨{ a with code := some e.code }, ?_, by simp [Agrees], fun other hne => ?_⟩
    · exact (partText_known rfl).mpr ⟨by simp [ha.1 rfl], .inl ⟨rfl, _, htext, rfl⟩⟩
    · simp [Unread, Agrees, hne]
  by_cases hmessage : key = "message"
  · subst hmessage
    obtain rfl := hvalue h.message
    have htext := literalText_iff.mpr hc
    refine ⟨{ a with message := some e.message }, ?_, by simp [Agrees], fun other hne => ?_⟩
    · exact (partText_known rfl).mpr ⟨by simp [ha.2.1 rfl], .inr (.inl ⟨rfl, _, htext, rfl⟩)⟩
    · simp [Unread, Agrees, hne]
  by_cases hdata : key = "data"
  · subst hdata
    have htext := optionalText_iff.mpr ⟨v, hc, rfl⟩
    have hdata : e.data = (some v).filter (!·.isNull) := h.data.trans (by rw [Json.get?, hv])
    refine ⟨{ a with data := some e.data }, ?_, by simp [Agrees], fun other hne => ?_⟩
    · exact (partText_known rfl).mpr
        ⟨by simp [ha.2.2 rfl], .inr (.inr ⟨rfl, _, htext, by rw [hdata]⟩)⟩
    · simp [Unread, Agrees, hne]
  · refine ⟨a, (partText_unknown ?_).mpr ⟨hc.loose, rfl⟩, by simp [Agrees, *], fun _ _ => ⟨id, id⟩⟩
    simp [record, Ne.symm hcode, Ne.symm hmessage, Ne.symm hdata]

theorem errorText_of_says {c : List Char} (hdistinct : Distinct c)
    (hc : ValueText depth c (.obj members)) (h : Says (.obj members) e) : ErrorText depth c e := by
  obtain ⟨d, t, ms, rfl, rfl, hbrace, hnames, -, hvalues⟩ := hdistinct.valuesOf hc
  have hstep : ∀ m ∈ ms, ∀ a, Unread m.1 a → ∃ b, PartText record (FieldText d) m.1 a m.2 b ∧
      Agrees e m.1 b ∧
        ∀ key, key ≠ m.1 → (Unread key a → Unread key b) ∧ (Agrees e key a → Agrees e key b) := by
    intro m hm a ha
    obtain ⟨v, hv, hfound⟩ := hvalues.present m.1 m.2 hm
    exact exists_partText h hv hfound ha
  obtain ⟨b, hchain, hholds, hnew⟩ := exists_chain Unread (Agrees e) hstep hnames
    (a := record.start) fun key _ => by simp [Unread, record]
  have hthere : ∀ {key v}, (Json.obj members).get? key = some v → Agrees e key b := by
    intro key v hv
    refine hholds key ?_
    by_contra hkey
    rw [Json.get?, hvalues.absent key hkey] at hv
    cases hv
  have hcode := (hthere h.code).1 rfl
  have hmessage := (hthere h.message).2.1 rfl
  have hdata : b.data.join = e.data := by
    cases hget : (Json.obj members).get? "data" with
    | some v => rw [(hthere hget).2.2 rfl, Option.join_some]
    | none =>
      have hkey := hvalues.lookup_eq_none_iff.mp hget
      have hnone : b.data = none := ((hnew _ hkey).1 (by simp [Unread, record])).2.2 rfl
      rw [hnone, h.data, hget]
      rfl
  refine .object hbrace hchain ?_
  simp only [record, hcode, hmessage, hdata, Option.getD_some]

end

end RpcError

/-! ## Answers -/

namespace Envelope

section

variable {depth : Nat} {ms : List (String × List Char)} {members : List (String × Json)}
variable {key : String}

theorem mem_texts {c : List Char} : c ∈ texts key ms ↔ (key, c) ∈ ms := by
  simp [texts]

theorem texts_eq_nil_iff : texts key ms = [] ↔ key ∉ ms.map Prod.fst := by
  simp [List.eq_nil_iff_forall_not_mem, mem_texts]

theorem texts_of_mem {c : List Char} (hnames : (ms.map Prod.fst).Nodup) (hc : (key, c) ∈ ms) :
    texts key ms = [c] := by
  obtain ⟨before, after, rfl⟩ := List.append_of_mem hc
  rw [List.map_append, List.map_cons, List.nodup_middle, List.nodup_cons, List.mem_append,
    not_or] at hnames
  obtain ⟨⟨hbefore, hafter⟩, -⟩ := hnames
  have hparts : texts key (before ++ (key, c) :: after) =
      texts key before ++ c :: texts key after := by simp [texts]
  rw [hparts, texts_eq_nil_iff.mpr hbefore, texts_eq_nil_iff.mpr hafter, List.nil_append]

theorem texts_value_iff (hnames : (ms.map Prod.fst).Nodup)
    (hvalues : ValuesOf (ValueText depth) ms members) {v : Json} :
    (∃ c, texts key ms = [c] ∧ ValueText depth c v) ↔ members.lookup key = some v := by
  rw [hvalues.lookup_eq_some_iff]
  refine exists_congr fun c => and_congr_left' ⟨fun h => ?_, texts_of_mem hnames⟩
  exact mem_texts.mp (by simp [h])

theorem holdsResult_iff (hnames : (ms.map Prod.fst).Nodup)
    (hvalues : ValuesOf (ValueText (maxDepth - 1)) ms members) {v : Json} :
    HoldsResult v ms ↔ members.lookup "result" = some v ∧
      (members.lookup "error" = none ∨ members.lookup "error" = some .null) := by
  have herror : texts "error" ms = [nullText] ↔ members.lookup "error" = some .null := by
    rw [← texts_value_iff hnames hvalues]
    constructor
    · exact fun h => ⟨_, h, valueText_of_stepText fun _ => .null⟩
    · rintro ⟨c, h, hc⟩
      rw [h, nullText_of_valueText hc]
  rw [← texts_value_iff hnames hvalues, hvalues.lookup_eq_none_iff, ← texts_eq_nil_iff, ← herror]
  exact ⟨fun h => ⟨h.result, h.error⟩, fun h => ⟨h.1, h.2⟩⟩

end

section

variable {body : String} {ms : List (String × List Char)} {members : List (String × Json)}

theorem loose_of_distinct (h : ∀ m ∈ ms, Distinct m.2) : ∀ m ∈ ms, Loose m.2 :=
  fun m hm => (h m hm).loose

theorem decode_eq_ok_iff_members (hobject : ObjectOf body.toList ms members) (v : Json) :
    decode body = .ok v ↔ members.lookup "result" = some v ∧ v ≠ .null ∧
      (members.lookup "error" = none ∨ members.lookup "error" = some .null) := by
  have hdecode : decode body = .ok v ↔ ∃ e, read body = .ok e ∧ e.outcome = .ok v := by
    unfold decode
    cases read body <;> simp
  calc decode body = .ok v
      ↔ ∃ b, Chain (PartText record (FieldText (maxDepth - 1))) record.start ms b ∧
          ∃ e, record.finish b = .ok e ∧ e.outcome = .ok v := by
        simp only [hdecode, read, hasFields.readWith_iff_chain hobject, ← exists_and_right,
          and_assoc, ← exists_and_left]
        exact exists_comm
    _ ↔ v ≠ .null ∧ HoldsResult v ms := by
        simp only [finish_eq_ok_iff]
        exact chain_holds_iff (loose_of_distinct hobject.distinct) v
    _ ↔ _ := by
        rw [holdsResult_iff hobject.names hobject.values, and_left_comm]

theorem exists_filled (hnames : (ms.map Prod.fst).Nodup) {depth : Nat}
    (hvalues : ValuesOf (ValueText depth) ms members) (key : String) :
    ∃ x, Filled (OptionalText (ValueText depth)) none (texts key ms) x := by
  by_cases hkey : key ∈ ms.map Prod.fst
  · obtain ⟨⟨_, c⟩, hc, rfl⟩ := List.mem_map.mp hkey
    obtain ⟨v, hv, -⟩ := hvalues.present _ c hc
    exact ⟨some _, filled_none_some.mpr
      ⟨c, texts_of_mem hnames hc, optionalText_iff.mpr ⟨v, hv, rfl⟩⟩⟩
  · exact ⟨none, filled_none_none.mpr (texts_eq_nil_iff.mpr hkey)⟩

theorem decode_of_says (hobject : ObjectOf body.toList ms members)
    {fields : List (String × Json)} (hfields : members.lookup "error" = some (.obj fields))
    {e : RpcError} (he : RpcError.Says (.obj fields) e) :
    decode body = .error (.rpc e.code e.message e.data) := by
  obtain ⟨c, hc, htext⟩ := hobject.values.lookup_eq_some_iff.mp hfields
  have hsome : OptionalText (RpcError.ErrorText (maxDepth - 1)) c (some e) := by
    refine .some (fun hbegins => ?_) (RpcError.errorText_of_says (hobject.distinct _ hc) htext he)
    have hnull := (begins_null_iff htext).mp hbegins
    cases hnull
  have herror : Filled (OptionalText (RpcError.ErrorText (maxDepth - 1))) none (texts "error" ms)
      (some (some e)) := filled_none_some.mpr ⟨c, texts_of_mem hobject.names hc, hsome⟩
  obtain ⟨x, hresult⟩ := exists_filled hobject.names hobject.values "result"
  have hchain : Chain (PartText record (FieldText (maxDepth - 1))) record.start ms
      ⟨x, some (some e)⟩ := (chain_iff (loose_of_distinct hobject.distinct)).mpr ⟨hresult, herror⟩
  have hread : read body = .ok ⟨x.join, some e⟩ :=
    (hasFields.readWith_iff_chain hobject _).mpr ⟨_, hchain, rfl⟩
  rw [decode, hread]
  rfl

end

theorem outcome_cases (e : Envelope) : (∃ v, e.outcome = .ok v) ∨
    ∃ code message data, e.outcome = .error (.rpc code message data) := by
  unfold outcome
  split
  · exact .inr ⟨_, _, _, rfl⟩
  · exact .inl ⟨_, rfl⟩
  · exact .inr ⟨_, _, _, rfl⟩

theorem decode_cases (body : String) : (∃ v, decode body = .ok v) ∨
    ∃ code message data, decode body = .error (.rpc code message data) := by
  unfold decode
  cases read body with
  | ok e => exact outcome_cases e
  | error e => exact .inr ⟨_, _, _, rfl⟩

/-- An answer that is an object with each name once gives its result if there is one that is no
null, and no error but null. An error that it says is the failure, also beside a result. Whatever
else it holds, it fails as a call does. -/
theorem decode_object {body : String} {members : List (String × Json)}
    (hbody : Json.parse body = .ok (.obj members)) (honce : NamesOnce body.toList) :
    (∀ v, decode body = .ok v ↔ (Json.obj members).get? "result" = some v ∧ v ≠ .null ∧
      ((Json.obj members).get? "error" = none ∨ (Json.obj members).get? "error" = some .null)) ∧
    (∀ fields e, (Json.obj members).get? "error" = some (.obj fields) →
      RpcError.Says (.obj fields) e → decode body = .error (.rpc e.code e.message e.data)) ∧
    ((∃ v, decode body = .ok v) ∨
      ∃ code message data, decode body = .error (.rpc code message data)) := by
  obtain ⟨ms, hobject⟩ := honce.objectOf hbody
  refine ⟨decode_eq_ok_iff_members hobject, fun fields e hfields he => ?_, decode_cases body⟩
  exact decode_of_says hobject hfields he

def besideError : List (String × Json) := [
  ("code", .int (-32602)), ("data", .obj [("error", .null)]), ("message", .str "boom")]

def besideAnswer : List (String × Json) := [
  ("error", .obj besideError), ("id", .int 7), ("result", .obj [("error", .null)])]

theorem decode_besideAnswer :
    Json.parse (Json.obj besideAnswer).compact = .ok (.obj besideAnswer) ∧
      NamesOnce (Json.obj besideAnswer).compact.toList ∧
      (Json.obj besideAnswer).get? "error" = some (.obj besideError) ∧
      RpcError.Says (.obj besideError) ⟨-32602, "boom", some (.obj [("error", .null)])⟩ ∧
      decode (Json.obj besideAnswer).compact =
        .error (.rpc (-32602) "boom" (some (.obj [("error", .null)]))) := by
  have hparse : Json.parse (Json.obj besideAnswer).compact = .ok (.obj besideAnswer) := by
    decide +kernel
  have hdata : (Json.obj [("error", .null)]).Floatless := Floatless.null.member "error"
  have herror : (Json.obj besideError).Floatless :=
    .obj (by simp [besideError, Floatless.int, Floatless.str, hdata])
  have hfloat : (Json.obj besideAnswer).Floatless :=
    .obj (by simp [besideAnswer, Floatless.int, herror, hdata])
  have honce := namesOnce_compact (regular_of_read hparse) hfloat
  have hfields : (Json.obj besideAnswer).get? "error" = some (.obj besideError) := rfl
  have hsays : RpcError.Says (.obj besideError) ⟨-32602, "boom", some (.obj [("error", .null)])⟩ :=
    ⟨rfl, by decide, rfl, rfl⟩
  exact ⟨hparse, honce, hfields, hsays, (decode_object hparse honce).2.1 _ _ hfields hsays⟩

end Envelope

end YardConsole
