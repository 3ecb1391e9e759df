import YardConsole.Proofs.Command.Leading
import YardConsole.Proofs.Session.Precedence

/-! # Words that mean to delete

In a phrase all of them say the same. But one of them names a method too, and exact commands come
before phrases.
-/

namespace YardConsole.Resolution

open Phrase (Verb isSmallWord_of_deletes)

/-! ## The stages -/

variable {ω : Type} {services : Services ω} {w : ω} {provider : Provider} {catalog : Catalog}

theorem result_of_some {input : String} {resolved : Resolved}
    (h : withoutAdvice? catalog (Text.trim input) = some resolved) :
    ((staged provider catalog input).run services w).result = some resolved := by
  rw [staged, resolve_of_some h]
  rfl

theorem parses_of_result {input : String} {i : Instruction}
    (h : ((staged provider catalog input).run services w).result =
      some (.ok (.phrase, .execute i))) :
    Exact.parse (Text.trim input) = .ok none ∧
      Phrase.parse catalog (Text.trim input) = .ok (some i) := by
  have houtcome := withoutAdvice?_firstOutcome catalog (Text.trim input)
  cases hstages : withoutAdvice? catalog (Text.trim input) with
  | some resolved =>
    rw [result_of_some hstages] at h
    obtain rfl := Option.some.inj h
    rw [hstages] at houtcome
    cases houtcome with
    | phrase _ hexact hphrase => exact ⟨hexact, hphrase⟩
  | none =>
    -- The assistant is no phrase.
    rw [staged, resolve_of_none hstages, Exchange.run] at h
    rcases hadvice : services.advise provider (prompt (Text.trim input) catalog) w with
      ⟨_ | answer, w'⟩
    · rw [hadvice] at h
      cases h
    · rw [hadvice] at h
      obtain ⟨hstage, -⟩ := directive_of_ofAnswer (Option.some.inj h)
      cases hstage

/-- With "delete" before `r` the text is an exact command, and a phrase no more. It is the call `i`
only if `r` is one word, the path of `i`. -/
inductive Overridden (r : String) (i : Instruction) : Option Resolved → Prop
  | intro {path : List Char} {payload : Option (List Char)}
      {x : Except Failure (Option Instruction)}
      (hparts : Exact.Parts (Text.trimList ("delete" ++ " " ++ r).toList) "delete".toList
        (some path) payload)
      (hmeans : Exact.Means "delete".toList (some path) payload x) (hsome : x ≠ .ok none)
      (hsame : x = .ok (some i) ↔ payload = none ∧ i.path.toList = slashed path) :
      Overridden r i (outcome? .exact x)

theorem overridden_delete {r : String} (hr : Text.trimEnd r.toList ≠ []) (item : String) :
    Overridden r (.of .delete item none none)
      ((staged provider .standard ("delete" ++ " " ++ r)).run services w).result := by
  have hword := isSmallWord_of_deletes "delete" (by decide)
  have htext := trimList_behind hword hr
  have htrimmed := Text.trimmed_trimList ("delete" ++ " " ++ r).toList
  obtain ⟨path, payload, hparts⟩ := Exact.parts_word hword (htext ▸ htrimmed)
  obtain ⟨x, hmeans⟩ := Exact.exists_means "delete".toList (some path) payload
  obtain ⟨hsome, hsame⟩ := Exact.means_delete hmeans item
  have hexact : Exact.parse (Text.trim ("delete" ++ " " ++ r)) = x := by
    rw [Exact.parse, Text.toList_trim, htext]
    exact Exact.parseList_of_means (htext ▸ htrimmed) hparts hmeans
  have hclaimed : ∃ resolved, outcome? .exact x = some resolved := by
    rcases x with e | _ | i
    · exact ⟨_, rfl⟩
    · exact absurd rfl hsome
    · exact ⟨_, rfl⟩
  obtain ⟨resolved, hresolved⟩ := hclaimed
  have hstages : withoutAdvice? .standard (Text.trim ("delete" ++ " " ++ r)) = some resolved := by
    rw [withoutAdvice?_of_exact (hexact ▸ hsome), hexact, hresolved]
  rw [result_of_some hstages, ← hresolved]
  exact .intro (htext ▸ hparts) hmeans hsome hsame

theorem result_deletes {word r : String} (hword : word ∈ Verb.delete.words) (hne : word ≠ "delete")
    {i : Instruction} (hr : Text.trimEnd r.toList ≠ [])
    (hparse : Phrase.parse .standard (Text.trim (word ++ " " ++ r)) = .ok (some i)) :
    ((staged provider .standard (word ++ " " ++ r)).run services w).result =
      some (.ok (.phrase, .execute i)) := by
  have hmethods : ∀ word ∈ Verb.delete.words, word ≠ "delete" →
      Exact.methodOf? word.toList = none := by decide
  have hsmall := isSmallWord_of_deletes word hword
  have hexact : Exact.parse (Text.trim (word ++ " " ++ r)) = .ok none := by
    rw [Exact.parse, Text.toList_trim, trimList_behind hsmall hr]
    exact Exact.parseList_word hsmall (hmethods word hword hne) _
  have hphrase : Phrase.parse .standard (Text.trim (word ++ " " ++ r)) ≠ .ok none := by
    simp [hparse]
  have hstages := withoutAdvice?_of_phrase hexact hphrase
  rw [hparse] at hstages
  exact result_of_some hstages

/-- What "supprime" deletes in a phrase, each other word to delete does too, but for the one that
is a method. -/
theorem deletion_words {ω' : Type} {r : String} {i : Instruction}
    (h : ((staged provider .standard ("supprime" ++ " " ++ r)).run services w).result =
      some (.ok (.phrase, .execute i))) (hmethod : i.method = .delete)
    (provider' : Provider) (services' : Services ω') (w' : ω') :
    (∀ word ∈ Verb.delete.words, word ≠ "delete" →
      ((staged provider' .standard (word ++ " " ++ r)).run services' w').result =
        some (.ok (.phrase, .execute i))) ∧
    Overridden r i
      ((staged provider' .standard ("delete" ++ " " ++ r)).run services' w').result := by
  obtain ⟨-, hparse⟩ := parses_of_result h
  have hmem : "supprime" ∈ Verb.delete.words := by decide
  have hr : Text.trimEnd r.toList ≠ [] := by
    intro hblank
    rw [Phrase.parse_of_blank hmem hblank] at hparse
    cases hparse
  have hall : ∀ word ∈ Verb.delete.words,
      Phrase.parse .standard (Text.trim (word ++ " " ++ r)) = .ok (some i) := by
    intro word hword
    rw [Phrase.parse_deletes hword hr, ← hparse, Phrase.parse_deletes hmem hr]
  rw [Phrase.parse_deletes hmem hr] at hparse
  obtain ⟨item, rfl⟩ := Phrase.item_of_deletion (Except.ok.inj hparse) hmethod
  exact ⟨fun word hword hne => result_deletes hword hne hr (hall word hword),
    overridden_delete hr item⟩

theorem deletion_words_path :
    ((staged .standard .standard ("supprime" ++ " " ++ "clients/12")).run Script.services
        Session.refusing).result =
      some (.ok (.phrase, .execute (.new .delete "/clients/12"))) ∧
    (∀ word ∈ Verb.delete.words, word ≠ "delete" →
      ((staged .standard .standard (word ++ " " ++ "clients/12")).run Script.services
        Session.refusing).result = some (.ok (.phrase, .execute (.new .delete "/clients/12")))) ∧
    Overridden "clients/12" (.new .delete "/clients/12")
      ((staged .standard .standard ("delete" ++ " " ++ "clients/12")).run Script.services
        Session.refusing).result := by
  have h : ((staged .standard .standard ("supprime" ++ " " ++ "clients/12")).run Script.services
      Session.refusing).result =
        some (.ok (.phrase, .execute (.new .delete "/clients/12"))) := by
    decide +kernel
  exact ⟨h, deletion_words h rfl .standard Script.services Session.refusing⟩

/-- What "supprime" deletes is not what the method deletes. -/
theorem deletion_words_differ :
    ¬ ∀ r i, ((staged .standard .standard ("supprime" ++ " " ++ r)).run Script.services
        Session.refusing).result = some (.ok (.phrase, .execute i)) → i.method = .delete →
      ∀ word ∈ Verb.delete.words, ∃ stage,
        ((staged .standard .standard (word ++ " " ++ r)).run Script.services
          Session.refusing).result = some (.ok (stage, .execute i)) := by
  intro h
  have hphrase : ((staged .standard .standard ("supprime" ++ " " ++ "client 12")).run
      Script.services Session.refusing).result =
        some (.ok (.phrase, .execute (.new .delete "/clients/12"))) := by
    decide +kernel
  have hexact : ((staged .standard .standard ("delete" ++ " " ++ "client 12")).run
      Script.services Session.refusing).result =
        some (.ok (.exact, .execute (.of .delete "/client" (some (.int 12)) none))) := by
    decide +kernel
  obtain ⟨stage, hstage⟩ := h "client 12" _ hphrase rfl "delete" (by decide)
  rw [hexact] at hstage
  obtain ⟨-, hcall⟩ := Prod.mk.inj (Except.ok.inj (Option.some.inj hstage))
  have hpath := congrArg Instruction.path (Resolution.execute.inj hcall)
  exact absurd hpath (by decide)

end YardConsole.Resolution
