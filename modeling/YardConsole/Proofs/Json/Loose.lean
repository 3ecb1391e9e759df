import YardConsole.Proofs.Json.Regular
import YardConsole.Proofs.Json.Skip

/-! # What is read could have been passed over -/

namespace YardConsole.Json

/-! ## Numbers -/

section

variable {negative : Bool} {j : Json} {s r : List Char}

theorem powerText_of_signedPower {digits : Nat} {start : Int}
    (h : signedPower negative digits start s = .ok (j, r)) :
    ∃ sign ds, s = sign ++ (ds ++ r) ∧ IsSign sign ∧ Digits ds := by
  unfold signedPower at h
  split at h
  · obtain ⟨ds, rfl, hds, -⟩ := power_reads _ _ _ _ h
    exact ⟨['+'], ds, rfl, .inr (.inl rfl), hds⟩
  · obtain ⟨ds, rfl, hds, -⟩ := power_reads _ _ _ _ h
    exact ⟨['-'], ds, rfl, .inr (.inr rfl), hds⟩
  · obtain ⟨ds, rfl, hds, -⟩ := power_reads _ _ _ _ h
    exact ⟨[], ds, rfl, .inl rfl, hds⟩

theorem powerText_of_afterDigits {digits : Nat} {start : Int}
    (h : afterDigits negative digits start s = .ok (j, r)) : ∃ p, s = p ++ r ∧ PowerText p := by
  unfold afterDigits at h
  split at h
  · obtain ⟨sign, ds, rfl, hsign, hds⟩ := powerText_of_signedPower h
    exact ⟨_, by simp, .power (.inl rfl) hsign hds⟩
  · obtain ⟨sign, ds, rfl, hsign, hds⟩ := powerText_of_signedPower h
    exact ⟨_, by simp, .power (.inr rfl) hsign hds⟩
  · obtain ⟨rfl, -⟩ := floatOf_takes h
    exact ⟨[], rfl, .none⟩

theorem fractionText_of_afterWhole {n dropped : Nat}
    (h : afterWhole negative n dropped s = .ok (j, r)) :
    ∃ f p, s = f ++ (p ++ r) ∧ FractionText f ∧ PowerText p := by
  unfold afterWhole at h
  split at h
  · obtain ⟨ds, t, rfl, hds, ht⟩ := digits_of_fraction h
    rw [fraction_append _ _ _ hds ht] at h
    obtain ⟨p, rfl, hp⟩ := powerText_of_afterDigits h
    exact ⟨'.' :: ds, p, rfl, .point hds, hp⟩
  · obtain ⟨sign, ds, rfl, hsign, hds⟩ := powerText_of_signedPower h
    exact ⟨[], _, by simp, .none, .power (.inl rfl) hsign hds⟩
  · obtain ⟨sign, ds, rfl, hsign, hds⟩ := powerText_of_signedPower h
    exact ⟨[], _, by simp, .none, .power (.inr rfl) hsign hds⟩
  · have hend : r = s := by
      split at h
      · cases h
        rfl
      · exact (floatOf_takes h).1
    exact ⟨[], [], by rw [hend]; rfl, .none, .none⟩

theorem numberText_of_number (h : number negative s = .ok (j, r)) :
    ∃ c, s = c ++ r ∧ NumberText c := by
  cases s with
  | nil => cases h
  | cons c s =>
    by_cases hzero : c = '0'
    · rw [number, if_pos hzero] at h
      split at h
      · cases h
      · obtain ⟨f, p, rfl, hf, hp⟩ := fractionText_of_afterWhole h
        subst hzero
        exact ⟨_, by simp, .parts .zero hf hp⟩
    · have hc : c.isDigit = true := by
        by_contra hc
        rw [number, if_neg hzero, if_neg hc] at h
        cases h
      obtain ⟨ds, t, rfl, hall, ht⟩ := digits_append s
      have hds : Digits (c :: ds) := ⟨by simp, by simpa [hc] using hall⟩
      rw [number_append _ hzero hds ht] at h
      obtain ⟨f, p, rfl, hf, hp⟩ := fractionText_of_afterWhole h
      exact ⟨_, by simp, .parts (.digits hzero hds) hf hp⟩

end

/-! ## Strings -/

theorem StringText.quoted {cs xs : List Char} (h : StringText cs xs) : QuotedText cs := by
  induction h with
  | close => exact .close
  | plain hquote hslash hcontrol _ ih => exact .plain hquote hslash hcontrol ih
  | escape he _ ih =>
    cases he with
    | short he => exact .short (by simp [he]) ih
    | unit hhs => exact .unit hhs ih
    | pair hhs hhs' =>
      have hpair := QuotedText.unit hhs (.unit hhs' ih)
      simpa using hpair

/-! ## Lists and objects -/

section

variable {α σ : Type} {V : List Char → Prop}

theorem ItemsText.loose {P : List Char → α → Prop} (hP : ∀ c x, P c x → V c) {t : List Char}
    {xs : List α} (h : ItemsText P t xs) : LooseItems V t := by
  induction h with
  | last hx hs => exact .last spaces_nil (hP _ _ hx) hs
  | more hx hs hs' _ ih => exact .more spaces_nil (hP _ _ hx) hs (ih.spaces hs')

theorem ListText.loose {P : List Char → α → Prop} (hP : ∀ c x, P c x → V c) {t : List Char}
    {xs : List α} (h : ListText P t xs) : LooseStep V ('[' :: t) := by
  cases h with
  | empty hs => exact .noItems hs
  | items hs ht => exact .items ((ht.loose hP).spaces hs)

/-- A colon and a text of `V`, with blanks before each. -/
inductive Behind (V : List Char → Prop) : List Char → Prop
  | colon {s s' c} (hs : Spaces s) (hs' : Spaces s') (hc : V c) : Behind V (s ++ ':' :: (s' ++ c))

theorem MembersText.loose {Q : String → σ → List Char → σ → Prop}
    (hQ : ∀ key a c b, Q key a c b → Behind V c) {a b : σ} {t : List Char}
    (h : MembersText Q a t b) : LooseMembers V t := by
  have hmember : ∀ {k c s key a b}, StringText k key.toList → Q key a c b → Spaces s →
      LooseMember V ('"' :: (k ++ (c ++ s))) := by
    intro k c s key a b hk hc hs
    cases hQ _ _ _ _ hc with
    | colon hs' hs'' hx => simpa using LooseMember.colon spaces_nil hk.quoted hs' hs'' hx hs
  induction h with
  | last hk hm hs => simpa using LooseMembers.last (hmember hk hm hs)
  | more hk hm hs hs' _ ih => simpa using LooseMembers.more (hmember hk hm hs) (ih.spaces hs')

theorem ObjectText.loose {Q : String → σ → List Char → σ → Prop}
    (hQ : ∀ key a c b, Q key a c b → Behind V c) {a b : σ} {t : List Char}
    (h : ObjectText Q a t b) : LooseStep V ('{' :: t) := by
  cases h with
  | empty hs => exact .noMembers hs
  | members hs ht => exact .members ((ht.loose hQ).spaces hs)

end

/-! ## Values -/

theorem Loose.of_step {c : List Char} (h : LooseStep Loose c) : Loose c := by
  refine ⟨c.length + 1, h.mono fun x hlt hx => ?_⟩
  obtain ⟨depth, hx⟩ := hx
  exact hx.of_length hlt.le

theorem NumberText.of_takes {negative : Bool} {c : List Char} {j : Json}
    (h : Takes (number negative) c j) : NumberText c := by
  obtain ⟨c', hc, hnumber⟩ := numberText_of_number (h.reads [] stops_nil)
  rwa [List.append_cancel_right hc]

theorem StepText.loose {inner : Option (List Char → Json → Prop)}
    (hinner : ∀ V, inner = some V → ∀ c x, V c x → Loose c) {c : List Char} {j : Json}
    (h : StepText inner c j) : Loose c := by
  apply Loose.of_step
  cases h with
  | null => exact .null
  | yes => exact .yes
  | no => exact .no
  | negative h => exact .negative (.of_takes h)
  | natural _ h => exact .natural (.of_takes h)
  | string h => exact .string h.quoted
  | list heq h => exact h.loose (hinner _ heq)
  | object heq h =>
    refine h.loose fun key a c b hc => ?_
    cases hc with
    | colon hs hs' hv => exact .colon hs hs' (hinner _ heq _ _ hv)

theorem ValueText.loose {depth : Nat} {c : List Char} {j : Json} (h : ValueText depth c j) :
    Loose c := by
  induction depth generalizing c j with
  | zero =>
    refine StepText.loose ?_ h
    rintro V ⟨⟩
  | succ depth ih =>
    refine StepText.loose ?_ h
    rintro V ⟨⟩
    exact fun _ _ => ih

/-! ## The texts of members -/

section

variable {σ : Type} {V : String → σ → List Char → σ → Prop}

/-- A colon and a text of `V`, which depends on the key and on what is known so far. -/
inductive KeyText (V : String → σ → List Char → σ → Prop) (key : String) (a : σ) :
    List Char → σ → Prop
  | colon {s s' c b} (hs : Spaces s) (hs' : Spaces s') (hc : V key a c b) :
      KeyText V key a (s ++ ':' :: (s' ++ c)) b

def Lists (key : String) (a : List (String × List Char)) (c : List Char)
    (b : List (String × List Char)) : Prop :=
  Loose c ∧ b = a ++ [(key, c)]

def BraceText (t : List Char) (ms : List (String × List Char)) : Prop :=
  ObjectText (KeyText Lists) [] t ms

inductive Chain (V : String → σ → List Char → σ → Prop) :
    σ → List (String × List Char) → σ → Prop
  | nil {a} : Chain V a [] a
  | cons {key a c b ms b'} (h : V key a c b) (hms : Chain V b ms b') :
      Chain V a ((key, c) :: ms) b'

theorem chain_nil {a b : σ} : Chain V a [] b ↔ b = a := by
  constructor
  · intro h
    cases h with
    | nil => rfl
  · rintro rfl
    exact .nil

theorem chain_cons {key : String} {c : List Char} {ms : List (String × List Char)} {a b : σ} :
    Chain V a ((key, c) :: ms) b ↔ ∃ a', V key a c a' ∧ Chain V a' ms b := by
  constructor
  · intro h
    cases h with
    | cons hc hms => exact ⟨_, hc, hms⟩
  · rintro ⟨a', hc, hms⟩
    exact .cons hc hms

theorem Chain.append {a b c : σ} {ms ms' : List (String × List Char)} (h : Chain V a ms b)
    (h' : Chain V b ms' c) : Chain V a (ms ++ ms') c := by
  induction h with
  | nil => exact h'
  | cons hc _ ih => exact .cons hc (ih h')

theorem KeyText.behind (hV : ∀ key a c b, V key a c b → Loose c) {key : String} {a b : σ}
    {c : List Char} (h : KeyText V key a c b) : Behind Loose c := by
  cases h with
  | colon hs hs' hc => exact .colon hs hs' (hV _ _ _ _ hc)

theorem BraceText.loose {t : List Char} {ms : List (String × List Char)} (h : BraceText t ms) :
    ∀ m ∈ ms, Loose m.2 := by
  refine ObjectText.keeps h (fun ms => ∀ m ∈ ms, Loose m.2) ?_ (by simp)
  rintro key a c b ⟨-, -, hc, rfl⟩ ha m hm
  rcases List.mem_append.mp hm with hm | hm
  · exact ha m hm
  · obtain rfl := List.mem_singleton.mp hm
    exact hc

theorem BraceText.loose_brace {t : List Char} {ms : List (String × List Char)}
    (h : BraceText t ms) : Loose ('{' :: t) := by
  refine .of_step (ObjectText.loose (fun key a c b hc => ?_) h)
  exact hc.behind fun _ _ _ _ hlists => hlists.1

theorem MembersText.chain (hV : ∀ key a c b, V key a c b → Loose c) {a b : σ} {t : List Char}
    (h : MembersText (KeyText V) a t b) :
    ∃ ms, Chain V a ms b ∧ ∀ done, MembersText (KeyText Lists) done t (done ++ ms) := by
  induction h with
  | @last k key c a b s hk hm hs =>
    cases hm with
    | @colon s' s'' c b hs' hs'' hc =>
      refine ⟨[(key, c)], .cons hc .nil, fun done => ?_⟩
      exact .last hk (.colon hs' hs'' ⟨hV _ _ _ _ hc, rfl⟩) hs
  | @more k key c a b b' s s' t hk hm hs hs' _ ih =>
    obtain ⟨ms, hchain, htext⟩ := ih
    cases hm with
    | @colon s₁ s₂ c b hs₁ hs₂ hc =>
      refine ⟨(key, c) :: ms, .cons hc hchain, fun done => ?_⟩
      have hrest := htext (done ++ [(key, c)])
      rw [List.append_assoc] at hrest
      exact .more hk (.colon hs₁ hs₂ ⟨hV _ _ _ _ hc, rfl⟩) hs hs' hrest

theorem MembersText.of_chain {t : List Char} {done ms : List (String × List Char)}
    (h : MembersText (KeyText Lists) done t ms) :
    ∃ new, ms = done ++ new ∧ ∀ a b, Chain V a new b → MembersText (KeyText V) a t b := by
  induction h with
  | @last k key c done _ s hk hm hs =>
    obtain ⟨hs', hs'', -, rfl⟩ := hm
    refine ⟨_, rfl, fun a b hchain => ?_⟩
    cases hchain with
    | cons hc hms =>
      cases hms with
      | nil => exact .last hk (.colon hs' hs'' hc) hs
  | @more k key c done _ _ s s' t hk hm hs hs' _ ih =>
    obtain ⟨hs₁, hs₂, -, rfl⟩ := hm
    obtain ⟨new, rfl, htext⟩ := ih
    refine ⟨_ :: new, List.append_assoc _ _ _, fun a b hchain => ?_⟩
    cases hchain with
    | cons hc hms => exact .more hk (.colon hs₁ hs₂ hc) hs hs' (htext _ _ hms)

theorem objectText_iff_chain (hV : ∀ key a c b, V key a c b → Loose c) {a b : σ}
    {t : List Char} :
    ObjectText (KeyText V) a t b ↔ ∃ ms, BraceText t ms ∧ Chain V a ms b := by
  constructor
  · intro h
    cases h with
    | empty hs => exact ⟨[], .empty hs, .nil⟩
    | members hs ht =>
      obtain ⟨ms, hchain, htext⟩ := ht.chain hV
      exact ⟨ms, .members hs (htext []), hchain⟩
  · rintro ⟨ms, htext, hchain⟩
    cases htext with
    | empty hs =>
      cases hchain with
      | nil => exact .empty hs
    | members hs ht =>
      obtain ⟨new, rfl, hmembers⟩ := ht.of_chain (V := V)
      exact .members hs (hmembers a b hchain)

end

end YardConsole.Json
