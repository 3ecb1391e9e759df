import YardConsole.Proofs.Json.Basic
import YardConsole.Proofs.Json.Integer
import YardConsole.Proofs.Json.Value

/-! # Regular values

What the reader gives: whole numbers that fit, members in order, and brackets no deeper than it
goes.
-/

namespace YardConsole.Json

/-! ## Regular values -/

/-- A value as the reader gives it, with brackets at most `depth` deep. -/
inductive Regular : (depth : Nat) → Json → Prop
  | null {depth} : Regular depth .null
  | bool {depth} (b : Bool) : Regular depth (.bool b)
  | int {depth n} (h : FitsWord n) : Regular depth (.int n)
  | float {depth} (x : Float) : Regular depth (.float x)
  | str {depth} (s : String) : Regular depth (.str s)
  | arr {depth xs} (h : ∀ x ∈ xs, Regular depth x) : Regular (depth + 1) (.arr xs)
  | obj {depth ms} (hsorted : Sorted ms) (h : ∀ m ∈ ms, Regular depth m.2) :
      Regular (depth + 1) (.obj ms)

def Floatless (j : Json) : Prop := ∀ x, ¬ Within j (.float x)

theorem Regular.mono {depth depth' : Nat} {j : Json} (h : Regular depth j)
    (hle : depth ≤ depth') : Regular depth' j := by
  induction h generalizing depth' with
  | null => exact .null
  | bool b => exact .bool b
  | int h => exact .int h
  | float x => exact .float x
  | str s => exact .str s
  | arr _ ih =>
    obtain ⟨d, rfl⟩ := Nat.exists_eq_add_of_lt hle
    exact .arr fun x hx => ih x hx (by omega)
  | obj hsorted _ ih =>
    obtain ⟨d, rfl⟩ := Nat.exists_eq_add_of_lt hle
    exact .obj hsorted fun m hm => ih m hm (by omega)

theorem Regular.of_holds {depth : Nat} {j x : Json} (h : Regular depth j) (hx : Holds j x) :
    Regular depth x := by
  cases hx with
  | item hmem =>
    cases h with
    | arr h => exact (h x hmem).mono (Nat.le_succ _)
  | member hmem =>
    cases h with
    | obj _ h => exact (h _ hmem).mono (Nat.le_succ _)

theorem Regular.of_contains {depth : Nat} {j x : Json} (h : Regular depth j)
    (hx : Contains j x) : Regular depth x := by
  induction hx with
  | single hx => exact h.of_holds hx
  | tail _ hx ih => exact ih.of_holds hx

theorem Floatless.of_holds {j x : Json} (h : Floatless j) (hx : Holds j x) : Floatless x :=
  fun f hf => h f (.inr (within_of_holds hx hf))

theorem Floatless.of_contains {j x : Json} (h : Floatless j) (hx : Contains j x) : Floatless x := by
  induction hx with
  | single hx => exact h.of_holds hx
  | tail _ hx ih => exact ih.of_holds hx

theorem Floatless.of_parts {j : Json} (hj : ∀ x, j ≠ .float x) (h : ∀ x, Holds j x → Floatless x) :
    Floatless j := by
  rintro f (heq | hin)
  · exact hj f heq.symm
  · obtain ⟨x, hx, hf⟩ := Relation.TransGen.head'_iff.mp hin
    rcases Relation.reflTransGen_iff_eq_or_transGen.mp hf with heq | hf
    · exact h x hx f (.inl heq)
    · exact h x hx f (.inr hf)

theorem Floatless.null : Floatless .null := .of_parts nofun nofun

theorem Floatless.int (n : Int) : Floatless (.int n) := .of_parts nofun nofun

theorem Floatless.str (s : String) : Floatless (.str s) := .of_parts nofun nofun

theorem Floatless.arr {xs : List Json} (h : ∀ x ∈ xs, Floatless x) : Floatless (.arr xs) := by
  refine .of_parts nofun fun x hx => ?_
  cases hx with
  | item hmem => exact h _ hmem

theorem Floatless.obj {ms : List (String × Json)} (h : ∀ m ∈ ms, Floatless m.2) :
    Floatless (.obj ms) := by
  refine .of_parts nofun fun x hx => ?_
  cases hx with
  | member hmem => exact h _ hmem

theorem Floatless.ne_float {j : Json} (h : Floatless j) (x : Float) : j ≠ .float x :=
  fun hj => h x (.inl hj.symm)

section

variable {j : Json}

theorem Regular.item {depth : Nat} (h : Regular depth j) : Regular (depth + 1) (.arr [j]) :=
  .arr (List.forall_mem_singleton.mpr h)

theorem Regular.member (k : String) {depth : Nat} (h : Regular depth j) :
    Regular (depth + 1) (.obj [(k, j)]) :=
  .obj (List.pairwise_singleton _ _) (List.forall_mem_singleton.mpr h)

theorem Floatless.item (h : Floatless j) : Floatless (.arr [j]) :=
  .arr (List.forall_mem_singleton.mpr h)

theorem Floatless.member (k : String) (h : Floatless j) : Floatless (.obj [(k, j)]) :=
  .obj (List.forall_mem_singleton.mpr h)

end

/-! ## What is read is regular -/

variable {α σ : Type}

theorem ListText.forall_mem {P : List Char → α → Prop} {q : α → Prop} (hq : ∀ c x, P c x → q x)
    {t : List Char} {xs : List α} (h : ListText P t xs) : ∀ x ∈ xs, q x := by
  have hitems : ∀ {t xs}, ItemsText P t xs → ∀ x ∈ xs, q x := by
    intro t xs ht
    induction ht with
    | last hx => simpa using hq _ _ hx
    | more hx _ _ _ ih => simpa using ⟨hq _ _ hx, ih⟩
  cases h with
  | empty => simp
  | items _ ht => exact hitems ht

theorem ObjectText.keeps {Q : String → σ → List Char → σ → Prop} {a b : σ} {t : List Char}
    (h : ObjectText Q a t b) (inv : σ → Prop) (step : ∀ key a c b, Q key a c b → inv a → inv b)
    (ha : inv a) : inv b := by
  have hmembers : ∀ {a t b}, MembersText Q a t b → inv a → inv b := by
    intro a t b ht
    induction ht with
    | last _ hm => exact step _ _ _ _ hm
    | more _ hm _ _ _ ih => exact fun ha => ih (step _ _ _ _ hm ha)
  cases h with
  | empty => exact ha
  | members _ ht => exact hmembers ht ha

theorem IsNumber.regular {j : Json} (h : IsNumber j) (depth : Nat) : Regular depth j := by
  cases h with
  | int h => exact .int h
  | float x => exact .float x

theorem IsNumber.of_takes {negative : Bool} {cs : List Char} {j : Json}
    (h : Takes (number negative) cs j) : IsNumber j :=
  isNumber_of_number (h.reads [] stops_nil)

theorem regular_of_objectText {V : List Char → Json → Prop} {depth : Nat}
    (hV : ∀ c x, V c x → Regular depth x) {t : List Char} {ms : List (String × Json)}
    (h : ObjectText (PlainText V) [] t ms) : Regular (depth + 1) (.obj ms) := by
  -- Each member is put at its place among those before it.
  have hkeeps : Sorted ms ∧ ∀ m ∈ ms, Regular depth m.2 := by
    refine h.keeps (fun ms => Sorted ms ∧ ∀ m ∈ ms, Regular depth m.2) ?_
      ⟨List.Pairwise.nil, by simp⟩
    rintro key a c b ⟨-, -, hv⟩ ⟨hsorted, hregular⟩
    refine ⟨sorted_insertMember _ _ hsorted, fun m hm => ?_⟩
    rcases mem_insertMember hm with rfl | hm
    · exact hV _ _ hv
    · exact hregular m hm
  exact .obj hkeeps.1 hkeeps.2

theorem regular_of_stepText {inner : Option (List Char → Json → Prop)} {depth : Nat}
    (hinner : ∀ V, inner = some V → ∃ d, depth = d + 1 ∧ ∀ c x, V c x → Regular d x)
    {c : List Char} {j : Json} (h : StepText inner c j) : Regular depth j := by
  cases h with
  | null => exact .null
  | yes => exact .bool true
  | no => exact .bool false
  | negative h => exact (IsNumber.of_takes h).regular depth
  | natural _ h => exact (IsNumber.of_takes h).regular depth
  | string => exact .str _
  | list heq h =>
    obtain ⟨d, rfl, hV⟩ := hinner _ heq
    exact .arr (h.forall_mem hV)
  | object heq h =>
    obtain ⟨d, rfl, hV⟩ := hinner _ heq
    exact regular_of_objectText hV h

theorem regular_of_valueText {depth : Nat} {c : List Char} {j : Json} (h : ValueText depth c j) :
    Regular depth j := by
  induction depth generalizing c j with
  | zero =>
    refine regular_of_stepText ?_ h
    rintro V ⟨⟩
  | succ depth ih =>
    refine regular_of_stepText ?_ h
    rintro V ⟨⟩
    exact ⟨depth, rfl, fun _ _ => ih⟩

theorem regular_of_value {depth : Nat} {s r : List Char} {j : Json}
    (h : value depth s = .ok (j, r)) : Regular depth j := by
  obtain ⟨sp, c, -, -, htext⟩ := (value_reads depth).sound s j r h
  exact regular_of_valueText htext

theorem regular_of_startValue? {cs : List Char} {j : Json} (h : startValue? cs = some j) :
    Regular maxDepth j := by
  obtain ⟨r, hread⟩ := startValue?_eq_some h
  exact regular_of_value hread

theorem read_eq_ok_iff (text : List Char) (j : Json) :
    read text = .ok j ↔ ∃ r, value maxDepth text = .ok (j, r) ∧ skipSpace r = [] := by
  unfold read readWith
  cases value maxDepth text with
  | error f => simp
  | ok found =>
    obtain ⟨x, r⟩ := found
    simp only [Except.ok.injEq, Prod.mk.injEq]
    split
    · rename_i hskip
      simp only [Except.ok.injEq]
      exact ⟨fun hx => ⟨r, ⟨hx, rfl⟩, hskip⟩, fun ⟨_, ⟨hx, _⟩, _⟩ => hx⟩
    · rename_i hskip
      refine ⟨nofun, ?_⟩
      rintro ⟨_, ⟨-, rfl⟩, hnil⟩
      exact absurd hnil hskip

theorem regular_of_read {text : List Char} {j : Json} (h : read text = .ok j) :
    Regular maxDepth j := by
  obtain ⟨r, hvalue, -⟩ := (read_eq_ok_iff text j).mp h
  exact regular_of_value hvalue

/-! ## Blanks alone -/

theorem StepText.head_not_blank {inner : Option (List Char → Json → Prop)} {cs : List Char}
    {j : Json} (h : StepText inner cs j) : ∃ c ∈ cs, Text.isBlank c = false := by
  cases h with
  | natural hc => exact ⟨_, List.mem_cons_self .., Text.isBlank_of_asciiDigit hc⟩
  | _ => exact ⟨_, List.mem_cons_self .., by decide⟩

theorem read_of_blank {cs : List Char} (h : ∀ c ∈ cs, Text.isBlank c = true) :
    ∃ e, read cs = .error e := by
  cases hread : read cs with
  | error e => exact ⟨e, rfl⟩
  | ok j =>
    obtain ⟨r, hvalue, -⟩ := (read_eq_ok_iff cs j).mp hread
    obtain ⟨sp, c, rfl, -, hstep⟩ := stepText_of_valueStep (.some (value_reads 126)) hvalue
    obtain ⟨x, hx, hsolid⟩ := hstep.head_not_blank
    rw [h x (by simp [hx])] at hsolid
    cases hsolid

end YardConsole.Json
