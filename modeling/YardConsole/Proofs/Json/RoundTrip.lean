import YardConsole.Proofs.Json.Loose
import YardConsole.Proofs.Json.Pass
import YardConsole.Proofs.Text.Blank

/-! # What is written is read back

In any layout that puts only blanks between its parts, what is written of a regular value without
floats is a text of that value, so it is read as the value.
-/

namespace YardConsole.Json

/-! ## Whole numbers -/

theorem takes_naturalText (negative : Bool) {n : Nat} (hn : n < Nat.pow 2 64) :
    Takes (number negative) (naturalText n) (wholeNumber negative n) :=
  ⟨isNumeral_naturalText n, fun _ hr => number_naturalText negative hn hr⟩

theorem stepText_intText {n : Int} (h : FitsWord n) (inner : Option (List Char → Json → Prop)) :
    StepText inner (intText n) (.int n) := by
  have hword : Nat.pow 2 64 = 18446744073709551616 := by decide
  have hhalf : Nat.pow 2 63 = 9223372036854775808 := by decide
  obtain ⟨hlow, hhigh⟩ := h
  cases n with
  | ofNat n =>
    rw [Int.ofNat_eq_natCast] at hhigh
    have htakes : Takes (number false) (naturalText n) (.int n) :=
      takes_naturalText false (by omega)
    cases hdigits : naturalText n with
    | nil => exact absurd hdigits Nat.toDigits_ne_nil
    | cons c cs =>
      have hc : c.isDigit = true :=
        Nat.isDigit_of_mem_toDigits (by decide) (by decide) (hdigits ▸ List.mem_cons_self ..)
      rw [hdigits] at htakes
      change StepText inner (naturalText n) _
      rw [hdigits]
      exact .natural hc htakes
  | negSucc n =>
    have hwhole : wholeNumber true (n + 1) = .int (.negSucc n) := by
      have hfits : 0 < n + 1 ∧ n + 1 ≤ Nat.pow 2 63 := by omega
      rw [wholeNumber, if_neg (by simp), if_pos hfits]
      rfl
    have htakes := takes_naturalText true (n := n + 1) (by omega)
    rw [hwhole] at htakes
    exact .negative htakes

/-! ## Lists and objects -/

structure Layout.Blank (l : Layout) : Prop where
  gap : ∀ depth, Spaces (l.gap depth)
  colon : ∃ s, l.colon = ':' :: s ∧ Spaces s

theorem Layout.blank_compact : Layout.compact.Blank := ⟨fun _ => spaces_nil, [], rfl, spaces_nil⟩

theorem Layout.blank_indented : Layout.indented.Blank := by
  refine ⟨fun depth c hc => ?_, [' '], rfl, by simp [Spaces, isSpace]⟩
  rcases List.mem_cons.mp hc with rfl | hc
  · rfl
  · rw [List.eq_of_mem_replicate hc]
    rfl

section

variable {α σ : Type} {l : Layout} {depth : Nat}

theorem itemsText_write (hl : l.Blank) {P : List Char → α → Prop} {f : α → Json} {x : α}
    {xs : List α} (h : ∀ y ∈ x :: xs, P ((f y).write l (depth + 1)) y) :
    ItemsText P ((f x).write l (depth + 1) ++ writeItems l depth (xs.map f)) (x :: xs) := by
  have hx := h x (by simp)
  induction xs generalizing x with
  | nil => exact .last hx (hl.gap depth)
  | cons y xs ih =>
    have hrest := ih (fun z hz => h z (List.mem_cons_of_mem _ hz)) (h y (by simp))
    have hmore := ItemsText.more hx spaces_nil (hl.gap (depth + 1)) hrest
    simpa [writeItems] using hmore

theorem listText_write (hl : l.Blank) {P : List Char → α → Prop} {f : α → Json} {xs : List α}
    (h : ∀ x ∈ xs, P ((f x).write l (depth + 1)) x) :
    ∃ t, (Json.arr (xs.map f)).write l depth = '[' :: t ∧ ListText P t xs := by
  cases xs with
  | nil => exact ⟨[']'], rfl, .empty spaces_nil⟩
  | cons x xs =>
    have hitems := ListText.items (hl.gap (depth + 1)) (itemsText_write hl h)
    exact ⟨_, by simp [write], hitems⟩

def memberTexts (l : Layout) (depth : Nat) (ms : List (String × Json)) :
    List (String × List Char) :=
  ms.map fun (k, x) => (k, l.colon ++ x.write l (depth + 1))

theorem membersText_write (hl : l.Blank) {Q : String → σ → List Char → σ → Prop} {k : String}
    {x : Json} {ms : List (String × Json)} {a b : σ}
    (h : Chain Q a (memberTexts l depth ((k, x) :: ms)) b) :
    MembersText Q a (stringText k ++ (l.colon ++ x.write l (depth + 1) ++ writeMembers l depth ms))
      b := by
  induction ms generalizing k x a with
  | nil =>
    cases h with
    | cons hx hms =>
      cases hms with
      | nil =>
        have hlast := MembersText.last (stringText_flatMap k.toList) hx (hl.gap depth)
        simpa [stringText, writeMembers] using hlast
  | cons m ms ih =>
    obtain ⟨k', x'⟩ := m
    cases h with
    | cons hx hms =>
      have hmore := MembersText.more (stringText_flatMap k.toList) hx spaces_nil
        (hl.gap (depth + 1)) (ih hms)
      simpa [stringText, writeMembers] using hmore

theorem objectText_write (hl : l.Blank) {Q : String → σ → List Char → σ → Prop}
    {ms : List (String × Json)} {a b : σ} (h : Chain Q a (memberTexts l depth ms) b) :
    ∃ t, (Json.obj ms).write l depth = '{' :: t ∧ ObjectText Q a t b := by
  cases ms with
  | nil =>
    cases h with
    | nil => exact ⟨['}'], rfl, .empty spaces_nil⟩
  | cons m ms =>
    obtain ⟨k, x⟩ := m
    have hmembers := ObjectText.members (hl.gap (depth + 1)) (membersText_write hl h)
    exact ⟨_, by simp [write], hmembers⟩

theorem chain_memberTexts (hl : l.Blank) {V : String → σ → List Char → σ → Prop}
    {ms : List (String × Json)} {a b : σ}
    (h : Chain V a (ms.map fun (k, x) => (k, x.write l (depth + 1))) b) :
    Chain (KeyText V) a (memberTexts l depth ms) b := by
  obtain ⟨s, hcolon, hs⟩ := hl.colon
  induction ms generalizing a with
  | nil =>
    obtain rfl := chain_nil.mp h
    exact .nil
  | cons m ms ih =>
    obtain ⟨a', hc, hms⟩ := chain_cons.mp h
    refine .cons ?_ (ih hms)
    rw [hcolon]
    exact .colon spaces_nil hs hc

theorem chain_plainText (hl : l.Blank) {P : List Char → Json → Prop} {a ms : List (String × Json)}
    (hsorted : Sorted (a ++ ms)) (h : ∀ m ∈ ms, P (m.2.write l (depth + 1)) m.2) :
    Chain (PlainText P) a (memberTexts l depth ms) (a ++ ms) := by
  -- `a` holds the members read so far; their keys are lower, so each new one goes to the end.
  induction ms generalizing a with
  | nil =>
    rw [List.append_nil]
    exact .nil
  | cons m ms ih =>
    obtain ⟨k, x⟩ := m
    obtain ⟨s, hcolon, hs⟩ := hl.colon
    have hx : PlainText P k a (l.colon ++ x.write l (depth + 1)) (a ++ [(k, x)]) := by
      rw [← insertMember_of_last x (keys_lt_of_sorted hsorted), hcolon]
      exact .colon spaces_nil hs (h (k, x) (by simp))
    have hrest := ih (a := a ++ [(k, x)]) (by simpa using hsorted)
      fun m hm => h m (List.mem_cons_of_mem _ hm)
    rw [List.append_assoc] at hrest
    exact .cons hx hrest

end

/-! ## Values -/

theorem valueText_of_stepText {depth : Nat} {c : List Char} {j : Json}
    (h : ∀ inner, StepText inner c j) : ValueText depth c j := by
  cases depth with
  | zero => exact h _
  | succ depth => exact h _

theorem valueText_write {l : Layout} (hl : l.Blank) {depth : Nat} {j : Json}
    (h : Regular depth j) (hfloat : Floatless j) (column : Nat) :
    ValueText depth (j.write l column) j := by
  induction h generalizing column with
  | null => exact valueText_of_stepText fun _ => .null
  | bool b =>
    cases b with
    | true => exact valueText_of_stepText fun _ => .yes
    | false => exact valueText_of_stepText fun _ => .no
  | int h => exact valueText_of_stepText (stepText_intText h)
  | float x => exact absurd rfl (hfloat.ne_float x)
  | str s => exact valueText_of_stepText fun _ => .string (stringText_flatMap s.toList)
  | @arr depth xs _ ih =>
    have hitems : ∀ x ∈ xs, ValueText depth (write l (column + 1) x) x := fun x hx =>
      ih x hx (hfloat.of_holds (.item hx)) (column + 1)
    obtain ⟨t, htext, ht⟩ := listText_write (f := id) hl hitems
    rw [List.map_id] at htext
    rw [htext]
    exact .list rfl ht
  | @obj depth ms hsorted _ ih =>
    have hmembers : ∀ m ∈ ms, ValueText depth (write l (column + 1) m.2) m.2 := fun m hm =>
      ih m hm (hfloat.of_holds (.member hm)) (column + 1)
    obtain ⟨t, htext, ht⟩ := objectText_write hl (chain_plainText (a := []) hl hsorted hmembers)
    rw [htext]
    exact .object rfl ht

theorem valueText_line {depth : Nat} {j : Json} (h : Regular depth j) (hfloat : Floatless j) :
    ValueText depth (line j) j :=
  valueText_write Layout.blank_compact h hfloat 0

theorem line_ne_nil {depth : Nat} {j : Json} (h : Regular depth j) (hfloat : Floatless j) :
    line j ≠ [] := by
  obtain ⟨c, cs, hline, -⟩ := (value_reads depth).begins _ _ (valueText_line h hfloat)
  rw [hline]
  exact List.cons_ne_nil c cs

theorem value_of_write {l : Layout} (hl : l.Blank) {depth : Nat} {j : Json}
    (h : Regular depth j) (hfloat : Floatless j) (column : Nat) :
    value depth (j.write l column) = .ok (j, []) := by
  have hread := (value_reads depth).takes _ _ (valueText_write hl h hfloat column) [] []
    spaces_nil stops_nil
  simpa using hread

theorem value_of_line {depth : Nat} {j : Json} (h : Regular depth j) (hfloat : Floatless j) :
    value depth (line j) = .ok (j, []) :=
  value_of_write Layout.blank_compact h hfloat 0

theorem read_line {j : Json} (h : Regular maxDepth j) (hfloat : Floatless j) :
    read (line j) = .ok j :=
  (read_eq_ok_iff _ _).mpr ⟨[], value_of_line h hfloat, rfl⟩

theorem parse_write {l : Layout} (hl : l.Blank) {j : Json} (h : Regular maxDepth j)
    (hfloat : Floatless j) : parse (String.ofList (j.write l 0)) = .ok j := by
  rw [parse, String.toList_ofList, read_eq_ok_iff]
  exact ⟨[], value_of_write hl h hfloat 0, rfl⟩

theorem startValue?_of_write {l : Layout} (hl : l.Blank) {j : Json} (h : Regular maxDepth j)
    (hfloat : Floatless j) (column : Nat) : startValue? (j.write l column) = some j := by
  rw [startValue?, value_of_write hl h hfloat]

theorem startValue?_of_line {j : Json} (h : Regular maxDepth j) (hfloat : Floatless j) :
    startValue? (line j) = some j :=
  startValue?_of_write Layout.blank_compact h hfloat 0

/-! ## The ends of a line -/

theorem isBlank_of_isNumeral {c : Char} (h : isNumeral c = true) : Text.isBlank c = false := by
  simp only [isNumeral, Bool.or_eq_true, beq_iff_eq] at h
  rcases h with ((((h | rfl) | rfl) | rfl) | rfl) | rfl
  · exact Text.isBlank_of_asciiDigit h
  all_goals decide

theorem passes_any : Passes fun _ => True := by
  constructor <;> intros <;> trivial

theorem trimmed_line (j : Json) : Text.Trimmed (line j) := by
  have hnumerals : ∀ {cs}, (∀ c ∈ cs, isNumeral c = true) → Text.Trimmed cs := fun h =>
    Text.trimmed_of_solid fun c hc => isBlank_of_isNumeral (h c hc)
  have hword : ∀ {cs}, cs.all (!Text.isBlank ·) = true → Text.Trimmed cs := fun h =>
    Text.trimmed_of_solid (Text.forall_not_blank h)
  cases j with
  | null => exact hword (by decide)
  | bool b =>
    cases b with
    | true => exact hword (by decide)
    | false => exact hword (by decide)
  | int n => exact hnumerals (isNumeral_intText n)
  | float x =>
    change Text.Trimmed (floatText x)
    rcases floatText_cases x with h | h
    · rw [h]
      exact hword (by decide)
    · exact hnumerals h
  | str s => exact Text.trimmed_of_ends (by decide) (by decide) _
  | arr xs =>
    obtain ⟨cs, hline, -⟩ := passes_any.line_arr fun x (_ : x ∈ xs) => trivial
    rw [hline]
    exact Text.trimmed_of_ends (by decide) (by decide) cs
  | obj ms =>
    obtain ⟨cs, hline, -⟩ := passes_any.line_obj fun m (_ : m ∈ ms) => trivial
    rw [hline]
    exact Text.trimmed_of_ends (by decide) (by decide) cs

end YardConsole.Json
