import Mathlib.Data.List.DropRight
import YardConsole.Proofs.Text.Find

/-! # Patterns

What a pattern takes from a text. Where it can be taken in several ways, the ways have an order, and
the first one that lets the whole pattern succeed counts.
-/

namespace YardConsole

inductive Pattern where
  | nothing
  /-- One character of a class. -/
  | one (p : Char → Bool)
  /-- Characters of a class, rather more of them than fewer. -/
  | greedy (p : Char → Bool)
  /-- Characters of a class, rather fewer of them than more. -/
  | lazy (p : Char → Bool)
  /-- No character, but a place between two, or at an end of the text. -/
  | place (p : Option Char → Option Char → Bool)
  | andThen (a b : Pattern)
  /-- One or the other, rather the first. -/
  | either (a b : Pattern)
  /-- Rather something than nothing. -/
  | optional (a : Pattern)
  | group (number : Nat) (a : Pattern)

/-- What a pattern took, what is left, and what its groups took. -/
structure Taken where
  text : List Char
  rest : List Char
  groups : List (Nat × List Char)
deriving DecidableEq

namespace Taken

def none (rest : List Char) : Taken := ⟨[], rest, []⟩

def append (t u : Taken) : Taken := ⟨t.text ++ u.text, u.rest, t.groups ++ u.groups⟩

def cons (c : Char) (t : Taken) : Taken := { t with text := c :: t.text }

def group (number : Nat) (t : Taken) : Taken := { t with groups := (number, t.text) :: t.groups }

end Taken

namespace Pattern

def atStart : Pattern := .place fun before _ => before.isNone

def atEnd : Pattern := .place fun _ after => after.isNone

def several (p : Char → Bool) : Pattern := .andThen (.one p) (.greedy p)

def severalLazy (p : Char → Bool) : Pattern := .andThen (.one p) (.lazy p)

def sequence (parts : List Pattern) : Pattern := parts.foldr .andThen .nothing

def literal (text : List Char) : Pattern := .sequence (text.map fun c => .one (· == c))

/-! ## The ways to take it -/

def beginnings (p : Char → Bool) : List Char → List Taken
  | [] => [.none []]
  | c :: cs => .none (c :: cs) :: if p c then (beginnings p cs).map (.cons c) else []

/-- The ways a pattern can take the beginning of a text, in order. `before` is the character before
the text. -/
def ways : Pattern → (before : Option Char) → List Char → List Taken
  | nothing, _, cs => [.none cs]
  | one _, _, [] => []
  | one p, _, c :: cs => if p c then [⟨[c], cs, []⟩] else []
  | greedy p, _, cs => (beginnings p cs).reverse
  | lazy p, _, cs => beginnings p cs
  | place p, before, cs => if p before cs.head? then [.none cs] else []
  | andThen a b, before, cs => (ways a before cs).flatMap fun t =>
      (ways b (t.text.getLast?.or before) t.rest).map t.append
  | either a b, before, cs => ways a before cs ++ ways b before cs
  | optional a, before, cs => ways a before cs ++ [.none cs]
  | group number a, before, cs => (ways a before cs).map (.group number)

section

variable (p : Char → Bool) (before : Option Char) (cs : List Char) (a b : Pattern)

theorem ways_nothing : ways nothing before cs = [.none cs] := rfl

theorem ways_one (c : Char) :
    ways (one p) before (c :: cs) = if p c then [⟨[c], cs, []⟩] else [] := rfl

theorem ways_greedy : ways (greedy p) before cs = (beginnings p cs).reverse := rfl

theorem ways_lazy : ways (lazy p) before cs = beginnings p cs := rfl

theorem ways_place (p : Option Char → Option Char → Bool) :
    ways (place p) before cs = if p before cs.head? then [.none cs] else [] := rfl

theorem ways_andThen : ways (.andThen a b) before cs = (ways a before cs).flatMap fun t =>
    (ways b (t.text.getLast?.or before) t.rest).map t.append := rfl

theorem ways_either : ways (.either a b) before cs = ways a before cs ++ ways b before cs := rfl

theorem ways_optional : ways (.optional a) before cs = ways a before cs ++ [.none cs] := rfl

theorem ways_group (number : Nat) :
    ways (.group number a) before cs = (ways a before cs).map (.group number) := rfl

end

def search? (a : Pattern) : (before : Option Char) → List Char → Option Taken
  | before, [] => (ways a before []).head?
  | before, c :: cs => (ways a before (c :: cs)).head?.or (search? a (some c) cs)

def captured (a : Pattern) (number : Nat) (cs : List Char) : Option (List Char) :=
  (search? a none cs).bind fun t => t.groups.lookup number

theorem captured_of_groups {a : Pattern} {number : Nat} {cs : List Char}
    {found : Option (List Char)}
    (h : (search? a none cs).map (·.groups) = found.map fun text => [(number, text)]) :
    captured a number cs = found := by
  have hlookup : captured a number cs =
      ((search? a none cs).map (·.groups)).bind (List.lookup number) := by
    rw [Option.bind_map]
    rfl
  rw [hlookup, h]
  cases found with
  | none => rfl
  | some text => rw [Option.map_some, Option.bind_some, List.lookup_cons_self]

/-! ## The first way that goes on -/

def firstWay (a : Pattern) (before : Option Char) (cs : List Char) (next : Taken → Option α) :
    Option α :=
  (ways a before cs).findSome? next

variable {α : Type} {p : Char → Bool} (before : Option Char) {cs rest : List Char} {c : Char}
  (next : Taken → Option α)

theorem findSome?_flatMap {β γ : Type} (l : List β) (f : β → List γ) (g : γ → Option α) :
    (l.flatMap f).findSome? g = l.findSome? fun x => (f x).findSome? g := by
  induction l with
  | nil => rfl
  | cons x l ih =>
    rw [List.flatMap_cons, List.findSome?_append, ih, List.findSome?_cons]
    cases (f x).findSome? g <;> rfl

theorem head?_eq_findSome? {β : Type} (l : List β) : l.head? = l.findSome? some := by
  cases l <;> rfl

theorem head?_ways (a : Pattern) (f : Taken → α) :
    ((ways a before cs).head?).map f = firstWay a before cs fun t => some (f t) := by
  rw [head?_eq_findSome?, List.map_findSome?]
  rfl

@[simp] theorem firstWay_nothing : firstWay nothing before cs next = next (.none cs) := by
  simp [firstWay, ways_nothing]

theorem firstWay_one (hc : p c = true) :
    firstWay (one p) before (c :: cs) next = next ⟨[c], cs, []⟩ := by
  simp [firstWay, ways_one, hc]

theorem firstWay_one_of_not (hc : p c = false) :
    firstWay (one p) before (c :: cs) next = none := by
  simp [firstWay, ways_one, hc]

theorem firstWay_andThen (a b : Pattern) :
    firstWay (.andThen a b) before cs next = firstWay a before cs fun t =>
      firstWay b (t.text.getLast?.or before) t.rest fun u => next (t.append u) := by
  simp only [firstWay, ways_andThen, findSome?_flatMap, List.findSome?_map]
  rfl

theorem firstWay_either (a b : Pattern) :
    firstWay (.either a b) before cs next =
      (firstWay a before cs next).or (firstWay b before cs next) := by
  simp only [firstWay, ways_either, List.findSome?_append]

theorem firstWay_optional (a : Pattern) :
    firstWay (.optional a) before cs next = (firstWay a before cs next).or (next (.none cs)) := by
  simp [firstWay, ways_optional, List.findSome?_append]

theorem firstWay_group (number : Nat) (a : Pattern) :
    firstWay (.group number a) before cs next =
      firstWay a before cs fun t => next (t.group number) := by
  simp only [firstWay, ways_group, List.findSome?_map]
  rfl

/-! ## Repetitions -/

theorem of_mem_beginnings {t : Taken} (h : t ∈ beginnings p cs) :
    t.text ++ t.rest = cs ∧ (∀ x ∈ t.text, p x = true) ∧ t.groups = [] := by
  induction cs generalizing t with
  | nil =>
    obtain rfl := List.mem_singleton.mp h
    exact ⟨rfl, List.forall_mem_nil _, rfl⟩
  | cons c cs ih =>
    rw [beginnings] at h
    rcases List.mem_cons.mp h with rfl | h
    · exact ⟨rfl, List.forall_mem_nil _, rfl⟩
    · split at h
      · rename_i hc
        obtain ⟨u, hu, rfl⟩ := List.mem_map.mp h
        obtain ⟨hsplit, hclass, hgroups⟩ := ih hu
        exact ⟨congrArg (c :: ·) hsplit, List.forall_mem_cons.mpr ⟨hc, hclass⟩, hgroups⟩
      · cases h

/-- The longest beginning comes first, and the others stop before a character of the class. -/
theorem longest_first (p : Char → Bool) (cs : List Char) : ∃ shorter,
    ways (greedy p) before cs = ⟨cs.takeWhile p, cs.dropWhile p, []⟩ :: shorter ∧
      ∀ t ∈ shorter, ∃ c rest, t.rest = c :: rest ∧ p c = true := by
  induction cs with
  | nil => exact ⟨[], rfl, nofun⟩
  | cons c cs ih =>
    cases hc : p c with
    | false => exact ⟨[], by simp [ways_greedy, beginnings, hc, Taken.none], nofun⟩
    | true =>
      obtain ⟨shorter, hways, hshorter⟩ := ih
      refine ⟨shorter.map (.cons c) ++ [.none (c :: cs)], ?_, ?_⟩
      · have hreverse : (beginnings p cs).reverse =
            ⟨cs.takeWhile p, cs.dropWhile p, []⟩ :: shorter := hways
        simp [ways_greedy, beginnings, hc, ← List.map_reverse, hreverse, Taken.cons]
      · intro t ht
        rcases List.mem_append.mp ht with ht | ht
        · obtain ⟨u, hu, rfl⟩ := List.mem_map.mp ht
          exact hshorter u hu
        · obtain rfl := List.mem_singleton.mp ht
          exact ⟨c, cs, rfl, hc⟩

theorem ways_greedy_concat {cs : List Char} {last : Char} (hcs : ∀ c ∈ cs, p c = true)
    (hlast : p last = true) : ∃ shorter, ways (greedy p) before (cs ++ [last]) =
      ⟨cs ++ [last], [], []⟩ :: ⟨cs, [last], []⟩ :: shorter := by
  induction cs with
  | nil => exact ⟨[], by simp [ways_greedy, beginnings, hlast, Taken.none, Taken.cons]⟩
  | cons c cs ih =>
    obtain ⟨shorter, hways⟩ := ih fun x hx => hcs x (List.mem_cons_of_mem c hx)
    have hreverse : (beginnings p (cs ++ [last])).reverse =
        ⟨cs ++ [last], [], []⟩ :: ⟨cs, [last], []⟩ :: shorter := hways
    refine ⟨shorter.map (.cons c) ++ [.none (c :: (cs ++ [last]))], ?_⟩
    simp [ways_greedy, beginnings, hcs c (by simp), ← List.map_reverse, hreverse, Taken.cons]

theorem firstWay_greedy (h : ∀ t c rest, (∀ x ∈ t.text, p x = true) → t.rest = c :: rest →
    p c = true → next t = none) :
    firstWay (greedy p) before cs next = next ⟨cs.takeWhile p, cs.dropWhile p, []⟩ := by
  obtain ⟨shorter, hways, hshorter⟩ := longest_first before p cs
  have hnone : shorter.findSome? next = none := by
    rw [List.findSome?_eq_none_iff]
    intro t ht
    obtain ⟨c, rest, hrest, hc⟩ := hshorter t ht
    have hmem : t ∈ beginnings p cs := by
      rw [← List.mem_reverse, ← ways_greedy p before cs, hways]
      exact List.mem_cons_of_mem _ ht
    exact h t c rest (of_mem_beginnings hmem).2.1 hrest hc
  rw [firstWay, hways, List.findSome?_cons, hnone]
  cases next ⟨cs.takeWhile p, cs.dropWhile p, []⟩ <;> rfl

theorem firstWay_greedy_of_some {x : α}
    (h : next ⟨cs.takeWhile p, cs.dropWhile p, []⟩ = some x) :
    firstWay (greedy p) before cs next = some x := by
  obtain ⟨shorter, hways, -⟩ := longest_first before p cs
  rw [firstWay, hways, List.findSome?_cons, h]

theorem firstWay_greedy_concat {last : Char} {x : α} (hcs : ∀ c ∈ cs, p c = true)
    (hlast : p last = true) (hnone : next ⟨cs ++ [last], [], []⟩ = none)
    (hsome : next ⟨cs, [last], []⟩ = some x) :
    firstWay (greedy p) before (cs ++ [last]) next = some x := by
  obtain ⟨shorter, hways⟩ := ways_greedy_concat before hcs hlast
  rw [firstWay, hways, List.findSome?_cons, hnone, List.findSome?_cons, hsome]

theorem firstWay_several :
    firstWay (several p) before (c :: cs) next =
      if p c then firstWay (greedy p) (some c) cs fun t => next (t.cons c) else none := by
  rw [several, firstWay_andThen]
  cases hc : p c with
  | true =>
    rw [firstWay_one before _ hc]
    rfl
  | false => rw [firstWay_one_of_not before _ hc]; rfl

@[simp] theorem firstWay_sequence_nil :
    firstWay (sequence []) before cs next = next (.none cs) := firstWay_nothing before next

theorem firstWay_sequence_cons (a : Pattern) (parts : List Pattern) :
    firstWay (sequence (a :: parts)) before cs next = firstWay a before cs fun t =>
      firstWay (sequence parts) (t.text.getLast?.or before) t.rest fun u => next (t.append u) :=
  firstWay_andThen before next a (sequence parts)

theorem firstWay_literal (text : List Char) :
    firstWay (literal text) before cs next =
      if text <+: cs then next ⟨text, cs.drop text.length, []⟩ else none := by
  induction text generalizing before cs next with
  | nil => simp [literal, Taken.none]
  | cons d text ih =>
    have hliteral : literal (d :: text) = .sequence (.one (· == d) :: text.map fun c =>
      .one (· == c)) := rfl
    rw [hliteral, firstWay_sequence_cons]
    cases cs with
    | nil => simp [firstWay, ways]
    | cons c cs =>
      by_cases hc : c = d
      · subst hc
        rw [firstWay_one (p := (· == c)) _ _ (beq_self_eq_true c)]
        simp only [List.cons_prefix_cons, true_and]
        exact ih _ _
      · rw [firstWay_one_of_not (p := (· == d)) _ _ (beq_false_of_ne hc), if_neg]
        rw [List.cons_prefix_cons]
        exact fun h => hc h.1.symm

theorem firstWay_atEnd :
    firstWay atEnd before cs next = if cs.isEmpty then next (.none cs) else none := by
  cases cs <;> simp [firstWay, ways_place, atEnd]

theorem search?_atStart (parts : List Pattern) (cs : List Char) :
    search? (sequence (atStart :: parts)) none cs = firstWay (sequence parts) none cs some := by
  have hlater : ∀ c cs, search? (sequence (atStart :: parts)) (some c) cs = none := by
    intro c cs
    induction cs generalizing c with
    | nil => rfl
    | cons d cs ih => exact ih d
  have hhere : (ways (sequence (atStart :: parts)) none cs).head? =
      firstWay (sequence parts) none cs some := by
    rw [head?_eq_findSome?]
    refine (firstWay_sequence_cons none some atStart parts).trans ?_
    simp [firstWay, ways_place, atStart, Taken.append, Taken.none]
  cases cs with
  | nil => exact hhere
  | cons c cs => rw [search?, hhere, hlater, Option.or_none]

theorem firstWay_lazy {q : Char → Bool} {a b : List Char} (f : Taken → α)
    (ha : ∀ c ∈ a.getLast?, q c = false) (hb : ∀ c ∈ b, q c = true) :
    (firstWay (lazy fun _ => true) before (a ++ b) fun t =>
      if t.rest.all q then some (f t) else none) = some (f ⟨a, b, []⟩) := by
  induction a generalizing f with
  | nil =>
    have hall : b.all q = true := by simpa using hb
    cases b with
    | nil => rfl
    | cons c b =>
      rw [List.nil_append, firstWay, ways_lazy, beginnings, List.findSome?_cons]
      simp only [Taken.none, hall, if_true]
  | cons c a ih =>
    have hstop : ((c :: a) ++ b).all q = false := by
      rw [List.all_append, Bool.and_eq_false_iff]
      refine .inl (List.all_eq_false.mpr ⟨(c :: a).getLast (by simp), List.getLast_mem _, ?_⟩)
      simpa using ha _ (List.getLast?_eq_some_getLast _)
    have hrest : ∀ x ∈ a.getLast?, q x = false := by
      intro x hx
      refine ha x ?_
      rw [List.getLast?_cons, Option.mem_def.mp hx]
      rfl
    have hnext := ih (fun t => f (t.cons c)) hrest
    rw [firstWay, ways_lazy] at hnext ⊢
    rw [List.cons_append] at hstop ⊢
    rw [beginnings, List.findSome?_cons]
    simp only [Taken.none, hstop, Bool.false_eq_true, if_false, if_true, List.findSome?_map]
    exact hnext

theorem firstWay_lazy_cut (needle : List Char) (f : Taken → α) :
    (firstWay (lazy fun _ => true) before cs fun t =>
      if needle <+: t.rest then some (f t) else none) =
      (Text.cut needle cs).map fun x => f ⟨x.1, needle ++ x.2, []⟩ := by
  rw [firstWay, ways_lazy]
  induction cs generalizing f with
  | nil =>
    cases needle with
    | nil => rfl
    | cons d needle => simp [beginnings, Taken.none, Text.cut]
  | cons c cs ih =>
    rw [beginnings, List.findSome?_cons]
    by_cases hstart : needle <+: c :: cs
    · have hstands : needle <+: (Taken.none (c :: cs)).rest := hstart
      rw [if_pos hstands, Text.cut_of_start hstart, Option.map_some,
        ← List.prefix_iff_eq_append.mp hstart]
      simp [Taken.none]
    · have hnone : ¬ needle <+: (Taken.none (c :: cs)).rest := hstart
      rw [if_neg hnone, Text.cut_of_not_start hstart, if_pos rfl, List.findSome?_map,
        Option.map_map]
      exact ih fun t => f (t.cons c)

end Pattern

end YardConsole
