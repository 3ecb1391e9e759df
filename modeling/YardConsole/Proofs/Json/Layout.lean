import YardConsole.Proofs.Json.RoundTrip
import YardConsole.Proofs.Text.Find

/-! # What the layout does not change

A text that has no character of the layout stands in strings, keys and numbers alone, so it is in
all layouts of a value or in none.
-/

namespace YardConsole.Json

/-- A character that can stand between strings and numbers. -/
def isGlue (c : Char) : Bool := isSpace c || c ∈ ['[', ']', '{', '}', ',', ':']

section

variable {needle : List Char} (hfree : ∀ c, isGlue c = true → c ∉ needle) {l : Layout}
  (hl : l.Blank)
include hfree hl

theorem free_gap (depth : Nat) : ∀ c ∈ l.gap depth, c ∉ needle :=
  fun c hc => hfree c (by simp [isGlue, hl.gap depth c hc])

theorem free_gap_close (depth : Nat) {b : Char} (hb : isGlue b = true) :
    ∀ c ∈ l.gap depth ++ [b], c ∉ needle := by
  intro c hc
  rcases List.mem_append.mp hc with hc | hc
  · exact free_gap hfree hl depth c hc
  · rw [List.mem_singleton.mp hc]
    exact hfree b hb

theorem free_colon (cs ds : List Char) :
    needle <:+: cs ++ (l.colon ++ ds) ↔ needle <:+: cs ∨ needle <:+: ds := by
  obtain ⟨s, hcolon, hs⟩ := hl.colon
  rw [hcolon, List.cons_append, Text.infix_append_cons (hfree ':' rfl),
    Text.infix_append_left fun c hc => hfree c (by simp [isGlue, hs c hc])]

/-! ## Lists -/

theorem infix_writeItems (depth : Nat) (cs : List Char) (xs : List Json) :
    needle <:+: cs ++ writeItems l depth xs ↔
      needle <:+: cs ∨ ∃ x ∈ xs, needle <:+: x.write l (depth + 1) := by
  -- `cs` is the item before, which ends at the comma or at the bracket.
  induction xs generalizing cs with
  | nil =>
    rw [writeItems, Text.infix_append_right cs (free_gap_close hfree hl depth rfl)]
    simp
  | cons x xs ih =>
    rw [writeItems, List.cons_append, List.cons_append, Text.infix_append_cons (hfree ',' rfl),
      List.append_assoc, Text.infix_append_left (free_gap hfree hl _), ih]
    simp

theorem infix_write_arr (hne : needle ≠ []) (depth : Nat) (xs : List Json) :
    needle <:+: (Json.arr xs).write l depth ↔
      ∃ x ∈ xs, needle <:+: x.write l (depth + 1) := by
  cases xs with
  | nil =>
    rw [write, Text.infix_cons_of_free (hfree '[' rfl), Text.infix_cons_of_free (hfree ']' rfl)]
    simp [hne]
  | cons x xs =>
    rw [write, List.cons_append, List.cons_append, Text.infix_cons_of_free (hfree '[' rfl),
      List.append_assoc, Text.infix_append_left (free_gap hfree hl _),
      infix_writeItems hfree hl]
    simp

/-! ## Objects -/

theorem infix_writeMembers (depth : Nat) (cs : List Char) (ms : List (String × Json)) :
    needle <:+: cs ++ writeMembers l depth ms ↔ needle <:+: cs ∨
      ∃ m ∈ ms, needle <:+: stringText m.1 ∨ needle <:+: m.2.write l (depth + 1) := by
  induction ms generalizing cs with
  | nil =>
    rw [writeMembers, Text.infix_append_right cs (free_gap_close hfree hl depth rfl)]
    simp
  | cons m ms ih =>
    obtain ⟨k, x⟩ := m
    simp only [writeMembers, List.cons_append, List.append_assoc]
    rw [Text.infix_append_cons (hfree ',' rfl), Text.infix_append_left (free_gap hfree hl _),
      free_colon hfree hl, ih]
    simp [or_assoc]

theorem infix_write_obj (hne : needle ≠ []) (depth : Nat) (ms : List (String × Json)) :
    needle <:+: (Json.obj ms).write l depth ↔
      ∃ m ∈ ms, needle <:+: stringText m.1 ∨ needle <:+: m.2.write l (depth + 1) := by
  cases ms with
  | nil =>
    rw [write, Text.infix_cons_of_free (hfree '{' rfl),
      Text.infix_cons_of_free (hfree '}' rfl)]
    simp [hne]
  | cons m ms =>
    obtain ⟨k, x⟩ := m
    simp only [write, List.cons_append, List.append_assoc]
    rw [Text.infix_cons_of_free (hfree '{' rfl), Text.infix_append_left (free_gap hfree hl _),
      free_colon hfree hl, infix_writeMembers hfree hl]
    simp [or_assoc]

end

/-! ## All values -/

/-- A text free of the characters of layouts is in both layouts of a value or in none. -/
theorem infix_write_iff {needle : List Char} (hfree : ∀ c, isGlue c = true → c ∉ needle)
    (hne : needle ≠ []) {l l' : Layout} (hl : l.Blank) (hl' : l'.Blank) (j : Json)
    (depth depth' : Nat) :
    needle <:+: j.write l depth ↔ needle <:+: j.write l' depth' := by
  induction j generalizing depth depth' with
  | arr xs ih =>
    rw [infix_write_arr hfree hl hne, infix_write_arr hfree hl' hne]
    exact exists_congr fun x => and_congr_right fun hx => ih x hx _ _
  | obj ms ih =>
    rw [infix_write_obj hfree hl hne, infix_write_obj hfree hl' hne]
    exact exists_congr fun m => and_congr_right fun hm => or_congr_right (ih m hm _ _)
  | bool b => cases b <;> rfl
  | _ => rfl

end YardConsole.Json
