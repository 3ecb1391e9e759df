import YardConsole.Call.Instruction
import YardConsole.Proofs.Text.Blank

/-! # Instructions: paths in normal form, commands that tell the parts -/

namespace YardConsole

/-! ## Paths -/

def slashed : List Char → List Char
  | '/' :: rest => '/' :: rest
  | cs => '/' :: cs

theorem slashed_cons_slash (rest : List Char) : slashed ('/' :: rest) = '/' :: rest := rfl

theorem slashed_of_ne {cs : List Char} (h : ∀ rest, cs ≠ '/' :: rest) : slashed cs = '/' :: cs := by
  unfold slashed
  split
  · exact absurd rfl (h _)
  · rfl

theorem slashed_slashed (cs : List Char) : slashed (slashed cs) = slashed cs := by
  by_cases h : ∃ rest, cs = '/' :: rest
  · obtain ⟨rest, rfl⟩ := h
    rfl
  · rw [slashed_of_ne (fun rest hr => h ⟨rest, hr⟩), slashed_cons_slash]

theorem toList_normalPath (path : String) :
    (normalPath path).toList = slashed (Text.trimList path.toList) := by
  unfold normalPath
  split
  · rename_i rest h
    rw [h, String.toList_ofList, slashed_cons_slash]
  · rename_i cs h
    rw [slashed_of_ne h, String.toList_ofList]

theorem trimmed_slashed {cs : List Char} (h : Text.Trimmed cs) : Text.Trimmed (slashed cs) := by
  have hslash : Text.isBlank '/' = false := by decide
  unfold slashed
  split
  · exact h
  · refine ⟨by simpa using hslash, ?_⟩
    intro c hc
    cases cs with
    | nil =>
      obtain rfl : '/' = c := by simpa using hc
      exact hslash
    | cons x rest => exact h.2 c (by simpa using hc)

@[simp] theorem normalPath_normalPath (path : String) :
    normalPath (normalPath path) = normalPath path := by
  apply String.toList_injective
  rw [toList_normalPath, toList_normalPath,
    Text.trimList_of_trimmed (trimmed_slashed (Text.trimmed_trimList _)), slashed_slashed]

/-! ## Instructions by their parts -/

namespace Instruction

/-- The instruction of these parts, told by them with a space between each two. -/
def of (m : Method) (path : String) (query body : Option Json) : Instruction :=
  ⟨m, path, query, body,
    " ".intercalate (m.name :: path :: (query.toList ++ body.toList).map Json.compact)⟩

section

variable (m : Method) (path : String) (query body : Option Json) (j : Json)

@[simp] theorem method_of : (of m path query body).method = m := rfl
@[simp] theorem path_of : (of m path query body).path = path := rfl
@[simp] theorem query_of : (of m path query body).query = query := rfl
@[simp] theorem body_of : (of m path query body).body = body := rfl

theorem new_eq : new m path = of m (normalPath path) none none := by
  simp [new, of]

theorem retold_eq (i : Instruction) : i.retold = of i.method i.path i.query i.body := by
  obtain ⟨m, path, query, body, command⟩ := i
  cases query <;> cases body <;> simp [retold, of, String.append_assoc]

theorem withQuery_of : (of m path query body).withQuery j = of m path (some j) body :=
  retold_eq _

theorem withBody_of : (of m path query body).withBody j = of m path query (some j) :=
  retold_eq _

theorem withPayload_of : (of m path query body).withPayload j =
    if m.asksOnly then of m path (some j) body else of m path query (some j) := by
  rw [withPayload, withQuery_of, withBody_of, method_of]

end

theorem withPayload_of_asks {i : Instruction} (h : i.method.asksOnly = true) (j : Json) :
    i.withPayload j = i.withQuery j := if_pos h

theorem withPayload_of_sends {i : Instruction} (h : i.method.asksOnly = false) (j : Json) :
    i.withPayload j = i.withBody j := if_neg (ne_true_of_eq_false h)

@[simp] theorem withPayload_method (i : Instruction) (payload : Json) :
    (i.withPayload payload).method = i.method := by
  unfold withPayload
  split <;> rfl

@[simp] theorem withPayload_path (i : Instruction) (payload : Json) :
    (i.withPayload payload).path = i.path := by
  unfold withPayload
  split <;> rfl

end Instruction

end YardConsole
