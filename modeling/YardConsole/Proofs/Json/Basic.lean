import Mathlib.Logic.Relation
import YardConsole.Json.Basic

/-! # Values in values, members in order -/

namespace YardConsole.Json

/-! ## Values in values -/

@[elab_as_elim, induction_eliminator]
theorem parts_induction {motive : Json → Prop} (null : motive .null)
    (bool : ∀ b, motive (.bool b)) (int : ∀ n, motive (.int n)) (float : ∀ x, motive (.float x))
    (str : ∀ s, motive (.str s)) (arr : ∀ xs, (∀ x ∈ xs, motive x) → motive (.arr xs))
    (obj : ∀ ms, (∀ m ∈ ms, motive m.2) → motive (.obj ms)) : ∀ j, motive j
  | .null => null
  | .bool b => bool b
  | .int n => int n
  | .float x => float x
  | .str s => str s
  | .arr xs => arr xs fun x hx => by
    have hlt := List.sizeOf_lt_of_mem hx
    exact parts_induction null bool int float str arr obj x
  | .obj ms => obj ms fun m hm => by
    have hlt := List.sizeOf_lt_of_mem hm
    exact parts_induction null bool int float str arr obj m.2
termination_by j => sizeOf j
decreasing_by
  · simp only [Json.arr.sizeOf_spec]
    omega
  · obtain ⟨k, x⟩ := m
    simp only [Prod.mk.sizeOf_spec] at hlt
    simp only [Json.obj.sizeOf_spec]
    omega

inductive Holds : Json → Json → Prop
  | item {x xs} (h : x ∈ xs) : Holds (.arr xs) x
  | member {k x ms} (h : (k, x) ∈ ms) : Holds (.obj ms) x

def Contains (j x : Json) : Prop := Relation.TransGen Holds j x

def Within (j x : Json) : Prop := x = j ∨ Contains j x

theorem within_of_holds {j x y : Json} (hx : Holds j x) (hy : Within x y) : Contains j y := by
  rcases hy with rfl | hy
  · exact .single hx
  · exact .head hx hy

/-! ## Members in order -/

theorem mem_insertMember {m : String × Json} {key : String} {v : Json} {ms : List (String × Json)}
    (h : m ∈ insertMember key v ms) : m = (key, v) ∨ m ∈ ms := by
  induction ms with
  | nil => exact .inl (List.mem_singleton.mp h)
  | cons m' ms ih =>
    obtain ⟨k, v'⟩ := m'
    rw [insertMember] at h
    split at h
    · exact List.mem_cons.mp h
    · split at h
      · exact (List.mem_cons.mp h).imp_right (List.mem_cons_of_mem _)
      · rcases List.mem_cons.mp h with rfl | h
        · exact .inr (List.mem_cons_self ..)
        · exact (ih h).imp_right (List.mem_cons_of_mem _)

theorem mem_keys_insertMember {k key : String} {v : Json} {ms : List (String × Json)}
    (h : k ∈ (insertMember key v ms).map Prod.fst) : k = key ∨ k ∈ ms.map Prod.fst := by
  obtain ⟨m, hm, rfl⟩ := List.mem_map.mp h
  rcases mem_insertMember hm with rfl | hm
  · exact .inl rfl
  · exact .inr (List.mem_map_of_mem hm)

def Sorted (ms : List (String × Json)) : Prop := (ms.map Prod.fst).Pairwise (· < ·)

theorem sorted_cons {m : String × Json} {ms : List (String × Json)} :
    Sorted (m :: ms) ↔ (∀ k ∈ ms.map Prod.fst, m.1 < k) ∧ Sorted ms := List.pairwise_cons

theorem keys_lt_of_sorted {k : String} {x : Json} {a ms : List (String × Json)}
    (h : Sorted (a ++ (k, x) :: ms)) : ∀ k' ∈ a.map Prod.fst, k' < k := by
  rw [Sorted, List.map_append, List.pairwise_append] at h
  exact fun k' hk' => h.2.2 k' hk' k (by simp)

theorem sorted_insertMember (key : String) (v : Json) {ms : List (String × Json)}
    (h : Sorted ms) : Sorted (insertMember key v ms) := by
  induction ms with
  | nil => exact List.pairwise_singleton _ _
  | cons m ms ih =>
    obtain ⟨k, v'⟩ := m
    obtain ⟨hfirst, hrest⟩ := sorted_cons.mp h
    rw [insertMember]
    split
    · rename_i hlt
      refine sorted_cons.mpr ⟨fun k' hk' => ?_, h⟩
      rcases List.mem_cons.mp hk' with rfl | hk'
      · exact hlt
      · exact String.lt_trans hlt (hfirst k' hk')
    · rename_i hle
      split
      · rename_i heq
        subst heq
        exact sorted_cons.mpr ⟨hfirst, hrest⟩
      · rename_i hne
        refine sorted_cons.mpr ⟨fun k' hk' => ?_, ih hrest⟩
        rcases mem_keys_insertMember hk' with rfl | hk'
        · exact Std.lt_of_le_of_ne (String.not_lt.mp hle) (Ne.symm hne)
        · exact hfirst k' hk'

theorem insertMember_of_last {key : String} (v : Json) {ms : List (String × Json)}
    (h : ∀ k ∈ ms.map Prod.fst, k < key) : insertMember key v ms = ms ++ [(key, v)] := by
  induction ms with
  | nil => rfl
  | cons m ms ih =>
    obtain ⟨k, v'⟩ := m
    have hlt : k < key := h k (by simp)
    have hne : key ≠ k := by
      rintro rfl
      exact String.lt_irrefl _ hlt
    rw [insertMember, if_neg (String.lt_asymm hlt), if_neg hne,
      ih fun k' hk' => h k' (List.mem_cons_of_mem _ hk')]
    rfl

end YardConsole.Json
