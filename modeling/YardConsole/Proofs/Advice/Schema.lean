import YardConsole.Proofs.Advice.Directive

/-! # The schema of directives

An object is a directive if its members say so, and so is a list if its items say so under the
names of the parts.
-/

namespace YardConsole.Directive

/-! ## Objects -/

theorem ofJson?_of_says {members : List (String × Json)} {d : Directive}
    (h : Says (.obj members) d) : ofJson? (.obj members) = some d := by
  have hshape : hasShape (.obj members) = true := rfl
  cases h with
  | reply haction hmessage =>
    rw [ofJson?, if_pos hshape, text?_obj, haction]
    simp only [text?_obj, hmessage, Option.map_some]
  | call haction hname hmethod hpath hblank =>
    rw [ofJson?, if_pos hshape, text?_obj, haction]
    simp only [callOf?, text?_obj, hname, hmethod, hpath, Option.bind_eq_bind, Option.bind_some,
      hblank, Bool.false_eq_true, if_false]
    rfl

/-! ## Lists -/

def named (items : List Json) : Json := .obj (parts.zip items)

theorem lookup_zip {α β : Type} [BEq α] [LawfulBEq α] {name : α} {names : List α}
    (h : name ∈ names) (items : List β) :
    (names.zip items).lookup name = items[names.idxOf name]? := by
  induction names generalizing items with
  | nil => cases h
  | cons first names ih =>
    cases items with
    | nil => rfl
    | cons item items =>
      rw [List.zip_cons_cons, List.lookup_cons, List.idxOf_cons]
      cases hname : name == first with
      | true =>
        obtain rfl := eq_of_beq hname
        simp
      | false =>
        have hne : (first == name) = false := by rwa [BEq.comm]
        have hin : name ∈ names := by
          refine (List.mem_cons.mp h).resolve_left ?_
          rintro rfl
          simp at hname
        simp [hne, ih hin]

theorem part?_named (name : String) (h : name ∈ parts) (items : List Json) :
    part? (named items) name = part? (.arr items) name := by
  have hfound : (named items).get? name = items[parts.idxOf name]? := lookup_zip h items
  rw [named, part?_obj, ← named, hfound]
  rfl

theorem text?_named (name : String) (h : name ∈ parts) (items : List Json) :
    text? (named items) name = text? (.arr items) name := by
  rw [text?, text?, part?_named name h]

/-- A list that is not too long is read as the object in which its items have names. -/
theorem ofJson?_arr {items : List Json} (h : items.length ≤ parts.length) :
    ofJson? (.arr items) = ofJson? (named items) := by
  have hshape : hasShape (.arr items) = true := decide_eq_true h
  have hshape' : hasShape (named items) = true := rfl
  have hcall : callOf? (.arr items) = callOf? (named items) := by
    have hmethod := text?_named "method" (by decide) items
    have hpath := text?_named "path" (by decide) items
    have hquery := part?_named "query" (by decide) items
    have hbody := part?_named "body" (by decide) items
    rw [callOf?, callOf?, hmethod, hpath, hquery, hbody]
  have haction := text?_named "action" (by decide) items
  have hmessage := text?_named "message" (by decide) items
  rw [ofJson?, ofJson?, if_pos hshape, if_pos hshape', haction, hmessage, hcall]

/-! ## All values -/

theorem shape_of_ofJson? {v : Json} {d : Directive} (h : ofJson? v = some d) :
    (∃ members, v = .obj members) ∨ ∃ items, v = .arr items ∧ items.length ≤ parts.length := by
  have hshape : hasShape v = true := by
    by_contra hshape
    rw [ofJson?, if_neg hshape] at h
    cases h
  cases v with
  | obj members => exact .inl ⟨members, rfl⟩
  | arr items => exact .inr ⟨items, rfl, of_decide_eq_true hshape⟩
  | _ => cases hshape

/-- Which values are which directives: objects that say so, and lists of at most six items that say
so under the names of the parts. -/
theorem ofJson?_eq_some_iff (v : Json) (d : Directive) :
    ofJson? v = some d ↔
      (∃ members, v = .obj members ∧ Says v d) ∨
        ∃ items, v = .arr items ∧ items.length ≤ 6 ∧ Says (named items) d := by
  constructor
  · intro h
    rcases shape_of_ofJson? h with ⟨members, rfl⟩ | ⟨items, rfl, hlength⟩
    · exact .inl ⟨members, rfl, says_of_ofJson? h⟩
    · rw [ofJson?_arr hlength] at h
      exact .inr ⟨items, rfl, hlength, says_of_ofJson? h⟩
  · rintro (⟨members, rfl, h⟩ | ⟨items, rfl, hlength, h⟩)
    · exact ofJson?_of_says h
    · rw [ofJson?_arr hlength]
      exact ofJson?_of_says h

theorem list_deletes :
    ofJson? (.arr [.str "mcp_call", .null, .str "DELETE", .str "/clients/1"]) =
      some (.call .delete "/clients/1" none none) := by
  decide +kernel

end YardConsole.Directive
