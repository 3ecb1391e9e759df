import Mathlib.Data.List.Find
import YardConsole.Proofs.Command.Retyped
import YardConsole.Proofs.Command.Search
import YardConsole.Yard.Routes

/-! # The screens of resources -/

namespace YardConsole

/-! ## Places of a resource -/

/-- What is asked of a resource stands behind its path: nothing, the number of an item, or a
search. -/
inductive Place : String → Prop
  | all : Place ""
  | item {number : String} (hdigits : ∀ c ∈ number.toList, Text.isDigit c = true) :
      Place ("/" ++ number)
  | search : Place "/search"

namespace Phrase

theorem Wants.place {r : Reading} {i : Instruction} (h : Wants r i)
    (hdigits : ∀ number ∈ r.number, ∀ c ∈ number.toList, Text.isDigit c = true) :
    ∃ suffix, Place suffix ∧ i.path = normalPath (r.path ++ suffix) := by
  have hitem : ∀ {number}, r.number = some number → ∃ suffix, Place suffix ∧
      normalPath (itemPath r.path number) = normalPath (r.path ++ suffix) := by
    intro number hnumber
    exact ⟨_, .item (hdigits number hnumber), by rw [itemPath, String.append_assoc]⟩
  have hall : ∃ suffix, Place suffix ∧ normalPath r.path = normalPath (r.path ++ suffix) :=
    ⟨"", .all, by rw [String.append_empty]⟩
  cases h with
  | deletion _ hnumber => exact hitem hnumber
  | creation => simpa [Instruction.new_eq, Instruction.withBody_of] using hall
  | update _ hnumber =>
    simpa [Instruction.new_eq, Instruction.withBody_of] using hitem hnumber
  | search => exact ⟨"/search", .search, by simp [Instruction.new_eq, Instruction.withQuery_of]⟩
  | list => exact hall
  | item _ hnumber => exact hitem hnumber

theorem place_of_parse {catalog : Catalog} {input : String} {i : Instruction}
    (h : parse catalog input = .ok (some i)) : i = .listResources ∨
      ∃ path keyword suffix,
        FirstKeyword catalog (headOf (Text.trimList input.toList)) path keyword ∧
          Place suffix ∧ i.path = normalPath (path ++ suffix) := by
  rw [parse_eq_outcome] at h
  unfold outcome at h
  split at h
  · cases h
    exact .inl rfl
  · split at h
    · cases h
    · rename_i path keyword hresolve
      right
      obtain ⟨suffix, hplace, hpath⟩ := (wants_of_instruction h).place (by
        intro number hnumber
        dsimp only at hnumber
        exact (numbers_of_numberOf? hnumber).2)
      exact ⟨path, keyword, suffix, (resolve_eq_some_iff _ _ _ _).mp hresolve, hplace, hpath⟩

theorem FirstKeyword.mem_paths {catalog : Catalog} {head path keyword : String}
    (h : FirstKeyword catalog head path keyword) : path ∈ catalog.paths := by
  cases h with
  | intro hrules => simp [Catalog.paths, hrules]

end Phrase

/-! ## The standard screens -/

theorem Routes.destination_congr {routes : Routes} {p q : String}
    (h : ∀ rule ∈ routes.rules,
      rule.fragment.toList <:+: p.toList ↔ rule.fragment.toList <:+: q.toList) :
    routes.destination p = routes.destination q := by
  unfold destination
  congr 1
  apply List.find?_congr
  intro rule hrule
  rw [Bool.eq_iff_iff, Text.contains_iff, Text.contains_iff, h rule hrule]

theorem last_fragment : ∀ rule ∈ Routes.standard.rules,
    rule.fragment.toList.getLast?.any (fun c => c != '/' && !Text.isDigit c) = true := by
  decide +kernel

theorem destination_search : ∀ path ∈ Catalog.standard.paths,
    Routes.standard.destination (path ++ "/search") = Routes.standard.destination path := by
  decide +kernel

theorem destination_standard : ∀ path ∈ Catalog.standard.paths,
    (Routes.standard.destination path).isSome = true := by
  decide +kernel

theorem destination_listing : Routes.standard.destination resourcesPath = none := by
  decide +kernel

theorem solid_standard : ∀ path ∈ Catalog.standard.paths,
    path.toList.head? = some '/' ∧ path.toList.all (!Text.isBlank ·) = true := by
  decide +kernel

theorem Place.solid {suffix : String} (h : Place suffix) :
    ∀ c ∈ suffix.toList, Text.isBlank c = false := by
  cases h with
  | all => simp
  | item hdigits =>
    intro c hc
    rcases List.mem_cons.mp (by simpa using hc) with rfl | hc
    · decide
    · exact Text.isBlank_of_isDigit (hdigits c hc)
  | search => exact Text.forall_not_blank (by decide)

theorem normalPath_place {path suffix : String} (hpath : path ∈ Catalog.standard.paths)
    (hplace : Place suffix) : normalPath (path ++ suffix) = path ++ suffix := by
  obtain ⟨hslash, hsolid⟩ := solid_standard path hpath
  obtain ⟨rest, hrest⟩ := List.head?_eq_some_iff.mp hslash
  have hunbroken : Instruction.Unbroken (path ++ suffix) :=
    .append (Text.forall_not_blank hsolid) hplace.solid
  apply String.toList_injective
  rw [toList_normalPath, Text.trimList_of_solid hunbroken, String.toList_append, hrest]
  rfl

theorem destination_place {path suffix : String} (hpath : path ∈ Catalog.standard.paths)
    (hplace : Place suffix) :
    Routes.standard.destination (path ++ suffix) = Routes.standard.destination path := by
  cases hplace with
  | all => rw [String.append_empty]
  | @item number hdigits =>
    -- No fragment reaches into the number: its last character is neither a slash nor a digit.
    apply Routes.destination_congr
    intro rule hrule
    obtain ⟨c, hlast, hc⟩ := (Option.any_eq_true _ _).mp (last_fragment rule hrule)
    have hfree : c ∉ ("/" ++ number).toList := by
      intro hmem
      rcases List.mem_cons.mp (by simpa using hmem) with rfl | hmem
      · simp at hc
      · simp [hdigits c hmem] at hc
    rw [String.toList_append, Text.infix_append_of_last _ hlast hfree]
  | search => exact destination_search path hpath

/-- A call that lists the resources leads nowhere. Any other is at a place of the resource that the
head names first, and leads to the screen of that resource. -/
inductive Lands (head : String) (i : Instruction) : Prop
  | listing (hi : i = .listResources) (hnowhere : Routes.standard.destination i.path = none)
  | resource {path keyword suffix screen : String} (hcall : i.isListing = false)
      (hnamed : Phrase.FirstKeyword .standard head path keyword) (hplace : Place suffix)
      (hpath : i.path = path ++ suffix) (hscreen : Routes.standard.destination path = some screen)
      (hleads : Routes.standard.destination i.path = some screen)

/-- Every place of a resource has the screen of the resource, and a phrase leads there. -/
theorem lands_of_parse :
    (∀ path ∈ Catalog.standard.paths, ∃ screen, ∀ suffix, Place suffix →
      Routes.standard.destination (path ++ suffix) = some screen) ∧
    ∀ input i, Phrase.parse .standard input = .ok (some i) →
      Lands (Phrase.headOf (Text.trimList input.toList)) i := by
  constructor
  · intro path hpath
    obtain ⟨screen, hscreen⟩ := Option.isSome_iff_exists.mp (destination_standard path hpath)
    refine ⟨screen, fun suffix hplace => ?_⟩
    rw [destination_place hpath hplace, hscreen]
  · intro input i h
    rcases Phrase.place_of_parse h with rfl | ⟨path, keyword, suffix, hnamed, hplace, hi⟩
    · exact .listing rfl destination_listing
    · have hpath := hnamed.mem_paths
      obtain ⟨screen, hscreen⟩ := Option.isSome_iff_exists.mp (destination_standard path hpath)
      rw [normalPath_place hpath hplace] at hi
      have hleads : Routes.standard.destination i.path = some screen := by
        rw [hi, destination_place hpath hplace, hscreen]
      have hcall : i.isListing = false := by
        rw [Instruction.isListing, beq_eq_false_iff_ne]
        intro hlisting
        simp [hlisting, destination_listing] at hleads
      exact .resource hcall hnamed hplace hi hscreen hleads

theorem lands_technician :
    Phrase.parse .standard "Modifie le technicien ٣ \x7b\"nom\":\"/bateaux\"\x7d" =
      .ok (some (.of .put "/techniciens/٣" none (some (.obj [("nom", .str "/bateaux")])))) ∧
    Routes.standard.destination "/techniciens/٣" = some "/prestations" ∧
    Lands "modifie le technicien ٣ "
      (.of .put "/techniciens/٣" none (some (.obj [("nom", .str "/bateaux")]))) := by
  have hparse : Phrase.parse .standard "Modifie le technicien ٣ \x7b\"nom\":\"/bateaux\"\x7d" =
      .ok (some (.of .put "/techniciens/٣" none (some (.obj [("nom", .str "/bateaux")])))) := by
    decide +kernel
  have hhead : Phrase.headOf (Text.trimList
      "Modifie le technicien ٣ \x7b\"nom\":\"/bateaux\"\x7d".toList) =
        "modifie le technicien ٣ " := by
    decide +kernel
  refine ⟨hparse, by decide +kernel, ?_⟩
  rw [← hhead]
  exact lands_of_parse.2 _ _ hparse

end YardConsole
