import YardConsole.Config
import YardConsole.Proofs.Json.Record

/-! # Configurations in files -/

namespace YardConsole

open Json Json.Record

variable {l : Layout} (hl : l.Blank)

theorem Json.literalText_write (s : String) (column : Nat) :
    LiteralText ((Json.str s).write l column) s :=
  .quote (stringText_flatMap s.toList)

/-! ## Rules -/

namespace ResourceRule

def FieldText (depth : Nat) (key : String) (a : Draft) (c : List Char) (b : Draft) : Prop :=
  key = "path" ∧ Sets LiteralText (fun draft s => { draft with path := some s }) a c b ∨
  key = "keywords" ∧ Sets (NestedText (fun _ => LiteralText) depth)
    (fun draft ks => { draft with keywords := some ks }) a c b

theorem hasFields : record.HasFields FieldText where
  reads depth := by
    have hstring := readString_reads "a string"
    have hlist := readList_reads (fun _ => hstring) depth
    refine List.forall_mem_cons.mpr ⟨fun a => ?_, List.forall_mem_cons.mpr ⟨fun a => ?_, nofun⟩⟩
    · have hset := hstring.sets (fun draft s => { draft with path := some s }) a
      exact hset.congr fun c b => by simp [FieldText]
    · have hset := hlist.sets (fun draft ks => { draft with keywords := some ks }) a
      exact hset.congr fun c b => by simp [FieldText]
  loose depth key a c b h := by
    rcases h with ⟨-, h⟩ | ⟨-, h⟩
    · exact h.loose fun _ _ => LiteralText.loose
    · exact h.loose fun _ _ => NestedText.loose fun _ _ _ => LiteralText.loose

include hl in
theorem recordText_write (rule : ResourceRule) (depth column : Nat) :
    RecordText record FieldText (depth + 2) (rule.toJson.write l column) rule := by
  have hwords : ∀ s ∈ rule.keywords, LiteralText ((Json.str s).write l (column + 2)) s :=
    fun s _ => literalText_write s (column + 2)
  obtain ⟨t, htext, ht⟩ := listText_write hl hwords
  have hpath : FieldText (depth + 1) "path" record.start ((Json.str rule.path).write l (column + 1))
      ⟨some rule.path, none⟩ := .inl ⟨rfl, rule.path, literalText_write _ _, rfl⟩
  have hkeywords : FieldText (depth + 1) "keywords" ⟨some rule.path, none⟩
      ((Json.arr (rule.keywords.map .str)).write l (column + 1))
      ⟨some rule.path, some rule.keywords⟩ := by
    rw [htext]
    exact .inr ⟨rfl, rule.keywords, .list ht, rfl⟩
  exact hasFields.recordText_write hl
    (.cons (.known rfl rfl hpath) (.cons (.known rfl rfl hkeywords) .nil)) rfl

end ResourceRule

namespace RouteRule

def FieldText (_ : Nat) (key : String) (a : Draft) (c : List Char) (b : Draft) : Prop :=
  key = "fragment" ∧ Sets LiteralText (fun draft s => { draft with fragment := some s }) a c b ∨
  key = "route" ∧ Sets LiteralText (fun draft s => { draft with route := some s }) a c b

theorem hasFields : record.HasFields FieldText where
  reads depth := by
    have hstring := readString_reads "a string"
    refine List.forall_mem_cons.mpr ⟨fun a => ?_, List.forall_mem_cons.mpr ⟨fun a => ?_, nofun⟩⟩
    · have hset := hstring.sets (fun draft s => { draft with fragment := some s }) a
      exact hset.congr fun c b => by simp [FieldText]
    · have hset := hstring.sets (fun draft s => { draft with route := some s }) a
      exact hset.congr fun c b => by simp [FieldText]
  loose depth key a c b h := by
    rcases h with ⟨-, h⟩ | ⟨-, h⟩
    · exact h.loose fun _ _ => LiteralText.loose
    · exact h.loose fun _ _ => LiteralText.loose

include hl in
theorem recordText_write (rule : RouteRule) (depth column : Nat) :
    RecordText record FieldText (depth + 1) (rule.toJson.write l column) rule := by
  have hfragment : FieldText depth "fragment" record.start
      ((Json.str rule.fragment).write l (column + 1)) ⟨some rule.fragment, none⟩ :=
    .inl ⟨rfl, rule.fragment, literalText_write _ _, rfl⟩
  have hroute : FieldText depth "route" ⟨some rule.fragment, none⟩
      ((Json.str rule.route).write l (column + 1)) ⟨some rule.fragment, some rule.route⟩ :=
    .inr ⟨rfl, rule.route, literalText_write _ _, rfl⟩
  exact hasFields.recordText_write hl
    (.cons (.known rfl rfl hfragment) (.cons (.known rfl rfl hroute) .nil)) rfl

end RouteRule

/-! ## Configurations -/

namespace Config

def FieldText (depth : Nat) (key : String) (a : Draft) (c : List Char) (b : Draft) : Prop :=
  key = "base_url" ∧
    Sets (OptionalText LiteralText) (fun draft s => { draft with baseUrl := some s }) a c b ∨
  key = "provider" ∧
    Sets (OptionalText LiteralText) (fun draft s => { draft with provider := some s }) a c b ∨
  key = "resources" ∧
    Sets (OptionalText (NestedText (RecordText ResourceRule.record ResourceRule.FieldText) depth))
      (fun draft rules => { draft with resources := some rules }) a c b ∨
  key = "routes" ∧
    Sets (OptionalText (NestedText (RecordText RouteRule.record RouteRule.FieldText) depth))
      (fun draft rules => { draft with routes := some rules }) a c b

theorem hasFields : record.HasFields FieldText where
  reads depth := by
    have hstring := readOptional_reads (readString_reads "a string")
    have hresources := readOptional_reads (readList_reads ResourceRule.hasFields.read_reads depth)
    have hroutes := readOptional_reads (readList_reads RouteRule.hasFields.read_reads depth)
    refine List.forall_mem_cons.mpr ⟨fun a => ?_, List.forall_mem_cons.mpr ⟨fun a => ?_,
      List.forall_mem_cons.mpr ⟨fun a => ?_, List.forall_mem_cons.mpr ⟨fun a => ?_, nofun⟩⟩⟩⟩
    · have hset := hstring.sets (fun draft s => { draft with baseUrl := some s }) a
      exact hset.congr fun c b => by simp [FieldText]
    · have hset := hstring.sets (fun draft s => { draft with provider := some s }) a
      exact hset.congr fun c b => by simp [FieldText]
    · have hset := hresources.sets (fun draft rules => { draft with resources := some rules }) a
      exact hset.congr fun c b => by simp [FieldText]
    · have hset := hroutes.sets (fun draft rules => { draft with routes := some rules }) a
      exact hset.congr fun c b => by simp [FieldText]
  loose depth key a c b h := by
    rcases h with ⟨-, h⟩ | ⟨-, h⟩ | ⟨-, h⟩ | ⟨-, h⟩
    · exact h.loose fun _ _ => OptionalText.loose fun _ _ => LiteralText.loose
    · exact h.loose fun _ _ => OptionalText.loose fun _ _ => LiteralText.loose
    · exact h.loose fun _ _ => OptionalText.loose fun _ _ =>
        NestedText.loose fun _ _ _ => RecordText.loose
    · exact h.loose fun _ _ => OptionalText.loose fun _ _ =>
        NestedText.loose fun _ _ _ => RecordText.loose

theorem optionalText_nullable (s : Option String) (column : Nat) :
    OptionalText LiteralText ((nullable s).write l column) s := by
  cases s with
  | none => exact .null
  | some s => exact .some (by simp [nullable, write, stringText]) (literalText_write s column)

include hl in
theorem optionalText_rules {α : Type} {P : Nat → List Char → α → Prop} {toJson : α → Json}
    {depth column : Nat}
    (h : ∀ rule, P depth ((toJson rule).write l (column + 1)) rule) (rules : List α) :
    OptionalText (NestedText P (depth + 1)) ((Json.arr (rules.map toJson)).write l column)
      (some rules) := by
  have hrules : ∀ rule ∈ rules, P depth ((toJson rule).write l (column + 1)) rule :=
    fun rule _ => h rule
  obtain ⟨t, htext, ht⟩ := listText_write hl hrules
  rw [htext]
  exact .some (by simp) (.list ht)

include hl in
theorem recordText_write (config : Config) (depth column : Nat) :
    RecordText record FieldText (depth + 4) (config.toJson.write l column) config := by
  obtain ⟨baseUrl, provider, resources, routes⟩ := config
  have hstrings : Chain (PartText record (FieldText (depth + 3))) record.start
      [("base_url", (nullable baseUrl).write l (column + 1)),
        ("provider", (nullable provider).write l (column + 1))]
      ⟨some baseUrl, some provider, none, none⟩ :=
    .cons (.known rfl rfl (.inl ⟨rfl, baseUrl, optionalText_nullable _ _, rfl⟩))
      (.cons (.known rfl rfl (.inr (.inl ⟨rfl, provider, optionalText_nullable _ _, rfl⟩))) .nil)
  -- A list of rules that is absent writes no member and leaves its field as it was.
  have hresources : Chain (PartText record (FieldText (depth + 3)))
      ⟨some baseUrl, some provider, none, none⟩
      ((rulesMember "resources" ResourceRule.toJson resources).map
        fun m => (m.1, m.2.write l (column + 1)))
      ⟨some baseUrl, some provider, resources.map some, none⟩ := by
    cases resources with
    | none => exact .nil
    | some rules =>
      have hrules := optionalText_rules hl
        (fun rule => ResourceRule.recordText_write hl rule depth (column + 2)) rules
      exact .cons (.known rfl rfl (.inr (.inr (.inl ⟨rfl, some rules, hrules, rfl⟩)))) .nil
  have hroutes : Chain (PartText record (FieldText (depth + 3)))
      ⟨some baseUrl, some provider, resources.map some, none⟩
      ((rulesMember "routes" RouteRule.toJson routes).map
        fun m => (m.1, m.2.write l (column + 1)))
      ⟨some baseUrl, some provider, resources.map some, routes.map some⟩ := by
    cases routes with
    | none => exact .nil
    | some rules =>
      have hrules := optionalText_rules hl
        (fun rule => RouteRule.recordText_write hl rule (depth + 1) (column + 2)) rules
      exact .cons (.known rfl rfl (.inr (.inr (.inr ⟨rfl, some rules, hrules, rfl⟩)))) .nil
  refine hasFields.recordText_write hl (b := ⟨some baseUrl, some provider, resources.map some,
    routes.map some⟩) ?_ ?_
  · rw [List.map_append, List.map_append]
    exact (hstrings.append hresources).append hroutes
  · cases resources <;> cases routes <;> rfl

theorem parse_fileText (config : Config) : parse config.fileText = .ok config := by
  have htext := recordText_write Layout.blank_indented config 123 0
  refine (readWith_eq_ok_iff (hasFields.read_reads maxDepth) _ config).mpr
    ⟨[], _, [], ?_, spaces_nil, spaces_nil, htext⟩
  rw [List.nil_append, List.append_nil]
  exact String.toList_ofList

/-- A configuration is read from the file it was written to, and written to the same file again. -/
theorem load_fileText (config : Config) :
    load (some config.fileText) = .ok config ∧
      (load (some config.fileText)).map fileText = .ok config.fileText := by
  rw [load, parse_fileText]
  exact ⟨rfl, rfl⟩

end Config

end YardConsole
