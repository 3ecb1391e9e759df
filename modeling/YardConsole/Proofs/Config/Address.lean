import YardConsole.Http.Client
import YardConsole.Proofs.Text.Blank

/-! # The address of the yard

Blanks are taken off once and slashes behind them, so blanks that stood before the slashes are left.
-/

namespace YardConsole

open Text (isBlank Trimmed trimStart trimList)

namespace Config

/-! ## What a text names -/

/-- A text without the blanks around it, and then without the slashes at its end. -/
def core (cs : List Char) : List Char := (trimList cs).rdropWhile (· = '/')

theorem prefix_core (cs : List Char) : core cs <+: trimList cs :=
  List.rdropWhile_prefix _ (trimList cs)

theorem core_append (cs : List Char) :
    ∃ slashes, trimList cs = core cs ++ slashes ∧ ∀ c ∈ slashes, c = '/' := by
  refine ⟨(trimList cs).rtakeWhile (· = '/'), ?_, ?_⟩
  · unfold core
    rw [List.rdropWhile_append_rtakeWhile]
  · intro c hc
    simpa using List.mem_rtakeWhile_imp hc

theorem head_core (cs : List Char) : ∀ c ∈ (core cs).head?, isBlank c = false := by
  intro c hc
  obtain ⟨rest, hrest⟩ := prefix_core cs
  apply (Text.trimmed_trimList cs).1
  rw [← hrest, Option.mem_def, List.head?_append, Option.mem_def.mp hc]
  rfl

theorem last_core (cs : List Char) : '/' ∉ (core cs).getLast? := by
  unfold core
  intro h
  obtain ⟨hne, hlast⟩ := List.mem_getLast?_eq_getLast h
  have hnot := List.rdropWhile_last_not (· = '/') (trimList cs) hne
  simp [← hlast] at hnot

theorem rdropWhile_of_last {cs : List Char} (h : '/' ∉ cs.getLast?) :
    cs.rdropWhile (· = '/') = cs := by
  rw [List.rdropWhile_eq_self_iff]
  intro hne hslash
  apply h
  rw [List.getLast?_eq_some_getLast hne, Option.mem_some_iff]
  simpa using hslash

theorem core_of_trimmed {cs : List Char} (h : Trimmed cs) (hlast : '/' ∉ cs.getLast?) :
    core cs = cs := by
  rw [core, Text.trimList_of_trimmed h, rdropWhile_of_last hlast]

theorem trimmed_of_core {cs : List Char} (h : core cs = cs) : Trimmed cs := by
  obtain ⟨lead, pad, hparts, -⟩ := Text.exists_trimList cs
  have hshort := (prefix_core cs).length_le
  rw [h] at hshort
  have hlength := congrArg List.length hparts
  simp only [List.length_append] at hlength
  obtain rfl : lead = [] := List.length_eq_zero_iff.mp (by omega)
  obtain rfl : pad = [] := List.length_eq_zero_iff.mp (by omega)
  rw [hparts]
  simpa using Text.trimmed_trimList cs

/-! ## Blanks before the slashes -/

/-- Blanks stand before the slashes that the text ends in. -/
inductive Dangling : List Char → Prop
  | intro {front blank slashes pad} (hfront : ∃ c ∈ front, isBlank c = false)
      (hblank : isBlank blank = true) (hne : slashes ≠ []) (hslashes : ∀ c ∈ slashes, c = '/')
      (hpad : ∀ c ∈ pad, isBlank c = true) : Dangling (front ++ blank :: (slashes ++ pad))

theorem dangling_of_last {cs : List Char} {c : Char} (hc : c ∈ (core cs).getLast?)
    (hblank : isBlank c = true) : Dangling cs := by
  obtain ⟨lead, pad, hparts, hlead, hpad⟩ := Text.exists_trimList cs
  obtain ⟨slashes, htrim, hslashes⟩ := core_append cs
  obtain ⟨front, hcore⟩ : ∃ front, core cs = front ++ [c] := by
    obtain ⟨hne, rfl⟩ := List.mem_getLast?_eq_getLast hc
    exact ⟨_, (List.dropLast_append_getLast hne).symm⟩
  have hhead := head_core cs
  rw [hcore] at hhead htrim
  have hfront : ∃ d ∈ lead ++ front, isBlank d = false := by
    cases front with
    | nil => simp [hblank] at hhead
    | cons d front => exact ⟨d, by simp, hhead d (by simp)⟩
  have hne : slashes ≠ [] := by
    rintro rfl
    have hlast := (Text.trimmed_trimList cs).2 c (by simp [htrim])
    simp [hblank] at hlast
  rw [hparts, htrim]
  simpa using Dangling.intro hfront hblank hne hslashes hpad

theorem Dangling.last {cs : List Char} (h : Dangling cs) :
    ∃ c ∈ (core cs).getLast?, isBlank c = true := by
  obtain @⟨front, blank, slashes, pad, ⟨d, hd, hsolid⟩, hblank, hne, hslashes, hpad⟩ := h
  have hstart : trimStart (front ++ blank :: (slashes ++ pad)) =
      trimStart front ++ blank :: slashes ++ pad := by
    have hkept : ¬ (front.dropWhile isBlank).isEmpty = true := by
      rw [List.isEmpty_iff, List.dropWhile_eq_nil_iff]
      intro hall
      simp [hall d hd] at hsolid
    unfold trimStart
    rw [List.dropWhile_append, if_neg hkept]
    simp
  have hlast : ∀ c ∈ (trimStart front ++ blank :: slashes).getLast?, isBlank c = false := by
    intro c hc
    have hmem : c ∈ slashes := by
      rw [List.getLast?_append_of_ne_nil _ (by simp), List.getLast?_cons_of_ne_nil hne] at hc
      exact List.mem_of_getLast? hc
    rw [hslashes c hmem]
    decide
  have htrim : trimList (front ++ blank :: (slashes ++ pad)) =
      trimStart front ++ [blank] ++ slashes := by
    rw [trimList, hstart, Text.trimEnd_append hlast, Text.trimEnd_of_blank hpad]
    simp
  have hslash : blank ≠ '/' := by
    rintro rfl
    exact absurd hblank (by decide)
  have hcore : core (front ++ blank :: (slashes ++ pad)) = trimStart front ++ [blank] := by
    rw [core, htrim, List.rdropWhile, List.reverse_append,
      List.dropWhile_append_of_pos (by simpa using hslashes), ← List.rdropWhile]
    apply List.rdropWhile_concat_neg
    simpa using hslash
  exact ⟨blank, by simp [hcore], hblank⟩

theorem trimmed_core_iff (cs : List Char) : Trimmed (core cs) ↔ ¬ Dangling cs := by
  constructor
  · intro h hdangling
    obtain ⟨c, hc, hblank⟩ := hdangling.last
    simp [h.2 c hc] at hblank
  · intro h
    refine ⟨head_core cs, fun c hc => ?_⟩
    by_contra hblank
    exact h (dangling_of_last hc (by simpa using hblank))

/-! ## The address -/

inductive Wraps : (text kept : List Char) → Prop
  | intro {lead kept slashes pad} (hlead : ∀ c ∈ lead, isBlank c = true)
      (hslashes : ∀ c ∈ slashes, c = '/') (hpad : ∀ c ∈ pad, isBlank c = true) :
      Wraps (lead ++ (kept ++ slashes) ++ pad) kept

theorem wraps_core (cs : List Char) : Wraps cs (core cs) := by
  obtain ⟨lead, pad, hparts, hlead, hpad⟩ := Text.exists_trimList cs
  obtain ⟨slashes, htrim, hslashes⟩ := core_append cs
  have hwraps : Wraps (lead ++ (core cs ++ slashes) ++ pad) (core cs) :=
    .intro hlead hslashes hpad
  rwa [← htrim, ← hparts] at hwraps

inductive Gives (config : Config) : String → Prop
  | named {url address} (hurl : config.baseUrl = some url)
      (hnamed : Wraps url.toList address.toList) : Gives config address
  | standard (hnothing : ∀ url, config.baseUrl = some url → Wraps url.toList []) :
      Gives config standardUrl

def Dangles (config : Config) : Prop := ∃ url, config.baseUrl = some url ∧ Dangling url.toList

theorem toList_withoutSlashes_trim (url : String) :
    (withoutSlashes (Text.trim url)).toList = core url.toList := by
  unfold withoutSlashes core
  rw [String.toList_ofList, Text.toList_trim, List.rdropWhile]

theorem withoutSlashes_of_last {url : String} (h : '/' ∉ url.toList.getLast?) :
    withoutSlashes url = url := by
  have hkept := rdropWhile_of_last h
  rw [List.rdropWhile] at hkept
  rw [withoutSlashes, hkept, String.ofList_toList]

theorem address_cases (config : Config) :
    (∃ url, config.baseUrl = some url ∧ config.address ≠ "" ∧
      config.address.toList = core url.toList) ∨
    (config.address = standardUrl ∧
      ∀ url, config.baseUrl = some url → core url.toList = []) := by
  unfold address
  cases hurl : config.baseUrl with
  | none => simp
  | some url =>
    have hcore := toList_withoutSlashes_trim url
    simp only [Option.map_some]
    split
    · rename_i hempty
      rw [String.isEmpty_iff] at hempty
      rw [hempty] at hcore
      right
      simp [← hcore]
    · rename_i hne
      left
      exact ⟨url, rfl, by simpa using hne, hcore⟩

theorem gives_address (config : Config) : config.Gives config.address := by
  rcases address_cases config with ⟨url, hurl, -, hcore⟩ | ⟨hstandard, hnone⟩
  · apply Gives.named hurl
    rw [hcore]
    exact wraps_core url.toList
  · rw [hstandard]
    apply Gives.standard
    intro url hurl
    rw [← hnone url hurl]
    exact wraps_core url.toList

theorem trimmed_standardUrl : Trimmed standardUrl.toList :=
  Text.trimmed_of_solid (Text.forall_not_blank (by decide))

theorem address_ends (config : Config) : config.address ≠ "" ∧
    (∀ c ∈ config.address.toList.head?, isBlank c = false) ∧
    '/' ∉ config.address.toList.getLast? := by
  rcases address_cases config with ⟨url, -, hne, hcore⟩ | ⟨hstandard, -⟩
  · rw [hcore]
    exact ⟨hne, head_core _, last_core _⟩
  · rw [hstandard]
    exact ⟨by decide, trimmed_standardUrl.1, by decide⟩

theorem trimmed_address_iff (config : Config) :
    Trimmed config.address.toList ↔ ¬ config.Dangles := by
  unfold Dangles
  rcases address_cases config with ⟨url, hurl, -, hcore⟩ | ⟨hstandard, hnone⟩
  · rw [hcore, trimmed_core_iff]
    simp [hurl]
  · rw [hstandard]
    refine iff_of_true trimmed_standardUrl ?_
    rintro ⟨url, hurl, hdangling⟩
    obtain ⟨c, hc, -⟩ := hdangling.last
    simp [hnone url hurl] at hc

theorem address_again_iff (config : Config) :
    (∀ again : Config, again.baseUrl = some config.address → again.address = config.address) ↔
      Trimmed config.address.toList := by
  obtain ⟨hne, -, hlast⟩ := address_ends config
  constructor
  · intro h
    have hagain := h { config with baseUrl := some config.address } rfl
    rcases address_cases { config with baseUrl := some config.address } with
      ⟨url, hurl, -, hcore⟩ | ⟨hstandard, -⟩
    · obtain rfl : config.address = url := by simpa using hurl
      rw [hagain] at hcore
      exact trimmed_of_core hcore.symm
    · rw [← hagain, hstandard]
      exact trimmed_standardUrl
  · intro h again hbase
    have hkept := core_of_trimmed h hlast
    rcases address_cases again with ⟨url, hurl, -, hcore⟩ | ⟨-, hnone⟩
    · obtain rfl : config.address = url := by simpa [hbase] using hurl
      rw [hkept] at hcore
      exact String.toList_injective hcore
    · have hnil := hnone _ hbase
      rw [hkept] at hnil
      simp [hne] at hnil

/-- An address is as it was configured but for blanks around it and slashes at its end, and what is
asked of the yard and of the assistant is added to it as it is. It ends in no blank, and is the same
when it is read again, exactly where no blanks stood before those slashes. -/
theorem address_of_config (config : Config) :
    config.Gives config.address ∧ config.address ≠ "" ∧
    (∀ c ∈ config.address.toList.head?, isBlank c = false) ∧
    '/' ∉ config.address.toList.getLast? ∧
    (Console.ofConfig config).links =
      ⟨⟨config.address ++ "/mcp", 1⟩, ⟨config.address ++ "/ai/chat"⟩⟩ ∧
    ((∀ c ∈ config.address.toList.getLast?, isBlank c = false) ↔ ¬ config.Dangles) ∧
    ((∀ again : Config, again.baseUrl = some config.address → again.address = config.address) ↔
      ¬ config.Dangles) := by
  obtain ⟨hne, hhead, hlast⟩ := address_ends config
  have hbase := withoutSlashes_of_last hlast
  refine ⟨gives_address config, hne, hhead, hlast, ?_, ?_, ?_⟩
  · simp [Console.ofConfig, Links.new, YardClient.new, AdviceClient.new, endpoint, hbase]
  · rw [← trimmed_address_iff, Trimmed, and_iff_right hhead]
  · rw [address_again_iff, trimmed_address_iff]

def spaced : Config := { Config.standard with baseUrl := some "http://chantier.local:9000 /" }

theorem spaced_dangles :
    (∃ c ∈ spaced.address.toList.getLast?, isBlank c = true) ∧
    spaced.address = "http://chantier.local:9000 " ∧
    { spaced with baseUrl := some spaced.address }.address = "http://chantier.local:9000" :=
  ⟨⟨' ', by decide, by decide⟩, by decide, by decide⟩

end Config

end YardConsole
