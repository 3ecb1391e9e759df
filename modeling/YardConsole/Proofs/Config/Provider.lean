import YardConsole.Proofs.Config.File

/-! # Saving a provider

Nothing but the provider changes in a file that can be read. One that cannot is replaced.
-/

namespace YardConsole.Config

def withProvider (config : Config) (p : Provider) : Config := { config with provider := some p.id }

def fileAfter (name : String) (file : Option String) : Option String :=
  (saveProvider name file).toOption.or file

/-! ## One change -/

theorem saveProvider_of_unknown {name : String} (hname : Provider.ofText? name = none)
    (file : Option String) : saveProvider name file = .error (unknownProvider name) := by
  rw [saveProvider, hname]

theorem saveProvider_of_known {name : String} {p : Provider}
    (hname : Provider.ofText? name = some p) (file : Option String) : saveProvider name file =
      .ok (((load file).toOption.getD standard).withProvider p).fileText := by
  rw [saveProvider, hname]
  cases load file <;> rfl

theorem saveProvider_of_load {name : String} {p : Provider} {file : Option String} {config : Config}
    (hname : Provider.ofText? name = some p) (hload : load file = .ok config) :
    saveProvider name file = .ok (config.withProvider p).fileText := by
  rw [saveProvider_of_known hname, hload]
  rfl

/-! ## What is kept -/

/-- It failed and left the file, or it changed nothing but the provider. -/
inductive Keeps (name : String) (file : Option String) : Prop
  | failed {message : String} (hsave : saveProvider name file = .error message)
      (hafter : fileAfter name file = file)
  | changed {p : Provider} {config : Config} {text : String}
      (hname : Provider.ofText? name = some p) (hload : load file = .ok config)
      (hafter : fileAfter name file = some text) (hagain : load (some text) = .ok (config.withProvider p))

theorem keeps_iff (name : String) (file : Option String) :
    Keeps name file ↔ Provider.ofText? name = none ∨ ∃ config, load file = .ok config := by
  constructor
  · intro h
    cases h with
    | failed hsave =>
      cases hname : Provider.ofText? name with
      | none => exact .inl rfl
      | some p =>
        rw [saveProvider_of_known hname] at hsave
        cases hsave
    | changed hname hload => exact .inr ⟨_, hload⟩
  · intro h
    cases hname : Provider.ofText? name with
    | none =>
      have hsave := saveProvider_of_unknown hname file
      exact .failed hsave (by rw [fileAfter, hsave]; rfl)
    | some p =>
      obtain ⟨config, hload⟩ := h.resolve_left (by simp [hname])
      have hsave := saveProvider_of_load hname hload
      exact .changed hname hload (by rw [fileAfter, hsave]; rfl) (parse_fileText _)

theorem load_fileAfter (name : String) (file : Option String) :
    load (fileAfter name file) =
      match Provider.ofText? name with
      | none => load file
      | some p => .ok (((load file).toOption.getD standard).withProvider p) := by
  cases hname : Provider.ofText? name with
  | none =>
    rw [fileAfter, saveProvider_of_unknown hname]
    rfl
  | some p =>
    rw [fileAfter, saveProvider_of_known hname]
    exact parse_fileText _

/-- The other settings are kept exactly where the file can be read or the name is unknown. What is
read afterwards is in any case what was read before, or the standard, with the provider. -/
theorem saveProvider_keeps (name : String) (file : Option String) :
    (Keeps name file ↔ Provider.ofText? name = none ∨ ∃ config, load file = .ok config) ∧
      load (fileAfter name file) =
        match Provider.ofText? name with
        | none => load file
        | some p => .ok (((load file).toOption.getD standard).withProvider p) :=
  ⟨keeps_iff name file, load_fileAfter name file⟩

def commaFile : String := "\x7b\"base_url\":\"http://chantier.local:9000\",\x7d"

theorem commaFile_lost : (∀ config, load (some commaFile) ≠ .ok config) ∧
    load (fileAfter "openai" (some commaFile)) = .ok (standard.withProvider .openai) ∧
    ¬ Keeps "openai" (some commaFile) := by
  have hnone : (load (some commaFile)).toOption = none := by decide
  have hname : Provider.ofText? "openai" = some .openai := by decide
  have hload : ∀ config, load (some commaFile) ≠ .ok config := by
    intro config h
    rw [h] at hnone
    cases hnone
  refine ⟨hload, ?_, ?_⟩
  · rw [load_fileAfter, hname, hnone]
    rfl
  · rw [keeps_iff, hname]
    rintro (h | ⟨config, h⟩)
    · cases h
    · exact hload config h

end YardConsole.Config
