import YardConsole.Proofs.Config.Provider
import YardConsole.Proofs.Http.Network
import YardConsole.Shell.Launch

/-! # What the program does to its file

Only one command writes to the file, and it writes what the file said before the options.
-/

namespace YardConsole.Shell

/-! ## Getting ready -/

def Options.Known (o : Options) : Prop := ∀ name ∈ o.provider, (Provider.ofText? name).isSome

instance (o : Options) : Decidable o.Known :=
  inferInstanceAs (Decidable (∀ name ∈ o.provider, (Provider.ofText? name).isSome))

variable {i : Invocation} {a : Arguments}

theorem start_of_error {e : Json.ReadError} (hread : Arguments.read i.arguments = .ok a)
    (hload : Config.load i.file = .error e) : start i = .error (failed i.file e.message) := by
  simp only [start, hread, hload]

theorem start_of_refused {config : Config} {message : String}
    (hread : Arguments.read i.arguments = .ok a) (hload : Config.load i.file = .ok config)
    (h : overridden config (a.options.orElse i.environment) = .error message) :
    start i = .error (failed i.file message) := by
  simp only [start, hread, hload, h]

theorem start_of_overridden {config config' : Config} (hread : Arguments.read i.arguments = .ok a)
    (hload : Config.load i.file = .ok config)
    (h : overridden config (a.options.orElse i.environment) = .ok config') :
    start i = .ok ⟨a.command, .ofConfig config', config'.address, i.file⟩ := by
  simp only [start, hread, hload, h]

theorem overridden_of_known (config : Config) {o : Options} (ho : o.Known) :
    ∃ config', overridden config o = .ok config' := by
  unfold overridden
  cases hprovider : o.provider with
  | none => exact ⟨_, rfl⟩
  | some name =>
    obtain ⟨p, hp⟩ := Option.isSome_iff_exists.mp (ho name hprovider)
    exact ⟨_, by simp only [hp]; rfl⟩

theorem overridden_of_unknown (config : Config) {o : Options} (ho : ¬ o.Known) :
    ∃ message, overridden config o = .error message := by
  simp only [Options.Known, Option.mem_def, not_forall, Option.not_isSome_iff_eq_none] at ho
  obtain ⟨name, hprovider, hname⟩ := ho
  simp only [overridden, hprovider, hname]
  exact ⟨_, rfl⟩

/-! ## Commands -/

def Leaves (file : Option String) (exit : Exit) : Prop := exit.file = file

theorem runOnce_ends (r : Ready) (text : String) : (runOnce r text).Ends (Leaves r.file) := by
  refine Job.ends_bind _ fun c => Job.ends_bind _ fun (outcome, c) => ?_
  cases outcome with
  | none => exact .done rfl
  | some o =>
    have hend : (Job.done (r.exit (if o.failed then 1 else 0))).Ends (Leaves r.file) := .done rfl
    exact hend.lines _

theorem parseOnly_ends (r : Ready) (text : String) : (parseOnly r text).Ends (Leaves r.file) := by
  refine Job.ends_bind _ fun (resolution, c) => ?_
  cases resolution with
  | error e => exact .done rfl
  | ok resolution => exact .say (.done rfl)

theorem showTools_ends (r : Ready) : (showTools r).Ends (Leaves r.file) := by
  refine Job.ends_bind _ fun (tools, c) => ?_
  cases tools with
  | error e => exact .done rfl
  | ok tools =>
    have hend : (Job.done (r.exit 0)).Ends (Leaves r.file) := .done rfl
    exact hend.lines _

theorem setProvider_of_unknown (r : Ready) {name : String} (hname : Provider.ofText? name = none) :
    setProvider r name = .done (failed r.file (Config.unknownProvider name)) := by
  simp only [setProvider, Config.saveProvider_of_unknown hname]

theorem setProvider_of_load {r : Ready} {name : String} {p : Provider} {config : Config}
    (hname : Provider.ofText? name = some p) (hload : Config.load r.file = .ok config) :
    setProvider r name = .line ("Fournisseur IA par défaut: " ++ name)
      (.done ⟨0, "", some (config.withProvider p).fileText⟩) := by
  simp only [setProvider, Config.saveProvider_of_load hname hload]

theorem perform_ends (r : Ready) (input : List String)
    (h : ∀ name p, r.command = .setProvider name → Provider.ofText? name ≠ some p) :
    (perform r input).Ends (Leaves r.file) := by
  unfold perform
  cases hcommand : r.command with
  | chat => exact Job.ends_bind _ fun c => Job.ends_bind _ fun c => .done rfl
  | run text => exact runOnce_ends r text
  | parse text => exact parseOnly_ends r text
  | tools => exact showTools_ends r
  | setProvider name =>
    have hname : Provider.ofText? name = none :=
      Option.eq_none_iff_forall_ne_some.mpr fun p => h name p hcommand
    simp only [setProvider_of_unknown r hname]
    exact .done rfl

/-! ## The program -/

structure Saves (a : Arguments) (environment : Options) (p : Provider) : Prop where
  command : ∃ name, a.command = .setProvider name ∧ Provider.ofText? name = some p
  options : (a.options.orElse environment).Known

theorem program_of_saves {p : Provider} {config : Config} (h : Saves a i.environment p)
    (hread : Arguments.read i.arguments = .ok a) (hload : Config.load i.file = .ok config)
    (input : String) : ∃ shown, program i input =
      .line shown (.done ⟨0, "", some (config.withProvider p).fileText⟩) := by
  obtain ⟨name, hcommand, hname⟩ := h.command
  obtain ⟨config', hconfig'⟩ := overridden_of_known config h.options
  refine ⟨"Fournisseur IA par défaut: " ++ name, ?_⟩
  simp only [program, start_of_overridden hread hload hconfig', perform, hcommand]
  exact setProvider_of_load hname hload

theorem program_of_error {e : Json.ReadError} (hread : Arguments.read i.arguments = .ok a)
    (hload : Config.load i.file = .error e) (input : String) :
    program i input = .done (failed i.file e.message) := by
  simp only [program, start_of_error hread hload]

theorem program_ends (hread : Arguments.read i.arguments = .ok a)
    (h : ∀ p config, Saves a i.environment p → Config.load i.file ≠ .ok config) (input : String) :
    (program i input).Ends (Leaves i.file) := by
  cases hload : Config.load i.file with
  | error e =>
    rw [program_of_error hread hload]
    exact .done rfl
  | ok config =>
    by_cases ho : (a.options.orElse i.environment).Known
    · obtain ⟨config', hconfig'⟩ := overridden_of_known config ho
      simp only [program, start_of_overridden hread hload hconfig']
      exact perform_ends ⟨a.command, .ofConfig config', config'.address, i.file⟩ _
        fun name p hcommand hname => h p config ⟨⟨name, hcommand, hname⟩, ho⟩ hload
    · obtain ⟨message, hmessage⟩ := overridden_of_unknown config ho
      simp only [program, start_of_refused hread hload hmessage]
      exact .done rfl

/-! ## The bytes -/

def loaded? (file : Option ByteArray) : Option Config :=
  match fileText file with
  | .ok text => (Config.load text).toOption
  | .error _ => none

theorem fromUTF8?_toUTF8 (text : String) : String.fromUTF8? text.toUTF8 = some text :=
  dif_pos text.isValidUTF8

theorem toUTF8_of_fromUTF8? {bytes : ByteArray} {text : String}
    (h : String.fromUTF8? bytes = some text) : text.toUTF8 = bytes := by
  obtain ⟨hvalid, hsome⟩ := Option.dite_none_right_eq_some.mp h
  obtain rfl := Option.some.inj hsome
  rfl

theorem toUTF8_of_fileText {file : Option ByteArray} {text : Option String}
    (h : fileText file = .ok text) : text.map String.toUTF8 = file := by
  cases file with
  | none =>
    cases h
    rfl
  | some bytes =>
    cases hbytes : String.fromUTF8? bytes with
    | none => simp [fileText, hbytes] at h
    | some found =>
      obtain rfl : some found = text := by simpa [fileText, hbytes] using h
      rw [Option.map_some, toUTF8_of_fromUTF8? hbytes]

theorem loaded?_of_fileText {file : Option ByteArray} {text : Option String}
    (h : fileText file = .ok text) : loaded? file = (Config.load text).toOption := by
  rw [loaded?, h]

theorem load_of_loaded? {file : Option ByteArray} {config : Config}
    (h : loaded? file = some config) :
    ∃ text, fileText file = .ok text ∧ Config.load text = .ok config := by
  cases htext : fileText file with
  | error message =>
    rw [loaded?, htext] at h
    cases h
  | ok text =>
    rw [loaded?_of_fileText htext] at h
    refine ⟨text, rfl, ?_⟩
    cases hload : Config.load text with
    | error e =>
      rw [hload] at h
      cases h
    | ok found =>
      rw [hload] at h
      cases h
      rfl

theorem loaded?_written (config : Config) :
    loaded? (some config.fileText.toUTF8) = some config := by
  have htext : fileText (some config.fileText.toUTF8) = .ok (some config.fileText) := by
    simp only [fileText, fromUTF8?_toUTF8]
  rw [loaded?_of_fileText htext, Config.load, Config.parse_fileText]
  rfl

/-! ## Launches -/

section

variable {ν : Type} {l : Launch} (hread : Arguments.read l.arguments = .ok a) (net : Network ν)
  (n : ν) (input : String)

theorem run_of_fileText {text : Option String} (htext : fileText l.file = .ok text) :
    l.run input = (program (l.invocation text) input).map Exit.written := by
  rw [Launch.run, htext]

include hread in
theorem run_of_not_loaded (hfile : loaded? l.file = none) :
    ∃ message, l.run input = .done ⟨1, message, l.file⟩ := by
  cases htext : fileText l.file with
  | error message =>
    refine ⟨"Error: " ++ message ++ "\n", ?_⟩
    simp only [Launch.run, htext, Launch.unreadable, hread]
    rfl
  | ok text =>
    cases hload : Config.load text with
    | ok config =>
      rw [loaded?_of_fileText htext, hload] at hfile
      cases hfile
    | error e =>
      refine ⟨"Error: " ++ e.message ++ "\n", ?_⟩
      rw [run_of_fileText input htext, program_of_error hread hload, ← toUTF8_of_fileText htext]
      rfl

include hread in
theorem run_of_saves {p : Provider} {config : Config} (h : Saves a l.environment p)
    (hfile : loaded? l.file = some config) : ∃ shown, l.run input =
      .line shown (.done ⟨0, "", some (config.withProvider p).fileText.toUTF8⟩) := by
  obtain ⟨text, htext, hload⟩ := load_of_loaded? hfile
  obtain ⟨shown, hprogram⟩ := program_of_saves (i := l.invocation text) h hread hload input
  refine ⟨shown, ?_⟩
  rw [run_of_fileText input htext, hprogram]
  rfl

include hread in
theorem file_of_run_of_not_saves
    (h : ∀ p config, Saves a l.environment p → loaded? l.file ≠ some config) :
    ((l.run input).through net n).result.file = l.file := by
  cases htext : fileText l.file with
  | error message =>
    obtain ⟨shown, hrun⟩ := run_of_not_loaded hread input (by rw [loaded?, htext])
    rw [hrun]
    rfl
  | ok text =>
    have hends : (program (l.invocation text) input).Ends (Leaves text) := by
      refine program_ends (i := l.invocation text) hread
        (fun p config hsaves hload => h p config hsaves ?_) input
      rw [loaded?_of_fileText htext]
      exact congrArg Except.toOption hload
    rw [run_of_fileText input htext, Job.through_map]
    have hfile : ((program (l.invocation text) input).through net n).result.file = text :=
      hends.result_through net n
    simp only [Exit.written, Exit.ending, hfile, toUTF8_of_fileText htext]

/-- The file changes only if a known provider is saved, and then by nothing else, whatever the
options say. If it cannot be read, no command is done. -/
theorem file_of_run (hread : Arguments.read l.arguments = .ok a) (net : Network ν) (n : ν)
    (input : String) :
    ((∀ p config, Saves a l.environment p → loaded? l.file ≠ some config) →
        ((l.run input).through net n).result.file = l.file) ∧
      (∀ p config, Saves a l.environment p → loaded? l.file = some config →
        ∃ bytes, ((l.run input).through net n).result.file = some bytes ∧
          loaded? (some bytes) = some (config.withProvider p)) ∧
      (loaded? l.file = none →
        ((l.run input).through net n).result.code = 1 ∧
          ((l.run input).through net n).posts = [] ∧
          ((l.run input).through net n).result.file = l.file) := by
  refine ⟨file_of_run_of_not_saves hread net n input, ?_, ?_⟩
  · intro p config hsaves hfile
    obtain ⟨shown, hrun⟩ := run_of_saves hread input hsaves hfile
    rw [hrun]
    exact ⟨_, rfl, loaded?_written _⟩
  · intro hfile
    obtain ⟨message, hrun⟩ := run_of_not_loaded hread input hfile
    rw [hrun]
    exact ⟨rfl, rfl, rfl⟩

end

/-- The address of the options is not written, and the one of the file is kept. -/
theorem file_of_run_overridden :
    let config : Config := { Config.standard with baseUrl := some "http://chantier.local:9000" }
    let l : Launch := ⟨["--url=http://autre:1", "set-provider", "ChatGPT"],
      ⟨none, some "claude"⟩, some config.fileText.toUTF8⟩
    let unreachable : Network Unit := ⟨fun _ n => (.unreachable "", n)⟩
    ∃ bytes, ((l.run "").through unreachable ()).result.file = some bytes ∧
      loaded? (some bytes) = some (config.withProvider .openai) := by
  intro config l unreachable
  have hread : Arguments.read l.arguments =
      .ok ⟨⟨some "http://autre:1", none⟩, .setProvider "ChatGPT"⟩ := by decide
  have hsaves : Saves ⟨⟨some "http://autre:1", none⟩, .setProvider "ChatGPT"⟩ l.environment
      .openai := ⟨⟨_, rfl, by decide⟩, by decide⟩
  exact (file_of_run hread unreachable () "").2.1 _ _ hsaves (loaded?_written config)

end YardConsole.Shell
