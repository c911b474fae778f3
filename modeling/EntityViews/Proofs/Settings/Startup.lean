import EntityViews.Program
import EntityViews.Proofs.FirstRefusal
import EntityViews.Proofs.Settings.Precedence

/-! The settings that a run starts with.
The usual file gives the same settings whether or not it is asked for by name. Settings are
checked once the environment has had its say, so no run carries out its command with settings
that cannot be used, and none is refused with settings that can.
-/

namespace EntityViews

/-- The limit admits something, the mark has a name and the words about the log are understood. -/
structure Settings.Usable (settings : Settings) : Prop where
  depth : settings.views.maxDepth? ≠ some 0
  mark : ∃ c ∈ settings.views.fileMark.toList, Text.isBlank c = false
  log : ∃ plan, settings.log.plan = .ok plan

/-- Nothing is left of a text exactly if it is blank throughout. -/
theorem Text.isEmpty_trim_iff {text : String}
    : (Text.trim text).isEmpty ↔ ∀ c ∈ text.toList, Text.isBlank c := by
  rw [trim, String.isEmpty_iff, String.ofList_eq_empty_iff, List.reverse_eq_nil_iff,
    List.dropWhile_eq_nil_iff]
  simp only [List.mem_reverse]
  -- Trimming at the end sees only what is left of trimming at the start.
  rw [← List.dropWhile_eq_nil_iff, List.dropWhile_idempotent, List.dropWhile_eq_nil_iff]

theorem ViewSettings.validate_eq_ok_iff {settings : ViewSettings}
    : settings.validate = .ok ()
      ↔ settings.maxDepth? ≠ some 0
        ∧ ∃ c ∈ settings.fileMark.toList, Text.isBlank c = false := by
  have named : (∃ c ∈ settings.fileMark.toList, Text.isBlank c = false)
      ↔ ¬ (Text.trim settings.fileMark).isEmpty := by
    rw [Text.isEmpty_trim_iff]
    simp
  rw [named, validate]
  split
  · simp [*]
  · split <;> simp [*]

/-- The checks pass exactly the settings that can be used. -/
theorem Settings.validate_eq_ok_iff {settings : Settings}
    : settings.validate = .ok () ↔ settings.Usable := by
  simp only [validate, Except.bind_eq_ok_iff]
  constructor
  · intro passes
    obtain ⟨⟨⟩, views, plan, planned, _⟩ := passes
    obtain ⟨depth, mark⟩ := ViewSettings.validate_eq_ok_iff.mp views
    exact ⟨depth, mark, plan, planned⟩
  · intro usable
    obtain ⟨plan, planned⟩ := usable.log
    have views := ViewSettings.validate_eq_ok_iff.mpr ⟨usable.depth, usable.mark⟩
    exact ⟨(), views, plan, planned, rfl⟩

/-- The settings that a run is given, before any check: those of the file it asks for, or of the
usual file, or the defaults if that is absent, under the environment.
-/
inductive Settings.GivenBy (files : Files) (environment : Environment)
    : Option String → Settings → Prop where
  | asked {path text : String} {written : Settings} (h : files path = .text text)
    (reads : ofText text = .ok written)
    : GivenBy files environment (some path) (written.under environment).1
  | usual {text : String} {written : Settings} (h : files usualFile = .text text)
    (reads : ofText text = .ok written)
    : GivenBy files environment none (written.under environment).1
  | absent {problem : FileError} (h : files usualFile = .missing problem)
    : GivenBy files environment none (under {} environment).1

/-- The usual file stands where it is looked for, whether or not it can be read. -/
def Settings.UsualFileExists (files : Files) : Prop :=
  ∀ problem, files usualFile ≠ .missing problem

/-- The error of a file that is asked for by name, if it is the usual file and is not. -/
def StartError.unasked : StartError → StartError
  | .settingsFile problem => .settingsFile (.unusable Settings.usualFile problem)
  | .settings problem => .settings problem

section Loading

variable {files : Files} {environment : Environment} {path? : Option String}
  {settings : Settings}

theorem Settings.ofFile_eq_ok_iff {path : String}
    : ofFile files path = .ok settings
      ↔ ∃ text, files path = .text text ∧ ofText text = .ok settings := by
  unfold ofFile
  cases files path with
  | missing problem => simp [FileContent.read]
  | unreadable problem => simp [FileContent.read]
  | text content => cases reads : ofText content <;> simp [FileContent.read, reads]

/-- The usual file is read like one that is asked for, except that it may be absent. -/
theorem Settings.ofFileIfThere_of_exists (there : UsualFileExists files)
    : ofFileIfThere files usualFile
      = (ofFile files usualFile).mapError (.unusable usualFile) := by
  have found : (files usualFile).isThere := by
    cases content : files usualFile with
    | missing problem => exact absurd content (there problem)
    | unreadable problem => rfl
    | text text => rfl
  rw [ofFileIfThere, if_pos found]
  cases ofFile files usualFile <;> rfl

theorem Settings.ofFileIfThere_of_absent {problem : FileError}
    (absent : files usualFile = .missing problem)
    : ofFileIfThere files usualFile = .ok {} := by
  simp [ofFileIfThere, FileContent.isThere, absent]

theorem Settings.ofFileIfThere_eq_ok_iff
    : ofFileIfThere files usualFile = .ok settings
      ↔ (∃ text, files usualFile = .text text ∧ ofText text = .ok settings)
        ∨ ∃ problem, files usualFile = .missing problem ∧ settings = {} := by
  by_cases there : UsualFileExists files
  · rw [ofFileIfThere_of_exists there, Except.mapError_eq_ok_iff, ofFile_eq_ok_iff]
    simp [there _]
  · obtain ⟨problem, absent⟩ := not_forall_not.mp there
    rw [ofFileIfThere_of_absent absent, Except.ok.injEq]
    simpa [absent] using eq_comm

/-- A run loads its settings and then checks them. -/
theorem loadSettings_eq
    : loadSettings files environment path?
      = (do
          let given ← (Settings.loadFrom files environment path?).mapError .settingsFile
          given.1.validate.mapError .settings
          return given.1) := by
  unfold loadSettings
  cases Settings.loadFrom files environment path? with
  | error problem => rfl
  | ok given => cases valid : given.1.validate <;> simp [valid]

theorem Settings.loadFrom_eq_ok_iff
    : (∃ events, loadFrom files environment path? = .ok (settings, events))
      ↔ GivenBy files environment path? settings := by
  cases path? with
  | some path =>
      simp only [loadFrom, loadExplicit, Except.map_eq_ok_iff, ofFile_eq_ok_iff]
      constructor
      · intro loads
        obtain ⟨events, written, ⟨text, found, reads⟩, same⟩ := loads
        obtain rfl : (written.under environment).1 = settings := congrArg Prod.fst same
        exact .asked found reads
      · intro given
        cases given with
        | asked found reads => exact ⟨_, _, ⟨_, found, reads⟩, rfl⟩
  | none =>
      simp only [loadFrom, load, Except.map_eq_ok_iff, ofFileIfThere_eq_ok_iff]
      constructor
      · intro loads
        obtain ⟨events, written, there, same⟩ := loads
        rcases there with ⟨text, found, reads⟩ | ⟨problem, absent, rfl⟩
        · obtain rfl : (written.under environment).1 = settings := congrArg Prod.fst same
          exact .usual found reads
        · obtain rfl : (under {} environment).1 = settings := congrArg Prod.fst same
          exact .absent absent
      · intro given
        cases given with
        | usual found reads => exact ⟨_, _, .inl ⟨_, found, reads⟩, rfl⟩
        | absent absent => exact ⟨_, _, .inr ⟨_, absent, rfl⟩, rfl⟩

/-- A run starts exactly with the settings that it is given, if they can be used. -/
theorem loadSettings_eq_ok_iff
    : loadSettings files environment path? = .ok settings
      ↔ Settings.GivenBy files environment path? settings ∧ settings.Usable := by
  rw [loadSettings_eq, ← Settings.loadFrom_eq_ok_iff, ← Settings.validate_eq_ok_iff]
  simp only [Except.bind_eq_ok_iff, Except.mapError_eq_ok_iff]
  constructor
  · intro loads
    obtain ⟨⟨_, events⟩, loaded, ⟨⟩, valid, same⟩ := loads
    obtain rfl := Except.ok.inj same
    exact ⟨⟨events, loaded⟩, valid⟩
  · intro loads
    obtain ⟨⟨events, loaded⟩, valid⟩ := loads
    exact ⟨(settings, events), loaded, (), valid, rfl⟩

/-- The usual file gives the same settings whether or not it is asked for. -/
theorem loadSettings_of_usual (there : Settings.UsualFileExists files)
    : loadSettings files environment none
      = (loadSettings files environment (some Settings.usualFile)).mapError .unasked := by
  rw [loadSettings_eq, loadSettings_eq]
  simp only [Settings.loadFrom, Settings.load, Settings.loadExplicit,
    Settings.ofFileIfThere_of_exists there]
  cases Settings.ofFile files Settings.usualFile with
  | error problem => rfl
  | ok written =>
      simp only [Except.mapError_ok, Except.map_ok, Except.ok_bind]
      cases (written.under environment).1.validate <;> rfl

/-- A run that has its settings understands the words about the log. -/
theorem runCommand_of_loaded {command : Command}
    (loaded : loadSettings files environment path? = .ok settings)
    : ∃ plan,
        settings.log.plan = .ok plan
        ∧ runCommand files environment path? command
          = command.carryOut files environment settings.views plan := by
  obtain ⟨plan, planned⟩ := (loadSettings_eq_ok_iff.mp loaded).2.log
  refine ⟨plan, planned, ?_⟩
  simp only [runCommand, loaded, planned]

end Loading

/-- How runs start with the files and the environment that they find. -/
structure StartsSoundly (files : Files) (environment : Environment) : Prop where
  /-- The usual file gives the same settings, or fails for the same reason, whether or not it is
  asked for.
  -/
  agree
    : Settings.UsualFileExists files
      → loadSettings files environment none
        = (loadSettings files environment (some Settings.usualFile)).mapError .unasked
  /-- All settings that can be used pass, and no others. -/
  loads
    : ∀ path? settings,
        loadSettings files environment path? = .ok settings
        ↔ Settings.GivenBy files environment path? settings ∧ settings.Usable
  /-- Once it has its settings, nothing stands between a run and its command. -/
  runs
    : ∀ path? command,
        (∃ problem,
          loadSettings files environment path? = .error problem
          ∧ runCommand files environment path? command = .failure [] problem.message)
        ∨ ∃ settings plan,
            loadSettings files environment path? = .ok settings
            ∧ settings.log.plan = .ok plan
            ∧ runCommand files environment path? command
              = command.carryOut files environment settings.views plan

/-- Runs start soundly with any files and in any environment. -/
theorem startsSoundly (files : Files) (environment : Environment)
    : StartsSoundly files environment where
  agree := loadSettings_of_usual
  loads _ _ := loadSettings_eq_ok_iff
  runs path? command := by
    cases loaded : loadSettings files environment path? with
    | error problem => exact .inl ⟨problem, rfl, by simp only [runCommand, loaded]⟩
    | ok settings =>
        obtain ⟨plan, planned, carried⟩ := runCommand_of_loaded loaded
        exact .inr ⟨settings, plan, rfl, planned, carried⟩

/-- The settings of the press under its variables. -/
def pressSettings : Settings :=
  {
    views := { maxDepth? := some 12, fileMark := "upload" },
    log := { level := "debug", format := "json" }
  }

theorem pressSettings_given
    : Settings.GivenBy Settings.pressFiles (.ofLookup (Settings.pressVariables "12"))
        (some Settings.usualFile) pressSettings := by
  obtain ⟨table, read, written⟩ := Settings.pressFile_reads
  have found : Settings.pressFiles Settings.usualFile = .text Settings.pressFile := rfl
  exact .asked found (Settings.ofText_eq read written)

/-- The press starts alike whether or not its file is asked for. In an environment that admits no
depth at all it does not start, though there is nothing wrong with its file.
-/
theorem press_starts
    : (∀ path? ∈ [none, some Settings.usualFile],
        loadSettings Settings.pressFiles (.ofLookup (Settings.pressVariables "12")) path?
        = .ok pressSettings)
      ∧ ∀ path? settings,
          loadSettings Settings.pressFiles { maxDepth? := some "0" } path? ≠ .ok settings := by
  constructor
  · have sound := startsSoundly Settings.pressFiles (.ofLookup (Settings.pressVariables "12"))
    have there : Settings.UsualFileExists Settings.pressFiles := by
      simp [Settings.UsualFileExists, Settings.pressFiles]
    have usable : pressSettings.Usable :=
      ⟨by decide, ⟨'u', by simp [pressSettings], by decide⟩, _, rfl⟩
    have asked := (sound.loads _ _).mpr ⟨pressSettings_given, usable⟩
    simp only [List.forall_mem_cons, List.not_mem_nil, false_imp_iff, implies_true, and_true]
    exact ⟨by rw [sound.agree there, asked, Except.mapError_ok], asked⟩
  · intro path? settings loaded
    have sound := startsSoundly Settings.pressFiles { maxDepth? := some "0" }
    obtain ⟨given, usable⟩ := (sound.loads _ _).mp loaded
    refine usable.depth ?_
    cases given <;> rfl

end EntityViews
