import WorkerBindings.Proofs.Workspace.Alterations
import WorkerBindings.Settings.File

/-!
# Settings in use

Which settings are loaded is decided by the file in use and what is in it: a file that is not there
holds no settings, and one that is there holds those of its text, unless that is no settings file or
the file is a directory. Loading changes nothing.
-/

namespace WorkerBindings

/-- What loading the settings comes to. -/
def Workspace.settingsFor (workspace : Workspace) (environment : Environment) :
    Except SettingsError Settings :=
  ((Settings.load environment : StateM Workspace _) workspace).1

namespace Settings

variable (environment : Environment) (workspace : Workspace)

theorem file_snd : ((file environment : StateM Workspace _) workspace).2 = workspace := by
  unfold file pointedFile
  cases environment.settingsVariable.bind Text.nonBlank? with
  | some path => rfl
  | none =>
    dsimp only
    rw [Workspace.bind_apply, Workspace.bind_apply]
    simp only [Platform.readFile]
    cases workspace.read environment.pointerFile <;> rfl

theorem loadFrom_snd (path : String) :
    ((loadFrom path : StateM Workspace _) workspace).2 = workspace := by
  unfold loadFrom
  rw [Workspace.bind_apply]
  simp only [Platform.kindOf]
  split
  · rfl
  · rw [Workspace.bind_apply]
    simp only [Platform.readFile]
    cases workspace.read path with
    | error fault => rfl
    | ok text =>
      dsimp only
      cases ofText? text <;> rfl

/-- Loading the settings changes nothing. -/
theorem load_apply : (load environment : StateM Workspace _) workspace =
    (workspace.settingsFor environment, workspace) := by
  refine Prod.ext rfl ?_
  unfold load
  rw [Workspace.bind_apply, loadFrom_snd, file_snd]

end Settings

namespace Workspace

/-- The settings file in use. -/
def settingsFile (workspace : Workspace) (environment : Environment) : String :=
  ((Settings.file environment : StateM Workspace _) workspace).1

variable {environment : Environment} {workspace : Workspace}

theorem settingsFile_of_variable {path : String}
    (chosen : environment.settingsVariable.bind Text.nonBlank? = some path) :
    workspace.settingsFile environment = path := by
  unfold settingsFile Settings.file
  rw [chosen]
  rfl

theorem settingsFile_of_pointer
    (free : environment.settingsVariable.bind Text.nonBlank? = none) :
    workspace.settingsFile environment =
      match workspace.read environment.pointerFile with
      | .ok text => (Text.nonBlank? text).getD environment.usualSettingsFile
      | .error _ => environment.usualSettingsFile := by
  unfold settingsFile Settings.file Settings.pointedFile
  rw [free]
  dsimp only
  rw [Workspace.bind_apply, Workspace.bind_apply]
  simp only [Platform.readFile]
  cases workspace.read environment.pointerFile <;> rfl

/-- The file in use stays the same as long as the pointer file is read as before. -/
theorem settingsFile_of_read {before after : Workspace}
    (same : environment.settingsVariable.bind Text.nonBlank? = none → ∀ text,
      after.read environment.pointerFile = .ok text ↔
        before.read environment.pointerFile = .ok text) :
    after.settingsFile environment = before.settingsFile environment := by
  cases chosen : environment.settingsVariable.bind Text.nonBlank? with
  | some path => rw [settingsFile_of_variable chosen, settingsFile_of_variable chosen]
  | none =>
    have same := same chosen
    rw [settingsFile_of_pointer chosen, settingsFile_of_pointer chosen]
    cases found : before.read environment.pointerFile with
    | ok text => rw [(same text).mpr found]
    | error fault =>
      cases later : after.read environment.pointerFile with
      | error fault => rfl
      | ok text =>
        rw [(same text).mp later] at found
        cases found

/-- What loading the settings comes to, by what lies at the file in use. -/
inductive Loads (workspace : Workspace) (environment : Environment) :
    Except SettingsError Settings → Prop
  /-- There is no file, and so there are no settings. -/
  | absent (nothing : workspace.files.find? workspace.current
      (workspace.settingsFile environment) = none) : Loads workspace environment (.ok .empty)
  /-- The file holds the settings. -/
  | valid {text : String} {settings : Settings}
      (found : workspace.read (workspace.settingsFile environment) = .ok text)
      (holds : Settings.ofText? text = some settings) : Loads workspace environment (.ok settings)
  /-- The file is no settings file. -/
  | invalid {text : String}
      (found : workspace.read (workspace.settingsFile environment) = .ok text)
      (isNone : Settings.ofText? text = none) : Loads workspace environment (.error .malformed)
  /-- There is a directory in place of the file. -/
  | directory {location : List String}
      (leads : workspace.Leads (workspace.settingsFile environment) location)
      (isDirectory : workspace.files.HasDirectory location) :
      Loads workspace environment (.error (.file .isDirectory))

theorem settingsFor_eq : workspace.settingsFor environment =
    ((Settings.loadFrom (workspace.settingsFile environment) : StateM Workspace _)
      workspace).1 := by
  unfold settingsFor Settings.load
  rw [Workspace.bind_apply, Settings.file_snd]
  rfl

theorem settingsFor_of_absent (nothing : workspace.files.find? workspace.current
    (workspace.settingsFile environment) = none) :
    workspace.settingsFor environment = .ok .empty := by
  rw [settingsFor_eq, Settings.loadFrom, Workspace.bind_apply]
  simp only [Platform.kindOf, nothing]
  rfl

theorem settingsFor_of_present {node : FileTree String} (present : workspace.files.find?
    workspace.current (workspace.settingsFile environment) = some node) :
    workspace.settingsFor environment =
      match workspace.read (workspace.settingsFile environment) with
      | .error fault => .error (.file fault)
      | .ok text =>
        match Settings.ofText? text with
        | some settings => .ok settings
        | none => .error .malformed := by
  have isPresent : FileTree.kind (some node) ≠ .absent := by
    cases node <;> nofun
  rw [settingsFor_eq, Settings.loadFrom, Workspace.bind_apply]
  simp only [Platform.kindOf, present]
  rw [if_neg isPresent, Workspace.bind_apply]
  simp only [Platform.readFile]
  cases workspace.read (workspace.settingsFile environment) with
  | error fault => rfl
  | ok text =>
    dsimp only
    cases Settings.ofText? text <;> rfl

theorem settingsFor_of_read {text : String}
    (found : workspace.read (workspace.settingsFile environment) = .ok text) :
    workspace.settingsFor environment =
      match Settings.ofText? text with
      | some settings => .ok settings
      | none => .error .malformed := by
  obtain ⟨leads, isFile⟩ := read_eq_ok_iff.mp found
  have present : workspace.files.find? workspace.current (workspace.settingsFile environment) =
      some (.file text) := by
    rw [FileTree.find?, leads]
    exact isFile
  rw [settingsFor_of_present present, found]

theorem settingsFor_loads (environment : Environment) (workspace : Workspace) :
    workspace.Loads environment (workspace.settingsFor environment) := by
  cases found : workspace.files.find? workspace.current (workspace.settingsFile environment) with
  | none =>
    rw [settingsFor_of_absent found]
    exact .absent found
  | some node =>
    obtain ⟨location, leads, here⟩ := FileTree.find?_eq_some_iff.mp found
    cases node with
    | file text =>
      have read := read_of_hasFile leads here
      rw [settingsFor_of_read read]
      cases holds : Settings.ofText? text with
      | some settings => exact .valid read holds
      | none => exact .invalid read holds
    | directory entries =>
      have unread : workspace.read (workspace.settingsFile environment) = .error .isDirectory := by
        rw [read, FileTree.read, leads]
        simp only [bind, Except.bind, here]
      rw [settingsFor_of_present found, unread]
      exact .directory leads ⟨entries, here⟩

end Workspace

end WorkerBindings
