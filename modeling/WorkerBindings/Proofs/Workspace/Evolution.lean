import WorkerBindings.Console.Basic
import WorkerBindings.Documents.Loading
import WorkerBindings.Proofs.Documents.Saving
import WorkerBindings.Proofs.Files.Evolution
import WorkerBindings.Proofs.Files.Locations
import WorkerBindings.Proofs.Workspace.Steps

/-!
# Workspaces over time

What the steps of a program may touch in a workspace. Messages touch the log and nothing else, and
saving a manifest touches the location of the manifest; all other files stay as they are, and every
path goes on leading to the same place.
-/

namespace WorkerBindings

namespace Workspace

/-- A path leads to a location. -/
def Leads (workspace : Workspace) (path : String) (location : List String) : Prop :=
  workspace.files.locate workspace.current path = .ok location

/-- There is a file with this content where a path leads. -/
def HasFile (workspace : Workspace) (location : List String) (content : String) : Prop :=
  workspace.files.at? location = some (.file content)

/-- From the one workspace to the other only the files at these locations changed. -/
structure Evolves (touched : List String → Prop) (before after : Workspace) : Prop where
  current : after.current = before.current
  documentTime : after.documentTime = before.documentTime
  files : FileTree.Evolves touched before.files after.files

variable {touched : List String → Prop}

namespace Evolves

theorem refl (workspace : Workspace) : Evolves touched workspace workspace :=
  ⟨rfl, rfl, .refl workspace.files⟩

variable {before between after : Workspace}

theorem trans (first : Evolves touched before between) (second : Evolves touched between after) :
    Evolves touched before after where
  current := second.current.trans first.current
  documentTime := second.documentTime.trans first.documentTime
  files := first.files.trans second.files

theorem mono {others : List String → Prop} (evolves : Evolves touched before after)
    (within : ∀ location, touched location → others location) : Evolves others before after :=
  ⟨evolves.current, evolves.documentTime, evolves.files.mono within⟩

theorem leads (evolves : Evolves touched before after) {path : String} {location : List String}
    (leads : before.Leads path location) : after.Leads path location := by
  rw [Leads, evolves.current]
  exact evolves.files.locate leads

theorem hasFile (evolves : Evolves touched before after) {location : List String} {content : String}
    (untouched : ¬ touched location) (found : before.HasFile location content) :
    after.HasFile location content :=
  evolves.files.files location content untouched found

end Evolves

theorem read_of_hasFile {workspace : Workspace} {path content : String} {location : List String}
    (leads : workspace.Leads path location) (found : workspace.HasFile location content) :
    workspace.read path = .ok content := by
  unfold Leads at leads
  unfold HasFile at found
  rw [read, FileTree.read, leads]
  simp only [bind, Except.bind, found]

/-- A file that could be written is where its path leads, and nothing else was touched. -/
theorem write_eq_ok {workspace after : Workspace} {path content : String}
    (written : workspace.write path content = (.ok (), after)) :
    ∃ location, workspace.Leads path location ∧ after.HasFile location content ∧
      Evolves (· = location) workspace after := by
  unfold write settle at written
  cases changed : workspace.files.write workspace.current path content with
  | error fault =>
    rw [changed] at written
    cases written
  | ok files =>
    rw [changed] at written
    cases written
    obtain ⟨location, located, free, put⟩ := FileTree.write_eq_ok changed
    exact ⟨location, located, FileTree.at?_put? put, rfl, rfl, .put put free⟩

theorem Evolves.write (workspace : Workspace) (path content : String) :
    Evolves (workspace.Leads path) workspace (workspace.write path content).2 := by
  generalize attempt : workspace.write path content = ended
  rcases ended with ⟨fault | done, after⟩
  · unfold Workspace.write settle at attempt
    split at attempt <;> cases attempt
    exact .refl workspace
  · obtain ⟨location, leads, _, evolves⟩ := write_eq_ok attempt
    refine evolves.mono ?_
    rintro _ rfl
    exact leads

theorem Evolves.append (workspace : Workspace) (path content : String) :
    Evolves (workspace.Leads path) workspace (workspace.append path content).2 := by
  unfold Workspace.append
  split
  · exact .write workspace path _
  · exact .write workspace path _

theorem Evolves.makeDirectories (workspace : Workspace) (path : String) :
    Evolves touched workspace (workspace.makeDirectories path).2 :=
  ⟨rfl, rfl, .makeDirectories workspace.files workspace.current path⟩

variable {α β : Type}

/-- The step changes files at these locations at most. -/
def Confined (touched : List String → Prop) (step : StateM Workspace α) : Prop :=
  ∀ workspace : Workspace, Evolves touched workspace (step workspace).2

namespace Confined

theorem pure (value : α) : Confined touched (Pure.pure value) :=
  fun workspace => .refl workspace

theorem bind {step : StateM Workspace α} {next : α → StateM Workspace β}
    (first : Confined touched step) (second : ∀ value, Confined touched (next value)) :
    Confined touched (step >>= next) := by
  intro workspace
  rw [bind_apply]
  exact (first workspace).trans (second _ _)

theorem forM {items : List β} {step : β → StateM Workspace Unit}
    (each : ∀ item, Confined touched (step item)) : Confined touched (items.forM step) := by
  induction items with
  | nil => exact .pure ()
  | cons item rest ih => exact .bind (each item) fun _ => ih

end Confined

end Workspace

namespace Console

/-- The ending of the name of a log. -/
def logSuffix : String := ".log"

/-- Whether a location is named as a log. -/
def IsLog (location : List String) : Prop :=
  Discovery.isNamed logSuffix location = true

/-- The console logs into a file that is named as a log, if it logs at all. -/
def LogsApart (console : Console) : Prop :=
  ∀ path, console.logFile = some path → logSuffix.toList <:+ path.toList

/-- The log of a user is named as one. -/
theorem logsApart_logFile {environment : Environment} {console : Console}
    (logs : console.logFile = none ∨ console.logFile = some environment.logFile) :
    console.LogsApart := by
  rintro path logged
  rcases logs with silent | logs
  · rw [silent] at logged
    cases logged
  · rw [logs] at logged
    cases logged
    have ends : logSuffix.toList <:+ "fnmeta.log".toList := by decide
    exact ends.trans (Path.suffix_join _ _)

variable {console : Console} {touched : List String → Prop}

open Workspace

/-- The console logs into the file at a location. -/
def LogsAt (console : Console) (workspace : Workspace) (location : List String) : Prop :=
  ∃ path, console.logFile = some path ∧ workspace.Leads path location

theorem LogsApart.isLog (apart : console.LogsApart) {workspace : Workspace} {location : List String}
    (logs : console.LogsAt workspace location) : IsLog location := by
  obtain ⟨path, logged, leads⟩ := logs
  exact Discovery.isNamed_of_locate leads (apart path logged) (by decide) (by decide)

theorem log_evolves (console : Console) (message : String) (workspace : Workspace) :
    Evolves (console.LogsAt workspace) workspace
      ((console.log message : StateM Workspace Unit) workspace).2 := by
  rw [log]
  cases logged : console.logFile with
  | none => exact .refl workspace
  | some path =>
    exact (Evolves.append workspace path _).mono fun location leads => ⟨path, logged, leads⟩

theorem printMessage_confined (text : String) :
    Confined touched (Platform.printMessage text : StateM Workspace Unit) :=
  fun workspace => ⟨rfl, rfl, .refl workspace.files⟩

/-- A message touches the log and nothing else. -/
theorem say_evolves (console : Console) (tone : Tone) (message : String) (workspace : Workspace) :
    Evolves (console.LogsAt workspace) workspace
      ((console.say tone message : StateM Workspace Unit) workspace).2 := by
  rw [say, bind_apply]
  refine (log_evolves console (tone.logLead ++ message) workspace).trans ?_
  split
  · exact printMessage_confined _ _
  · exact .refl _

theorem say_confined (apart : console.LogsApart) (tone : Tone) (message : String) :
    Confined IsLog (console.say tone message : StateM Workspace Unit) :=
  fun workspace => (say_evolves console tone message workspace).mono fun _ => apart.isLog

theorem report_confined (apart : console.LogsApart) (diagnostic : Diagnostic) :
    Confined IsLog (console.report diagnostic : StateM Workspace Unit) := by
  refine .bind (fun workspace => ?_) fun _ => ?_
  · exact (log_evolves console _ workspace).mono fun _ => apart.isLog
  · split
    · exact printMessage_confined _
    · exact .pure ()

end Console

namespace Manifest

open Workspace

/-- A manifest that could be saved is where its path leads, and nothing else was touched. -/
theorem save_evolves {manifest : Manifest} {path : String} {workspace after : Workspace}
    (saved : (manifest.save path : StateM Workspace _) workspace = (.ok (), after)) :
    ∃ location, after.Leads path location ∧ after.HasFile location manifest.text ∧
      Evolves (· = location) workspace after := by
  obtain ⟨ready, written, made⟩ := save_ready saved
  obtain ⟨location, leads, found, evolves⟩ := write_eq_ok written
  refine ⟨location, evolves.leads leads, found, ?_⟩
  rcases made with rfl | ⟨directory, rfl⟩
  · exact evolves
  · exact (Evolves.makeDirectories workspace directory).trans evolves

end Manifest

end WorkerBindings
