import WorkerBindings.Proofs.Files.Destinations
import WorkerBindings.Proofs.Workspace.Additions

/-!
# Files that stay

A program that writes files and makes directories leaves all other files alone: those that were
there stay, and none is added. So a path that leads elsewhere is read as before, unless it led
nowhere because a directory on the way was missing.
-/

namespace WorkerBindings

namespace Workspace

/-- The place that a path names. -/
def placeOf (workspace : Workspace) (path : String) : List String :=
  Path.destination workspace.current path

theorem eq_placeOf_of_leads {workspace : Workspace} {path : String} {location : List String}
    (leads : workspace.Leads path location) : location = workspace.placeOf path :=
  FileTree.destination_of_locate leads

/-- A file is read exactly if its path leads to its place. -/
theorem read_eq_ok_iff {workspace : Workspace} {path text : String} :
    workspace.read path = .ok text ↔
      workspace.Leads path (workspace.placeOf path) ∧
        workspace.HasFile (workspace.placeOf path) text := by
  constructor
  · intro found
    rw [read, FileTree.read] at found
    cases located : workspace.files.locate workspace.current path with
    | error fault =>
      rw [located] at found
      cases found
    | ok location =>
      rw [located] at found
      cases eq_placeOf_of_leads located
      simp only [bind, Except.bind] at found
      split at found
      · cases found
        exact ⟨located, ‹_›⟩
      · cases found
      · cases found
  · rintro ⟨leads, found⟩
    exact read_of_hasFile leads found

/-- A file can be read by a path if there is one where the path names it. -/
def Reaches (workspace : Workspace) (path : String) : Prop :=
  ∀ text, workspace.HasFile (workspace.placeOf path) text → workspace.read path = .ok text

/-- From the one workspace to the other only the files at these locations changed, whether they were
there or not. -/
structure Alters (touched : List String → Prop) (before after : Workspace) : Prop where
  evolves : Evolves touched before after
  new : ∀ location content, ¬ touched location →
    after.HasFile location content → before.HasFile location content

namespace Alters

variable {touched : List String → Prop}

theorem refl (workspace : Workspace) : Alters touched workspace workspace :=
  ⟨.refl workspace, fun _ _ _ found => found⟩

variable {before between after : Workspace}

theorem trans (first : Alters touched before between) (second : Alters touched between after) :
    Alters touched before after where
  evolves := first.evolves.trans second.evolves
  new location content untouched found :=
    first.new location content untouched (second.new location content untouched found)

theorem mono {others : List String → Prop} (alters : Alters touched before after)
    (within : ∀ location, touched location → others location) : Alters others before after where
  evolves := alters.evolves.mono within
  new location content untouched found :=
    alters.new location content (fun touched => untouched (within location touched)) found

theorem placeOf (alters : Alters touched before after) (path : String) :
    after.placeOf path = before.placeOf path := by
  rw [Workspace.placeOf, alters.evolves.current, Workspace.placeOf]

theorem hasFile_iff (alters : Alters touched before after) {location : List String}
    {content : String} (untouched : ¬ touched location) :
    after.HasFile location content ↔ before.HasFile location content :=
  ⟨alters.new location content untouched, alters.evolves.hasFile untouched⟩

/-- A file that can be read if it is there is read as before. -/
theorem read_eq_ok_iff (alters : Alters touched before after) {path text : String}
    (untouched : ¬ touched (before.placeOf path)) (reached : before.Reaches path) :
    after.read path = .ok text ↔ before.read path = .ok text := by
  rw [Workspace.read_eq_ok_iff, alters.placeOf, alters.hasFile_iff untouched]
  constructor
  · rintro ⟨_, found⟩
    exact reached text found
  · intro found
    obtain ⟨leads, found⟩ := Workspace.read_eq_ok_iff.mp found
    exact ⟨alters.evolves.leads leads, found⟩

theorem reaches (alters : Alters touched before after) {path : String}
    (untouched : ¬ touched (before.placeOf path)) (reached : before.Reaches path) :
    after.Reaches path := by
  intro text found
  rw [alters.placeOf, alters.hasFile_iff untouched] at found
  exact (alters.read_eq_ok_iff untouched reached).mpr (reached text found)

theorem write (workspace : Workspace) (path content : String) :
    Alters (workspace.Leads path) workspace (workspace.write path content).2 where
  evolves := .write workspace path content
  new _ _ untouched found := (hasFile_of_write found).resolve_right fun here => untouched here.1

theorem append (workspace : Workspace) (path content : String) :
    Alters (workspace.Leads path) workspace (workspace.append path content).2 where
  evolves := .append workspace path content
  new _ _ untouched found := (hasFile_of_append found).resolve_right untouched

theorem makeDirectories (workspace : Workspace) (path : String) :
    Alters touched workspace (workspace.makeDirectories path).2 where
  evolves := .makeDirectories workspace path
  new _ _ _ found := hasFile_of_makeDirectories found

end Alters

end Workspace

namespace Console

open Workspace

theorem log_alters (console : Console) (message : String) (workspace : Workspace) :
    Alters (console.LogsAt workspace) workspace
      ((console.log message : StateM Workspace Unit) workspace).2 := by
  rw [log]
  cases logged : console.logFile with
  | none => exact .refl workspace
  | some path =>
    exact (Alters.append workspace path _).mono fun location leads => ⟨path, logged, leads⟩

/-- A message alters the log and nothing else. -/
theorem say_alters (console : Console) (tone : Tone) (message : String) (workspace : Workspace) :
    Alters (console.LogsAt workspace) workspace
      ((console.say tone message : StateM Workspace Unit) workspace).2 := by
  rw [say, bind_apply]
  refine (log_alters console (tone.logLead ++ message) workspace).trans ?_
  split
  · exact ⟨printMessage_confined _ _, fun _ _ _ found => found⟩
  · exact .refl _

end Console

end WorkerBindings
