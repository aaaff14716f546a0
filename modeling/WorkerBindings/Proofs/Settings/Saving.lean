import WorkerBindings.Proofs.Settings.Loading
import WorkerBindings.Proofs.Settings.Text

/-!
# Settings put into use

Settings that could be saved are the ones that are loaded from then on, and no file but theirs has
changed. Where settings could be saved once, settings can be saved again.
-/

namespace WorkerBindings

namespace Workspace

variable {path : String} {before after later : Workspace}

theorem makeDirectories_eq_ok_iff :
    before.makeDirectories path = (.ok (), after) ↔
      before.files.makeDirectories before.current path = (after.files, .ok ()) ∧
        after = { before with files := after.files } := by
  unfold makeDirectories
  rcases before.files.makeDirectories before.current path with ⟨files, result⟩
  constructor
  · intro made
    cases made
    exact ⟨rfl, rfl⟩
  · rintro ⟨made, same⟩
    cases made
    rw [same]

/-- Directories that have been made are made again by changing nothing. -/
theorem makeDirectories_again (made : before.makeDirectories path = (.ok (), after))
    {touched : List String → Prop} (evolves : Evolves touched after later) :
    later.makeDirectories path = (.ok (), later) := by
  obtain ⟨madeFiles, same⟩ := makeDirectories_eq_ok_iff.mp made
  have current : later.current = before.current := by
    rw [evolves.current, same]
  refine makeDirectories_eq_ok_iff.mpr ⟨?_, rfl⟩
  rw [current]
  exact FileTree.makeDirectories_again madeFiles evolves.files.directories

/-- A workspace is made ready for a file at a path: the directory of the file is made, if the path
names one. -/
def Readies (path : String) (before after : Workspace) : Prop :=
  match Path.directory? path with
  | some directory => before.makeDirectories directory = (.ok (), after)
  | none => after = before

theorem Readies.alters {touched : List String → Prop} (readies : Readies path before after) :
    Alters touched before after := by
  unfold Readies at readies
  split at readies
  · rename_i directory named
    have made : Alters touched before (before.makeDirectories directory).2 :=
      .makeDirectories before directory
    rw [readies] at made
    exact made
  · subst readies
    exact .refl after

theorem Readies.again (readies : Readies path before after) {touched : List String → Prop}
    (evolves : Evolves touched after later) : Readies path later later := by
  unfold Readies at readies ⊢
  split at readies
  · exact makeDirectories_again readies evolves
  · rfl

/-- A file that is there can be written again. -/
theorem write_again {location : List String} {old : String} (leads : before.Leads path location)
    (found : before.HasFile location old) (content : String) :
    (before.write path content).1 = .ok () := by
  obtain ⟨changed, written⟩ := FileTree.write_again leads found content
  rw [write, written, settle]

end Workspace

namespace Settings

open Workspace

variable {settings : Settings} {path : String} {workspace ready after : Workspace}

/-- What saving makes of an attempt to write the file. -/
def reportWrite : Except FileFault Unit × Workspace → Except SettingsError Unit × Workspace
  | (.ok (), after) => (.ok (), after)
  | (.error fault, after) => (.error (.file fault), after)

theorem reportWrite_eq_ok_iff {attempt : Except FileFault Unit × Workspace} :
    reportWrite attempt = (.ok (), after) ↔ attempt = (.ok (), after) := by
  rcases attempt with ⟨fault | done, left⟩
  · exact ⟨nofun, nofun⟩
  · exact ⟨fun reported => by cases reported; rfl, fun written => by cases written; rfl⟩

theorem reportWrite_writeFile (path text : String) (workspace : Workspace) :
    (do
      match ← Platform.writeFile path text with
      | .error fault => pure (.error (.file fault))
      | .ok () => pure (.ok ()) : StateM Workspace (Except SettingsError Unit)) workspace =
      reportWrite (workspace.write path text) := by
  rw [Workspace.bind_apply]
  simp only [Platform.writeFile]
  rcases workspace.write path text with ⟨_ | _, left⟩ <;> rfl

/-- Settings are saved by making the directory of the file and writing their text. -/
theorem saveTo_eq_ok_iff :
    (settings.saveTo path : StateM Workspace _) workspace = (.ok (), after) ↔
      ∃ ready, workspace.Readies path ready ∧
        ready.write path settings.text = (.ok (), after) := by
  unfold saveTo Readies
  cases named : Path.directory? path with
  | none =>
    rw [exists_eq_left, ← reportWrite_eq_ok_iff, ← reportWrite_writeFile]
    rfl
  | some directory =>
    simp only [bind, StateT.bind, Platform.makeDirectories]
    rcases made : workspace.makeDirectories directory with ⟨fault | done, ready⟩
    · constructor
      · rintro ⟨⟩
      · rintro ⟨_, ⟨⟩, _⟩
    · have written := reportWrite_writeFile path settings.text ready
      constructor
      · exact fun saved => ⟨ready, rfl, reportWrite_eq_ok_iff.mp (written.symm.trans saved)⟩
      · rintro ⟨_, ⟨⟩, wrote⟩
        exact written.trans (reportWrite_eq_ok_iff.mpr wrote)

/-- Settings that could be saved are in their file, and nothing else has changed. -/
theorem saveTo_alters
    (saved : (settings.saveTo path : StateM Workspace _) workspace = (.ok (), after)) :
    after.read path = .ok settings.text ∧ Alters (· = workspace.placeOf path) workspace after := by
  obtain ⟨ready, readies, written⟩ := saveTo_eq_ok_iff.mp saved
  have made : Alters (· = workspace.placeOf path) workspace ready := readies.alters
  have wrote := Alters.write ready path settings.text
  rw [written] at wrote
  refine ⟨read_write written, made.trans (wrote.mono fun location leads => ?_)⟩
  rw [eq_placeOf_of_leads leads, made.placeOf]

/-- Where settings were saved, any can be saved again. -/
theorem saveTo_again {later : Workspace}
    (saved : (settings.saveTo path : StateM Workspace _) workspace = (.ok (), after))
    {touched : List String → Prop} (evolves : Evolves touched after later)
    (untouched : ¬ touched (after.placeOf path)) (others : Settings) :
    ((others.saveTo path : StateM Workspace _) later).1 = .ok () := by
  obtain ⟨ready, readies, written⟩ := saveTo_eq_ok_iff.mp saved
  have wrote := Evolves.write ready path settings.text
  rw [written] at wrote
  obtain ⟨leads, found⟩ := read_eq_ok_iff.mp (read_write written)
  have wroteAgain := write_again (evolves.leads leads) (evolves.hasFile untouched found) others.text
  have evolved := (wrote.mono fun _ _ => trivial).trans (evolves.mono fun _ _ => trivial)
  rw [saveTo_eq_ok_iff.mpr ⟨later, readies.again evolved, Prod.ext wroteAgain rfl⟩]

theorem save_apply (settings : Settings) (environment : Environment) (workspace : Workspace) :
    (settings.save environment : StateM Workspace _) workspace =
      (settings.saveTo (workspace.settingsFile environment) : StateM Workspace _) workspace := by
  unfold save
  rw [Workspace.bind_apply, file_snd]
  rfl

end Settings

end WorkerBindings
