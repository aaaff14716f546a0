import WorkerBindings.Proofs.Workspace.Evolution

/-!
# Files that are new

Where the files of a workspace come from that were not there before. Making a directory adds no
file, and writing one adds no other; so messages add nothing but the log, and saving a manifest
nothing but that. `Workspace.Produces` keeps account of this through any number of steps, whether
they end well or not.
-/

namespace WorkerBindings

namespace FileTree

variable {α : Type}

/-- A file that is there after something has been put at a location was there before or came with
what was put. -/
theorem file_of_put? {node tree changed : FileTree α} {location : List String}
    (put : put? node tree location = some changed) {other : List String} {content : α}
    (found : changed.at? other = some (.file content)) :
    tree.at? other = some (.file content) ∨
      ∃ below, other = location ++ below ∧ node.at? below = some (.file content) := by
  induction location generalizing tree changed other with
  | nil =>
    rw [put?] at put
    cases put
    exact .inr ⟨other, rfl, found⟩
  | cons name rest ih =>
    obtain ⟨entries, child, rfl, rfl, how⟩ := put?_cons_eq_some put
    cases other with
    | nil => cases found
    | cons step others =>
      rw [at?_cons, lookup_putEntry] at found
      rw [at?_cons]
      by_cases same : step = name
      · subst same
        rw [if_pos rfl, Option.bind_some] at found
        rcases how with ⟨rfl, rfl⟩ | ⟨old, here, putBelow⟩
        · exact .inr ⟨others, rfl, found⟩
        · rw [here]
          refine (ih putBelow found).imp_right ?_
          rintro ⟨below, rfl, inNode⟩
          exact ⟨below, rfl, inNode⟩
      · rw [if_neg same] at found
        exact .inl found

theorem file_of_write {tree changed : FileTree α} {current : List String} {path : String}
    {content : α} (written : tree.write current path content = .ok changed) {other : List String}
    {found : α} (here : changed.at? other = some (.file found)) :
    tree.at? other = some (.file found) ∨
      tree.locate current path = .ok other ∧ found = content := by
  obtain ⟨location, located, _, put⟩ := write_eq_ok written
  refine (file_of_put? put here).imp_right ?_
  rintro ⟨below, rfl, inNode⟩
  cases below with
  | nil =>
    rw [at?] at inNode
    cases inNode
    exact ⟨by rw [List.append_nil, located], rfl⟩
  | cons step rest => cases inNode

theorem file_of_makeSteps {tree : FileTree α} {here steps other : List String} {content : α}
    (found : (tree.makeSteps here steps).1.at? other = some (.file content)) :
    tree.at? other = some (.file content) := by
  induction steps generalizing tree here with
  | nil => exact found
  | cons step rest ih =>
    rw [makeSteps] at found
    split at found
    · exact ih found
    split at found
    · exact found
    split at found
    · split at found
      · exact ih found
      · exact found
      · split at found
        · rename_i changed put
          rcases file_of_put? put (ih found) with before | ⟨below, _, inNode⟩
          · exact before
          · -- An empty directory brings no file.
            cases below <;> cases inNode
        · exact found
    · exact ih found

theorem file_of_makeDirectories {tree : FileTree α} {current other : List String} {path : String}
    {content : α} (found : (tree.makeDirectories current path).1.at? other = some (.file content)) :
    tree.at? other = some (.file content) := by
  rw [makeDirectories] at found
  split at found
  · exact found
  · exact file_of_makeSteps found

end FileTree

namespace Workspace

open Console

theorem hasFile_of_write {workspace : Workspace} {path content : String} {location : List String}
    {found : String} (here : (workspace.write path content).2.HasFile location found) :
    workspace.HasFile location found ∨ workspace.Leads path location ∧ found = content := by
  unfold write settle at here
  cases written : workspace.files.write workspace.current path content with
  | error fault =>
    rw [written] at here
    exact .inl here
  | ok files =>
    rw [written] at here
    exact FileTree.file_of_write written here

theorem hasFile_of_append {workspace : Workspace} {path content : String} {location : List String}
    {found : String} (here : (workspace.append path content).2.HasFile location found) :
    workspace.HasFile location found ∨ workspace.Leads path location := by
  unfold append at here
  split at here
  · exact (hasFile_of_write here).imp_right And.left
  · exact (hasFile_of_write here).imp_right And.left

theorem hasFile_of_makeDirectories {workspace : Workspace} {path : String} {location : List String}
    {found : String} (here : (workspace.makeDirectories path).2.HasFile location found) :
    workspace.HasFile location found :=
  FileTree.file_of_makeDirectories here

/-- From the one workspace to the other nothing was touched but what is named as a log or as a
manifest, and the files that are new, logs apart, have contents of a kind. -/
structure Produces (kind : String → Prop) (before after : Workspace) : Prop where
  evolves : Evolves (fun location => IsLog location ∨
    Discovery.isNamed Manifest.fileSuffix location = true) before after
  new : ∀ location content, after.HasFile location content →
    before.HasFile location content ∨ IsLog location ∨ kind content

namespace Produces

variable {kind : String → Prop} {before between after : Workspace}

theorem refl (workspace : Workspace) : Produces kind workspace workspace :=
  ⟨.refl workspace, fun _ _ found => .inl found⟩

theorem trans (first : Produces kind before between) (second : Produces kind between after) :
    Produces kind before after where
  evolves := first.evolves.trans second.evolves
  new location content found := (second.new location content found).elim
    (first.new location content) .inr

theorem makeDirectories (workspace : Workspace) (path : String) :
    Produces kind workspace (workspace.makeDirectories path).2 :=
  ⟨.makeDirectories workspace path, fun _ _ found => .inl (hasFile_of_makeDirectories found)⟩

/-- Nothing that is touched is named as a symbol document. -/
theorem apart (location : List String)
    (touched : IsLog location ∨ Discovery.isNamed Manifest.fileSuffix location = true) :
    Discovery.isNamed Discovery.moduleSuffix location = false := by
  rcases touched with isLog | named
  · exact Discovery.isNamed_disjoint (by decide) isLog
  · exact Discovery.isNamed_disjoint (by decide) named

end Produces

/-- Whatever the workspace is, the step produces contents of a kind only. -/
def Producing {α : Type} (kind : String → Prop) (step : StateM Workspace α) : Prop :=
  ∀ workspace : Workspace, Produces kind workspace (step workspace).2

namespace Producing

variable {α β : Type} {kind : String → Prop}

theorem pure (value : α) : Producing kind (Pure.pure value) :=
  fun workspace => .refl workspace

theorem bind {step : StateM Workspace α} {next : α → StateM Workspace β}
    (first : Producing kind step) (second : ∀ value, Producing kind (next value)) :
    Producing kind (step >>= next) := by
  intro workspace
  rw [bind_apply]
  exact (first workspace).trans (second _ _)

theorem forM {items : List β} {step : β → StateM Workspace Unit}
    (each : ∀ item, Producing kind (step item)) : Producing kind (items.forM step) := by
  induction items with
  | nil => exact .pure ()
  | cons item rest ih => exact .bind (each item) fun _ => ih

end Producing

end Workspace

namespace Console

open Workspace

variable {console : Console} {kind : String → Prop}

theorem log_producing (apart : console.LogsApart) (message : String) :
    Producing kind (console.log message : StateM Workspace Unit) := by
  intro workspace
  refine ⟨(log_evolves console message workspace).mono fun _ logs => .inl (apart.isLog logs), ?_⟩
  intro location content found
  rw [log] at found
  cases logged : console.logFile with
  | none =>
    rw [logged] at found
    exact .inl found
  | some path =>
    rw [logged] at found
    exact (hasFile_of_append found).imp_right fun leads => .inl (apart.isLog ⟨path, logged, leads⟩)

theorem printMessage_producing (text : String) :
    Producing kind (Platform.printMessage text : StateM Workspace Unit) :=
  fun workspace => ⟨⟨rfl, rfl, .refl workspace.files⟩, fun _ _ found => .inl found⟩

theorem say_producing (apart : console.LogsApart) (tone : Tone) (message : String) :
    Producing kind (console.say tone message : StateM Workspace Unit) := by
  refine .bind (log_producing apart _) fun _ => ?_
  split
  · exact printMessage_producing _
  · exact .pure ()

theorem report_producing (apart : console.LogsApart) (diagnostic : Diagnostic) :
    Producing kind (console.report diagnostic : StateM Workspace Unit) := by
  refine .bind (log_producing apart _) fun _ => ?_
  split
  · exact printMessage_producing _
  · exact .pure ()

end Console

namespace Manifest

open Workspace

theorem write_produces {kind : String → Prop} {path content : String}
    (named : Manifest.fileSuffix.toList <:+ path.toList) (isKind : kind content)
    (workspace : Workspace) : Produces kind workspace (workspace.write path content).2 where
  evolves := (Evolves.write workspace path content).mono fun _ leads =>
    .inr (Discovery.isNamed_of_locate leads named (by decide) (by decide))
  new location found here := (hasFile_of_write here).imp_right fun ⟨_, same⟩ =>
    .inr (same ▸ isKind)

theorem reportWrite_snd (path : String) (attempt : Except FileFault Unit × Workspace) :
    (reportWrite path attempt).2 = attempt.2 := by
  rcases attempt with ⟨fault | done, after⟩ <;> rfl

/-- Saving a manifest under a name for manifests produces its text and nothing else, and if it fails
it may have made directories. -/
theorem save_producing {manifest : Manifest} {path : String}
    (named : Manifest.fileSuffix.toList <:+ path.toList) {kind : String → Prop}
    (isKind : kind manifest.text) : Producing kind (manifest.save path : StateM Workspace _) := by
  intro workspace
  cases inside : Path.directory? path with
  | none =>
    rw [save_bare inside, reportWrite_snd]
    exact write_produces named isKind workspace
  | some directory =>
    have ready : Produces kind workspace (workspace.makeDirectories directory).2 :=
      .makeDirectories workspace directory
    cases made : workspace.makeDirectories directory with
    | mk result after =>
      rw [made] at ready
      cases result with
      | error fault =>
        rw [save_barred inside made]
        exact ready
      | ok =>
        rw [save_inside inside made, reportWrite_snd]
        exact ready.trans (write_produces named isKind after)

end Manifest

end WorkerBindings
