import WorkerBindings.Documents.Loading
import WorkerBindings.Proofs.Documents.Manifests
import WorkerBindings.Proofs.Files.Writing

/-!
# Manifests in files

A manifest that has been saved is loaded again from the same path, equal in every part: fields that
were left open are still open, an empty list of structured bindings is still a list, entries keep
their order and retry policies their intervals.
-/

namespace WorkerBindings

namespace Workspace

/-- A file that has been written into a workspace is read there. -/
theorem read_write {workspace after : Workspace} {path content : String}
    (written : workspace.write path content = (.ok (), after)) : after.read path = .ok content := by
  unfold write settle at written
  cases changed : workspace.files.write workspace.current path content with
  | error fault =>
    rw [changed] at written
    cases written
  | ok files =>
    rw [changed] at written
    cases written
    exact FileTree.read_write changed

end Workspace

namespace Manifest

/-- What saving makes of an attempt to write the file. -/
def reportWrite (path : String) :
    Except FileFault Unit × Workspace → Except SaveError Unit × Workspace
  | (.ok (), after) => (.ok (), after)
  | (.error fault, after) => (.error (.file path fault), after)

theorem reportWrite_eq_ok {path : String} {attempt : Except FileFault Unit × Workspace}
    {after : Workspace} (reported : reportWrite path attempt = (.ok (), after)) :
    attempt = (.ok (), after) := by
  rcases attempt with ⟨fault | done, left⟩
  · cases reported
  · cases reported
    rfl

theorem reportWrite_writeFile (path content : String) (workspace : Workspace) :
    (do
      match ← Platform.writeFile path content with
      | .ok () => pure (.ok ())
      | .error fault => pure (.error (.file path fault)) :
        StateM Workspace (Except SaveError Unit)) workspace =
      reportWrite path (workspace.write path content) := by
  simp only [bind, StateT.bind, Platform.writeFile]
  rcases workspace.write path content with ⟨_ | _, left⟩ <;> rfl

variable {manifest : Manifest} {path directory : String} {workspace : Workspace}

/-- Where the path names no directory, a manifest is saved by writing its text. -/
theorem save_bare (bare : Path.directory? path = none) :
    (manifest.save path : StateM Workspace _) workspace =
      reportWrite path (workspace.write path manifest.text) := by
  unfold save
  rw [bare]
  exact reportWrite_writeFile path manifest.text workspace

/-- Where it names one, the directory is made first. -/
theorem save_inside (named : Path.directory? path = some directory) {ready : Workspace}
    (made : workspace.makeDirectories directory = (.ok (), ready)) :
    (manifest.save path : StateM Workspace _) workspace =
      reportWrite path (ready.write path manifest.text) := by
  unfold save
  rw [named]
  simp only [bind, StateT.bind, Platform.makeDirectories, made]
  exact reportWrite_writeFile path manifest.text ready

/-- Nothing is written where the directory cannot be made. -/
theorem save_barred (named : Path.directory? path = some directory) {fault : FileFault}
    {after : Workspace} (made : workspace.makeDirectories directory = (.error fault, after)) :
    (manifest.save path : StateM Workspace _) workspace =
      (.error (.directory directory fault), after) := by
  unfold save
  rw [named]
  simp only [bind, StateT.bind, Platform.makeDirectories, made]
  rfl

/-- A manifest that could be saved was written into the workspace, or into the one that is left when
its directory has been made. -/
theorem save_ready {after : Workspace}
    (saved : (manifest.save path : StateM Workspace _) workspace = (.ok (), after)) :
    ∃ ready : Workspace, ready.write path manifest.text = (.ok (), after) ∧
      (ready = workspace ∨ ∃ directory, ready = (workspace.makeDirectories directory).2) := by
  cases named : Path.directory? path with
  | none =>
    rw [save_bare named] at saved
    exact ⟨workspace, reportWrite_eq_ok saved, .inl rfl⟩
  | some directory =>
    cases made : workspace.makeDirectories directory with
    | mk outcome ready =>
      cases outcome with
      | ok =>
        rw [save_inside named made] at saved
        exact ⟨ready, reportWrite_eq_ok saved, .inr ⟨directory, by rw [made]⟩⟩
      | error fault =>
        rw [save_barred named made] at saved
        cases saved

theorem save_eq_ok {after : Workspace}
    (saved : (manifest.save path : StateM Workspace _) workspace = (.ok (), after)) :
    ∃ ready : Workspace, ready.write path manifest.text = (.ok (), after) := by
  obtain ⟨ready, written, _⟩ := save_ready saved
  exact ⟨ready, written⟩

theorem load_of_read {text : String}
    (found : workspace.read path = .ok text) (reads : ofText text = .ok manifest) :
    (load path : StateM Workspace _) workspace = (.ok manifest, workspace) := by
  unfold load
  simp only [bind, StateT.bind, pure, Platform.readFile, found]
  rw [reads]
  rfl

/-- A manifest whose intervals are shown in full comes back equal, from its text and from any file
that it could be saved to. -/
theorem load_save (exact : manifest.IsExact) :
    ofText manifest.text = .ok manifest ∧ ∀ path (workspace after : Workspace),
      (manifest.save path : StateM Workspace _) workspace = (.ok (), after) →
        (load path : StateM Workspace _) after = (.ok manifest, after) := by
  refine ⟨ofText_text exact, ?_⟩
  intro path workspace after saved
  obtain ⟨ready, written⟩ := save_eq_ok saved
  exact load_of_read (Workspace.read_write written) (ofText_text exact)

/-- A manifest of three functions: one with an empty list of structured bindings, one without such a
list, and one with a binding that states no payload hint. -/
def orders : Manifest where
  providerNamespace := "AzureFunctionInternals.Orders"
  assemblyName := "Orders"
  autoRegister := true
  generatedAt := "2024-01-01T00:00:00Z"
  functions := [
    { FunctionRecord.blank with
      functionId := some ""
      isProxy := some false
      name := "Relay"
      rawBindings := ["\x7b\"name\":\"message\"\x7d", "\n\"é"]
      generatedBindings := some [] },
    { FunctionRecord.blank with
      name := "Import"
      retry := some (.exponentialBackoff 5 ⟨100⟩ ⟨Text.uint64Max - 15⟩) },
    { FunctionRecord.blank with
      name := "Archive"
      generatedBindings := some [
        ⟨"order", .both, "queue", none, Properties.ofPairs [("queueName", "in"), ("access", "")]⟩]
      retry := some (.fixedDelay 0 ⟨0⟩) }]

theorem load_save_orders :
    orders.IsExact ∧ ∃ after,
      (orders.save "out/Orders.metadata.json" : StateM Workspace _)
          ⟨.directory [], [], "", "", "", ""⟩ = (.ok (), after) ∧
        (load "out/Orders.metadata.json" : StateM Workspace _) after = (.ok orders, after) := by
  have exact : orders.IsExact := by
    intro record member policy stated
    simp only [orders, List.mem_cons, List.not_mem_nil, or_false] at member
    rcases member with rfl | rfl | rfl
    · cases stated
    · cases stated
      exact ⟨⟨by decide, by decide⟩, by decide, by decide⟩
    · cases stated
      exact ⟨by decide, by decide⟩
  have saves : ((orders.save "out/Orders.metadata.json" : StateM Workspace _)
      ⟨.directory [], [], "", "", "", ""⟩).1 = .ok () := rfl
  exact ⟨exact, _, Prod.ext saves rfl, (load_save exact).2 _ _ _ (Prod.ext saves rfl)⟩

end Manifest

end WorkerBindings
