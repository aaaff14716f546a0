import WorkerBindings.Command.Generate
import WorkerBindings.Proofs.Assembly.Succession
import WorkerBindings.Proofs.Command.Steps

/-!
# Generating module by module

What generating the manifests of several documents does, one document after another: it loads the
document, runs the module and writes what came out. `Command.Writes` is for one module and
`Command.Generates` for a whole run. From the latter follow what the run touches, that the documents
are loaded as they were at the start, and which manifests are there in the end.
-/

namespace WorkerBindings

open Workspace Console

/-- The module with the settings under which a run at this time has it. -/
def Settings.jobFor (settings : Settings) (time : String) (module : WorkerModule) : ModuleRun :=
  ⟨module, settings.contextFor module, time⟩

/-- The path under which the manifest of a module is written. -/
def ModuleOutcome.target (outputPath : String) (outcome : ModuleOutcome) : String :=
  Path.join outputPath (Manifest.fileName outcome.assemblyName)

namespace Command

variable {console : Console} {settings : Settings} {outputPath : String}

/-- What writing the outcome of a module does: nothing but messages, or the manifest is where the
path for it leads. -/
inductive Writes (outputPath : String) (outcome : ModuleOutcome) (before after : Workspace) :
    Prop where
  | nothing (unwritten : outcome.manifest = none) (evolves : Evolves IsLog before after)
  | manifest {manifest : Manifest} {location : List String}
      (written : outcome.manifest = some manifest)
      (leads : after.Leads (outcome.target outputPath) location)
      (stored : after.HasFile location manifest.text)
      (evolves : Evolves (fun other => IsLog other ∨ other = location) before after)

/-- Messages before it do not change what writing an outcome does. -/
theorem Writes.after {outcome : ModuleOutcome} {start before after : Workspace}
    (writes : Writes outputPath outcome before after) (earlier : Evolves IsLog start before) :
    Writes outputPath outcome start after := by
  cases writes with
  | nothing unwritten evolves => exact .nothing unwritten (earlier.trans evolves)
  | manifest written leads stored evolves =>
    exact .manifest written leads stored ((earlier.mono fun _ => .inl).trans evolves)

theorem reportOutcome_confined (apart : console.LogsApart) (outcome : ModuleOutcome) :
    Confined IsLog (reportOutcome console outcome : StateM Workspace Unit) := by
  refine .bind (.forM fun diagnostic => report_confined apart diagnostic) fun _ => ?_
  split
  · exact say_confined apart _ _
  · exact .pure ()

theorem suffix_target (outputPath : String) (outcome : ModuleOutcome) :
    Manifest.fileSuffix.toList <:+ (outcome.target outputPath).toList := by
  have ends : Manifest.fileSuffix.toList <:+ (Manifest.fileName outcome.assemblyName).toList := by
    rw [Manifest.fileName, String.toList_append]
    exact List.suffix_append _ _
  exact ends.trans (Path.suffix_join _ _)

/-- The manifest of a module is named as a manifest, whatever the assembly is called. -/
theorem isNamed_of_leads {outcome : ModuleOutcome} {workspace : Workspace} {location : List String}
    (leads : workspace.Leads (outcome.target outputPath) location) :
    Discovery.isNamed Manifest.fileSuffix location = true :=
  Discovery.isNamed_of_locate leads (suffix_target outputPath outcome) (by decide) (by decide)

theorem not_isLog_of_leads {outcome : ModuleOutcome} {workspace : Workspace}
    {location : List String} (leads : workspace.Leads (outcome.target outputPath) location) :
    ¬ IsLog location := by
  intro isLog
  have named := isNamed_of_leads leads
  rw [Discovery.isNamed_disjoint (by decide) isLog] at named
  cases named

theorem writeOutcome_writes (apart : console.LogsApart) {outcome : ModuleOutcome}
    {workspace after : Workspace}
    (ran : (writeOutcome console outputPath outcome : Commanding (StateM Workspace) Unit)
      workspace = (.ok (), after)) : Writes outputPath outcome workspace after := by
  unfold writeOutcome at ran
  cases written : outcome.manifest with
  | none =>
    rw [written] at ran
    exact .nothing written (Commanding.evolves_of_lift (say_confined apart _ _) ran)
  | some manifest =>
    rw [written] at ran
    obtain ⟨_, between, saved, said⟩ := Commanding.bind_eq_ok ran
    obtain ⟨location, leads, stored, evolves⟩ :=
      Manifest.save_evolves (Commanding.settle_eq_ok.mp saved)
    have shown := Commanding.evolves_of_lift (say_confined apart _ _) said
    refine .manifest written (shown.leads leads)
      (shown.hasFile (not_isLog_of_leads leads) stored) ?_
    exact (evolves.mono fun _ => .inr).trans (shown.mono fun _ => .inl)

/-- Generating one module runs it, shows what came out and writes that. -/
theorem generateModule_eq_ok (apart : console.LogsApart) {session next : Session}
    {module : WorkerModule} {workspace after : Workspace} {errors : Nat}
    (ran : (generateModule console settings outputPath session module :
      Commanding (StateM Workspace) _) workspace = (.ok (errors, next), after)) :
    ∃ outcome, (settings.jobFor workspace.documentTime module).run .builtIn .never session =
        (.ok outcome, next) ∧
      Writes outputPath outcome workspace after := by
  unfold generateModule at ran
  obtain ⟨time, between, asked, ran⟩ := Commanding.bind_eq_ok ran
  cases asked
  generalize ranModule : module.run .builtIn .never (settings.contextFor module)
    workspace.documentTime session = ended at ran
  rcases ended with ⟨reason | outcome, left⟩
  · obtain ⟨_, _, _, failed⟩ := Commanding.bind_eq_ok ran
    cases failed
  · obtain ⟨_, shown, reported, ran⟩ := Commanding.bind_eq_ok ran
    obtain ⟨_, written, wrote, ended⟩ := Commanding.bind_eq_ok ran
    cases ended
    refine ⟨outcome, ranModule, ?_⟩
    exact (writeOutcome_writes apart wrote).after
      (Commanding.evolves_of_lift (reportOutcome_confined apart outcome) reported)

/-- A module has a manifest exactly if one of its functions was accepted. -/
theorem manifest_isSome_iff {job : ModuleRun} {session next : Session} {outcome : ModuleOutcome}
    (ran : job.run .builtIn .never session = (.ok outcome, next)) :
    outcome.manifest.isSome = true ↔ 0 < outcome.accepted := by
  rw [ModuleRun.run, WorkerModule.run, Assembling.bind_apply] at ran
  split at ran
  · rename_i outcomes after assembled
    rw [Assembling.bind_apply, Assembling.checkpoint] at ran
    split at ran
    · cases ran
      unfold WorkerModule.summarize ModuleContext.emit?
      dsimp only
      rw [List.length_pos_iff, ← not_iff_not, not_not, Bool.not_eq_true]
      split
      · rename_i none
        exact iff_of_true rfl (List.isEmpty_iff.mp none)
      · rename_i some
        exact iff_of_false Bool.noConfusion fun none => some (List.isEmpty_iff.mpr none)
    · cases ran
  · cases ran

/-- How a run generates the manifests of several documents and ends without an error of its own: it
loads each document in its turn, runs the module, and writes what came out. -/
inductive Generates (settings : Settings) (outputPath : String) :
    Session → Workspace → List String → List WorkerModule → List ModuleOutcome → Workspace →
      Prop where
  | done {session : Session} {workspace : Workspace} :
      Generates settings outputPath session workspace [] [] [] workspace
  | module {session next : Session} {before between after : Workspace} {path : String}
      {paths : List String} {module : WorkerModule} {modules : List WorkerModule}
      {outcome : ModuleOutcome} {outcomes : List ModuleOutcome}
      (loaded : before.moduleAt path = .ok module)
      (ran : (settings.jobFor before.documentTime module).run .builtIn .never session =
        (.ok outcome, next))
      (writes : Writes outputPath outcome before between)
      (others : Generates settings outputPath next between paths modules outcomes after) :
      Generates settings outputPath session before (path :: paths) (module :: modules)
        (outcome :: outcomes) after

theorem generateAll_generates (apart : console.LogsApart) {session : Session}
    {workspace after : Workspace} {paths : List String} {errors : Nat}
    (ran : (generateAll console settings outputPath session paths :
      Commanding (StateM Workspace) Nat) workspace = (.ok errors, after)) :
    ∃ modules outcomes,
      Generates settings outputPath session workspace paths modules outcomes after := by
  induction paths generalizing session workspace errors with
  | nil =>
    cases ran
    exact ⟨[], [], .done⟩
  | cons path rest ih =>
    obtain ⟨module, loaded, load, ran⟩ := Commanding.bind_eq_ok ran
    rw [Commanding.settle_eq_ok, WorkerModule.load_apply] at load
    obtain ⟨found, rfl⟩ := Prod.mk.inj load
    obtain ⟨⟨count, next⟩, between, generated, ran⟩ := Commanding.bind_eq_ok ran
    obtain ⟨others, ended, ranRest, added⟩ := Commanding.bind_eq_ok ran
    cases added
    obtain ⟨outcome, ranModule, writes⟩ := generateModule_eq_ok apart generated
    obtain ⟨modules, outcomes, generates⟩ := ih ranRest
    exact ⟨module :: modules, outcome :: outcomes, .module found ranModule writes generates⟩

theorem Writes.evolves {outcome : ModuleOutcome} {before after : Workspace}
    (writes : Writes outputPath outcome before after) :
    Evolves (fun location => IsLog location ∨
      outcome.manifest.isSome = true ∧ after.Leads (outcome.target outputPath) location)
      before after := by
  cases writes with
  | nothing unwritten evolves => exact evolves.mono fun _ => .inl
  | manifest written leads stored evolves =>
    refine evolves.mono fun other touched => ?_
    rcases touched with isLog | rfl
    · exact .inl isLog
    · exact .inr ⟨by rw [written]; rfl, leads⟩

/-- Writing an outcome touches nothing that is named as a symbol document. -/
theorem Writes.apart {outcome : ModuleOutcome} {after : Workspace} (location : List String)
    (touched : IsLog location ∨
      outcome.manifest.isSome = true ∧ after.Leads (outcome.target outputPath) location) :
    Discovery.isNamed Discovery.moduleSuffix location = false := by
  rcases touched with isLog | ⟨_, leads⟩
  · exact Discovery.isNamed_disjoint (by decide) isLog
  · exact Discovery.isNamed_disjoint (by decide) (isNamed_of_leads leads)

namespace Generates

variable {session : Session} {workspace after : Workspace} {paths : List String}
  {modules : List WorkerModule} {outcomes : List ModuleOutcome}

/-- What a run touches: the log, and the places to which the manifests go. -/
def Touched (outputPath : String) (outcomes : List ModuleOutcome) (after : Workspace)
    (location : List String) : Prop :=
  IsLog location ∨ ∃ outcome ∈ outcomes, outcome.manifest.isSome = true ∧
    after.Leads (outcome.target outputPath) location

theorem Touched.cons {after : Workspace} {outcome : ModuleOutcome} {outcomes : List ModuleOutcome}
    {location : List String} (touched : Touched outputPath outcomes after location) :
    Touched outputPath (outcome :: outcomes) after location := by
  rcases touched with isLog | ⟨other, member, written, leads⟩
  · exact .inl isLog
  · exact .inr ⟨other, List.mem_cons_of_mem _ member, written, leads⟩

theorem evolves (generates : Generates settings outputPath session workspace paths modules
    outcomes after) : Evolves (Touched outputPath outcomes after) workspace after := by
  induction generates with
  | done => exact .refl _
  | module loaded ran writes others ih =>
    refine .trans (writes.evolves.mono fun location touched => ?_) (ih.mono fun _ => Touched.cons)
    rcases touched with isLog | ⟨written, leads⟩
    · exact .inl isLog
    · exact .inr ⟨_, List.mem_cons_self, written, ih.leads leads⟩

/-- The documents were loaded as they had been at the start, if they are named as symbol
documents. -/
theorem loaded (generates : Generates settings outputPath session workspace paths modules
    outcomes after) (documents : ∀ path ∈ paths, workspace.HasDocument path) :
    List.Forall₂ (fun path module => workspace.moduleAt path = .ok module) paths modules := by
  induction generates with
  | done => exact .nil
  | module loaded ran writes others ih =>
    obtain ⟨_, documents⟩ := List.forall_mem_cons.mp documents
    have evolves := writes.evolves
    refine .cons loaded (evolves.modulesAt Writes.apart documents (ih fun path member => ?_))
    exact (evolves.document Writes.apart (documents path member)).1

/-- The outcomes are those of the modules run one after another. -/
theorem runEach (generates : Generates settings outputPath session workspace paths modules
    outcomes after) :
    ∃ last, WorkerModule.runEach .builtIn (modules.map (settings.jobFor workspace.documentTime))
      session = (.ok outcomes, last) := by
  induction generates with
  | done => exact ⟨_, rfl⟩
  | module loaded ran writes others ih =>
    obtain ⟨last, ranOthers⟩ := ih
    rw [writes.evolves.documentTime] at ranOthers
    refine ⟨last, ?_⟩
    rw [List.map_cons, WorkerModule.runEach, Assembling.bind_apply, ran]
    dsimp only
    rw [Assembling.bind_apply, ranOthers]
    rfl

theorem manifest_isSome_iff (generates : Generates settings outputPath session workspace paths
    modules outcomes after) :
    ∀ outcome ∈ outcomes, outcome.manifest.isSome = true ↔ 0 < outcome.accepted := by
  induction generates with
  | done => exact nofun
  | module loaded ran writes others ih =>
    exact List.forall_mem_cons.mpr ⟨Command.manifest_isSome_iff ran, ih⟩

/-- The manifest of a module is there in the end, unless a later module writes to the same place. -/
theorem stored (generates : Generates settings outputPath session workspace paths modules
    outcomes after) :
    ∀ earlier outcome later, outcomes = earlier ++ outcome :: later →
      ∀ manifest, outcome.manifest = some manifest →
        ∃ location, after.Leads (outcome.target outputPath) location ∧
          ((∀ other ∈ later, other.manifest.isSome = true →
            ¬ after.Leads (other.target outputPath) location) →
              after.HasFile location manifest.text) := by
  induction generates with
  | done =>
    intro earlier outcome later split
    simp at split
  | module loaded ran writes others ih =>
    intro earlier outcome later split manifest written
    cases earlier with
    | cons first earlier =>
      obtain ⟨rfl, rfl⟩ := List.cons.inj split
      exact ih earlier outcome later rfl manifest written
    | nil =>
      obtain ⟨rfl, rfl⟩ := List.cons.inj split
      cases writes with
      | nothing unwritten evolves =>
        rw [written] at unwritten
        cases unwritten
      | @manifest _ location isWritten leads stored evolves =>
        rw [written] at isWritten
        cases isWritten
        refine ⟨location, others.evolves.leads leads, fun apart => ?_⟩
        refine others.evolves.hasFile ?_ stored
        rintro (isLog | ⟨other, member, otherWritten, otherLeads⟩)
        · exact not_isLog_of_leads leads isLog
        · exact apart other member otherWritten otherLeads

end Generates

end Command

end WorkerBindings
