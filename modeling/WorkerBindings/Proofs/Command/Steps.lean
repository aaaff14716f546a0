import WorkerBindings.Command.Basic
import WorkerBindings.Proofs.Workspace.Evolution

/-!
# Steps of commands

How the steps of a command are put together when the platform is a workspace, and what loading a
symbol document comes to. A document is loaded as before as long as its file is not touched.
-/

namespace WorkerBindings

open Workspace

namespace Commanding

variable {α β : Type}

theorem bind_apply (step : Commanding (StateM Workspace) α)
    (next : α → Commanding (StateM Workspace) β) (workspace : Workspace) :
    (step >>= next : Commanding (StateM Workspace) β) workspace =
      match step workspace with
      | (.ok value, after) => next value after
      | (.error reason, after) => (.error reason, after) := by
  change (ExceptT.bindCont next (step workspace).1 : StateM Workspace _) (step workspace).2 = _
  rcases step workspace with ⟨result, after⟩
  cases result <;> rfl

/-- A command that ends well ended well at every step. -/
theorem bind_eq_ok {step : Commanding (StateM Workspace) α}
    {next : α → Commanding (StateM Workspace) β} {workspace after : Workspace} {result : β}
    (ran : (step >>= next : Commanding (StateM Workspace) β) workspace = (.ok result, after)) :
    ∃ value between, step workspace = (.ok value, between) ∧
      next value between = (.ok result, after) := by
  rw [bind_apply] at ran
  split at ran
  · exact ⟨_, _, ‹_›, ran⟩
  · cases ran

theorem lift_apply (step : StateM Workspace α) (workspace : Workspace) :
    (liftM step : Commanding (StateM Workspace) α) workspace =
      (.ok (step workspace).1, (step workspace).2) :=
  rfl

/-- A step of the platform inside a command touches what it touches on its own. -/
theorem evolves_of_lift {touched : List String → Prop} {step : StateM Workspace α}
    (confined : Confined touched step) {workspace after : Workspace} {value : α}
    (ran : (liftM step : Commanding (StateM Workspace) α) workspace = (.ok value, after)) :
    Evolves touched workspace after := by
  rw [lift_apply] at ran
  cases ran
  exact confined workspace

theorem settle_eq_ok {ε : Type} {wrap : ε → CommandError}
    {outcome : StateM Workspace (Except ε α)} {workspace after : Workspace} {value : α} :
    (settle wrap outcome : Commanding (StateM Workspace) α) workspace = (.ok value, after) ↔
      outcome workspace = (.ok value, after) := by
  unfold settle ExceptT.mk
  rw [Workspace.bind_apply]
  rcases outcome workspace with ⟨result, left⟩
  cases result with
  | ok found => exact ⟨by rintro ⟨⟩; rfl, by rintro ⟨⟩; rfl⟩
  | error reason => exact ⟨nofun, nofun⟩

end Commanding

/-- What loading the symbol document at a path comes to. -/
def Workspace.moduleAt (workspace : Workspace) (path : String) : Except LoadError WorkerModule :=
  ((WorkerModule.load path : StateM Workspace _) workspace).1

namespace WorkerModule

/-- What the text of a symbol document comes to. -/
def ofDocument (path text : String) : Except LoadError WorkerModule :=
  match ofText text with
  | .error _ => .error (.invalidModule path)
  | .ok module =>
    if Text.isBlankText module.assemblyName then .error (.unnamedAssembly path) else .ok module

theorem load_of_read {workspace : Workspace} {path text : String}
    (found : workspace.read path = .ok text) :
    (load path : StateM Workspace _) workspace = (ofDocument path text, workspace) := by
  unfold load ofDocument
  rw [Workspace.bind_apply]
  simp only [Platform.readFile, found]
  cases ofText text with
  | error reason => rfl
  | ok module =>
    dsimp only
    split <;> rfl

/-- Loading a symbol document changes nothing. -/
theorem load_apply (path : String) (workspace : Workspace) :
    (load path : StateM Workspace _) workspace = (workspace.moduleAt path, workspace) := by
  refine Prod.ext rfl ?_
  cases found : workspace.read path with
  | ok text => rw [load_of_read found]
  | error fault =>
    unfold load
    rw [Workspace.bind_apply]
    simp only [Platform.readFile, found]
    rfl

end WorkerModule

namespace Workspace

theorem moduleAt_of_read {workspace : Workspace} {path text : String}
    (found : workspace.read path = .ok text) :
    workspace.moduleAt path = WorkerModule.ofDocument path text := by
  rw [moduleAt, WorkerModule.load_of_read found]

/-- A document is loaded as before as long as its file is not touched. -/
theorem Evolves.moduleAt {touched : List String → Prop} {before after : Workspace}
    (evolves : Evolves touched before after) {path content : String} {location : List String}
    (leads : before.Leads path location) (found : before.HasFile location content)
    (untouched : ¬ touched location) : after.moduleAt path = before.moduleAt path := by
  rw [moduleAt_of_read (read_of_hasFile leads found),
    moduleAt_of_read (read_of_hasFile (evolves.leads leads) (evolves.hasFile untouched found))]

/-- There is a file at the path that is named as a symbol document. -/
def HasDocument (workspace : Workspace) (path : String) : Prop :=
  ∃ location content, workspace.Leads path location ∧ workspace.HasFile location content ∧
    Discovery.isNamed Discovery.moduleSuffix location = true

theorem Evolves.document {touched : List String → Prop} {before after : Workspace}
    (evolves : Evolves touched before after)
    (apart : ∀ location, touched location →
      Discovery.isNamed Discovery.moduleSuffix location = false) {path : String}
    (document : before.HasDocument path) :
    after.HasDocument path ∧ after.moduleAt path = before.moduleAt path := by
  obtain ⟨location, content, leads, found, named⟩ := document
  have untouched : ¬ touched location := by
    intro touched
    rw [apart location touched] at named
    cases named
  exact ⟨⟨location, content, evolves.leads leads, evolves.hasFile untouched found, named⟩,
    evolves.moduleAt leads found untouched⟩

theorem Evolves.modulesAt {touched : List String → Prop} {before after : Workspace}
    (evolves : Evolves touched before after)
    (apart : ∀ location, touched location →
      Discovery.isNamed Discovery.moduleSuffix location = false) {paths : List String}
    (documents : ∀ path ∈ paths, before.HasDocument path) {modules : List WorkerModule}
    (loaded : List.Forall₂ (fun path module => after.moduleAt path = .ok module) paths modules) :
    List.Forall₂ (fun path module => before.moduleAt path = .ok module) paths modules := by
  have same := fun path member => (evolves.document apart (documents path member)).2
  refine ((List.forall₂_and_left _ _).mpr ⟨same, loaded⟩).imp ?_
  rintro path module ⟨same, loaded⟩
  rw [← same, loaded]

end Workspace

end WorkerBindings
