import WorkerBindings.Platform

/-!
# Steps in a workspace

How the steps of a program are put together when the platform is a workspace.
-/

namespace WorkerBindings.Workspace

/-- The workspace in which there is nothing. -/
def blank : Workspace :=
  ⟨.directory [], [], "", "", "", ""⟩

variable {α β : Type}

theorem bind_apply (step : StateM Workspace α) (next : α → StateM Workspace β)
    (workspace : Workspace) :
    (step >>= next) workspace = next (step workspace).1 (step workspace).2 :=
  rfl

end WorkerBindings.Workspace
