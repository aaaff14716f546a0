import WorkerBindings.Command.Aggregate
import WorkerBindings.Command.Configure
import WorkerBindings.Command.Generate
import WorkerBindings.Command.Validate
import WorkerBindings.Identity

/-!
# Running a command
-/

namespace WorkerBindings.Command

variable {m : Type → Type} [Monad m] [Platform m]

/-- Show the identity of a function. -/
def runIdentify (name : String) (scriptFile entryPoint : Option String) : m Unit :=
  match Identity.textOfFields (some name) scriptFile entryPoint with
  | some identity => printLine identity
  | none => pure ()

/-- Run a command. -/
def run (environment : Environment) (console : Console) : Command → Commanding m Unit
  | .generate request => runGenerate environment console request
  | .aggregate paths output => runAggregate console paths output
  | .validate document => runValidate console document
  | .identify name scriptFile entryPoint => (runIdentify name scriptFile entryPoint : m Unit)
  | .showSettings => runShow environment console
  | .set key value => runSet environment console key value
  | .settingsFile chosen => runSettingsFile environment console chosen

end WorkerBindings.Command
