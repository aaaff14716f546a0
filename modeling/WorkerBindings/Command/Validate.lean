import WorkerBindings.Command.Basic
import WorkerBindings.Resolution

/-!
# Validating a manifest

Resolve the bindings of every function of a manifest as a host would, and show those that cannot be.
-/

namespace WorkerBindings.Command

variable {m : Type → Type} [Monad m] [Platform m]

/-- The form of a record in words. -/
def formName (record : FunctionRecord) : String :=
  if record.isRich then "rich" else "minimal"

/-- Show a function whose bindings cannot be resolved. -/
def reportFailure (console : Console) (failure : String × ResolutionError) : m Unit :=
  let name := Style.emphatic.apply console.colours failure.1
  console.say .error s!"{name}: {failure.2.message}"

/-- Validate the manifest in a file. -/
def runValidate (console : Console) (document : String) : Commanding m Unit := do
  let manifest ← Commanding.settle .load (Manifest.load document : m _)
  let failures := manifest.failures
  (failures.forM (reportFailure console) : m Unit)
  let total := manifest.functions.length
  if !failures.isEmpty then Commanding.fail (.invalidDocument failures.length total)
  else
    if 0 < console.verbosity then
      (manifest.functions.forM fun record =>
        console.say .debug s!"{record.name} ({formName record})" : m Unit)
    console.say (m := m) .success s!"{manifest.assemblyName}: {Text.ofNat total} function(s) valid"

end WorkerBindings.Command
