import WorkerBindings.Assembly.Method
import WorkerBindings.Emission

/-!
# Assembling a module

The methods of a module share one cache. Nothing else passes between them, so they may be assembled
in parallel; their outcomes are put in the order of the methods in any case. `assembleFrom` takes
them from left to right, which is one schedule among many: it decides only which of two symbols of
one name the cache hears of first, and how far a cancelled run gets. The declarations of the
accepted methods make up the manifest; the diagnostics of all are kept. A run that is cancelled by
the time its last method has been assembled yields nothing.
-/

namespace WorkerBindings

/-- What came out of one module. -/
structure ModuleOutcome where
  assemblyName : String
  /-- There is none if no function was accepted. -/
  manifest : Option Manifest
  diagnostics : List Diagnostic
  accepted : Nat
  rejected : Nat

/-- Whether one of the diagnostics is an error. -/
def ModuleOutcome.hasErrors (outcome : ModuleOutcome) : Bool :=
  Diagnostic.hasErrors outcome.diagnostics

/-- The number of errors among the diagnostics. -/
def ModuleOutcome.errorCount (outcome : ModuleOutcome) : Nat :=
  (outcome.diagnostics.filter (·.isError)).length

namespace WorkerModule

/-- Assemble several methods from left to right, of which the first has the given place; those that
are not functions have no outcome. -/
def assembleFrom (registry : Registry) (interruption : Interruption) (place : Nat) :
    List Method → Assembling (List Outcome)
  | [] => pure []
  | method :: rest => do
    Assembling.arrive interruption place
    let first ← method.assemble registry interruption
    let others ← assembleFrom registry interruption (place + 1) rest
    pure (first.toList ++ others)

/-- The outcome of a module whose methods have been assembled. -/
def summarize (module : WorkerModule) (context : ModuleContext) (generatedAt : String)
    (outcomes : List Outcome) : ModuleOutcome :=
  let declarations := outcomes.filterMap (·.declaration)
  { assemblyName := module.assemblyName
    manifest := context.emit? generatedAt declarations
    diagnostics := outcomes.flatMap (·.diagnostics)
    accepted := declarations.length
    rejected := (outcomes.filter (·.declaration.isNone)).length }

/-- Run a module through a session; `generatedAt` is the time that its manifest states. -/
def run (registry : Registry) (interruption : Interruption) (module : WorkerModule)
    (context : ModuleContext) (generatedAt : String) : Assembling ModuleOutcome := do
  let outcomes ← assembleFrom registry interruption 0 module.methods
  Assembling.checkpoint
  pure (module.summarize context generatedAt outcomes)

end WorkerModule

end WorkerBindings
