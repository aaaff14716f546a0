import WorkerBindings.Assembly.Session
import WorkerBindings.Console.Basic
import WorkerBindings.Documents.Provider
import WorkerBindings.Settings.File

/-!
# Commands

What a user can ask for, and every way in which that can fail. A command runs on a platform and ends
either well or with the one error that stopped it; what it did before the error stays done.
-/

namespace WorkerBindings

/-- A request to generate manifests. What it states goes before the settings. -/
structure GenerateRequest where
  /-- A symbol document, or a directory to search for them. -/
  input : String
  outputDirectory : Option String := none
  namespaceRoot : Option String := none
  executionModel : Option String := none
  enableGeneration : Bool := false
  autoRegister : Bool := false
  scriptFile : Option String := none
  deriving Repr, DecidableEq

/-- What a user can ask for. -/
inductive Command where
  /-- Generate the manifests of modules. -/
  | generate (request : GenerateRequest)
  /-- Put the records of several manifests into one list. -/
  | aggregate (paths : List String) (output : Option String)
  /-- Check that the bindings in a manifest can be resolved. -/
  | validate (document : String)
  /-- Show the identity of a function. -/
  | identify (name : String) (scriptFile entryPoint : Option String)
  | showSettings
  | set (key value : String)
  /-- Show which settings file is in use, or choose another one. -/
  | settingsFile (chosen : Option String)
  deriving Repr, DecidableEq

/-- Why a command failed. -/
inductive CommandError where
  | settings (reason : SettingsError)
  | cancelled (reason : Cancelled)
  | provider (failure : ProviderFailure)
  | load (reason : LoadError)
  | save (reason : SaveError)
  | file (fault : FileFault)
  | diagnosticErrors (count : Nat)
  | noInput (path : String)
  | noDocuments (paths : List String)
  | invalidDocument (failed total : Nat)
  deriving Repr, DecidableEq

/-- The words for a failed command. -/
def CommandError.message : CommandError → String
  | .settings reason => reason.message
  | .cancelled reason => reason.message
  | .provider failure => failure.message
  | .load reason => reason.message
  | .save reason => reason.message
  | .file fault => s!"IO error: {fault.message}"
  | .diagnosticErrors count => s!"Generation reported {Text.ofNat count} error diagnostic(s)"
  | .noInput path => s!"No symbol documents found under {path}"
  | .noDocuments paths => "No provider documents found in " ++ String.intercalate ", " paths
  | .invalidDocument failed total =>
    s!"{Text.ofNat failed} of {Text.ofNat total} function(s) failed binding validation"

/-- A command on its way to an end or an error. -/
abbrev Commanding (m : Type → Type) (α : Type) := ExceptT CommandError m α

namespace Commanding

variable {m : Type → Type} [Monad m]

/-- Take an outcome as a step of a command, with its error as an error of the command. -/
def settle {ε α : Type} (wrap : ε → CommandError) (outcome : m (Except ε α)) : Commanding m α :=
  ExceptT.mk do
    match ← outcome with
    | .ok value => pure (.ok value)
    | .error reason => pure (.error (wrap reason))

/-- Stop with an error. -/
def fail {α : Type} (reason : CommandError) : Commanding m α :=
  ExceptT.mk (pure (.error reason))

end Commanding

end WorkerBindings
