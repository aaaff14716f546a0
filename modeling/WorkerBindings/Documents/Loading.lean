import WorkerBindings.Platform
import WorkerBindings.Record.Manifest
import WorkerBindings.Symbol.Method
import WorkerBindings.Text.Blank

/-!
# Documents in files

Manifests and symbol documents are read from files and manifests are written to them. A symbol
document has to name its assembly. Writing makes the directories that are missing on the way to the
file.
-/

namespace WorkerBindings

/-- Why a document cannot be had from a file. -/
inductive LoadError where
  | unreadable (path : String) (fault : FileFault)
  | invalidManifest (path : String)
  | invalidModule (path : String)
  | unnamedAssembly (path : String)
  deriving Repr, DecidableEq

/-- The words for a load error. -/
def LoadError.message : LoadError → String
  | .unreadable path fault => s!"Failed to read {path}: {fault.message}"
  | .invalidManifest path =>
    s!"Invalid provider document {path}: the text is not a provider document"
  | .invalidModule path =>
    s!"Invalid symbol document {path}: the text is not a symbol document"
  | .unnamedAssembly path => s!"Symbol document {path} does not name an assembly"

/-- Why a document cannot be written to a file. -/
inductive SaveError where
  | directory (path : String) (fault : FileFault)
  | file (path : String) (fault : FileFault)
  deriving Repr, DecidableEq

/-- The words for a save error. -/
def SaveError.message : SaveError → String
  | .directory path fault => s!"Failed to create directory {path}: {fault.message}"
  | .file path fault => s!"Failed to write {path}: {fault.message}"

variable {m : Type → Type} [Monad m] [Platform m]

/-- The manifest in a file. -/
def Manifest.load (path : String) : m (Except LoadError Manifest) := do
  match ← Platform.readFile path with
  | .error fault => pure (.error (.unreadable path fault))
  | .ok text =>
    match Manifest.ofText text with
    | .error _ => pure (.error (.invalidManifest path))
    | .ok manifest => pure (.ok manifest)

/-- The module in a file. -/
def WorkerModule.load (path : String) : m (Except LoadError WorkerModule) := do
  match ← Platform.readFile path with
  | .error fault => pure (.error (.unreadable path fault))
  | .ok text =>
    match WorkerModule.ofText text with
    | .error _ => pure (.error (.invalidModule path))
    | .ok module =>
      if Text.isBlankText module.assemblyName then pure (.error (.unnamedAssembly path))
      else pure (.ok module)

/-- Write a manifest to a file. -/
def Manifest.save (manifest : Manifest) (path : String) : m (Except SaveError Unit) := do
  let ready ← match Path.directory? path with
    | some directory => do
      match ← Platform.makeDirectories directory with
      | .ok () => pure (Except.ok ())
      | .error fault => pure (.error (SaveError.directory directory fault))
    | none => pure (.ok ())
  match ready with
  | .error reason => pure (.error reason)
  | .ok () =>
    match ← Platform.writeFile path manifest.text with
    | .ok () => pure (.ok ())
    | .error fault => pure (.error (.file path fault))

end WorkerBindings
