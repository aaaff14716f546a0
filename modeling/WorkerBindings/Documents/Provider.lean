import WorkerBindings.Documents.Loading

/-!
# Providers

Where function records come from: a fixed list, a manifest in a file, or several providers in a row.
A provider that reads a file remembers the manifest once it has read it, and never looks at the file
again; a failure is not remembered. Several providers share nothing and may be asked in parallel.
Here they are asked from left to right, up to the first that fails, which is one schedule among
many.
-/

namespace WorkerBindings

/-- Why a provider has no records to give. -/
structure ProviderFailure where
  provider : String
  reason : String
  deriving Repr, DecidableEq

/-- The words for a failure. -/
def ProviderFailure.message (failure : ProviderFailure) : String :=
  s!"Metadata provider '{failure.provider}' failed: {failure.reason}"

/-- A source of function records. -/
inductive Provider where
  | fixed (name : String) (functions : List FunctionRecord)
  /-- A manifest in a file, and what was read from it before. -/
  | file (path : String) (loaded : Option Manifest)
  /-- A provider that always fails. -/
  | failing (failure : ProviderFailure)
  | aggregate (name : String) (providers : List Provider)

namespace Provider

/-- The name of an aggregate that is given none. -/
def defaultName : String := "aggregate"

/-- The provider of the records of a manifest. -/
def ofManifest (manifest : Manifest) : Provider :=
  .fixed manifest.providerNamespace manifest.functions

/-- The provider of a manifest in a file that has not been read. -/
def ofFile (path : String) : Provider :=
  .file path none

/-- The providers of a row that are there, in their order. -/
def aggregateOf (name : Option String) (providers : List (Option Provider)) : Provider :=
  .aggregate (name.getD defaultName) (providers.filterMap id)

/-- The name of a provider; that of a file is its path. -/
def name : Provider → String
  | .fixed name _ => name
  | .file path _ => path
  | .failing failure => failure.provider
  | .aggregate name _ => name

/-- The providers that a provider asks. -/
def members : Provider → List Provider
  | .aggregate _ providers => providers
  | _ => []

variable {m : Type → Type} [Monad m] [Platform m]

mutual

/-- Ask a provider for its records. It comes back with what it has learned. An aggregate of one
provider passes the question on to it; several are asked in a row, and their lists are joined. -/
def call : Provider → m (Except ProviderFailure (List FunctionRecord) × Provider)
  | .fixed name functions => pure (.ok functions, .fixed name functions)
  | .file path (some manifest) => pure (.ok manifest.functions, .file path (some manifest))
  | .file path none => do
    match ← Manifest.load path with
    | .ok manifest => pure (.ok manifest.functions, .file path (some manifest))
    | .error reason => pure (.error ⟨path, reason.message⟩, .file path none)
  | .failing failure => pure (.error failure, .failing failure)
  | .aggregate name [] => pure (.ok [], .aggregate name [])
  | .aggregate name [single] => do
    let (result, single) ← single.call
    pure (result, .aggregate name [single])
  | .aggregate name providers => do
    let (results, providers) ← callEach providers
    pure (results.map List.flatten, .aggregate name providers)

/-- Ask several providers from left to right, up to the first that fails. -/
def callEach : List Provider →
    m (Except ProviderFailure (List (List FunctionRecord)) × List Provider)
  | [] => pure (.ok [], [])
  | provider :: rest => do
    let (first, provider) ← provider.call
    match first with
    | .error failure => pure (.error failure, provider :: rest)
    | .ok functions =>
      let (others, rest) ← callEach rest
      pure (others.map (functions :: ·), provider :: rest)

end

end Provider

end WorkerBindings
