import WorkerBindings.Command.Basic
import WorkerBindings.Files.Discovery

/-!
# Aggregating manifests

The records of several manifests in one list. A directory stands for all manifests below it;
anything else is taken for a manifest itself. The list is shown, or written to a file.
-/

namespace WorkerBindings.Command

variable {m : Type → Type} [Monad m] [Platform m]

/-- The manifests that paths stand for, in order. -/
def collectManifests : List String → m (List String)
  | [] => pure []
  | path :: rest => do
    let found ← if (← Platform.kindOf path) = .directory then Platform.outline path else pure none
    let others ← collectManifests rest
    pure (Discovery.manifests path found ++ others)

/-- The records of all manifests that paths stand for. -/
def aggregated (console : Console) (paths : List String) : Commanding m (List FunctionRecord) := do
  let documents ← (collectManifests paths : m _)
  if documents.isEmpty then Commanding.fail (.noDocuments paths)
  else
    let providers := documents.map fun path => some (Provider.ofFile path)
    let provider := Provider.aggregateOf none providers
    let names := String.intercalate ", " (provider.members.map Provider.name)
    console.say (m := m) .debug ("Aggregating providers: " ++ names)
    Commanding.settle .provider (Prod.fst <$> (provider.call : m _))

/-- The text of a list of records. -/
def recordsText (records : List FunctionRecord) : String :=
  (Json.array (records.map FunctionRecord.toJson)).pretty

/-- Write a file, whose directory is made if it is missing. -/
def writeOutput (path text : String) : Commanding m Unit := do
  match Path.directory? path with
  | some directory => Commanding.settle .file (Platform.makeDirectories directory : m _)
  | none => pure ()
  Commanding.settle .file (Platform.writeFile path text : m _)

/-- Aggregate manifests. -/
def runAggregate (console : Console) (paths : List String) (output : Option String) :
    Commanding m Unit := do
  let records ← aggregated console paths
  match output with
  | some path => do
    writeOutput path (recordsText records)
    let count := Text.ofNat records.length
    console.say (m := m) .success s!"Aggregated {count} function(s) into {path}"
  | none => (Platform.print (recordsText records ++ "\n") : m Unit)

end WorkerBindings.Command
