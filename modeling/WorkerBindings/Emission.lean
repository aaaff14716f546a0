import WorkerBindings.Identity
import WorkerBindings.Record.Declaration
import WorkerBindings.Record.Manifest

/-!
# Emission

Accepted declarations become the records of a manifest. A declaration whose bindings all have a
known payload type becomes a rich record, any other a minimal one, and a module without declarations
gets no manifest at all.
-/

namespace WorkerBindings

/-- What all functions of a module have in common. -/
structure ModuleContext where
  assemblyName : String
  scriptFile : String
  namespaceRoot : String
  autoRegister : Bool
  deriving Repr, DecidableEq

namespace ModuleContext

/-- The namespace root of a build that does not choose one. -/
def defaultNamespaceRoot : String := "AzureFunctionInternals"

/-- The context that an assembly has without any settings. -/
def ofAssembly (assemblyName : String) : ModuleContext :=
  ⟨assemblyName, assemblyName ++ ".dll", defaultNamespaceRoot, false⟩

/-- The context with another script file, unless that is absent or blank. -/
def withScriptFile (context : ModuleContext) (scriptFile : Option String) : ModuleContext :=
  match scriptFile.bind Text.nonBlank? with
  | some scriptFile => { context with scriptFile }
  | none => context

/-- The context with another namespace root, unless that is absent or blank. -/
def withNamespaceRoot (context : ModuleContext) (namespaceRoot : Option String) : ModuleContext :=
  match namespaceRoot.bind Text.nonBlank? with
  | some namespaceRoot => { context with namespaceRoot }
  | none => context

/-- The context with registration switched on or off. -/
def withAutoRegister (context : ModuleContext) (autoRegister : Bool) : ModuleContext :=
  { context with autoRegister }

/-- The namespace of the manifest. -/
def providerNamespace (context : ModuleContext) : String :=
  s!"{context.namespaceRoot}.{context.assemblyName}"

/-- The record that a declaration has in either form: without identity and structured bindings. -/
def minimalRecord (context : ModuleContext) (declaration : Declaration) : FunctionRecord where
  functionId := none
  isProxy := none
  language := FunctionRecord.workerLanguage
  managedDependencyEnabled := none
  name := declaration.functionName
  entryPoint := declaration.methodName
  scriptFile := context.scriptFile
  rawBindings := declaration.bindings.map (·.rawText)
  generatedBindings := none
  retry := declaration.retry

/-- The record of a declaration, rich if all its bindings are parsable. -/
def record (context : ModuleContext) (declaration : Declaration) : FunctionRecord :=
  let minimal := context.minimalRecord declaration
  if declaration.isParsable then
    { minimal with
      functionId := Identity.textOfFields (some declaration.functionName) (some context.scriptFile)
        (some declaration.methodName)
      isProxy := some false
      managedDependencyEnabled := some false
      generatedBindings := some (declaration.bindings.map (·.structured)) }
  else minimal

-- What a record takes over from its declaration, it has in either form.
section Fields

variable (context : ModuleContext) (declaration : Declaration)

@[simp] theorem record_scriptFile :
    (context.record declaration).scriptFile = context.scriptFile := by
  unfold record
  split <;> rfl

@[simp] theorem record_retry : (context.record declaration).retry = declaration.retry := by
  unfold record
  split <;> rfl

end Fields

/-- The manifest of a module, if it has declarations; `generatedAt` is the time of writing. -/
def emit? (context : ModuleContext) (generatedAt : String) (declarations : List Declaration) :
    Option Manifest :=
  if declarations.isEmpty then none
  else some {
    providerNamespace := context.providerNamespace
    assemblyName := context.assemblyName
    autoRegister := context.autoRegister
    generatedAt
    functions := declarations.map context.record }

theorem emit?_eq_none_iff {context : ModuleContext} {generatedAt : String}
    {declarations : List Declaration} :
    context.emit? generatedAt declarations = none ↔ declarations = [] := by
  unfold emit?
  cases declarations <;> simp

/-- A manifest has one record for each declaration, in their order. -/
theorem functions_of_emit? {context : ModuleContext} {generatedAt : String}
    {declarations : List Declaration} {manifest : Manifest}
    (emitted : context.emit? generatedAt declarations = some manifest) :
    manifest.functions = declarations.map context.record := by
  unfold emit? at emitted
  split at emitted
  · cases emitted
  · cases emitted
    rfl

end ModuleContext

end WorkerBindings
