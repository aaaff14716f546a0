import WorkerBindings.Assembly.Module
import WorkerBindings.Command.Basic
import WorkerBindings.Files.Discovery

/-!
# Generating manifests

Every symbol document below the input is run through one session, in the order of their paths. Each
module with accepted functions gets a manifest in the output directory; its diagnostics are shown
before that. Errors among them let the run go on and make it fail in the end.
-/

namespace WorkerBindings

/-- The settings with what a request states. -/
def GenerateRequest.applyTo (request : GenerateRequest) (settings : Settings) : Settings where
  executionModel := request.executionModel.orElse fun _ => settings.executionModel
  enableGeneration := if request.enableGeneration then some true else settings.enableGeneration
  autoRegister := if request.autoRegister then some true else settings.autoRegister
  outputNamespace := request.namespaceRoot.orElse fun _ => settings.outputNamespace
  outputDirectory := request.outputDirectory.orElse fun _ => settings.outputDirectory
  scriptFile := request.scriptFile.orElse fun _ => settings.scriptFile

/-- A path from the root of the tree. -/
def Environment.absolute (environment : Environment) (path : String) : String :=
  if Path.isAbsolute path then path else Path.join environment.workingDirectory path

/-- The directory that manifests are written to. -/
def Settings.outputPath (settings : Settings) (environment : Environment) : String :=
  environment.absolute (settings.outputDirectory.getD ".")

/-- The context in which a module is generated. -/
def Settings.contextFor (settings : Settings) (module : WorkerModule) : ModuleContext :=
  let context := ModuleContext.ofAssembly module.assemblyName
  let context := context.withScriptFile (settings.scriptFile.orElse fun _ => module.scriptFile)
  let context := context.withNamespaceRoot settings.switches.outputNamespace
  context.withAutoRegister settings.switches.autoRegister

/-- The words for a build that generates nothing. -/
def Settings.disabledNotice (settings : Settings) : String :=
  let enabled := switchText settings.switches.isEnabled
  let model := settings.executionModel.getD "unset"
  s!"Metadata generation is disabled (enable-generation = {enabled}, " ++
    s!"execution-model = {model}). Nothing to do."

namespace Command

variable {m : Type → Type} [Monad m] [Platform m]

/-- Show what came out of a module. -/
def reportOutcome (console : Console) (outcome : ModuleOutcome) : m Unit := do
  outcome.diagnostics.forM console.report
  if 0 < outcome.rejected then
    let count := Text.ofNat outcome.rejected
    console.say .warning s!"{outcome.assemblyName}: {count} function(s) rejected"

/-- Write the manifest of a module, if it has one. -/
def writeOutcome (console : Console) (outputPath : String) (outcome : ModuleOutcome) :
    Commanding m Unit := do
  match outcome.manifest with
  | some manifest => do
    let target := Path.join outputPath (Manifest.fileName outcome.assemblyName)
    Commanding.settle .save (manifest.save target)
    let count := Text.ofNat outcome.accepted
    console.say (m := m) .success s!"{outcome.assemblyName}: {count} function(s) -> {target}"
  | none =>
    console.say (m := m) .info s!"{outcome.assemblyName}: no functions accepted, nothing written"

/-- Generate the manifest of one module in a session, and count its errors. -/
def generateModule (console : Console) (settings : Settings) (outputPath : String)
    (session : Session) (module : WorkerModule) : Commanding m (Nat × Session) := do
  let time ← (Platform.documentTime : m String)
  let (result, session) :=
    module.run Registry.builtIn Interruption.never (settings.contextFor module) time session
  match result with
  | .error reason => do
    console.say (m := m) .failure s!"{module.assemblyName} failed"
    Commanding.fail (.cancelled reason)
  | .ok outcome => do
    reportOutcome (m := m) console outcome
    writeOutcome console outputPath outcome
    pure (outcome.errorCount, session)

/-- Generate the manifests of several symbol documents, and count the errors. -/
def generateAll (console : Console) (settings : Settings) (outputPath : String) :
    Session → List String → Commanding m Nat
  | _, [] => pure 0
  | session, path :: rest => do
    let module ← Commanding.settle .load (WorkerModule.load path)
    let (errors, session) ← generateModule console settings outputPath session module
    let others ← generateAll console settings outputPath session rest
    pure (errors + others)

/-- Generate the manifests of everything below an input. -/
def generateUnder (environment : Environment) (console : Console) (settings : Settings)
    (input : String) : Commanding m Unit := do
  if !settings.switches.generates then
    console.say (m := m) .warning settings.disabledNotice
  else
    let found ← (Platform.outline input : m _)
    let paths := Discovery.modules input found
    if paths.isEmpty then Commanding.fail (.noInput input)
    else
      console.say (m := m) .debug s!"Found {Text.ofNat paths.length} symbol document(s)"
      let errors ← generateAll console settings (settings.outputPath environment)
        (Session.ofCache SymbolCache.empty) paths
      if 0 < errors then Commanding.fail (.diagnosticErrors errors)

/-- Generate manifests on request. -/
def runGenerate (environment : Environment) (console : Console) (request : GenerateRequest) :
    Commanding m Unit := do
  let settings ← Commanding.settle .settings (Settings.load environment)
  generateUnder environment console (request.applyTo settings) request.input

end Command

end WorkerBindings
