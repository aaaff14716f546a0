import WorkerBindings.Command.Basic

/-!
# Showing and changing settings

A setting is changed by loading the settings in use, making it, and saving them to where they came
from; if any of that fails the file stays as it was. Choosing another settings file writes the
pointer file.
-/

namespace WorkerBindings.Command

variable {m : Type → Type} [Monad m] [Platform m]

/-- One line for the output. -/
def printLine (line : String) : m Unit :=
  Platform.print (line ++ "\n")

/-- Show the settings in use. -/
def runShow (environment : Environment) (console : Console) : Commanding m Unit := do
  let settings ← Commanding.settle .settings (Settings.load environment : m _)
  let colours := environment.colours
  printLine (m := m) ((Style.strong .green).apply colours "Configuration:")
  if settings.isEmpty then
    if 0 < console.verbosity then
      printLine (m := m) ("  " ++ (Style.tinted .yellow).apply colours "(empty)")
  else
    (settings.values.forM fun (key, value) =>
      printLine ("  " ++ (Style.tinted .cyan).apply colours key ++ ": " ++ value) : m Unit)

/-- Make one setting. -/
def runSet (environment : Environment) (console : Console) (key value : String) :
    Commanding m Unit := do
  let settings ← Commanding.settle .settings (Settings.load environment : m _)
  let changed ← Commanding.settle .settings (pure (settings.set key value) : m _)
  Commanding.settle .settings (changed.save environment : m _)
  console.say (m := m) .success s!"Set {key} = {value}"

/-- Let the pointer file point to a settings file. -/
def choose (environment : Environment) (console : Console) (path : String) : Commanding m Unit := do
  match Path.parent? environment.pointerFile with
  | some directory => Commanding.settle .file (Platform.makeDirectories directory : m _)
  | none => pure ()
  Commanding.settle .file (Platform.writeFile environment.pointerFile path : m _)
  console.say (m := m) .success s!"Config path set to {path}"

/-- Show the settings file in use, and the one pointed to if that is another. -/
def showFile (environment : Environment) (inUse : String) : m Unit := do
  printLine inUse
  match ← Settings.pointedFile environment with
  | some pointed =>
    if !Path.same pointed inUse then
      let label := (Style.tinted .cyan).apply environment.colours "overridden-by"
      printLine s!"{label} {pointed}"
  | none => pure ()

/-- Show or choose the settings file. -/
def runSettingsFile (environment : Environment) (console : Console) (chosen : Option String) :
    Commanding m Unit := do
  let inUse ← (Settings.file environment : m _)
  console.say (m := m) .debug s!"Reading config from: {inUse}"
  match chosen with
  | some path => choose environment console path
  | none => (showFile environment inUse : m Unit)

end WorkerBindings.Command
