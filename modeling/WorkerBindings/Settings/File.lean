import WorkerBindings.Platform
import WorkerBindings.Settings.Basic
import WorkerBindings.Toml.Document

/-!
# The settings file

Settings are kept in a TOML file, one line for each that is made. Which file that is can be chosen
by an environment variable, or else by a pointer file beside the usual one. A file that does not
exist holds no settings; keys that are no settings are passed over.
-/

namespace WorkerBindings

namespace Settings

/-- A value as it is written. -/
def writeValue : Toml.Value → List Char
  | .text value => Toml.writeText value
  | .switch value => (switchText value).toList
  | .other => []

/-- The line of a setting, if it is made. -/
def lineOf (settings : Settings) (key : SettingKey) : List Char :=
  match settings.value? key with
  | some value => key.name.toList ++ [' ', '=', ' '] ++ writeValue value ++ ['\n']
  | none => []

/-- The text of a settings file. -/
def text (settings : Settings) : String :=
  String.ofList (SettingKey.all.flatMap settings.lineOf)

/-- Take one setting from the entries of a document. -/
def take? (entries : Toml.Entries) (settings : Settings) (key : SettingKey) : Option Settings :=
  match entries.lookup key.name with
  | none => some settings
  | some (.value value) => settings.put? key value
  | some _ => none

/-- The settings that the text of a file holds. -/
def ofText? (text : String) : Option Settings := do
  let entries ← Toml.entriesOf? text
  SettingKey.all.foldlM (take? entries) empty

end Settings

namespace Environment

/-- The settings file that is used when no other is chosen. -/
def usualSettingsFile (environment : Environment) : String :=
  Path.join environment.settingsDirectory "fnmeta.toml"

/-- The file that may point to another settings file. -/
def pointerFile (environment : Environment) : String :=
  Path.join environment.settingsDirectory ".fnmeta_config_path"

end Environment

namespace Settings

variable {m : Type → Type} [Monad m] [Platform m]

/-- The settings file that the pointer file points to. -/
def pointedFile (environment : Environment) : m (Option String) := do
  match ← Platform.readFile environment.pointerFile with
  | .ok text => pure (Text.nonBlank? text)
  | .error _ => pure none

/-- The settings file in use. -/
def file (environment : Environment) : m String := do
  match environment.settingsVariable.bind Text.nonBlank? with
  | some path => pure path
  | none => do
    let pointed ← pointedFile environment
    pure (pointed.getD environment.usualSettingsFile)

/-- The settings in a file. -/
def loadFrom (path : String) : m (Except SettingsError Settings) := do
  if (← Platform.kindOf path) = .absent then pure (.ok empty)
  else
    match ← Platform.readFile path with
    | .error fault => pure (.error (.file fault))
    | .ok text =>
      match ofText? text with
      | some settings => pure (.ok settings)
      | none => pure (.error .malformed)

/-- Write settings to a file, whose directory is made if it is missing. -/
def saveTo (settings : Settings) (path : String) : m (Except SettingsError Unit) := do
  let ready ← match Path.directory? path with
    | some directory => Platform.makeDirectories directory
    | none => pure (.ok ())
  match ready with
  | .error fault => pure (.error (.file fault))
  | .ok () =>
    match ← Platform.writeFile path settings.text with
    | .error fault => pure (.error (.file fault))
    | .ok () => pure (.ok ())

/-- The settings in use. -/
def load (environment : Environment) : m (Except SettingsError Settings) := do
  loadFrom (← file environment)

/-- Put settings into use. -/
def save (settings : Settings) (environment : Environment) : m (Except SettingsError Unit) := do
  settings.saveTo (← file environment)

end Settings

end WorkerBindings
