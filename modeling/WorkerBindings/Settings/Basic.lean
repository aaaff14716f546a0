import WorkerBindings.Files.Tree
import WorkerBindings.Text.Blank
import WorkerBindings.Text.Caseless
import WorkerBindings.Toml.Value

/-!
# Settings

What a user can settle once for all runs. Every setting has a key and is either a text or a switch;
a setting that is not made is different from one that is made empty or off. The switches that decide
about a build are derived from the settings.
-/

namespace WorkerBindings

/-- The settings that can be made. -/
inductive SettingKey where
  | executionModel
  | enableGeneration
  | autoRegister
  | outputNamespace
  | outputDirectory
  | scriptFile
  deriving Repr, DecidableEq

namespace SettingKey

/-- All settings, in the order in which they are shown. -/
def all : List SettingKey := [
  .executionModel, .enableGeneration, .autoRegister, .outputNamespace, .outputDirectory,
  .scriptFile]

/-- The key of a setting. -/
def name : SettingKey → String
  | .executionModel => "execution-model"
  | .enableGeneration => "enable-generation"
  | .autoRegister => "auto-register"
  | .outputNamespace => "output-namespace"
  | .outputDirectory => "output-dir"
  | .scriptFile => "script-file"

/-- The setting with a key. -/
def ofName? (name : String) : Option SettingKey :=
  all.find? fun key => key.name == name

/-- Whether a setting is on or off and not a text. -/
def isSwitch : SettingKey → Bool
  | .enableGeneration => true
  | .autoRegister => true
  | _ => false

end SettingKey

/-- The settings that are made. -/
structure Settings where
  executionModel : Option String := none
  enableGeneration : Option Bool := none
  autoRegister : Option Bool := none
  outputNamespace : Option String := none
  outputDirectory : Option String := none
  scriptFile : Option String := none
  deriving Repr, DecidableEq

/-- Why settings cannot be had or changed. -/
inductive SettingsError where
  | file (fault : FileFault)
  | malformed
  | unknownKey (name : String)
  | invalidSwitch (key : SettingKey) (text : String)
  deriving Repr, DecidableEq

/-- The words for a settings error. -/
def SettingsError.message : SettingsError → String
  | .file fault => s!"IO error: {fault.message}"
  | .malformed => "Invalid config file: the text is not a settings file"
  | .unknownKey name =>
    let keys := String.intercalate ", " (SettingKey.all.map SettingKey.name)
    s!"Unknown config key '{name}'. Valid keys: {keys}"
  | .invalidSwitch key text => s!"Invalid value '{text}' for '{key.name}': expected true or false"

/-- The text of a switch. -/
def switchText (value : Bool) : String :=
  if value then "true" else "false"

/-- The switch that a text stands for, whatever its case and the blanks around it. -/
def switchOf? (text : String) : Option Bool :=
  if Text.sameIgnoringCase (Text.trim text) "true" then some true
  else if Text.sameIgnoringCase (Text.trim text) "false" then some false
  else none

namespace Settings

/-- No settings. -/
def empty : Settings := {}

/-- Whether no setting is made. -/
def isEmpty (settings : Settings) : Bool :=
  settings == empty

/-- The value of a setting, if it is made. -/
def value? (settings : Settings) : SettingKey → Option Toml.Value
  | .executionModel => settings.executionModel.map .text
  | .enableGeneration => settings.enableGeneration.map .switch
  | .autoRegister => settings.autoRegister.map .switch
  | .outputNamespace => settings.outputNamespace.map .text
  | .outputDirectory => settings.outputDirectory.map .text
  | .scriptFile => settings.scriptFile.map .text

/-- The settings with one of them made, if the value is of the right kind. -/
def put? (settings : Settings) : SettingKey → Toml.Value → Option Settings
  | .executionModel, .text value => some { settings with executionModel := some value }
  | .enableGeneration, .switch value => some { settings with enableGeneration := some value }
  | .autoRegister, .switch value => some { settings with autoRegister := some value }
  | .outputNamespace, .text value => some { settings with outputNamespace := some value }
  | .outputDirectory, .text value => some { settings with outputDirectory := some value }
  | .scriptFile, .text value => some { settings with scriptFile := some value }
  | _, _ => none

/-- The text that shows a value. -/
def shown : Toml.Value → String
  | .text value => value
  | .switch value => switchText value
  | .other => ""

/-- The text of the setting with a key. -/
def get? (settings : Settings) (name : String) : Option String := do
  let key ← SettingKey.ofName? name
  let value ← settings.value? key
  some (shown value)

/-- The value that a text stands for in a setting. -/
def parse (key : SettingKey) (text : String) : Except SettingsError Toml.Value :=
  if key.isSwitch then
    match switchOf? text with
    | some value => .ok (.switch value)
    | none => .error (.invalidSwitch key text)
  else .ok (.text text)

/-- Make the setting with a key. -/
def set (settings : Settings) (name text : String) : Except SettingsError Settings := do
  let some key := SettingKey.ofName? name
    | .error (.unknownKey name)
  let value ← parse key text
  match settings.put? key value with
  | some changed => .ok changed
  | none => .error .malformed

/-- The settings that are made, as keys and texts in the order in which they are shown. -/
def values (settings : Settings) : List (String × String) :=
  SettingKey.all.filterMap fun key => (settings.value? key).map fun value => (key.name, shown value)

end Settings

/-- The execution model whose projects get manifests. -/
def targetExecutionModel : String := "isolated"

/-- What decides whether and how a build generates manifests. -/
structure BuildSwitches where
  isEnabled : Bool
  /-- Whether the project follows the target execution model. -/
  isTarget : Bool
  autoRegister : Bool
  outputNamespace : Option String
  deriving Repr, DecidableEq

/-- Whether a build generates manifests. -/
def BuildSwitches.generates (switches : BuildSwitches) : Bool :=
  switches.isEnabled && switches.isTarget

/-- The switches that settings amount to. -/
def Settings.switches (settings : Settings) : BuildSwitches where
  isEnabled := settings.enableGeneration.getD false
  isTarget := settings.executionModel.any fun model =>
    Text.sameIgnoringCase (Text.trim model) targetExecutionModel
  autoRegister := settings.autoRegister.getD false
  outputNamespace := settings.outputNamespace.bind Text.nonBlank?

end WorkerBindings
