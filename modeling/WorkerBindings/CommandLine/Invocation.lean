import WorkerBindings.Command.Basic
import WorkerBindings.CommandLine.Arguments

/-!
# Invocations

What a whole command line asks for: a command together with the options that all commands share, or
a word about the program itself. Shared options may stand before or after the name of the command;
of the counts given on several levels the innermost one holds.
-/

namespace WorkerBindings.CommandLine

/-- The options that all commands share. -/
structure Options where
  isQuiet : Bool
  verbosity : UInt8
  deriving Repr, DecidableEq

/-- The verbosity that takes effect: a quiet run is never verbose. -/
def Options.effectiveVerbosity (options : Options) : UInt8 :=
  if options.isQuiet then 0 else options.verbosity

/-- What a command line asks for. -/
inductive Invocation where
  | run (options : Options) (command : Command)
  | halt (reason : Halt)
  deriving Repr, DecidableEq

/-- The flags that may be given on every level. -/
def sharedFlags : List Flag := [
  { long := "quiet", letter := some 'q' },
  { long := "verbose", letter := some 'v', mayRepeat := true },
  { long := "log-json" },
  helpFlag]

/-- The flags of the program itself. -/
def programFlags : List Flag :=
  versionFlag :: sharedFlags

/-- The flags for generating. -/
def generateFlags : List Flag := [
  { long := "output-dir", letter := some 'o', takesValue := true, mayBeEmpty := false },
  { long := "namespace", takesValue := true },
  { long := "execution-model", takesValue := true },
  { long := "enable-generation" },
  { long := "auto-register" },
  { long := "script-file", takesValue := true }] ++ sharedFlags

/-- The flags for aggregating. -/
def aggregateFlags : List Flag :=
  { long := "output", letter := some 'o', takesValue := true, mayBeEmpty := false } :: sharedFlags

/-- The flags for an identity. -/
def identifyFlags : List Flag := [
  { long := "script-file", takesValue := true },
  { long := "entry-point", takesValue := true }] ++ sharedFlags

/-- The verbosity that the levels of a command line ask for, the outermost level first. -/
def verbosityOf (levels : List (List Item)) : UInt8 :=
  match levels.reverse.find? (has "verbose") with
  | some items => UInt8.ofNat (min 255 (count "verbose" items))
  | none => 0

/-- The shared options that the levels of a command line ask for, the outermost level first. -/
def optionsOf (levels : List (List Item)) : Options :=
  ⟨levels.any (has "quiet"), verbosityOf levels⟩

/-- A path given as an operand, which cannot be empty. -/
def pathOf (text : String) : Except Halt String :=
  if text.isEmpty then .error .misuse else .ok text

/-- A request to generate. -/
def generateOf (items : List Item) : Except Halt Command :=
  match operands items with
  | [input] => do
    let input ← pathOf input
    .ok (.generate {
      input
      outputDirectory := valueOf? "output-dir" items
      namespaceRoot := valueOf? "namespace" items
      executionModel := valueOf? "execution-model" items
      enableGeneration := has "enable-generation" items
      autoRegister := has "auto-register" items
      scriptFile := valueOf? "script-file" items })
  | _ => .error .misuse

/-- A request to aggregate. -/
def aggregateOf (items : List Item) : Except Halt Command := do
  let paths ← (operands items).mapM pathOf
  if paths.isEmpty then .error .misuse else .ok (.aggregate paths (valueOf? "output" items))

/-- A request for an identity. -/
def identifyOf (items : List Item) : Except Halt Command :=
  match operands items with
  | [name] => .ok (.identify name (valueOf? "script-file" items) (valueOf? "entry-point" items))
  | _ => .error .misuse

/-- A request to validate. -/
def validateOf (items : List Item) : Except Halt Command :=
  match operands items with
  | [document] => (pathOf document).map .validate
  | _ => .error .misuse

/-- A request about settings, by the name of the action and its operands. -/
def settingsActionOf (action : String) (items : List Item) : Except Halt Command :=
  match action, operands items with
  | "show", [] => .ok .showSettings
  | "set", [key, value] => .ok (.set key value)
  | "path", [] => .ok (.settingsFile none)
  | "path", [path] => .ok (.settingsFile (some path))
  | "help", _ => .error .helpWanted
  | _, _ => .error .misuse

/-- A level that no command can follow. -/
def lastLevel (flags : List Flag) (arguments : List String) : Except Halt (List Item) :=
  (readLevel flags [] [] false arguments).map Prod.fst

/-- A request about settings with the levels that it consists of. -/
def settingsOf (arguments : List String) : Except Halt (List (List Item) × Command) := do
  let (items, next) ← readLevel sharedFlags ["show", "set", "path", "help"] [] false arguments
  match next with
  | none => if (operands items).isEmpty then .ok ([items], .showSettings) else .error .misuse
  | some ("help", _) => .error .helpWanted
  | some (action, rest) => do
    let inner ← lastLevel sharedFlags rest
    let command ← settingsActionOf action inner
    .ok ([items, inner], command)

/-- A command by its name, with the levels that its arguments consist of. -/
def commandOf (name : String) (arguments : List String) :
    Except Halt (List (List Item) × Command) := do
  let one (flags : List Flag) (command : List Item → Except Halt Command) :
      Except Halt (List (List Item) × Command) := do
    let items ← lastLevel flags arguments
    let command ← command items
    .ok ([items], command)
  match name with
  | "config" => settingsOf arguments
  | "generate" => one generateFlags generateOf
  | "aggregate" => one aggregateFlags aggregateOf
  | "hash" => one identifyFlags identifyOf
  | "validate" => one sharedFlags validateOf
  | "help" => .error .helpWanted
  | _ => .error .misuse

/-- The names of the commands. -/
def commandNames : List String :=
  ["config", "generate", "aggregate", "hash", "validate", "help"]

/-- The options and the command that arguments ask for. -/
def parse (arguments : List String) : Except Halt (Options × Command) := do
  let (items, next) ← readLevel programFlags commandNames [] false arguments
  match next with
  | none => .error .misuse
  | some (name, rest) => do
    let (levels, command) ← commandOf name rest
    .ok (optionsOf (items :: levels), command)

/-- What arguments ask for. -/
def Invocation.ofArguments (arguments : List String) : Invocation :=
  match parse arguments with
  | .ok (options, command) => .run options command
  | .error reason => .halt reason

end WorkerBindings.CommandLine
