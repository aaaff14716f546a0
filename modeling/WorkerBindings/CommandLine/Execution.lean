import WorkerBindings.Command.Run
import WorkerBindings.CommandLine.Invocation

/-!
# Running the program

From arguments to an exit code. A log that cannot be started is reported and done without; an error
of the command is the last message.
-/

namespace WorkerBindings.CommandLine

/-- The name and version of the program. -/
def versionLine : String := "fnmeta 0.1.0"

/-- How the program is used. -/
def usage : String :=
  "fnmeta generates function binding metadata from exported worker symbols.\n\n" ++
  "Usage: fnmeta [OPTIONS] <COMMAND>\n\n" ++
  "Commands:\n" ++
  "  config     Configure fnmeta: show, set <KEY> <VALUE>, path [NEW_PATH]\n" ++
  "  generate   Generate provider documents from symbol documents\n" ++
  "  aggregate  Merge provider documents into one function list\n" ++
  "  hash       Print the function id for a name, script file and entry point\n" ++
  "  validate   Check that every binding in a provider document resolves\n\n" ++
  "Options:\n" ++
  "  -q, --quiet       Decrease verbosity\n" ++
  "  -v, --verbose...  Increase verbosity (-v for debug, -vv for trace)\n" ++
  "      --log-json    Emit library traces as JSON lines on stderr\n" ++
  "  -h, --help        Print help\n" ++
  "  -V, --version     Print version\n"

variable {m : Type → Type} [Monad m] [Platform m]

/-- The console of a run, with its log if that can be started. -/
def openConsole (environment : Environment) (options : Options) : m Console := do
  let console := Console.silent environment options.effectiveVerbosity options.isQuiet
  match ← Console.openLog environment console with
  | .ok logging => pure logging
  | .error fault => do
    Platform.printMessage
      s!"Warning: Failed to initialize logger: {Console.logFault fault}\n"
    pure console

/-- Run a command, and tell how it ended by an exit code. -/
def runCommand (environment : Environment) (options : Options) (command : Command) : m UInt32 := do
  let console ← openConsole environment options
  match ← (command.run environment console).run with
  | .ok () => pure 0
  | .error reason => do
    console.say .error reason.message
    if 0 < console.verbosity then
      console.showLogFile environment
    pure 1

/-- Run the program with arguments. -/
def execute (environment : Environment) (arguments : List String) : m UInt32 :=
  match Invocation.ofArguments arguments with
  | .run options command => runCommand environment options command
  | .halt .versionWanted => do
    Platform.print (versionLine ++ "\n")
    pure 0
  | .halt .helpWanted => do
    Platform.print usage
    pure 0
  | .halt .misuse => do
    Platform.printMessage usage
    pure 2

end WorkerBindings.CommandLine
