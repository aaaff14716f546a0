import WorkerBindings.Console.Style
import WorkerBindings.Diagnostic
import WorkerBindings.Platform

/-!
# The console

Messages to the user. Every message goes into the log file, with the time in front of it; which ones
are shown as well depends on the verbosity and on whether the console is quiet. The log file is
started afresh for each run, and a log that cannot be written is silently done without.
-/

namespace WorkerBindings

/-- How messages are shown and where they are logged. -/
structure Console where
  verbosity : UInt8
  isQuiet : Bool
  colours : Bool
  logFile : Option String
  deriving Repr, DecidableEq

/-- The kinds of message. -/
inductive Tone where
  | info
  | debug
  | warning
  | error
  | success
  | step
  /-- The failure of something that had been announced. -/
  | failure
  deriving Repr, DecidableEq

namespace Tone

/-- What a message starts with in the log. -/
def logLead : Tone → String
  | .info => "INFO "
  | .debug => "DEBUG "
  | .warning => "WARN "
  | .error => "ERROR "
  | .success => "SUCCESS "
  | .step => "STEP: "
  | .failure => "ERROR "

/-- What a message starts with when it is shown. -/
def lead (colours : Bool) : Tone → String
  | .info => ""
  | .debug => (Style.strong .blue).apply colours "DEBUG:" ++ " "
  | .warning => (Style.strong .yellow).apply colours "warning:" ++ " "
  | .error => (Style.strong .red).apply colours "Error:" ++ " "
  | .success => (Style.strong .green).apply colours "✔" ++ " "
  | .step => "TRACE: "
  | .failure => "  " ++ (Style.strong .red).apply colours "✗" ++ " "

end Tone

/-- The colour of a severity. -/
def Severity.colour : Severity → Colour
  | .info => .blue
  | .warning => .yellow
  | .error => .red

/-- A diagnostic on one line, its label in the colour of its severity. -/
def Diagnostic.styledLine (colours : Bool) (diagnostic : Diagnostic) : String :=
  let label := (Style.strong diagnostic.severity.colour).apply colours diagnostic.label
  s!"{label}: {diagnostic.messageAt}"

/-- The level of detail that a verbosity stands for. -/
def Console.detail (console : Console) : String :=
  if console.verbosity = 0 then "warn"
  else if console.verbosity = 1 then "debug"
  else "trace"

/-- The log file of a user. -/
def Environment.logFile (environment : Environment) : String :=
  Path.join environment.settingsDirectory "fnmeta.log"

namespace Console

/-- Whether messages of a tone are shown. -/
def shows (console : Console) : Tone → Bool
  | .info => 1 ≤ console.verbosity
  | .debug => 1 ≤ console.verbosity
  | .warning => !console.isQuiet
  | .error => true
  | .success => !console.isQuiet
  | .step => 2 ≤ console.verbosity
  | .failure => true

/-- Whether diagnostics of a severity are shown. -/
def showsSeverity (console : Console) : Severity → Bool
  | .error => true
  | .warning => !console.isQuiet
  | .info => 1 ≤ console.verbosity

/-- A console without a log. -/
def silent (environment : Environment) (verbosity : UInt8) (isQuiet : Bool) : Console :=
  ⟨verbosity, isQuiet, environment.colours, none⟩

variable {m : Type → Type} [Monad m] [Platform m]

/-- The console with a fresh log. -/
def openLog (environment : Environment) (console : Console) : m (Except FileFault Console) := do
  match ← Platform.makeDirectories environment.settingsDirectory with
  | .error fault => pure (.error fault)
  | .ok () =>
    if (← Platform.kindOf environment.logFile) != .absent then
      let _ ← Platform.removeFile environment.logFile
    pure (.ok { console with logFile := some environment.logFile })

/-- What the user is told when the log cannot be started. -/
def logFault (fault : FileFault) : String :=
  "Failed to create config directory: " ++ fault.message

/-- Add a line to the log. -/
def log (console : Console) (message : String) : m Unit := do
  match console.logFile with
  | none => pure ()
  | some path =>
    let time ← Platform.logTime
    let _ ← Platform.appendFile path s!"[{time}] {message}\n"

/-- Log a message and show it if its tone is shown. -/
def say (console : Console) (tone : Tone) (message : String) : m Unit := do
  console.log (tone.logLead ++ message)
  if console.shows tone then
    Platform.printMessage (tone.lead console.colours ++ message ++ "\n")

/-- Log a diagnostic, and show it with a link to its explanation if its severity is shown. -/
def report (console : Console) (diagnostic : Diagnostic) : m Unit := do
  console.log ("DIAGNOSTIC " ++ diagnostic.line)
  if console.showsSeverity diagnostic.severity then
    let help := Style.emphatic.apply console.colours "help:"
    Platform.printMessage
      (diagnostic.styledLine console.colours ++ s!"\n  {help} {diagnostic.helpLink}\n")

/-- Tell the user where the log is. -/
def showLogFile (environment : Environment) (console : Console) : m Unit :=
  Platform.printMessage s!"Log file: {console.logFile.getD environment.logFile}\n"

end Console

end WorkerBindings
