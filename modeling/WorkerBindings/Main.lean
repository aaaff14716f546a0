import Std.Time.Format
import WorkerBindings.CommandLine.Execution

/-!
# The program

The platform of the operating system, and the entry point.
-/

namespace WorkerBindings

/-- A fault of the system as a fault of a file. -/
def faultOf : IO.Error → FileFault
  | .noFileOrDirectory .. => .missing
  | reason => .system (toString reason)

/-- The outcome of an action, with its fault as a value. -/
def guarded {α : Type} (action : IO α) : IO (Except FileFault α) := do
  try
    pure (.ok (← action))
  catch reason =>
    pure (.error (faultOf reason))

/-- Do something at a path, which cannot be empty. -/
def atPath {α : Type} (path : String) (action : IO α) : IO (Except FileFault α) :=
  if path.isEmpty then pure (.error .missing) else guarded action

/-- What lies at a path; links are followed. -/
def diskKind (path : String) : IO FileKind := do
  let full := (← IO.currentDir) / path
  match ← atPath path full.metadata with
  | .error _ => pure .absent
  | .ok found => pure (if found.type == .dir then .directory else .file)

/-- Everything at and below a path. Below it, links are not followed and stand for nothing. -/
partial def diskOutline (path : String) : IO (Option (FileTree Unit)) := do
  match ← diskKind path with
  | .absent => pure none
  | .file => pure (some (.file ()))
  | .directory =>
    let full := (← IO.currentDir) / path
    let mut entries := []
    match ← guarded full.readDir with
    | .error _ => pure ()
    | .ok found =>
      for entry in found do
        match ← guarded entry.path.symlinkMetadata with
        | .error _ => pure ()
        | .ok kind =>
          if kind.type == .dir then
            if let some tree ← diskOutline (Path.join path entry.fileName) then
              entries := entries ++ [(entry.fileName, tree)]
          else if kind.type == .file then
            entries := entries ++ [(entry.fileName, .file ())]
    pure (some (.directory entries))

/-- The current time on the zero meridian. -/
def currentTime : IO Std.Time.PlainDateTime := do
  let now ← Std.Time.Timestamp.now
  pure (Std.Time.PlainDateTime.ofWallTime (now.toWallTime Std.Time.TimeZone.Offset.zero))

instance : Platform IO where
  kindOf := diskKind
  readFile path := do
    let full := (← IO.currentDir) / path
    atPath path (IO.FS.readFile full)
  writeFile path content := do
    let full := (← IO.currentDir) / path
    atPath path (IO.FS.writeFile full content)
  appendFile path content := do
    let full := (← IO.currentDir) / path
    atPath path (IO.FS.withFile full .append fun handle => handle.putStr content)
  removeFile path := do
    let full := (← IO.currentDir) / path
    atPath path (IO.FS.removeFile full)
  makeDirectories path := do
    if path.isEmpty then pure (.ok ())
    else
      let full := (← IO.currentDir) / path
      guarded (IO.FS.createDirAll full)
  outline := diskOutline
  print text := do
    let output ← IO.getStdout
    output.putStr text
    output.flush
  printMessage text := do
    let output ← IO.getStderr
    output.putStr text
    output.flush
  documentTime := do
    pure ((← currentTime).format "uuuu-MM-dd'T'HH:mm:ss.SSSSSSSSS" ++ "+00:00")
  logTime := do
    let now ← Std.Time.PlainDateTime.now
    pure (now.format "uuuu-MM-dd HH:mm:ss")

/-- Whether a variable switches something on, if it is set. -/
def switchVariable (name : String) : IO (Option Bool) := do
  pure ((← IO.getEnv name).map fun value => value != "0")

/-- Whether text may be coloured: on a terminal, unless the user's environment says otherwise. -/
def wantsColours : IO Bool := do
  if (← switchVariable "CLICOLOR_FORCE") == some true then pure true
  else if (← switchVariable "NO_COLOR").isSome then pure false
  else
    let terminal ← (← IO.getStdout).isTty
    pure (((← switchVariable "CLICOLOR").getD true) && terminal)

/-- The surroundings of this run. -/
def currentEnvironment : IO Environment := do
  pure {
    home := (← IO.getEnv "HOME").getD "."
    workingDirectory := (← IO.currentDir).toString
    settingsVariable := ← IO.getEnv "FNMETA_CONFIG"
    colours := ← wantsColours }

end WorkerBindings

/-- Run the program. -/
def main (arguments : List String) : IO UInt32 := do
  WorkerBindings.CommandLine.execute (← WorkerBindings.currentEnvironment) arguments
