import WorkerBindings.Files.Tree

/-!
# The platform

What a command may ask for from outside: files, the two output streams and the time. Commands are
written against `Platform` and say nothing about how it is realized. A `Workspace` realizes it by a
value: a tree of files together with everything that was printed.
-/

namespace WorkerBindings

/-- What the platform does for a command. -/
class Platform (m : Type → Type) where
  /-- What lies at a path. -/
  kindOf : String → m FileKind
  readFile : String → m (Except FileFault String)
  /-- Write a whole file into a directory that exists. -/
  writeFile : String → String → m (Except FileFault Unit)
  /-- Add to the end of a file, which is made if there is none. -/
  appendFile : String → String → m (Except FileFault Unit)
  removeFile : String → m (Except FileFault Unit)
  /-- Make a directory and all those above it, as far as they are missing. -/
  makeDirectories : String → m (Except FileFault Unit)
  /-- Everything at and below a path, without the contents of files. -/
  outline : String → m (Option (FileTree Unit))
  /-- Write to the output. -/
  print : String → m Unit
  /-- Write to the stream for messages. -/
  printMessage : String → m Unit
  /-- The time as manifests state it. -/
  documentTime : m String
  /-- The time as the log states it. -/
  logTime : m String

/-- What stays the same while a command runs. -/
structure Environment where
  /-- The home directory of the user. -/
  home : String
  /-- The directory that relative paths start from, as an absolute path. -/
  workingDirectory : String
  /-- The value of the variable that chooses the settings file. -/
  settingsVariable : Option String
  /-- Whether text may be coloured. -/
  colours : Bool
  deriving Repr, DecidableEq

/-- The directory for the settings and the log of a user. -/
def Environment.settingsDirectory (environment : Environment) : String :=
  Path.join (Path.join environment.home ".config") "fnmeta"

/-- A platform as a value. -/
structure Workspace where
  files : FileTree String
  /-- The location that relative paths start from. -/
  current : List String
  output : String
  messages : String
  documentTime : String
  logTime : String

namespace Workspace

/-- The text of the file at a path. -/
def read (workspace : Workspace) (path : String) : Except FileFault String :=
  workspace.files.read workspace.current path

/-- Put a changed tree in place, unless there is a fault. -/
def settle (workspace : Workspace) :
    Except FileFault (FileTree String) → Except FileFault Unit × Workspace
  | .ok files => (.ok (), { workspace with files })
  | .error fault => (.error fault, workspace)

/-- Write a file. -/
def write (workspace : Workspace) (path content : String) : Except FileFault Unit × Workspace :=
  workspace.settle (workspace.files.write workspace.current path content)

/-- Add to the end of a file. -/
def append (workspace : Workspace) (path content : String) : Except FileFault Unit × Workspace :=
  match workspace.read path with
  | .ok before => workspace.write path (before ++ content)
  | .error _ => workspace.write path content

/-- Remove a file. -/
def remove (workspace : Workspace) (path : String) : Except FileFault Unit × Workspace :=
  workspace.settle (workspace.files.remove workspace.current path)

/-- Make directories. -/
def makeDirectories (workspace : Workspace) (path : String) : Except FileFault Unit × Workspace :=
  let (files, result) := workspace.files.makeDirectories workspace.current path
  (result, { workspace with files })

/-- Put a file in place together with the directories above it, as far as that can be done. -/
def place (workspace : Workspace) (path content : String) : Workspace :=
  let workspace := match Path.directory? path with
    | some directory => (workspace.makeDirectories directory).2
    | none => workspace
  (workspace.write path content).2

/-- Take away whatever lies at a path. -/
def discard (workspace : Workspace) (path : String) : Workspace :=
  match workspace.files.locate workspace.current path with
  | .ok location => { workspace with files := workspace.files.erase location }
  | .error _ => workspace

/-- The tree of the files below the current directory. -/
def currentTree (workspace : Workspace) : FileTree String :=
  (workspace.files.at? workspace.current).getD (.directory [])

end Workspace

instance : Platform (StateM Workspace) where
  kindOf path := fun workspace =>
    (FileTree.kind (workspace.files.find? workspace.current path), workspace)
  readFile path := fun workspace => (workspace.read path, workspace)
  writeFile path content := fun workspace => workspace.write path content
  appendFile path content := fun workspace => workspace.append path content
  removeFile path := fun workspace => workspace.remove path
  makeDirectories path := fun workspace => workspace.makeDirectories path
  outline path := fun workspace =>
    ((workspace.files.find? workspace.current path).map (·.outline), workspace)
  print text := fun workspace => ((), { workspace with output := workspace.output ++ text })
  printMessage text := fun workspace =>
    ((), { workspace with messages := workspace.messages ++ text })
  documentTime := fun workspace => (workspace.documentTime, workspace)
  logTime := fun workspace => (workspace.logTime, workspace)

end WorkerBindings
