import WorkerBindings.Files.Path

/-!
# Trees of files

A directory tree, and what can be done at a path in it. Paths are followed step by step, so that
every step but the last needs a directory under it; two dots lead back up. A location is a path
already followed: the names that lead to it from the root.
-/

namespace WorkerBindings

/-- A file with its content, or a directory with what lies in it by name. -/
inductive FileTree (α : Type) where
  | file (content : α)
  | directory (entries : List (String × FileTree α))

/-- What lies at a path. -/
inductive FileKind where
  | absent
  | file
  | directory
  deriving Repr, DecidableEq

/-- Why something could not be done at a path. -/
inductive FileFault where
  | missing
  | notDirectory
  | isDirectory
  | nameTooLong
  | nullInPath
  /-- Any other fault, in the words of the system. -/
  | system (reason : String)
  deriving Repr, DecidableEq

/-- The words for a fault. -/
def FileFault.message : FileFault → String
  | .missing => "No such file or directory (os error 2)"
  | .notDirectory => "Not a directory (os error 20)"
  | .isDirectory => "Is a directory (os error 21)"
  | .nameTooLong => "File name too long (os error 36)"
  | .nullInPath => "file name contained an unexpected NUL byte"
  | .system reason => reason

namespace FileTree

variable {α : Type}

/-- The kind of a node that may be absent. -/
def kind : Option (FileTree α) → FileKind
  | none => .absent
  | some (.file _) => .file
  | some (.directory _) => .directory

/-- What lies at a location. -/
def at? : FileTree α → List String → Option (FileTree α)
  | tree, [] => some tree
  | .file _, _ :: _ => none
  | .directory entries, name :: rest =>
    match entries.lookup name with
    | some child => child.at? rest
    | none => none

/-- The entries of a directory with one of them replaced, or added at the end. -/
def putEntry (name : String) (node : FileTree α) :
    List (String × FileTree α) → List (String × FileTree α)
  | [] => [(name, node)]
  | (other, old) :: rest =>
    if name = other then (name, node) :: rest else (other, old) :: putEntry name node rest

/-- The tree with a node put at a location, which needs a directory above it. -/
def put? (node : FileTree α) : FileTree α → List String → Option (FileTree α)
  | _, [] => some node
  | .file _, _ :: _ => none
  | .directory entries, [name] => some (.directory (putEntry name node entries))
  | .directory entries, name :: next :: rest =>
    match entries.lookup name with
    | some child => (put? node child (next :: rest)).map fun child =>
        .directory (putEntry name child entries)
    | none => none

/-- The tree without what lies at a location. -/
def erase : FileTree α → List String → FileTree α
  | tree, [] => tree
  | .file content, _ :: _ => .file content
  | .directory entries, [name] => .directory (entries.filter fun entry => entry.1 != name)
  | .directory entries, name :: next :: rest =>
    match entries.lookup name with
    | some child => .directory (putEntry name (child.erase (next :: rest)) entries)
    | none => .directory entries

/-- Follow the steps of a path from a location. -/
def follow (tree : FileTree α) : List String → List String → Except FileFault (List String)
  | here, [] => .ok here
  | here, step :: rest =>
    match tree.at? here with
    | none => .error .missing
    | some (.file _) => .error .notDirectory
    | some (.directory _) =>
      if step = ".." then tree.follow here.dropLast rest
      else if Path.isOverlong step then .error .nameTooLong
      else if Path.isStep step then tree.follow (here ++ [step]) rest
      else tree.follow here rest

/-- The location that a path leads to from the current directory. There need not be
anything at it. -/
def locate (tree : FileTree α) (current : List String) (path : String) :
    Except FileFault (List String) :=
  if path.isEmpty then .error .missing
  else if Path.hasNull path then .error .nullInPath
  else tree.follow (if Path.isAbsolute path then [] else current) (Path.steps path)

/-- What lies at a path. -/
def find? (tree : FileTree α) (current : List String) (path : String) : Option (FileTree α) :=
  match tree.locate current path with
  | .ok location => tree.at? location
  | .error _ => none

/-- The content of the file at a path. -/
def read (tree : FileTree α) (current : List String) (path : String) : Except FileFault α := do
  let location ← tree.locate current path
  match tree.at? location with
  | some (.file content) => .ok content
  | some (.directory _) => .error .isDirectory
  | none => .error .missing

/-- The tree after a file has been written at a path. -/
def write (tree : FileTree α) (current : List String) (path : String) (content : α) :
    Except FileFault (FileTree α) := do
  let location ← tree.locate current path
  match tree.at? location, put? (.file content) tree location with
  | some (.directory _), _ => .error .isDirectory
  | _, some changed => .ok changed
  | _, none => .error .missing

/-- The tree after the file at a path has been removed. -/
def remove (tree : FileTree α) (current : List String) (path : String) :
    Except FileFault (FileTree α) := do
  let location ← tree.locate current path
  match tree.at? location with
  | some (.file _) => .ok (tree.erase location)
  | some (.directory _) => .error .isDirectory
  | none => .error .missing

/-- Follow steps from a location and make a directory wherever there is nothing. What was made
before a fault stays. -/
def makeSteps (tree : FileTree α) : List String → List String → FileTree α × Except FileFault Unit
  | _, [] => (tree, .ok ())
  | here, step :: rest =>
    if step = ".." then tree.makeSteps here.dropLast rest
    else if Path.isOverlong step then (tree, .error .nameTooLong)
    else if Path.isStep step then
      match tree.at? (here ++ [step]) with
      | some (.directory _) => tree.makeSteps (here ++ [step]) rest
      | some (.file _) => (tree, .error .notDirectory)
      | none =>
        match put? (.directory []) tree (here ++ [step]) with
        | some changed => changed.makeSteps (here ++ [step]) rest
        | none => (tree, .error .missing)
    else tree.makeSteps here rest

/-- The tree after the directory at a path and all those above it have been made. -/
def makeDirectories (tree : FileTree α) (current : List String) (path : String) :
    FileTree α × Except FileFault Unit :=
  if Path.hasNull path then (tree, .error .nullInPath)
  else tree.makeSteps (if Path.isAbsolute path then [] else current) (Path.steps path)

mutual

/-- The tree without the contents of its files. -/
def outline : FileTree α → FileTree Unit
  | .file _ => .file ()
  | .directory entries => .directory (outlineEntries entries)

/-- Entries without the contents of their files. -/
def outlineEntries : List (String × FileTree α) → List (String × FileTree Unit)
  | [] => []
  | (name, tree) :: rest => (name, tree.outline) :: outlineEntries rest

end

mutual

/-- Every file of a tree with the names that lead to it. -/
def contents : FileTree α → List (List String × α)
  | .file content => [([], content)]
  | .directory entries => entriesContents entries

/-- Every file of several entries with the names that lead to it. -/
def entriesContents : List (String × FileTree α) → List (List String × α)
  | [] => []
  | (name, tree) :: rest =>
    tree.contents.map (fun (names, content) => (name :: names, content)) ++ entriesContents rest

end

end FileTree

end WorkerBindings
