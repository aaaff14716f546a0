import WorkerBindings.Files.Tree
import WorkerBindings.Record.Manifest

/-!
# Documents in a tree of files

Which files below a directory are documents of a kind. They are told by the ending of their names
and listed in the order of their paths, compared name by name. A search for symbol documents passes
by everything whose name starts with a dot; a search for manifests looks everywhere.
-/

namespace WorkerBindings.Discovery

variable {α : Type}

/-- The ending of the file name of a symbol document. -/
def moduleSuffix : String := ".symbols.json"

/-- Whether a name is hidden. -/
def isHidden (name : String) : Bool :=
  name.toList.head? == some '.'

/-- Whether the last of several names ends with a suffix. -/
def isNamed (suffix : String) (names : List String) : Bool :=
  match names.getLast? with
  | some name => Text.endsWith name.toList suffix.toList
  | none => false

mutual

/-- The names that lead to each file of a tree through entries that may be entered. -/
def filesBelow (mayEnter : String → Bool) : FileTree α → List (List String)
  | .file _ => [[]]
  | .directory entries => filesIn mayEnter entries

/-- The names that lead to each file of several entries. -/
def filesIn (mayEnter : String → Bool) : List (String × FileTree α) → List (List String)
  | [] => []
  | (name, tree) :: rest =>
    (if mayEnter name then (filesBelow mayEnter tree).map (name :: ·) else []) ++
      filesIn mayEnter rest

end

/-- Whether the first of two paths comes before the second or equals it, compared name by name. -/
def precedes : List String → List String → Bool
  | [], _ => true
  | _ :: _, [] => false
  | left :: lefts, right :: rights =>
    left < right || (left == right && precedes lefts rights)

/-- The path to a file below a directory. -/
def pathBelow (directory : String) (names : List String) : String :=
  names.foldl Path.join directory

/-- The documents in a directory, given by the entries of the directory. -/
def documentsIn (mayEnter : String → Bool) (suffix directory : String)
    (entries : List (String × FileTree α)) : List String :=
  let found := (filesIn mayEnter entries).filter (isNamed suffix)
  (found.mergeSort precedes).map (pathBelow directory)

/-- The symbol documents at a path: a file stands for itself, whatever its name is. -/
def modules (path : String) : Option (FileTree α) → List String
  | some (.file _) => [path]
  | some (.directory entries) =>
    documentsIn (fun name => !isHidden name) moduleSuffix path entries
  | none => []

/-- The manifests at a path: all that is not a directory stands for itself, whether it exists or
not. -/
def manifests (path : String) : Option (FileTree α) → List String
  | some (.directory entries) => documentsIn (fun _ => true) Manifest.fileSuffix path entries
  | _ => [path]

end WorkerBindings.Discovery
