import WorkerBindings.Text.Substitution

/-!
# Paths

A path is a text whose steps are separated by slashes. It is kept as it was written: joining appends
text and never simplifies, so that a path is shown to the user in the words in which it was given.
Two paths are the same when their components are, whatever empty steps and single dots lie between
those.
-/

namespace WorkerBindings.Path

/-- The steps of a path, empty ones included. -/
def steps (path : String) : List String :=
  (Text.pieces '/' path.toList).map String.ofList

/-- Whether a path starts at the root of the tree and not at the current directory. -/
def isAbsolute (path : String) : Bool :=
  path.toList.head? == some '/'

/-- Whether a step leads somewhere; an empty step and a single dot do not. -/
def isStep (step : String) : Bool :=
  step != "" && step != "."

/-- Whether a step is longer than the name of a file can be. -/
def isOverlong (step : String) : Bool :=
  255 < step.utf8ByteSize

/-- Whether a path holds the null character, which no path can. -/
def hasNull (path : String) : Bool :=
  path.toList.contains (Char.ofNat 0)

/-- What a path starts with: the root, an explicit current directory, or neither. -/
inductive Anchor where
  | root
  | current
  | bare
  deriving Repr, DecidableEq

/-- The text of an anchor when no steps follow it. -/
def Anchor.text : Anchor → String
  | .root => "/"
  | .current => "."
  | .bare => ""

/-- The text of an anchor when steps follow it. -/
def Anchor.lead : Anchor → String
  | .root => "/"
  | .current => "./"
  | .bare => ""

/-- The anchor of a path and the steps after it. -/
def anchored (path : String) : Anchor × List String :=
  match steps path with
  | "" :: next :: rest => (.root, next :: rest)
  | "." :: rest => (.current, rest)
  | others => (.bare, others)

/-- The parts of a path that decide where it leads. -/
def components (path : String) : Anchor × List String :=
  let (anchor, rest) := anchored path
  (anchor, rest.filter isStep)

/-- Whether two paths have the same components. -/
def same (left right : String) : Bool :=
  components left == components right

/-- The steps up to the last one that leads somewhere. -/
def trimSteps (steps : List String) : List String :=
  (steps.reverse.dropWhile fun step => !isStep step).reverse

/-- An anchor followed by steps, as text. -/
def render (anchor : Anchor) (steps : List String) : String :=
  if steps.isEmpty then anchor.text else anchor.lead ++ String.intercalate "/" steps

/-- The path without its last component. The root and the empty path have none. -/
def parent? (path : String) : Option String :=
  let (anchor, rest) := anchored path
  match (trimSteps rest).reverse with
  | [] => if anchor = .current then some "" else none
  | _ :: before => some (render anchor (trimSteps before.reverse))

/-- The directory that has to exist before a file is written at a path, if the path names one. -/
def directory? (path : String) : Option String :=
  (parent? path).filter fun parent => !parent.isEmpty

/-- The path to something inside a directory; an absolute path inside stands on its own. -/
def join (directory inside : String) : String :=
  if isAbsolute inside then inside
  else if directory.isEmpty || directory.toList.getLast? == some '/' then directory ++ inside
  else directory ++ "/" ++ inside

end WorkerBindings.Path
