import WorkerBindings.Text.Substitution

/-!
# Command-line arguments

Arguments are read level by level: the program's own flags up to the name of a command, then the
flags and operands of that command, which may have commands of its own. A flag is given by its long
name, or by its letter in a cluster of letters; its value follows after an equals sign, as the rest
of the cluster, or as the next argument. Two hyphens on their own end the flags of a level.
-/

namespace WorkerBindings.CommandLine

/-- A flag that may be given. -/
structure Flag where
  long : String
  letter : Option Char := none
  takesValue : Bool := false
  /-- Whether its value may be empty. -/
  mayBeEmpty : Bool := true
  /-- Whether it may be given several times on one level. -/
  mayRepeat : Bool := false
  deriving Repr, DecidableEq

/-- Something that was given on a level. -/
inductive Item where
  | flag (long : String)
  | value (long text : String)
  | operand (text : String)
  deriving Repr, DecidableEq

/-- Why arguments do not lead to a command. -/
inductive Halt where
  | misuse
  | helpWanted
  | versionWanted
  deriving Repr, DecidableEq

/-- What was given on a level, and the command that ended it together with the
arguments after that. -/
abbrev Level := List Item × Option (String × List String)

/-- The flag that asks for help. -/
def helpFlag : Flag := { long := "help", letter := some 'h' }

/-- The flag that asks for the version. -/
def versionFlag : Flag := { long := "version", letter := some 'V' }

/-- Whether an argument is a flag or a cluster, and not an operand. -/
def looksLikeFlag (argument : String) : Bool :=
  argument.toList.head? == some '-' && argument != "-"

/-- Give a flag, provided that it may be given once more after those that were. -/
def give (flag : Flag) (seen : List String) : Except Halt Item :=
  if flag = helpFlag then .error .helpWanted
  else if flag = versionFlag then .error .versionWanted
  else if seen.contains flag.long && !flag.mayRepeat then .error .misuse
  else .ok (.flag flag.long)

/-- Give a flag with its value. -/
def giveValue (flag : Flag) (seen : List String) (text : String) : Except Halt Item :=
  if (seen.contains flag.long && !flag.mayRepeat) || (text.isEmpty && !flag.mayBeEmpty) then
    .error .misuse
  else .ok (.value flag.long text)

/-- What a cluster of letters gives, and the flag at its end that still wants a value. -/
def readCluster (flags : List Flag) (seen : List String) :
    List Char → Except Halt (List Item × Option Flag)
  | [] => .ok ([], none)
  | letter :: rest =>
    match flags.find? fun flag => flag.letter == some letter with
    | none => .error .misuse
    | some flag =>
      if flag.takesValue then
        match rest with
        | [] => .ok ([], some flag)
        | '=' :: text => (giveValue flag seen (String.ofList text)).map fun item => ([item], none)
        | text => (giveValue flag seen (String.ofList text)).map fun item => ([item], none)
      else do
        let item ← give flag seen
        let (items, open?) ← readCluster flags (flag.long :: seen) rest
        .ok (item :: items, open?)

/-- A long flag taken apart: its name, and the value after its equals sign. -/
def cutLong (characters : List Char) : String × Option String :=
  match Text.cutAtFirst? '=' characters with
  | some (name, text) => (String.ofList name, some (String.ofList text))
  | none => (String.ofList characters, none)

/-- The names of the flags that items give. -/
def namesOf (items : List Item) : List String :=
  items.filterMap fun item =>
    match item with
    | .flag long => some long
    | .value long _ => some long
    | .operand _ => none

/-- What a flag argument gives, and the flag that still wants the next argument as its value. -/
def readFlag (flags : List Flag) (seen : List String) (argument : List Char) :
    Except Halt (List Item × Option Flag) :=
  match argument with
  | '-' :: '-' :: long =>
    let (name, text) := cutLong long
    match flags.find? fun flag => flag.long == name with
    | none => .error .misuse
    | some flag =>
      match flag.takesValue, text with
      | true, some text => (giveValue flag seen text).map fun item => ([item], none)
      | true, none => .ok ([], some flag)
      | false, some _ => .error .misuse
      | false, none => (give flag seen).map fun item => ([item], none)
  | '-' :: letters => readCluster flags seen letters
  | _ => .error .misuse

/-- Read one level; `ended` says that its flags are over. -/
def readLevel (flags : List Flag) (commands : List String) (seen : List String) (ended : Bool) :
    List String → Except Halt Level
  | [] => .ok ([], none)
  | argument :: rest =>
    if ended then do
      let (items, next) ← readLevel flags commands seen true rest
      .ok (.operand argument :: items, next)
    else if argument = "--" then readLevel flags commands seen true rest
    else if looksLikeFlag argument then do
      match ← readFlag flags seen argument.toList, rest with
      | (given, none), rest => do
        let (items, next) ← readLevel flags commands (namesOf given ++ seen) false rest
        .ok (given ++ items, next)
      | (given, some flag), text :: rest => do
        if looksLikeFlag text then .error .misuse
        else
          let item ← giveValue flag seen text
          let (items, next) ←
            readLevel flags commands (flag.long :: (namesOf given ++ seen)) false rest
          .ok (given ++ item :: items, next)
      | (_, some _), [] => .error .misuse
    else if commands.contains argument then .ok ([], some (argument, rest))
    else if commands.isEmpty then do
      let (items, next) ← readLevel flags commands seen false rest
      .ok (.operand argument :: items, next)
    else .error .misuse

/-- The operands among items. -/
def operands (items : List Item) : List String :=
  items.filterMap fun item =>
    match item with
    | .operand text => some text
    | _ => none

/-- How often a flag is given. -/
def count (long : String) (items : List Item) : Nat :=
  (namesOf items).count long

/-- Whether a flag is given. -/
def has (long : String) (items : List Item) : Bool :=
  (namesOf items).contains long

/-- The value that a flag is given. -/
def valueOf? (long : String) (items : List Item) : Option String :=
  items.findSome? fun item =>
    match item with
    | .value name text => if name == long then some text else none
    | _ => none

end WorkerBindings.CommandLine
