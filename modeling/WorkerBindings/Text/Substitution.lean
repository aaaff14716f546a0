/-!
# Cutting and replacing inside a text

Substitution works from the left on occurrences that do not overlap, and never looks again at the
text it has put in. Cutting at a separator keeps empty pieces.
-/

namespace WorkerBindings.Text

/-- What follows `pattern` at the front of `characters`. -/
def afterPattern? : List Char → List Char → Option (List Char)
  | [], rest => some rest
  | _ :: _, [] => none
  | expected :: pattern, found :: rest =>
    if expected = found then afterPattern? pattern rest else none

/-- `substitute pattern replacement characters pending` replaces the occurrences of `pattern` from
the left. The first `pending` characters belong to an occurrence that is already replaced and are
dropped. -/
def substitute (pattern replacement : List Char) : List Char → Nat → List Char
  | [], _ => []
  | _ :: rest, pending + 1 => substitute pattern replacement rest pending
  | character :: rest, 0 =>
    match afterPattern? pattern (character :: rest) with
    | some _ => replacement ++ substitute pattern replacement rest (pattern.length - 1)
    | none => character :: substitute pattern replacement rest 0

/-- `text` with every occurrence of the non-empty `pattern` replaced. -/
def replaceAll (text pattern replacement : String) : String :=
  String.ofList (substitute pattern.toList replacement.toList text.toList 0)

/-- The pieces of a text between its separators, empty ones included; there is always
at least one. -/
def pieces (separator : Char) : List Char → List (List Char)
  | [] => [[]]
  | character :: rest =>
    if character = separator then [] :: pieces separator rest
    else
      match pieces separator rest with
      | [] => [[character]]
      | piece :: others => (character :: piece) :: others

/-- The parts of a text before and after its first separator. -/
def cutAtFirst? (separator : Char) : List Char → Option (List Char × List Char)
  | [] => none
  | character :: rest =>
    if character = separator then some ([], rest)
    else (cutAtFirst? separator rest).map fun (before, after) => (character :: before, after)

/-- The parts of a text before and after the first occurrence of a pattern. -/
def cutAtPattern? (pattern : List Char) : List Char → Option (List Char × List Char)
  | [] => (afterPattern? pattern []).map fun after => ([], after)
  | character :: rest =>
    match afterPattern? pattern (character :: rest) with
    | some after => some ([], after)
    | none => (cutAtPattern? pattern rest).map fun (before, after) => (character :: before, after)

/-- Whether `characters` ends with `suffix`. -/
def endsWith (characters suffix : List Char) : Bool :=
  suffix.reverse.isPrefixOf characters.reverse

end WorkerBindings.Text
