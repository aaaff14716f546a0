import WorkerBindings.Json.Decoder
import WorkerBindings.Text.Blank
import WorkerBindings.Text.Caseless

/-!
# Roles, directions and payload hints

The three small vocabularies of a binding: what it is for its function, which way data flows, and
what kind of payload the host should expect. Hosts write directions and hints in any case and with
blank characters around them.
-/

namespace WorkerBindings

/-- The first of several cases whose name is the trimmed text in any case. -/
def caseNamed? {α : Type} (cases : List (String × α)) (text : String) : Option α :=
  (cases.find? fun (name, _) => Text.sameIgnoringCase name (Text.trim text)).map Prod.snd

/-- The way in which data flows through a binding. -/
inductive Direction where
  | inward
  | outward
  | both
  deriving Repr, DecidableEq

namespace Direction

/-- The directions by name. -/
def cases : List (String × Direction) :=
  [("In", .inward), ("Out", .outward), ("InOut", .both)]

/-- The name of a direction. -/
def name : Direction → String
  | .inward => "In"
  | .outward => "Out"
  | .both => "InOut"

/-- A direction as a host writes it. -/
def parse? (text : String) : Option Direction :=
  caseNamed? cases text

/-- A direction in a document, by its exact name. -/
def decode (budget : Nat) : Decoder Direction :=
  Decoder.oneOf budget cases

end Direction

/-- The coarse payload type that is reported to the host. -/
inductive PayloadHint where
  | string
  | binary
  | undefined
  deriving Repr, DecidableEq

namespace PayloadHint

/-- The hints by name. -/
def cases : List (String × PayloadHint) :=
  [("String", .string), ("Binary", .binary), ("Undefined", .undefined)]

/-- The name of a hint. -/
def name : PayloadHint → String
  | .string => "String"
  | .binary => "Binary"
  | .undefined => "Undefined"

/-- The hint for a type, by its exact display name. -/
def ofTypeName (typeName : String) : PayloadHint :=
  if typeName = "string" ∨ typeName = "string[]" then .string
  else if typeName = "byte" ∨ typeName = "byte[]" ∨ typeName = "byte[][]" ∨
      typeName = "System.ReadOnlyMemory<byte>" then .binary
  else .undefined

/-- A hint as a host writes it. -/
def parse? (text : String) : Option PayloadHint :=
  caseNamed? cases text

/-- A hint in a document, by its exact name. -/
def decode (budget : Nat) : Decoder PayloadHint :=
  Decoder.oneOf budget cases

end PayloadHint

/-- What a binding is for its function. -/
inductive Role where
  | trigger
  | input
  | output
  deriving Repr, DecidableEq

namespace Role

/-- The roles by name. -/
def cases : List (String × Role) :=
  [("trigger", .trigger), ("input", .input), ("output", .output)]

/-- The name of a role. -/
def name : Role → String
  | .trigger => "trigger"
  | .input => "input"
  | .output => "output"

/-- The direction of a binding that does not state one. -/
def direction : Role → Direction
  | .trigger => .inward
  | .input => .inward
  | .output => .outward

end Role

end WorkerBindings
