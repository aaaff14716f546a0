import WorkerBindings.Binding.Properties
import WorkerBindings.Binding.Shape

/-!
# Bindings

A binding ties one input or output of a function to a resource. Its properties hold all that the
host reads, the name, type and direction included. The structured form lifts those three out of the
properties.
-/

namespace WorkerBindings

/-- The property that names a binding. -/
def nameKey : String := "name"

/-- The property that holds the type of a binding. -/
def typeKey : String := "type"

/-- The property that holds the direction of a binding. -/
def directionKey : String := "direction"

/-- The properties that every binding has and that no attribute argument can set. -/
def reservedKeys : List String :=
  [nameKey, typeKey, directionKey]

/-- A binding with its reserved properties in fields of their own. -/
structure StructuredBinding where
  name : String
  direction : Direction
  bindingType : String
  hint : Option PayloadHint
  properties : Properties
  deriving DecidableEq

namespace StructuredBinding

/-- A structured binding as a document; it shows properties only if there are some. -/
def toJson (binding : StructuredBinding) : Json :=
  .object ([
    ("name", .string binding.name),
    ("direction", .string binding.direction.name),
    ("bindingType", .string binding.bindingType)] ++
    Json.optional "dataType" (fun hint => .string hint.name) binding.hint ++
    if binding.properties.isEmpty then [] else [("properties", binding.properties.toJson)])

/-- The fields of a structured binding in a document. -/
def fields (budget : Nat) : List (Decoder.Field StructuredBinding) := [
  Decoder.required "name" Decoder.string fun value binding => { binding with name := value },
  Decoder.required "direction" (Direction.decode budget) fun value binding =>
    { binding with direction := value },
  Decoder.required "bindingType" Decoder.string fun value binding =>
    { binding with bindingType := value },
  Decoder.defaulted "dataType" (Decoder.optional (PayloadHint.decode budget)) fun value binding =>
    { binding with hint := value },
  Decoder.defaulted "properties" (Properties.decode budget) fun value binding =>
    { binding with properties := value }]

/-- A structured binding from a document. -/
def decode (budget : Nat) : Decoder StructuredBinding :=
  Decoder.nested budget fun inner =>
    Decoder.record (fields inner) ⟨"", .inward, "", none, Properties.empty⟩

end StructuredBinding

/-- One binding of a function. -/
structure Binding where
  name : String
  role : Role
  declaredType : Shape
  hint : PayloadHint
  /-- Whether failed calls may be repeated by the host. -/
  retrySupported : Bool
  /-- Whether the payload type is known well enough for the structured form. -/
  isParsable : Bool
  properties : Properties
  deriving DecidableEq

namespace Binding

/-- A binding whose hint is that of its declared type. -/
def ofShape (name : String) (role : Role) (declaredType : Shape) (properties : Properties) :
    Binding :=
  ⟨name, role, declaredType, declaredType.hint, false, true, properties⟩

/-- The type that the host sees, empty if the properties do not state it. -/
def bindingType (binding : Binding) : String :=
  (binding.properties.get? typeKey).getD ""

/-- The stated direction, or that of the role if none is stated that can be read. -/
def direction (binding : Binding) : Direction :=
  ((binding.properties.get? directionKey).bind Direction.parse?).getD binding.role.direction

/-- All properties as compact JSON text. -/
def rawText (binding : Binding) : String :=
  binding.properties.text

/-- The structured form. -/
def structured (binding : Binding) : StructuredBinding where
  name := binding.name
  direction := binding.direction
  bindingType := binding.bindingType
  hint := some binding.hint
  properties := binding.properties.without reservedKeys

end Binding

end WorkerBindings
