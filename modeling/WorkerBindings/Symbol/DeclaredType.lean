import WorkerBindings.Symbol.Attribute

/-!
# Declared types

A type as it stands at one declaration: its display name, its generic definition and arguments, its
element type if it is an array, all its interfaces, and for results its properties with their
attributes.
-/

namespace WorkerBindings

mutual

/-- A type at one declaration. -/
structure DeclaredType where
  /-- The display name, type arguments included. -/
  name : String
  /-- The qualified generic definition without type arguments. -/
  definition : Option String := none
  typeArguments : List DeclaredType := []
  /-- The element type of an array. -/
  elementType : Option DeclaredType := none
  /-- Every interface that the type implements, directly or not. -/
  interfaces : List DeclaredType := []
  properties : List ResultProperty := []

/-- A property of a result type, which may be annotated as an output. -/
structure ResultProperty where
  name : String
  type : DeclaredType
  attributes : List Attribute := []
  location : Option String := none

end

namespace DeclaredType

/-- A type of which only the name is known. -/
def named (name : String) : DeclaredType :=
  { name }

/-- The type of a method without a result. -/
def void : DeclaredType :=
  named Names.void

/-- A generic definition applied to type arguments. -/
def generic (definition : String) (typeArguments : List DeclaredType) : DeclaredType :=
  { name := definition ++ "<" ++ String.intercalate ", " (typeArguments.map (·.name)) ++ ">"
    definition := some definition
    typeArguments }

/-- An array, which is enumerable with and without an element type. -/
def array (element : DeclaredType) : DeclaredType :=
  { name := element.name ++ "[]"
    elementType := some element
    interfaces := [named Names.enumerable, generic Names.genericEnumerable [element]] }

/-- The generic definition if it is known, else the display name. -/
def definitionName (type : DeclaredType) : String :=
  type.definition.getD type.name

/-- Whether the type is an array. -/
def isArray (type : DeclaredType) : Bool :=
  type.elementType.isSome

/-- The type argument of a type that is a definition applied to exactly one. -/
def argumentOf? (type : DeclaredType) (definition : String) : Option DeclaredType :=
  match type.typeArguments with
  | [argument] => if type.definitionName = definition then some argument else none
  | _ => none

/-- Whether one of the interfaces has a definition. -/
def implements (type : DeclaredType) (definition : String) : Bool :=
  type.interfaces.any fun interface => interface.definitionName == definition

/-- The type itself and its interfaces, as far as they are a definition applied to one argument. -/
def implementations (type : DeclaredType) (definition : String) : List DeclaredType :=
  (type :: type.interfaces).filter fun candidate => (candidate.argumentOf? definition).isSome

mutual

/-- A type as a document; empty parts are left out. -/
def toJson : DeclaredType → Json
  | ⟨name, definition, typeArguments, elementType, interfaces, properties⟩ =>
    .object (
      [("name", .string name)] ++
      Json.optional "definition" .string definition ++
      Json.nonEmpty "typeArguments" (listToJson typeArguments) ++
      (match elementType with
        | some element => [("elementType", element.toJson)]
        | none => []) ++
      Json.nonEmpty "interfaces" (listToJson interfaces) ++
      Json.nonEmpty "properties" (propertiesToJson properties))

/-- Several types as documents. -/
def listToJson : List DeclaredType → List Json
  | [] => []
  | type :: rest => type.toJson :: listToJson rest

/-- A property as a document. -/
def propertyToJson : ResultProperty → Json
  | ⟨name, type, attributes, location⟩ =>
    .object (
      [("name", .string name), ("type", type.toJson)] ++
      Json.nonEmpty "annotations" (Attribute.listToJson attributes) ++
      Json.optional "location" .string location)

/-- Several properties as documents. -/
def propertiesToJson : List ResultProperty → List Json
  | [] => []
  | property :: rest => propertyToJson property :: propertiesToJson rest

end

/-- The fields of a type in a document, given decoders for the types and properties inside it. -/
def fields (inner : Decoder DeclaredType) (types : Decoder (List DeclaredType))
    (properties : Decoder (List ResultProperty)) : List (Decoder.Field DeclaredType) := [
  Decoder.required "name" Decoder.string fun value type => { type with name := value },
  Decoder.defaulted "definition" (Decoder.optional Decoder.string) fun value type =>
    { type with definition := value },
  Decoder.defaulted "typeArguments" types fun value type => { type with typeArguments := value },
  Decoder.defaulted "elementType" (Decoder.optional inner) fun value type =>
    { type with elementType := value },
  Decoder.defaulted "interfaces" types fun value type => { type with interfaces := value },
  Decoder.defaulted "properties" properties fun value type => { type with properties := value }]

/-- The fields of a property in a document, given a decoder for its type. -/
def propertyFields (budget : Nat) (inner : Decoder DeclaredType) :
    List (Decoder.Field ResultProperty) := [
  Decoder.required "name" Decoder.string fun value property => { property with name := value },
  Decoder.required "type" inner fun value property => { property with type := value },
  Decoder.defaulted "annotations" (Attribute.decodeList budget) fun value property =>
    { property with attributes := value },
  Decoder.defaulted "location" (Decoder.optional Decoder.string) fun value property =>
    { property with location := value }]

mutual

/-- A type from a document. -/
def decode : Nat → Decoder DeclaredType
  | 0 => Decoder.refuse
  | budget + 1 =>
    Decoder.record (fields (decode budget) (decodeList budget) (decodeProperties budget)) (named "")

/-- Several types from a document. -/
def decodeList : Nat → Decoder (List DeclaredType)
  | 0 => Decoder.refuse
  | budget + 1 => Decoder.items (decode budget)

/-- A property from a document. -/
def decodeProperty : Nat → Decoder ResultProperty
  | 0 => Decoder.refuse
  | budget + 1 =>
    Decoder.record (propertyFields budget (decode budget)) { name := "", type := named "" }

/-- Several properties from a document. -/
def decodeProperties : Nat → Decoder (List ResultProperty)
  | 0 => Decoder.refuse
  | budget + 1 => Decoder.items (decodeProperty budget)

end

end DeclaredType

end WorkerBindings
