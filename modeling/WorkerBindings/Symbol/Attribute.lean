import WorkerBindings.Symbol.Constant
import WorkerBindings.Symbol.Names
import WorkerBindings.Text.Caseless

/-!
# Attributes

One occurrence of an attribute together with what is known about its class: its bases, its
interfaces and the attributes on the class itself. Arguments are found by name without regard to
ASCII case, those of the constructor before the named ones.
-/

namespace WorkerBindings

/-- An argument of an attribute. The name of a constructor argument is that of its parameter. -/
structure Argument where
  name : String
  value : Constant
  deriving Repr

/-- One attribute on a method, parameter, property or attribute class. -/
structure Attribute where
  className : String
  namespaceName : Option String := none
  /-- The qualified base classes. -/
  baseTypes : List String := []
  /-- The qualified interfaces of the class. -/
  interfaces : List String := []
  /-- The attributes on the attribute class itself. -/
  classAttributes : List Attribute := []
  /-- The arguments of the constructor. -/
  arguments : List Argument := []
  namedArguments : List Argument := []
  location : Option String := none
  deriving Repr

namespace Attribute

/-- The class name with its namespace. -/
def qualifiedName (attr : Attribute) : String :=
  Names.qualify attr.namespaceName attr.className

/-- Whether the class has exactly this namespace and name. -/
def isClass (attr : Attribute) (namespaceName className : String) : Bool :=
  attr.className == className && attr.namespaceName == some namespaceName

/-- The tag that selects a generator and becomes the type of bindings. -/
def tag (attr : Attribute) : String :=
  Names.typeTag attr.className

/-- Whether the class derives from a base. -/
def inheritsFrom (attr : Attribute) (base : String) : Bool :=
  attr.baseTypes.contains base

/-- Whether the class implements an interface. -/
def implements (attr : Attribute) (interface : String) : Bool :=
  attr.interfaces.contains interface

/-- All arguments, those of the constructor first. -/
def allArguments (attr : Attribute) : List Argument :=
  attr.arguments ++ attr.namedArguments

/-- The value of the first argument with a name. -/
def argument? (attr : Attribute) (name : String) : Option Constant :=
  (attr.allArguments.find? fun argument => Text.sameIgnoringCase argument.name name).map
    (·.value)

/-- An argument as a document; `key` is the member that holds its name. -/
def argumentToJson (key : String) (argument : Argument) : Json :=
  .object [(key, .string argument.name), ("value", argument.value.toJson)]

mutual

/-- An attribute as a document; empty parts are left out. -/
def toJson : Attribute → Json
  | ⟨className, namespaceName, baseTypes, interfaces, classAttributes, arguments, namedArguments,
      location⟩ =>
    .object (
      [("className", .string className)] ++
      Json.optional "namespace" .string namespaceName ++
      Json.nonEmpty "baseTypes" (baseTypes.map .string) ++
      Json.nonEmpty "interfaces" (interfaces.map .string) ++
      Json.nonEmpty "classAnnotations" (listToJson classAttributes) ++
      Json.nonEmpty "arguments" (arguments.map (argumentToJson "parameter")) ++
      Json.nonEmpty "namedArguments" (namedArguments.map (argumentToJson "name")) ++
      Json.optional "location" .string location)

/-- Several attributes as documents. -/
def listToJson : List Attribute → List Json
  | [] => []
  | attr :: rest => attr.toJson :: listToJson rest

end

/-- The fields of an argument in a document. -/
def argumentFields (budget : Nat) (key : String) : List (Decoder.Field Argument) := [
  Decoder.required key Decoder.string fun value argument => { argument with name := value },
  Decoder.required "value" (Constant.decode budget) fun value argument =>
    { argument with value := value }]

/-- An argument from a document. -/
def decodeArgument (key : String) (budget : Nat) : Decoder Argument :=
  Decoder.nested budget fun inner => Decoder.record (argumentFields inner key) ⟨"", .null⟩

/-- The fields of an attribute in a document. `attributes` decodes those on its class. -/
def fields (budget : Nat) (attributes : Decoder (List Attribute)) :
    List (Decoder.Field Attribute) := [
  Decoder.required "className" Decoder.string fun value attr =>
    { attr with className := value },
  Decoder.defaulted "namespace" (Decoder.optional Decoder.string) fun value attr =>
    { attr with namespaceName := value },
  Decoder.defaulted "baseTypes" (Decoder.list budget fun _ => Decoder.string) fun value attr =>
    { attr with baseTypes := value },
  Decoder.defaulted "interfaces" (Decoder.list budget fun _ => Decoder.string) fun value attr =>
    { attr with interfaces := value },
  Decoder.defaulted "classAnnotations" attributes fun value attr =>
    { attr with classAttributes := value },
  Decoder.defaulted "arguments" (Decoder.list budget (decodeArgument "parameter"))
    fun value attr => { attr with arguments := value },
  Decoder.defaulted "namedArguments" (Decoder.list budget (decodeArgument "name"))
    fun value attr => { attr with namedArguments := value },
  Decoder.defaulted "location" (Decoder.optional Decoder.string) fun value attr =>
    { attr with location := value }]

/-- The attribute that decoding starts from. -/
def blank : Attribute := { className := "" }

mutual

/-- An attribute from a document. -/
def decode : Nat → Decoder Attribute
  | 0 => Decoder.refuse
  | budget + 1 => Decoder.record (fields budget (decodeList budget)) blank

/-- Several attributes from a document. -/
def decodeList : Nat → Decoder (List Attribute)
  | 0 => Decoder.refuse
  | budget + 1 => Decoder.items (decode budget)

end

end Attribute

end WorkerBindings
