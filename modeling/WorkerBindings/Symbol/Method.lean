import WorkerBindings.Symbol.DeclaredType

/-!
# Methods and modules

What the host exports: for each module its assembly name, the script file it is loaded from, and
every method that may be a function.
-/

namespace WorkerBindings

/-- A parameter of a method. -/
structure Parameter where
  name : String
  type : DeclaredType
  attributes : List Attribute := []
  location : Option String := none

/-- A method that may be a function. -/
structure Method where
  methodName : String
  /-- The qualified type that contains the method. -/
  containingType : String
  attributes : List Attribute := []
  parameters : List Parameter := []
  returnType : DeclaredType := DeclaredType.void
  isAsync : Bool := false
  location : Option String := none

/-- All that the host exports for one module. -/
structure WorkerModule where
  assemblyName : String
  scriptFile : Option String := none
  methods : List Method := []

namespace Parameter

/-- A parameter as a document. -/
def toJson (parameter : Parameter) : Json :=
  .object (
    [("name", .string parameter.name), ("type", parameter.type.toJson)] ++
    Json.nonEmpty "annotations" (Attribute.listToJson parameter.attributes) ++
    Json.optional "location" .string parameter.location)

/-- The fields of a parameter in a document. -/
def fields (budget : Nat) : List (Decoder.Field Parameter) := [
  Decoder.required "name" Decoder.string fun value parameter => { parameter with name := value },
  Decoder.required "type" (DeclaredType.decode budget) fun value parameter =>
    { parameter with type := value },
  Decoder.defaulted "annotations" (Attribute.decodeList budget) fun value parameter =>
    { parameter with attributes := value },
  Decoder.defaulted "location" (Decoder.optional Decoder.string) fun value parameter =>
    { parameter with location := value }]

/-- A parameter from a document. -/
def decode (budget : Nat) : Decoder Parameter :=
  Decoder.nested budget fun inner =>
    Decoder.record (fields inner) { name := "", type := DeclaredType.named "" }

end Parameter

namespace Method

/-- A method as a document; its result and the `async` flag are always stated. -/
def toJson (method : Method) : Json :=
  .object (
    [("methodName", .string method.methodName),
      ("containingType", .string method.containingType)] ++
    Json.nonEmpty "annotations" (Attribute.listToJson method.attributes) ++
    Json.nonEmpty "parameters" (method.parameters.map (·.toJson)) ++
    [("returnType", method.returnType.toJson), ("isAsync", .bool method.isAsync)] ++
    Json.optional "location" .string method.location)

/-- The fields of a method in a document. -/
def fields (budget : Nat) : List (Decoder.Field Method) := [
  Decoder.required "methodName" Decoder.string fun value method =>
    { method with methodName := value },
  Decoder.required "containingType" Decoder.string fun value method =>
    { method with containingType := value },
  Decoder.defaulted "annotations" (Attribute.decodeList budget) fun value method =>
    { method with attributes := value },
  Decoder.defaulted "parameters" (Decoder.list budget Parameter.decode) fun value method =>
    { method with parameters := value },
  Decoder.defaulted "returnType" (DeclaredType.decode budget) fun value method =>
    { method with returnType := value },
  Decoder.defaulted "isAsync" Decoder.bool fun value method => { method with isAsync := value },
  Decoder.defaulted "location" (Decoder.optional Decoder.string) fun value method =>
    { method with location := value }]

/-- A method from a document. -/
def decode (budget : Nat) : Decoder Method :=
  Decoder.nested budget fun inner =>
    Decoder.record (fields inner) { methodName := "", containingType := "" }

end Method

namespace WorkerModule

/-- A module as a document. -/
def toJson (module : WorkerModule) : Json :=
  .object (
    [("assemblyName", .string module.assemblyName)] ++
    Json.optional "scriptFile" .string module.scriptFile ++
    [("functions", .array (module.methods.map (·.toJson)))])

/-- The fields of a module in a document. -/
def fields (budget : Nat) : List (Decoder.Field WorkerModule) := [
  Decoder.required "assemblyName" Decoder.string fun value module =>
    { module with assemblyName := value },
  Decoder.defaulted "scriptFile" (Decoder.optional Decoder.string) fun value module =>
    { module with scriptFile := value },
  Decoder.defaulted "functions" (Decoder.list budget Method.decode) fun value module =>
    { module with methods := value }]

/-- A module from a document. -/
def decode (budget : Nat) : Decoder WorkerModule :=
  Decoder.nested budget fun inner => Decoder.record (fields inner) { assemblyName := "" }

/-- A module from the text of a symbol document. -/
def ofText (text : String) : Except DecodeError WorkerModule :=
  Decoder.decodeText decode text

end WorkerModule

end WorkerBindings
