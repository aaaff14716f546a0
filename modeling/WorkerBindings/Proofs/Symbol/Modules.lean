import WorkerBindings.Proofs.Symbol.Attributes
import WorkerBindings.Symbol.Method

/-!
# Symbol documents read back

What the host exports for a module is read back from the text it is written to, be it on one line or
on several. A decoder reads back every value as far as its budget for nesting goes
(`DeclaredType.restores`, `Method.restores`, `WorkerModule.restores`), and the text of a document is
read as that document if it holds no floating-point numbers: `WorkerModule.ofText_toJson` puts the
two together.
-/

namespace WorkerBindings

open Decoder

namespace DeclaredType

mutual

/-- Whether no attribute on a property of a type, or of a type inside it, holds a floating-point
number. -/
def isFloatless : DeclaredType → Bool
  | ⟨_, _, typeArguments, elementType, interfaces, properties⟩ =>
    areFloatless typeArguments && elementIsFloatless elementType && areFloatless interfaces &&
      propertiesAreFloatless properties

/-- The same for an element type. -/
def elementIsFloatless : Option DeclaredType → Bool
  | none => true
  | some element => element.isFloatless

/-- The same for several types. -/
def areFloatless : List DeclaredType → Bool
  | [] => true
  | type :: rest => type.isFloatless && areFloatless rest

/-- The same for a property. -/
def propertyIsFloatless : ResultProperty → Bool
  | ⟨_, type, attributes, _⟩ => type.isFloatless && Attribute.areFloatless attributes

/-- The same for several properties. -/
def propertiesAreFloatless : List ResultProperty → Bool
  | [] => true
  | property :: rest => propertyIsFloatless property && propertiesAreFloatless rest

end

/-- The element type is a member that may be left out, as others are. -/
theorem toJson_eq (type : DeclaredType) : type.toJson = .object (
    [("name", .string type.name)] ++
    Json.optional "definition" .string type.definition ++
    Json.nonEmpty "typeArguments" (listToJson type.typeArguments) ++
    Json.optional "elementType" toJson type.elementType ++
    Json.nonEmpty "interfaces" (listToJson type.interfaces) ++
    Json.nonEmpty "properties" (propertiesToJson type.properties)) := by
  obtain ⟨name, definition, typeArguments, elementType, interfaces, properties⟩ := type
  cases elementType <;> rw [toJson] <;> rfl

mutual

/-- The document of a type without floating-point numbers holds none either. -/
theorem toJson_isIntegral : ∀ type : DeclaredType, type.isFloatless = true →
    type.toJson.IsIntegral
  | ⟨name, definition, typeArguments, elementType, interfaces, properties⟩, floatless => by
    simp only [isFloatless, Bool.and_eq_true] at floatless
    obtain ⟨⟨⟨inArguments, inElement⟩, inInterfaces⟩, inProperties⟩ := floatless
    have append := @Json.membersAreIntegral_append
    have list := @Json.membersAreIntegral_nonEmpty
    have first : Json.MembersAreIntegral [("name", .string name)] := ⟨trivial, trivial⟩
    rw [toJson_eq]
    exact append (append (append (append (append first (Json.membersAreIntegral_optionalText _ _))
      (list (listToJson_areIntegral typeArguments inArguments) _))
      (Json.membersAreIntegral_optional (elementToJson_isIntegral elementType inElement) _))
      (list (listToJson_areIntegral interfaces inInterfaces) _))
      (list (propertiesToJson_areIntegral properties inProperties) _)

/-- The document of an element type without floating-point numbers holds none either. -/
theorem elementToJson_isIntegral : ∀ elementType : Option DeclaredType,
    elementIsFloatless elementType = true →
      ∀ element, elementType = some element → element.toJson.IsIntegral
  | none, _, _, stated => by cases stated
  | some element, floatless, _, rfl => toJson_isIntegral element floatless

/-- The documents of several types without floating-point numbers hold none either. -/
theorem listToJson_areIntegral : ∀ types : List DeclaredType, areFloatless types = true →
    Json.AreIntegral (listToJson types)
  | [], _ => trivial
  | type :: rest, floatless => by
    rw [areFloatless, Bool.and_eq_true] at floatless
    exact ⟨toJson_isIntegral type floatless.1, listToJson_areIntegral rest floatless.2⟩

/-- The document of a property without floating-point numbers holds none either. -/
theorem propertyToJson_isIntegral : ∀ property : ResultProperty,
    propertyIsFloatless property = true → (propertyToJson property).IsIntegral
  | ⟨name, type, attributes, location⟩, floatless => by
    rw [propertyIsFloatless, Bool.and_eq_true] at floatless
    have append := @Json.membersAreIntegral_append
    have stated : Json.MembersAreIntegral [("name", .string name), ("type", type.toJson)] :=
      ⟨trivial, toJson_isIntegral type floatless.1, trivial⟩
    rw [propertyToJson]
    exact append (append stated (Json.membersAreIntegral_nonEmpty
      (Attribute.listToJson_areIntegral attributes floatless.2) _))
      (Json.membersAreIntegral_optionalText _ _)

/-- The documents of several properties without floating-point numbers hold none either. -/
theorem propertiesToJson_areIntegral : ∀ properties : List ResultProperty,
    propertiesAreFloatless properties = true → Json.AreIntegral (propertiesToJson properties)
  | [], _ => trivial
  | property :: rest, floatless => by
    rw [propertiesAreFloatless, Bool.and_eq_true] at floatless
    exact ⟨propertyToJson_isIntegral property floatless.1,
      propertiesToJson_areIntegral rest floatless.2⟩

end

theorem nodup_fields (budget : Nat) :
    ((fields (decode budget) (decodeList budget) (decodeProperties budget)).map (·.key)).Nodup := by
  change ["name", "definition", "typeArguments", "elementType", "interfaces", "properties"].Nodup
  decide

theorem nodup_propertyFields (budget : Nat) :
    ((propertyFields budget (decode budget)).map (·.key)).Nodup := by
  change ["name", "type", "annotations", "location"].Nodup
  decide

theorem listToJson_eq_nil {types : List DeclaredType} (empty : listToJson types = []) :
    types = [] := by
  cases types with
  | nil => rfl
  | cons first rest => cases empty

theorem propertiesToJson_eq_nil {properties : List ResultProperty}
    (empty : propertiesToJson properties = []) : properties = [] := by
  cases properties with
  | nil => rfl
  | cons first rest => cases empty

theorem ofJson_toJson_ne_null (type : DeclaredType) : Reading.ofJson type.toJson ≠ .null := by
  rw [toJson_eq]
  exact Reading.noConfusion

mutual

/-- A type is read back. -/
theorem restores : ∀ type : DeclaredType, Restores decode type.toJson type
  | ⟨name, definition, typeArguments, elementType, interfaces, properties⟩ => by
    have arguments := restores_list typeArguments
    have inside := restores_element elementType
    have implemented := restores_list interfaces
    have annotated := restores_properties properties
    rw [toJson_eq, ← List.append_nil (Json.nonEmpty "properties" _)]
    simp only [List.append_assoc, List.cons_append, List.nil_append]
    refine .record (fun _ => rfl) nodup_fields fun budget enough => ?_
    simp only [Json.membersDepth_cons, Json.membersDepth_append, Nat.max_le] at enough
    obtain ⟨_, _, argumentsFit, elementFits, interfacesFit, propertiesFit, _⟩ := enough
    refine .required rfl ?_
    refine .optional rfl (fun _ => Reading.noConfusion) (fun _ _ => rfl) ?_
    refine .nonEmpty rfl listToJson_eq_nil arguments argumentsFit ?_
    refine .optional rfl ofJson_toJson_ne_null (fun element stated => ?_) ?_
    · refine inside element stated budget ?_
      simpa [stated, Json.optional] using elementFits
    refine .nonEmpty rfl listToJson_eq_nil implemented interfacesFit ?_
    exact .nonEmpty rfl propertiesToJson_eq_nil annotated propertiesFit (.done _)

/-- An element type is read back. -/
theorem restores_element : ∀ (elementType : Option DeclaredType) (element : DeclaredType),
    elementType = some element → Restores decode element.toJson element
  | none, _, stated => by cases stated
  | some element, _, rfl => restores element

/-- Several types are read back. -/
theorem restores_list : ∀ types : List DeclaredType,
    Restores decodeList (.array (listToJson types)) types
  | [] => .nil fun _ => rfl
  | type :: rest => .cons (fun _ => rfl) (restores type) (restores_list rest)

/-- A property is read back. -/
theorem restores_property : ∀ property : ResultProperty,
    Restores decodeProperty (propertyToJson property) property
  | ⟨name, type, attributes, location⟩ => by
    have ofType := restores type
    rw [propertyToJson]
    simp only [List.cons_append, List.nil_append]
    refine .record (fun _ => rfl) nodup_propertyFields fun budget enough => ?_
    simp only [Json.membersDepth_cons, Json.membersDepth_append, Nat.max_le] at enough
    obtain ⟨_, typeFits, attributesFit, _⟩ := enough
    refine .required rfl (.required (ofType budget typeFits) ?_)
    refine .nonEmpty rfl Attribute.listToJson_eq_nil (Attribute.restores_list attributes)
      attributesFit ?_
    exact .optionalLast rfl (fun _ => Reading.noConfusion) fun _ _ => rfl

/-- Several properties are read back. -/
theorem restores_properties : ∀ properties : List ResultProperty,
    Restores decodeProperties (.array (propertiesToJson properties)) properties
  | [] => .nil fun _ => rfl
  | property :: rest =>
    .cons (fun _ => rfl) (restores_property property) (restores_properties rest)

end

end DeclaredType

namespace Parameter

/-- Whether neither the type of a parameter nor its attributes hold a floating-point number. -/
def isFloatless (parameter : Parameter) : Bool :=
  parameter.type.isFloatless && Attribute.areFloatless parameter.attributes

theorem toJson_isIntegral {parameter : Parameter} (floatless : parameter.isFloatless = true) :
    parameter.toJson.IsIntegral := by
  rw [isFloatless, Bool.and_eq_true] at floatless
  have append := @Json.membersAreIntegral_append
  have stated : Json.MembersAreIntegral
      [("name", .string parameter.name), ("type", parameter.type.toJson)] :=
    ⟨trivial, parameter.type.toJson_isIntegral floatless.1, trivial⟩
  exact append (append stated (Json.membersAreIntegral_nonEmpty
    (Attribute.listToJson_areIntegral _ floatless.2) _)) (Json.membersAreIntegral_optionalText _ _)

theorem nodup_fields (budget : Nat) : ((fields budget).map (·.key)).Nodup := by
  change ["name", "type", "annotations", "location"].Nodup
  decide

/-- A parameter is read back. -/
theorem restores (parameter : Parameter) : Restores decode parameter.toJson parameter := by
  rw [toJson]
  simp only [List.cons_append, List.nil_append]
  refine .record (fun _ => rfl) nodup_fields fun budget enough => ?_
  simp only [Json.membersDepth_cons, Json.membersDepth_append, Nat.max_le] at enough
  obtain ⟨_, typeFits, attributesFit, _⟩ := enough
  refine .required rfl (.required (parameter.type.restores budget typeFits) ?_)
  refine .nonEmpty rfl Attribute.listToJson_eq_nil (Attribute.restores_list _) attributesFit ?_
  exact .optionalLast rfl (fun _ => Reading.noConfusion) fun _ _ => rfl

end Parameter

namespace Method

/-- Whether no attribute of a method, of its parameters or in its types holds a floating-point
number. -/
def isFloatless (method : Method) : Bool :=
  Attribute.areFloatless method.attributes && method.parameters.all (·.isFloatless) &&
    method.returnType.isFloatless

theorem toJson_isIntegral {method : Method} (floatless : method.isFloatless = true) :
    method.toJson.IsIntegral := by
  rw [isFloatless, Bool.and_eq_true, Bool.and_eq_true, List.all_eq_true] at floatless
  obtain ⟨⟨onMethod, inParameters⟩, inResult⟩ := floatless
  have append := @Json.membersAreIntegral_append
  have list := @Json.membersAreIntegral_nonEmpty
  have named : Json.MembersAreIntegral [("methodName", .string method.methodName),
      ("containingType", .string method.containingType)] := ⟨trivial, trivial, trivial⟩
  have result : Json.MembersAreIntegral
      [("returnType", method.returnType.toJson), ("isAsync", .bool method.isAsync)] :=
    ⟨method.returnType.toJson_isIntegral inResult, trivial, trivial⟩
  have parameters : Json.AreIntegral (method.parameters.map (·.toJson)) :=
    Json.areIntegral_map fun parameter member =>
      Parameter.toJson_isIntegral (inParameters parameter member)
  exact append (append (append (append named
    (list (Attribute.listToJson_areIntegral _ onMethod) _)) (list parameters _)) result)
    (Json.membersAreIntegral_optionalText _ _)

theorem nodup_fields (budget : Nat) : ((fields budget).map (·.key)).Nodup := by
  change ["methodName", "containingType", "annotations", "parameters", "returnType", "isAsync",
    "location"].Nodup
  decide

/-- A method is read back. -/
theorem restores (method : Method) : Restores decode method.toJson method := by
  rw [toJson]
  simp only [List.append_assoc, List.cons_append, List.nil_append]
  refine .record (fun _ => rfl) nodup_fields fun budget enough => ?_
  simp only [Json.membersDepth_cons, Json.membersDepth_append, Nat.max_le] at enough
  obtain ⟨_, _, attributesFit, parametersFit, resultFits, _⟩ := enough
  refine .required rfl (.required rfl ?_)
  refine .nonEmpty rfl Attribute.listToJson_eq_nil (Attribute.restores_list _) attributesFit ?_
  refine .nonEmpty rfl List.map_eq_nil_iff.mp
    (Restores.list fun parameter _ => Parameter.restores parameter) parametersFit ?_
  refine .defaulted (method.returnType.restores budget resultFits) (.defaulted rfl ?_)
  exact .optionalLast rfl (fun _ => Reading.noConfusion) fun _ _ => rfl

end Method

namespace WorkerModule

/-- Whether no attribute in a module holds a floating-point number. -/
def isFloatless (module : WorkerModule) : Bool :=
  module.methods.all (·.isFloatless)

theorem toJson_isIntegral {module : WorkerModule} (floatless : module.isFloatless = true) :
    module.toJson.IsIntegral := by
  rw [isFloatless, List.all_eq_true] at floatless
  have append := @Json.membersAreIntegral_append
  have named : Json.MembersAreIntegral [("assemblyName", .string module.assemblyName)] :=
    ⟨trivial, trivial⟩
  have methods : Json.MembersAreIntegral
      [("functions", .array (module.methods.map (·.toJson)))] :=
    ⟨Json.areIntegral_map fun method member => Method.toJson_isIntegral (floatless method member),
      trivial⟩
  exact append (append named (Json.membersAreIntegral_optionalText _ _)) methods

theorem nodup_fields (budget : Nat) : ((fields budget).map (·.key)).Nodup := by
  change ["assemblyName", "scriptFile", "functions"].Nodup
  decide

/-- A module is read back. -/
theorem restores (module : WorkerModule) : Restores decode module.toJson module := by
  rw [toJson]
  simp only [List.cons_append, List.nil_append]
  refine .record (fun _ => rfl) nodup_fields fun budget enough => ?_
  simp only [Json.membersDepth_cons, Json.membersDepth_append, Nat.max_le] at enough
  obtain ⟨_, _, methodsFit, _⟩ := enough
  have methods := Restores.list (fun method _ => Method.restores method) budget methodsFit
  refine .required rfl (.optional rfl (fun _ => Reading.noConfusion) (fun _ _ => rfl) ?_)
  exact .defaulted methods (.done _)

/-- A module without floating-point arguments is read back from its document, compact or not, if no
more arrays and objects are open in it at one time than may be. -/
theorem ofText_toJson {module : WorkerModule} (floatless : module.isFloatless = true)
    (shallow : module.toJson.depth ≤ 127) :
    ofText module.toJson.compact = .ok module ∧ ofText module.toJson.pretty = .ok module := by
  have integral := toJson_isIntegral floatless
  have decoded := module.restores Decoder.maxNesting shallow
  constructor
  · rw [ofText, decodeText_compact decode integral, decoded]
  · rw [ofText, decodeText_pretty decode integral, decoded]

/-- A module with a nested type, an annotated property, an attribute on an attribute class, and
arguments of every other kind, some of them empty. -/
def everyKind : WorkerModule where
  assemblyName := "Orders"
  methods := [{
    methodName := "Run"
    containingType := "Orders.Functions"
    attributes := [{
      className := "TriggerAttribute"
      interfaces := ["IRetry"]
      classAttributes := [{ className := "BindingAttribute", location := some "Attributes.cs" }]
      arguments := [⟨"nothing", .null⟩, ⟨"none", .array []⟩, ⟨"noMember", .enum "Access" none⟩,
        ⟨"nested", .array [.array [.null], .int (-1), .bool true]⟩]
      namedArguments := [⟨"type", .type "Order"⟩, ⟨"source", .unresolved "nameof(Queue)"⟩,
        ⟨"access", .enum "Access" (some "Listen")⟩, ⟨"text", .string ""⟩] }]
    parameters := [{ name := "order", type := .array (.named "Order") }]
    returnType := {
      name := "Result"
      definition := some "Result"
      properties := [{
        name := "Message"
        type := .generic "List" [.array (.named "string")]
        attributes := [{ className := "QueueOutputAttribute" }] }] } }]

theorem ofText_toJson_everyKind : ofText everyKind.toJson.compact = .ok everyKind ∧
    ofText everyKind.toJson.pretty = .ok everyKind :=
  ofText_toJson (by decide) (by decide)

end WorkerModule

end WorkerBindings
