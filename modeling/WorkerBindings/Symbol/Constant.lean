import WorkerBindings.Json.Decoder
import WorkerBindings.Json.Text
import WorkerBindings.Text.Blank

/-!
# Constants

The values that attribute arguments can have. A document states the kind of a constant beside its
value. A constant can become the text of a binding entry unless it holds, at any depth, a null, an
enumeration value without a member, or an expression that the host could not evaluate.
-/

namespace WorkerBindings

/-- The value of an attribute argument. -/
inductive Constant where
  | null
  | string (text : String)
  | int (value : Int64)
  | float (value : Double)
  | bool (value : Bool)
  /-- A type, by its display name. -/
  | type (name : String)
  /-- An enumeration value; no member has the value if `member` is `none`. -/
  | enum (typeName : String) (member : Option String)
  | array (items : List Constant)
  /-- The source text of an expression that the host could not evaluate. -/
  | unresolved (source : String)
  deriving Repr

namespace Constant

mutual

/-- The text that stands for a constant among the entries of a binding. -/
def bindingText? : Constant → Option String
  | .null => none
  | .string text => some text
  | .int value => some (Text.ofInt value.toInt)
  | .float value => some value.plainText
  | .bool value => some (if value then "true" else "false")
  | .type name => some name
  | .enum _ member => member
  | .array items => (bindingTexts? items).map fun texts => (Json.strings texts).compact
  | .unresolved _ => none

/-- The texts of several constants, if each has one. -/
def bindingTexts? : List Constant → Option (List String)
  | [] => some []
  | item :: rest => do
    let text ← item.bindingText?
    let texts ← bindingTexts? rest
    some (text :: texts)

end

/-- The text of a string constant. -/
def text? : Constant → Option String
  | .string text => some text
  | _ => none

/-- The value of an integer constant, or of a string that holds a signed 64-bit integer. -/
def int? : Constant → Option Int
  | .int value => some value.toInt
  | .string text => Text.int? Text.int64Min Text.int64Max (Text.trimCharacters text.toList)
  | _ => none

/-- The kinds of constant. -/
inductive Kind where
  | null
  | string
  | int
  | float
  | bool
  | type
  | enum
  | array
  | unresolved
  deriving Repr, DecidableEq

/-- The kinds by name. -/
def Kind.cases : List (String × Kind) := [
  ("null", .null), ("string", .string), ("int", .int), ("float", .float), ("bool", .bool),
  ("type", .type), ("enum", .enum), ("array", .array), ("unresolved", .unresolved)]

/-- The member that states the kind. -/
def kindKey : String := "kind"

/-- The member that holds the value. -/
def valueKey : String := "value"

/-- A kind and a value as a document. -/
def tagged (kind : String) (value : Json) : Json :=
  .object [(kindKey, .string kind), (valueKey, value)]

mutual

/-- A constant as a document. -/
def toJson : Constant → Json
  | .null => .object [(kindKey, .string "null")]
  | .string text => tagged "string" (.string text)
  | .int value => tagged "int" (.int value.toInt)
  | .float value => tagged "float" (.number (.double value))
  | .bool value => tagged "bool" (.bool value)
  | .type name => tagged "type" (.string name)
  | .enum typeName member =>
    tagged "enum" (.object [("typeName", .string typeName), ("member", Json.stringOrNull member)])
  | .array items => tagged "array" (.array (listToJson items))
  | .unresolved source => tagged "unresolved" (.string source)

/-- Several constants as documents. -/
def listToJson : List Constant → List Json
  | [] => []
  | item :: rest => item.toJson :: listToJson rest

end

/-- The fields of an enumeration value in a document. -/
def enumFields : List (Decoder.Field (String × Option String)) := [
  Decoder.required "typeName" Decoder.string fun typeName (_, member) => (typeName, member),
  Decoder.defaulted "member" (Decoder.optional Decoder.string) fun member (typeName, _) =>
    (typeName, member)]

/-- An enumeration value, which is always an object. -/
def decodeEnum (budget : Nat) : Decoder Constant :=
  Decoder.nested budget fun _ reading =>
    match reading with
    | .object members =>
      (Decoder.record enumFields ("", none) (.object members)).map fun (typeName, member) =>
        .enum typeName member
    | _ => .error .malformed

/-- The constant of a kind with a value. `items` decodes the value of an array. -/
def ofValue (budget : Nat) (items : Decoder (List Constant)) (kind : Kind) : Decoder Constant :=
  fun reading =>
    match kind with
    | .null =>
      match reading with
      | .null => .ok .null
      | _ => .error .malformed
    | .string => (Decoder.string reading).map .string
    | .int => (Decoder.int64 reading).map .int
    | .float => (Decoder.double reading).map .float
    | .bool => (Decoder.bool reading).map .bool
    | .type => (Decoder.string reading).map .type
    | .enum => decodeEnum budget reading
    | .array => (items reading).map .array
    | .unresolved => (Decoder.string reading).map .unresolved

/-- Whether a member has a given key. -/
def hasKey (key : String) (member : Option String × Reading) : Bool :=
  member.1 == some key

/-- A constant from the members of an object: one that states the kind, at most one with the value,
and any others. A value in front of its kind is read before its meaning is known, so that all of it
has to be readable; the constant `null` needs no value. -/
def ofMembers (budget : Nat) (items : Decoder (List Constant))
    (members : List (Option String × Reading)) : Except DecodeError Constant :=
  let others := members.filter fun member => !hasKey kindKey member && !hasKey valueKey member
  if others.all fun member => member.1.isSome && !member.2.hasCut then
    match members.filter (hasKey kindKey), members.filter (hasKey valueKey) with
    | [(_, kind)], [] => do
      let kind ← Decoder.oneOf budget Kind.cases kind
      if kind = .null then .ok .null else .error .malformed
    | [(_, kind)], [(_, value)] => do
      let first := members.find? fun member => hasKey kindKey member || hasKey valueKey member
      let kindFirst := first.any (hasKey kindKey)
      if kindFirst || (Decoder.value budget value).isOk then
        let kind ← Decoder.oneOf budget Kind.cases kind
        ofValue budget items kind value
      else .error .malformed
    | _, _ => .error .malformed
  else .error .malformed

/-- A constant from an object, or from an array of its kind and its value. -/
def decodeWith (budget : Nat) (items : Decoder (List Constant)) : Decoder Constant
  | .object members => ofMembers budget items members
  | .array [kind, value] => do
    let kind ← Decoder.oneOf budget Kind.cases kind
    ofValue budget items kind value
  | _ => .error .malformed

mutual

/-- A constant from a document. -/
def decode : Nat → Decoder Constant
  | 0 => Decoder.refuse
  | budget + 1 => decodeWith budget (decodeItems budget)

/-- Several constants from a document. -/
def decodeItems : Nat → Decoder (List Constant)
  | 0 => Decoder.refuse
  | budget + 1 => Decoder.items (decode budget)

end

end Constant

end WorkerBindings
