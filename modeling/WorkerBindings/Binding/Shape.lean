import WorkerBindings.Binding.Kinds

/-!
# The shape of a declared type

What classification finds out about a type: its name without an awaitable wrapper, its full name,
whether there was a wrapper, and whether it is a collection.
-/

namespace WorkerBindings

/-- The shape of the type of a parameter or result. -/
structure Shape where
  /-- The name with an awaitable wrapper removed. -/
  rawType : String
  /-- The name as declared. -/
  fullType : String
  isAwaitable : Bool
  isEnumerable : Bool
  isAsyncEnumerable : Bool
  deriving Repr, DecidableEq

namespace Shape

/-- A type that is neither wrapped nor a collection. -/
def plain (name : String) : Shape :=
  ⟨name, name, false, false, false⟩

/-- Whether a type is a collection of either kind. -/
def isCollection (shape : Shape) : Bool :=
  shape.isEnumerable || shape.isAsyncEnumerable

/-- The payload hint of the unwrapped type. -/
def hint (shape : Shape) : PayloadHint :=
  PayloadHint.ofTypeName shape.rawType

/-- A shape as a document. -/
def toJson (shape : Shape) : Json :=
  .object [
    ("rawType", .string shape.rawType),
    ("fullType", .string shape.fullType),
    ("isAwaitable", .bool shape.isAwaitable),
    ("isEnumerable", .bool shape.isEnumerable),
    ("isAsyncEnumerable", .bool shape.isAsyncEnumerable)]

/-- The fields of a shape in a document. -/
def fields : List (Decoder.Field Shape) := [
  Decoder.required "rawType" Decoder.string fun value shape => { shape with rawType := value },
  Decoder.required "fullType" Decoder.string fun value shape => { shape with fullType := value },
  Decoder.defaulted "isAwaitable" Decoder.bool fun value shape =>
    { shape with isAwaitable := value },
  Decoder.defaulted "isEnumerable" Decoder.bool fun value shape =>
    { shape with isEnumerable := value },
  Decoder.defaulted "isAsyncEnumerable" Decoder.bool fun value shape =>
    { shape with isAsyncEnumerable := value }]

/-- A shape from a document. -/
def decode (budget : Nat) : Decoder Shape :=
  Decoder.nested budget fun _ => Decoder.record fields (plain "")

end Shape

end WorkerBindings
