import WorkerBindings.Binding.Shape
import WorkerBindings.Diagnostic
import WorkerBindings.Symbol.DeclaredType

/-!
# Classification of types

The shape of a type follows from its name, one awaitable wrapper around it, and its interfaces. A
wrapper is looked through once; a wrapper around a collection that arrives over time has no shape.
The element type of a batched binding has to be the only one of its name among all candidates.
-/

namespace WorkerBindings

/-- Why a type cannot have the shape that a binding needs. -/
inductive ShapeError where
  /-- An awaitable wrapper around a collection that arrives over time. -/
  | awaitedAsyncEnumerable (fullType : String)
  /-- A collection of several element types. -/
  | ambiguousElement (interface : String)
  /-- A batched binding of something that is no collection. -/
  | notACollection (typeName : String)
  deriving Repr, DecidableEq

/-- The report of a shape error. -/
def ShapeError.diagnostic (location : Option String) : ShapeError → Diagnostic
  | .awaitedAsyncEnumerable fullType =>
    Diagnostic.report .invalidBindingType location [fullType, "return"]
  | .ambiguousElement interface =>
    Diagnostic.report .invalidBindingType location
      [s!"more than 1 implementation of {interface}", "batched trigger"]
  | .notACollection typeName => Diagnostic.report .invalidCardinality location [typeName]

namespace DeclaredType

/-- The type inside an awaitable wrapper. -/
def awaited? (type : DeclaredType) : Option DeclaredType :=
  Names.awaitableWrappers.findSome? type.argumentOf?

/-- The type itself, or what is inside its awaitable wrapper. -/
def unwrapped (type : DeclaredType) : DeclaredType :=
  type.awaited?.getD type

/-- Whether the type is a collection that is there at once. -/
def isEnumerable (type : DeclaredType) : Bool :=
  type.isArray || type.implements Names.enumerable

/-- Whether the type is a collection that arrives over time. -/
def isAsyncEnumerable (type : DeclaredType) : Bool :=
  !(type.implementations Names.asyncEnumerable).isEmpty

/-- The shape of a type. -/
def shape (type : DeclaredType) : Except ShapeError Shape :=
  if type.name = Names.void ∨ type.name = Names.string then .ok (Shape.plain type.name)
  else if Names.awaitableWrappers.contains type.name then
    .ok { Shape.plain type.name with isAwaitable := true }
  else
    match type.awaited? with
    | some inner =>
      if inner.isAsyncEnumerable then .error (.awaitedAsyncEnumerable type.name)
      else
        .ok {
          rawType := inner.name
          fullType := type.name
          isAwaitable := true
          isEnumerable := inner.isEnumerable
          isAsyncEnumerable := false }
    | none =>
      .ok { Shape.plain type.name with
        isEnumerable := type.isEnumerable
        isAsyncEnumerable := type.isAsyncEnumerable }

/-- The first type of each name, given the names that have been seen. -/
def firstOfEachName : List String → List DeclaredType → List DeclaredType
  | _, [] => []
  | seen, type :: rest =>
    if seen.contains type.name then firstOfEachName seen rest
    else type :: firstOfEachName (type.name :: seen) rest

/-- The element types that a collection has through an interface, one of each name. -/
def elements (type : DeclaredType) (interface : String) : List DeclaredType :=
  firstOfEachName [] ((type.implementations interface).filterMap (·.argumentOf? interface))

/-- The only element type that a collection has through an interface. -/
def singleElement (type : DeclaredType) (interface : String) : Except ShapeError DeclaredType :=
  match type.elements interface with
  | [element] => .ok element
  | [] => .error (.notACollection type.name)
  | _ => .error (.ambiguousElement interface)

/-- The type of one item of a batched binding. `shape` is the shape of the whole type. -/
def batchedElement (type : DeclaredType) (shape : Shape) : Except ShapeError DeclaredType :=
  let raw := type.unwrapped
  if shape.isAsyncEnumerable then raw.singleElement Names.asyncEnumerable
  else if shape.isEnumerable then
    match raw.elementType with
    | some element => .ok element
    | none => raw.singleElement Names.genericEnumerable
  else .error (.notACollection raw.name)

end DeclaredType

end WorkerBindings
