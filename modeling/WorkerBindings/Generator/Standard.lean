import WorkerBindings.Generator.Basic

/-!
# The standard generator

Any attribute can be turned into a binding: its name, type and direction, then its arguments under
camel-cased keys. Where the class allows batches, the argument `isBatched` becomes the entry
`cardinality`. The payload hint is that of the target type, or of its element type if the binding is
batched.
-/

namespace WorkerBindings.Generator

/-- The argument that asks for batches. -/
def batchedKey : String := "isBatched"

/-- The entry that states how many items a call receives. -/
def cardinalityKey : String := "cardinality"

/-- The entries that every binding starts with. -/
def reservedEntries (request : Request) : Properties :=
  Properties.ofPairs [
    (nameKey, request.target.name),
    (typeKey, request.attr.tag),
    (directionKey, request.role.direction.name)]

/-- Add one argument to the entries, or report that it has no text. Reserved names and null are
passed over. -/
def addArgument (request : Request) (state : Properties × List Diagnostic) (argument : Argument) :
    Properties × List Diagnostic :=
  let key := Names.camelCase argument.name
  if reservedKeys.contains key then state
  else
    match argument.value with
    | .null => state
    | value =>
      match value.bindingText? with
      | some text => (state.1.insert key text, state.2)
      | none =>
        (state.1, state.2 ++ [Diagnostic.report .invalidArgument request.location
          [argument.name, request.target.name]])

/-- The entries of a binding before batches are looked at, and the arguments that have no text. -/
def entries (request : Request) : Properties × List Diagnostic :=
  request.attr.allArguments.foldl (addArgument request) (reservedEntries request, [])

/-- What an `isBatched` entry asks for, if it can be read. -/
def batchedFlag? (text : String) : Option Bool :=
  if Text.sameIgnoringCase text "true" then some true
  else if Text.sameIgnoringCase text "false" then some false
  else none

/-- Replace `isBatched` by `cardinality`; the first part of the answer says whether the binding is
batched. -/
def withCardinality (request : Request) (entries : Properties) :
    Bool × Properties × List Diagnostic :=
  let stated := (entries.get? batchedKey).map batchedFlag?
  let batched := stated == some (some true)
  let diagnostics :=
    if stated == some none then [Diagnostic.report .symbolNotFound request.location ["bool value"]]
    else []
  (batched, (entries.erase batchedKey).insert cardinalityKey (if batched then "Many" else "One"),
    diagnostics)

/-- What the name and arguments of an attribute say about its binding. -/
structure Draft where
  entries : Properties
  batched : Bool
  diagnostics : List Diagnostic

/-- The draft of a binding whose class has some capabilities. -/
def draft (request : Request) (capabilities : Capabilities) : Draft :=
  let (plain, unserializable) := entries request
  if capabilities.supportsCardinality then
    let (batched, entries, unreadable) := withCardinality request plain
    ⟨entries, batched, unserializable ++ unreadable⟩
  else ⟨plain, false, unserializable⟩

/-- The payload hint of a target with a shape. -/
def payloadHint (request : Request) (batched : Bool) (shape : Shape) :
    Except ShapeError PayloadHint :=
  if batched then
    (request.target.type.batchedElement shape).map fun element =>
      PayloadHint.ofTypeName element.name
  else .ok shape.hint

/-- The binding of a draft whose target has a shape, or the reason why there is none. -/
def bindingOf (request : Request) (capabilities : Capabilities) (draft : Draft) (shape : Shape) :
    Except Diagnostic Binding :=
  if request.role ≠ .output ∧ shape.isAwaitable then
    .error (Diagnostic.report .invalidBindingType request.location
      ["Task, ValueTask, Task<T>, ValueTask<T>", "input trigger"])
  else
    match payloadHint request draft.batched shape with
    | .error reason => .error (reason.diagnostic request.location)
    | .ok hint =>
      .ok {
        name := request.target.name
        role := request.role
        declaredType := shape
        hint
        retrySupported := capabilities.supportsRetry
        isParsable := hint ≠ .undefined
        properties := draft.entries }

/-- The output for a draft whose target has been classified. -/
def finish (request : Request) (capabilities : Capabilities)
    (classified : Except ShapeError Shape) : Output :=
  let draft := draft request capabilities
  match classified with
  | .error reason => ⟨[], draft.diagnostics ++ [reason.diagnostic request.location]⟩
  | .ok shape =>
    match bindingOf request capabilities draft shape with
    | .error diagnostic => ⟨[], draft.diagnostics ++ [diagnostic]⟩
    | .ok binding => ⟨[binding], draft.diagnostics⟩

/-- The generator for every attribute that has none of its own. -/
def standard : Generator := fun request => do
  let capabilities ← SymbolCache.capabilitiesOf request.attr
  let classified ← SymbolCache.classify request.target.type
  pure (finish request capabilities classified)

end WorkerBindings.Generator
