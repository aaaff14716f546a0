import WorkerBindings.Record.Manifest

/-!
# Host-side resolution

How a host reads the bindings back out of a record: the structured ones if the record has them, even
if there are none, and the raw ones otherwise. A function needs at least one binding and no two of
one name.
-/

namespace WorkerBindings

/-- A binding as the host sees it. -/
structure ResolvedBinding where
  name : String
  direction : Direction
  bindingType : String
  hint : Option PayloadHint
  properties : Properties
  deriving DecidableEq

/-- Why the bindings of a record cannot be resolved. -/
inductive ResolutionError where
  | malformed
  | noBindings
  | missingDirectionOrType
  | invalidHint (text : String)
  | duplicateName (name : String)
  deriving Repr, DecidableEq

/-- The words for a resolution error. -/
def ResolutionError.message : ResolutionError → String
  | .malformed => "JSON error: the text is not a JSON value"
  | .noBindings => "At least one binding must be declared in a Function."
  | .missingDirectionOrType => "Bindings must declare a direction and type."
  | .invalidHint text => "Invalid DataType for a binding: " ++ text
  | .duplicateName name => s!"Binding '{name}' is declared more than once"

namespace ResolvedBinding

/-- The property of a raw binding that holds its payload hint. -/
def hintKey : String := "dataType"

/-- A JSON value as the text of a property: a string as it is, any other value as JSON text, and
null not at all. -/
def textOf? : Json → Option String
  | .null => none
  | .string text => some text
  | other => some other.compact

/-- The hint that a raw binding states, if it states one. -/
def rawHint? (members : List (String × Json)) : Except ResolutionError (Option PayloadHint) :=
  match members.lookup hintKey with
  | none => .ok none
  | some stated =>
    let text := textOf? stated
    match text.bind PayloadHint.parse? with
    | some hint => .ok (some hint)
    | none => .error (.invalidHint (text.getD ""))

/-- A raw binding from the members of its object. -/
def ofMembers (members : List (String × Json)) : Except ResolutionError ResolvedBinding := do
  let textAt (key : String) : Option String := (members.lookup key).bind textOf?
  let some direction := (textAt directionKey).bind Direction.parse?
    | .error .missingDirectionOrType
  let some bindingType := textAt typeKey
    | .error .missingDirectionOrType
  let hint ← rawHint? members
  let others := members.filter fun member => !(hintKey :: reservedKeys).contains member.1
  let properties := others.filterMap fun member =>
    (textOf? member.2).map fun text => (member.1, text)
  .ok ⟨(textAt nameKey).getD "", direction, bindingType, hint, Properties.ofPairs properties⟩

/-- A raw binding from its JSON text. -/
def ofRawText (text : String) : Except ResolutionError ResolvedBinding :=
  match Decoder.decodeText Decoder.value text with
  | .error _ => .error .malformed
  | .ok (.object members) => ofMembers members
  | .ok _ => .error .missingDirectionOrType

/-- A structured binding, which has to state its hint. -/
def ofStructured (binding : StructuredBinding) : Except ResolutionError ResolvedBinding :=
  match binding.hint with
  | some hint =>
    .ok ⟨binding.name, binding.direction, binding.bindingType, some hint, binding.properties⟩
  | none => .error (.invalidHint "")

end ResolvedBinding

namespace FunctionRecord

/-- The first name that has occurred before it. -/
def firstRepeated? : List String → List String → Option String
  | _, [] => none
  | seen, name :: rest =>
    if seen.contains name then some name else firstRepeated? (name :: seen) rest

/-- Each binding of a record on its own, in order, up to the first that cannot be resolved. -/
def resolveEach (record : FunctionRecord) : Except ResolutionError (List ResolvedBinding) :=
  match record.generatedBindings with
  | some bindings => bindings.mapM ResolvedBinding.ofStructured
  | none => record.rawBindings.mapM ResolvedBinding.ofRawText

/-- The bindings of a record as the host sees them. -/
def resolve (record : FunctionRecord) : Except ResolutionError (List ResolvedBinding) := do
  let bindings ← record.resolveEach
  if bindings.isEmpty then .error .noBindings
  else
    match firstRepeated? [] (bindings.map (·.name)) with
    | some name => .error (.duplicateName name)
    | none => .ok bindings

end FunctionRecord

/-- The functions of a manifest whose bindings cannot be resolved, in order, each
with the reason. -/
def Manifest.failures (manifest : Manifest) : List (String × ResolutionError) :=
  manifest.functions.filterMap fun record =>
    match record.resolve with
    | .ok _ => none
    | .error reason => some (record.name, reason)

end WorkerBindings
