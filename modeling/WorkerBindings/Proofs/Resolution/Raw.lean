import WorkerBindings.Proofs.Generator.Outputs
import WorkerBindings.Proofs.Json.Values
import WorkerBindings.Resolution

/-!
# Raw bindings read back

The raw text of a binding that fits a request is read back by a host with the name of the binding.
The one thing that can go wrong is a property under the key of the payload hint, which an attribute
argument of that name leaves there: it has to be a hint that the host knows.
-/

namespace WorkerBindings

/-- The property that a host takes for the payload hint is a hint, if there is such a property. -/
def Binding.HintReadable (binding : Binding) : Prop :=
  ∀ text, binding.properties.get? ResolvedBinding.hintKey = some text →
    (PayloadHint.parse? text).isSome = true

/-- What the arguments state under the key that a host takes for the payload hint is a hint, if they
state anything there. -/
def Attribute.HintReadable (attr : Attribute) : Prop :=
  ∀ text, attr.stated? ResolvedBinding.hintKey = some text →
    (PayloadHint.parse? text).isSome = true

theorem passesOn_hintKey : Generator.PassesOn ResolvedBinding.hintKey where
  unreserved := by decide
  notBatched := by decide
  notCardinality := by decide
  notHttp _ camel :=
    ⟨Generator.sameIgnoringCase_of_camelCase camel (by decide),
      Generator.sameIgnoringCase_of_camelCase camel (by decide)⟩

/-- The generators pass on whatever an attribute states as the payload hint. -/
theorem Binding.Fits.hintReadable_iff {binding : Binding} {request : Request}
    (fits : binding.Fits request) : binding.HintReadable ↔ request.attr.HintReadable := by
  unfold Binding.HintReadable Attribute.HintReadable
  rw [fits.passedOn ResolvedBinding.hintKey passesOn_hintKey]

theorem Direction.parse?_name (direction : Direction) :
    Direction.parse? direction.name = some direction := by
  cases direction <;> decide +kernel

namespace ResolvedBinding

/-- The members of the raw text of a binding, as a host finds them. -/
def membersOf (binding : Binding) : List (String × Json) :=
  Decoder.insertTexts binding.properties.entries []

theorem lookup_membersOf (binding : Binding) (key : String) :
    (membersOf binding).lookup key = (binding.properties.get? key).map .string := by
  rw [membersOf, Decoder.lookup_insertTexts binding.properties.distinct]
  unfold Properties.get?
  cases binding.properties.entries.lookup key <;> rfl

theorem ofRawText_rawText (binding : Binding) :
    ofRawText binding.rawText = ofMembers (membersOf binding) := by
  have text : binding.rawText =
      (Json.object (Json.textMembers binding.properties.entries)).compact := rfl
  unfold ofRawText
  rw [text, Decoder.decodeText_texts]
  rfl

/-- A hint is read exactly if the binding has a readable one or none. -/
theorem rawHint?_isOk_iff (binding : Binding) :
    (∃ hint, rawHint? (membersOf binding) = .ok hint) ↔ binding.HintReadable := by
  unfold rawHint? Binding.HintReadable
  rw [lookup_membersOf]
  cases stated : binding.properties.get? hintKey with
  | none => simp
  | some text =>
    simp only [Option.map_some, textOf?, Option.bind_some, Option.some.injEq, forall_eq']
    cases PayloadHint.parse? text with
    | none => simp
    | some hint => simp

/-- The members of an object that have a text. -/
def textsOf (members : List (String × Json)) : List (String × String) :=
  members.filterMap fun member => (textOf? member.2).map fun text => (member.1, text)

/-- The properties that a host finds in the raw text of a binding. -/
def rawProperties (binding : Binding) : List (String × String) :=
  textsOf ((membersOf binding).filter fun member => !(hintKey :: reservedKeys).contains member.1)

/-- What a host finds in the raw text of a binding, provided that it can read the hint. -/
theorem ofRawText_of_fits {binding : Binding} {request : Request} (fits : binding.Fits request) :
    ofRawText binding.rawText = (rawHint? (membersOf binding)).map fun hint =>
      ⟨request.target.name, request.role.direction, request.attr.tag, hint,
        Properties.ofPairs (rawProperties binding)⟩ := by
  have textAt : ∀ {key value}, binding.properties.get? key = some value →
      ((membersOf binding).lookup key).bind textOf? = some value := by
    intro key value stated
    rw [lookup_membersOf, stated]
    rfl
  rw [ofRawText_rawText]
  unfold ofMembers
  simp only [textAt fits.statedName, textAt fits.statedType, textAt fits.statedDirection,
    Option.bind_some, Direction.parse?_name]
  cases rawHint? (membersOf binding) <;> rfl

/-- A host reads the raw text of a binding exactly if it can read its hint, and finds the name of
the binding there. -/
theorem ofRawText_fits {binding : Binding} {request : Request} (fits : binding.Fits request) :
    ((∃ resolved, ofRawText binding.rawText = .ok resolved) ↔ binding.HintReadable) ∧
      ∀ resolved, ofRawText binding.rawText = .ok resolved → resolved.name = binding.name := by
  rw [ofRawText_of_fits fits, ← rawHint?_isOk_iff]
  cases rawHint? (membersOf binding) with
  | error reason => simp [Except.map]
  | ok hint =>
    simp only [Except.map, Except.ok.injEq, exists_eq']
    refine ⟨trivial, ?_⟩
    rintro resolved rfl
    exact fits.name.symm

end ResolvedBinding

end WorkerBindings
