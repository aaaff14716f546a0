import WorkerBindings.Generator.Http
import WorkerBindings.Proofs.Binding.Lookup
import WorkerBindings.Proofs.Traversal

/-!
# Arguments as properties

Which property a binding has under a key. The reserved keys belong to the request, whatever the
arguments of the attribute are called. A key that no generator gives a meaning of its own belongs to
the arguments: the last one with a text under the key is passed on.
-/

namespace WorkerBindings

/-- The text that an argument has to give under a key. -/
def Argument.textUnder? (key : String) (argument : Argument) : Option String :=
  if Names.camelCase argument.name = key then argument.value.bindingText? else none

/-- What the arguments of an attribute state under a key; the last one counts. -/
def Attribute.stated? (attr : Attribute) (key : String) : Option String :=
  (attr.allArguments.filterMap (Argument.textUnder? key)).getLast?

namespace Generator

/-- No generator gives the key a meaning of its own. -/
structure PassesOn (key : String) : Prop where
  unreserved : reservedKeys.contains key = false
  notBatched : key ≠ batchedKey
  notCardinality : key ≠ cardinalityKey
  notHttp : ∀ name, Names.camelCase name = key →
    Text.sameIgnoringCase name levelKey = false ∧ Text.sameIgnoringCase name methodsKey = false

/-- A camel-cased name keeps all of the name but its first character, so names that differ there
from every name in another case are not such names. -/
theorem sameIgnoringCase_of_camelCase {name key other : String}
    (camel : Names.camelCase name = key)
    (apart : ¬ (other.toList.map Text.asciiLower).tail <:+ key.toList.map Text.asciiLower) :
    Text.sameIgnoringCase name other = false := by
  by_contra same
  have lowered : name.toList.map Text.asciiLower = other.toList.map Text.asciiLower := by
    simpa [Text.sameIgnoringCase] using same
  apply apart
  rw [← lowered, ← camel]
  unfold Names.camelCase
  cases name.toList with
  | nil => exact List.suffix_refl _
  | cons first rest =>
    rw [List.map_cons, List.tail_cons, String.toList_ofList, List.map_append]
    exact List.suffix_append _ _

theorem addArgument_reserved {key : String} (reserved : reservedKeys.contains key = true)
    (request : Request) (state : Properties × List Diagnostic) (argument : Argument) :
    (addArgument request state argument).1.get? key = state.1.get? key := by
  unfold addArgument
  dsimp only
  split
  · rfl
  · rename_i free
    have different : key ≠ Names.camelCase argument.name := by
      intro same
      exact free (same ▸ reserved)
    split
    · rfl
    · split
      · simp [different]
      · rfl

theorem addArgument_passed {key : String} (unreserved : reservedKeys.contains key = false)
    (request : Request) (state : Properties × List Diagnostic) (argument : Argument) :
    (addArgument request state argument).1.get? key =
      (argument.textUnder? key).or (state.1.get? key) := by
  unfold addArgument Argument.textUnder?
  dsimp only
  by_cases same : Names.camelCase argument.name = key
  · rw [same, unreserved, if_pos rfl, if_neg Bool.false_ne_true]
    split
    · rename_i isNull
      simp [isNull, Constant.bindingText?]
    · split
      · rename_i text stated
        simp [stated]
      · rename_i unstated
        simp [unstated]
  · have different : key ≠ Names.camelCase argument.name := Ne.symm same
    rw [if_neg same, Option.none_or]
    split
    · rfl
    · split
      · rfl
      · split
        · simp [different]
        · rfl

theorem entries_reserved {key : String} (reserved : reservedKeys.contains key = true)
    (request : Request) : (entries request).1.get? key = (reservedEntries request).get? key := by
  have kept : ∀ (arguments : List Argument) (state : Properties × List Diagnostic),
      (arguments.foldl (addArgument request) state).1.get? key = state.1.get? key := by
    intro arguments
    induction arguments with
    | nil => exact fun _ => rfl
    | cons argument rest ih =>
      intro state
      rw [List.foldl_cons, ih, addArgument_reserved reserved]
  exact kept request.attr.allArguments (reservedEntries request, [])

theorem reservedEntries_get? {key : String} (unreserved : reservedKeys.contains key = false)
    (request : Request) : (reservedEntries request).get? key = none := by
  simp only [reservedKeys, List.contains_cons, List.contains_nil, Bool.or_eq_false_iff,
    beq_eq_false_iff_ne] at unreserved
  simp [reservedEntries, Properties.ofPairs, Properties.insertAll, unreserved]

theorem entries_passed {key : String} (unreserved : reservedKeys.contains key = false)
    (request : Request) : (entries request).1.get? key = request.attr.stated? key := by
  have last : ∀ (arguments : List Argument) (state : Properties × List Diagnostic),
      (arguments.foldl (addArgument request) state).1.get? key =
        (arguments.filterMap (Argument.textUnder? key)).getLast?.or (state.1.get? key) := by
    intro arguments
    induction arguments with
    | nil => exact fun _ => rfl
    | cons argument rest ih =>
      intro state
      rw [List.foldl_cons, ih, addArgument_passed unreserved]
      cases stated : argument.textUnder? key with
      | none => rw [List.filterMap_cons_none stated, Option.none_or]
      | some text =>
        rw [List.filterMap_cons_some stated, List.getLast?_cons, Option.some_or, Option.some_or]
        cases (rest.filterMap (Argument.textUnder? key)).getLast? <;> rfl
  refine (last request.attr.allArguments (reservedEntries request, [])).trans ?_
  rw [reservedEntries_get? unreserved, Option.or_none]
  rfl

theorem withCardinality_get? {key : String} (notBatched : key ≠ batchedKey)
    (notCardinality : key ≠ cardinalityKey) (request : Request) (entries : Properties) :
    (withCardinality request entries).2.1.get? key = entries.get? key := by
  simp only [withCardinality, Properties.get?_insert, notCardinality, if_false]
  exact Properties.get?_erase notBatched entries

/-- Batches are stated under keys of their own. -/
theorem draft_get? {key : String} (notBatched : key ≠ batchedKey)
    (notCardinality : key ≠ cardinalityKey) (request : Request) (capabilities : Capabilities) :
    (draft request capabilities).entries.get? key = (entries request).1.get? key := by
  unfold draft
  dsimp only
  split
  · exact withCardinality_get? notBatched notCardinality request _
  · rfl

/-- No argument of an attribute changes a reserved property. -/
theorem draft_reserved {key : String} (reserved : reservedKeys.contains key = true)
    (request : Request) (capabilities : Capabilities) :
    (draft request capabilities).entries.get? key = (reservedEntries request).get? key := by
  have notBatched : key ≠ batchedKey := by
    rintro rfl
    revert reserved
    decide
  have notCardinality : key ≠ cardinalityKey := by
    rintro rfl
    revert reserved
    decide
  exact (draft_get? notBatched notCardinality request capabilities).trans
    (entries_reserved reserved request)

/-- A key without a meaning of its own has what the arguments state. -/
theorem draft_passed {key : String} (passesOn : PassesOn key) (request : Request)
    (capabilities : Capabilities) :
    (draft request capabilities).entries.get? key = request.attr.stated? key :=
  (draft_get? passesOn.notBatched passesOn.notCardinality request capabilities).trans
    (entries_passed passesOn.unreserved request)

/-- Normalization changes the arguments of an attribute and nothing else. -/
theorem normalize_eq_ok {attr normal : Attribute} (normalized : normalize attr = .ok normal) :
    ∃ arguments namedArguments, attr.arguments.mapM normalArgument = .ok arguments ∧
      attr.namedArguments.mapM normalArgument = .ok namedArguments ∧
      normal = { attr with
        arguments := arguments.filter isKept
        namedArguments := namedArguments.filter isKept } := by
  unfold normalize at normalized
  cases positional : attr.arguments.mapM normalArgument with
  | error argument => simp [positional, bind, Except.bind] at normalized
  | ok arguments =>
    cases named : attr.namedArguments.mapM normalArgument with
    | error argument => simp [positional, named, bind, Except.bind] at normalized
    | ok namedArguments =>
      simp only [positional, named, bind, Except.bind, Except.ok.injEq] at normalized
      exact ⟨_, _, rfl, rfl, normalized.symm⟩

/-- An argument in its normal form gives the same text under a key that is passed on. -/
theorem normalArgument_passed {key : String} (passesOn : PassesOn key)
    {argument normal : Argument} (normalized : normalArgument argument = .ok normal) :
    (if isKept normal then normal.textUnder? key else none) = argument.textUnder? key := by
  by_cases same : Names.camelCase argument.name = key
  · obtain ⟨notLevel, notMethods⟩ := passesOn.notHttp argument.name same
    simp only [normalArgument, notLevel, notMethods, Bool.false_eq_true, if_false,
      Except.ok.injEq] at normalized
    subst normalized
    simp [isKept, notMethods]
  · have sameName : normal.name = argument.name := by
      unfold normalArgument at normalized
      split at normalized
      · split at normalized <;> cases normalized
        rfl
      · split at normalized
        · split at normalized <;> cases normalized
          rfl
        · cases normalized
          rfl
    simp [Argument.textUnder?, sameName, same]

theorem normalArguments_passed {key : String} (passesOn : PassesOn key)
    {arguments normal : List Argument} (normalized : arguments.mapM normalArgument = .ok normal) :
    (normal.filter isKept).filterMap (Argument.textUnder? key) =
      arguments.filterMap (Argument.textUnder? key) := by
  rw [mapM_eq_ok_iff] at normalized
  rw [List.filterMap_filter]
  induction normalized with
  | nil => rfl
  | cons first others ih =>
    rw [List.filterMap_cons, List.filterMap_cons, ih, normalArgument_passed passesOn first]

/-- An attribute in its normal form states the same under a key that is passed on. -/
theorem normalize_passed {key : String} (passesOn : PassesOn key) {attr normal : Attribute}
    (normalized : normalize attr = .ok normal) : normal.stated? key = attr.stated? key := by
  obtain ⟨arguments, namedArguments, positional, named, rfl⟩ := normalize_eq_ok normalized
  unfold Attribute.stated? Attribute.allArguments
  rw [List.filterMap_append, List.filterMap_append, normalArguments_passed passesOn positional,
    normalArguments_passed passesOn named]

end Generator

end WorkerBindings
