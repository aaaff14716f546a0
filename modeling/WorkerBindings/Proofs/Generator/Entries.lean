import WorkerBindings.Proofs.Binding.Order
import WorkerBindings.Proofs.Generator.Arguments

/-!
# The entries of a binding

The entries that the standard generator makes of a request, written down as a list: the three
reserved ones, then one for each key that the arguments state, in the order of first occurrences and
with the last text under each. Where the class allows batches, `isBatched` is taken out and
`cardinality` put in. What is reported beside them are the arguments without a text, and an
`isBatched` that says neither yes nor no.
-/

namespace WorkerBindings

/-- Whether an argument is one that no request passes on, whatever its value. -/
def Argument.isReserved (argument : Argument) : Bool :=
  reservedKeys.contains (Names.camelCase argument.name)

/-- The entry that an argument makes: its text under its camel-cased name, unless that is
reserved. -/
def Argument.entry? (argument : Argument) : Option (String × String) :=
  if argument.isReserved then none
  else argument.value.bindingText?.map fun text => (Names.camelCase argument.name, text)

/-- Whether a constant states something that has no text. Null states nothing. -/
def Constant.lacksText : Constant → Bool
  | .null => false
  | value => value.bindingText?.isNone

theorem Constant.lacksText_eq {constant : Constant} (present : constant ≠ .null) :
    constant.lacksText = constant.bindingText?.isNone := by
  cases constant <;> first | rfl | exact absurd rfl present

/-- Whether an argument is to be passed on and cannot be. -/
def Argument.isUnserializable (argument : Argument) : Bool :=
  !argument.isReserved && argument.value.lacksText

namespace Attribute

/-- The keys that the arguments of an attribute state, in the order of their first occurrences. -/
def statedKeys (attr : Attribute) : List String :=
  (Properties.keysOf (attr.allArguments.filterMap Argument.entry?)).eraseDups

/-- What the arguments of an attribute state: under each key, the last text. -/
def statedEntries (attr : Attribute) : List (String × String) :=
  attr.statedKeys.filterMap fun key => (attr.stated? key).map fun text => (key, text)

end Attribute

namespace Request

/-- The entries that are the request's own. -/
def ownEntries (request : Request) : List (String × String) :=
  [(nameKey, request.target.name), (typeKey, request.attr.tag),
    (directionKey, request.role.direction.name)]

/-- The report of an argument that has no text. -/
def unserializableReport (request : Request) (argument : Argument) : Diagnostic :=
  Diagnostic.report .invalidArgument request.location [argument.name, request.target.name]

/-- The reports of all arguments that have no text. -/
def unserializableReports (request : Request) : List Diagnostic :=
  (request.attr.allArguments.filter Argument.isUnserializable).map request.unserializableReport

/-- Whether the binding is batched: its class allows it, and the last `isBatched` says so. -/
def isBatched (request : Request) (capabilities : Capabilities) : Bool :=
  capabilities.supportsCardinality &&
    (request.attr.stated? Generator.batchedKey).any fun text => Text.sameIgnoringCase text "true"

/-- Whether the class allows batches and the last `isBatched` says neither yes nor no. -/
def isUnclear (request : Request) (capabilities : Capabilities) : Bool :=
  capabilities.supportsCardinality &&
    (request.attr.stated? Generator.batchedKey).any fun text =>
      !Text.sameIgnoringCase text "true" && !Text.sameIgnoringCase text "false"

/-- The entries behind the request's own. -/
def statedEntries (request : Request) (capabilities : Capabilities) : List (String × String) :=
  if capabilities.supportsCardinality then
    Properties.put Generator.cardinalityKey
      (if request.isBatched capabilities then "Many" else "One")
      (request.attr.statedEntries.filter fun entry => !decide (entry.1 = Generator.batchedKey))
  else request.attr.statedEntries

/-- What is reported of the arguments. -/
def argumentReports (request : Request) (capabilities : Capabilities) : List Diagnostic :=
  request.unserializableReports ++
    if request.isUnclear capabilities then
      [Diagnostic.report .symbolNotFound request.location ["bool value"]]
    else []

end Request

namespace Generator

theorem addArgument_eq (request : Request) (state : Properties × List Diagnostic)
    (argument : Argument) : addArgument request state argument =
      (state.1.insertAll argument.entry?.toList,
        state.2 ++ if argument.isUnserializable then [request.unserializableReport argument]
          else []) := by
  unfold addArgument Argument.entry? Argument.isUnserializable Argument.isReserved
  dsimp only
  cases reservedKeys.contains (Names.camelCase argument.name) with
  | true =>
    rw [if_pos rfl, if_pos rfl, Bool.not_true, Bool.false_and, if_neg Bool.false_ne_true,
      List.append_nil]
    rfl
  | false =>
    rw [if_neg Bool.false_ne_true, if_neg Bool.false_ne_true, Bool.not_false, Bool.true_and]
    split
    · rename_i isNull
      simp [isNull, Constant.bindingText?, Constant.lacksText, Properties.insertAll]
    · rename_i present
      rw [Constant.lacksText_eq present]
      split <;> rename_i stated <;>
        simp [stated, Properties.insertAll, Request.unserializableReport]

theorem foldl_addArgument (request : Request) (arguments : List Argument)
    (state : Properties × List Diagnostic) : arguments.foldl (addArgument request) state =
      (state.1.insertAll (arguments.filterMap Argument.entry?),
        state.2 ++ (arguments.filter Argument.isUnserializable).map
          request.unserializableReport) := by
  induction arguments generalizing state with
  | nil => simp [Properties.insertAll]
  | cons argument rest ih =>
    rw [List.foldl_cons, ih, addArgument_eq]
    have entries : (argument :: rest).filterMap Argument.entry? =
        argument.entry?.toList ++ rest.filterMap Argument.entry? := by
      cases stated : argument.entry? <;> simp [stated]
    have reports : (argument :: rest).filter Argument.isUnserializable =
        (if argument.isUnserializable then [argument] else []) ++
          rest.filter Argument.isUnserializable := by
      cases refused : argument.isUnserializable <;> simp [refused]
    rw [entries, reports, Properties.insertAll_append, List.map_append, List.append_assoc]
    cases argument.isUnserializable <;> rfl

theorem reservedEntries_keys (request : Request) :
    (reservedEntries request).keys = reservedKeys :=
  rfl

theorem entries_eq (request : Request) : entries request =
    ((reservedEntries request).insertAll (request.attr.allArguments.filterMap Argument.entry?),
      request.unserializableReports) := by
  rw [entries, foldl_addArgument, List.nil_append]
  rfl

/-- No argument states a reserved key. -/
theorem unreserved_of_mem_statedKeys {attr : Attribute} {key : String}
    (member : key ∈ attr.statedKeys) : reservedKeys.contains key = false := by
  obtain ⟨entry, isEntry, rfl⟩ := List.mem_map.mp (List.mem_eraseDups.mp member)
  obtain ⟨argument, _, makes⟩ := List.mem_filterMap.mp isEntry
  unfold Argument.entry? at makes
  split at makes
  · cases makes
  · rename_i unreserved
    obtain ⟨text, _, rfl⟩ := Option.map_eq_some_iff.mp makes
    exact Bool.eq_false_iff.mpr unreserved

theorem entries_keys (request : Request) :
    (entries request).1.keys = reservedKeys ++ request.attr.statedKeys := by
  have fresh : ∀ key ∈ Properties.keysOf (request.attr.allArguments.filterMap Argument.entry?),
      (!decide (key ∈ (reservedEntries request).keys)) = true := by
    intro key member
    have unreserved := unreserved_of_mem_statedKeys (List.mem_eraseDups.mpr member)
    have absent : key ∉ reservedKeys := by simpa using unreserved
    rw [reservedEntries_keys, decide_eq_false absent, Bool.not_false]
  rw [entries_eq, Properties.keys_insertAll, List.filter_eq_self.mpr fresh]
  rfl

theorem entries_entries (request : Request) :
    (entries request).1.entries = request.ownEntries ++ request.attr.statedEntries := by
  have stated : ∀ key ∈ request.attr.statedKeys,
      ((entries request).1.get? key).map (fun value => (key, value)) =
        (request.attr.stated? key).map fun value => (key, value) := by
    intro key member
    rw [entries_passed (unreserved_of_mem_statedKeys member)]
  have own : reservedKeys.filterMap (fun key =>
      ((entries request).1.get? key).map fun value => (key, value)) = request.ownEntries := by
    have kept : ∀ key ∈ reservedKeys,
        ((entries request).1.get? key).map (fun value => (key, value)) =
          ((reservedEntries request).get? key).map fun value => (key, value) := by
      intro key member
      rw [entries_reserved (List.contains_iff_mem.mpr member)]
    rw [List.filterMap_congr kept]
    rfl
  rw [Properties.entries_eq_filterMap, entries_keys, List.filterMap_append, own,
    List.filterMap_congr stated]
  rfl

/-- Reserved names and null are passed over, and of two arguments under one key the last counts. -/
example : Attribute.statedEntries {
    className := "QueueTriggerAttribute"
    arguments := [⟨"queueName", .string "orders"⟩, ⟨"Name", .string "other"⟩]
    namedArguments := [⟨"Access", .null⟩, ⟨"IsBatched", .bool true⟩,
      ⟨"QueueName", .string "returns"⟩] } = [("queueName", "returns"), ("isBatched", "true")] := by
  decide +kernel

/-- The keys of a request's own entries are not those of batches. -/
theorem ownEntries_apart (request : Request) :
    batchedKey ∉ Properties.keysOf request.ownEntries ∧
      cardinalityKey ∉ Properties.keysOf request.ownEntries := by
  change batchedKey ∉ reservedKeys ∧ cardinalityKey ∉ reservedKeys
  decide

/-- What `isBatched` asks for, where the class allows batches. -/
theorem batchedFlag?_cases (text : String) :
    (Text.sameIgnoringCase text "true" = true ∧ batchedFlag? text = some true) ∨
      (Text.sameIgnoringCase text "true" = false ∧ Text.sameIgnoringCase text "false" = true ∧
        batchedFlag? text = some false) ∨
      (Text.sameIgnoringCase text "true" = false ∧ Text.sameIgnoringCase text "false" = false ∧
        batchedFlag? text = none) := by
  unfold batchedFlag?
  cases Text.sameIgnoringCase text "true" <;> cases Text.sameIgnoringCase text "false" <;> simp

variable {request : Request} {capabilities : Capabilities}

/-- A batch is asked for by an `isBatched` that is `true` in any case, where the class allows it. -/
theorem isBatched_iff : request.isBatched capabilities = true ↔
    capabilities.supportsCardinality = true ∧ ∃ text,
      request.attr.stated? batchedKey = some text ∧ Text.sameIgnoringCase text "true" = true := by
  rw [Request.isBatched, Bool.and_eq_true, Option.any_eq_true]

section

variable (allowed : capabilities.supportsCardinality = true)

include allowed

theorem isBatched_of_allowed :
    ((((entries request).1.get? batchedKey).map batchedFlag?) == some (some true)) =
      request.isBatched capabilities := by
  rw [entries_passed (by decide), Request.isBatched, allowed, Bool.true_and]
  cases request.attr.stated? batchedKey with
  | none => rfl
  | some text =>
    obtain ⟨isTrue, flag⟩ | ⟨notTrue, _, flag⟩ | ⟨notTrue, _, flag⟩ := batchedFlag?_cases text <;>
      simp [*]

theorem isUnclear_of_allowed :
    ((((entries request).1.get? batchedKey).map batchedFlag?) == some none) =
      request.isUnclear capabilities := by
  rw [entries_passed (by decide), Request.isUnclear, allowed, Bool.true_and]
  cases request.attr.stated? batchedKey with
  | none => rfl
  | some text =>
    obtain ⟨isTrue, flag⟩ | ⟨notTrue, isFalse, flag⟩ | ⟨notTrue, notFalse, flag⟩ :=
      batchedFlag?_cases text <;> simp [*]

theorem withCardinality_entries : (withCardinality request (entries request).1).2.1.entries =
    request.ownEntries ++ request.statedEntries capabilities := by
  obtain ⟨notBatched, notCardinality⟩ := ownEntries_apart request
  have ownKept : request.ownEntries.filter (fun entry => !decide (entry.1 = batchedKey)) =
      request.ownEntries := by
    rw [List.filter_eq_self]
    intro entry member
    have different : entry.1 ≠ batchedKey := fun same =>
      notBatched (List.mem_map.mpr ⟨entry, member, same⟩)
    simp [different]
  have written : (withCardinality request (entries request).1).2.1.entries =
      Properties.put cardinalityKey (if request.isBatched capabilities then "Many" else "One")
        (Properties.drop batchedKey (entries request).1.entries) := by
    rw [← isBatched_of_allowed allowed]
    rfl
  rw [written, Properties.drop_eq_filter _ (entries request).1.distinct, entries_entries,
    List.filter_append, ownKept, Properties.put_append notCardinality, Request.statedEntries,
    if_pos allowed]

end

/-- Where the class allows batches, `isBatched` is gone and `cardinality` says how many. -/
theorem lookup_withCardinality (allowed : capabilities.supportsCardinality = true) :
    (request.ownEntries ++ request.statedEntries capabilities).lookup batchedKey = none ∧
      (request.ownEntries ++ request.statedEntries capabilities).lookup cardinalityKey =
        some (if request.isBatched capabilities then "Many" else "One") := by
  obtain ⟨notBatched, notCardinality⟩ := ownEntries_apart request
  have missing {key : String} (absent : key ∉ Properties.keysOf request.ownEntries) :
      request.ownEntries.lookup key = none := by
    rw [List.lookup_eq_none_iff]
    intro entry member
    have different : key ≠ entry.1 := fun same =>
      absent (List.mem_map.mpr ⟨entry, member, same.symm⟩)
    simpa using different
  rw [Request.statedEntries, if_pos allowed, List.lookup_append, List.lookup_append,
    missing notBatched, missing notCardinality, Properties.lookup_put, Properties.lookup_put,
    if_neg (by decide), if_pos rfl, Option.none_or, Option.none_or]
  refine ⟨?_, rfl⟩
  rw [List.lookup_eq_none_iff]
  intro entry member
  have different : entry.1 ≠ batchedKey := by simpa using (List.mem_filter.mp member).2
  simpa using Ne.symm different

/-- What a request and its class come to, before the type of the target is looked at. -/
theorem draft_eq (request : Request) (capabilities : Capabilities) :
    (draft request capabilities).entries.entries =
        request.ownEntries ++ request.statedEntries capabilities ∧
      (draft request capabilities).batched = request.isBatched capabilities ∧
      (draft request capabilities).diagnostics = request.argumentReports capabilities := by
  have reports : (entries request).2 = request.unserializableReports := by rw [entries_eq]
  cases allowed : capabilities.supportsCardinality with
  | true =>
    have drafted : draft request capabilities =
        ⟨(withCardinality request (entries request).1).2.1,
          (withCardinality request (entries request).1).1,
          (entries request).2 ++ (withCardinality request (entries request).1).2.2⟩ := by
      unfold draft
      dsimp only
      rw [if_pos allowed]
    rw [drafted]
    refine ⟨withCardinality_entries allowed, isBatched_of_allowed allowed, ?_⟩
    rw [Request.argumentReports, reports, ← isUnclear_of_allowed allowed]
    rfl
  | false =>
    have drafted : draft request capabilities =
        ⟨(entries request).1, false, (entries request).2⟩ := by
      unfold draft
      dsimp only
      rw [if_neg (by simp [allowed])]
    rw [drafted]
    refine ⟨?_, ?_, ?_⟩
    · rw [entries_entries, Request.statedEntries, if_neg (by simp [allowed])]
    · rw [Request.isBatched, allowed, Bool.false_and]
    · simp [Request.argumentReports, Request.isUnclear, allowed, reports]

end Generator

end WorkerBindings
