import Mathlib.Data.List.Forall2
import Mathlib.Data.List.Pairwise
import Mathlib.Data.List.Perm.Subperm
import WorkerBindings.Proofs.Retry.Resolution

/-!
# The arguments behind a retry policy

Every field of a policy is read from one argument of the attribute: the first with the name of the
field, else the one at the field's place in the constructor (`Reads`). The argument at that place
may bear the name of another field, and then it is read for both: two fields share an argument
exactly if one of them has no argument of its name and stands at the place of the argument that has
the name of the other (`FallsOn`). Otherwise a policy takes each of its values from an argument of
its own.
-/

namespace WorkerBindings

namespace Retry

/-- What a policy takes from an argument: the name of the argument and its place in the
constructor. -/
structure Field where
  name : String
  place : Nat
  deriving Repr, DecidableEq

/-- The fields of a policy. -/
def fields : RetryPolicy → List Field
  | .fixedDelay .. => [⟨"maxRetryCount", 0⟩, ⟨"delayInterval", 1⟩]
  | .exponentialBackoff .. =>
    [⟨"maxRetryCount", 0⟩, ⟨"minimumInterval", 1⟩, ⟨"maximumInterval", 2⟩]

/-- Two fields have neither the name nor the place in common. -/
def Field.Apart (field other : Field) : Prop :=
  Text.sameIgnoringCase field.name other.name = false ∧ field.place ≠ other.place

instance : DecidableRel Field.Apart := fun field other =>
  inferInstanceAs (Decidable
    (Text.sameIgnoringCase field.name other.name = false ∧ field.place ≠ other.place))

instance : Std.Symm Field.Apart where
  symm field other apart := by
    refine ⟨?_, apart.2.symm⟩
    have differ := apart.1
    rw [Text.sameIgnoringCase, beq_eq_false_iff_ne] at differ ⊢
    exact differ.symm

theorem fields_apart (policy : RetryPolicy) : (fields policy).Pairwise Field.Apart := by
  cases policy with
  | fixedDelay =>
    change List.Pairwise Field.Apart [⟨"maxRetryCount", 0⟩, ⟨"delayInterval", 1⟩]
    decide
  | exponentialBackoff =>
    change List.Pairwise Field.Apart
      [⟨"maxRetryCount", 0⟩, ⟨"minimumInterval", 1⟩, ⟨"maximumInterval", 2⟩]
    decide

/-- The position, among all arguments, of the first one with the name of a field. -/
def position? (attr : Attribute) (field : Field) : Option Nat :=
  attr.allArguments.findIdx? (isNamed field.name)

/-- `Reads attr field index` says which of all arguments, those of the constructor first, a field is
read from. -/
inductive Reads (attr : Attribute) (field : Field) : Nat → Prop where
  | byName {index : Nat} (named : position? attr field = some index) : Reads attr field index
  | byPlace (unnamed : position? attr field = none)
      (inside : field.place < attr.arguments.length) : Reads attr field field.place

/-- The argument at a position has a value. -/
def ValueAt (attr : Attribute) (index : Nat) (value : Constant) : Prop :=
  ∃ argument, attr.allArguments[index]? = some argument ∧ argument.value = value

/-- The argument at a position has the name of a field. -/
def NamedAt (attr : Attribute) (index : Nat) (field : Field) : Prop :=
  ∃ argument, attr.allArguments[index]? = some argument ∧ isNamed field.name argument = true

variable {attr : Attribute} {field other : Field} {index otherIndex : Nat}

theorem namedAt_of_position (named : position? attr field = some index) :
    NamedAt attr index field := by
  obtain ⟨inside, isNamed, _⟩ := List.findIdx?_eq_some_iff_getElem.mp named
  exact ⟨_, List.getElem?_eq_getElem inside, isNamed⟩

/-- An argument has one name. -/
theorem NamedAt.not_other (apart : field.Apart other) (named : NamedAt attr index field) :
    ¬ NamedAt attr index other := by
  obtain ⟨argument, found, isNamed⟩ := named
  rintro ⟨_, foundAgain, isNamedOther⟩
  cases found.symm.trans foundAgain
  have differ := apart.1
  rw [Retry.isNamed, Text.sameIgnoringCase, beq_iff_eq] at isNamed isNamedOther
  rw [Text.sameIgnoringCase, ← isNamed, ← isNamedOther, beq_self_eq_true] at differ
  cases differ

theorem Reads.lt_length (reads : Reads attr field index) : index < attr.allArguments.length := by
  cases reads with
  | byName named => exact (List.findIdx?_eq_some_iff_getElem.mp named).1
  | byPlace _ inside =>
    rw [Attribute.allArguments, List.length_append]
    exact Nat.lt_add_right _ inside

theorem argument?_eq_of_position (named : position? attr field = some index) :
    argument? attr field.name field.place = attr.allArguments[index]?.map (·.value) := by
  obtain ⟨inside, isNamed, isFirst⟩ := List.findIdx?_eq_some_iff_getElem.mp named
  have found : attr.allArguments.find? (Retry.isNamed field.name) =
      some attr.allArguments[index] :=
    List.find?_eq_some_iff_getElem.mpr
      ⟨isNamed, index, inside, rfl, fun earlier before => by simpa using isFirst earlier before⟩
  rw [argument?, Attribute.argument?, List.getElem?_eq_getElem inside]
  change (Option.map _ (attr.allArguments.find? (Retry.isNamed field.name)) <|> _) = _
  rw [found]
  rfl

theorem argument?_eq_of_unnamed (unnamed : position? attr field = none) :
    argument? attr field.name field.place = attr.arguments[field.place]?.map (·.value) := by
  have missing : attr.allArguments.find? (isNamed field.name) = none := by
    rw [position?, List.findIdx?_eq_none_iff] at unnamed
    simpa using unnamed
  rw [argument?, Attribute.argument?]
  change (Option.map _ (attr.allArguments.find? (isNamed field.name)) <|> _) = _
  rw [missing]
  rfl

/-- A field has the value of the argument from which it is read. -/
theorem finds_iff_reads (field : Field) {value : Constant} :
    Finds attr field.name field.place value ↔
      ∃ index, Reads attr field index ∧ ValueAt attr index value := by
  rw [← argument?_eq_some_iff]
  cases position : position? attr field with
  | some index =>
    rw [argument?_eq_of_position position, Option.map_eq_some_iff]
    constructor
    · exact fun found => ⟨index, .byName position, found⟩
    · rintro ⟨_, reads, found⟩
      cases reads with
      | byName named =>
        cases position.symm.trans named
        exact found
      | byPlace unnamed => cases position.symm.trans unnamed
  | none =>
    rw [argument?_eq_of_unnamed position, Option.map_eq_some_iff]
    have placed (inside : field.place < attr.arguments.length) :
        attr.allArguments[field.place]? = attr.arguments[field.place]? :=
      List.getElem?_append_left inside
    constructor
    · rintro ⟨argument, found, isValue⟩
      obtain ⟨inside, _⟩ := List.getElem?_eq_some_iff.mp found
      exact ⟨_, .byPlace position inside, argument, (placed inside).trans found, isValue⟩
    · rintro ⟨_, reads, argument, found, isValue⟩
      cases reads with
      | byName named => cases position.symm.trans named
      | byPlace _ inside => exact ⟨argument, (placed inside).symm.trans found, isValue⟩

/-- The argument at a position counts as a retry count. -/
def CountAt (attr : Attribute) (index : Nat) (count : UInt32) : Prop :=
  ∃ constant, ValueAt attr index constant ∧ constant.Counts count.toNat

/-- The argument at a position is the text of an interval. -/
def IntervalAt (attr : Attribute) (index : Nat) (interval : Interval) : Prop :=
  ∃ text, ValueAt attr index (.string text) ∧ Interval.parse? text = some interval

/-- `Supplies attr indices policy` says that a policy has the values of the arguments at some
positions, one for each of its fields. -/
inductive Supplies (attr : Attribute) : List Nat → RetryPolicy → Prop where
  | fixedDelay {countIndex delayIndex : Nat} {count : UInt32} {delay : Interval}
      (counted : CountAt attr countIndex count) (delayed : IntervalAt attr delayIndex delay) :
      Supplies attr [countIndex, delayIndex] (.fixedDelay count delay)
  | backoff {countIndex minimumIndex maximumIndex : Nat} {count : UInt32}
      {minimum maximum : Interval} (counted : CountAt attr countIndex count)
      (least : IntervalAt attr minimumIndex minimum)
      (most : IntervalAt attr maximumIndex maximum) :
      Supplies attr [countIndex, minimumIndex, maximumIndex]
        (.exponentialBackoff count minimum maximum)

theorem StatesCount.exists_index {count : UInt32} (states : StatesCount attr count) :
    ∃ index, Reads attr ⟨"maxRetryCount", 0⟩ index ∧ CountAt attr index count := by
  obtain ⟨constant, value, finds, counts, _, _, rfl⟩ := states
  obtain ⟨index, reads, found⟩ := (finds_iff_reads ⟨"maxRetryCount", 0⟩).mp finds
  exact ⟨index, reads, constant, found, counts⟩

theorem StatesInterval.exists_index (field : Field) {interval : Interval}
    (states : StatesInterval attr field.name field.place interval) :
    ∃ index, Reads attr field index ∧ IntervalAt attr index interval := by
  obtain ⟨text, finds, parses⟩ := states
  obtain ⟨index, reads, found⟩ := (finds_iff_reads field).mp finds
  exact ⟨index, reads, text, found, parses⟩

theorem States.exists_indices {policy : RetryPolicy} (states : States attr policy) :
    ∃ indices, List.Forall₂ (Reads attr) (fields policy) indices ∧
      Supplies attr indices policy := by
  cases states with
  | fixedDelay _ counted delayed =>
    obtain ⟨countIndex, readsCount, countAt⟩ := counted.exists_index
    obtain ⟨delayIndex, readsDelay, delayAt⟩ :=
      StatesInterval.exists_index ⟨"delayInterval", 1⟩ delayed
    exact ⟨_, .cons readsCount (.cons readsDelay .nil), .fixedDelay countAt delayAt⟩
  | backoff _ counted least most _ =>
    obtain ⟨countIndex, readsCount, countAt⟩ := counted.exists_index
    obtain ⟨minimumIndex, readsMinimum, minimumAt⟩ :=
      StatesInterval.exists_index ⟨"minimumInterval", 1⟩ least
    obtain ⟨maximumIndex, readsMaximum, maximumAt⟩ :=
      StatesInterval.exists_index ⟨"maximumInterval", 2⟩ most
    exact ⟨_, .cons readsCount (.cons readsMinimum (.cons readsMaximum .nil)),
      .backoff countAt minimumAt maximumAt⟩

/-- A field without an argument of its name stands at the place of the argument from which the other
field is read by name. -/
def FallsOn (attr : Attribute) (field other : Field) : Prop :=
  position? attr field = none ∧ field.place < attr.arguments.length ∧
    position? attr other = some field.place

/-- A field without an argument of its name stands at the place of an argument with the name of the
other field. -/
def Borrows (attr : Attribute) (field other : Field) : Prop :=
  position? attr field = none ∧ field.place < attr.arguments.length ∧
    NamedAt attr field.place other

instance : DecidableRel (FallsOn attr) := fun field other =>
  inferInstanceAs (Decidable (position? attr field = none ∧
    field.place < attr.arguments.length ∧ position? attr other = some field.place))

theorem not_fallsOn_self (field : Field) : ¬ FallsOn attr field field := by
  rintro ⟨unnamed, _, named⟩
  cases unnamed.symm.trans named

theorem FallsOn.index_eq (falls : FallsOn attr field other) (reads : Reads attr field index)
    (otherReads : Reads attr other otherIndex) : index = otherIndex := by
  obtain ⟨unnamed, _, otherNamed⟩ := falls
  cases reads with
  | byName named => cases unnamed.symm.trans named
  | byPlace =>
    cases otherReads with
    | byName named => exact Option.some.inj (otherNamed.symm.trans named)
    | byPlace otherUnnamed => cases otherNamed.symm.trans otherUnnamed

/-- Two fields are read from one argument exactly if one of them falls on the other's. -/
theorem index_eq_iff (apart : field.Apart other) (reads : Reads attr field index)
    (otherReads : Reads attr other otherIndex) :
    index = otherIndex ↔ FallsOn attr field other ∨ FallsOn attr other field := by
  constructor
  · rintro rfl
    cases reads with
    | byName named =>
      cases otherReads with
      | byName otherNamed =>
        exact absurd (namedAt_of_position otherNamed)
          ((namedAt_of_position named).not_other apart)
      | byPlace unnamed inside => exact .inr ⟨unnamed, inside, named⟩
    | byPlace unnamed inside =>
      generalize atPlace : field.place = place at otherReads
      cases otherReads with
      | byName otherNamed => exact .inl ⟨unnamed, inside, atPlace ▸ otherNamed⟩
      | byPlace => exact absurd atPlace apart.2
  · rintro (falls | falls)
    · exact falls.index_eq reads otherReads
    · exact (falls.index_eq otherReads reads).symm

/-- Fields are read from arguments of their own exactly if none falls on another's. -/
theorem nodup_indices_iff {fields : List Field} {indices : List Nat}
    (apart : fields.Pairwise Field.Apart) (reads : List.Forall₂ (Reads attr) fields indices) :
    indices.Nodup ↔ ∀ field ∈ fields, ∀ other ∈ fields, ¬ FallsOn attr field other := by
  induction reads with
  | nil => simp
  | @cons field index fields indices readsFirst readsRest ih =>
    obtain ⟨apartFirst, apartRest⟩ := List.pairwise_cons.mp apart
    have fresh : index ∉ indices ↔
        ∀ other ∈ fields, ¬ FallsOn attr field other ∧ ¬ FallsOn attr other field := by
      clear ih apart apartRest
      induction readsRest with
      | nil => simp
      | @cons other otherIndex _ _ readsOther _ ihRest =>
        obtain ⟨apartOther, apartOthers⟩ := List.forall_mem_cons.mp apartFirst
        rw [List.mem_cons, not_or, ihRest apartOthers, List.forall_mem_cons,
          index_eq_iff apartOther readsFirst readsOther, not_or]
    rw [List.nodup_cons, fresh, ih apartRest]
    simp only [List.forall_mem_cons, not_fallsOn_self, not_false_eq_true, true_and]
    constructor
    · rintro ⟨first, rest⟩
      exact ⟨fun other member => (first other member).1,
        fun other member => ⟨(first other member).2, rest other member⟩⟩
    · rintro ⟨first, rest⟩
      exact ⟨fun other member => ⟨first other member, (rest other member).1⟩,
        fun other member => (rest other member).2⟩

/-- A field is read from an argument with the name of another one exactly if it borrows it. -/
theorem Reads.namedAt_iff (reads : Reads attr field index) (apart : field.Apart other) :
    NamedAt attr index other ↔ Borrows attr field other := by
  cases reads with
  | byName named =>
    refine iff_of_false ((namedAt_of_position named).not_other apart) fun borrows => ?_
    cases named.symm.trans borrows.1
  | byPlace unnamed inside => exact (and_iff_right unnamed).trans (and_iff_right inside) |>.symm

/-- There are at least as many arguments as fields that are read from arguments of their own. -/
theorem length_le_of_nodup {fields : List Field} {indices : List Nat}
    (reads : List.Forall₂ (Reads attr) fields indices) (distinct : indices.Nodup) :
    fields.length ≤ attr.allArguments.length := by
  have inside : indices ⊆ List.range attr.allArguments.length := by
    clear distinct
    induction reads with
    | nil => exact List.nil_subset _
    | cons first _ ih =>
      exact List.cons_subset.mpr ⟨List.mem_range.mpr first.lt_length, ih⟩
  rw [reads.length_eq, ← List.length_range (n := attr.allArguments.length)]
  exact (distinct.subperm inside).length_le

/-- Every field of a policy is read from one argument of the only retry attribute. These arguments
are different ones exactly if no field falls on the argument of another, and then there are at least
as many of them as fields; and a field is read from an argument with the name of another field
exactly if it borrows it. -/
theorem resolve_reads {attributes : List Attribute} {supported : Bool} {policy : RetryPolicy}
    (resolved : resolve attributes supported = .ok (some policy)) :
    ∃ attr indices, attributes.filter isRetry = [attr] ∧
      List.Forall₂ (Reads attr) (fields policy) indices ∧ Supplies attr indices policy ∧
      (indices.Nodup ↔
        ∀ field ∈ fields policy, ∀ other ∈ fields policy, ¬ FallsOn attr field other) ∧
      (indices.Nodup → (fields policy).length ≤ attr.allArguments.length) ∧
      ∀ field ∈ fields policy, ∀ other ∈ fields policy, field ≠ other → ∀ index,
        Reads attr field index → (NamedAt attr index other ↔ Borrows attr field other) := by
  obtain ⟨attr, only, states, _⟩ := resolve_eq_some_iff.mp resolved
  obtain ⟨indices, reads, supplies⟩ := states.exists_indices
  refine ⟨attr, indices, only, reads, supplies, nodup_indices_iff (fields_apart policy) reads,
    length_le_of_nodup reads, ?_⟩
  intro field member other otherMember differ index readsField
  exact readsField.namedAt_iff ((fields_apart policy).forall member otherMember differ)

/-- A growing delay whose first two arguments have names of their own. -/
def mixedBackoff : Attribute where
  className := Names.backoffClass
  namespaceName := some Names.workerNamespace
  arguments := [⟨"count", .int 3⟩, ⟨"least", .string "00:00:04"⟩]
  namedArguments := [⟨"MaximumInterval", .string "00:15:00"⟩]

theorem resolve_reads_mixedBackoff :
    resolve [mixedBackoff] true =
        .ok (some (.exponentialBackoff 3 ⟨4000000000⟩ ⟨900000000000⟩)) ∧
      ∃ indices, Supplies mixedBackoff indices
        (.exponentialBackoff 3 ⟨4000000000⟩ ⟨900000000000⟩) ∧ indices.Nodup := by
  have resolved : resolve [mixedBackoff] true =
      .ok (some (.exponentialBackoff 3 ⟨4000000000⟩ ⟨900000000000⟩)) := by decide +kernel
  obtain ⟨attr, indices, only, _, supplies, distinct, _⟩ := resolve_reads resolved
  have isOnly : [mixedBackoff].filter isRetry = [mixedBackoff] := rfl
  obtain rfl := List.singleton_inj.mp (isOnly.symm.trans only)
  have ownArguments : ∀ field ∈ fields (.exponentialBackoff 3 ⟨4000000000⟩ ⟨900000000000⟩),
      ∀ other ∈ fields (.exponentialBackoff 3 ⟨4000000000⟩ ⟨900000000000⟩),
        ¬ FallsOn mixedBackoff field other := by decide
  exact ⟨resolved, indices, supplies, distinct.mpr ownArguments⟩

/-- A delay of some days and no count. -/
def countlessDelay : Attribute where
  className := Names.fixedDelayClass
  namespaceName := some Names.workerNamespace
  arguments := [⟨"delayInterval", .string "5"⟩]

/-- A growing delay without its minimum. -/
def boundlessBackoff : Attribute where
  className := Names.backoffClass
  namespaceName := some Names.workerNamespace
  arguments := [⟨"maxRetryCount", .int 3⟩, ⟨"maximumInterval", .string "00:00:05"⟩]

/-- The delay counts as the missing count, and the maximum as the missing minimum: an argument with
the name of one field is read for another one as well. -/
theorem resolve_rereads :
    resolve [countlessDelay] true = .ok (some (.fixedDelay 5 ⟨432000000000000⟩)) ∧
      List.Forall₂ (Reads countlessDelay) (fields (.fixedDelay 5 ⟨432000000000000⟩)) [0, 0] ∧
      resolve [boundlessBackoff] true =
        .ok (some (.exponentialBackoff 3 ⟨5000000000⟩ ⟨5000000000⟩)) ∧
      List.Forall₂ (Reads boundlessBackoff)
        (fields (.exponentialBackoff 3 ⟨5000000000⟩ ⟨5000000000⟩)) [0, 1, 1] := by
  refine ⟨by decide +kernel, ?_, by decide +kernel, ?_⟩
  · exact .cons (.byPlace (by decide) (by decide)) (.cons (.byName (by decide)) .nil)
  · exact .cons (.byName (by decide))
      (.cons (.byPlace (by decide) (by decide)) (.cons (.byName (by decide)) .nil))

end Retry

end WorkerBindings
