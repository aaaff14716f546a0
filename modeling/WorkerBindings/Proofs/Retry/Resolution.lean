import WorkerBindings.Proofs.Text.Digits
import WorkerBindings.Proofs.Traversal
import WorkerBindings.Retry.Resolution

/-!
# The rules for retry attributes

The rules are stated one by one: where an argument is looked for, what counts as a count and as an
interval, and when the two intervals of a growing delay are in order. Resolution yields a policy
exactly if all rules are kept (`States`), with the values that the attribute states, and otherwise
reports the first rule that is not (`Violates`). No other attribute has a say in it.
-/

namespace WorkerBindings

namespace Constant

/-- `Counts constant value` says that the constant is an integer, or text that spells one of 64 bits
between blank characters. -/
inductive Counts : Constant → Int → Prop where
  | number (value : Int64) : Counts (.int value) value.toInt
  | text {text : String} {value : Int}
      (spells : Text.Spells (Text.trimCharacters text.toList) value)
      (fits : Text.int64Min ≤ value ∧ value ≤ Text.int64Max) : Counts (.string text) value

theorem int?_eq_some_iff {constant : Constant} {value : Int} :
    constant.int? = some value ↔ constant.Counts value := by
  constructor
  · intro counted
    cases constant with
    | int number =>
      cases counted
      exact .number number
    | string text =>
      obtain ⟨spells, fits⟩ := Text.int?_eq_some_iff.mp counted
      exact .text spells fits
    | null | float | bool | type | enum | array | unresolved => cases counted
  · intro counts
    cases counts with
    | number value => rfl
    | text spells fits => exact Text.int?_eq_some_iff.mpr ⟨spells, fits⟩

theorem text?_eq_some_iff {constant : Constant} {text : String} :
    constant.text? = some text ↔ constant = .string text := by
  cases constant <;> simp [text?]

end Constant

namespace Retry

/-- Whether an argument has a name, in any case. -/
def isNamed (name : String) (argument : Argument) : Bool :=
  Text.sameIgnoringCase argument.name name

/-- `Finds attr name place value` says which value an argument has: that of the constructor's
parameter of the name, else that of the named argument, else that at the place in the
constructor. -/
inductive Finds (attr : Attribute) (name : String) (place : Nat) : Constant → Prop where
  | parameter {argument : Argument}
      (found : attr.arguments.find? (isNamed name) = some argument) :
      Finds attr name place argument.value
  | named {argument : Argument}
      (noParameter : attr.arguments.find? (isNamed name) = none)
      (found : attr.namedArguments.find? (isNamed name) = some argument) :
      Finds attr name place argument.value
  | placed {argument : Argument}
      (noParameter : attr.arguments.find? (isNamed name) = none)
      (notNamed : attr.namedArguments.find? (isNamed name) = none)
      (found : attr.arguments[place]? = some argument) :
      Finds attr name place argument.value

variable {attr : Attribute} {name : String} {place : Nat}

theorem argument?_eq_some_iff {value : Constant} :
    argument? attr name place = some value ↔ Finds attr name place value := by
  have unfolded : argument? attr name place =
      (((attr.arguments.find? (isNamed name)).or (attr.namedArguments.find? (isNamed name))).map
        (·.value)).or (attr.arguments[place]?.map (·.value)) := by
    rw [← List.find?_append]
    exact Option.orElse_eq_or ..
  rw [unfolded]
  constructor
  · intro found
    cases positional : attr.arguments.find? (isNamed name) with
    | some argument =>
      simp only [positional, Option.some_or, Option.map_some, Option.some.injEq] at found
      exact found ▸ .parameter positional
    | none =>
      cases named : attr.namedArguments.find? (isNamed name) with
      | some argument =>
        simp only [positional, named, Option.none_or, Option.map_some, Option.some_or,
          Option.some.injEq] at found
        exact found ▸ .named positional named
      | none =>
        simp only [positional, named, Option.none_or, Option.map_none] at found
        obtain ⟨argument, placed, rfl⟩ := Option.map_eq_some_iff.mp found
        exact .placed positional named placed
  · intro finds
    cases finds with
    | parameter found => simp [found]
    | named noParameter found => simp [noParameter, found]
    | placed noParameter notNamed found => simp [noParameter, notNamed, found]

/-- The attribute states a retry count: a positive integer of 32 bits. -/
def StatesCount (attr : Attribute) (count : UInt32) : Prop :=
  ∃ constant value, Finds attr "maxRetryCount" 0 constant ∧ constant.Counts value ∧
    1 ≤ value ∧ value ≤ 4294967295 ∧ (count.toNat : Int) = value

/-- The attribute states an interval: text that is read as one. -/
def StatesInterval (attr : Attribute) (name : String) (place : Nat) (interval : Interval) : Prop :=
  ∃ text, Finds attr name place (.string text) ∧ Interval.parse? text = some interval

theorem count_eq_ok_iff {found : UInt32} : count attr = .ok found ↔ StatesCount attr found := by
  have stated (value : Int) : (argument? attr "maxRetryCount" 0).bind Constant.int? = some value ↔
      ∃ constant, Finds attr "maxRetryCount" 0 constant ∧ constant.Counts value := by
    simp only [Option.bind_eq_some_iff, argument?_eq_some_iff, Constant.int?_eq_some_iff]
  constructor
  · intro counted
    unfold count at counted
    split at counted
    · rename_i value isValue
      split at counted
      · rename_i inside
        cases counted
        obtain ⟨constant, finds, counts⟩ := (stated value).mp isValue
        have short : value.toNat < UInt32.size := by
          change value.toNat < 4294967296
          omega
        refine ⟨constant, value, finds, counts, by omega, by omega, ?_⟩
        rw [UInt32.toNat_ofNat_of_lt' short]
        omega
      · cases counted
    · cases counted
  · rintro ⟨constant, value, finds, counts, positive, short, same⟩
    have inside : 0 < value ∧ value < 4294967296 := by omega
    have back : value.toNat = found.toNat := by omega
    rw [count, (stated value).mpr ⟨constant, finds, counts⟩]
    simp only [inside, and_self, if_true, back, UInt32.ofNat_toNat]

theorem interval_eq_ok_iff {found : Interval} :
    interval attr name place = .ok found ↔ StatesInterval attr name place found := by
  have stated : ((argument? attr name place).bind Constant.text?).bind Interval.parse? =
      some found ↔ StatesInterval attr name place found := by
    simp only [Option.bind_eq_some_iff, argument?_eq_some_iff, Constant.text?_eq_some_iff,
      StatesInterval]
    constructor
    · rintro ⟨text, ⟨_, finds, rfl⟩, reads⟩
      exact ⟨text, finds, reads⟩
    · rintro ⟨text, finds, reads⟩
      exact ⟨text, ⟨_, finds, rfl⟩, reads⟩
  rw [← stated, interval]
  split
  · rename_i reads
    rw [reads, Except.ok.injEq, Option.some.injEq]
  · rename_i unread
    simp [unread]

/-- A count is refused in one way. -/
theorem count_eq_error_iff {violation : Violation} :
    count attr = .error violation ↔
      violation = .invalidCount ∧ ∀ found, ¬ StatesCount attr found := by
  simp only [← count_eq_ok_iff]
  unfold count
  split
  · split <;> simp [eq_comm]
  · simp [eq_comm]

/-- An interval is refused in one way. -/
theorem interval_eq_error_iff {violation : Violation} :
    interval attr name place = .error violation ↔
      violation = .invalidInterval name ∧ ∀ found, ¬ StatesInterval attr name place found := by
  simp only [← interval_eq_ok_iff]
  unfold interval
  split <;> simp [eq_comm]

/-- `States attr policy` says that the attribute keeps all rules on its arguments, and which policy
it states by them. -/
inductive States (attr : Attribute) : RetryPolicy → Prop where
  | fixedDelay {count : UInt32} {delay : Interval}
      (isFixed : attr.className = Names.fixedDelayClass) (counted : StatesCount attr count)
      (delayed : StatesInterval attr "delayInterval" 1 delay) :
      States attr (.fixedDelay count delay)
  | backoff {count : UInt32} {minimum maximum : Interval}
      (isBackoff : attr.className = Names.backoffClass) (counted : StatesCount attr count)
      (least : StatesInterval attr "minimumInterval" 1 minimum)
      (most : StatesInterval attr "maximumInterval" 2 maximum)
      (ordered : minimum.nanos ≤ maximum.nanos) :
      States attr (.exponentialBackoff count minimum maximum)

/-- `Violates attr violation` says which rule on its arguments the attribute breaks first. -/
inductive Violates (attr : Attribute) : Violation → Prop where
  | count (uncounted : ∀ count, ¬ StatesCount attr count) : Violates attr .invalidCount
  | delay {count : UInt32}
      (isFixed : attr.className = Names.fixedDelayClass) (counted : StatesCount attr count)
      (unread : ∀ delay, ¬ StatesInterval attr "delayInterval" 1 delay) :
      Violates attr (.invalidInterval "delayInterval")
  | minimum {count : UInt32}
      (isBackoff : attr.className = Names.backoffClass) (counted : StatesCount attr count)
      (unread : ∀ minimum, ¬ StatesInterval attr "minimumInterval" 1 minimum) :
      Violates attr (.invalidInterval "minimumInterval")
  | maximum {count : UInt32} {minimum : Interval}
      (isBackoff : attr.className = Names.backoffClass) (counted : StatesCount attr count)
      (least : StatesInterval attr "minimumInterval" 1 minimum)
      (unread : ∀ maximum, ¬ StatesInterval attr "maximumInterval" 2 maximum) :
      Violates attr (.invalidInterval "maximumInterval")
  | order {count : UInt32} {minimum maximum : Interval}
      (isBackoff : attr.className = Names.backoffClass) (counted : StatesCount attr count)
      (least : StatesInterval attr "minimumInterval" 1 minimum)
      (most : StatesInterval attr "maximumInterval" 2 maximum)
      (reversed : maximum.nanos < minimum.nanos) :
      Violates attr .reversedIntervals

theorem fixedDelay_eq_ok_iff {policy : RetryPolicy} :
    fixedDelay attr = .ok policy ↔ ∃ count, StatesCount attr count ∧
      ∃ delay, StatesInterval attr "delayInterval" 1 delay ∧ .fixedDelay count delay = policy := by
  simp only [fixedDelay, bind_eq_ok_iff, count_eq_ok_iff, interval_eq_ok_iff, Except.ok.injEq]

theorem backoff_eq_ok_iff {policy : RetryPolicy} :
    backoff attr = .ok policy ↔ ∃ count, StatesCount attr count ∧
      ∃ minimum, StatesInterval attr "minimumInterval" 1 minimum ∧
      ∃ maximum, StatesInterval attr "maximumInterval" 2 maximum ∧
        minimum.nanos ≤ maximum.nanos ∧ .exponentialBackoff count minimum maximum = policy := by
  have ordered (count : UInt32) (minimum maximum : Interval) :
      ((if maximum.nanos < minimum.nanos then .error .reversedIntervals
        else .ok (.exponentialBackoff count minimum maximum)) : Except Violation RetryPolicy) =
          .ok policy ↔
        minimum.nanos ≤ maximum.nanos ∧ .exponentialBackoff count minimum maximum = policy := by
    split
    · rename_i reversed
      simp [Nat.not_le.mpr reversed]
    · rename_i ordered
      simp [Nat.not_lt.mp ordered]
  simp only [backoff, bind_eq_ok_iff, count_eq_ok_iff, interval_eq_ok_iff, ordered]

/-- A retry attribute is of one of two classes. -/
theorem className_of_isRetry (retry : isRetry attr = true) :
    attr.className = Names.fixedDelayClass ∨ attr.className = Names.backoffClass := by
  simp only [isRetry, Attribute.isClass, Bool.or_eq_true, Bool.and_eq_true, beq_iff_eq] at retry
  exact retry.imp And.left And.left

theorem policyOf_eq_ok_iff (retry : isRetry attr = true) {policy : RetryPolicy} :
    policyOf attr = .ok policy ↔ States attr policy := by
  unfold policyOf
  split
  · rename_i isFixed
    rw [fixedDelay_eq_ok_iff]
    constructor
    · rintro ⟨count, counted, delay, delayed, rfl⟩
      exact .fixedDelay isFixed counted delayed
    · intro states
      cases states with
      | fixedDelay _ counted delayed => exact ⟨_, counted, _, delayed, rfl⟩
      | backoff isBackoff => exact absurd (isFixed.symm.trans isBackoff) (by decide)
  · rename_i notFixed
    have isBackoff := (className_of_isRetry retry).resolve_left notFixed
    rw [backoff_eq_ok_iff]
    constructor
    · rintro ⟨count, counted, minimum, least, maximum, most, ordered, rfl⟩
      exact .backoff isBackoff counted least most ordered
    · intro states
      cases states with
      | fixedDelay isFixed => exact absurd isFixed notFixed
      | backoff _ counted least most ordered =>
        exact ⟨_, counted, _, least, _, most, ordered, rfl⟩

theorem fixedDelay_eq_error_iff {violation : Violation} :
    fixedDelay attr = .error violation ↔
      (violation = .invalidCount ∧ ∀ count, ¬ StatesCount attr count) ∨
      ∃ count, StatesCount attr count ∧ violation = .invalidInterval "delayInterval" ∧
        ∀ delay, ¬ StatesInterval attr "delayInterval" 1 delay := by
  simp only [fixedDelay, bind_eq_error_iff, count_eq_ok_iff, count_eq_error_iff,
    interval_eq_error_iff, reduceCtorEq, and_false, exists_false, or_false]

theorem backoff_eq_error_iff {violation : Violation} :
    backoff attr = .error violation ↔
      (violation = .invalidCount ∧ ∀ count, ¬ StatesCount attr count) ∨
      ∃ count, StatesCount attr count ∧
        ((violation = .invalidInterval "minimumInterval" ∧
            ∀ minimum, ¬ StatesInterval attr "minimumInterval" 1 minimum) ∨
          ∃ minimum, StatesInterval attr "minimumInterval" 1 minimum ∧
            ((violation = .invalidInterval "maximumInterval" ∧
                ∀ maximum, ¬ StatesInterval attr "maximumInterval" 2 maximum) ∨
              ∃ maximum, StatesInterval attr "maximumInterval" 2 maximum ∧
                maximum.nanos < minimum.nanos ∧ violation = .reversedIntervals)) := by
  have reversed (count : UInt32) (minimum maximum : Interval) :
      ((if maximum.nanos < minimum.nanos then .error .reversedIntervals
        else .ok (.exponentialBackoff count minimum maximum)) : Except Violation RetryPolicy) =
          .error violation ↔
        maximum.nanos < minimum.nanos ∧ violation = .reversedIntervals := by
    split
    · rename_i reversed
      simp [reversed, eq_comm]
    · rename_i ordered
      simp [ordered]
  simp only [backoff, bind_eq_error_iff, count_eq_ok_iff, count_eq_error_iff, interval_eq_ok_iff,
    interval_eq_error_iff, reversed]

theorem policyOf_eq_error_iff (retry : isRetry attr = true) {violation : Violation} :
    policyOf attr = .error violation ↔ Violates attr violation := by
  have apart : Names.fixedDelayClass ≠ Names.backoffClass := by decide
  unfold policyOf
  split
  · rename_i isFixed
    rw [fixedDelay_eq_error_iff]
    constructor
    · rintro (⟨rfl, uncounted⟩ | ⟨count, counted, rfl, unread⟩)
      · exact .count uncounted
      · exact .delay isFixed counted unread
    · intro violates
      cases violates with
      | count uncounted => exact .inl ⟨rfl, uncounted⟩
      | delay _ counted unread => exact .inr ⟨_, counted, rfl, unread⟩
      | minimum isBackoff | maximum isBackoff | order isBackoff =>
        exact absurd (isFixed.symm.trans isBackoff) apart
  · rename_i notFixed
    have isBackoff := (className_of_isRetry retry).resolve_left notFixed
    rw [backoff_eq_error_iff]
    constructor
    · rintro (⟨rfl, uncounted⟩ | ⟨count, counted, ⟨rfl, unread⟩ |
        ⟨minimum, least, ⟨rfl, unread⟩ | ⟨maximum, most, reversed, rfl⟩⟩⟩)
      · exact .count uncounted
      · exact .minimum isBackoff counted unread
      · exact .maximum isBackoff counted least unread
      · exact .order isBackoff counted least most reversed
    · intro violates
      cases violates with
      | count uncounted => exact .inl ⟨rfl, uncounted⟩
      | delay isFixed => exact absurd isFixed notFixed
      | minimum _ counted unread => exact .inr ⟨_, counted, .inl ⟨rfl, unread⟩⟩
      | maximum _ counted least unread =>
        exact .inr ⟨_, counted, .inr ⟨_, least, .inl ⟨rfl, unread⟩⟩⟩
      | order _ counted least most reversed =>
        exact .inr ⟨_, counted, .inr ⟨_, least, .inr ⟨_, most, reversed, rfl⟩⟩⟩

/-- `FirstBroken attributes supported violation` says which rule the attributes of a function break
first: on their number, on the arguments of the one that there is, or on the support by all
bindings. -/
inductive FirstBroken (attributes : List Attribute) (supported : Bool) : Violation → Prop where
  | number (several : 1 < (attributes.filter isRetry).length) :
      FirstBroken attributes supported .repeatedAttribute
  | arguments {attr : Attribute} {violation : Violation}
      (only : attributes.filter isRetry = [attr]) (violates : Violates attr violation) :
      FirstBroken attributes supported violation
  | support {attr : Attribute} {policy : RetryPolicy}
      (only : attributes.filter isRetry = [attr]) (states : States attr policy)
      (unsupported : supported = false) : FirstBroken attributes supported .unsupported

variable {attributes : List Attribute} {supported : Bool}

theorem isRetry_of_only (only : attributes.filter isRetry = [attr]) : isRetry attr = true :=
  (List.mem_filter.mp (only ▸ List.mem_singleton_self attr)).2

/-- With one retry attribute, its arguments come before the support. -/
theorem resolve_only (only : attributes.filter isRetry = [attr]) :
    resolve attributes supported = (policyOf attr).bind fun policy =>
      if supported then .ok (some policy) else .error .unsupported := by
  rw [resolve, only]
  rfl

theorem resolve_eq_none_iff :
    resolve attributes supported = .ok none ↔ ∀ attr ∈ attributes, isRetry attr = false := by
  have selected : (∀ attr ∈ attributes, isRetry attr = false) ↔
      attributes.filter isRetry = [] := by
    simp [List.filter_eq_nil_iff]
  rw [selected]
  match selection : attributes.filter isRetry with
  | [] => simp [resolve, selection]
  | [attr] =>
    rw [resolve_only selection]
    cases policyOf attr <;> cases supported <;> simp [Except.bind]
  | _ :: _ :: _ => simp [resolve, selection]

theorem resolve_eq_some_iff {policy : RetryPolicy} :
    resolve attributes supported = .ok (some policy) ↔
      ∃ attr, attributes.filter isRetry = [attr] ∧ States attr policy ∧ supported = true := by
  match selection : attributes.filter isRetry with
  | [] => simp [resolve, selection]
  | [attr] =>
    have states : policyOf attr = .ok policy ↔ _ := policyOf_eq_ok_iff (isRetry_of_only selection)
    rw [resolve_only selection]
    simp only [List.cons.injEq, and_true, exists_eq_left', ← states]
    cases policyOf attr <;> cases supported <;> simp [Except.bind]
  | _ :: _ :: _ => simp [resolve, selection]

theorem resolve_eq_error_iff {violation : Violation} :
    resolve attributes supported = .error violation ↔
      FirstBroken attributes supported violation := by
  match selection : attributes.filter isRetry with
  | [] =>
    constructor
    · simp [resolve, selection]
    · intro broken
      cases broken with
      | number several => simp [selection] at several
      | arguments only | support only => simp [selection] at only
  | [attr] =>
    have retry := isRetry_of_only selection
    rw [resolve_only selection]
    constructor
    · intro refused
      cases decided : policyOf attr with
      | error reason =>
        rw [decided] at refused
        cases refused
        exact .arguments selection ((policyOf_eq_error_iff retry).mp decided)
      | ok policy =>
        rw [decided] at refused
        cases supported with
        | true => cases refused
        | false =>
          cases refused
          exact .support selection ((policyOf_eq_ok_iff retry).mp decided) rfl
    · intro broken
      cases broken with
      | number several => simp [selection] at several
      | arguments only violates =>
        cases selection.symm.trans only
        rw [(policyOf_eq_error_iff retry).mpr violates]
        rfl
      | support only states unsupported =>
        cases selection.symm.trans only
        rw [(policyOf_eq_ok_iff retry).mpr states, unsupported]
        rfl
  | _ :: _ :: _ =>
    constructor
    · intro refused
      simp only [resolve, selection, Except.error.injEq] at refused
      subst refused
      exact .number (by simp [selection])
    · intro broken
      cases broken with
      | number => simp [resolve, selection]
      | arguments only | support only => simp [selection] at only

/-- Only retry attributes matter, and not where they stand among the others. -/
theorem resolve_filter (attributes : List Attribute) (supported : Bool) :
    resolve (attributes.filter isRetry) supported = resolve attributes supported := by
  simp only [resolve, List.filter_filter, Bool.and_self]

/-- What is reported is the violation of the first rule that is broken. -/
theorem mapError_resolve_iff {location : Option String} {diagnostic : Diagnostic} :
    (resolve attributes supported).mapError (Violation.diagnostic location) = .error diagnostic ↔
      ∃ violation, FirstBroken attributes supported violation ∧
        violation.diagnostic location = diagnostic := by
  simp only [← resolve_eq_error_iff]
  cases resolve attributes supported <;> simp [Except.mapError]

/-- There is no policy exactly without a retry attribute; there is one exactly if the only retry
attribute keeps all rules and all bindings support it, namely the one that the attribute states; and
otherwise the first rule that is broken is reported. -/
theorem resolve_follows_rules (attributes : List Attribute) (supported : Bool) :
    (resolve attributes supported = .ok none ↔ ∀ attr ∈ attributes, isRetry attr = false) ∧
      (∀ policy, resolve attributes supported = .ok (some policy) ↔
        ∃ attr, attributes.filter isRetry = [attr] ∧ States attr policy ∧ supported = true) ∧
      (∀ violation, resolve attributes supported = .error violation ↔
        FirstBroken attributes supported violation) ∧
      (∀ location diagnostic,
        (resolve attributes supported).mapError (Violation.diagnostic location) =
            .error diagnostic ↔
          ∃ violation, FirstBroken attributes supported violation ∧
            violation.diagnostic location = diagnostic) ∧
      resolve (attributes.filter isRetry) supported = resolve attributes supported :=
  ⟨resolve_eq_none_iff, fun _ => resolve_eq_some_iff, fun _ => resolve_eq_error_iff,
    fun _ _ => mapError_resolve_iff, resolve_filter attributes supported⟩

end Retry

end WorkerBindings
