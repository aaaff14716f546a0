import WorkerBindings.Proofs.Documents.Manifests
import WorkerBindings.Proofs.Json.Fields

/-!
# Retry policies of documents

A policy that was read from a document is the one that the document states (`IsStatedBy`), and the
policies of a manifest are those that its functions state, in their order. Nothing else is asked of
them: any count of 32 bits will do and any two intervals.
-/

namespace WorkerBindings

namespace RetryPolicy

theorem uint32_eq_ok_iff {reading : Reading} {count : UInt32} :
    Decoder.uint32 reading = .ok count ↔ reading = .number (.integer count.toNat) := by
  constructor
  · intro decoded
    rw [Decoder.uint32, bind_eq_ok_iff] at decoded
    obtain ⟨value, between, same⟩ := decoded
    unfold Decoder.intBetween at between
    split at between
    · split at between
      · rename_i inside
        cases between
        cases same
        have short : value.toNat < UInt32.size := by
          change value.toNat < 4294967296
          omega
        rw [UInt32.toNat_ofNat_of_lt' short, Int.toNat_of_nonneg inside.1]
      · cases between
    · cases between
  · rintro rfl
    exact Decoder.uint32_ofJson count

theorem decodeInterval_eq_ok_iff {reading : Reading} {interval : Interval} :
    decodeInterval reading = .ok interval ↔
      ∃ text, reading = .string text ∧ Interval.parse? text = some interval := by
  have isText (value : String) : Decoder.string reading = .ok value ↔ reading = .string value := by
    cases reading <;> simp [Decoder.string]
  simp only [decodeInterval, bind_eq_ok_iff, isText]
  refine exists_congr fun value => and_congr_right fun _ => ?_
  cases Interval.parse? value <;> simp

/-- A document states a count: an integer. -/
def StatesCount (document : Reading) (key : String) (place : Nat) (count : UInt32) : Prop :=
  document.field? key place = some (.number (.integer count.toNat))

/-- A document states an interval: text that is read as one. -/
def StatesInterval (document : Reading) (key : String) (place : Nat) (interval : Interval) : Prop :=
  ∃ text, document.field? key place = some (.string text) ∧ Interval.parse? text = some interval

section

variable {α : Type} {fields : List (Decoder.Field α)} {place : Nat} {field : Decoder.Field α}
  {blank result : α} {document : Reading}

theorem statesCount_of_record {get : α → UInt32}
    (owns : Decoder.Owns fields place field Decoder.uint32 get) (isRequired : field.required = true)
    (decoded : Decoder.record fields blank document = .ok result) :
    StatesCount document field.key place (get result) := by
  obtain ⟨stated, isStated, reads⟩ := Decoder.record_requiredField owns isRequired decoded
  rw [StatesCount, isStated, uint32_eq_ok_iff.mp reads]

theorem statesInterval_of_record {get : α → Interval}
    (owns : Decoder.Owns fields place field decodeInterval get)
    (isRequired : field.required = true)
    (decoded : Decoder.record fields blank document = .ok result) :
    StatesInterval document field.key place (get result) := by
  obtain ⟨stated, isStated, reads⟩ := Decoder.record_requiredField owns isRequired decoded
  obtain ⟨text, rfl, parses⟩ := decodeInterval_eq_ok_iff.mp reads
  exact ⟨text, isStated, parses⟩

end

/-- The policy that a document states by its strategy and the values beside it or after it. -/
inductive IsStatedBy (document : Reading) : RetryPolicy → Prop where
  | fixedDelay {count : UInt32} {delay : Interval}
      (strategy : document.field? strategyKey 0 = some (.string "fixedDelay"))
      (counted : StatesCount document "maxRetryCount" 1 count)
      (delayed : StatesInterval document "delayInterval" 2 delay) :
      IsStatedBy document (.fixedDelay count delay)
  | backoff {count : UInt32} {minimum maximum : Interval}
      (strategy : document.field? strategyKey 0 = some (.string "exponentialBackoff"))
      (counted : StatesCount document "maxRetryCount" 1 count)
      (least : StatesInterval document "minimumInterval" 2 minimum)
      (most : StatesInterval document "maximumInterval" 3 maximum) :
      IsStatedBy document (.exponentialBackoff count minimum maximum)

theorem StatesCount.unique {document : Reading} {key : String} {place : Nat}
    {count other : UInt32} (states : StatesCount document key place count)
    (statesOther : StatesCount document key place other) : count = other := by
  have same := states.symm.trans statesOther
  simp only [Option.some.injEq, Reading.number.injEq, Number.integer.injEq, Int.ofNat_inj] at same
  exact UInt32.toNat_inj.mp same

theorem StatesInterval.unique {document : Reading} {key : String} {place : Nat}
    {interval other : Interval} (states : StatesInterval document key place interval)
    (statesOther : StatesInterval document key place other) : interval = other := by
  obtain ⟨text, isStated, reads⟩ := states
  obtain ⟨_, isStatedOther, readsOther⟩ := statesOther
  cases isStated.symm.trans isStatedOther
  exact Option.some.inj (reads.symm.trans readsOther)

/-- A document states at most one policy. -/
theorem IsStatedBy.unique {document : Reading} {policy other : RetryPolicy}
    (states : policy.IsStatedBy document) (statesOther : other.IsStatedBy document) :
    policy = other := by
  cases states with
  | fixedDelay strategy counted delayed =>
    cases statesOther with
    | fixedDelay _ countedOther delayedOther =>
      rw [counted.unique countedOther, delayed.unique delayedOther]
    | backoff strategyOther => exact absurd (strategy.symm.trans strategyOther) (by simp)
  | backoff strategy counted least most =>
    cases statesOther with
    | fixedDelay strategyOther => exact absurd (strategy.symm.trans strategyOther) (by simp)
    | backoff _ countedOther leastOther mostOther =>
      rw [counted.unique countedOther, least.unique leastOther, most.unique mostOther]

theorem fixedDelayFields_stated {document : Reading} {count : UInt32} {delay : Interval}
    (decoded : Decoder.record fixedDelayFields (0, ⟨0⟩) document = .ok (count, delay)) :
    StatesCount document "maxRetryCount" 0 count ∧
      StatesInterval document "delayInterval" 1 delay := by
  have ownsCount : Decoder.Owns fixedDelayFields 0 _ Decoder.uint32 Prod.fst := {
    here := rfl
    distinct := by decide
    stores := Decoder.stores_of_put rfl fun _ _ => rfl
    keeps := by
      simp only [fixedDelayFields, List.forall_mem_cons]
      exact ⟨fun other => absurd rfl other,
        fun _ => Decoder.keeps_of_put rfl fun _ _ => rfl, nofun⟩ }
  have ownsDelay : Decoder.Owns fixedDelayFields 1 _ decodeInterval Prod.snd := {
    here := rfl
    distinct := by decide
    stores := Decoder.stores_of_put rfl fun _ _ => rfl
    keeps := by
      simp only [fixedDelayFields, List.forall_mem_cons]
      exact ⟨fun _ => Decoder.keeps_of_put rfl fun _ _ => rfl,
        fun other => absurd rfl other, nofun⟩ }
  exact ⟨statesCount_of_record ownsCount rfl decoded,
    statesInterval_of_record ownsDelay rfl decoded⟩

theorem backoffFields_stated {document : Reading} {count : UInt32} {minimum maximum : Interval}
    (decoded : Decoder.record backoffFields (0, ⟨0⟩, ⟨0⟩) document =
      .ok (count, minimum, maximum)) :
    StatesCount document "maxRetryCount" 0 count ∧
      StatesInterval document "minimumInterval" 1 minimum ∧
      StatesInterval document "maximumInterval" 2 maximum := by
  have ownsCount : Decoder.Owns backoffFields 0 _ Decoder.uint32 Prod.fst := {
    here := rfl
    distinct := by decide
    stores := Decoder.stores_of_put rfl fun _ _ => rfl
    keeps := by
      simp only [backoffFields, List.forall_mem_cons]
      exact ⟨fun other => absurd rfl other, fun _ => Decoder.keeps_of_put rfl fun _ _ => rfl,
        fun _ => Decoder.keeps_of_put rfl fun _ _ => rfl, nofun⟩ }
  have ownsMinimum : Decoder.Owns backoffFields 1 _ decodeInterval (·.2.1) := {
    here := rfl
    distinct := by decide
    stores := Decoder.stores_of_put rfl fun _ _ => rfl
    keeps := by
      simp only [backoffFields, List.forall_mem_cons]
      exact ⟨fun _ => Decoder.keeps_of_put rfl fun _ _ => rfl, fun other => absurd rfl other,
        fun _ => Decoder.keeps_of_put rfl fun _ _ => rfl, nofun⟩ }
  have ownsMaximum : Decoder.Owns backoffFields 2 _ decodeInterval (·.2.2) := {
    here := rfl
    distinct := by decide
    stores := Decoder.stores_of_put rfl fun _ _ => rfl
    keeps := by
      simp only [backoffFields, List.forall_mem_cons]
      exact ⟨fun _ => Decoder.keeps_of_put rfl fun _ _ => rfl,
        fun _ => Decoder.keeps_of_put rfl fun _ _ => rfl, fun other => absurd rfl other, nofun⟩ }
  exact ⟨statesCount_of_record ownsCount rfl decoded,
    statesInterval_of_record ownsMinimum rfl decoded,
    statesInterval_of_record ownsMaximum rfl decoded⟩

/-- The strategy stands beside the other values or in front of them. -/
theorem decode_strategy {budget : Nat} {document : Reading} {policy : RetryPolicy}
    (accepted : decode budget document = .ok policy) :
    ∃ strategy others, document.field? strategyKey 0 = some (.string strategy) ∧
      decodeStrategy strategy others = .ok policy ∧
      ∀ key ≠ strategyKey, ∀ place, others.field? key place = document.field? key (place + 1) := by
  obtain ⟨inner, decoded⟩ := Decoder.nested_eq_ok accepted
  split at decoded
  · rename_i members
    split at decoded
    · split at decoded
      · rename_i strategy others split
        rw [List.partition_eq_filter_filter, Prod.mk.injEq] at split
        obtain ⟨selected, rest⟩ := split
        refine ⟨strategy, .object others, ?_, decoded, fun key different place => ?_⟩
        · simp only [Reading.field?, ← List.head?_filter, selected]
          rfl
        · simp only [Reading.field?, ← rest, List.find?_filter]
          congr 2
          funext member
          by_cases same : member.1 = some key <;> simp [same, different]
      · cases decoded
    · cases decoded
  · rename_i strategy others
    split at decoded
    · exact ⟨strategy, .array others, rfl, decoded, fun _ _ _ => rfl⟩
    · cases decoded
  · cases decoded

/-- A policy that was read is the one that the document states. -/
theorem decode_isStatedBy {budget : Nat} {document : Reading} {policy : RetryPolicy}
    (decoded : decode budget document = .ok policy) : policy.IsStatedBy document := by
  obtain ⟨strategy, others, isStrategy, decoded, sameFields⟩ := decode_strategy decoded
  unfold decodeStrategy at decoded
  split at decoded
  · rename_i isFixed
    obtain ⟨⟨count, delay⟩, filled, rfl⟩ := map_eq_ok_iff.mp decoded
    obtain ⟨counted, delayed⟩ := fixedDelayFields_stated filled
    rw [StatesCount, sameFields _ (by decide)] at counted
    rw [StatesInterval, sameFields _ (by decide)] at delayed
    exact .fixedDelay (isFixed ▸ isStrategy) counted delayed
  · split at decoded
    · rename_i isBackoff
      obtain ⟨⟨count, minimum, maximum⟩, filled, rfl⟩ := map_eq_ok_iff.mp decoded
      obtain ⟨counted, least, most⟩ := backoffFields_stated filled
      rw [StatesCount, sameFields _ (by decide)] at counted
      rw [StatesInterval, sameFields _ (by decide)] at least most
      exact .backoff (isBackoff ▸ isStrategy) counted least most
    · cases decoded

end RetryPolicy

namespace FunctionRecord

/-- The document of the policy that the document of a function states, if it states one; null is
none. -/
def statedPolicy? (document : Reading) : Option Reading :=
  match document.field? "retry" 9 with
  | none => none
  | some .null => none
  | some stated => some stated

theorem ownsRetry (budget : Nat) : Decoder.Owns (fields budget) 9
    (Decoder.defaulted "retry" (Decoder.optional (RetryPolicy.decode budget)) fun value record =>
      { record with retry := value })
    (Decoder.optional (RetryPolicy.decode budget)) (·.retry) where
  here := rfl
  distinct := nodup_fields budget
  stores := Decoder.stores_of_put rfl fun _ _ => rfl
  keeps := by
    simp only [fields, List.forall_mem_cons]
    refine ⟨?_, ?_, ?_, ?_, ?_, ?_, ?_, ?_, ?_, fun other => absurd rfl other, nofun⟩ <;>
      exact fun _ => Decoder.keeps_of_put rfl fun _ _ => rfl

/-- A function that was read has the policy that its document states, or none where it states
none. -/
theorem decode_retry {budget : Nat} {document : Reading} {record : FunctionRecord}
    (decoded : decode budget document = .ok record) :
    Option.Rel (fun stated policy => policy.IsStatedBy stated) (statedPolicy? document)
      record.retry := by
  obtain ⟨inner, decoded⟩ := Decoder.nested_eq_ok decoded
  have obtains := Decoder.record_field (ownsRetry inner) decoded
  change Decoder.Obtains _ _ _ (document.field? "retry" 9) _ at obtains
  unfold statedPolicy?
  generalize document.field? "retry" 9 = stated at obtains
  cases obtains with
  | leftOut _ kept =>
    rw [kept]
    exact .none
  | stated reads =>
    obtain ⟨rfl, held⟩ | ⟨present, policy, decodes, held⟩ := Decoder.optional_eq_ok_iff.mp reads
    · rw [held]
      exact .none
    · rw [held]
      split
      · rename_i missing
        cases missing
      · rename_i isNull
        cases isNull
        exact absurd rfl present
      · rename_i isStated
        cases isStated
        exact .some (RetryPolicy.decode_isStatedBy decodes)

end FunctionRecord

namespace Manifest

/-- The documents of the policies that the document of a manifest states, function by function. -/
def statedRetries (document : Reading) : List Reading :=
  match document.field? "functions" 4 with
  | some (.array functions) => functions.filterMap FunctionRecord.statedPolicy?
  | _ => []

/-- The policies of the functions of a manifest. -/
def retries (manifest : Manifest) : List RetryPolicy :=
  manifest.functions.filterMap (·.retry)

theorem ownsFunctions (budget : Nat) : Decoder.Owns (fields budget) 4
    (Decoder.defaulted "functions" (Decoder.list budget FunctionRecord.decode)
      fun value manifest => { manifest with functions := value })
    (Decoder.list budget FunctionRecord.decode) (·.functions) where
  here := rfl
  distinct := nodup_fields budget
  stores := Decoder.stores_of_put rfl fun _ _ => rfl
  keeps := by
    simp only [fields, List.forall_mem_cons]
    refine ⟨?_, ?_, ?_, ?_, fun other => absurd rfl other, nofun⟩ <;>
      exact fun _ => Decoder.keeps_of_put rfl fun _ _ => rfl

/-- The policies of a manifest that was read are those that its document states. -/
theorem decode_retries {budget : Nat} {document : Reading} {manifest : Manifest}
    (decoded : decode budget document = .ok manifest) :
    List.Forall₂ (fun stated policy => policy.IsStatedBy stated) (statedRetries document)
      manifest.retries := by
  obtain ⟨inner, decoded⟩ := Decoder.nested_eq_ok decoded
  have obtains := Decoder.record_field (ownsFunctions inner) decoded
  change Decoder.Obtains _ _ _ (document.field? "functions" 4) _ at obtains
  unfold statedRetries retries
  generalize document.field? "functions" 4 = stated at obtains
  cases obtains with
  | leftOut _ kept =>
    rw [kept]
    exact .nil
  | stated reads =>
    obtain ⟨_, readings, rfl, each⟩ := Decoder.list_eq_ok reads
    exact forall₂_filterMap (each.imp fun _ _ => FunctionRecord.decode_retry)

/-- The policies of a manifest are those that its text states, in the order of the functions. -/
theorem ofText_retries {text : String} {manifest : Manifest} (reads : ofText text = .ok manifest) :
    List.Forall₂ (fun stated policy => policy.IsStatedBy stated)
      (statedRetries (Reading.ofText text).value) manifest.retries := by
  rw [ofText, Decoder.decodeText, bind_eq_ok_iff] at reads
  obtain ⟨found, decoded, complete⟩ := reads
  split at complete
  · cases complete
    exact decode_retries decoded
  · cases complete

end Manifest

end WorkerBindings
