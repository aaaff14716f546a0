import WorkerBindings.Proofs.Binding.Entries
import WorkerBindings.Proofs.Interval.Format
import WorkerBindings.Record.Manifest

/-!
# Manifests read back

The text of a manifest is read as that manifest, with everything that it states and everything that
it leaves open. Intervals are the one thing in it that text might not show in full; a manifest is
exact if none of its intervals is cut down when it is written.
-/

namespace WorkerBindings

namespace RetryPolicy

/-- The intervals of a policy are shown in full by their texts. -/
def IsExact : RetryPolicy → Prop
  | .fixedDelay _ delay => delay.IsExact
  | .exponentialBackoff _ minimum maximum => minimum.IsExact ∧ maximum.IsExact

theorem decodeInterval_format {interval : Interval} (exact : interval.IsExact) :
    decodeInterval (.string interval.format) = .ok interval := by
  have read : Decoder.string (.string interval.format) = .ok interval.format := rfl
  simp only [decodeInterval, read, bind, Except.bind, exact.parse?_format]

theorem decodeStrategy_fixedDelay (count : UInt32) {delay : Interval} (exact : delay.IsExact) :
    decodeStrategy "fixedDelay" (Reading.ofJson (.object [
      ("maxRetryCount", .nat count.toNat), ("delayInterval", .string delay.format)])) =
      .ok (.fixedDelay count delay) := by
  have read : Decoder.record fixedDelayFields (0, ⟨0⟩) (Reading.ofJson (.object [
      ("maxRetryCount", .nat count.toNat), ("delayInterval", .string delay.format)])) =
      .ok (count, delay) :=
    Decoder.record_of_fills (by decide)
      (.required (Decoder.uint32_ofJson count) (.required (decodeInterval_format exact) (.done _)))
  rw [decodeStrategy, if_pos rfl, read]
  rfl

theorem decodeStrategy_backoff (count : UInt32) {minimum maximum : Interval}
    (minimumExact : minimum.IsExact) (maximumExact : maximum.IsExact) :
    decodeStrategy "exponentialBackoff" (Reading.ofJson (.object [
      ("maxRetryCount", .nat count.toNat), ("minimumInterval", .string minimum.format),
      ("maximumInterval", .string maximum.format)])) =
      .ok (.exponentialBackoff count minimum maximum) := by
  have read : Decoder.record backoffFields (0, ⟨0⟩, ⟨0⟩) (Reading.ofJson (.object [
      ("maxRetryCount", .nat count.toNat), ("minimumInterval", .string minimum.format),
      ("maximumInterval", .string maximum.format)])) = .ok (count, minimum, maximum) :=
    Decoder.record_of_fills (by decide)
      (.required (Decoder.uint32_ofJson count) (.required (decodeInterval_format minimumExact)
        (.required (decodeInterval_format maximumExact) (.done _))))
  rw [decodeStrategy, if_neg (by decide), if_pos rfl, read]
  rfl

/-- A policy is read back from its document. -/
theorem decode_toJson (budget : Nat) {policy : RetryPolicy} (exact : policy.IsExact) :
    decode (budget + 1) (Reading.ofJson policy.toJson) = .ok policy := by
  cases policy with
  | fixedDelay count delay => exact decodeStrategy_fixedDelay count exact
  | exponentialBackoff count minimum maximum => exact decodeStrategy_backoff count exact.1 exact.2

theorem ofJson_toJson_ne_null (policy : RetryPolicy) : Reading.ofJson policy.toJson ≠ .null := by
  cases policy <;> exact Reading.noConfusion

theorem toJson_isIntegral (policy : RetryPolicy) : policy.toJson.IsIntegral := by
  have fits : ∀ count : UInt32, Json.fitsInteger count.toNat := by
    intro count
    have bound := count.toNat_lt
    unfold Json.fitsInteger Text.int64Min Text.uint64Max
    omega
  cases policy with
  | fixedDelay count delay => exact ⟨trivial, fits count, trivial, trivial⟩
  | exponentialBackoff count minimum maximum =>
    exact ⟨trivial, fits count, trivial, trivial, trivial⟩

end RetryPolicy

namespace FunctionRecord

/-- The intervals of a record are shown in full by their texts. -/
def IsExact (record : FunctionRecord) : Prop :=
  ∀ policy, record.retry = some policy → policy.IsExact

theorem nodup_fields (budget : Nat) : ((fields budget).map (·.key)).Nodup := by
  change ["functionId", "isProxy", "language", "managedDependencyEnabled", "name", "entryPoint",
    "scriptFile", "rawBindings", "generatedBindings", "retry"].Nodup
  decide

/-- A record of either form is read back from its document. -/
theorem decode_toJson (budget : Nat) {record : FunctionRecord} (exact : record.IsExact) :
    decode (budget + 4) (Reading.ofJson record.toJson) = .ok record := by
  have bindings : ∀ generated, record.generatedBindings = some generated →
      Decoder.list (budget + 3) StructuredBinding.decode
        (Reading.ofJson (.array (generated.map (·.toJson)))) = .ok generated := fun _ _ =>
    Decoder.items_map fun binding _ => StructuredBinding.decode_toJson budget binding
  have raw : Decoder.list (budget + 3) (fun _ => Decoder.string)
      (Reading.ofJson (Json.strings record.rawBindings)) = .ok record.rawBindings :=
    Decoder.items_map fun _ _ => rfl
  simp only [toJson, List.append_assoc, List.cons_append, List.nil_append]
  refine Decoder.record_of_fills (nodup_fields (budget + 3)) ?_
  refine .optional rfl (fun _ => Reading.noConfusion) (fun _ _ => rfl) ?_
  refine .optional rfl (fun _ => Reading.noConfusion) (fun _ _ => rfl) ?_
  refine .required rfl ?_
  refine .optional rfl (fun _ => Reading.noConfusion) (fun _ _ => rfl) ?_
  refine .required rfl (.required rfl (.required rfl (.defaulted raw ?_)))
  refine .optional rfl (fun _ => Reading.noConfusion) bindings ?_
  exact .optionalLast rfl RetryPolicy.ofJson_toJson_ne_null fun policy stated =>
    RetryPolicy.decode_toJson _ (exact policy stated)

theorem toJson_isIntegral (record : FunctionRecord) : record.toJson.IsIntegral := by
  have text : ∀ key value, Json.MembersAreIntegral (Json.optional key .string value) := by
    intro key value
    refine Json.membersAreIntegral_optional ?_ key
    exact fun _ _ => trivial
  have truth : ∀ key value, Json.MembersAreIntegral (Json.optional key .bool value) := by
    intro key value
    refine Json.membersAreIntegral_optional ?_ key
    exact fun _ _ => trivial
  have raw : (Json.strings record.rawBindings).IsIntegral :=
    Json.areIntegral_map fun _ _ => trivial
  have bindings : Json.MembersAreIntegral (Json.optional "generatedBindings"
      (fun bindings => .array (bindings.map (·.toJson))) record.generatedBindings) := by
    refine Json.membersAreIntegral_optional ?_ _
    exact fun generated _ => Json.areIntegral_map fun binding _ => binding.toJson_isIntegral
  have retry : Json.MembersAreIntegral (Json.optional "retry" RetryPolicy.toJson record.retry) :=
    Json.membersAreIntegral_optional (fun policy _ => policy.toJson_isIntegral) _
  have append := @Json.membersAreIntegral_append
  have names : Json.MembersAreIntegral [("name", .string record.name),
      ("entryPoint", .string record.entryPoint), ("scriptFile", .string record.scriptFile),
      ("rawBindings", Json.strings record.rawBindings)] :=
    ⟨trivial, trivial, trivial, raw, trivial⟩
  have language : Json.MembersAreIntegral [("language", .string record.language)] :=
    ⟨trivial, trivial⟩
  exact append (append (append (append (append (append (text _ _) (truth _ _)) language)
    (truth _ _)) names) bindings) retry

end FunctionRecord

namespace Manifest

/-- The intervals of all functions are shown in full by their texts. -/
def IsExact (manifest : Manifest) : Prop :=
  ∀ record ∈ manifest.functions, record.IsExact

theorem isExact_of_unretried {manifest : Manifest}
    (unretried : ∀ record ∈ manifest.functions, record.retry = none) : manifest.IsExact := by
  intro record member policy stated
  rw [unretried record member] at stated
  cases stated

theorem nodup_fields (budget : Nat) : ((fields budget).map (·.key)).Nodup := by
  change ["namespace", "assemblyName", "autoRegister", "generatedAt", "functions"].Nodup
  decide

/-- A manifest is read back from its document. -/
theorem decode_toJson (budget : Nat) {manifest : Manifest} (exact : manifest.IsExact) :
    decode (budget + 6) (Reading.ofJson manifest.toJson) = .ok manifest := by
  have functions : Decoder.list (budget + 5) FunctionRecord.decode
      (Reading.ofJson (.array (manifest.functions.map (·.toJson)))) = .ok manifest.functions :=
    Decoder.items_map fun record member => FunctionRecord.decode_toJson budget (exact record member)
  refine Decoder.record_of_fills (nodup_fields (budget + 5)) ?_
  exact .required rfl (.required rfl (.defaulted rfl (.required rfl (.defaulted functions
    (.done manifest)))))

theorem toJson_isIntegral (manifest : Manifest) : manifest.toJson.IsIntegral :=
  ⟨trivial, trivial, trivial, trivial,
    Json.areIntegral_map fun record _ => record.toJson_isIntegral, trivial⟩

/-- The text of a manifest is read as that manifest. -/
theorem ofText_text {manifest : Manifest} (exact : manifest.IsExact) :
    ofText manifest.text = .ok manifest := by
  rw [ofText, text, Decoder.decodeText_pretty decode manifest.toJson_isIntegral]
  exact decode_toJson 121 exact

end Manifest

end WorkerBindings
