import WorkerBindings.Assembly.Module
import WorkerBindings.Proofs.Assembly.Verdict
import WorkerBindings.Proofs.Documents.Asking
import WorkerBindings.Proofs.Documents.Saving
import WorkerBindings.Proofs.Retry.Documents
import WorkerBindings.Proofs.Retry.Resolution
import WorkerBindings.Resolution

/-!
# Valid retry policies

A valid policy repeats a call at least once, after pauses that do not shrink. Resolution refuses
every other one, so attributes lead to valid policies only, and so do whole runs. Documents are read
without that check: the policies of a loaded manifest are valid exactly if its document states valid
ones.
-/

namespace WorkerBindings

/-- A call is repeated at least once, after pauses that do not shrink. -/
def RetryPolicy.IsValid : RetryPolicy → Prop
  | .fixedDelay count _ => 0 < count
  | .exponentialBackoff count minimum maximum => 0 < count ∧ minimum.nanos ≤ maximum.nanos

instance : DecidablePred RetryPolicy.IsValid
  | .fixedDelay count _ => inferInstanceAs (Decidable (0 < count))
  | .exponentialBackoff count minimum maximum =>
    inferInstanceAs (Decidable (0 < count ∧ minimum.nanos ≤ maximum.nanos))

/-- All policies of a manifest are valid. -/
def Manifest.RetriesAreValid (manifest : Manifest) : Prop :=
  ∀ policy ∈ manifest.retries, policy.IsValid

namespace Retry

theorem StatesCount.positive {attr : Attribute} {count : UInt32} (states : StatesCount attr count) :
    0 < count := by
  obtain ⟨_, value, _, _, positive, _, same⟩ := states
  rw [UInt32.lt_iff_toNat_lt]
  change 0 < count.toNat
  omega

theorem States.isValid {attr : Attribute} {policy : RetryPolicy} (states : States attr policy) :
    policy.IsValid := by
  cases states with
  | fixedDelay _ counted _ => exact counted.positive
  | backoff _ counted _ _ ordered => exact ⟨counted.positive, ordered⟩

/-- Attributes lead to valid policies only. -/
theorem resolve_isValid {attributes : List Attribute} {supported : Bool} {policy : RetryPolicy}
    (resolved : resolve attributes supported = .ok (some policy)) : policy.IsValid := by
  obtain ⟨_, _, states, _⟩ := resolve_eq_some_iff.mp resolved
  exact states.isValid

end Retry

/-- Whatever a step of assembling returns has the postcondition. -/
def Assembling.Returns {α : Type} (step : Assembling α) (post : α → Prop) : Prop :=
  ∀ (session : Session) value after, step session = (.ok value, after) → post value

namespace Assembling.Returns

variable {α β : Type} {post : β → Prop}

theorem pure {value : β} (holds : post value) : Returns (Pure.pure value) post := by
  intro session result after returned
  cases returned
  exact holds

theorem bind {step : Assembling α} {next : α → Assembling β} {middle : α → Prop}
    (first : Returns step middle) (second : ∀ value, middle value → Returns (next value) post) :
    Returns (step >>= next) post := by
  intro session result after returned
  rw [bind_apply] at returned
  rcases isStep : step session with ⟨_ | value, between⟩
  · rw [isStep] at returned
    cases returned
  · rw [isStep] at returned
    exact second value (first session value between isStep) between result after returned

/-- A step of which nothing is to be remembered. -/
theorem seq {step : Assembling α} {next : α → Assembling β}
    (second : ∀ value, Returns (next value) post) : Returns (step >>= next) post := by
  have anything : Returns step fun _ => True := fun _ _ _ _ => trivial
  exact anything.bind fun value _ => second value

end Assembling.Returns

/-- The policy that an outcome declares, if any, is valid. -/
def Outcome.RetryIsValid (outcome : Outcome) : Prop :=
  ∀ declaration, outcome.declaration = some declaration →
    ∀ policy, declaration.retry = some policy → policy.IsValid

namespace Method

open Assembling

variable {method : Method}

theorem retryIsValid_rejected (name : String) (diagnostics : List Diagnostic) :
    (Outcome.rejected name diagnostics).RetryIsValid :=
  nofun

theorem Validated.retryIsValid {functionName : String} {parameters outputs : Output}
    {outcome : Outcome} (validated : Validated method functionName parameters outputs outcome) :
    outcome.RetryIsValid := by
  cases validated with
  | refused reports => exact retryIsValid_rejected functionName _
  | passed _ _ resolved =>
    rintro declaration ⟨⟩ policy declares
    cases declares
    exact Retry.resolve_isValid resolved

theorem assembleNamed_returns (registry : Registry) (interruption : Interruption)
    (method : Method) (functionName : String) :
    Returns (method.assembleNamed registry interruption functionName) Outcome.RetryIsValid := by
  refine .seq fun parameters => ?_
  split
  · exact .pure (retryIsValid_rejected functionName _)
  · exact .seq fun outputs => .pure (validate_validated method _ _ _).retryIsValid

theorem assemble_returns (registry : Registry) (interruption : Interruption) (method : Method) :
    Returns (method.assemble registry interruption) fun result =>
      ∀ outcome ∈ result, outcome.RetryIsValid := by
  refine .seq fun _ => ?_
  split
  · exact .pure nofun
  · rename_i diagnostic _
    refine .pure fun outcome isOutcome => ?_
    cases isOutcome
    exact retryIsValid_rejected _ _
  · rename_i functionName _
    refine .bind (assembleNamed_returns registry interruption method functionName)
      fun outcome valid => .pure fun result isResult => ?_
    cases isResult
    exact valid

end Method

namespace WorkerModule

open Assembling

theorem assembleFrom_returns (registry : Registry) (interruption : Interruption) (place : Nat)
    (methods : List Method) :
    Returns (assembleFrom registry interruption place methods) fun outcomes =>
      ∀ outcome ∈ outcomes, outcome.RetryIsValid := by
  induction methods generalizing place with
  | nil => exact .pure nofun
  | cons method rest ih =>
    refine .seq fun _ => ?_
    refine .bind (method.assemble_returns registry interruption) fun first validFirst => ?_
    refine .bind (ih (place + 1)) fun others validOthers => .pure fun outcome isOutcome => ?_
    rcases List.mem_append.mp isOutcome with here | later
    · exact validFirst outcome (Option.mem_toList.mp here)
    · exact validOthers outcome later

theorem summarize_retriesAreValid (module : WorkerModule) (context : ModuleContext)
    (generatedAt : String) {outcomes : List Outcome}
    (valid : ∀ outcome ∈ outcomes, outcome.RetryIsValid) {manifest : Manifest}
    (emitted : (module.summarize context generatedAt outcomes).manifest = some manifest) :
    manifest.RetriesAreValid := by
  have functions := ModuleContext.functions_of_emit? emitted
  intro policy member
  obtain ⟨record, isRecord, states⟩ := List.mem_filterMap.mp member
  rw [functions] at isRecord
  obtain ⟨declaration, declared, rfl⟩ := List.mem_map.mp isRecord
  obtain ⟨outcome, isOutcome, declares⟩ := List.mem_filterMap.mp declared
  rw [ModuleContext.record_retry] at states
  exact valid outcome isOutcome declaration declares policy states

/-- Every policy of a manifest that a run emits is valid. -/
theorem run_returns (registry : Registry) (interruption : Interruption) (module : WorkerModule)
    (context : ModuleContext) (generatedAt : String) :
    Returns (module.run registry interruption context generatedAt) fun outcome =>
      ∀ manifest, outcome.manifest = some manifest → manifest.RetriesAreValid := by
  refine .bind (assembleFrom_returns registry interruption 0 module.methods)
    fun outcomes valid => ?_
  exact .seq fun _ => .pure fun manifest emitted =>
    module.summarize_retriesAreValid context generatedAt valid emitted

end WorkerModule

/-- The policy that a document states, if any, is valid. -/
def RetryPolicy.StatesValid (document : Reading) : Prop :=
  ∀ policy : RetryPolicy, policy.IsStatedBy document → policy.IsValid

namespace Manifest

/-- The policies that were read are valid exactly if those that are stated are. -/
theorem retriesAreValid_iff {manifest : Manifest} {stated : List Reading}
    (each : List.Forall₂ (fun stated policy => policy.IsStatedBy stated) stated
      manifest.retries) :
    manifest.RetriesAreValid ↔ ∀ document ∈ stated, RetryPolicy.StatesValid document := by
  unfold RetriesAreValid
  generalize manifest.retries = policies at each
  induction each with
  | nil => simp
  | @cons document policy _ _ first _ ih =>
    have here : policy.IsValid ↔ RetryPolicy.StatesValid document :=
      ⟨fun valid other states => first.unique states ▸ valid, fun valid => valid policy first⟩
    rw [List.forall_mem_cons, List.forall_mem_cons, here, ih]

end Manifest

/-- Resolution yields valid policies only, and so does every run. The policies of a manifest that
was loaded are those that its document states, and valid exactly if those are. -/
theorem RetryPolicy.validity_of_sources (attributes : List Attribute) (supported : Bool)
    (module : WorkerModule) (context : ModuleContext) (workspace : Workspace) (path : String) :
    (∀ policy, Retry.resolve attributes supported = .ok (some policy) → policy.IsValid) ∧
      (∀ registry interruption generatedAt session outcome after manifest,
        module.run registry interruption context generatedAt session = (.ok outcome, after) →
          outcome.manifest = some manifest → manifest.RetriesAreValid) ∧
      ∀ manifest, workspace.manifestAt path = .ok manifest →
        ∃ text, workspace.read path = .ok text ∧
          List.Forall₂ (fun stated policy => policy.IsStatedBy stated)
            (Manifest.statedRetries (Reading.ofText text).value) manifest.retries ∧
          (manifest.RetriesAreValid ↔
            ∀ stated ∈ Manifest.statedRetries (Reading.ofText text).value, StatesValid stated) := by
  refine ⟨fun _ => Retry.resolve_isValid, ?_, ?_⟩
  · intro registry interruption generatedAt session outcome after manifest ran
    exact module.run_returns registry interruption context generatedAt session outcome after ran
      manifest
  · intro manifest loaded
    obtain ⟨text, found, reads⟩ := Manifest.manifestAt_eq_ok loaded
    have each := Manifest.ofText_retries reads
    exact ⟨text, found, each, Manifest.retriesAreValid_iff each⟩

/-- A manifest with a policy that never repeats a call, and one whose pauses shrink. -/
def Manifest.hasty : Manifest where
  providerNamespace := "AzureFunctionInternals.Orders"
  assemblyName := "Orders"
  autoRegister := false
  generatedAt := "2024-01-01T00:00:00Z"
  functions := [
    { FunctionRecord.blank with
      language := FunctionRecord.workerLanguage
      name := "Place"
      entryPoint := "Place"
      scriptFile := "Orders.dll"
      generatedBindings := some
        [⟨"order", .inward, "queueTrigger", some .undefined, Properties.empty⟩]
      retry := some (.fixedDelay 0 ⟨5000000000⟩) },
    { FunctionRecord.blank with
      language := FunctionRecord.workerLanguage
      name := "Cancel"
      entryPoint := "Cancel"
      scriptFile := "Orders.dll"
      generatedBindings := some
        [⟨"order", .inward, "queueTrigger", some .undefined, Properties.empty⟩]
      retry := some (.exponentialBackoff 3 ⟨900000000000⟩ ⟨4000000000⟩) }]

/-- Such a manifest is loaded, and all of its functions can be resolved. -/
theorem Manifest.load_hasty :
    ∃ workspace : Workspace, workspace.read "in.json" = .ok hasty.text ∧
      workspace.manifestAt "in.json" = .ok hasty ∧ hasty.failures = [] ∧
      hasty.retries ≠ [] ∧ ∀ policy ∈ hasty.retries, ¬ policy.IsValid := by
  have exact : hasty.IsExact := by
    intro record member policy stated
    simp only [hasty, List.mem_cons, List.not_mem_nil, or_false] at member
    rcases member with rfl | rfl
    · cases stated
      exact ⟨by decide, by decide⟩
    · cases stated
      exact ⟨⟨by decide, by decide⟩, by decide, by decide⟩
  let workspace : Workspace := ⟨.directory [("in.json", .file hasty.text)], [], "", "", "", ""⟩
  have found : workspace.read "in.json" = .ok hasty.text := rfl
  refine ⟨workspace, found, ?_, rfl, by decide, by decide⟩
  rw [Workspace.manifestAt, load_of_read found (ofText_text exact)]

end WorkerBindings
