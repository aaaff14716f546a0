import WorkerBindings.Proofs.Assembly.BindingNames
import WorkerBindings.Proofs.Assembly.Isolation
import WorkerBindings.Proofs.Assembly.Runs
import WorkerBindings.Proofs.Resolution.Raw
import WorkerBindings.Proofs.Resolution.Records

/-!
# Emitted records at the host

Which of the records that a run emits a host can resolve. Every binding of such a record has a
direction and a type, so two things remain that can go wrong: two outputs of one name, which
assembling does not look for, and an argument that a host takes for the payload hint, which the
generators pass on as they pass on any other.
-/

namespace WorkerBindings

/-- A host can resolve the record. -/
def FunctionRecord.Resolves (record : FunctionRecord) : Prop :=
  ∃ resolved, record.resolve = .ok resolved

/-- A host can read what it takes for the payload hints of the bindings. -/
def Declaration.HintsReadable (declaration : Declaration) : Prop :=
  ∀ binding ∈ declaration.bindings, binding.HintReadable

namespace ResolvedBinding

variable {step : Binding → Except ResolutionError ResolvedBinding}

/-- Bindings that are read under their own names have these names in their order. -/
theorem names_of_forall₂ {bindings : List Binding} {resolved : List ResolvedBinding}
    (named : ∀ binding ∈ bindings, ∀ found, step binding = .ok found →
      found.name = binding.name)
    (readAll : List.Forall₂ (fun binding found => step binding = .ok found) bindings resolved) :
    resolved.map (·.name) = bindings.map (·.name) := by
  induction readAll with
  | nil => rfl
  | cons first others ih =>
    rw [List.map_cons, List.map_cons, named _ List.mem_cons_self _ first]
    rw [ih fun other member => named other (List.mem_cons_of_mem _ member)]

/-- A record whose bindings are read one by one is resolved exactly if each of them is read, there
is one, and their names differ. -/
theorem resolves_iff {record : FunctionRecord} {bindings : List Binding}
    (reads : ∀ resolved, record.resolveEach = .ok resolved ↔
      List.Forall₂ (fun binding found => step binding = .ok found) bindings resolved)
    (named : ∀ binding ∈ bindings, ∀ found, step binding = .ok found →
      found.name = binding.name) :
    record.Resolves ↔ (∀ binding ∈ bindings, ∃ found, step binding = .ok found) ∧
      bindings ≠ [] ∧ (bindings.map (·.name)).Nodup := by
  have sameLength : ∀ {resolved}, List.Forall₂ (fun binding found => step binding = .ok found)
      bindings resolved → (resolved ≠ [] ↔ bindings ≠ []) := by
    intro resolved readAll
    rw [← List.length_pos_iff, ← List.length_pos_iff, readAll.length_eq]
  unfold FunctionRecord.Resolves
  simp only [FunctionRecord.resolve_eq_ok_iff, reads]
  rw [← exists_results_iff]
  constructor
  · rintro ⟨resolved, readAll, nonempty, distinct⟩
    rw [names_of_forall₂ named readAll] at distinct
    exact ⟨⟨resolved, readAll⟩, (sameLength readAll).mp nonempty, distinct⟩
  · rintro ⟨⟨resolved, readAll⟩, nonempty, distinct⟩
    rw [← names_of_forall₂ named readAll] at distinct
    exact ⟨resolved, readAll, (sameLength readAll).mpr nonempty, distinct⟩

end ResolvedBinding

namespace Binding

variable {requests : List Request} {bindings : List Binding}

theorem exists_fits
    (fits : List.Forall₂ (fun request binding => Fits binding request) requests bindings) :
    ∀ binding ∈ bindings, ∃ request, Fits binding request := by
  induction fits with
  | nil => simp
  | cons first others ih => exact List.forall_mem_cons.mpr ⟨⟨_, first⟩, ih⟩

theorem hintsReadable_iff
    (fits : List.Forall₂ (fun request binding => Fits binding request) requests bindings) :
    (∀ binding ∈ bindings, HintReadable binding) ↔
      ∀ request ∈ requests, request.attr.HintReadable := by
  induction fits with
  | nil => simp
  | cons first others ih =>
    rw [List.forall_mem_cons, List.forall_mem_cons, ih, first.hintReadable_iff]

theorem names_of_fits
    (fits : List.Forall₂ (fun request binding => Fits binding request) requests bindings) :
    bindings.map (·.name) = requests.map Method.requestName := by
  induction fits with
  | nil => rfl
  | cons first others ih =>
    rw [List.map_cons, List.map_cons, ih, first.name]
    rfl

end Binding

namespace ModuleContext

variable {declaration : Declaration}

/-- The minimal record of a declaration whose bindings fit requests. -/
theorem minimalRecord_resolves_iff (context : ModuleContext)
    (fit : ∀ binding ∈ declaration.bindings, ∃ request, binding.Fits request) :
    (context.minimalRecord declaration).Resolves ↔ declaration.HintsReadable ∧
      declaration.bindings ≠ [] ∧ (declaration.bindings.map (·.name)).Nodup := by
  have reads : ∀ resolved, (context.minimalRecord declaration).resolveEach = .ok resolved ↔
      List.Forall₂ (fun binding found => ResolvedBinding.ofRawText binding.rawText = .ok found)
        declaration.bindings resolved := by
    intro resolved
    rw [FunctionRecord.resolveEach_raw rfl]
    exact List.forall₂_map_left_iff
  rw [ResolvedBinding.resolves_iff reads]
  · refine and_congr_left fun _ => forall₂_congr fun binding member => ?_
    obtain ⟨request, fits⟩ := fit binding member
    exact (ResolvedBinding.ofRawText_fits fits).1
  · intro binding member
    obtain ⟨request, fits⟩ := fit binding member
    exact (ResolvedBinding.ofRawText_fits fits).2

/-- The rich record of a declaration. Its structured bindings all state a hint. -/
theorem record_resolves_iff_of_isParsable (context : ModuleContext)
    (parsable : declaration.isParsable = true) :
    (context.record declaration).Resolves ↔
      declaration.bindings ≠ [] ∧ (declaration.bindings.map (·.name)).Nodup := by
  have rich : (context.record declaration).generatedBindings =
      some (declaration.bindings.map (·.structured)) := by
    rw [record, if_pos parsable]
  have reads : ∀ resolved, (context.record declaration).resolveEach = .ok resolved ↔
      List.Forall₂
        (fun binding found => ResolvedBinding.ofStructured binding.structured = .ok found)
        declaration.bindings resolved := by
    intro resolved
    rw [FunctionRecord.resolveEach_structured rich]
    exact List.forall₂_map_left_iff
  rw [ResolvedBinding.resolves_iff reads]
  · refine and_iff_right fun binding _ => ⟨_, rfl⟩
  · rintro binding _ found read
    cases read
    rfl

end ModuleContext

/-- All functions of a manifest can be resolved exactly if there are no failures. -/
theorem Manifest.failures_eq_nil_iff (manifest : Manifest) :
    manifest.failures = [] ↔ ∀ record ∈ manifest.functions, record.Resolves := by
  unfold failures FunctionRecord.Resolves
  rw [List.filterMap_eq_nil_iff]
  refine forall₂_congr fun record _ => ?_
  cases record.resolve with
  | ok resolved => simp
  | error reason => simp

namespace Method

variable {registry : Registry} {final : SymbolCache} {method : Method} {declaration : Declaration}

/-- What the attributes that are bound state as payload hints is readable. -/
def HintsReadable (facts : Attribute → Capabilities) (method : Method) : Prop :=
  ∀ request ∈ method.requests facts, request.attr.HintReadable

theorem Declares.fits (declares : Declares registry final method declaration)
    (builtIn : registry.IsBuiltIn) :
    List.Forall₂ (fun request binding => binding.Fits request) (method.requests final.facts)
      declaration.bindings :=
  declares.binds.imp fun _ _ binds => binds.fits builtIn

/-- There is a binding for the trigger at least. -/
theorem Declares.nonempty (declares : Declares registry final method declaration) :
    declaration.bindings ≠ [] := by
  intro unbound
  obtain ⟨trigger, only⟩ := declares.oneTrigger
  have binds := declares.binds
  rw [unbound, List.forall₂_nil_right_iff, requests, only] at binds
  cases binds

/-- The bindings of an accepted function have different names exactly if its outputs are single. -/
theorem Declares.nodup_names_iff (declares : Declares registry final method declaration)
    (builtIn : registry.IsBuiltIn) (distinct : method.DistinctNames) :
    (declaration.bindings.map (·.name)).Nodup ↔ method.SingleOutputs final.facts := by
  rw [Binding.names_of_fits (declares.fits builtIn)]
  exact nodup_requests_iff distinct declares.atMostOne fun some => (declares.exclusive some).1

/-- The minimal record of an accepted function is resolved exactly if its outputs are single and the
hints that it states are readable. -/
theorem Declares.minimalRecord_resolves_iff (declares : Declares registry final method declaration)
    (builtIn : registry.IsBuiltIn) (distinct : method.DistinctNames) (context : ModuleContext) :
    (context.minimalRecord declaration).Resolves ↔
      method.SingleOutputs final.facts ∧ method.HintsReadable final.facts := by
  have fits := declares.fits builtIn
  have readable : declaration.HintsReadable ↔ method.HintsReadable final.facts :=
    Binding.hintsReadable_iff fits
  rw [context.minimalRecord_resolves_iff (Binding.exists_fits fits), readable,
    declares.nodup_names_iff builtIn distinct]
  constructor
  · rintro ⟨readable, _, single⟩
    exact ⟨single, readable⟩
  · rintro ⟨single, readable⟩
    exact ⟨readable, declares.nonempty, single⟩

/-- The record in which an accepted function is emitted is read from its raw bindings only if it is
not rich. -/
theorem Declares.record_resolves_iff (declares : Declares registry final method declaration)
    (builtIn : registry.IsBuiltIn) (distinct : method.DistinctNames) (context : ModuleContext) :
    (context.record declaration).Resolves ↔ method.SingleOutputs final.facts ∧
      (declaration.isParsable = true ∨ method.HintsReadable final.facts) := by
  by_cases parsable : declaration.isParsable = true
  · rw [context.record_resolves_iff_of_isParsable parsable,
      declares.nodup_names_iff builtIn distinct]
    constructor
    · rintro ⟨_, single⟩
      exact ⟨single, .inl parsable⟩
    · rintro ⟨single, _⟩
      exact ⟨declares.nonempty, single⟩
  · have minimal : context.record declaration = context.minimalRecord declaration := by
      rw [ModuleContext.record, if_neg parsable]
    rw [minimal, declares.minimalRecord_resolves_iff builtIn distinct]
    rw [or_iff_right parsable]

end Method

namespace WorkerModule

variable {registry : Registry}

/-- Which functions of a module a host can resolve, told from the methods that were accepted and
from the cache that the run ended with. -/
structure ResolvesExactly (module : WorkerModule) (registry : Registry) (final : SymbolCache)
    (context : ModuleContext) (outcome : ModuleOutcome)
    (accepted : List (Method × Declaration)) : Prop where
  chosen : (accepted.map (·.1)).Sublist module.methods
  declares : ∀ entry ∈ accepted, entry.1.Declares registry final entry.2
  /-- The manifest, if there is one, holds the records of the accepted methods. -/
  emitted : outcome.manifest.map (·.functions) =
    if accepted = [] then none else some (accepted.map fun entry => context.record entry.2)
  records : ∀ entry ∈ accepted, (context.record entry.2).Resolves ↔
    entry.1.SingleOutputs final.facts ∧
      (entry.2.isParsable = true ∨ entry.1.HintsReadable final.facts)
  minimalRecords : ∀ entry ∈ accepted, (context.minimalRecord entry.2).Resolves ↔
    entry.1.SingleOutputs final.facts ∧ entry.1.HintsReadable final.facts
  valid : ∀ manifest, outcome.manifest = some manifest →
    (manifest.failures = [] ↔ ∀ entry ∈ accepted, entry.1.SingleOutputs final.facts ∧
      (entry.2.isParsable = true ∨ entry.1.HintsReadable final.facts))

/-- A host can resolve what a run emits exactly if no method has two outputs of one name and, where
the host reads raw bindings, the hints that attributes state are hints. -/
theorem run_resolves_iff (builtIn : registry.IsBuiltIn) {module : WorkerModule}
    (distinct : ∀ method ∈ module.methods, method.DistinctNames) (context : ModuleContext)
    (generatedAt : String) {session : Session} (uncancelled : session.cancelled = false) :
    ∃ outcome after accepted,
      module.run registry .never context generatedAt session = (.ok outcome, after) ∧
        module.ResolvesExactly registry after.cache context outcome accepted := by
  obtain ⟨outcomes, after, ran, assembled⟩ :=
    run_assembled builtIn module context generatedAt uncancelled
  obtain ⟨accepted, declarations, chosen, declares⟩ := assembled.accepted builtIn
  have distinctNames : ∀ entry ∈ accepted, entry.1.DistinctNames := fun entry member =>
    distinct entry.1 (chosen.subset (List.mem_map_of_mem member))
  have manifest : (module.summarize context generatedAt outcomes).manifest =
      context.emit? generatedAt (accepted.map (·.2)) := by
    rw [← declarations]
    rfl
  have records : ∀ entry ∈ accepted, (context.record entry.2).Resolves ↔
      entry.1.SingleOutputs after.cache.facts ∧
        (entry.2.isParsable = true ∨ entry.1.HintsReadable after.cache.facts) :=
    fun entry member =>
      (declares entry member).record_resolves_iff builtIn (distinctNames entry member) context
  refine ⟨_, after, accepted, ran, chosen, declares, ?_, records, ?_, ?_⟩
  · rw [manifest]
    cases accepted with
    | nil => rfl
    | cons entry rest => simp [ModuleContext.emit?]
  · exact fun entry member => (declares entry member).minimalRecord_resolves_iff builtIn
      (distinctNames entry member) context
  · intro document emitted
    have functions : document.functions = (accepted.map (·.2)).map context.record := by
      rw [manifest, ModuleContext.emit?] at emitted
      split at emitted
      · cases emitted
      · cases emitted
        rfl
    rw [document.failures_eq_nil_iff, functions, List.map_map, List.forall_mem_map]
    exact forall₂_congr records

theorem run_resolves_iff_orders :
    Registry.builtIn.IsBuiltIn ∧ (∀ method ∈ orders.methods, method.DistinctNames) ∧
      (Session.ofCache .empty).cancelled = false ∧ ∃ outcome after accepted,
        orders.run .builtIn .never (.ofAssembly "Orders") "" (Session.ofCache .empty) =
            (.ok outcome, after) ∧
          orders.ResolvesExactly .builtIn after.cache (.ofAssembly "Orders") outcome accepted ∧
          outcome.accepted = 2 := by
  have distinct : ∀ method ∈ orders.methods, method.DistinctNames := by
    unfold Method.DistinctNames
    decide +kernel
  obtain ⟨outcome, after, accepted, ran, resolvesExactly⟩ :=
    run_resolves_iff Registry.isBuiltIn_builtIn distinct (.ofAssembly "Orders") ""
      (rfl : (Session.ofCache .empty).cancelled = false)
  have two : (orders.run .builtIn .never (.ofAssembly "Orders") ""
      (Session.ofCache .empty)).1.toOption.map (·.accepted) = some 2 := by
    decide +kernel
  rw [ran] at two
  exact ⟨Registry.isBuiltIn_builtIn, distinct, rfl, outcome, after, accepted, ran, resolvesExactly,
    Option.some.inj two⟩

/-- A module of a function whose result goes to two queues, and of one whose trigger states a
payload hint that is none. -/
def unreadable : WorkerModule where
  assemblyName := "Orders"
  methods := [
    { Method.relay with
      attributes := Method.relay.attributes ++ [
        { className := "QueueOutputAttribute"
          baseTypes := [Names.outputBase]
          arguments := [⟨"queueName", .string "copies"⟩] }] },
    { methodName := "Import"
      containingType := "Orders.Import"
      attributes := [
        { className := Names.functionClass
          namespaceName := some Names.workerNamespace
          arguments := [⟨"name", .string "Import"⟩] }]
      parameters := [
        { name := "order"
          type := DeclaredType.named "Orders.Order"
          attributes := [
            { className := "QueueTriggerAttribute"
              baseTypes := [Names.triggerBase]
              namedArguments := [⟨"DataType", .string "json"⟩] }] }] }]

/-- Neither of the two functions is refused, and a host can resolve neither of their records. -/
theorem run_unreadable :
    (∀ method ∈ unreadable.methods, method.DistinctNames) ∧ ∃ outcome after manifest,
      unreadable.run .builtIn .never (.ofAssembly "Orders") "" (Session.ofCache .empty) =
          (.ok outcome, after) ∧
        outcome.manifest = some manifest ∧
        manifest.failures =
          [("Relay", .duplicateName "$return"), ("Import", .invalidHint "json")] ∧
        ¬ ∀ record ∈ manifest.functions, record.Resolves := by
  have distinct : ∀ method ∈ unreadable.methods, method.DistinctNames := by
    unfold Method.DistinctNames
    decide +kernel
  have failing : ((unreadable.run .builtIn .never (.ofAssembly "Orders") ""
      (Session.ofCache .empty)).1.toOption.bind (·.manifest)).map (·.failures) =
        some [("Relay", .duplicateName "$return"), ("Import", .invalidHint "json")] := by
    decide +kernel
  refine ⟨distinct, ?_⟩
  cases ran : unreadable.run .builtIn .never (.ofAssembly "Orders") "" (Session.ofCache .empty) with
  | mk result after =>
    rw [ran] at failing
    obtain ⟨manifest, found, failures⟩ := Option.map_eq_some_iff.mp failing
    cases result with
    | error reason => cases found
    | ok outcome =>
      refine ⟨outcome, after, manifest, rfl, found, failures, ?_⟩
      rw [← manifest.failures_eq_nil_iff, failures]
      simp

end WorkerModule

end WorkerBindings
