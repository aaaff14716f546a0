import WorkerBindings.Assembly.Module
import WorkerBindings.Proofs.Assembly.Steadiness
import WorkerBindings.Proofs.Assembly.Verdict

/-!
# Isolation of the functions of a module

The methods of a module share one cache, but if the symbols of the module are consistent they cannot
tell: a run gives each method the outcome that it has when it is assembled alone with a cache of its
own. So the manifest and the diagnostics of a module are put together from parts that each depend on
one method, and a method keeps its record whatever stands beside it.
-/

namespace WorkerBindings

open Assembling Symbols

variable {registry : Registry}

namespace Method

/-- The outcome of a method that is assembled alone. -/
def alone (registry : Registry) (method : Method) : Option Outcome :=
  (method.assemble registry .never (Session.ofCache SymbolCache.empty)).1.toOption.join

/-- The declaration of a method that is accepted alone. -/
def declarationAlone? (registry : Registry) (method : Method) : Option Declaration :=
  (method.alone registry).bind (·.declaration)

/-- The diagnostics of a method that is assembled alone. -/
def diagnosticsAlone (registry : Registry) (method : Method) : List Diagnostic :=
  ((method.alone registry).map (·.diagnostics)).getD []

/-- Assembling a method alone does not fail. -/
theorem assemble_alone (builtIn : registry.IsBuiltIn) (method : Method) :
    ∃ after, method.assemble registry .never (Session.ofCache SymbolCache.empty) =
      (.ok (method.alone registry), after) := by
  have uncancelled : (Session.ofCache SymbolCache.empty).cancelled = false := rfl
  obtain ⟨result, after, ran, _⟩ := assemble_assembled builtIn method uncancelled
  refine ⟨after, ?_⟩
  rw [alone, ran]
  rfl

/-- Among consistent symbols, a method has the outcome that it has alone. -/
theorem assemble_yields (builtIn : registry.IsBuiltIn) {symbols : Symbols}
    (consistent : symbols.Consistent) {method : Method} (within : method.symbols.Within symbols) :
    Yields symbols (method.assemble registry .never) (method.alone registry) := by
  obtain ⟨value, yields⟩ := assemble_steady builtIn consistent within
  obtain ⟨after, ranAlone⟩ := method.assemble_alone builtIn
  obtain ⟨last, ran, _⟩ := yields (Session.ofCache SymbolCache.empty) rfl symbols.agreeWith_empty
  rw [ranAlone] at ran
  cases ran
  exact yields

/-- A method has an outcome alone exactly if it is a function. -/
theorem alone_isSome (builtIn : registry.IsBuiltIn) (method : Method) :
    (method.alone registry).isSome = method.isFunction := by
  have uncancelled : (Session.ofCache SymbolCache.empty).cancelled = false := rfl
  obtain ⟨result, after, ran, _, _, assembled⟩ := assemble_assembled builtIn method uncancelled
  have skipped := assembled.eq_none_iff
  have same : method.alone registry = result := by
    rw [alone, ran]
    rfl
  rw [same]
  cases function : method.isFunction with
  | false => rw [skipped.mpr function]; rfl
  | true =>
    cases result with
    | none => rw [skipped.mp rfl] at function; cases function
    | some outcome => rfl

end Method

namespace WorkerModule

/-- The symbols that occur on the methods of a module. -/
def symbols (module : WorkerModule) : Symbols where
  types := module.methods.flatMap (·.symbols.types)
  attributes := module.methods.flatMap (·.symbols.attributes)

theorem symbols_within {module : WorkerModule} {method : Method}
    (member : method ∈ module.methods) : method.symbols.Within module.symbols where
  types _ inside := List.mem_flatMap_of_mem member inside
  attributes _ inside := List.mem_flatMap_of_mem member inside

/-- Methods of one module have no symbols but those of the module. -/
theorem symbols_mono {smaller larger : WorkerModule} (chosen : smaller.methods ⊆ larger.methods) :
    smaller.symbols.Within larger.symbols where
  types := by
    intro type inside
    obtain ⟨method, member, typeMember⟩ := List.mem_flatMap.mp inside
    exact (symbols_within (chosen member)).types typeMember
  attributes := by
    intro attr inside
    obtain ⟨method, member, attrMember⟩ := List.mem_flatMap.mp inside
    exact (symbols_within (chosen member)).attributes attrMember

/-- The run over the methods gives each the outcome that it has alone. -/
theorem assembleFrom_yields (builtIn : registry.IsBuiltIn) {symbols : Symbols}
    (consistent : symbols.Consistent) (place : Nat) {methods : List Method}
    (within : ∀ method ∈ methods, method.symbols.Within symbols) :
    Yields symbols (assembleFrom registry .never place methods)
      (methods.filterMap (·.alone registry)) := by
  induction methods generalizing place with
  | nil => exact .pure []
  | cons method rest ih =>
    have first := Method.assemble_yields builtIn consistent (within method List.mem_cons_self)
    have others := ih (place + 1) fun other member => within other (List.mem_cons_of_mem _ member)
    refine (Yields.arrive place).bind (first.bind (others.bind ?_))
    cases outcome : method.alone registry with
    | none =>
      rw [List.filterMap_cons_none outcome]
      exact .pure _
    | some found =>
      rw [List.filterMap_cons_some outcome]
      exact .pure _

/-- The outcome of a module is put together from the outcomes of its methods alone. -/
structure Isolated (module : WorkerModule) (registry : Registry) (context : ModuleContext)
    (outcome : ModuleOutcome) : Prop where
  /-- The records are those of the accepted methods, in the order of the methods. -/
  functions : ∀ manifest, outcome.manifest = some manifest →
    manifest.functions =
      (module.methods.filterMap (·.declarationAlone? registry)).map context.record
  absent : outcome.manifest = none ↔
    ∀ method ∈ module.methods, method.declarationAlone? registry = none
  diagnostics : outcome.diagnostics = module.methods.flatMap (·.diagnosticsAlone registry)
  accepted : outcome.accepted = (module.methods.filterMap (·.declarationAlone? registry)).length
  counted : outcome.accepted + outcome.rejected =
    (module.methods.filter (·.isFunction)).length

theorem flatMap_diagnostics (outcomeOf : Method → Option Outcome) (methods : List Method) :
    (methods.filterMap outcomeOf).flatMap (·.diagnostics) =
      methods.flatMap fun method => ((outcomeOf method).map (·.diagnostics)).getD [] := by
  induction methods with
  | nil => rfl
  | cons method rest ih =>
    cases outcome : outcomeOf method with
    | none => simp [outcome, ih]
    | some found => simp [outcome, ih]

/-- Every outcome is counted once, as accepted or as rejected. -/
theorem length_declarations (outcomes : List Outcome) :
    (outcomes.filterMap (·.declaration)).length +
      (outcomes.filter (·.declaration.isNone)).length = outcomes.length := by
  induction outcomes with
  | nil => rfl
  | cons outcome rest ih =>
    cases declared : outcome.declaration with
    | none =>
      simp only [List.filterMap_cons, List.filter_cons, declared, Option.isNone_none, if_true,
        List.length_cons]
      omega
    | some declaration =>
      simp only [List.filterMap_cons, List.filter_cons, declared, Option.isNone_some,
        List.length_cons, Bool.false_eq_true, if_false]
      omega

/-- There are as many outcomes as functions. -/
theorem length_outcomes (builtIn : registry.IsBuiltIn) (methods : List Method) :
    (methods.filterMap (·.alone registry)).length = (methods.filter (·.isFunction)).length := by
  rw [List.length_filterMap_eq_countP, ← List.countP_eq_length_filter]
  refine List.countP_congr fun method _ => ?_
  rw [method.alone_isSome builtIn]

theorem summarize_isolated (builtIn : registry.IsBuiltIn) (module : WorkerModule)
    (context : ModuleContext) (generatedAt : String) :
    module.Isolated registry context (module.summarize context generatedAt
      (module.methods.filterMap (·.alone registry))) := by
  have declarations : (module.methods.filterMap (·.alone registry)).filterMap (·.declaration) =
      module.methods.filterMap (·.declarationAlone? registry) :=
    List.filterMap_filterMap
  constructor
  · intro manifest emitted
    rw [← declarations]
    exact ModuleContext.functions_of_emit? emitted
  · rw [← List.filterMap_eq_nil_iff, ← declarations]
    exact ModuleContext.emit?_eq_none_iff
  · exact flatMap_diagnostics (·.alone registry) module.methods
  · simp only [summarize, declarations]
  · rw [← length_outcomes builtIn]
    exact length_declarations _

theorem run_yields (builtIn : registry.IsBuiltIn) {symbols : Symbols}
    (consistent : symbols.Consistent) {module : WorkerModule}
    (within : module.symbols.Within symbols) (context : ModuleContext) (generatedAt : String) :
    Yields symbols (module.run registry .never context generatedAt)
      (module.summarize context generatedAt (module.methods.filterMap (·.alone registry))) := by
  have inside : ∀ method ∈ module.methods, method.symbols.Within symbols := by
    intro method member
    have own := symbols_within member
    exact ⟨fun _ type => within.types (own.types type),
      fun _ attr => within.attributes (own.attributes attr)⟩
  refine (assembleFrom_yields builtIn consistent 0 inside).bind ?_
  exact Yields.checkpoint.bind (.pure _)

/-- A module with consistent symbols is run as its methods are assembled alone, and so is every
module that consists of some of its methods in whatever order: the methods beside it change nothing
about a function. -/
theorem run_isolated (builtIn : registry.IsBuiltIn) {module : WorkerModule}
    (consistent : module.symbols.Consistent) (context : ModuleContext) (generatedAt : String) :
    (∀ method ∈ module.methods, ∃ after,
      method.assemble registry .never (Session.ofCache SymbolCache.empty) =
        (.ok (method.alone registry), after)) ∧
    (∃ outcome after,
      module.run registry .never context generatedAt (Session.ofCache SymbolCache.empty) =
        (.ok outcome, after) ∧ module.Isolated registry context outcome) ∧
    ∀ others : WorkerModule, others.methods ⊆ module.methods → ∃ outcome after,
      others.run registry .never context generatedAt (Session.ofCache SymbolCache.empty) =
        (.ok outcome, after) ∧ others.Isolated registry context outcome := by
  have runs : ∀ others : WorkerModule, others.methods ⊆ module.methods → ∃ outcome after,
      others.run registry .never context generatedAt (Session.ofCache SymbolCache.empty) =
        (.ok outcome, after) ∧ others.Isolated registry context outcome := by
    intro others chosen
    have yields := run_yields builtIn consistent (symbols_mono chosen) context generatedAt
    obtain ⟨after, ran, _⟩ := yields (Session.ofCache SymbolCache.empty) rfl
      module.symbols.agreeWith_empty
    exact ⟨_, after, ran, summarize_isolated builtIn others context generatedAt⟩
  refine ⟨fun method _ => method.assemble_alone builtIn, ?_, runs⟩
  exact runs module (List.Subset.refl _)

/-- A module of two functions that share their trigger, and of a method that is no function. -/
def orders : WorkerModule where
  assemblyName := "Orders"
  methods := [
    Method.relay,
    { methodName := "Count"
      containingType := "Orders.Statistics"
      attributes := [
        { className := Names.functionClass
          namespaceName := some Names.workerNamespace
          arguments := [⟨"name", .string "Count"⟩] }]
      parameters := Method.relay.parameters },
    { methodName := "Format"
      containingType := "Orders.Statistics" }]

theorem run_isolated_orders :
    Registry.builtIn.IsBuiltIn ∧ orders.symbols.Consistent ∧ ∃ outcome after,
      orders.run .builtIn .never (.ofAssembly "Orders") "" (Session.ofCache .empty) =
          (.ok outcome, after) ∧
        orders.Isolated .builtIn (.ofAssembly "Orders") outcome ∧ outcome.accepted = 2 := by
  have consistent : orders.symbols.Consistent := by
    constructor
    · decide +kernel
    · decide +kernel
  obtain ⟨_, ⟨outcome, after, ran, isolated⟩, _⟩ :=
    run_isolated Registry.isBuiltIn_builtIn consistent (.ofAssembly "Orders") ""
  have twoAlone :
      (orders.methods.filterMap (·.declarationAlone? .builtIn)).length = 2 := by
    decide +kernel
  exact ⟨Registry.isBuiltIn_builtIn, consistent, outcome, after, ran, isolated,
    isolated.accepted.trans twoAlone⟩

end WorkerModule

end WorkerBindings
