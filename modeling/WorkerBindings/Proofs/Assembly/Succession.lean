import WorkerBindings.Proofs.Assembly.Interruption
import WorkerBindings.Proofs.Assembly.Isolation
import WorkerBindings.Proofs.Assembly.Lookups

/-!
# Modules run one after another

The modules of a build share one session, so that a type or a class is looked into once for all of
them. The cache knows both by name alone. A module therefore has the outcome that it has alone
whenever no earlier module uses one of its names for something else
(`WorkerModule.runEach_isolated`), whatever else the earlier modules hold; they need not even be
consistent in themselves. Where two modules mean different things by one name, the later one is
judged by what the earlier one meant (`WorkerModule.runEach_disturbed`).
-/

namespace WorkerBindings

open Assembling Symbols

/-- A module with the settings under which it is run. -/
structure ModuleRun where
  module : WorkerModule
  context : ModuleContext
  generatedAt : String

namespace ModuleRun

/-- The symbols that occur on the methods of the module. -/
def symbols (job : ModuleRun) : Symbols :=
  job.module.symbols

/-- Run the module through a session. -/
def run (registry : Registry) (interruption : Interruption) (job : ModuleRun) :
    Assembling ModuleOutcome :=
  job.module.run registry interruption job.context job.generatedAt

end ModuleRun

namespace WorkerModule

variable {registry : Registry}

/-- Run several modules through one session, in their order. -/
def runEach (registry : Registry) : List ModuleRun → Assembling (List ModuleOutcome)
  | [] => pure []
  | job :: rest => do
    let first ← job.run registry .never
    let others ← runEach registry rest
    pure (first :: others)

/-- A run that nobody interrupts has an outcome, and leaves the session so that the next one can
start. -/
theorem run_completes (registry : Registry) (job : ModuleRun) {session : Session}
    (uncancelled : session.cancelled = false) :
    ∃ outcome after, job.run registry .never session = (.ok outcome, after) ∧
      after.cancelled = false := by
  obtain ⟨outcomes, after, _, calm, _⟩ :=
    (assembleFrom_interruptible registry 0 job.module.methods).runs session
  refine ⟨job.module.summarize job.context job.generatedAt outcomes, after.calm, ?_, rfl⟩
  rw [Session.calm_eq uncancelled] at calm
  rw [ModuleRun.run, WorkerModule.run, bind_apply, calm]
  rfl

/-- A consistent module has the outcome that it has alone in every session whose cache agrees with
its symbols. -/
theorem run_eq_alone (builtIn : registry.IsBuiltIn) {job : ModuleRun}
    (consistent : job.symbols.Consistent) {session : Session}
    (uncancelled : session.cancelled = false) (agree : job.symbols.AgreeWith session.cache) :
    (job.run registry .never session).1 =
      (job.run registry .never (Session.ofCache .empty)).1 := by
  have yields := run_yields builtIn consistent (.refl job.symbols) job.context job.generatedAt
  obtain ⟨_, ran, _⟩ := yields session uncancelled agree
  obtain ⟨_, ranAlone, _⟩ := yields (Session.ofCache .empty) rfl job.symbols.agreeWith_empty
  rw [ModuleRun.run, ran, ranAlone]

/-- Running an earlier module leaves a cache that agrees with a later one, if it was given such a
cache and no name stands for two things. -/
theorem run_agreeWith (builtIn : registry.IsBuiltIn) (earlier : ModuleRun) {later : Symbols}
    (compatible : earlier.symbols.CompatibleWith later) {session : Session}
    (agree : later.AgreeWith session.cache) :
    later.AgreeWith (earlier.run registry .never session).2.cache := by
  have within : ∀ method ∈ earlier.module.methods, method.symbols.Within earlier.symbols :=
    fun _ member => symbols_within member
  have looksUp := run_looksUp builtIn .never within earlier.context earlier.generatedAt session
  exact agree.of_learned compatible looksUp.1

/-- The outcomes of several modules from a session on. The induction is on the modules; what is
known of the session is that its cache agrees with the symbols of the module at which one looks. -/
theorem runEach_outcomes (builtIn : registry.IsBuiltIn) (jobs : List ModuleRun)
    {session : Session} (uncancelled : session.cancelled = false) :
    ∃ outcomes after, runEach registry jobs session = (.ok outcomes, after) ∧
      outcomes.length = jobs.length ∧
      ∀ earlier job later, jobs = earlier ++ job :: later → job.symbols.Consistent →
        job.symbols.AgreeWith session.cache →
        (∀ before ∈ earlier, before.symbols.CompatibleWith job.symbols) →
        outcomes[earlier.length]? =
          (job.run registry .never (Session.ofCache .empty)).1.toOption := by
  induction jobs generalizing session with
  | nil =>
    refine ⟨[], session, rfl, rfl, fun earlier job later split => ?_⟩
    simp at split
  | cons first rest ih =>
    obtain ⟨outcome, between, ranFirst, uncancelledBetween⟩ :=
      run_completes registry first uncancelled
    obtain ⟨outcomes, after, ranRest, sameLength, others⟩ := ih uncancelledBetween
    refine ⟨outcome :: outcomes, after, ?_, by simp [sameLength], ?_⟩
    · rw [runEach, bind_apply, ranFirst]
      change (runEach registry rest >>= fun others => pure (outcome :: others)) between = _
      rw [bind_apply, ranRest]
      rfl
    · intro earlier job later split consistent agree compatible
      cases earlier with
      | nil =>
        obtain ⟨rfl, rfl⟩ := List.cons.inj split
        have alone := run_eq_alone builtIn consistent uncancelled agree
        rw [ranFirst] at alone
        rw [← alone]
        rfl
      | cons before earlier =>
        obtain ⟨rfl, rfl⟩ := List.cons.inj split
        obtain ⟨compatibleFirst, compatibleOthers⟩ := List.forall_mem_cons.mp compatible
        have agreeBetween := run_agreeWith builtIn first compatibleFirst agree
        rw [ranFirst] at agreeBetween
        exact others earlier job later rfl consistent agreeBetween compatibleOthers

/-- Every sequence of modules can be run through one session, and each module among them that is
consistent in itself, and of whose names no earlier module has a different notion, has the outcome
that it has alone. -/
theorem runEach_isolated (builtIn : registry.IsBuiltIn) (jobs : List ModuleRun) :
    ∃ outcomes after, runEach registry jobs (Session.ofCache .empty) = (.ok outcomes, after) ∧
      outcomes.length = jobs.length ∧
      ∀ earlier job later, jobs = earlier ++ job :: later → job.symbols.Consistent →
        (∀ before ∈ earlier, before.symbols.CompatibleWith job.symbols) →
        ∃ outcome last,
          job.run registry .never (Session.ofCache .empty) = (.ok outcome, last) ∧
          outcomes[earlier.length]? = some outcome := by
  have uncancelled : (Session.ofCache SymbolCache.empty).cancelled = false := rfl
  obtain ⟨outcomes, after, ran, sameLength, each⟩ := runEach_outcomes builtIn jobs uncancelled
  refine ⟨outcomes, after, ran, sameLength, fun earlier job later split consistent compatible => ?_⟩
  obtain ⟨outcome, last, ranAlone, _⟩ := run_completes registry job uncancelled
  have here := each earlier job later split consistent job.symbols.agreeWith_empty compatible
  rw [ranAlone] at here
  exact ⟨outcome, last, ranAlone, here⟩

/-- A module whose one function returns a collection of receipts. -/
def ledger : WorkerModule where
  assemblyName := "Ledger"
  methods := [
    { methodName := "List"
      containingType := "Ledger.Receipts"
      attributes := [
        { className := Names.functionClass
          namespaceName := some Names.workerNamespace
          arguments := [⟨"name", .string "List"⟩] }]
      parameters := Method.relay.parameters
      returnType := {
        name := "Shared.Receipts"
        interfaces := [DeclaredType.named Names.enumerable] } }]

/-- A module whose one function returns a record of the same name, from which the latest receipt
goes to a queue. -/
def billing : WorkerModule where
  assemblyName := "Billing"
  methods := [
    { methodName := "Bill"
      containingType := "Billing.Receipts"
      attributes := [
        { className := Names.functionClass
          namespaceName := some Names.workerNamespace
          arguments := [⟨"name", .string "Bill"⟩] }]
      parameters := Method.relay.parameters
      returnType := {
        name := "Shared.Receipts"
        properties := [
          { name := "Latest"
            type := DeclaredType.named "string"
            attributes := [
              { className := "QueueOutputAttribute"
                baseTypes := [Names.outputBase]
                arguments := [⟨"queueName", .string "receipts"⟩] }] }] } }]

/-- A module in the context that its assembly has without any settings. -/
def plainRun (module : WorkerModule) : ModuleRun :=
  ⟨module, .ofAssembly module.assemblyName, ""⟩

theorem runEach_isolated_ledger :
    Registry.builtIn.IsBuiltIn ∧ ledger.symbols.Consistent ∧
      orders.symbols.CompatibleWith ledger.symbols ∧ ∃ outcomes after outcome last,
        runEach .builtIn [plainRun orders, plainRun ledger] (Session.ofCache .empty) =
            (.ok outcomes, after) ∧
          (plainRun ledger).run .builtIn .never (Session.ofCache .empty) = (.ok outcome, last) ∧
          outcomes[1]? = some outcome ∧ outcome.accepted = 1 := by
  have consistent : ledger.symbols.Consistent := by
    constructor
    · decide +kernel
    · decide +kernel
  have sameShapes : ∀ known ∈ orders.symbols.types, ∀ type ∈ ledger.symbols.types,
      known.name = type.name → known.shape = type.shape := by
    decide +kernel
  have compatible : orders.symbols.CompatibleWith ledger.symbols := by
    refine ⟨fun known knownMember type member sameName shape found => ?_, by decide +kernel⟩
    rw [← sameShapes known knownMember type member sameName, found]
  obtain ⟨outcomes, after, ran, _, each⟩ :=
    runEach_isolated Registry.isBuiltIn_builtIn [plainRun orders, plainRun ledger]
  obtain ⟨outcome, last, ranAlone, here⟩ :=
    each [plainRun orders] (plainRun ledger) [] rfl consistent
      (List.forall_mem_singleton.mpr compatible)
  have one : ((plainRun ledger).run .builtIn .never (Session.ofCache .empty)).1.toOption.map
      (·.accepted) = some 1 := by
    decide +kernel
  rw [ranAlone] at one
  exact ⟨Registry.isBuiltIn_builtIn, consistent, compatible, outcomes, after, outcome, last, ran,
    ranAlone, here, Option.some.inj one⟩

/-- Behind the ledger, the function of the billing module is refused, because its result is taken
for the collection of that name; alone it is accepted. Both modules are consistent in themselves. -/
theorem runEach_disturbed :
    ledger.symbols.Consistent ∧ billing.symbols.Consistent ∧
      (runEach .builtIn [plainRun ledger, plainRun billing] (Session.ofCache .empty)).1.toOption.map
          (·.map fun outcome => (outcome.accepted, outcome.rejected, outcome.manifest.isSome)) =
        some [(1, 0, true), (0, 1, false)] ∧
      ((plainRun billing).run .builtIn .never (Session.ofCache .empty)).1.toOption.map
          (fun outcome => (outcome.accepted, outcome.rejected, outcome.manifest.isSome)) =
        some (1, 0, true) := by
  refine ⟨?_, ?_, by decide +kernel, by decide +kernel⟩
  · constructor
    · decide +kernel
    · decide +kernel
  · constructor
    · decide +kernel
    · decide +kernel

end WorkerModule

end WorkerBindings
