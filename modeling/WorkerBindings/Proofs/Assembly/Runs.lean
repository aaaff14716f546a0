import WorkerBindings.Assembly.Module
import WorkerBindings.Proofs.Assembly.Bindings

/-!
# Runs over a module

A run that is not cancelled gives every method an outcome that can be derived from the cache that
the run ends with, whatever the cache held before it.
-/

namespace WorkerBindings.WorkerModule

open Assembling Method

variable {registry : Registry} {final : SymbolCache}

/-- The outcomes of several methods, in their order. -/
inductive AssembledEach (registry : Registry) (final : SymbolCache) (methods : List Method) :
    List Outcome → Prop where
  | each (results : List (Option Outcome))
      (assembled : List.Forall₂ (Assembled registry final) methods results) :
      AssembledEach registry final methods (results.flatMap Option.toList)

theorem assembleFrom_delivers (builtIn : registry.IsBuiltIn) (place : Nat)
    (methods : List Method) :
    Delivers final (assembleFrom registry .never place methods)
      (AssembledEach registry final methods) := by
  induction methods generalizing place with
  | nil => exact .pure (.each [] .nil)
  | cons method rest ih =>
    refine .seq (.arrive place) fun _ => ?_
    refine .bind (assemble_delivers builtIn method) fun first => ?_
    refine .bind (ih (place + 1)) fun others => .pure ?_
    rintro ⟨results, assembledOthers⟩ assembledFirst
    exact .each (first :: results) (.cons assembledFirst assembledOthers)

/-- Every run that is not cancelled summarizes outcomes that can be derived from the cache that it
ends with. -/
theorem run_assembled (builtIn : registry.IsBuiltIn) (module : WorkerModule)
    (context : ModuleContext) (generatedAt : String) {session : Session}
    (uncancelled : session.cancelled = false) :
    ∃ outcomes after, module.run registry .never context generatedAt session =
        (.ok (module.summarize context generatedAt outcomes), after) ∧
      AssembledEach registry after.cache module.methods outcomes := by
  have delivers (final : SymbolCache) : Delivers final
      (module.run registry .never context generatedAt) fun outcome =>
        ∃ outcomes, outcome = module.summarize context generatedAt outcomes ∧
          AssembledEach registry final module.methods outcomes := by
    refine .bind (assembleFrom_delivers builtIn 0 module.methods) fun outcomes => ?_
    refine .seq .checkpoint fun _ => .pure ?_
    exact fun assembled => ⟨outcomes, rfl, assembled⟩
  obtain ⟨outcome, after, ran, _, _, outcomes, rfl, assembled⟩ := Delivers.run delivers uncancelled
  exact ⟨outcomes, after, ran, assembled⟩

/-- Each declaration of a run is that of an outcome of one of the methods, in their order. -/
theorem AssembledEach.exists_accepted {methods : List Method} {outcomes : List Outcome}
    (assembled : AssembledEach registry final methods outcomes) :
    ∃ accepted : List (Method × Declaration),
      outcomes.filterMap (·.declaration) = accepted.map (·.2) ∧
      (accepted.map (·.1)).Sublist methods ∧
      ∀ entry ∈ accepted, ∃ outcome, Assembled registry final entry.1 (some outcome) ∧
        outcome.declaration = some entry.2 := by
  obtain ⟨results, assembled⟩ := assembled
  induction assembled with
  | nil => exact ⟨[], rfl, .slnil, by simp⟩
  | cons first others ih =>
    rename_i method result rest results
    obtain ⟨accepted, declarations, chosen, assembled⟩ := ih
    have here : result.toList.filterMap (·.declaration) =
        (result.bind (·.declaration)).toList := by
      cases result with
      | none => rfl
      | some outcome => cases found : outcome.declaration <;> simp [found]
    rw [List.flatMap_cons, List.filterMap_append, here, declarations]
    cases declared : result.bind (·.declaration) with
    | none => exact ⟨accepted, rfl, chosen.cons method, assembled⟩
    | some declaration =>
      obtain ⟨outcome, rfl, isDeclared⟩ := Option.bind_eq_some_iff.mp declared
      refine ⟨(method, declaration) :: accepted, rfl, chosen.cons_cons method, ?_⟩
      exact List.forall_mem_cons.mpr ⟨⟨outcome, first, isDeclared⟩, assembled⟩

/-- The declarations of a run are those of some of the methods, in their order. -/
theorem AssembledEach.accepted {methods : List Method} {outcomes : List Outcome}
    (builtIn : registry.IsBuiltIn) (assembled : AssembledEach registry final methods outcomes) :
    ∃ accepted : List (Method × Declaration),
      outcomes.filterMap (·.declaration) = accepted.map (·.2) ∧
      (accepted.map (·.1)).Sublist methods ∧
      ∀ entry ∈ accepted, Declares registry final entry.1 entry.2 := by
  obtain ⟨accepted, declarations, chosen, assembled⟩ := assembled.exists_accepted
  refine ⟨accepted, declarations, chosen, fun entry member => ?_⟩
  obtain ⟨outcome, assembledHere, isDeclared⟩ := assembled entry member
  exact assembledHere.declares builtIn isDeclared

end WorkerBindings.WorkerModule
