import WorkerBindings.Proofs.Traversal
import WorkerBindings.Resolution

/-!
# When a record is resolved

A record is resolved exactly if each of its bindings is, there is at least one of them, and no two
have the same name.
-/

namespace WorkerBindings

namespace FunctionRecord

theorem firstRepeated?_eq_none (seen names : List String) :
    firstRepeated? seen names = none ↔ names.Nodup ∧ ∀ name ∈ names, name ∉ seen := by
  induction names generalizing seen with
  | nil => simp [firstRepeated?]
  | cons name rest ih =>
    rw [firstRepeated?, List.nodup_cons, List.forall_mem_cons]
    by_cases repeated : name ∈ seen
    · simp [repeated]
    · rw [if_neg (by simpa using repeated), ih]
      constructor
      · rintro ⟨distinct, fresh⟩
        refine ⟨⟨fun inside => fresh name inside List.mem_cons_self, distinct⟩, repeated, ?_⟩
        exact fun other member inside => fresh other member (List.mem_cons_of_mem _ inside)
      · rintro ⟨⟨unrepeated, distinct⟩, _, fresh⟩
        refine ⟨distinct, fun other member inside => ?_⟩
        rcases List.mem_cons.mp inside with same | inSeen
        · exact unrepeated (same ▸ member)
        · exact fresh other member inSeen

/-- A record is resolved to its bindings, one by one. -/
theorem resolve_eq_ok_iff (record : FunctionRecord) (resolved : List ResolvedBinding) :
    record.resolve = .ok resolved ↔
      record.resolveEach = .ok resolved ∧ resolved ≠ [] ∧ (resolved.map (·.name)).Nodup := by
  unfold resolve
  cases each : record.resolveEach with
  | error reason => simp [bind, Except.bind]
  | ok bindings =>
    simp only [bind, Except.bind, Except.ok.injEq]
    cases bindings with
    | nil =>
      simp only [List.isEmpty_nil, if_true]
      constructor
      · intro failed
        cases failed
      · rintro ⟨same, nonempty, _⟩
        exact absurd same.symm nonempty
    | cons first rest =>
      have noneSeen := firstRepeated?_eq_none [] ((first :: rest).map (·.name))
      simp only [List.not_mem_nil, not_false_eq_true, implies_true, and_true] at noneSeen
      simp only [List.isEmpty_cons, Bool.false_eq_true, if_false]
      cases repeated : firstRepeated? [] ((first :: rest).map (·.name)) with
      | some name =>
        rw [repeated] at noneSeen
        have notDistinct : ¬ ((first :: rest).map (·.name)).Nodup := fun distinct => by
          simpa using noneSeen.mpr distinct
        constructor
        · intro failed
          cases failed
        · rintro ⟨rfl, _, distinct⟩
          exact absurd distinct notDistinct
      | none =>
        have distinct := noneSeen.mp repeated
        constructor
        · intro same
          cases same
          exact ⟨rfl, by simp, distinct⟩
        · rintro ⟨same, _⟩
          rw [same]

/-- The minimal form of a record is resolved from its raw bindings. -/
theorem resolveEach_raw {record : FunctionRecord} (minimal : record.generatedBindings = none)
    (resolved : List ResolvedBinding) :
    record.resolveEach = .ok resolved ↔
      List.Forall₂ (fun text binding => ResolvedBinding.ofRawText text = .ok binding)
        record.rawBindings resolved := by
  unfold resolveEach
  rw [minimal]
  exact mapM_eq_ok_iff _ _ _

/-- The rich form of a record is resolved from its structured bindings. -/
theorem resolveEach_structured {record : FunctionRecord} {bindings : List StructuredBinding}
    (rich : record.generatedBindings = some bindings) (resolved : List ResolvedBinding) :
    record.resolveEach = .ok resolved ↔
      List.Forall₂ (fun structured binding => ResolvedBinding.ofStructured structured = .ok binding)
        bindings resolved := by
  unfold resolveEach
  rw [rich]
  exact mapM_eq_ok_iff _ _ _

end FunctionRecord

end WorkerBindings
