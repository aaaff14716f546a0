import Mathlib.Data.List.Forall2

/-!
# Traversals that can fail

When two steps that can fail succeed one after the other, when a step succeeds for every item of a
list, and with which results.
-/

namespace WorkerBindings

variable {α β ε : Type}

/-- A step whose result is changed succeeds if the step does. -/
theorem map_eq_ok_iff {step : Except ε α} {change : α → β} {result : β} :
    step.map change = .ok result ↔ ∃ found, step = .ok found ∧ change found = result := by
  cases step <;> simp [Except.map]

/-- Two steps succeed if the second one does with what the first one found. -/
theorem bind_eq_ok_iff {step : Except ε α} {next : α → Except ε β} {result : β} :
    (step >>= next) = .ok result ↔ ∃ found, step = .ok found ∧ next found = .ok result := by
  cases step with
  | error reason => simp [bind, Except.bind]
  | ok found => simp [bind, Except.bind]

/-- Two steps fail if the first one does, or else if the second one does. -/
theorem bind_eq_error_iff {step : Except ε α} {next : α → Except ε β} {reason : ε} :
    (step >>= next) = .error reason ↔
      step = .error reason ∨ ∃ found, step = .ok found ∧ next found = .error reason := by
  cases step with
  | error other => simp [bind, Except.bind]
  | ok found => simp [bind, Except.bind]

/-- A traversal succeeds if its first step and the traversal of the rest do. -/
theorem mapM_cons_eq_ok_iff (step : α → Except ε β) (item : α) (rest : List α)
    (results : List β) :
    (item :: rest).mapM step = .ok results ↔
      ∃ first others, step item = .ok first ∧ rest.mapM step = .ok others ∧
        results = first :: others := by
  rw [List.mapM_cons]
  constructor
  · intro succeeds
    cases here : step item with
    | error reason =>
      rw [here] at succeeds
      cases succeeds
    | ok first =>
      cases later : rest.mapM step with
      | error reason =>
        rw [here, later] at succeeds
        cases succeeds
      | ok others =>
        rw [here, later] at succeeds
        cases succeeds
        exact ⟨first, others, rfl, rfl, rfl⟩
  · rintro ⟨first, others, here, later, rfl⟩
    rw [here, later]
    rfl

/-- A traversal succeeds exactly if it does so item by item. -/
theorem mapM_eq_ok_iff (step : α → Except ε β) (items : List α) (results : List β) :
    items.mapM step = .ok results ↔
      List.Forall₂ (fun item result => step item = .ok result) items results := by
  induction items generalizing results with
  | nil =>
    rw [List.forall₂_nil_left_iff]
    constructor
    · intro succeeds
      cases succeeds
      rfl
    · rintro rfl
      rfl
  | cons item rest ih =>
    rw [mapM_cons_eq_ok_iff, List.forall₂_cons_left_iff]
    simp only [ih]

/-- A traversal fails if its first step does, or else if the traversal of the rest does. -/
theorem mapM_cons_eq_error_iff (step : α → Except ε β) (item : α) (rest : List α) (reason : ε) :
    (item :: rest).mapM step = .error reason ↔
      step item = .error reason ∨
        (∃ first, step item = .ok first) ∧ rest.mapM step = .error reason := by
  rw [List.mapM_cons]
  cases here : step item with
  | error other => simp [bind, Except.bind]
  | ok first =>
    cases later : rest.mapM step with
    | error other => simp [bind, Except.bind]
    | ok others => simp [bind, Except.bind, pure, Except.pure]

/-- A traversal fails with the failure of the leftmost item that has one. -/
theorem mapM_eq_error_iff (step : α → Except ε β) (items : List α) (reason : ε) :
    items.mapM step = .error reason ↔
      ∃ before item after, items = before ++ item :: after ∧
        (∀ earlier ∈ before, ∃ result, step earlier = .ok result) ∧
        step item = .error reason := by
  induction items with
  | nil => simp [pure, Except.pure]
  | cons first rest ih =>
    rw [mapM_cons_eq_error_iff, ih]
    constructor
    · rintro (here | ⟨succeeds, before, item, after, rfl, others, fails⟩)
      · exact ⟨[], first, rest, rfl, by simp, here⟩
      · exact ⟨first :: before, item, after, rfl,
          List.forall_mem_cons.mpr ⟨succeeds, others⟩, fails⟩
    · rintro ⟨before, item, after, split, succeed, fails⟩
      cases before with
      | nil =>
        obtain ⟨rfl, rfl⟩ := List.cons.inj split
        exact .inl fails
      | cons head before =>
        obtain ⟨rfl, rfl⟩ := List.cons.inj split
        obtain ⟨succeeds, others⟩ := List.forall_mem_cons.mp succeed
        exact .inr ⟨succeeds, before, item, after, rfl, others, fails⟩

/-- A step has results for a list exactly if it has one for each item. -/
theorem exists_results_iff (step : α → Except ε β) (items : List α) :
    (∃ results, List.Forall₂ (fun item result => step item = .ok result) items results) ↔
      ∀ item ∈ items, ∃ result, step item = .ok result := by
  induction items with
  | nil => simp
  | cons item rest ih =>
    rw [List.forall_mem_cons, ← ih]
    constructor
    · rintro ⟨results, each⟩
      cases each with
      | cons first others => exact ⟨⟨_, first⟩, _, others⟩
    · rintro ⟨⟨result, first⟩, results, others⟩
      exact ⟨result :: results, .cons first others⟩

/-- What is found in related items is related, if related items are alike in whether something is
found in them. -/
theorem forall₂_filterMap {γ δ : Type} {related : γ → δ → Prop} {find : α → Option γ}
    {other : β → Option δ} {items : List α} {others : List β}
    (each : List.Forall₂ (fun item twin => Option.Rel related (find item) (other twin))
      items others) : List.Forall₂ related (items.filterMap find) (others.filterMap other) := by
  induction each with
  | nil => exact .nil
  | @cons item twin _ _ first _ ih =>
    rw [List.filterMap_cons, List.filterMap_cons]
    generalize find item = found at first
    generalize other twin = foundThere at first
    cases first with
    | none => exact ih
    | some related => exact .cons related ih

end WorkerBindings
