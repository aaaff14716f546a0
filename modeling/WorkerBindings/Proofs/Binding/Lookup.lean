import WorkerBindings.Binding.Properties
import WorkerBindings.Proofs.Association

/-!
# Looking up properties

What the value of a key is after a change of a property map: inserting a key gives it its value, and
no operation touches the value of a key other than its own.
-/

namespace WorkerBindings.Properties

open Association

theorem lookup_put (key value other : String) (pairs : List (String × String)) :
    (put key value pairs).lookup other =
      if other = key then some value else pairs.lookup other := by
  induction pairs with
  | nil => by_cases same : other = key <;> simp [put, same]
  | cons pair rest ih =>
    obtain ⟨first, old⟩ := pair
    by_cases here : first = key
    · subst here
      by_cases same : other = first
      · simp [put, same]
      · simp [put, same, lookup_cons_ne same]
    · by_cases same : other = first
      · subst same
        simp [put, here]
      · simp [put, here, lookup_cons_ne same, ih]

theorem lookup_drop {key other : String} (different : other ≠ key)
    (pairs : List (String × String)) : (drop key pairs).lookup other = pairs.lookup other := by
  induction pairs with
  | nil => rfl
  | cons pair rest ih =>
    obtain ⟨first, old⟩ := pair
    by_cases here : first = key
    · subst here
      simp [drop, lookup_cons_ne different]
    · by_cases same : other = first
      · subst same
        simp [drop, here]
      · simp [drop, here, lookup_cons_ne same, ih]

@[simp] theorem get?_insert (properties : Properties) (key value other : String) :
    (properties.insert key value).get? other =
      if other = key then some value else properties.get? other :=
  lookup_put key value other properties.entries

theorem get?_erase {key other : String} (different : other ≠ key) (properties : Properties) :
    (properties.erase key).get? other = properties.get? other :=
  lookup_drop different properties.entries

@[simp] theorem get?_empty (key : String) : empty.get? key = none :=
  rfl

end WorkerBindings.Properties
