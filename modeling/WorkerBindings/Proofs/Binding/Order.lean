import Mathlib.Data.List.Basic
import WorkerBindings.Proofs.Binding.Lookup

/-!
# The order of properties

A property map is its keys in order, each with its value. A key that is inserted stays where it is,
or goes to the end if it is new; so keys that are inserted one after another stand in the order of
their first occurrences.
-/

namespace WorkerBindings.Properties

open Association

theorem drop_eq_filter (key : String) {pairs : List (String × String)}
    (distinct : (keysOf pairs).Nodup) :
    drop key pairs = pairs.filter fun pair => !decide (pair.1 = key) := by
  induction pairs with
  | nil => rfl
  | cons pair rest ih =>
    obtain ⟨other, old⟩ := pair
    obtain ⟨fresh, distinctRest⟩ := List.nodup_cons.mp distinct
    by_cases same : other = key
    · subst same
      have others : ∀ pair ∈ rest, (!decide (pair.1 = other)) = true := by
        intro pair member
        have different : pair.1 ≠ other := fun same =>
          fresh (List.mem_map.mpr ⟨pair, member, same⟩)
        simp [different]
      simp [drop, List.filter_eq_self.mpr others]
    · simp [drop, same, ih distinctRest]

/-- A key that is not in front goes behind. -/
theorem put_append {key : String} {front : List (String × String)} (absent : key ∉ keysOf front)
    (value : String) (back : List (String × String)) :
    put key value (front ++ back) = front ++ put key value back := by
  induction front with
  | nil => rfl
  | cons pair rest ih =>
    obtain ⟨other, old⟩ := pair
    obtain ⟨different, absentRest⟩ := not_or.mp (mt List.mem_cons.mpr absent)
    simp [put, Ne.symm different, ih absentRest]

/-- Pairs of distinct keys are their keys with what is found under them. -/
theorem eq_filterMap_lookup {pairs : List (String × String)} (distinct : (keysOf pairs).Nodup) :
    pairs = (keysOf pairs).filterMap fun key =>
      (pairs.lookup key).map fun value => (key, value) := by
  induction pairs with
  | nil => rfl
  | cons pair rest ih =>
    obtain ⟨first, value⟩ := pair
    obtain ⟨fresh, distinctRest⟩ := List.nodup_cons.mp distinct
    have others : ∀ key ∈ keysOf rest,
        (((first, value) :: rest).lookup key).map (fun value => (key, value)) =
          (rest.lookup key).map fun value => (key, value) := by
      intro key member
      have different : key ≠ first := fun same => fresh (same ▸ member)
      rw [lookup_cons_ne different]
    have here : keysOf ((first, value) :: rest) = first :: keysOf rest := rfl
    rw [here, List.filterMap_cons, List.lookup_cons_self, Option.map_some,
      List.filterMap_congr others, ← ih distinctRest]

variable (properties : Properties)

/-- A map is its keys in order, each with its value. -/
theorem entries_eq_filterMap : properties.entries =
    properties.keys.filterMap fun key => (properties.get? key).map fun value => (key, value) :=
  eq_filterMap_lookup properties.distinct

theorem keys_insert (key value : String) : (properties.insert key value).keys =
    if key ∈ properties.keys then properties.keys else properties.keys ++ [key] :=
  keysOf_put key value properties.entries

theorem insertAll_append (pairs others : List (String × String)) :
    properties.insertAll (pairs ++ others) = (properties.insertAll pairs).insertAll others :=
  List.foldl_append

/-- Keys that are inserted one after another stand in the order of their first occurrences, behind
those that were there. -/
theorem keys_insertAll (pairs : List (String × String)) : (properties.insertAll pairs).keys =
    properties.keys ++
      ((keysOf pairs).filter fun key => !decide (key ∈ properties.keys)).eraseDups := by
  induction pairs generalizing properties with
  | nil => simp [insertAll, keysOf]
  | cons pair rest ih =>
    obtain ⟨key, value⟩ := pair
    have step : properties.insertAll ((key, value) :: rest) =
        (properties.insert key value).insertAll rest := rfl
    have here : keysOf ((key, value) :: rest) = key :: keysOf rest := rfl
    rw [step, ih, keys_insert, here]
    by_cases known : key ∈ properties.keys
    · simp [known]
    · have fresh : (keysOf rest).filter (fun other => !decide (other ∈ properties.keys ++ [key])) =
          ((keysOf rest).filter fun other => !decide (other ∈ properties.keys)).filter
            fun other => !other == key := by
        rw [List.filter_filter]
        refine List.filter_congr fun other _ => ?_
        by_cases same : other = key <;> simp [same]
      rw [if_neg known, List.filter_cons_of_pos (by simpa using known), List.eraseDups_cons, fresh,
        List.append_assoc]
      rfl

end WorkerBindings.Properties
