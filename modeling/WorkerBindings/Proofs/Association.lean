/-!
# Association lists

Looking up a name in a list of named values, where the first entry of a name counts.
-/

namespace WorkerBindings.Association

variable {α : Type} {entries : List (String × α)} {name other : String}

/-- An entry is passed over in the search for another name. -/
theorem lookup_cons_ne (different : other ≠ name) (value : α) :
    ((name, value) :: entries).lookup other = entries.lookup other := by
  have unequal : (other == name) = false := by simpa using different
  rw [List.lookup_cons, unequal]

/-- An entry under a name that had none hides no other entry. -/
theorem lookup_cons_of_missing {kept : α} (value : α) (missing : entries.lookup name = none)
    (found : entries.lookup other = some kept) :
    ((name, value) :: entries).lookup other = some kept := by
  by_cases same : other = name
  · subst same
    rw [missing] at found
    cases found
  · rw [lookup_cons_ne same]
    exact found

end WorkerBindings.Association
