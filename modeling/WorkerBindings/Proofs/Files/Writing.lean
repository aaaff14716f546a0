import WorkerBindings.Files.Tree
import WorkerBindings.Proofs.Association

/-!
# Files after they are written

A file that has been written is found at the path under which it was written. The path leads to the
same place as before, because a file is never written over a directory: whatever was a directory on
the way still is one.
-/

namespace WorkerBindings.FileTree

open Association

variable {α : Type}

/-- There is a directory at a location. -/
def HasDirectory (tree : FileTree α) (location : List String) : Prop :=
  ∃ entries, tree.at? location = some (.directory entries)

theorem lookup_putEntry (name : String) (node : FileTree α) (other : String)
    (entries : List (String × FileTree α)) :
    (putEntry name node entries).lookup other =
      if other = name then some node else entries.lookup other := by
  induction entries with
  | nil => by_cases same : other = name <;> simp [putEntry, same]
  | cons entry rest ih =>
    obtain ⟨first, old⟩ := entry
    by_cases here : name = first
    · subst here
      by_cases same : other = name
      · simp [putEntry, same]
      · simp [putEntry, same, lookup_cons_ne same]
    · by_cases atFirst : other = first
      · subst atFirst
        simp [putEntry, here, Ne.symm here]
      · simp [putEntry, here, lookup_cons_ne atFirst, ih]

theorem at?_cons (entries : List (String × FileTree α)) (name : String) (rest : List String) :
    (directory entries).at? (name :: rest) = (entries.lookup name).bind (·.at? rest) := by
  rw [at?]
  cases entries.lookup name <;> rfl

/-- How a node is put below a directory: into one of its entries or further down. -/
theorem put?_cons_eq_some {node tree changed : FileTree α} {name : String} {rest : List String}
    (put : put? node tree (name :: rest) = some changed) :
    ∃ entries child, tree = .directory entries ∧
      changed = .directory (putEntry name child entries) ∧
      (rest = [] ∧ child = node ∨
        ∃ old, entries.lookup name = some old ∧ put? node old rest = some child) := by
  cases tree with
  | file content => cases put
  | directory entries =>
    cases rest with
    | nil =>
      cases put
      exact ⟨entries, node, rfl, rfl, .inl ⟨rfl, rfl⟩⟩
    | cons next rest =>
      rw [put?] at put
      cases found : entries.lookup name with
      | none =>
        rw [found] at put
        cases put
      | some old =>
        rw [found] at put
        obtain ⟨child, putBelow, rfl⟩ := Option.map_eq_some_iff.mp put
        exact ⟨entries, child, rfl, rfl, .inr ⟨old, found, putBelow⟩⟩

/-- What has been put at a location lies there. -/
theorem at?_put? {node tree changed : FileTree α} {location : List String}
    (put : put? node tree location = some changed) : changed.at? location = some node := by
  induction location generalizing tree changed with
  | nil =>
    rw [put?] at put
    cases put
    rw [at?]
  | cons name rest ih =>
    obtain ⟨entries, child, rfl, rfl, here | ⟨old, found, putBelow⟩⟩ := put?_cons_eq_some put
    · obtain ⟨rfl, rfl⟩ := here
      rw [at?_cons, lookup_putEntry, if_pos rfl, Option.bind_some, at?]
    · rw [at?_cons, lookup_putEntry, if_pos rfl, Option.bind_some]
      exact ih putBelow

/-- Only a directory has directories below it. -/
theorem HasDirectory.root {tree : FileTree α} {location : List String}
    (directory : tree.HasDirectory location) : tree.HasDirectory [] := by
  cases tree with
  | directory entries => exact ⟨entries, by rw [at?]⟩
  | file content =>
    obtain ⟨entries, found⟩ := directory
    cases location <;> rw [at?] at found <;> cases found

/-- Putting something where there is no directory leaves all directories where they are. -/
theorem HasDirectory.put? {node tree changed : FileTree α} {location : List String}
    (put : put? node tree location = some changed) (free : ¬ tree.HasDirectory location)
    {other : List String} (directory : tree.HasDirectory other) : changed.HasDirectory other := by
  induction location generalizing tree changed other with
  | nil => exact absurd directory.root free
  | cons name rest ih =>
    obtain ⟨entries, child, rfl, rfl, how⟩ := put?_cons_eq_some put
    cases other with
    | nil => exact ⟨_, by rw [at?]⟩
    | cons step others =>
      unfold HasDirectory at directory free ⊢
      simp only [at?_cons, lookup_putEntry] at directory free ⊢
      by_cases same : step = name
      · subst same
        rw [if_pos rfl, Option.bind_some]
        rcases how with ⟨rfl, rfl⟩ | ⟨old, found, putBelow⟩
        · -- What is replaced here is a file or nothing, and neither has a directory below it.
          cases found : entries.lookup step with
          | none => simp [found] at directory
          | some old =>
            rw [found] at free directory
            exact absurd (HasDirectory.root directory) free
        · rw [found] at free directory
          exact ih putBelow free directory
      · rw [if_neg same]
        exact directory

/-- A path goes on only where there is a directory. -/
theorem hasDirectory_of_follow {tree : FileTree α} {here rest location : List String}
    {step : String} (followed : tree.follow here (step :: rest) = .ok location) :
    tree.HasDirectory here := by
  rw [follow] at followed
  split at followed
  · cases followed
  · cases followed
  · exact ⟨_, ‹_›⟩

/-- One step of a path that stands at a directory. -/
theorem follow_cons {tree : FileTree α} {here : List String} (directory : tree.HasDirectory here)
    (step : String) (rest : List String) :
    tree.follow here (step :: rest) =
      if step = ".." then tree.follow here.dropLast rest
      else if Path.isOverlong step then .error .nameTooLong
      else if Path.isStep step then tree.follow (here ++ [step]) rest
      else tree.follow here rest := by
  obtain ⟨entries, found⟩ := directory
  rw [follow, found]

/-- A path leads to the same place as long as no directory goes away. -/
theorem follow_of_directories {before after : FileTree α}
    (kept : ∀ location, before.HasDirectory location → after.HasDirectory location)
    {here steps location : List String} (followed : before.follow here steps = .ok location) :
    after.follow here steps = .ok location := by
  induction steps generalizing here with
  | nil => exact followed
  | cons step rest ih =>
    have directory := hasDirectory_of_follow followed
    rw [follow_cons directory] at followed
    rw [follow_cons (kept here directory)]
    by_cases up : step = ".."
    · rw [if_pos up] at followed ⊢
      exact ih followed
    rw [if_neg up] at followed ⊢
    by_cases overlong : Path.isOverlong step = true
    · rw [if_pos overlong] at followed
      cases followed
    rw [if_neg overlong] at followed ⊢
    by_cases isStep : Path.isStep step = true
    · rw [if_pos isStep] at followed ⊢
      exact ih followed
    · rw [if_neg isStep] at followed ⊢
      exact ih followed

theorem locate_of_directories {before after : FileTree α}
    (kept : ∀ location, before.HasDirectory location → after.HasDirectory location)
    {current : List String} {path : String} {location : List String}
    (located : before.locate current path = .ok location) :
    after.locate current path = .ok location := by
  unfold locate at located ⊢
  split at located
  · cases located
  · split at located
    · cases located
    · rw [if_neg ‹_›, if_neg ‹_›]
      exact follow_of_directories kept located

/-- A file that could be written puts its content where its path leads. -/
theorem write_eq_ok {tree after : FileTree α} {current : List String} {path : String} {content : α}
    (written : tree.write current path content = .ok after) :
    ∃ location, tree.locate current path = .ok location ∧ ¬ tree.HasDirectory location ∧
      put? (.file content) tree location = some after := by
  unfold write at written
  cases located : tree.locate current path with
  | error fault =>
    rw [located] at written
    cases written
  | ok location =>
    rw [located] at written
    simp only [bind, Except.bind] at written
    split at written
    · cases written
    · rename_i put notDirectory
      cases written
      refine ⟨location, rfl, ?_, put⟩
      rintro ⟨entries, found⟩
      exact notDirectory entries found
    · cases written

/-- A file that has been written is read with what was written. -/
theorem read_write {tree after : FileTree α} {current : List String} {path : String} {content : α}
    (written : tree.write current path content = .ok after) :
    after.read current path = .ok content := by
  obtain ⟨location, located, free, put⟩ := write_eq_ok written
  have locatedAfter : after.locate current path = .ok location :=
    locate_of_directories (fun _ directory => directory.put? put free) located
  rw [read, locatedAfter]
  simp only [bind, Except.bind, at?_put? put]

end WorkerBindings.FileTree
