import WorkerBindings.Proofs.Files.Writing

/-!
# Files over time

While a program makes directories and writes files, no directory goes away, and every file stays as
it is except where something was written. `FileTree.Evolves` says so of two trees, given the
locations at which something may have been written.
-/

namespace WorkerBindings.FileTree

variable {α : Type} {touched : List String → Prop}

/-- From the one tree to the other no directory went away, and no file changed except at the
locations that were touched. -/
structure Evolves (touched : List String → Prop) (before after : FileTree α) : Prop where
  directories : ∀ location, before.HasDirectory location → after.HasDirectory location
  files : ∀ location content, ¬ touched location →
    before.at? location = some (.file content) → after.at? location = some (.file content)

namespace Evolves

theorem refl (tree : FileTree α) : Evolves touched tree tree :=
  ⟨fun _ directory => directory, fun _ _ _ found => found⟩

theorem trans {before between after : FileTree α} (first : Evolves touched before between)
    (second : Evolves touched between after) : Evolves touched before after where
  directories location directory :=
    second.directories location (first.directories location directory)
  files location content untouched found :=
    second.files location content untouched (first.files location content untouched found)

theorem mono {others : List String → Prop} {before after : FileTree α}
    (evolves : Evolves touched before after)
    (within : ∀ location, touched location → others location) : Evolves others before after where
  directories := evolves.directories
  files location content untouched found :=
    evolves.files location content (fun touched => untouched (within location touched)) found

/-- A path goes on leading to the same place. -/
theorem locate {before after : FileTree α} (evolves : Evolves touched before after)
    {current : List String} {path : String} {location : List String}
    (located : before.locate current path = .ok location) :
    after.locate current path = .ok location :=
  locate_of_directories evolves.directories located

end Evolves

/-- Putting something where there is no directory leaves the files at other locations alone. -/
theorem file_put? {node tree changed : FileTree α} {location : List String}
    (put : put? node tree location = some changed) (free : ¬ tree.HasDirectory location)
    {other : List String} {content : α} (elsewhere : other ≠ location)
    (found : tree.at? other = some (.file content)) : changed.at? other = some (.file content) := by
  induction location generalizing tree changed other with
  | nil =>
    cases tree with
    | directory entries => exact absurd ⟨entries, by rw [at?]⟩ free
    | file old =>
      cases other with
      | nil => exact absurd rfl elsewhere
      | cons step others => cases found
  | cons name rest ih =>
    obtain ⟨entries, child, rfl, rfl, how⟩ := put?_cons_eq_some put
    cases other with
    | nil => cases found
    | cons step others =>
      unfold HasDirectory at free
      simp only [at?_cons, lookup_putEntry] at found free ⊢
      by_cases same : step = name
      · subst same
        rw [if_pos rfl, Option.bind_some]
        obtain ⟨old, here, foundBelow⟩ := Option.bind_eq_some_iff.mp found
        rw [here, Option.bind_some] at free
        rcases how with ⟨rfl, rfl⟩ | ⟨same, isSame, putBelow⟩
        · -- What is replaced here would have to be a directory for a file to lie below it.
          cases others with
          | nil => exact absurd rfl elsewhere
          | cons next others =>
            cases old with
            | file old => cases foundBelow
            | directory entries => exact absurd ⟨entries, by rw [at?]⟩ free
        · rw [here] at isSame
          cases isSame
          exact ih putBelow free (fun same => elsewhere (congrArg _ same)) foundBelow
      · rw [if_neg same]
        exact found

/-- Putting something where there is no directory touches no other location. -/
theorem Evolves.put {node tree changed : FileTree α} {location : List String}
    (put : put? node tree location = some changed) (free : ¬ tree.HasDirectory location) :
    Evolves (· = location) tree changed where
  directories _ directory := directory.put? put free
  files _ _ elsewhere found := file_put? put free elsewhere found

/-- Putting something where there is nothing touches no location that has a file. -/
theorem Evolves.fill {node tree changed : FileTree α} {location : List String}
    (put : put? node tree location = some changed) (empty : tree.at? location = none) :
    Evolves touched tree changed := by
  have free : ¬ tree.HasDirectory location := by
    rintro ⟨entries, found⟩
    rw [empty] at found
    cases found
  refine ⟨(Evolves.put put free).directories, fun other content _ found => ?_⟩
  refine file_put? put free ?_ found
  rintro rfl
  rw [empty] at found
  cases found

theorem Evolves.makeSteps (tree : FileTree α) (here steps : List String) :
    Evolves touched tree (tree.makeSteps here steps).1 := by
  induction steps generalizing tree here with
  | nil => exact .refl tree
  | cons step rest ih =>
    rw [FileTree.makeSteps]
    split
    · exact ih tree _
    split
    · exact .refl tree
    split
    · split
      · exact ih tree _
      · exact .refl tree
      · rename_i empty
        split
        · rename_i changed put
          exact (Evolves.fill put empty).trans (ih changed _)
        · exact .refl tree
    · exact ih tree _

theorem Evolves.makeDirectories (tree : FileTree α) (current : List String) (path : String) :
    Evolves touched tree (tree.makeDirectories current path).1 := by
  rw [FileTree.makeDirectories]
  split
  · exact .refl tree
  · exact .makeSteps tree _ _

end WorkerBindings.FileTree
