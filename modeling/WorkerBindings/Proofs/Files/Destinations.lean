import WorkerBindings.Proofs.Files.Evolution
import WorkerBindings.Proofs.Files.Locations

/-!
# Destinations of paths

A path leads to one place, if it leads anywhere: the place that its steps name, whatever there is
in the tree. Directories that have been made can be made again, which changes nothing, and a file
that is there can be written again.
-/

namespace WorkerBindings

namespace Path

/-- Where steps lead from a location if nothing is in the way. -/
def goal (here : List String) : List String → List String
  | [] => here
  | step :: rest =>
    if step = ".." then goal here.dropLast rest
    else if isStep step then goal (here ++ [step]) rest
    else goal here rest

/-- Where a path leads from the current directory if nothing is in the way. -/
def destination (current : List String) (path : String) : List String :=
  goal (if isAbsolute path then [] else current) (steps path)

theorem goal_append (here steps more : List String) :
    goal here (steps ++ more) = goal (goal here steps) more := by
  induction steps generalizing here with
  | nil => rfl
  | cons step rest ih =>
    rw [List.cons_append, goal, goal]
    split
    · exact ih _
    split
    · exact ih _
    · exact ih _

theorem goal_name {name : String} (isName : IsName name) (here : List String) :
    goal here [name] = here ++ [name] := by
  rw [goal, if_neg isName.notUp, if_pos isName.isStep, goal]

/-- The path to something inside a directory ends in its name. -/
theorem destination_join {directory name : String} (isName : IsName name) (named : directory ≠ "")
    (current : List String) :
    destination current (join directory name) = destination current directory ++ [name] := by
  unfold destination
  rw [isName.join_isAbsolute named]
  rcases isName.steps_join named with added | ⟨before, closed, replaced⟩
  · rw [added, goal_append, goal_name isName]
  · -- The last step of the directory was empty and leads nowhere.
    rw [closed, replaced, goal_append, goal_append, goal_name isName]
    rfl

end Path

namespace FileTree

variable {α : Type}

theorem goal_of_follow {tree : FileTree α} {here steps location : List String}
    (followed : tree.follow here steps = .ok location) : location = Path.goal here steps := by
  induction steps generalizing here with
  | nil => exact (Except.ok.inj followed).symm
  | cons step rest ih =>
    rw [follow_cons (hasDirectory_of_follow followed)] at followed
    rw [Path.goal]
    by_cases up : step = ".."
    · rw [if_pos up] at followed ⊢
      exact ih followed
    rw [if_neg up] at followed ⊢
    split at followed
    · cases followed
    by_cases isStep : Path.isStep step = true
    · rw [if_pos isStep] at followed ⊢
      exact ih followed
    · rw [if_neg isStep] at followed ⊢
      exact ih followed

/-- A path leads to its destination or nowhere. -/
theorem destination_of_locate {tree : FileTree α} {current location : List String} {path : String}
    (located : tree.locate current path = .ok location) :
    location = Path.destination current path := by
  unfold locate at located
  split at located
  · cases located
  split at located
  · cases located
  · exact goal_of_follow located

theorem find?_eq_some_iff {tree node : FileTree α} {current : List String} {path : String} :
    tree.find? current path = some node ↔
      ∃ location, tree.locate current path = .ok location ∧ tree.at? location = some node := by
  unfold find?
  cases tree.locate current path with
  | error fault => simp
  | ok location => simp

/-- Directories that could be made are made again by changing nothing, as long as none of them goes
away. -/
theorem makeSteps_again {tree made later : FileTree α} {here steps : List String}
    (ready : tree.makeSteps here steps = (made, .ok ()))
    (kept : ∀ location, made.HasDirectory location → later.HasDirectory location) :
    later.makeSteps here steps = (later, .ok ()) := by
  induction steps generalizing tree here with
  | nil => rfl
  | cons step rest ih =>
    rw [makeSteps] at ready ⊢
    split at ready
    · rw [if_pos ‹_›]
      exact ih ready
    rw [if_neg ‹_›]
    split at ready
    · cases ready
    rw [if_neg ‹_›]
    split at ready
    · rw [if_pos ‹_›]
      -- Whether the directory was there or has been made, it is there later.
      obtain ⟨between, readyLater, directory⟩ : ∃ between : FileTree α,
          between.makeSteps (here ++ [step]) rest = (made, .ok ()) ∧
            between.HasDirectory (here ++ [step]) := by
        split at ready
        · rename_i entries found
          exact ⟨tree, ready, entries, found⟩
        · cases ready
        · split at ready
          · rename_i changed put
            exact ⟨changed, ready, [], at?_put? put⟩
          · cases ready
      have evolves : Evolves (fun _ => False) between
          (between.makeSteps (here ++ [step]) rest).1 := .makeSteps between _ rest
      have stays := evolves.directories _ directory
      rw [readyLater] at stays
      obtain ⟨entries, found⟩ := kept _ stays
      rw [found]
      exact ih readyLater
    · rw [if_neg ‹_›]
      exact ih ready

theorem makeDirectories_again {tree made later : FileTree α} {current : List String} {path : String}
    (ready : tree.makeDirectories current path = (made, .ok ()))
    (kept : ∀ location, made.HasDirectory location → later.HasDirectory location) :
    later.makeDirectories current path = (later, .ok ()) := by
  unfold makeDirectories at ready ⊢
  split at ready
  · cases ready
  · rw [if_neg ‹_›]
    exact makeSteps_again ready kept

/-- Something can be put wherever something lies. -/
theorem exists_put? (node : FileTree α) {tree old : FileTree α} {location : List String}
    (found : tree.at? location = some old) : ∃ changed, put? node tree location = some changed := by
  induction location generalizing tree with
  | nil => exact ⟨node, by rw [put?]⟩
  | cons name rest ih =>
    cases tree with
    | file content => cases found
    | directory entries =>
      rw [at?_cons] at found
      obtain ⟨child, here, below⟩ := Option.bind_eq_some_iff.mp found
      cases rest with
      | nil => exact ⟨_, by rw [put?]⟩
      | cons next rest =>
        obtain ⟨changed, put⟩ := ih below
        refine ⟨.directory (putEntry name changed entries), ?_⟩
        rw [put?, here]
        dsimp only
        rw [put]
        rfl

/-- A file that is there can be written again. -/
theorem write_again {tree : FileTree α} {current location : List String} {path : String}
    {old : α} (located : tree.locate current path = .ok location)
    (found : tree.at? location = some (.file old)) (content : α) :
    ∃ changed, tree.write current path content = .ok changed := by
  obtain ⟨changed, put⟩ := exists_put? (.file content) found
  refine ⟨changed, ?_⟩
  rw [write, located]
  simp only [bind, Except.bind, found, put]

end FileTree

end WorkerBindings
