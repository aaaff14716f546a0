import WorkerBindings.Proofs.Files.Locations

/-!
# Documents that are discovered

In a tree whose entries have names that files can have, and each its own, every document that a
search lists is a file, its path leads there, and it is named as the search demands. Only a file
that is given itself may have any name.
-/

namespace WorkerBindings

variable {α : Type}

namespace FileTree

mutual

/-- Whether all entries of the tree have names that files can have, and no two in one directory the
same. -/
def isProper : FileTree α → Bool
  | .file _ => true
  | .directory entries => areProper entries

/-- Whether several entries are proper and differ in their names. -/
def areProper : List (String × FileTree α) → Bool
  | [] => true
  | (name, tree) :: rest =>
    Path.isName name && (rest.lookup name).isNone && tree.isProper && areProper rest

end

theorem areProper_cons {name : String} {tree : FileTree α} {rest : List (String × FileTree α)} :
    areProper ((name, tree) :: rest) = true ↔
      Path.IsName name ∧ rest.lookup name = none ∧ tree.isProper = true ∧
        areProper rest = true := by
  rw [areProper]
  simp only [Bool.and_eq_true, Path.isName_iff, Option.isNone_iff_eq_none, and_assoc]

theorem isProper_of_lookup {entries : List (String × FileTree α)}
    (proper : areProper entries = true) {name : String} {child : FileTree α}
    (found : entries.lookup name = some child) :
    child.isProper = true := by
  induction entries with
  | nil => cases found
  | cons entry rest ih =>
    obtain ⟨first, tree⟩ := entry
    obtain ⟨_, _, treeProper, restProper⟩ := areProper_cons.mp proper
    rw [List.lookup_cons] at found
    split at found
    · cases found
      exact treeProper
    · exact ih restProper found

/-- What lies in a proper tree is proper. -/
theorem isProper_of_at? {tree : FileTree α} (proper : tree.isProper = true) {location : List String}
    {node : FileTree α} (found : tree.at? location = some node) : node.isProper = true := by
  induction location generalizing tree with
  | nil =>
    rw [at?] at found
    cases found
    exact proper
  | cons name rest ih =>
    cases tree with
    | file content => cases found
    | directory entries =>
      rw [at?_cons] at found
      obtain ⟨child, here, below⟩ := Option.bind_eq_some_iff.mp found
      exact ih (isProper_of_lookup proper here) below

end FileTree

namespace Discovery

open FileTree

mutual

/-- A file that a search comes to lies in the tree under the names that lead to it. -/
theorem at?_of_mem_filesBelow {mayEnter : String → Bool} :
    ∀ {tree : FileTree α}, tree.isProper = true → ∀ {names : List String},
      names ∈ filesBelow mayEnter tree →
        (∀ name ∈ names, Path.IsName name) ∧ ∃ content, tree.at? names = some (.file content)
  | .file content, _, names, member => by
    obtain rfl := List.mem_singleton.mp member
    exact ⟨fun _ => (nomatch ·), content, rfl⟩
  | .directory _, proper, _, member => at?_of_mem_filesIn proper member

theorem at?_of_mem_filesIn {mayEnter : String → Bool} :
    ∀ {entries : List (String × FileTree α)}, areProper entries = true →
      ∀ {names : List String}, names ∈ filesIn mayEnter entries →
        (∀ name ∈ names, Path.IsName name) ∧
          ∃ content, (directory entries).at? names = some (.file content)
  | [], _, _, member => nomatch member
  | (first, tree) :: rest, proper, names, member => by
    obtain ⟨isName, own, treeProper, restProper⟩ := areProper_cons.mp proper
    rcases List.mem_append.mp member with here | later
    · split at here
      · obtain ⟨inner, memberInner, rfl⟩ := List.mem_map.mp here
        obtain ⟨areNames, content, found⟩ := at?_of_mem_filesBelow treeProper memberInner
        refine ⟨List.forall_mem_cons.mpr ⟨isName, areNames⟩, content, ?_⟩
        rw [at?_cons, List.lookup_cons_self, Option.bind_some, found]
      · cases here
    · obtain ⟨areNames, content, found⟩ := at?_of_mem_filesIn restProper later
      refine ⟨areNames, content, ?_⟩
      cases names with
      | nil => cases found
      | cons name inner =>
        rw [at?_cons] at found ⊢
        -- The other entries do not have this name, so that looking it up passes the first by.
        have differs : name ≠ first := by
          rintro rfl
          rw [own] at found
          cases found
        rw [Association.lookup_cons_ne differs]
        exact found

end

mutual

theorem filesBelow_outline (mayEnter : String → Bool) :
    ∀ tree : FileTree α, filesBelow mayEnter tree.outline = filesBelow mayEnter tree
  | .file _ => rfl
  | .directory entries => filesIn_outlineEntries mayEnter entries

theorem filesIn_outlineEntries (mayEnter : String → Bool) :
    ∀ entries : List (String × FileTree α),
      filesIn mayEnter (outlineEntries entries) = filesIn mayEnter entries
  | [] => rfl
  | (name, tree) :: rest => by
    rw [outlineEntries, filesIn, filesIn, filesBelow_outline mayEnter tree,
      filesIn_outlineEntries mayEnter rest]

end

/-- A search needs no contents. -/
theorem modules_outline (path : String) (found : Option (FileTree α)) :
    modules path (found.map (·.outline)) = modules path found := by
  match found with
  | none => rfl
  | some (.file _) => rfl
  | some (.directory entries) =>
    change documentsIn _ _ _ (outlineEntries entries) = documentsIn _ _ _ entries
    rw [documentsIn, documentsIn, filesIn_outlineEntries]

/-- The path of a document leads to it from where the path of the directory leads. -/
theorem locate_pathBelow {tree : FileTree α} {current location names : List String}
    {directory : String} {node : FileTree α}
    (located : tree.locate current directory = .ok location)
    (areNames : ∀ name ∈ names, Path.IsName name)
    (found : tree.at? (location ++ names) = some node) :
    tree.locate current (pathBelow directory names) = .ok (location ++ names) := by
  induction names generalizing location directory with
  | nil =>
    rw [List.append_nil]
    exact located
  | cons name rest ih =>
    obtain ⟨isName, areNames⟩ := List.forall_mem_cons.mp areNames
    have isDirectory : tree.HasDirectory location := by
      rw [at?_append] at found
      obtain ⟨child, here, below⟩ := Option.bind_eq_some_iff.mp found
      cases child with
      | file content => cases below
      | directory entries => exact ⟨entries, here⟩
    have inside := locate_join located isDirectory isName
    rw [List.append_cons] at found ⊢
    exact ih inside areNames found

/-- The path of a discovered module leads to a file, named as a symbol document unless it is the
only one and was given itself. -/
theorem mem_modules {tree : FileTree α} (proper : tree.isProper = true) {current : List String}
    {input path : String} (member : path ∈ modules input (tree.find? current input)) :
    ∃ location content, tree.locate current path = .ok location ∧
      tree.at? location = some (.file content) ∧
      (isNamed moduleSuffix location = true ∨
        path = input ∧ modules input (tree.find? current input) = [input]) := by
  unfold find? at member ⊢
  cases located : tree.locate current input with
  | error fault =>
    rw [located] at member
    cases member
  | ok start =>
    rw [located] at member
    dsimp only at member ⊢
    cases found : tree.at? start with
    | none =>
      rw [found] at member
      cases member
    | some node =>
      rw [found] at member
      cases node with
      | file content =>
        cases List.mem_singleton.mp member
        exact ⟨start, content, located, found, .inr ⟨rfl, rfl⟩⟩
      | directory entries =>
        obtain ⟨names, memberNames, rfl⟩ := List.mem_map.mp member
        obtain ⟨isFound, isNamed⟩ := List.mem_filter.mp (List.mem_mergeSort.mp memberNames)
        obtain ⟨areNames, content, foundBelow⟩ :=
          at?_of_mem_filesIn (isProper_of_at? proper found) isFound
        have foundHere : tree.at? (start ++ names) = some (.file content) := by
          rw [at?_append, found, Option.bind_some, foundBelow]
        refine ⟨start ++ names, content, locate_pathBelow located areNames foundHere, foundHere,
          .inl ?_⟩
        obtain ⟨name, last, ends⟩ := isNamed_iff.mp isNamed
        exact isNamed_iff.mpr ⟨name, by rw [List.getLast?_append, last]; rfl, ends⟩

end Discovery

end WorkerBindings
