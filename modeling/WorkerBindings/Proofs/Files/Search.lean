import Mathlib.Data.List.Nodup
import WorkerBindings.Proofs.Files.Discovered

/-!
# What a search for modules lists

A search below a directory lists every symbol document there to which no hidden name leads, each of
them once and in the order of their paths, and nothing else. The name of the directory itself is
not looked at. `ListsDocuments` says so of a list of paths, and `modules_listsDocuments` of the list
that a search returns.
-/

namespace WorkerBindings

variable {α : Type}

namespace Path

/-- Whether a path comes before another that starts alike, compared component by component. -/
def Before (left right : String) : Prop :=
  (components left).1 = (components right).1 ∧
    List.Lex (· < ·) (components left).2 (components right).2

theorem Before.ne {left right : String} (before : Before left right) : left ≠ right := by
  rintro rfl
  exact List.lt_irrefl _ before.2

/-- The anchor of a path that is not empty is told by its first step alone. -/
def anchorOf : Option String → Anchor
  | some "" => .root
  | some "." => .current
  | _ => .bare

theorem steps_ne_nil (path : String) : steps path ≠ [] := by
  rw [steps_eq, Ne, List.map_eq_nil_iff]
  exact Text.pieces_ne_nil path.toList

theorem eq_empty_of_steps {path : String} (empty : steps path = [""]) : path = "" := by
  rw [steps_eq] at empty
  obtain ⟨piece, cut, blank⟩ := List.map_eq_singleton_iff.mp empty
  obtain ⟨whole, _⟩ := Text.pieces_eq_singleton_iff.mp cut
  rw [← String.ofList_toList (s := path), whole, blank]

/-- The components of a path are its steps that lead somewhere, after its anchor. -/
theorem components_eq {path : String} (named : path ≠ "") :
    components path = (anchorOf (steps path).head?, (steps path).filter isStep) := by
  obtain ⟨first, rest, cut⟩ := List.exists_cons_of_ne_nil (steps_ne_nil path)
  unfold components anchored
  rw [cut]
  by_cases root : first = ""
  · subst root
    cases rest with
    | nil => exact absurd (eq_empty_of_steps cut) named
    | cons next more => rfl
  by_cases current : first = "."
  · subst current
    rfl
  · simp [anchorOf, root, current]

/-- A name adds one component to those of a directory. -/
theorem components_join {directory name : String} (named : directory ≠ "") (isName : IsName name) :
    components (join directory name) =
      ((components directory).1, (components directory).2 ++ [name]) := by
  have joined : join directory name ≠ "" := fun empty =>
    isName.join_notEmpty named (String.isEmpty_iff.mpr empty)
  rw [components_eq named, components_eq joined]
  have leads : [name].filter isStep = [name] := List.filter_cons_of_pos isName.isStep
  rcases isName.steps_join named with added | ⟨before, closed, replaced⟩
  · rw [added, List.filter_append, leads, List.head?_append_of_ne_nil _ (steps_ne_nil directory)]
  · have notEmpty : before ≠ [] := by
      rintro rfl
      exact named (eq_empty_of_steps closed)
    have blank : [""].filter isStep = [] := rfl
    rw [closed, replaced, List.filter_append, List.filter_append, leads, blank, List.append_nil,
      List.head?_append_of_ne_nil _ notEmpty, List.head?_append_of_ne_nil _ notEmpty]

end Path

namespace Discovery

open FileTree

theorem components_pathBelow {names : List String} (areNames : ∀ name ∈ names, Path.IsName name)
    {directory : String} (named : directory ≠ "") :
    Path.components (pathBelow directory names) =
      ((Path.components directory).1, (Path.components directory).2 ++ names) := by
  induction names generalizing directory with
  | nil => rw [List.append_nil]; rfl
  | cons name rest ih =>
    obtain ⟨isName, areNames⟩ := List.forall_mem_cons.mp areNames
    have joined : Path.join directory name ≠ "" := fun empty =>
      isName.join_notEmpty named (String.isEmpty_iff.mpr empty)
    change Path.components (pathBelow (Path.join directory name) rest) = _
    rw [ih areNames joined, Path.components_join named isName, List.append_assoc,
      List.singleton_append]

/-- What lies below a directory is ordered as the names that lead to it. -/
theorem pathBelow_before {directory : String} (named : directory ≠ "") {left right : List String}
    (leftNames : ∀ name ∈ left, Path.IsName name) (rightNames : ∀ name ∈ right, Path.IsName name)
    (before : List.Lex (· < ·) left right) :
    Path.Before (pathBelow directory left) (pathBelow directory right) := by
  rw [Path.Before, components_pathBelow leftNames named, components_pathBelow rightNames named]
  refine ⟨rfl, ?_⟩
  induction (Path.components directory).2 with
  | nil => exact before
  | cons first rest ih => exact .cons ih

theorem precedes_iff {left right : List String} :
    precedes left right = true ↔ List.le left right := by
  induction left generalizing right with
  | nil => exact iff_of_true (by rw [precedes]) (List.nil_le right)
  | cons first rest ih =>
    cases right with
    | nil => exact iff_of_false (by simp [precedes]) (List.not_le.mpr (List.nil_lt_cons first rest))
    | cons other others =>
      refine Iff.trans ?_ List.cons_le_cons_iff.symm
      rw [precedes, Bool.or_eq_true, Bool.and_eq_true, decide_eq_true_iff, beq_iff_eq, ih]
      rfl

/-- Lists of names without repetition are sorted strictly. -/
theorem mergeSort_ascending {found : List (List String)} (distinct : found.Nodup) :
    (found.mergeSort precedes).Pairwise (List.Lex (· < ·)) := by
  have ascending := @List.pairwise_mergeSort _ precedes
    (fun _ _ _ first second => precedes_iff.mpr
      (List.le_trans (precedes_iff.mp first) (precedes_iff.mp second)))
    (fun left right => by
      rw [Bool.or_eq_true, precedes_iff, precedes_iff]
      exact List.le_total left right) found
  have sorted : (found.mergeSort precedes).Nodup :=
    (List.mergeSort_perm found precedes).nodup_iff.mpr distinct
  refine (ascending.and sorted).imp fun ⟨ordered, differ⟩ => ?_
  exact Classical.byContradiction fun notBefore =>
    differ (List.le_antisymm (precedes_iff.mp ordered) notBefore)

theorem mem_filesIn_iff {mayEnter : String → Bool} {entries : List (String × FileTree α)}
    (proper : areProper entries = true) {names : List String} :
    names ∈ filesIn mayEnter entries ↔
      ∃ name inner child, names = name :: inner ∧ entries.lookup name = some child ∧
        mayEnter name = true ∧ inner ∈ filesBelow mayEnter child := by
  induction entries with
  | nil => simp [filesIn]
  | cons entry rest ih =>
    obtain ⟨first, tree⟩ := entry
    obtain ⟨_, own, _, restProper⟩ := areProper_cons.mp proper
    rw [filesIn, List.mem_append, ih restProper]
    constructor
    · rintro (here | ⟨name, inner, child, rfl, found, enters, member⟩)
      · split at here
        · rename_i enters
          obtain ⟨inner, member, rfl⟩ := List.mem_map.mp here
          exact ⟨first, inner, tree, rfl, List.lookup_cons_self, enters, member⟩
        · cases here
      · refine ⟨name, inner, child, rfl, ?_, enters, member⟩
        have differs : name ≠ first := by
          rintro rfl
          rw [own] at found
          cases found
        rw [Association.lookup_cons_ne differs]
        exact found
    · rintro ⟨name, inner, child, rfl, found, enters, member⟩
      by_cases same : name = first
      · subst same
        rw [List.lookup_cons_self] at found
        cases found
        left
        rw [if_pos enters]
        exact List.mem_map_of_mem member
      · rw [Association.lookup_cons_ne same] at found
        exact .inr ⟨name, inner, child, rfl, found, enters, member⟩

/-- A search comes to every file to which only names lead that may be entered. -/
theorem mem_filesBelow_iff {mayEnter : String → Bool} {tree : FileTree α}
    (proper : tree.isProper = true) {names : List String} :
    names ∈ filesBelow mayEnter tree ↔
      (∃ content, tree.at? names = some (.file content)) ∧
        ∀ name ∈ names, mayEnter name = true := by
  induction names generalizing tree with
  | nil =>
    cases tree with
    | file content => simp [filesBelow, at?]
    | directory entries => simp [filesBelow, at?, mem_filesIn_iff proper]
  | cons name inner ih =>
    cases tree with
    | file content => simp [filesBelow, at?]
    | directory entries =>
      rw [filesBelow, mem_filesIn_iff proper, List.forall_mem_cons, at?_cons]
      constructor
      · rintro ⟨_, _, child, same, found, enters, member⟩
        obtain ⟨rfl, rfl⟩ := List.cons.inj same
        obtain ⟨file, others⟩ := (ih (isProper_of_lookup proper found)).mp member
        rw [found]
        exact ⟨file, enters, others⟩
      · rintro ⟨⟨content, file⟩, enters, others⟩
        obtain ⟨child, found, below⟩ := Option.bind_eq_some_iff.mp file
        exact ⟨name, inner, child, rfl, found, enters,
          (ih (isProper_of_lookup proper found)).mpr ⟨⟨content, below⟩, others⟩⟩

mutual

/-- A search comes to no file twice. -/
theorem filesBelow_nodup (mayEnter : String → Bool) :
    ∀ {tree : FileTree α}, tree.isProper = true → (filesBelow mayEnter tree).Nodup
  | .file _, _ => List.nodup_singleton []
  | .directory _, proper => filesIn_nodup mayEnter proper

theorem filesIn_nodup (mayEnter : String → Bool) :
    ∀ {entries : List (String × FileTree α)}, areProper entries = true →
      (filesIn mayEnter entries).Nodup
  | [], _ => List.nodup_nil
  | (first, tree) :: rest, proper => by
    obtain ⟨_, own, treeProper, restProper⟩ := areProper_cons.mp proper
    have below := filesBelow_nodup mayEnter treeProper
    have here : (if mayEnter first then (filesBelow mayEnter tree).map (first :: ·)
        else []).Nodup := by
      split
      · exact List.Nodup.map (fun _ _ same => (List.cons.inj same).2) below
      · exact List.nodup_nil
    refine List.nodup_append.mpr ⟨here, filesIn_nodup mayEnter restProper, ?_⟩
    -- The other entries have other names.
    rintro names member _ later rfl
    obtain ⟨name, inner, child, rfl, found, _⟩ := (mem_filesIn_iff restProper).mp later
    split at member
    · obtain ⟨_, _, same⟩ := List.mem_map.mp member
      obtain ⟨rfl, _⟩ := List.cons.inj same
      rw [own] at found
      cases found
    · cases member

end

/-- The names that lead from a directory to the symbol documents in it, in the order in which a
search lists them. -/
def documentNames (entries : List (String × FileTree α)) : List (List String) :=
  ((filesIn (fun name => !isHidden name) entries).filter (isNamed moduleSuffix)).mergeSort precedes

theorem modules_directory (root : String) (entries : List (String × FileTree α)) :
    modules root (some (.directory entries)) = (documentNames entries).map (pathBelow root) :=
  rfl

theorem mem_documentNames_iff {entries : List (String × FileTree α)}
    (proper : areProper entries = true) {names : List String} :
    names ∈ documentNames entries ↔
      (∃ content, (directory entries).at? names = some (.file content)) ∧
        isNamed moduleSuffix names = true ∧ ∀ name ∈ names, isHidden name = false := by
  have inside :=
    @mem_filesBelow_iff α (fun name => !isHidden name) (.directory entries) proper names
  rw [filesBelow] at inside
  rw [documentNames, List.mem_mergeSort, List.mem_filter, inside, and_assoc]
  simp only [Bool.not_eq_true']
  exact and_congr_right fun _ => and_comm

theorem isName_of_mem_documentNames {entries : List (String × FileTree α)}
    (proper : areProper entries = true) {names : List String}
    (member : names ∈ documentNames entries) : ∀ name ∈ names, Path.IsName name :=
  (at?_of_mem_filesIn proper (List.mem_filter.mp (List.mem_mergeSort.mp member)).1).1

theorem documentNames_ascending {entries : List (String × FileTree α)}
    (proper : areProper entries = true) : (documentNames entries).Pairwise (List.Lex (· < ·)) :=
  mergeSort_ascending ((filesIn_nodup _ proper).filter _)

/-- The paths of documents are in the order of the names that lead to them. -/
theorem modules_ascending {entries : List (String × FileTree α)} (proper : areProper entries = true)
    {root : String} (named : root ≠ "") :
    (modules root (some (.directory entries))).Pairwise Path.Before := by
  rw [modules_directory, List.pairwise_map]
  refine (documentNames_ascending proper).imp_of_mem fun left right before => ?_
  exact pathBelow_before named (isName_of_mem_documentNames proper left)
    (isName_of_mem_documentNames proper right) before

/-- Whether names lead from a location to a file that a search below the location has to list: its
name ends as that of a symbol document, and no name on the way is hidden. -/
def IsVisibleDocument (tree : FileTree α) (start names : List String) : Prop :=
  (∃ content, tree.at? (start ++ names) = some (.file content)) ∧
    isNamed moduleSuffix names = true ∧ ∀ name ∈ names, isHidden name = false

/-- A list of paths of exactly those documents below a directory that a search has to list. -/
structure ListsDocuments (tree : FileTree α) (current : List String) (directory : String)
    (start : List String) (paths : List String) : Prop where
  /-- The path of every such document is listed once. -/
  once : ∀ names, IsVisibleDocument tree start names →
    paths.count (pathBelow directory names) = 1
  /-- The path of a document leads to it. -/
  leads : ∀ names, IsVisibleDocument tree start names →
    tree.locate current (pathBelow directory names) = .ok (start ++ names)
  /-- Nothing else is listed. -/
  only : ∀ path ∈ paths, ∃ names, IsVisibleDocument tree start names ∧
    path = pathBelow directory names
  /-- Paths are in ascending order, component by component. -/
  ascending : paths.Pairwise Path.Before

/-- A search below a directory lists its visible documents, whatever the name of the directory
is. -/
theorem modules_listsDocuments {tree : FileTree α} (proper : tree.isProper = true)
    {current start : List String} {root : String} {entries : List (String × FileTree α)}
    (located : tree.locate current root = .ok start)
    (isDirectory : tree.at? start = some (.directory entries)) :
    ListsDocuments tree current root start
      (modules root ((tree.find? current root).map (·.outline))) := by
  have named : root ≠ "" := by
    rintro rfl
    cases located
  have found : tree.find? current root = some (.directory entries) := by
    rw [find?, located]
    exact isDirectory
  have inside : areProper entries = true := isProper_of_at? proper isDirectory
  have isDocument : ∀ {names}, names ∈ documentNames entries ↔
      IsVisibleDocument tree start names := by
    intro names
    rw [mem_documentNames_iff inside, IsVisibleDocument, at?_append, isDirectory, Option.bind_some]
  have ascending := modules_ascending inside named
  rw [modules_outline, found]
  refine ⟨fun names visible => ?_, fun names visible => ?_, fun path member => ?_, ascending⟩
  · exact List.count_eq_one_of_mem (ascending.imp Path.Before.ne)
      (List.mem_map_of_mem (isDocument.mpr visible))
  · obtain ⟨content, file⟩ := visible.1
    exact locate_pathBelow located
      (isName_of_mem_documentNames inside (isDocument.mpr visible)) file
  · rw [modules_directory] at member
    obtain ⟨names, listed, rfl⟩ := List.mem_map.mp member
    exact ⟨names, isDocument.mp listed, rfl⟩

/-- A tree in which a hidden directory, a hidden file, a directory named as a document, and files
that are named otherwise lie beside two documents, one of them in a nested directory. -/
def withHidden : FileTree String := .directory [
  (".project", .directory [
    ("z.symbols.json", .file "z"),
    (".b.symbols.json", .file "b"),
    ("x", .directory [("notes.json", .file ""), ("y.symbols.json", .file "y")]),
    (".cache", .directory [("x", .directory [("stale.symbols.json", .file "stale")])]),
    ("d.symbols.json", .directory [])])]

theorem modules_listsDocuments_withHidden : ListsDocuments withHidden [] ".project" [".project"]
    (modules ".project" ((withHidden.find? [] ".project").map (·.outline))) :=
  modules_listsDocuments (by decide) (by decide) rfl

end Discovery

end WorkerBindings
