import WorkerBindings.Files.Discovery
import WorkerBindings.Proofs.Files.Writing
import WorkerBindings.Proofs.Text.Pieces

/-!
# Where paths lead

The steps of a path to something inside a directory are those of the directory and one more. So such
a path leads to an entry of that directory, and the location to which any path leads is named as the
path ends.
-/

namespace WorkerBindings

namespace Path

theorem steps_eq (path : String) :
    steps path = (Text.pieces '/' path.toList).map String.ofList :=
  rfl

/-- What a path ends with is what its last step ends with. -/
theorem steps_of_suffix {path : String} {ending : List Char} (absent : '/' ∉ ending)
    (ends : ending <:+ path.toList) :
    ∃ before last, steps path = before ++ [last] ∧ ending <:+ last.toList := by
  obtain ⟨front, shape⟩ := ends
  obtain ⟨before, last, cut⟩ := Text.pieces_append_suffix absent front
  refine ⟨before.map String.ofList, String.ofList (last ++ ending), ?_, ?_⟩
  · rw [steps_eq, ← shape, cut, List.map_append, List.map_singleton]
  · rw [String.toList_ofList]
    exact List.suffix_append last ending

/-- A path inside a directory ends as what is inside. -/
theorem suffix_join (directory inside : String) :
    inside.toList <:+ (join directory inside).toList := by
  unfold join
  split
  · exact List.suffix_rfl
  split
  · rw [String.toList_append]
    exact List.suffix_append _ _
  · rw [String.toList_append]
    exact List.suffix_append _ _

/-- Whether a text can be the name of a file. -/
def isName (name : String) : Bool :=
  isStep name && name != ".." && !isOverlong name && !name.toList.contains '/' && !hasNull name

/-- What makes a text the name of a file. -/
structure IsName (name : String) : Prop where
  isStep : isStep name = true
  notUp : name ≠ ".."
  notOverlong : isOverlong name = false
  noSeparator : '/' ∉ name.toList
  noNull : hasNull name = false

theorem isName_iff {name : String} : isName name = true ↔ IsName name := by
  unfold isName
  simp only [Bool.and_eq_true, bne_iff_ne, ne_eq, Bool.not_eq_true', List.contains_iff_mem,
    Bool.eq_false_iff]
  constructor
  · rintro ⟨⟨⟨⟨isStep, notUp⟩, notOverlong⟩, noSeparator⟩, noNull⟩
    exact ⟨isStep, notUp, Bool.eq_false_iff.mpr notOverlong, noSeparator,
      Bool.eq_false_iff.mpr noNull⟩
  · rintro ⟨isStep, notUp, notOverlong, noSeparator, noNull⟩
    exact ⟨⟨⟨⟨isStep, notUp⟩, Bool.eq_false_iff.mp notOverlong⟩, noSeparator⟩,
      Bool.eq_false_iff.mp noNull⟩

namespace IsName

variable {name : String}

theorem notAbsolute (isName : IsName name) : isAbsolute name = false := by
  have noSeparator := isName.noSeparator
  unfold isAbsolute
  cases characters : name.toList with
  | nil => rfl
  | cons first rest =>
    rw [characters] at noSeparator
    simpa using Ne.symm (List.ne_of_not_mem_cons noSeparator)

/-- A name is appended to a directory, after a separator unless that ends with one already. -/
theorem join_eq (isName : IsName name) {directory : String} (named : directory ≠ "") :
    (∃ front, directory.toList = front ++ ['/'] ∧ join directory name = directory ++ name) ∨
      join directory name = directory ++ "/" ++ name := by
  unfold join
  rw [if_neg (Bool.eq_false_iff.mp isName.notAbsolute)]
  split
  · rename_i closed
    have notEmpty : directory.isEmpty = false := by
      rw [String.isEmpty_eq_false_iff]
      exact named
    rw [notEmpty, Bool.false_or, beq_iff_eq] at closed
    obtain ⟨front, shape⟩ := List.getLast?_eq_some_iff.mp closed
    exact .inl ⟨front, shape, rfl⟩
  · exact .inr rfl

theorem join_toList (isName : IsName name) {directory : String} (named : directory ≠ "") :
    ∃ lead, (join directory name).toList = directory.toList ++ (lead ++ name.toList) ∧
      (lead = [] ∨ lead = ['/']) := by
  rcases isName.join_eq named with ⟨_, _, joined⟩ | joined
  · exact ⟨[], by rw [joined, String.toList_append, List.nil_append], .inl rfl⟩
  · refine ⟨['/'], ?_, .inr rfl⟩
    rw [joined, String.toList_append, String.toList_append, List.append_assoc]
    rfl

theorem join_notEmpty (isName : IsName name) {directory : String} (named : directory ≠ "") :
    ¬ (join directory name).isEmpty = true := by
  intro empty
  obtain ⟨lead, shape, _⟩ := isName.join_toList named
  rw [String.isEmpty_iff.mp empty] at shape
  exact named (String.toList_eq_nil_iff.mp (List.append_eq_nil_iff.mp shape.symm).1)

theorem join_noNull (isName : IsName name) {directory : String} (named : directory ≠ "")
    (noNull : ¬ hasNull directory = true) : ¬ hasNull (join directory name) = true := by
  have nameNoNull : ¬ hasNull name = true := Bool.eq_false_iff.mp isName.noNull
  unfold hasNull at noNull nameNoNull ⊢
  rw [List.contains_iff_mem] at noNull nameNoNull ⊢
  obtain ⟨lead, shape, short⟩ := isName.join_toList named
  rw [shape, List.mem_append, List.mem_append]
  rintro (inDirectory | inLead | inName)
  · exact noNull inDirectory
  · rcases short with rfl | rfl
    · cases inLead
    · exact absurd (List.mem_singleton.mp inLead) (by decide)
  · exact nameNoNull inName

theorem join_isAbsolute (isName : IsName name) {directory : String} (named : directory ≠ "") :
    isAbsolute (join directory name) = isAbsolute directory := by
  obtain ⟨lead, shape, _⟩ := isName.join_toList named
  obtain ⟨first, rest, characters⟩ :=
    List.exists_cons_of_ne_nil (mt String.toList_eq_nil_iff.mp named)
  unfold isAbsolute
  rw [shape, characters, List.cons_append, List.head?_cons, List.head?_cons]

/-- A name adds one step to those of a directory, of which the last may be empty. -/
theorem steps_join (isName : IsName name) {directory : String} (named : directory ≠ "") :
    steps (join directory name) = steps directory ++ [name] ∨
      ∃ before, steps directory = before ++ [""] ∧
        steps (join directory name) = before ++ [name] := by
  have single : (Text.pieces '/' name.toList).map String.ofList = [name] := by
    rw [Text.pieces_of_notMem isName.noSeparator, List.map_singleton, String.ofList_toList]
  rcases isName.join_eq named with ⟨front, shape, joined⟩ | joined
  · refine .inr ⟨(Text.pieces '/' front).map String.ofList, ?_, ?_⟩
    · rw [steps_eq, shape, Text.pieces_append_separator, List.map_append]
      rfl
    · rw [steps_eq, joined, String.toList_append, shape, List.append_assoc, List.singleton_append,
        Text.pieces_append_separator, List.map_append, single]
  · left
    rw [steps_eq, joined, String.toList_append, String.toList_append, List.append_assoc]
    change (Text.pieces '/' (directory.toList ++ '/' :: name.toList)).map String.ofList = _
    rw [Text.pieces_append_separator, List.map_append, single, steps_eq]

end IsName

end Path

namespace FileTree

variable {α : Type}

theorem at?_append (tree : FileTree α) (location more : List String) :
    tree.at? (location ++ more) = (tree.at? location).bind (·.at? more) := by
  induction location generalizing tree with
  | nil => rw [List.nil_append, at?, Option.bind_some]
  | cons name rest ih =>
    cases tree with
    | file content => rfl
    | directory entries =>
      rw [List.cons_append, at?_cons, at?_cons, Option.bind_assoc]
      exact congrArg _ (funext fun child => ih child)

theorem follow_append (tree : FileTree α) (here steps more : List String) :
    tree.follow here (steps ++ more) =
      tree.follow here steps >>= fun location => tree.follow location more := by
  induction steps generalizing here with
  | nil => rfl
  | cons step rest ih =>
    rw [List.cons_append, follow, follow]
    split
    · rfl
    · rfl
    · split
      · exact ih _
      split
      · rfl
      split
      · exact ih _
      · exact ih _

/-- A name leads from a directory to the entry of that name. -/
theorem follow_name {tree : FileTree α} {here : List String} (directory : tree.HasDirectory here)
    {name : String} (isName : Path.IsName name) :
    tree.follow here [name] = .ok (here ++ [name]) := by
  rw [follow_cons directory, if_neg isName.notUp,
    if_neg (Bool.eq_false_iff.mp isName.notOverlong), if_pos isName.isStep]
  rfl

/-- An empty step leads nowhere. -/
theorem follow_empty {tree : FileTree α} {here location : List String}
    (followed : tree.follow here [""] = .ok location) : location = here := by
  rw [follow_cons (hasDirectory_of_follow followed)] at followed
  exact (Except.ok.inj followed).symm

/-- A name inside the path of a directory leads to the entry of that name. -/
theorem locate_join {tree : FileTree α} {current location : List String} {directory name : String}
    (located : tree.locate current directory = .ok location)
    (isDirectory : tree.HasDirectory location) (isName : Path.IsName name) :
    tree.locate current (Path.join directory name) = .ok (location ++ [name]) := by
  unfold locate at located ⊢
  split at located
  · cases located
  rename_i notEmpty
  have named : directory ≠ "" := fun empty => notEmpty (String.isEmpty_iff.mpr empty)
  split at located
  · cases located
  rename_i noNull
  rw [if_neg (isName.join_notEmpty named), if_neg (isName.join_noNull named noNull),
    isName.join_isAbsolute named]
  rcases isName.steps_join named with added | ⟨before, closed, replaced⟩
  · rw [added, follow_append, located]
    exact follow_name isDirectory isName
  · -- The last step of the directory was empty and leads nowhere.
    rw [closed, follow_append] at located
    rw [replaced, follow_append]
    generalize tree.follow _ before = between at located
    cases between with
    | error fault => cases located
    | ok middle =>
      cases follow_empty located
      exact follow_name isDirectory isName

end FileTree

namespace Discovery

theorem isNamed_iff {suffix : String} {location : List String} :
    isNamed suffix location = true ↔
      ∃ name, location.getLast? = some name ∧ suffix.toList <:+ name.toList := by
  unfold isNamed Text.endsWith
  cases location.getLast? with
  | none => simp
  | some name => simp [List.isPrefixOf_iff_prefix, List.reverse_prefix]

/-- Of two endings of one name, one is an ending of the other. -/
theorem isNamed_disjoint {suffix other : String} {location : List String}
    (apart : ¬ suffix.toList <:+ other.toList ∧ ¬ other.toList <:+ suffix.toList)
    (named : isNamed suffix location = true) : isNamed other location = false := by
  rw [Bool.eq_false_iff]
  intro namedOther
  obtain ⟨name, last, ends⟩ := isNamed_iff.mp named
  obtain ⟨_, sameLast, endsOther⟩ := isNamed_iff.mp namedOther
  rw [last] at sameLast
  cases sameLast
  rcases List.suffix_or_suffix_of_suffix ends endsOther with within | within
  · exact apart.1 within
  · exact apart.2 within

/-- A location is named as the path ends that leads to it. -/
theorem isNamed_of_locate {α : Type} {tree : FileTree α} {current location : List String}
    {path suffix : String} (located : tree.locate current path = .ok location)
    (ends : suffix.toList <:+ path.toList) (whole : '/' ∉ suffix.toList)
    (long : 2 < suffix.toList.length) : isNamed suffix location = true := by
  obtain ⟨before, last, cut, endsLast⟩ := Path.steps_of_suffix whole ends
  have longLast : 2 < last.toList.length := Nat.lt_of_lt_of_le long endsLast.length_le
  have notUp : last ≠ ".." := by
    rintro rfl
    exact absurd longLast (by decide)
  have leads : Path.isStep last = true := by
    rw [Path.isStep, Bool.and_eq_true, bne_iff_ne, bne_iff_ne]
    constructor
    · rintro rfl
      exact absurd longLast (by decide)
    · rintro rfl
      exact absurd longLast (by decide)
  unfold FileTree.locate at located
  rw [cut] at located
  split at located
  · cases located
  split at located
  · cases located
  rw [FileTree.follow_append] at located
  generalize tree.follow _ before = between at located
  cases between with
  | error fault => cases located
  | ok middle =>
    change tree.follow middle [last] = .ok location at located
    rw [FileTree.follow_cons (FileTree.hasDirectory_of_follow located), if_neg notUp,
      if_pos leads] at located
    split at located
    · cases located
    · rw [FileTree.follow] at located
      cases located
      exact isNamed_iff.mpr ⟨last, List.getLast?_concat, endsLast⟩

end Discovery

end WorkerBindings
