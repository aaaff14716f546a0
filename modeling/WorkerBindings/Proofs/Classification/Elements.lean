import WorkerBindings.Classification

/-!
# The element type of a batch

A collection can have several candidates for its element type, one for each time that it or one of
its interfaces is the collection type applied to an argument. Candidates of one name count as one;
a batch has an element type exactly if there is one name among them (`IsOnlyCandidate`), or if the
type is an array, which says itself what it holds.
-/

namespace WorkerBindings.DeclaredType

/-- The element types that a type states through an interface, in the order of its interfaces. -/
def candidates (type : DeclaredType) (interface : String) : List DeclaredType :=
  (type.implementations interface).filterMap (·.argumentOf? interface)

/-- The first candidate, if all others have its name. -/
def IsOnlyCandidate (type : DeclaredType) (interface : String) (element : DeclaredType) : Prop :=
  ∃ others, type.candidates interface = element :: others ∧
    ∀ other ∈ others, other.name = element.name

theorem firstOfEachName_eq_nil_iff {seen : List String} {types : List DeclaredType} :
    firstOfEachName seen types = [] ↔ ∀ type ∈ types, type.name ∈ seen := by
  induction types with
  | nil => simp [firstOfEachName]
  | cons first rest ih =>
    rw [firstOfEachName, List.forall_mem_cons]
    by_cases known : first.name ∈ seen
    · rw [if_pos (by simpa using known), ih]
      exact (and_iff_right known).symm
    · rw [if_neg (by simpa using known)]
      exact iff_of_false (List.cons_ne_nil _ _) fun all => known all.1

theorem elements_eq_singleton_iff {type element : DeclaredType} {interface : String} :
    type.elements interface = [element] ↔ type.IsOnlyCandidate interface element := by
  have unfolded : type.elements interface = firstOfEachName [] (type.candidates interface) := rfl
  rw [unfolded, IsOnlyCandidate]
  cases type.candidates interface with
  | nil => simp [firstOfEachName]
  | cons first rest =>
    have begins : firstOfEachName [] (first :: rest) =
        first :: firstOfEachName [first.name] rest := by
      rw [firstOfEachName, if_neg (by simp)]
    rw [begins, List.cons.injEq, firstOfEachName_eq_nil_iff]
    simp only [List.mem_singleton, List.cons.injEq]
    constructor
    · rintro ⟨rfl, named⟩
      exact ⟨rest, ⟨rfl, rfl⟩, named⟩
    · rintro ⟨others, ⟨rfl, rfl⟩, named⟩
      exact ⟨rfl, named⟩

theorem singleElement_eq_ok_iff {type element : DeclaredType} {interface : String} :
    type.singleElement interface = .ok element ↔ type.IsOnlyCandidate interface element := by
  rw [← elements_eq_singleton_iff, singleElement]
  split
  · rename_i found isSingle
    rw [isSingle, Except.ok.injEq, List.cons.injEq, and_iff_left rfl]
  · rename_i isEmpty
    simp [isEmpty]
  · rename_i notSingle _
    exact iff_of_false (by simp) fun isSingle => notSingle element isSingle

/-- `IsBatchedElement type shape element` says what the items of a batch are, for a type with a
shape: what arrives over time comes first, then what an array holds, then the items of any other
collection. An awaitable wrapper is looked through. -/
inductive IsBatchedElement (type : DeclaredType) (shape : Shape) : DeclaredType → Prop where
  | overTime {element : DeclaredType} (arrives : shape.isAsyncEnumerable = true)
      (only : type.unwrapped.IsOnlyCandidate Names.asyncEnumerable element) :
      IsBatchedElement type shape element
  | ofArray {element : DeclaredType} (atOnce : shape.isAsyncEnumerable = false)
      (collection : shape.isEnumerable = true)
      (holds : type.unwrapped.elementType = some element) : IsBatchedElement type shape element
  | ofCollection {element : DeclaredType} (atOnce : shape.isAsyncEnumerable = false)
      (collection : shape.isEnumerable = true) (noArray : type.unwrapped.elementType = none)
      (only : type.unwrapped.IsOnlyCandidate Names.genericEnumerable element) :
      IsBatchedElement type shape element

end WorkerBindings.DeclaredType
