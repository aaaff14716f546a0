import WorkerBindings.Proofs.Classification.Shapes

/-!
# Batches and their items

What becomes of a batched binding depends on the candidates for its element type: with one name
among them the first candidate is the element type, without any the type is no collection, and two
names leave the choice open (`SingleElement`). Which candidates count follows from the shape
(`Unbatches`). Neither the order of the interfaces nor how often one is listed matters to the shape
or to the verdict.
-/

namespace WorkerBindings.DeclaredType

variable {type other inner : DeclaredType} {interface : String} {shape : Shape}

/-- `SingleElement type interface result` says what is found out about the element type that a type
states through an interface. -/
inductive SingleElement (type : DeclaredType) (interface : String) :
    Except ShapeError DeclaredType → Prop where
  | one {element : DeclaredType} (only : type.IsOnlyCandidate interface element) :
      SingleElement type interface (.ok element)
  | none (nothing : type.candidates interface = []) :
      SingleElement type interface (.error (.notACollection type.name))
  | several {first second : DeclaredType} (here : first ∈ type.candidates interface)
      (there : second ∈ type.candidates interface) (differ : first.name ≠ second.name) :
      SingleElement type interface (.error (.ambiguousElement interface))

/-- All candidates have the name of the only one. -/
theorem IsOnlyCandidate.name_eq {element candidate : DeclaredType}
    (only : type.IsOnlyCandidate interface element)
    (member : candidate ∈ type.candidates interface) : candidate.name = element.name := by
  obtain ⟨others, listed, named⟩ := only
  rw [listed, List.mem_cons] at member
  rcases member with rfl | among
  · rfl
  · exact named candidate among

theorem elements_eq_nil_iff :
    type.elements interface = [] ↔ type.candidates interface = [] := by
  have unfolded : type.elements interface = firstOfEachName [] (type.candidates interface) := rfl
  rw [unfolded, firstOfEachName_eq_nil_iff, List.eq_nil_iff_forall_not_mem]
  simp

/-- Candidates are none, or all of one name, or of two names at least. -/
theorem exists_singleElement (type : DeclaredType) (interface : String) :
    ∃ result, SingleElement type interface result := by
  cases listed : type.candidates interface with
  | nil => exact ⟨_, .none listed⟩
  | cons first rest =>
    by_cases named : ∀ candidate ∈ rest, candidate.name = first.name
    · exact ⟨_, .one ⟨rest, listed, named⟩⟩
    · push Not at named
      obtain ⟨second, among, differ⟩ := named
      have here : first ∈ type.candidates interface := listed ▸ List.mem_cons_self
      have there : second ∈ type.candidates interface := listed ▸ List.mem_cons_of_mem _ among
      exact ⟨_, .several there here differ⟩

theorem SingleElement.eq {result : Except ShapeError DeclaredType}
    (verdict : SingleElement type interface result) : type.singleElement interface = result := by
  cases verdict with
  | one only => exact singleElement_eq_ok_iff.mpr only
  | none nothing => rw [singleElement, elements_eq_nil_iff.mpr nothing]
  | several here there differ =>
    rw [singleElement]
    split
    · rename_i element single
      have only := elements_eq_singleton_iff.mp single
      exact absurd ((only.name_eq here).trans (only.name_eq there).symm) differ
    · rename_i nothing
      rw [elements_eq_nil_iff.mp nothing] at here
      cases here
    · rfl

/-- `Unbatches type shape result` says what is found out about the items of a batch, for a type with
a shape. An awaitable wrapper is looked through; what arrives over time comes first, then what an
array holds, then the items of any other collection. -/
inductive Unbatches (type : DeclaredType) (shape : Shape) :
    Except ShapeError DeclaredType → Prop where
  | overTime {result : Except ShapeError DeclaredType} (arrives : shape.isAsyncEnumerable = true)
      (items : SingleElement type.unwrapped Names.asyncEnumerable result) :
      Unbatches type shape result
  | ofArray {element : DeclaredType} (atOnce : shape.isAsyncEnumerable = false)
      (collection : shape.isEnumerable = true)
      (holds : type.unwrapped.elementType = some element) : Unbatches type shape (.ok element)
  | ofCollection {result : Except ShapeError DeclaredType}
      (atOnce : shape.isAsyncEnumerable = false) (collection : shape.isEnumerable = true)
      (noArray : type.unwrapped.elementType = none)
      (items : SingleElement type.unwrapped Names.genericEnumerable result) :
      Unbatches type shape result
  | ofNothing (atOnce : shape.isAsyncEnumerable = false) (single : shape.isEnumerable = false) :
      Unbatches type shape (.error (.notACollection type.unwrapped.name))

theorem Unbatches.eq {result : Except ShapeError DeclaredType}
    (unbatches : Unbatches type shape result) : type.batchedElement shape = result := by
  cases unbatches with
  | overTime arrives items => simp [batchedElement, arrives, items.eq]
  | ofArray atOnce collection holds => simp [batchedElement, atOnce, collection, holds]
  | ofCollection atOnce collection noArray items =>
    simp [batchedElement, atOnce, collection, noArray, items.eq]
  | ofNothing atOnce single => simp [batchedElement, atOnce, single]

theorem exists_unbatches (type : DeclaredType) (shape : Shape) :
    ∃ result, Unbatches type shape result := by
  cases arrives : shape.isAsyncEnumerable with
  | true =>
    obtain ⟨result, items⟩ := exists_singleElement type.unwrapped Names.asyncEnumerable
    exact ⟨result, .overTime arrives items⟩
  | false =>
    cases collection : shape.isEnumerable with
    | false => exact ⟨_, .ofNothing arrives collection⟩
    | true =>
      cases array : type.unwrapped.elementType with
      | some element => exact ⟨_, .ofArray arrives collection array⟩
      | none =>
        obtain ⟨result, items⟩ := exists_singleElement type.unwrapped Names.genericEnumerable
        exact ⟨result, .ofCollection arrives collection array items⟩

theorem batchedElement_eq_iff {result : Except ShapeError DeclaredType} :
    type.batchedElement shape = result ↔ Unbatches type shape result := by
  obtain ⟨decided, verdict⟩ := exists_unbatches type shape
  rw [verdict.eq]
  constructor
  · rintro rfl
    exact verdict
  · exact fun found => verdict.eq.symm.trans found.eq

theorem batchedElement_eq_ok_iff {element : DeclaredType} :
    type.batchedElement shape = .ok element ↔ type.IsBatchedElement shape element := by
  rw [batchedElement_eq_iff]
  constructor
  · intro unbatches
    cases unbatches with
    | overTime arrives items => exact .overTime arrives (singleElement_eq_ok_iff.mp items.eq)
    | ofArray atOnce collection holds => exact .ofArray atOnce collection holds
    | ofCollection atOnce collection noArray items =>
      exact .ofCollection atOnce collection noArray (singleElement_eq_ok_iff.mp items.eq)
  · intro isElement
    cases isElement with
    | overTime arrives only => exact .overTime arrives (.one only)
    | ofArray atOnce collection holds => exact .ofArray atOnce collection holds
    | ofCollection atOnce collection noArray only =>
      exact .ofCollection atOnce collection noArray (.one only)

/-- The other type lists the same interfaces, in any order and number, and is the same otherwise. -/
inductive Rearranged (type : DeclaredType) : DeclaredType → Prop where
  | mk {interfaces : List DeclaredType}
      (same : ∀ interface, interface ∈ interfaces ↔ interface ∈ type.interfaces) :
      Rearranged type { type with interfaces }

namespace Rearranged

theorem refl (type : DeclaredType) : type.Rearranged type := by
  cases type
  exact .mk fun _ => .rfl

theorem name_eq (rearranged : type.Rearranged other) : other.name = type.name := by
  cases rearranged
  rfl

theorem argumentOf?_eq (rearranged : type.Rearranged other) :
    other.argumentOf? = type.argumentOf? := by
  cases rearranged
  rfl

theorem awaited?_eq (rearranged : type.Rearranged other) : other.awaited? = type.awaited? := by
  rw [awaited?, rearranged.argumentOf?_eq]
  rfl

theorem elementType_eq (rearranged : type.Rearranged other) :
    other.elementType = type.elementType := by
  cases rearranged
  rfl

theorem offers_iff (rearranged : type.Rearranged other) {item : DeclaredType} :
    other.Offers interface item ↔ type.Offers interface item := by
  have itself : other.IsApplied interface item ↔ type.IsApplied interface item := by
    simp only [← argumentOf?_eq_some_iff, rearranged.argumentOf?_eq]
  simp only [Offers, List.exists_mem_cons_iff, itself]
  cases rearranged with
  | mk same => simp only [same]

theorem isEnumerable_eq (rearranged : type.Rearranged other) :
    other.isEnumerable = type.isEnumerable := by
  rw [Bool.eq_iff_iff, isEnumerable, isEnumerable, isArray, isArray, rearranged.elementType_eq]
  cases rearranged with
  | mk same => simp only [implements, Bool.or_eq_true, List.any_eq_true, same]

theorem isAsyncEnumerable_eq (rearranged : type.Rearranged other) :
    other.isAsyncEnumerable = type.isAsyncEnumerable := by
  rw [Bool.eq_iff_iff]
  simp only [isAsyncEnumerable_iff, rearranged.offers_iff]

/-- The verdict on the candidates is the same; if there is one name among them, the first candidate
may be another one of that name. -/
theorem singleElement_name (rearranged : type.Rearranged other) (interface : String) :
    (other.singleElement interface).map (·.name) =
      (type.singleElement interface).map (·.name) := by
  have sameCandidates (candidate : DeclaredType) :
      candidate ∈ other.candidates interface ↔ candidate ∈ type.candidates interface := by
    rw [mem_candidates_iff, mem_candidates_iff, rearranged.offers_iff]
  obtain ⟨result, verdict⟩ := exists_singleElement type interface
  rw [verdict.eq]
  cases verdict with
  | one only =>
    have ⟨others, listed, _⟩ := only
    cases otherListed : other.candidates interface with
    | nil =>
      have member := (sameCandidates _).mpr (listed ▸ List.mem_cons_self)
      rw [otherListed] at member
      cases member
    | cons first rest =>
      have named (candidate : DeclaredType) (member : candidate ∈ first :: rest) :
          candidate.name = _ :=
        only.name_eq ((sameCandidates candidate).mp (otherListed ▸ member))
      have firstNamed := named first List.mem_cons_self
      have otherOnly : other.IsOnlyCandidate interface first :=
        ⟨rest, otherListed, fun candidate among =>
          (named candidate (List.mem_cons_of_mem _ among)).trans firstNamed.symm⟩
      rw [(SingleElement.one otherOnly).eq]
      exact congrArg Except.ok firstNamed
  | none nothing =>
    have otherNothing : other.candidates interface = [] :=
      List.eq_nil_iff_forall_not_mem.mpr fun candidate member => by
        rw [sameCandidates, nothing] at member
        cases member
    rw [(SingleElement.none otherNothing).eq, rearranged.name_eq]
  | several here there differ =>
    rw [(SingleElement.several ((sameCandidates _).mpr here) ((sameCandidates _).mpr there)
      differ).eq]

end Rearranged

/-- The interfaces of the type are rearranged, or those of the type inside its awaitable wrapper. -/
inductive RearrangedWithin (type : DeclaredType) : DeclaredType → Prop where
  | itself {other : DeclaredType} (rearranged : type.Rearranged other) :
      RearrangedWithin type other
  | inside {inner other : DeclaredType} (awaits : type.Awaits inner)
      (rearranged : inner.Rearranged other) :
      RearrangedWithin type { type with typeArguments := [other] }

theorem Awaits.replace (awaits : type.Awaits inner) (other : DeclaredType) :
    { type with typeArguments := [other] }.Awaits other := by
  obtain ⟨wrapper, member, applied⟩ := awaits
  exact ⟨wrapper, member, applied.definition, rfl⟩

namespace RearrangedWithin

theorem shape_eq_shape (rearranged : type.RearrangedWithin other) : other.shape = type.shape := by
  cases rearranged with
  | itself rearranged =>
    rw [shape, shape, rearranged.name_eq, rearranged.awaited?_eq, rearranged.isEnumerable_eq,
      rearranged.isAsyncEnumerable_eq]
  | inside awaits rearranged =>
    simp only [shape, awaited?_eq_some_iff.mpr awaits, awaited?_eq_some_iff.mpr (awaits.replace _),
      rearranged.name_eq, rearranged.isEnumerable_eq, rearranged.isAsyncEnumerable_eq]

theorem unwrapped (rearranged : type.RearrangedWithin other) :
    type.unwrapped.Rearranged other.unwrapped := by
  cases rearranged with
  | itself rearranged =>
    rw [DeclaredType.unwrapped, DeclaredType.unwrapped, rearranged.awaited?_eq]
    cases type.awaited? with
    | none => exact rearranged
    | some inner => exact .refl inner
  | inside awaits rearranged =>
    rw [awaits.unwrapped_eq, (awaits.replace _).unwrapped_eq]
    exact rearranged

theorem batchedElement_name (rearranged : type.RearrangedWithin other) (shape : Shape) :
    (other.batchedElement shape).map (·.name) = (type.batchedElement shape).map (·.name) := by
  have raw := rearranged.unwrapped
  simp only [batchedElement, raw.elementType_eq, raw.name_eq]
  split
  · exact raw.singleElement_name _
  · split
    · split
      · rfl
      · exact raw.singleElement_name _
    · rfl

end RearrangedWithin

/-- The item type of a batch is the only candidate that the shape asks for, or what an array holds;
otherwise the verdict says that there is no candidate or more than one. Candidates are the items
that the type itself or one of its interfaces states, behind an awaitable wrapper. The order and
number of the interfaces change neither the shape nor the verdict nor the name of the item type. -/
theorem batchedElement_verdict (type : DeclaredType) (shape : Shape) :
    (∀ result, type.batchedElement shape = result ↔ Unbatches type shape result) ∧
      (∀ interface item, item ∈ type.unwrapped.candidates interface ↔
        type.unwrapped.Offers interface item) ∧
      (∀ inner, type.Awaits inner → type.unwrapped = inner) ∧
      ((∀ inner, ¬ type.Awaits inner) → type.unwrapped = type) ∧
      ∀ other, type.RearrangedWithin other → other.shape = type.shape ∧
        (other.batchedElement shape).map (·.name) =
          (type.batchedElement shape).map (·.name) :=
  ⟨fun _ => batchedElement_eq_iff, fun _ _ => mem_candidates_iff,
    fun _ awaits => awaits.unwrapped_eq, unwrapped_eq_self,
    fun _ rearranged => ⟨rearranged.shape_eq_shape, rearranged.batchedElement_name shape⟩⟩

end WorkerBindings.DeclaredType
