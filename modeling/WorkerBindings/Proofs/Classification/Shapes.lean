import Mathlib.Data.List.Basic
import WorkerBindings.Proofs.Classification.Elements

/-!
# What the shape of a type says

Four names have a shape of their own: those of no result and of text, and those of the awaitable
wrappers alone (`HasOwnShape`). The shape of any other type can be read off the type: whether it is
a wrapper around something (`Awaits`), and which interfaces what is inside states (`Offers`). It has
none exactly if something awaitable holds a collection that arrives over time.
-/

namespace WorkerBindings

namespace DeclaredType

variable {type argument inner : DeclaredType} {definition : String}

/-- The type is a definition applied to one argument. -/
structure IsApplied (type : DeclaredType) (definition : String) (argument : DeclaredType) :
    Prop where
  definition : type.definitionName = definition
  arguments : type.typeArguments = [argument]

theorem argumentOf?_eq_some_iff :
    type.argumentOf? definition = some argument ↔ type.IsApplied definition argument := by
  unfold argumentOf?
  constructor
  · intro found
    split at found
    · rename_i only single
      split at found
      · rename_i named
        cases found
        exact ⟨named, single⟩
      · cases found
    · cases found
  · rintro ⟨named, single⟩
    rw [single]
    exact if_pos named

theorem generic_isApplied (definition : String) (argument : DeclaredType) :
    (generic definition [argument]).IsApplied definition argument :=
  ⟨rfl, rfl⟩

/-- The type is an awaitable wrapper around another one. -/
def Awaits (type inner : DeclaredType) : Prop :=
  ∃ wrapper ∈ Names.awaitableWrappers, type.IsApplied wrapper inner

theorem awaited?_eq_some_iff : type.awaited? = some inner ↔ type.Awaits inner := by
  constructor
  · intro found
    obtain ⟨wrapper, member, applied⟩ := List.exists_of_findSome?_eq_some found
    exact ⟨wrapper, member, argumentOf?_eq_some_iff.mp applied⟩
  · rintro ⟨wrapper, member, applied⟩
    cases found : type.awaited? with
    | none =>
      have missing := List.findSome?_eq_none_iff.mp found wrapper member
      rw [argumentOf?_eq_some_iff.mpr applied] at missing
      cases missing
    | some other =>
      -- Whichever wrapper is found first, there is only one type argument.
      obtain ⟨_, _, otherApplied⟩ := List.exists_of_findSome?_eq_some found
      have same := (argumentOf?_eq_some_iff.mp otherApplied).arguments.symm.trans applied.arguments
      rw [List.singleton_inj.mp same]

theorem Awaits.unwrapped_eq (awaits : type.Awaits inner) : type.unwrapped = inner := by
  rw [unwrapped, awaited?_eq_some_iff.mpr awaits, Option.getD_some]

theorem unwrapped_eq_self (present : ∀ inner, ¬ type.Awaits inner) : type.unwrapped = type := by
  have nothing : type.awaited? = none :=
    Option.eq_none_iff_forall_ne_some.mpr fun inner found =>
      present inner (awaited?_eq_some_iff.mp found)
  rw [unwrapped, nothing, Option.getD_none]

/-- A type awaits what is left when its wrapper is removed, if it awaits anything. -/
theorem awaits_unwrapped_iff : type.Awaits type.unwrapped ↔ type.awaited?.isSome = true := by
  rw [Option.isSome_iff_exists]
  simp only [awaited?_eq_some_iff]
  exact ⟨fun awaits => ⟨_, awaits⟩, fun ⟨_, awaits⟩ => awaits.unwrapped_eq.symm ▸ awaits⟩

/-- The type itself or one of its interfaces is a definition applied to an item type. -/
def Offers (type : DeclaredType) (interface : String) (item : DeclaredType) : Prop :=
  ∃ stated ∈ type :: type.interfaces, stated.IsApplied interface item

theorem candidates_eq (type : DeclaredType) (interface : String) :
    type.candidates interface =
      (type :: type.interfaces).filterMap (·.argumentOf? interface) := by
  rw [candidates, implementations, List.filterMap_filter]
  refine List.filterMap_congr fun stated _ => ?_
  cases stated.argumentOf? interface <;> rfl

theorem mem_candidates_iff {interface : String} {item : DeclaredType} :
    item ∈ type.candidates interface ↔ type.Offers interface item := by
  simp only [candidates_eq, List.mem_filterMap, argumentOf?_eq_some_iff, Offers]

theorem isAsyncEnumerable_iff :
    type.isAsyncEnumerable = true ↔ ∃ item, type.Offers Names.asyncEnumerable item := by
  simp only [isAsyncEnumerable, Bool.not_eq_true', List.isEmpty_eq_false_iff_exists_mem,
    implementations, List.mem_filter, Option.isSome_iff_exists, argumentOf?_eq_some_iff, Offers]
  exact ⟨fun ⟨stated, member, item, applied⟩ => ⟨item, stated, member, applied⟩,
    fun ⟨item, stated, member, applied⟩ => ⟨stated, member, item, applied⟩⟩

/-- The name of the type has a shape of its own, whatever else is known about the type. -/
def HasOwnShape (type : DeclaredType) : Prop :=
  type.name = Names.void ∨ type.name = Names.string ∨ type.name ∈ Names.awaitableWrappers

/-- The shape of any other type, in one equation. -/
theorem shape_eq (ordinary : ¬ type.HasOwnShape) :
    type.shape =
      if type.awaited?.isSome && type.unwrapped.isAsyncEnumerable then
        .error (.awaitedAsyncEnumerable type.name)
      else .ok {
        rawType := type.unwrapped.name
        fullType := type.name
        isAwaitable := type.awaited?.isSome
        isEnumerable := type.unwrapped.isEnumerable
        isAsyncEnumerable := type.unwrapped.isAsyncEnumerable } := by
  obtain ⟨notVoid, notString, notWrapper⟩ : type.name ≠ Names.void ∧ type.name ≠ Names.string ∧
      type.name ∉ Names.awaitableWrappers := by simpa [HasOwnShape] using ordinary
  have named : ¬ (type.name = Names.void ∨ type.name = Names.string) := by
    simp [notVoid, notString]
  rw [shape, if_neg named, if_neg (by simpa using notWrapper), unwrapped]
  cases type.awaited? with
  | none => rfl
  | some inner => cases arrives : inner.isAsyncEnumerable <;> simp [arrives]

end DeclaredType

/-- What the shape of a type says about the type, unless the name has a shape of its own. -/
structure Shape.IsOf (shape : Shape) (type : DeclaredType) : Prop where
  fullType : shape.fullType = type.name
  rawType : shape.rawType = type.unwrapped.name
  isAwaitable : shape.isAwaitable = true ↔ type.Awaits type.unwrapped
  isEnumerable : shape.isEnumerable = type.unwrapped.isEnumerable
  isAsyncEnumerable : shape.isAsyncEnumerable = true ↔
    ∃ item, type.unwrapped.Offers Names.asyncEnumerable item
  /-- Nothing has to be awaited and arrives over time as well. -/
  notBoth : ¬ (shape.isAwaitable = true ∧ shape.isAsyncEnumerable = true)

namespace DeclaredType

variable {type : DeclaredType}

theorem shape_eq_ok_iff (ordinary : ¬ type.HasOwnShape) {shape : Shape} :
    type.shape = .ok shape ↔ shape.IsOf type := by
  rw [shape_eq ordinary]
  constructor
  · intro found
    split at found
    · cases found
    · rename_i accepted
      cases found
      exact {
        fullType := rfl
        rawType := rfl
        isAwaitable := awaits_unwrapped_iff.symm
        isEnumerable := rfl
        isAsyncEnumerable := isAsyncEnumerable_iff
        notBoth := by simpa using accepted }
  · intro isOf
    have awaitable : shape.isAwaitable = type.awaited?.isSome :=
      Bool.eq_iff_iff.mpr (isOf.isAwaitable.trans awaits_unwrapped_iff)
    have arrives : shape.isAsyncEnumerable = type.unwrapped.isAsyncEnumerable :=
      Bool.eq_iff_iff.mpr (isOf.isAsyncEnumerable.trans isAsyncEnumerable_iff.symm)
    have accepted : ¬ (type.awaited?.isSome && type.unwrapped.isAsyncEnumerable) = true := by
      simpa [← awaitable, ← arrives] using isOf.notBoth
    rw [if_neg accepted, ← awaitable, ← arrives, ← isOf.fullType, ← isOf.rawType,
      ← isOf.isEnumerable]

theorem shape_eq_error_iff (ordinary : ¬ type.HasOwnShape) {reason : ShapeError} :
    type.shape = .error reason ↔
      reason = .awaitedAsyncEnumerable type.name ∧
        ∃ inner, type.Awaits inner ∧ ∃ item, inner.Offers Names.asyncEnumerable item := by
  have refused : (type.awaited?.isSome && type.unwrapped.isAsyncEnumerable) = true ↔
      ∃ inner, type.Awaits inner ∧ ∃ item, inner.Offers Names.asyncEnumerable item := by
    rw [Bool.and_eq_true, ← awaits_unwrapped_iff, isAsyncEnumerable_iff]
    constructor
    · rintro ⟨awaits, arrives⟩
      exact ⟨_, awaits, arrives⟩
    · rintro ⟨inner, awaits, arrives⟩
      rw [awaits.unwrapped_eq]
      exact ⟨awaits, arrives⟩
  rw [shape_eq ordinary, ← refused]
  split
  · rename_i isRefused
    simp [isRefused, eq_comm]
  · rename_i accepted
    simp [accepted]

end DeclaredType

end WorkerBindings
