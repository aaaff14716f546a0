import WorkerBindings.Proofs.Generator.Standard

/-!
# Awaited types

A wrapper around a type has the shape of that type and is awaitable besides (`Shape.IsAround`), and
a batch of the awaited type is bound exactly if a batch of the type is. The exception are types
whose name has a shape of its own while they are collections by their interfaces
(`HidesCollection`), as text is: behind a wrapper the interfaces count, and the name does not.
-/

namespace WorkerBindings

/-- The shape of a wrapper around a type that has the other shape. -/
structure Shape.IsAround (around inside : Shape) : Prop where
  isAwaitable : around.isAwaitable = true
  rawType : around.rawType = inside.rawType
  isEnumerable : around.isEnumerable = inside.isEnumerable

namespace DeclaredType

variable {wrapped type : DeclaredType} {shape : Shape}

/-- The type is a collection by its interfaces, but its name has a shape of its own. -/
def HidesCollection (type : DeclaredType) : Prop :=
  type.HasOwnShape ∧ (type.isEnumerable = true ∨ type.isAsyncEnumerable = true)

/-- A shape of its own says nothing of collections. -/
theorem shape_of_hasOwnShape (own : type.HasOwnShape) : type.shape =
    .ok { Shape.plain type.name with
      isAwaitable := Names.awaitableWrappers.contains type.name } := by
  have notWrappers : Names.awaitableWrappers.contains Names.void = false ∧
      Names.awaitableWrappers.contains Names.string = false := by decide
  rcases own with isVoid | isString | isWrapper
  · rw [shape, if_pos (.inl isVoid), isVoid, notWrappers.1]
    rfl
  · rw [shape, if_pos (.inr isString), isString, notWrappers.2]
    rfl
  · have contained : Names.awaitableWrappers.contains type.name = true := by simpa using isWrapper
    have notPlain : ¬ (type.name = Names.void ∨ type.name = Names.string) := by
      rintro (isVoid | isString)
      · rw [isVoid, notWrappers.1] at contained
        cases contained
      · rw [isString, notWrappers.2] at contained
        cases contained
    rw [shape, if_neg notPlain, if_pos contained, contained]

/-- The shape of a wrapper is that of what is inside by its name and its interfaces. -/
theorem Awaits.shape_eq (awaits : wrapped.Awaits type) (ordinary : ¬ wrapped.HasOwnShape) :
    wrapped.shape =
      if type.isAsyncEnumerable then .error (.awaitedAsyncEnumerable wrapped.name)
      else .ok {
        rawType := type.name
        fullType := wrapped.name
        isAwaitable := true
        isEnumerable := type.isEnumerable
        isAsyncEnumerable := false } := by
  rw [DeclaredType.shape_eq ordinary, awaits.unwrapped_eq, awaited?_eq_some_iff.mpr awaits]
  cases type.isAsyncEnumerable <;> rfl

/-- What the shape of a type that is there at once says about the type. -/
theorem shape_of_present (classified : type.shape = .ok shape)
    (present : shape.isAwaitable = false) (atOnce : shape.isAsyncEnumerable = false) :
    shape.rawType = type.name ∧
      (type.HasOwnShape → shape.isEnumerable = false) ∧
      (¬ type.HasOwnShape → shape.isEnumerable = type.isEnumerable ∧
        type.isAsyncEnumerable = false ∧ type.unwrapped = type) := by
  by_cases own : type.HasOwnShape
  · rw [shape_of_hasOwnShape own] at classified
    cases classified
    exact ⟨rfl, fun _ => rfl, fun ordinary => absurd own ordinary⟩
  · have isOf := (shape_eq_ok_iff own).mp classified
    have notAwaiting (inner : DeclaredType) : ¬ type.Awaits inner := by
      intro awaits
      have awaitable := isOf.isAwaitable.mpr (awaits.unwrapped_eq.symm ▸ awaits)
      cases present.symm.trans awaitable
    have raw := unwrapped_eq_self notAwaiting
    have arrives := isOf.isAsyncEnumerable
    rw [raw, atOnce, ← isAsyncEnumerable_iff] at arrives
    refine ⟨isOf.rawType.trans (congrArg _ raw), fun isOwn => absurd isOwn own, fun _ => ?_⟩
    exact ⟨isOf.isEnumerable.trans (congrArg _ raw), by simpa using arrives, raw⟩

/-- Without a hidden collection, the wrapper has a shape around that of the type, and the items of
both are the same. -/
theorem Awaits.exists_isAround (awaits : wrapped.Awaits type) (ordinary : ¬ wrapped.HasOwnShape)
    (classified : type.shape = .ok shape) (present : shape.isAwaitable = false)
    (atOnce : shape.isAsyncEnumerable = false) (plain : ¬ type.HidesCollection) :
    ∃ around, wrapped.shape = .ok around ∧ around.IsAround shape ∧
      ∀ element, wrapped.batchedElement around = .ok element ↔
        type.batchedElement shape = .ok element := by
  obtain ⟨rawType, ofOwn, ofOrdinary⟩ := shape_of_present classified present atOnce
  by_cases own : type.HasOwnShape
  · have single : type.isEnumerable = false ∧ type.isAsyncEnumerable = false := by
      simpa [HidesCollection, own] using plain
    refine ⟨_, by rw [awaits.shape_eq ordinary, single.2]; rfl, ⟨rfl, rawType.symm, ?_⟩, ?_⟩
    · exact single.1.trans (ofOwn own).symm
    · intro element
      simp [batchedElement, single.1, ofOwn own, atOnce]
  · obtain ⟨enumerable, notStreamed, raw⟩ := ofOrdinary own
    refine ⟨_, by rw [awaits.shape_eq ordinary, notStreamed]; rfl,
      ⟨rfl, rawType.symm, enumerable.symm⟩, ?_⟩
    intro element
    rw [batchedElement, batchedElement, awaits.unwrapped_eq, raw, atOnce, enumerable]

/-- A hidden collection comes to light behind a wrapper. -/
theorem Awaits.not_isAround (awaits : wrapped.Awaits type) (ordinary : ¬ wrapped.HasOwnShape)
    (classified : type.shape = .ok shape) (present : shape.isAwaitable = false)
    (atOnce : shape.isAsyncEnumerable = false) (hides : type.HidesCollection) {around : Shape}
    (found : wrapped.shape = .ok around) : ¬ around.IsAround shape := by
  obtain ⟨own, enumerable | arrives⟩ := hides
  · intro isAround
    rw [awaits.shape_eq ordinary] at found
    split at found
    · cases found
    · cases found
      have single := (shape_of_present classified present atOnce).2.1 own
      cases (enumerable.symm.trans isAround.isEnumerable).trans single
  · rw [awaits.shape_eq ordinary, arrives] at found
    cases found

end DeclaredType

open DeclaredType

namespace SymbolCache

/-- A cache that keeps nothing answers with the shape of the type itself. -/
theorem classify_empty (type : DeclaredType) : (classify type empty).1 = type.shape :=
  classify_fst type empty

end SymbolCache

namespace Generator

/-- An output fails exactly if its type has no shape, or if it is batched and has no item type. -/
theorem unbound_output_iff {attr : Attribute} {target : Target} {shape : Shape}
    (classified : target.type.shape = .ok shape) :
    (Request.mk attr .output target).Unbound SymbolCache.empty ↔
      (Request.mk attr .output target).isBatched attr.capabilities = true ∧
        ∀ element, target.type.batchedElement shape ≠ .ok element := by
  constructor
  · intro unbound
    cases unbound with
    | shapeless unclassified => cases classified.symm.trans unclassified
    | awaitable _ comesIn => exact absurd rfl comesIn
    | itemless classifiedAs batched noElement =>
      cases classified.symm.trans classifiedAs
      exact ⟨batched, fun element found => noElement element (batchedElement_eq_ok_iff.mp found)⟩
  · rintro ⟨batched, noElement⟩
    exact .itemless classified batched fun element isElement =>
      noElement element (batchedElement_eq_ok_iff.mpr isElement)

/-- Awaiting a type that is there at once keeps its name and whether it is a collection, and makes
no difference to outputs, batched or not, exactly unless the type hides a collection behind a name
with a shape of its own. -/
theorem awaiting_keeps_shape {wrapped type : DeclaredType} {shape : Shape}
    (awaits : wrapped.Awaits type) (ordinary : ¬ wrapped.HasOwnShape)
    (classified : (SymbolCache.classify type SymbolCache.empty).1 = .ok shape)
    (present : shape.isAwaitable = false) (atOnce : shape.isAsyncEnumerable = false) :
    ((∃ around, (SymbolCache.classify wrapped SymbolCache.empty).1 = .ok around ∧
        around.IsAround shape) ↔ ¬ type.HidesCollection) ∧
      (¬ type.HidesCollection → ∀ attr name location,
        ((standard ⟨attr, .output, ⟨name, wrapped, location⟩⟩ SymbolCache.empty).1.bindings = [] ↔
          (standard ⟨attr, .output, ⟨name, type, location⟩⟩ SymbolCache.empty).1.bindings =
            [])) := by
  rw [SymbolCache.classify_empty] at classified
  rw [SymbolCache.classify_empty]
  refine ⟨⟨?_, ?_⟩, fun plain attr name location => ?_⟩
  · rintro ⟨around, found, isAround⟩ hides
    exact awaits.not_isAround ordinary classified present atOnce hides found isAround
  · intro plain
    obtain ⟨around, found, isAround, _⟩ :=
      awaits.exists_isAround ordinary classified present atOnce plain
    exact ⟨around, found, isAround⟩
  · obtain ⟨around, found, _, sameItems⟩ :=
      awaits.exists_isAround ordinary classified present atOnce plain
    rw [standard_bindings_eq_nil_iff, standard_bindings_eq_nil_iff, unbound_output_iff found,
      unbound_output_iff classified]
    refine and_congr .rfl (forall_congr' fun element => ?_)
    exact not_congr (sameItems element)

/-- An output attribute that asks for batches. -/
def batchedOutput : Attribute where
  className := "QueueOutputAttribute"
  baseTypes := [Names.outputBase]
  interfaces := [Names.cardinalityMarker]
  namedArguments := [⟨"IsBatched", .bool true⟩]

/-- Several orders at once. -/
def orderArray : DeclaredType :=
  array (named "App.Order")

/-- An array of orders has the same shape when it is awaited, and a batch of it is bound as well. -/
theorem awaiting_keeps_shape_orders :
    (∃ around, (SymbolCache.classify (generic "System.Threading.Tasks.Task" [orderArray])
        SymbolCache.empty).1 = .ok around ∧
      around.IsAround { Shape.plain "App.Order[]" with isEnumerable := true }) ∧
    (standard ⟨batchedOutput, .output, ⟨"$return",
      generic "System.Threading.Tasks.Task" [orderArray], none⟩⟩
        SymbolCache.empty).1.bindings ≠ [] := by
  have notOwn (type : DeclaredType) (named : type.name ∉ Names.void :: Names.string ::
      Names.awaitableWrappers) : ¬ type.HasOwnShape := by
    simpa [HasOwnShape] using named
  have plain : ¬ orderArray.HidesCollection := fun hides => notOwn _ (by decide) hides.1
  have awaits : (generic "System.Threading.Tasks.Task" [orderArray]).Awaits orderArray :=
    ⟨_, List.mem_cons_self, generic_isApplied _ _⟩
  have classified : (SymbolCache.classify orderArray SymbolCache.empty).1 =
      .ok { Shape.plain "App.Order[]" with isEnumerable := true } := by decide
  have kept := awaiting_keeps_shape awaits (notOwn _ (by decide)) classified rfl rfl
  have boundDirectly : 0 < (standard ⟨batchedOutput, .output, ⟨"$return", orderArray, none⟩⟩
      SymbolCache.empty).1.bindings.length := by decide +kernel
  exact ⟨kept.1.mpr plain,
    (not_congr (kept.2 plain _ _ _)).mpr (List.ne_nil_of_length_pos boundDirectly)⟩

/-- Text with the interfaces that it has. -/
def exportedText : DeclaredType :=
  { named Names.string with
    interfaces := [named Names.enumerable, generic Names.genericEnumerable [named "char"]] }

/-- Text is no collection, and a batch of it is refused; awaited text is one, and a batch of it is
bound to its characters. -/
theorem awaiting_uncovers_text :
    (SymbolCache.classify exportedText SymbolCache.empty).1 = .ok (Shape.plain "string") ∧
      (SymbolCache.classify (generic "System.Threading.Tasks.Task" [exportedText])
          SymbolCache.empty).1 =
        .ok ⟨"string", "System.Threading.Tasks.Task<string>", true, true, false⟩ ∧
      (standard ⟨batchedOutput, .output, ⟨"$return", exportedText, none⟩⟩
        SymbolCache.empty).1.bindings.length = 0 ∧
      (standard ⟨batchedOutput, .output, ⟨"$return", generic "System.Threading.Tasks.Task"
        [exportedText], none⟩⟩ SymbolCache.empty).1.bindings.length = 1 := by
  refine ⟨by decide, by decide, by decide +kernel, by decide +kernel⟩

end Generator

end WorkerBindings
