import WorkerBindings.Proofs.SymbolCache.Extension
import WorkerBindings.Symbol.Method

/-!
# Agreement of the symbol cache with symbols

The cache answers by name. Its answers are those of the symbols themselves as long as symbols of one
name are alike (`Symbols.Consistent`) and nothing that the cache keeps contradicts them
(`Symbols.AgreeWith`). Under these two conditions a lookup gives what it would give without a cache,
and leaves a cache of the same kind.
-/

namespace WorkerBindings

/-- The types and attributes that assembling may ask about. -/
structure Symbols where
  types : List DeclaredType
  attributes : List Attribute

namespace Symbols

/-- Types of one name have one shape, and classes of one name have the same capabilities. -/
structure Consistent (symbols : Symbols) : Prop where
  types : ∀ first ∈ symbols.types, ∀ second ∈ symbols.types,
    first.name = second.name → first.shape = second.shape
  attributes : ∀ first ∈ symbols.attributes, ∀ second ∈ symbols.attributes,
    first.qualifiedName = second.qualifiedName → first.capabilities = second.capabilities

/-- What a cache keeps under the name of a symbol is true of that symbol. -/
structure AgreeWith (symbols : Symbols) (cache : SymbolCache) : Prop where
  types : ∀ type ∈ symbols.types, ∀ shape,
    cache.shape? type.name = some shape → type.shape = .ok shape
  attributes : ∀ attr ∈ symbols.attributes, ∀ found,
    cache.capabilities.lookup attr.qualifiedName = some found → attr.capabilities = found

theorem agreeWith_empty (symbols : Symbols) : symbols.AgreeWith SymbolCache.empty where
  types := by
    intro type _ shape found
    simp [SymbolCache.empty, SymbolCache.shape?] at found
  attributes := by
    intro attr _ found lookup
    simp [SymbolCache.empty] at lookup

/-- `Within smaller larger` says that every symbol of the first collection is one of the second. -/
structure Within (smaller larger : Symbols) : Prop where
  types : smaller.types ⊆ larger.types
  attributes : smaller.attributes ⊆ larger.attributes

theorem Within.refl (symbols : Symbols) : symbols.Within symbols :=
  ⟨List.Subset.refl _, List.Subset.refl _⟩

/-- An earlier cache contradicts no symbol if a later one does not. -/
theorem AgreeWith.of_extends {symbols : Symbols} {cache final : SymbolCache}
    (agree : symbols.AgreeWith final) (later : cache.Extends final) : symbols.AgreeWith cache where
  types type member shape found := agree.types type member shape (later.shapes found)
  attributes attr member found lookup :=
    agree.attributes attr member found (later.capabilities lookup)

variable {symbols : Symbols} {cache : SymbolCache}

theorem AgreeWith.facts_eq (agree : symbols.AgreeWith cache) {attr : Attribute}
    (member : attr ∈ symbols.attributes) : cache.facts attr = attr.capabilities := by
  unfold SymbolCache.facts
  cases found : cache.capabilities.lookup attr.qualifiedName with
  | none => rfl
  | some kept => exact (agree.attributes attr member kept found).symm

theorem AgreeWith.capabilitiesOf (agree : symbols.AgreeWith cache)
    (consistent : symbols.Consistent) {attr : Attribute} (member : attr ∈ symbols.attributes) :
    symbols.AgreeWith (SymbolCache.capabilitiesOf attr cache).2 := by
  unfold SymbolCache.capabilitiesOf
  split
  · exact agree
  · refine ⟨agree.types, ?_⟩
    intro other otherMember found lookup
    by_cases same : other.qualifiedName = attr.qualifiedName
    · rw [same, List.lookup_cons_self] at lookup
      rw [consistent.attributes other otherMember attr member same]
      exact Option.some.inj lookup
    · rw [Association.lookup_cons_ne same] at lookup
      exact agree.attributes other otherMember found lookup

theorem AgreeWith.classify_fst (agree : symbols.AgreeWith cache) {type : DeclaredType}
    (member : type ∈ symbols.types) : (SymbolCache.classify type cache).1 = type.shape := by
  unfold SymbolCache.classify
  split
  · rename_i kept found
    exact (agree.types type member kept found).symm
  · split <;> rename_i shape <;> exact shape.symm

theorem AgreeWith.classify (agree : symbols.AgreeWith cache) (consistent : symbols.Consistent)
    {type : DeclaredType} (member : type ∈ symbols.types) :
    symbols.AgreeWith (SymbolCache.classify type cache).2 := by
  unfold SymbolCache.classify
  split
  · exact agree
  · split
    · rename_i shape shapeEq
      refine ⟨?_, agree.attributes⟩
      intro other otherMember found lookup
      simp only [SymbolCache.shape?] at lookup
      by_cases same : other.name = type.name
      · rw [same, List.lookup_cons_self] at lookup
        rw [consistent.types other otherMember type member same, shapeEq,
          Option.some.inj lookup]
      · rw [Association.lookup_cons_ne same] at lookup
        exact agree.types other otherMember found lookup
    · exact agree

/-- An answer that led to an agreeing cache is the shape of the type. -/
theorem AgreeWith.shape_of_classifies (agree : symbols.AgreeWith cache) {type : DeclaredType}
    (member : type ∈ symbols.types) {classified : Except ShapeError Shape}
    (answered : cache.Classifies type classified) : classified = type.shape := by
  obtain ⟨before, later, rfl⟩ := answered
  have agreeBefore := agree.of_extends ((SymbolCache.extends_classify type before).trans later)
  exact agreeBefore.classify_fst member

end Symbols

namespace Method

/-- The properties of the result, looked for behind an awaitable wrapper. -/
def resultProperties (method : Method) : List ResultProperty :=
  method.returnType.unwrapped.properties

/-- The symbols that occur on a method: those of its parameters, of its result and of the properties
of its result. -/
def symbols (method : Method) : Symbols where
  types := method.parameters.map (·.type) ++ method.returnType ::
    method.resultProperties.map (·.type)
  attributes := method.parameters.flatMap (·.attributes) ++ method.attributes ++
    method.resultProperties.flatMap (·.attributes)

variable {method : Method}

theorem parameterType_mem {parameter : Parameter} (member : parameter ∈ method.parameters) :
    parameter.type ∈ method.symbols.types :=
  List.mem_append_left _ (List.mem_map_of_mem member)

theorem returnType_mem : method.returnType ∈ method.symbols.types :=
  List.mem_append_right _ List.mem_cons_self

theorem propertyType_mem {property : ResultProperty} (member : property ∈ method.resultProperties) :
    property.type ∈ method.symbols.types :=
  List.mem_append_right _ (List.mem_cons_of_mem _ (List.mem_map_of_mem member))

theorem parameterAttributes_subset {parameter : Parameter}
    (member : parameter ∈ method.parameters) : parameter.attributes ⊆ method.symbols.attributes :=
  fun _ inside => List.mem_append_left _ (List.mem_append_left _
    (List.mem_flatMap_of_mem member inside))

theorem attributes_subset : method.attributes ⊆ method.symbols.attributes :=
  fun _ inside => List.mem_append_left _ (List.mem_append_right _ inside)

theorem propertyAttributes_subset {property : ResultProperty}
    (member : property ∈ method.resultProperties) :
    property.attributes ⊆ method.symbols.attributes :=
  fun _ inside => List.mem_append_right _ (List.mem_flatMap_of_mem member inside)

end Method

end WorkerBindings
