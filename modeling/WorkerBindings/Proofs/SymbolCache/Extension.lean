import WorkerBindings.Proofs.Association
import WorkerBindings.SymbolCache

/-!
# Growth of the symbol cache

What a cache keeps, it keeps for good. So a question that has been answered once is answered in the
same way by every later cache, and what a run was told about the classes of its attributes can be
read off the cache that it ends with. Shapes that could not be found are the exception: they are not
kept, and a type of the same name may still get a shape later.
-/

namespace WorkerBindings.SymbolCache

/-- `Extends earlier later` says that the later cache keeps all that the earlier one keeps. -/
structure Extends (earlier later : SymbolCache) : Prop where
  shapes : ∀ {name : String} {shape : Shape},
    earlier.shape? name = some shape → later.shape? name = some shape
  capabilities : ∀ {name : String} {found : Capabilities},
    earlier.capabilities.lookup name = some found → later.capabilities.lookup name = some found

theorem Extends.refl (cache : SymbolCache) : cache.Extends cache :=
  ⟨id, id⟩

theorem Extends.trans {first second third : SymbolCache} (earlier : first.Extends second)
    (later : second.Extends third) : first.Extends third :=
  ⟨fun found => later.shapes (earlier.shapes found),
    fun found => later.capabilities (earlier.capabilities found)⟩

/-- What a cache answers about the class of an attribute. -/
def facts (cache : SymbolCache) (attr : Attribute) : Capabilities :=
  (cache.capabilities.lookup attr.qualifiedName).getD attr.capabilities

theorem capabilitiesOf_fst (attr : Attribute) (cache : SymbolCache) :
    (capabilitiesOf attr cache).1 = cache.facts attr := by
  unfold capabilitiesOf facts
  split <;> rename_i found <;> simp [found]

/-- Asking about a class leaves a cache that knows the answer. -/
theorem lookup_capabilitiesOf (attr : Attribute) (cache : SymbolCache) :
    (capabilitiesOf attr cache).2.capabilities.lookup attr.qualifiedName =
      some (cache.facts attr) := by
  unfold capabilitiesOf facts
  split <;> rename_i found <;> simp [found]

theorem extends_capabilitiesOf (attr : Attribute) (cache : SymbolCache) :
    cache.Extends (capabilitiesOf attr cache).2 := by
  unfold capabilitiesOf
  split
  · exact .refl cache
  · rename_i missing
    exact ⟨id, Association.lookup_cons_of_missing _ missing⟩

/-- What was answered about a class is what any later cache answers. -/
theorem facts_eq_of_extends {attr : Attribute} {cache final : SymbolCache}
    (later : (capabilitiesOf attr cache).2.Extends final) :
    cache.facts attr = final.facts attr := by
  have known := later.capabilities (lookup_capabilitiesOf attr cache)
  simp [facts, known]

/-- What a cache answers about the shape of a type. -/
def shapeOf (cache : SymbolCache) (type : DeclaredType) : Except ShapeError Shape :=
  match cache.shape? type.name with
  | some kept => .ok kept
  | none => type.shape

theorem classify_fst (type : DeclaredType) (cache : SymbolCache) :
    (classify type cache).1 = cache.shapeOf type := by
  unfold classify shapeOf
  cases cache.shape? type.name with
  | some kept => rfl
  | none => cases type.shape <;> rfl

theorem shapeOf_capabilitiesOf (attr : Attribute) (cache : SymbolCache) (type : DeclaredType) :
    (capabilitiesOf attr cache).2.shapeOf type = cache.shapeOf type := by
  have sameShapes : (capabilitiesOf attr cache).2.shapes = cache.shapes := by
    unfold capabilitiesOf
    split <;> rfl
  rw [shapeOf, shape?, sameShapes]
  rfl

/-- A shape that was answered is what any later cache answers. -/
theorem shapeOf_eq_ok_of_extends {type : DeclaredType} {cache final : SymbolCache} {shape : Shape}
    (later : (classify type cache).2.Extends final) (answered : cache.shapeOf type = .ok shape) :
    final.shapeOf type = .ok shape := by
  have kept : (classify type cache).2.shape? type.name = some shape := by
    unfold shapeOf at answered
    unfold classify
    cases found : cache.shape? type.name with
    | some known =>
      rw [found] at answered
      cases answered
      exact found
    | none =>
      rw [found] at answered
      have shapeEq : type.shape = .ok shape := answered
      rw [shapeEq]
      exact List.lookup_cons_self
  rw [shapeOf, later.shapes kept]

/-- A cache learns nothing from a type whose shape cannot be found. -/
theorem classify_snd_of_error {type : DeclaredType} {cache : SymbolCache} {reason : ShapeError}
    (answered : cache.shapeOf type = .error reason) : (classify type cache).2 = cache := by
  unfold shapeOf at answered
  unfold classify
  cases found : cache.shape? type.name with
  | some known => rfl
  | none =>
    rw [found] at answered
    have shapeEq : type.shape = .error reason := answered
    rw [shapeEq]

/-- `Classifies final type classified` says that a cache that led to `final` gave this answer. -/
def Classifies (final : SymbolCache) (type : DeclaredType) (classified : Except ShapeError Shape) :
    Prop :=
  ∃ cache, (classify type cache).2.Extends final ∧ (classify type cache).1 = classified

theorem extends_classify (type : DeclaredType) (cache : SymbolCache) :
    cache.Extends (classify type cache).2 := by
  unfold classify
  split
  · exact .refl cache
  · rename_i missing
    split
    · exact ⟨Association.lookup_cons_of_missing _ missing, id⟩
    · exact .refl cache

end WorkerBindings.SymbolCache
