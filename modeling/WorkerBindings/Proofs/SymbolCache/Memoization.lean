import Mathlib.Data.List.Dedup
import WorkerBindings.Proofs.Classification.Shapes
import WorkerBindings.Proofs.SymbolCache.Extension

/-!
# Classification from memory

A cache that is asked about one type after another keeps exactly the shapes that it found
(`KeepsShapesOf`), one under each name, and nothing of the types without a shape. As long as types
of one name are alike, its answers are therefore the shapes of the types themselves, the first time
and every other time.
-/

namespace WorkerBindings

/-- Types of one name have one shape, or none for the same reason. -/
def DeclaredType.Alike (types : List DeclaredType) : Prop :=
  ∀ first ∈ types, ∀ second ∈ types, first.name = second.name → first.shape = second.shape

instance (types : List DeclaredType) : Decidable (DeclaredType.Alike types) :=
  inferInstanceAs (Decidable (∀ first ∈ types, ∀ second ∈ types,
    first.name = second.name → first.shape = second.shape))

namespace SymbolCache

open DeclaredType

variable {cache : SymbolCache} {types known : List DeclaredType} {type : DeclaredType}

/-- The cache keeps the shapes of some types, each under one key, and no others. -/
structure KeepsShapesOf (cache : SymbolCache) (types : List DeclaredType) : Prop where
  kept : ∀ {name : String} {shape : Shape}, cache.shape? name = some shape ↔
    ∃ type ∈ types, type.name = name ∧ type.shape = .ok shape
  distinct : (cache.shapes.map (·.1)).Nodup

theorem keepsShapesOf_empty : empty.KeepsShapesOf [] :=
  ⟨by simp [empty, shape?], List.nodup_nil⟩

theorem mem_names_iff {name : String} :
    name ∈ cache.shapes.map (·.1) ↔ ∃ shape, cache.shape? name = some shape := by
  rw [← Option.isSome_iff_exists, shape?, List.lookup_isSome_iff, List.mem_map]
  simp only [beq_iff_eq, eq_comm (a := name)]

namespace KeepsShapesOf

/-- A type whose shape is kept is alike the type for which it was found. -/
theorem shape_eq_of_kept (keeps : cache.KeepsShapesOf known) (alike : Alike (type :: known))
    {shape : Shape} (found : cache.shape? type.name = some shape) : type.shape = .ok shape := by
  obtain ⟨earlier, member, sameName, earlierShape⟩ := keeps.kept.mp found
  rw [← earlierShape]
  exact alike type List.mem_cons_self earlier (List.mem_cons_of_mem _ member) sameName.symm

/-- A type that changes nothing is one whose shape is kept already, or one without a shape. -/
theorem cons_of_unchanged (keeps : cache.KeepsShapesOf known)
    (nothingNew : ∀ shape, type.shape = .ok shape → cache.shape? type.name = some shape) :
    cache.KeepsShapesOf (type :: known) where
  kept := by
    intro name shape
    rw [keeps.kept, List.exists_mem_cons_iff]
    constructor
    · exact .inr
    · rintro (⟨rfl, found⟩ | earlier)
      · exact keeps.kept.mp (nothingNew shape found)
      · exact earlier
  distinct := keeps.distinct

/-- A shape that is found for a new name is kept beside the others. -/
theorem cons_of_found (keeps : cache.KeepsShapesOf known) {shape : Shape}
    (missing : cache.shape? type.name = none) (found : type.shape = .ok shape) :
    ({ cache with shapes := (type.name, shape) :: cache.shapes } : SymbolCache).KeepsShapesOf
      (type :: known) where
  kept := by
    intro name kept
    rw [List.exists_mem_cons_iff, ← keeps.kept, shape?]
    by_cases same : name = type.name
    · subst same
      rw [List.lookup_cons_self, missing, found, Option.some.injEq, Except.ok.injEq]
      simp
    · rw [Association.lookup_cons_ne same, shape?]
      simp [Ne.symm same]
  distinct := by
    rw [List.map_cons, List.nodup_cons]
    refine ⟨fun member => ?_, keeps.distinct⟩
    obtain ⟨kept, found⟩ := mem_names_iff.mp member
    cases missing.symm.trans found

/-- One question: the answer is the shape of the type, and a shape that was not there is kept. -/
theorem classify (keeps : cache.KeepsShapesOf known) (alike : Alike (type :: known)) :
    (SymbolCache.classify type cache).1 = type.shape ∧
      (SymbolCache.classify type cache).2.KeepsShapesOf (type :: known) := by
  unfold SymbolCache.classify
  split
  · rename_i shape found
    have shapeEq := keeps.shape_eq_of_kept alike found
    refine ⟨shapeEq.symm, keeps.cons_of_unchanged fun other isShape => ?_⟩
    cases shapeEq.symm.trans isShape
    exact found
  · rename_i missing
    split
    · rename_i shape found
      exact ⟨found.symm, keeps.cons_of_found missing found⟩
    · rename_i reason failed
      refine ⟨failed.symm, keeps.cons_of_unchanged fun shape isShape => ?_⟩
      cases failed.symm.trans isShape

/-- One question after another, by induction over the questions: what is known grows by each type
that was asked about. -/
theorem mapM_classify (keeps : cache.KeepsShapesOf known)
    (alike : Alike (types.reverse ++ known)) :
    ∃ final, types.mapM SymbolCache.classify cache = (types.map DeclaredType.shape, final) ∧
      final.KeepsShapesOf (types.reverse ++ known) := by
  induction types generalizing cache known with
  | nil => exact ⟨cache, rfl, keeps⟩
  | cons type rest ih =>
    rw [List.reverse_cons, List.append_assoc, List.singleton_append] at alike ⊢
    have here : Alike (type :: known) := fun first firstMember second secondMember =>
      alike first (List.mem_append_right _ firstMember) second
        (List.mem_append_right _ secondMember)
    obtain ⟨answer, keepsNext⟩ := keeps.classify here
    obtain ⟨final, answers, keepsFinal⟩ := ih keepsNext alike
    refine ⟨final, ?_, keepsFinal⟩
    have opened : (type :: rest).mapM SymbolCache.classify cache =
        ((SymbolCache.classify type cache).1 ::
            (rest.mapM SymbolCache.classify (SymbolCache.classify type cache).2).1,
          (rest.mapM SymbolCache.classify (SymbolCache.classify type cache).2).2) := by
      rw [List.mapM_cons]
      rfl
    rw [opened, answers, answer, List.map_cons]

/-- There are as many shapes in the cache as names of types with a shape. -/
theorem length_shapes (keeps : cache.KeepsShapesOf types) :
    cache.shapes.length = ((types.filter (·.shape.isOk)).map (·.name)).dedup.length := by
  have sameNames : (cache.shapes.map (·.1)).Perm
      ((types.filter (·.shape.isOk)).map (·.name)).dedup := by
    refine (List.perm_ext_iff_of_nodup keeps.distinct (List.nodup_dedup _)).mpr fun name => ?_
    rw [mem_names_iff, List.mem_dedup]
    simp only [keeps.kept, List.mem_map, List.mem_filter]
    constructor
    · rintro ⟨shape, type, member, named, found⟩
      exact ⟨type, ⟨member, by rw [found]; rfl⟩, named⟩
    · rintro ⟨type, ⟨member, isOk⟩, named⟩
      cases found : type.shape with
      | ok shape => exact ⟨shape, type, member, named, found⟩
      | error reason =>
        rw [found] at isOk
        cases isOk
  rw [← sameNames.length_eq, List.length_map]

end KeepsShapesOf

/-- A cache that starts empty and is asked about types of which those of one name are alike answers
every time with the shape of the type, or with the reason why it has none; it keeps the shapes under
the names of the types and nothing else. The shape of a type whose name has no shape of its own says
what the type is, and only a wrapper around something that arrives over time has none. -/
theorem classify_faithful (types : List DeclaredType) (alike : Alike types) :
    (∃ final, types.mapM classify empty = (types.map DeclaredType.shape, final) ∧
      (∀ type ∈ types, ∀ shape, type.shape = .ok shape → final.shape? type.name = some shape) ∧
      (∀ type ∈ types, ∀ reason, type.shape = .error reason → final.shape? type.name = none) ∧
      final.shapes.length = ((types.filter (·.shape.isOk)).map (·.name)).dedup.length) ∧
    ∀ type : DeclaredType, ¬ type.HasOwnShape →
      (∀ reason, type.shape = .error reason ↔ reason = .awaitedAsyncEnumerable type.name ∧
        ∃ inner, type.Awaits inner ∧ ∃ item, inner.Offers Names.asyncEnumerable item) ∧
      ∀ shape, type.shape = .ok shape ↔ shape.IsOf type := by
  refine ⟨?_, fun type ordinary =>
    ⟨fun _ => shape_eq_error_iff ordinary, fun _ => shape_eq_ok_iff ordinary⟩⟩
  have alikeReversed : Alike (types.reverse ++ []) := by simpa [Alike] using alike
  obtain ⟨final, answers, keepsReversed⟩ := keepsShapesOf_empty.mapM_classify alikeReversed
  have keeps : final.KeepsShapesOf types :=
    ⟨fun {_ _} => by simpa using keepsReversed.kept, keepsReversed.distinct⟩
  refine ⟨final, answers, fun type member shape found => ?_, fun type member reason failed => ?_,
    keeps.length_shapes⟩
  · exact keeps.kept.mpr ⟨type, member, rfl, found⟩
  · refine Option.eq_none_iff_forall_ne_some.mpr fun shape stored => ?_
    obtain ⟨other, otherMember, sameName, found⟩ := keeps.kept.mp stored
    have sameShape := alike other otherMember type member sameName
    rw [found, failed] at sameShape
    cases sameShape

/-- Orders that are awaited, orders that would be awaited and arrive over time, and texts with and
without their interfaces. -/
def orderTypes : List DeclaredType :=
  let awaited := generic "System.Threading.Tasks.Task" [named "App.Order"]
  let streamed := generic "System.Threading.Tasks.ValueTask"
    [generic Names.asyncEnumerable [named "App.Order"]]
  let text := { named Names.string with interfaces := [named Names.enumerable] }
  [awaited, streamed, text, streamed, awaited, named Names.string]

theorem classify_faithful_orders : Alike orderTypes ∧
    (∃ final, orderTypes.mapM classify empty = (orderTypes.map DeclaredType.shape, final) ∧
      final.shapes.length = 2) ∧
    (orderTypes.map (·.shape.isOk)) = [true, false, true, false, true, true] := by
  have alike : Alike orderTypes := by decide
  obtain ⟨⟨final, answers, _, _, counted⟩, _⟩ := classify_faithful orderTypes alike
  refine ⟨alike, ⟨final, answers, counted.trans (by decide)⟩, by decide⟩

end SymbolCache

end WorkerBindings
