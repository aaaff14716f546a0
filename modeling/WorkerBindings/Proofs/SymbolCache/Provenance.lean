import WorkerBindings.Proofs.Generator.Outputs

/-!
# Where the entries of the symbol cache come from

Every entry of a cache was true of the symbol for which it was made. So a cache that was filled on
behalf of some symbols (`Learned`) answers rightly for others if no name is used for two things
(`Symbols.CompatibleWith`), whatever else it has come to keep. Together with the growth of the
cache, which keeps answers from changing, this is all that a later user of a cache has to know about
an earlier one.
-/

namespace WorkerBindings

namespace SymbolCache

/-- `Learned symbols earlier later` says that whatever the later cache keeps was kept by the earlier
one, or is true of one of the symbols. -/
structure Learned (symbols : Symbols) (earlier later : SymbolCache) : Prop where
  shapes : ∀ {name : String} {shape : Shape}, later.shape? name = some shape →
    earlier.shape? name = some shape ∨
      ∃ type ∈ symbols.types, type.name = name ∧ type.shape = .ok shape
  capabilities : ∀ {name : String} {found : Capabilities},
    later.capabilities.lookup name = some found →
    earlier.capabilities.lookup name = some found ∨
      ∃ attr ∈ symbols.attributes, attr.qualifiedName = name ∧ attr.capabilities = found

namespace Learned

variable {symbols : Symbols} {first second third : SymbolCache}

theorem refl (cache : SymbolCache) : Learned symbols cache cache :=
  ⟨.inl, .inl⟩

theorem trans (earlier : Learned symbols first second) (later : Learned symbols second third) :
    Learned symbols first third where
  shapes := by
    intro name shape kept
    rcases later.shapes kept with before | true
    · exact earlier.shapes before
    · exact .inr true
  capabilities := by
    intro name found kept
    rcases later.capabilities kept with before | true
    · exact earlier.capabilities before
    · exact .inr true

theorem capabilitiesOf {attr : Attribute} (member : attr ∈ symbols.attributes)
    (cache : SymbolCache) : Learned symbols cache (SymbolCache.capabilitiesOf attr cache).2 := by
  unfold SymbolCache.capabilitiesOf
  split
  · exact .refl cache
  · refine ⟨.inl, fun {name found} kept => ?_⟩
    by_cases same : name = attr.qualifiedName
    · subst same
      rw [List.lookup_cons_self] at kept
      exact .inr ⟨attr, member, rfl, Option.some.inj kept⟩
    · rw [Association.lookup_cons_ne same] at kept
      exact .inl kept

theorem classify {type : DeclaredType} (member : type ∈ symbols.types) (cache : SymbolCache) :
    Learned symbols cache (SymbolCache.classify type cache).2 := by
  unfold SymbolCache.classify
  split
  · exact .refl cache
  · split
    · rename_i shape found
      refine ⟨fun {name kept} lookup => ?_, .inl⟩
      simp only [shape?] at lookup
      by_cases same : name = type.name
      · subst same
        rw [List.lookup_cons_self] at lookup
        cases lookup
        exact .inr ⟨type, member, rfl, found⟩
      · rw [Association.lookup_cons_ne same] at lookup
        exact .inl lookup
    · exact .refl cache

end Learned

end SymbolCache

open SymbolCache

variable {symbols : Symbols} {request : Request}

theorem Request.lookup_learned (attr : request.attr ∈ symbols.attributes)
    (type : request.target.type ∈ symbols.types) (cache : SymbolCache) :
    Learned symbols cache (request.lookup cache).2 :=
  (Learned.capabilitiesOf attr cache).trans (.classify type _)

/-- A generator that asks the cache about nothing but the class and the type of its request. -/
def Generator.Modest (generator : Generator) : Prop :=
  ∀ {symbols : Symbols} {request : Request}, request.attr ∈ symbols.attributes →
    request.target.type ∈ symbols.types → ∀ cache,
    Learned symbols cache (generator request cache).2

namespace Generator

theorem standard_modest : Modest standard :=
  Request.lookup_learned

theorem http_modest : Modest http := by
  intro symbols request attr type cache
  cases normalized : normalize request.attr with
  | error argument =>
    rw [http_apply_error normalized]
    exact .refl cache
  | ok normal =>
    rw [http_apply_ok normalized]
    exact Request.lookup_learned attr type cache

end Generator

theorem Registry.IsBuiltIn.modest {registry : Registry} (builtIn : registry.IsBuiltIn) :
    Generator.Modest registry.generate := by
  intro symbols request attr type cache
  have selected : Generator.Modest (registry.select request.attr.tag) := by
    rcases builtIn.select_eq request.attr.tag with standard | http
    · rw [standard]
      exact Generator.standard_modest
    · rw [http]
      exact Generator.http_modest
  exact selected attr type cache

namespace Symbols

/-- What a cache may keep on behalf of the earlier symbols is true of the later ones. A shape that
could not be found is never kept, so that it contradicts nothing. -/
structure CompatibleWith (earlier later : Symbols) : Prop where
  types : ∀ known ∈ earlier.types, ∀ type ∈ later.types, known.name = type.name →
    ∀ shape, known.shape = .ok shape → type.shape = .ok shape
  attributes : ∀ known ∈ earlier.attributes, ∀ attr ∈ later.attributes,
    known.qualifiedName = attr.qualifiedName → known.capabilities = attr.capabilities

/-- A cache goes on agreeing with symbols when it learns from others that are compatible. -/
theorem AgreeWith.of_learned {earlier later : Symbols} {before after : SymbolCache}
    (agree : later.AgreeWith before) (compatible : earlier.CompatibleWith later)
    (learned : Learned earlier before after) : later.AgreeWith after where
  types := by
    intro type member shape kept
    rcases learned.shapes kept with keptBefore | ⟨known, knownMember, sameName, found⟩
    · exact agree.types type member shape keptBefore
    · exact compatible.types known knownMember type member sameName shape found
  attributes := by
    intro attr member found kept
    rcases learned.capabilities kept with keptBefore | ⟨known, knownMember, sameName, facts⟩
    · exact agree.attributes attr member found keptBefore
    · rw [← facts]
      exact (compatible.attributes known knownMember attr member sameName).symm

end Symbols

end WorkerBindings
