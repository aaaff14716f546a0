import WorkerBindings.Classification
import WorkerBindings.Symbol.Capabilities

/-!
# The symbol cache

Shapes are kept by the display name of a type and capabilities by the qualified name of an attribute
class, and what was kept first stays. A shape that could not be found is not kept. So the cache may
answer for a symbol with what it found out about an earlier one of the same name.
-/

namespace WorkerBindings

/-- The shapes and capabilities found so far, each under its name. -/
structure SymbolCache where
  shapes : List (String × Shape)
  capabilities : List (String × Capabilities)
  deriving Repr, DecidableEq

namespace SymbolCache

/-- The cache in which nothing has been looked up. -/
def empty : SymbolCache :=
  ⟨[], []⟩

/-- Whether nothing is kept. -/
def isEmpty (cache : SymbolCache) : Bool :=
  cache.shapes.isEmpty && cache.capabilities.isEmpty

/-- The shape that is kept for a type name. -/
def shape? (cache : SymbolCache) (typeName : String) : Option Shape :=
  cache.shapes.lookup typeName

/-- Keep a shape, unless there is one for the name already; the answer is the one that stays. -/
def remember (cache : SymbolCache) (typeName : String) (shape : Shape) : Shape × SymbolCache :=
  match cache.shape? typeName with
  | some kept => (kept, cache)
  | none => (shape, { cache with shapes := (typeName, shape) :: cache.shapes })

/-- The shape of a type, from the cache if its name is known. -/
def classify (type : DeclaredType) : StateM SymbolCache (Except ShapeError Shape) := fun cache =>
  match cache.shape? type.name with
  | some kept => (.ok kept, cache)
  | none =>
    match type.shape with
    | .ok shape => (.ok shape, { cache with shapes := (type.name, shape) :: cache.shapes })
    | .error reason => (.error reason, cache)

/-- The capabilities of an attribute's class, from the cache if its qualified name is known. -/
def capabilitiesOf (attr : Attribute) : StateM SymbolCache Capabilities := fun cache =>
  match cache.capabilities.lookup attr.qualifiedName with
  | some kept => (kept, cache)
  | none =>
    let found := attr.capabilities
    (found, { cache with capabilities := (attr.qualifiedName, found) :: cache.capabilities })

end SymbolCache

end WorkerBindings
