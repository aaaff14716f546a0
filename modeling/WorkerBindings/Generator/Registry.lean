import WorkerBindings.Generator.Http

/-!
# The generator registry

Generators are kept by type tag. A tag for which nobody has registered one goes to the standard
generator.
-/

namespace WorkerBindings

/-- Generators by type tag. -/
structure Registry where
  generators : List (String × Generator)

namespace Registry

/-- The registry in which every tag goes to the standard generator. -/
def empty : Registry :=
  ⟨[]⟩

/-- Whether a tag has a generator of its own. -/
def contains (registry : Registry) (tag : String) : Bool :=
  (registry.generators.lookup tag).isSome

/-- Register a generator for a tag, in the place of any that it had. -/
def register (registry : Registry) (tag : String) (generator : Generator) : Registry :=
  ⟨(tag, generator) :: registry.generators.filter fun entry => entry.1 != tag⟩

/-- The registry with the built-in generators. -/
def builtIn : Registry :=
  empty.register Generator.httpTag Generator.http

/-- The generator for a tag. -/
def select (registry : Registry) (tag : String) : Generator :=
  (registry.generators.lookup tag).getD Generator.standard

/-- Run the generator for the request's attribute. -/
def generate (registry : Registry) : Generator := fun request =>
  registry.select request.attr.tag request

end Registry

end WorkerBindings
