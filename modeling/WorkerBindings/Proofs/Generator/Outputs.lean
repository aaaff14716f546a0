import WorkerBindings.Generator.Registry
import WorkerBindings.Proofs.Generator.Arguments
import WorkerBindings.Proofs.SymbolCache.Agreement

/-!
# What the built-in generators return

A built-in generator answers a request with the one binding of that request, or with no binding and
an error (`Output.Answers`). The binding has the name and the role of the request, and its reserved
properties are those of the request whatever the arguments of the attribute are called. Apart from
the request, the answer depends only on what the cache says about one class and one type.
-/

namespace WorkerBindings

namespace Diagnostic

@[simp] theorem hasErrors_append (first second : List Diagnostic) :
    hasErrors (first ++ second) = (hasErrors first || hasErrors second) :=
  List.any_append

@[simp] theorem hasErrors_cons (diagnostic : Diagnostic) (rest : List Diagnostic) :
    hasErrors (diagnostic :: rest) = (diagnostic.isError || hasErrors rest) :=
  rfl

@[simp] theorem hasErrors_nil : hasErrors [] = false :=
  rfl

@[simp] theorem isError_report (problem : Problem) (location : Option String)
    (arguments : List String) :
    (report problem location arguments).isError = (problem.entry.severity == .error) :=
  rfl

end Diagnostic

/-- A type without the shape that is needed is an error. -/
@[simp] theorem ShapeError.isError_diagnostic (reason : ShapeError) (location : Option String) :
    (reason.diagnostic location).isError = true := by
  cases reason <;> rfl

/-- What every binding has in common with the request that it answers. -/
structure Binding.Fits (binding : Binding) (request : Request) : Prop where
  name : binding.name = request.target.name
  role : binding.role = request.role
  statedName : binding.properties.get? nameKey = some request.target.name
  statedType : binding.properties.get? typeKey = some request.attr.tag
  statedDirection : binding.properties.get? directionKey = some request.role.direction.name
  passedOn : ∀ key, Generator.PassesOn key →
    binding.properties.get? key = request.attr.stated? key

/-- The output of a generator that answers a request with its one binding, or with an error. -/
inductive Output.Answers (request : Request) (output : Output) : Prop where
  | bound (binding : Binding) (only : output.bindings = [binding]) (fits : binding.Fits request)
  | refused (unbound : output.bindings = []) (errors : output.hasErrors = true)

namespace Generator

theorem bindingOf_fits {request : Request} {capabilities : Capabilities} {shape : Shape}
    {binding : Binding}
    (bound : bindingOf request capabilities (draft request capabilities) shape = .ok binding) :
    binding.Fits request := by
  unfold bindingOf at bound
  split at bound
  · cases bound
  · split at bound
    · cases bound
    · cases bound
      exact {
        name := rfl
        role := rfl
        statedName := (draft_reserved (by decide) request capabilities).trans rfl
        statedType := (draft_reserved (by decide) request capabilities).trans rfl
        statedDirection := (draft_reserved (by decide) request capabilities).trans rfl
        passedOn := fun _ passesOn => draft_passed passesOn request capabilities }

theorem bindingOf_isError {request : Request} {capabilities : Capabilities} {draft : Draft}
    {shape : Shape} {diagnostic : Diagnostic}
    (refused : bindingOf request capabilities draft shape = .error diagnostic) :
    diagnostic.isError = true := by
  unfold bindingOf at refused
  split at refused
  · cases refused
    rfl
  · split at refused
    · cases refused
      simp
    · cases refused

theorem finish_answers (request : Request) (capabilities : Capabilities)
    (classified : Except ShapeError Shape) :
    (finish request capabilities classified).Answers request := by
  unfold finish
  dsimp only
  split
  · exact .refused rfl (by simp [Output.hasErrors])
  · split
    · rename_i diagnostic refused
      exact .refused rfl (by simp [Output.hasErrors, bindingOf_isError refused])
    · rename_i binding bound
      exact .bound binding rfl (bindingOf_fits bound)

end Generator

/-- What a request asks of the cache: about its class, then about its type. -/
def Request.lookup (request : Request) :
    StateM SymbolCache (Capabilities × Except ShapeError Shape) := do
  let capabilities ← SymbolCache.capabilitiesOf request.attr
  let classified ← SymbolCache.classify request.target.type
  pure (capabilities, classified)

namespace Request

theorem extends_lookup (request : Request) (cache : SymbolCache) :
    cache.Extends (request.lookup cache).2 :=
  (SymbolCache.extends_capabilitiesOf request.attr cache).trans
    (SymbolCache.extends_classify request.target.type _)

variable {symbols : Symbols} {request : Request} {cache : SymbolCache}

theorem lookup_fst (agree : symbols.AgreeWith cache) (consistent : symbols.Consistent)
    (attr : request.attr ∈ symbols.attributes)
    (type : request.target.type ∈ symbols.types) :
    (request.lookup cache).1 = (request.attr.capabilities, request.target.type.shape) := by
  have capabilities : (SymbolCache.capabilitiesOf request.attr cache).1 =
      request.attr.capabilities :=
    (SymbolCache.capabilitiesOf_fst request.attr cache).trans (agree.facts_eq attr)
  have classified := (agree.capabilitiesOf consistent attr).classify_fst type
  exact Prod.ext capabilities classified

theorem lookup_agreeWith (agree : symbols.AgreeWith cache) (consistent : symbols.Consistent)
    (attr : request.attr ∈ symbols.attributes)
    (type : request.target.type ∈ symbols.types) :
    symbols.AgreeWith (request.lookup cache).2 :=
  (agree.capabilitiesOf consistent attr).classify consistent type

end Request

/-- What the rest of the library relies on in a generator: it only adds to the cache, it answers its
request, and on symbols that agree with the cache it answers as it would on an empty one. -/
structure Generator.Lawful (generator : Generator) : Prop where
  grows : ∀ (request : Request) (cache : SymbolCache),
    cache.Extends (generator request cache).2
  answers : ∀ (request : Request) (cache : SymbolCache),
    (generator request cache).1.Answers request
  agrees : ∀ {symbols : Symbols} {request : Request} {cache : SymbolCache},
    symbols.AgreeWith cache → symbols.Consistent → request.attr ∈ symbols.attributes →
    request.target.type ∈ symbols.types → symbols.AgreeWith (generator request cache).2
  determined : ∀ {symbols : Symbols} {request : Request} {cache : SymbolCache},
    symbols.AgreeWith cache → symbols.Consistent → request.attr ∈ symbols.attributes →
    request.target.type ∈ symbols.types →
    (generator request cache).1 = (generator request SymbolCache.empty).1

namespace Generator

theorem standard_apply (request : Request) (cache : SymbolCache) :
    standard request cache =
      (finish request (request.lookup cache).1.1 (request.lookup cache).1.2,
        (request.lookup cache).2) :=
  rfl

theorem standard_lawful : Lawful standard where
  grows := Request.extends_lookup
  answers request cache := finish_answers request _ _
  agrees := Request.lookup_agreeWith
  determined := by
    intro symbols request cache agree consistent attr type
    rw [standard_apply, standard_apply, Request.lookup_fst agree consistent attr type,
      Request.lookup_fst symbols.agreeWith_empty consistent attr type]

/-- On arguments that are accepted, the cache is asked what the standard generator would ask it. -/
theorem http_apply_ok {request : Request} {normal : Attribute}
    (normalized : normalize request.attr = .ok normal) (cache : SymbolCache) :
    http request cache =
      (finish { request with attr := normal } (request.lookup cache).1.1
        (request.lookup cache).1.2, (request.lookup cache).2) := by
  obtain ⟨arguments, namedArguments, _, _, rfl⟩ := normalize_eq_ok normalized
  simp only [http, normalized]
  rfl

theorem http_apply_error {request : Request} {argument : String}
    (refused : normalize request.attr = .error argument) (cache : SymbolCache) :
    http request cache = (Output.ofDiagnostics [Diagnostic.report .invalidArgument
      request.location [argument, request.target.name]], cache) := by
  simp only [http, refused]
  rfl

/-- What fits a request in its normal form fits the request itself. -/
theorem normalize_fits {request : Request} {normal : Attribute} {binding : Binding}
    (normalized : normalize request.attr = .ok normal)
    (fits : binding.Fits { request with attr := normal }) : binding.Fits request := by
  have sameTag : normal.tag = request.attr.tag := by
    obtain ⟨arguments, namedArguments, _, _, rfl⟩ := normalize_eq_ok normalized
    rfl
  exact {
    name := fits.name
    role := fits.role
    statedName := fits.statedName
    statedType := by rw [fits.statedType, sameTag]
    statedDirection := fits.statedDirection
    passedOn := fun key passesOn =>
      (fits.passedOn key passesOn).trans (normalize_passed passesOn normalized) }

theorem http_answers (request : Request) (cache : SymbolCache) :
    (http request cache).1.Answers request := by
  cases normalized : normalize request.attr with
  | error argument =>
    rw [http_apply_error normalized]
    exact .refused rfl rfl
  | ok normal =>
    rw [http_apply_ok normalized]
    cases finish_answers { request with attr := normal } (request.lookup cache).1.1
      (request.lookup cache).1.2 with
    | refused unbound errors => exact .refused unbound errors
    | bound binding only fits => exact .bound binding only (normalize_fits normalized fits)

theorem http_lawful : Lawful http where
  grows := by
    intro request cache
    cases normalized : normalize request.attr with
    | error argument =>
      rw [http_apply_error normalized]
      exact .refl cache
    | ok normal =>
      rw [http_apply_ok normalized]
      exact request.extends_lookup cache
  answers := http_answers
  agrees := by
    intro symbols request cache agree consistent attr type
    cases normalized : normalize request.attr with
    | error argument =>
      rw [http_apply_error normalized]
      exact agree
    | ok normal =>
      rw [http_apply_ok normalized]
      exact Request.lookup_agreeWith agree consistent attr type
  determined := by
    intro symbols request cache agree consistent attr type
    cases normalized : normalize request.attr with
    | error argument => rw [http_apply_error normalized, http_apply_error normalized]
    | ok normal =>
      rw [http_apply_ok normalized, http_apply_ok normalized,
        Request.lookup_fst agree consistent attr type,
        Request.lookup_fst symbols.agreeWith_empty consistent attr type]

end Generator

namespace Registry

/-- A registry in which every generator is one of the two built-in ones. -/
def IsBuiltIn (registry : Registry) : Prop :=
  ∀ entry ∈ registry.generators, entry.2 = Generator.standard ∨ entry.2 = Generator.http

theorem isBuiltIn_builtIn : builtIn.IsBuiltIn := by
  intro entry member
  have only : entry = (Generator.httpTag, Generator.http) := by
    simpa [builtIn, register, empty] using member
  exact .inr (congrArg Prod.snd only)

/-- The generator for a tag is one of the registered ones or the standard one. -/
theorem select_mem (registry : Registry) (tag : String) :
    registry.select tag = Generator.standard ∨
      ∃ entry ∈ registry.generators, registry.select tag = entry.2 := by
  unfold select
  cases found : registry.generators.lookup tag with
  | none => exact .inl rfl
  | some generator =>
    obtain ⟨front, back, entries, _⟩ := List.lookup_eq_some_iff.mp found
    refine .inr ⟨(tag, generator), ?_, rfl⟩
    rw [entries]
    exact List.mem_append_right _ List.mem_cons_self

/-- The generator for a tag is one of the two built-in ones. -/
theorem IsBuiltIn.select_eq {registry : Registry} (builtIn : registry.IsBuiltIn) (tag : String) :
    registry.select tag = Generator.standard ∨ registry.select tag = Generator.http := by
  rcases registry.select_mem tag with standard | ⟨entry, member, same⟩
  · exact .inl standard
  · rw [same]
    exact builtIn entry member

theorem IsBuiltIn.lawful {registry : Registry} (builtIn : registry.IsBuiltIn) :
    Generator.Lawful registry.generate := by
  have selected : ∀ tag, Generator.Lawful (registry.select tag) := by
    intro tag
    rcases builtIn.select_eq tag with standard | http
    · rw [standard]
      exact Generator.standard_lawful
    · rw [http]
      exact Generator.http_lawful
  exact {
    grows := fun request => (selected request.attr.tag).grows request
    answers := fun request => (selected request.attr.tag).answers request
    agrees := (selected _).agrees
    determined := (selected _).determined }

end Registry

end WorkerBindings
