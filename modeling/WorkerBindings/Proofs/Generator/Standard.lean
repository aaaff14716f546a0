import WorkerBindings.Proofs.Classification.Batches
import WorkerBindings.Proofs.Generator.Entries
import WorkerBindings.Proofs.Generator.Outputs

/-!
# The standard generator from end to end

What the standard generator returns for any request and any cache. It returns the one binding that
the request describes (`Binding.IsStandard`), or no binding and an error, and the latter exactly in
three cases (`Request.Unbound`): the target has no shape, something awaitable stands where a value
has to come in, or the items of a batch have no type of their own. The arguments decide over the
entries and over nothing else.
-/

namespace WorkerBindings

namespace Request

/-- What the cache is asked, in one answer. -/
theorem lookup_answers (request : Request) (cache : SymbolCache) :
    (request.lookup cache).1 =
      (cache.facts request.attr, cache.shapeOf request.target.type) := by
  have capabilities : (request.lookup cache).1.1 =
      (SymbolCache.capabilitiesOf request.attr cache).1 := rfl
  have classified : (request.lookup cache).1.2 =
      (SymbolCache.classify request.target.type
        (SymbolCache.capabilitiesOf request.attr cache).2).1 := rfl
  refine Prod.ext ?_ ?_
  · rw [capabilities, SymbolCache.capabilitiesOf_fst]
  · rw [classified, SymbolCache.classify_fst, SymbolCache.shapeOf_capabilitiesOf]

/-- The three cases without a binding. -/
inductive Unbound (request : Request) (cache : SymbolCache) : Prop where
  | shapeless {reason : ShapeError}
      (unclassified : cache.shapeOf request.target.type = .error reason)
  | awaitable {shape : Shape} (classified : cache.shapeOf request.target.type = .ok shape)
      (comesIn : request.role ≠ .output) (awaited : shape.isAwaitable = true)
  | itemless {shape : Shape} (classified : cache.shapeOf request.target.type = .ok shape)
      (batched : request.isBatched (cache.facts request.attr) = true)
      (noElement : ∀ element, ¬ request.target.type.IsBatchedElement shape element)

end Request

/-- `IsHinted request capabilities shape hint` says which hint the binding of a request has: that of
an item if it is batched, else that of its type without an awaitable wrapper. -/
inductive Request.IsHinted (request : Request) (capabilities : Capabilities) (shape : Shape) :
    PayloadHint → Prop where
  | ofItem {element : DeclaredType} (batched : request.isBatched capabilities = true)
      (isElement : request.target.type.IsBatchedElement shape element) :
      IsHinted request capabilities shape (PayloadHint.ofTypeName element.name)
  | ofWhole (single : request.isBatched capabilities = false) :
      IsHinted request capabilities shape (PayloadHint.ofTypeName shape.rawType)

/-- The binding that a request describes, for a class with some capabilities and a target with some
shape. -/
structure Binding.IsStandard (binding : Binding) (request : Request) (capabilities : Capabilities)
    (shape : Shape) : Prop where
  name : binding.name = request.target.name
  role : binding.role = request.role
  declaredType : binding.declaredType = shape
  retrySupported : binding.retrySupported = capabilities.supportsRetry
  hint : request.IsHinted capabilities shape binding.hint
  isParsable : binding.isParsable = true ↔ binding.hint ≠ .undefined
  /-- First the entries of the request, whatever its arguments are called, then those that the
  arguments state. -/
  entries : binding.properties.entries =
    request.ownEntries ++ request.statedEntries capabilities
  distinct : binding.properties.keys.Nodup
  /-- Where batches are allowed, nothing is left of the argument that asks for them. -/
  notBatched : capabilities.supportsCardinality = true →
    binding.properties.get? Generator.batchedKey = none
  /-- Where batches are allowed, a binding is for many items or for one. -/
  cardinality : capabilities.supportsCardinality = true →
    binding.properties.get? Generator.cardinalityKey = some "Many" ∨
      binding.properties.get? Generator.cardinalityKey = some "One"
  /-- It is for many exactly if the last `isBatched` is `true` in any case. -/
  many : capabilities.supportsCardinality = true →
    (binding.properties.get? Generator.cardinalityKey = some "Many" ↔ ∃ text,
      request.attr.stated? Generator.batchedKey = some text ∧
        Text.sameIgnoringCase text "true" = true)

namespace Generator

variable {request : Request} {capabilities : Capabilities} {shape : Shape}

theorem payloadHint_eq_ok_iff {batched : Bool} {hint : PayloadHint} :
    payloadHint request batched shape = .ok hint ↔
      (batched = true ∧ ∃ element, request.target.type.IsBatchedElement shape element ∧
        hint = PayloadHint.ofTypeName element.name) ∨
      (batched = false ∧ hint = PayloadHint.ofTypeName shape.rawType) := by
  cases batched with
  | false => simp [payloadHint, Shape.hint, eq_comm]
  | true =>
    simp only [payloadHint, ← DeclaredType.batchedElement_eq_ok_iff]
    cases request.target.type.batchedElement shape <;> simp [Except.map, eq_comm]

theorem payloadHint_isHinted {hint : PayloadHint}
    (hinted : payloadHint request (request.isBatched capabilities) shape = .ok hint) :
    request.IsHinted capabilities shape hint := by
  obtain ⟨batched, element, isElement, rfl⟩ | ⟨single, rfl⟩ := payloadHint_eq_ok_iff.mp hinted
  · exact .ofItem batched isElement
  · exact .ofWhole single

/-- A binding exactly if the type can come in and has a hint. -/
theorem bindingOf_eq_ok_iff {made : Draft} {binding : Binding} :
    bindingOf request capabilities made shape = .ok binding ↔
      (request.role = .output ∨ shape.isAwaitable = false) ∧
      ∃ hint, payloadHint request made.batched shape = .ok hint ∧ binding = {
        name := request.target.name
        role := request.role
        declaredType := shape
        hint
        retrySupported := capabilities.supportsRetry
        isParsable := hint ≠ .undefined
        properties := made.entries } := by
  unfold bindingOf
  split
  · rename_i refused
    refine iff_of_false (by simp) fun accepted => ?_
    rcases accepted.1 with isOutput | present
    · exact refused.1 isOutput
    · rw [present] at refused
      cases refused.2
  · rename_i accepted
    have comesIn : request.role = .output ∨ shape.isAwaitable = false := by
      by_cases isOutput : request.role = .output
      · exact .inl isOutput
      · exact .inr (Bool.eq_false_iff.mpr fun awaited => accepted ⟨isOutput, awaited⟩)
    rw [and_iff_right comesIn]
    cases payloadHint request made.batched shape <;> simp [eq_comm]

theorem bindingOf_isStandard {binding : Binding}
    (bound : bindingOf request capabilities (draft request capabilities) shape = .ok binding) :
    binding.IsStandard request capabilities shape := by
  obtain ⟨_, hint, hinted, rfl⟩ := bindingOf_eq_ok_iff.mp bound
  obtain ⟨entries, batched, _⟩ := draft_eq request capabilities
  rw [batched] at hinted
  have found (allowed : capabilities.supportsCardinality = true) :
      (draft request capabilities).entries.get? batchedKey = none ∧
        (draft request capabilities).entries.get? cardinalityKey =
          some (if request.isBatched capabilities then "Many" else "One") := by
    rw [Properties.get?, Properties.get?, entries]
    exact lookup_withCardinality allowed
  exact {
    name := rfl
    role := rfl
    declaredType := rfl
    retrySupported := rfl
    hint := payloadHint_isHinted hinted
    isParsable := by simp
    entries
    distinct := (draft request capabilities).entries.distinct
    notBatched := fun allowed => (found allowed).1
    cardinality := fun allowed => by
      rw [(found allowed).2]
      cases request.isBatched capabilities <;> simp
    many := fun allowed => by
      have batchedIff : request.isBatched capabilities = true ↔ _ := isBatched_iff
      rw [and_iff_right allowed] at batchedIff
      rw [(found allowed).2, ← batchedIff]
      cases request.isBatched capabilities <;> simp }

/-- With a shape, there is a binding unless one of the other two cases applies. -/
theorem exists_bindingOf_iff {cache : SymbolCache}
    (classified : cache.shapeOf request.target.type = .ok shape) :
    (∃ binding, bindingOf request (cache.facts request.attr)
        (draft request (cache.facts request.attr)) shape = .ok binding) ↔
      ¬ request.Unbound cache := by
  obtain ⟨_, batchedEq, _⟩ := draft_eq request (cache.facts request.attr)
  constructor
  · rintro ⟨binding, bound⟩ unbound
    obtain ⟨comesIn, hint, hinted, _⟩ := bindingOf_eq_ok_iff.mp bound
    rw [batchedEq] at hinted
    cases unbound with
    | shapeless unclassified => cases classified.symm.trans unclassified
    | awaitable classifiedAs notOutput awaited =>
      cases classified.symm.trans classifiedAs
      rcases comesIn with isOutput | present
      · exact notOutput isOutput
      · cases awaited.symm.trans present
    | itemless classifiedAs batched noElement =>
      cases classified.symm.trans classifiedAs
      obtain ⟨_, element, isElement, _⟩ | ⟨single, _⟩ := payloadHint_eq_ok_iff.mp hinted
      · exact noElement element isElement
      · cases batched.symm.trans single
  · intro bound
    have comesIn : request.role = .output ∨ shape.isAwaitable = false := by
      by_contra awaited
      obtain ⟨notOutput, awaited⟩ := not_or.mp awaited
      exact bound (.awaitable classified notOutput (Bool.not_eq_false _ ▸ awaited))
    have hinted : ∃ hint, payloadHint request (request.isBatched (cache.facts request.attr)) shape =
        .ok hint := by
      cases batched : request.isBatched (cache.facts request.attr) with
      | false => exact ⟨_, payloadHint_eq_ok_iff.mpr (.inr ⟨rfl, rfl⟩)⟩
      | true =>
        by_contra unhinted
        refine bound (.itemless classified batched fun element isElement => unhinted ?_)
        exact ⟨_, payloadHint_eq_ok_iff.mpr (.inl ⟨rfl, element, isElement, rfl⟩)⟩
    obtain ⟨hint, hinted⟩ := hinted
    rw [← batchedEq] at hinted
    exact ⟨_, bindingOf_eq_ok_iff.mpr ⟨comesIn, hint, hinted, rfl⟩⟩

/-- How the standard generator answers: with the binding that the request describes, or with no
binding and one more report, which is an error. -/
inductive Answered (request : Request) (cache : SymbolCache) (output : Output) : Prop where
  | bound {binding : Binding} {shape : Shape} (bound : ¬ request.Unbound cache)
      (classified : cache.shapeOf request.target.type = .ok shape)
      (standard : binding.IsStandard request (cache.facts request.attr) shape)
      (only : output.bindings = [binding])
      (reports : output.diagnostics = request.argumentReports (cache.facts request.attr))
  | unbound {report : Diagnostic} (unbound : request.Unbound cache)
      (none : output.bindings = []) (isError : report.isError = true)
      (reports : output.diagnostics =
        request.argumentReports (cache.facts request.attr) ++ [report])

theorem standard_answered (request : Request) (cache : SymbolCache) :
    Answered request cache (standard request cache).1 := by
  obtain ⟨_, _, reports⟩ := draft_eq request (cache.facts request.attr)
  have returned : (standard request cache).1 =
      finish request (cache.facts request.attr) (cache.shapeOf request.target.type) := by
    rw [standard_apply, request.lookup_answers cache]
  rw [returned]
  unfold finish
  cases classified : cache.shapeOf request.target.type with
  | error reason =>
    exact .unbound (.shapeless classified) rfl (reason.isError_diagnostic _)
      (congrArg (· ++ _) reports)
  | ok shape =>
    cases bound : bindingOf request (cache.facts request.attr)
        (draft request (cache.facts request.attr)) shape with
    | ok binding =>
      have notUnbound := (exists_bindingOf_iff classified).mp ⟨binding, bound⟩
      simp only [bound]
      exact .bound notUnbound classified (bindingOf_isStandard bound) rfl reports
    | error report =>
      have unbound : request.Unbound cache := by
        by_contra notUnbound
        obtain ⟨binding, isBound⟩ := (exists_bindingOf_iff classified).mpr notUnbound
        cases bound.symm.trans isBound
      simp only [bound]
      exact .unbound unbound rfl (bindingOf_isError bound) (congrArg (· ++ [report]) reports)

theorem standard_bindings_eq_nil_iff {request : Request} {cache : SymbolCache} :
    (standard request cache).1.bindings = [] ↔ request.Unbound cache := by
  cases standard_answered request cache with
  | bound bound _ _ only =>
    rw [only]
    exact iff_of_false (List.cons_ne_nil _ _) bound
  | unbound unbound none => exact iff_of_true none unbound

/-- The standard generator returns the binding that the request describes, or no binding and an
error; it returns none in three cases and no other. What the cache answers is true of the class and
the type of the request, unless the cache keeps something else under their names. -/
theorem standard_binds (request : Request) (cache : SymbolCache) :
    ((∃ binding shape, (standard request cache).1.bindings = [binding] ∧
          (standard request cache).1.diagnostics =
            request.argumentReports (cache.facts request.attr) ∧
          cache.shapeOf request.target.type = .ok shape ∧
          binding.IsStandard request (cache.facts request.attr) shape) ∨
        ((standard request cache).1.bindings = [] ∧ ∃ report, report.isError = true ∧
          (standard request cache).1.diagnostics =
            request.argumentReports (cache.facts request.attr) ++ [report])) ∧
      ((standard request cache).1.bindings = [] ↔ request.Unbound cache) ∧
      ∀ symbols : Symbols, symbols.AgreeWith cache → request.attr ∈ symbols.attributes →
        request.target.type ∈ symbols.types →
        cache.facts request.attr = request.attr.capabilities ∧
          cache.shapeOf request.target.type = request.target.type.shape := by
  refine ⟨?_, standard_bindings_eq_nil_iff, fun symbols agree attr type => ?_⟩
  · cases standard_answered request cache with
    | bound _ classified standard only reports =>
      exact .inl ⟨_, _, only, reports, classified, standard⟩
    | unbound _ none isError reports => exact .inr ⟨none, _, isError, reports⟩
  · exact ⟨agree.facts_eq attr, by rw [← SymbolCache.classify_fst, agree.classify_fst type]⟩

end Generator

end WorkerBindings
