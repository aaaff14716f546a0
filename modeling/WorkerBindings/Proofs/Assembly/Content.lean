import WorkerBindings.Proofs.Assembly.Bindings
import WorkerBindings.Proofs.Assembly.Interruption
import WorkerBindings.Proofs.Assembly.Steadiness

/-!
# The content of an accepted declaration

What an accepted declaration holds, told from the symbols of its method alone: which attributes
have become bindings, in which order, and that nothing else has. It is assumed that the symbols are
consistent and that the cache does not contradict them; a cache that answers for a class of the
same name with the capabilities of another one would be believed.
-/

namespace WorkerBindings

namespace Attribute

/-- The attribute makes its parameter the trigger: it is a binding, but neither an input nor an
output. -/
def isTrigger (attr : Attribute) : Bool :=
  attr.capabilities.isBinding && !attr.capabilities.isInput && !attr.capabilities.isOutput

/-- The attribute makes its parameter an input, which an output never does. -/
def isInput (attr : Attribute) : Bool :=
  attr.capabilities.isInput && !attr.capabilities.isOutput

/-- The base class of inputs is one of those that make a class a binding. -/
theorem isBinding_of_isInput {attr : Attribute} (isInput : attr.capabilities.isInput = true) :
    attr.capabilities.isBinding = true := by
  have inherits : attr.inheritsFrom Names.inputBase = true := isInput
  simp [capabilities, inherits]

theorem bindsParameter_capabilities (attr : Attribute) :
    Method.bindsParameter attr.capabilities = (attr.isTrigger || attr.isInput) := by
  unfold Method.bindsParameter isTrigger isInput
  cases input : attr.capabilities.isInput with
  | false => simp
  | true => simp [isBinding_of_isInput input]

end Attribute

/-- `Answers registry request binding` says that a fresh call of the registry for the request
returns this one binding, which has the name and the role of the request. -/
structure Registry.Answers (registry : Registry) (request : Request) (binding : Binding) :
    Prop where
  only : (registry.generate request SymbolCache.empty).1.bindings = [binding]
  fits : binding.Fits request

namespace Method

variable {registry : Registry} {final : SymbolCache} {method : Method}

/-- The attributes that make a parameter the trigger, as requests. -/
def statedTriggers (method : Method) : List Request :=
  method.parameters.flatMap fun parameter =>
    (parameter.attributes.filter Attribute.isTrigger).map fun attr =>
      ⟨attr, .trigger, method.parameterTarget parameter⟩

/-- The attributes that make a parameter an input, as requests. -/
def statedInputs (method : Method) : List Request :=
  method.parameters.flatMap fun parameter =>
    (parameter.attributes.filter Attribute.isInput).map fun attr =>
      ⟨attr, .input, method.parameterTarget parameter⟩

/-- The output attributes on the properties of the result, as requests. -/
def statedPropertyOutputs (method : Method) : List Request :=
  method.resultProperties.flatMap fun property =>
    (property.attributes.filter fun attr => attr.capabilities.isOutput).map fun attr =>
      ⟨attr, .output, method.propertyTarget property⟩

/-- The output attributes on the method itself, as requests. -/
def statedReturnOutputs (method : Method) : List Request :=
  (method.attributes.filter fun attr => attr.capabilities.isOutput).map fun attr =>
    ⟨attr, .output, method.returnTarget⟩

/-- The outputs of the method: those on properties, unless there is none. -/
def statedOutputs (method : Method) : List Request :=
  if method.statedPropertyOutputs = [] then method.statedReturnOutputs
  else method.statedPropertyOutputs

/-- The requests of a parameter that have one role are those for the attributes that pass a test, if
exactly these have the role. -/
theorem filter_requestsOf (keeps : Role → Bool) {role : Role} {test : Attribute → Bool}
    (parameter : Parameter)
    (selects : ∀ attr, test attr = (bindsParameter attr.capabilities &&
      keeps (method.parameterRequest Attribute.capabilities parameter attr).role))
    (roleOf : ∀ attr, test attr = true →
      (method.parameterRequest Attribute.capabilities parameter attr).role = role) :
    ((method.requestsOf Attribute.capabilities parameter).filter fun request =>
        keeps request.role) =
      (parameter.attributes.filter test).map fun attr =>
        ⟨attr, role, method.parameterTarget parameter⟩ := by
  have sameTest : test = fun attr => keeps (method.parameterRequest Attribute.capabilities
      parameter attr).role && bindsParameter attr.capabilities := by
    funext attr
    rw [selects attr, Bool.and_comm]
  rw [requestsOf, bindingAttributes, List.filter_map, List.filter_filter]
  simp only [Function.comp_def]
  rw [← sameTest]
  refine List.map_congr_left fun attr member => ?_
  rw [← roleOf attr (List.mem_filter.mp member).2]
  rfl

theorem triggerRequests_capabilities (method : Method) :
    method.triggerRequests Attribute.capabilities = method.statedTriggers := by
  unfold triggerRequests parameterRequests statedTriggers
  rw [List.filter_flatMap]
  refine List.flatMap_congr fun parameter _ => ?_
  refine filter_requestsOf (fun role => role == .trigger) parameter ?_ ?_
  · intro attr
    rw [Attribute.bindsParameter_capabilities]
    cases input : attr.capabilities.isInput <;>
      simp [parameterRequest, Attribute.isTrigger, Attribute.isInput, input]
  · intro attr isTrigger
    have notInput : attr.capabilities.isInput = false := by
      cases input : attr.capabilities.isInput <;> simp [Attribute.isTrigger, input] at isTrigger ⊢
    simp [parameterRequest, notInput]

theorem inputRequests_capabilities (method : Method) :
    method.inputRequests Attribute.capabilities = method.statedInputs := by
  unfold inputRequests parameterRequests statedInputs
  rw [List.filter_flatMap]
  refine List.flatMap_congr fun parameter _ => ?_
  refine filter_requestsOf (fun role => !(role == .trigger)) parameter ?_ ?_
  · intro attr
    rw [Attribute.bindsParameter_capabilities]
    cases input : attr.capabilities.isInput <;>
      simp [parameterRequest, Attribute.isTrigger, Attribute.isInput, input]
  · intro attr isInput
    have input : attr.capabilities.isInput = true := by
      cases input : attr.capabilities.isInput <;> simp [Attribute.isInput, input] at isInput ⊢
    simp [parameterRequest, input]

section Congruence

variable {first second : Attribute → Capabilities}

theorem bindingAttributes_congr
    (same : ∀ attr ∈ method.symbols.attributes, first attr = second attr)
    {parameter : Parameter} (member : parameter ∈ method.parameters) :
    bindingAttributes first parameter = bindingAttributes second parameter := by
  refine List.filter_congr fun attr attrMember => ?_
  rw [same attr (parameterAttributes_subset member attrMember)]

theorem parameterRequests_congr
    (same : ∀ attr ∈ method.symbols.attributes, first attr = second attr) :
    method.parameterRequests first = method.parameterRequests second := by
  refine List.flatMap_congr fun parameter member => ?_
  rw [requestsOf, requestsOf, bindingAttributes_congr same member]
  refine List.map_congr_left fun attr selected => ?_
  have attrMember : attr ∈ parameter.attributes := (List.mem_filter.mp selected).1
  rw [parameterRequest, parameterRequest, same attr (parameterAttributes_subset member attrMember)]

theorem targetRequests_congr {target : Target} {attributes : List Attribute}
    (same : ∀ attr ∈ attributes, first attr = second attr) :
    targetRequests first target attributes = targetRequests second target attributes := by
  unfold targetRequests
  congr 1
  refine List.filter_congr fun attr member => ?_
  rw [same attr member]

theorem propertyRequests_congr
    (same : ∀ attr ∈ method.symbols.attributes, first attr = second attr) :
    method.propertyRequests first = method.propertyRequests second := by
  refine List.flatMap_congr fun property member => targetRequests_congr fun attr attrMember => ?_
  exact same attr (propertyAttributes_subset member attrMember)

theorem returnRequests_congr
    (same : ∀ attr ∈ method.symbols.attributes, first attr = second attr) :
    method.returnRequests first = method.returnRequests second :=
  targetRequests_congr fun attr member => same attr (attributes_subset member)

end Congruence

theorem parameterRequests_inside {facts : Attribute → Capabilities} {request : Request}
    (member : request ∈ method.parameterRequests facts) :
    request.attr ∈ method.symbols.attributes ∧ request.target.type ∈ method.symbols.types := by
  obtain ⟨parameter, parameterMember, requested⟩ := List.mem_flatMap.mp member
  obtain ⟨attr, selected, rfl⟩ := List.mem_map.mp requested
  have attrMember : attr ∈ parameter.attributes := (List.mem_filter.mp selected).1
  exact ⟨parameterAttributes_subset parameterMember attrMember, parameterType_mem parameterMember⟩

theorem targetRequests_inside {facts : Attribute → Capabilities} {target : Target}
    {attributes : List Attribute} {request : Request}
    (member : request ∈ targetRequests facts target attributes) :
    request.attr ∈ attributes ∧ request.target = target := by
  obtain ⟨attr, selected, rfl⟩ := List.mem_map.mp member
  exact ⟨(List.mem_filter.mp selected).1, rfl⟩

theorem outputRequests_inside {facts : Attribute → Capabilities} {request : Request}
    (member : request ∈ method.outputRequests facts) :
    request.attr ∈ method.symbols.attributes ∧ request.target.type ∈ method.symbols.types := by
  unfold outputRequests at member
  split at member
  · obtain ⟨attrMember, target⟩ := targetRequests_inside member
    rw [target]
    exact ⟨attributes_subset attrMember, returnType_mem⟩
  · obtain ⟨property, propertyMember, requested⟩ := List.mem_flatMap.mp member
    obtain ⟨attrMember, target⟩ := targetRequests_inside requested
    rw [target]
    exact ⟨propertyAttributes_subset propertyMember attrMember, propertyType_mem propertyMember⟩

theorem requests_inside {facts : Attribute → Capabilities} {request : Request}
    (member : request ∈ method.requests facts) :
    request.attr ∈ method.symbols.attributes ∧ request.target.type ∈ method.symbols.types := by
  rcases List.mem_append.mp member with ofParameter | ofOutput
  · rcases List.mem_append.mp ofParameter with trigger | input
    · exact parameterRequests_inside (List.mem_filter.mp trigger).1
    · exact parameterRequests_inside (List.mem_filter.mp input).1
  · exact outputRequests_inside ofOutput

/-- The exact content of a declaration. -/
structure Content (method : Method) (registry : Registry) (declaration : Declaration) : Prop where
  /-- No parameter has two attributes that bind it. -/
  atMostOne : ∀ parameter ∈ method.parameters,
    (parameter.attributes.filter fun attr => attr.isTrigger || attr.isInput).length ≤ 1
  oneTrigger : ∃ request, method.statedTriggers = [request]
  exclusive : method.statedPropertyOutputs ≠ [] → method.statedReturnOutputs = [] ∧
    ∃ shape, method.returnType.shape = .ok shape ∧ shape.isCollection = false
  answers : List.Forall₂ registry.Answers
    (method.statedTriggers ++ method.statedInputs ++ method.statedOutputs) declaration.bindings

/-- If the last cache agrees with the symbols of the method, what was answered during the run is
what the symbols say. -/
theorem Declares.content {declaration : Declaration}
    (declares : Declares registry final method declaration) (builtIn : registry.IsBuiltIn)
    (consistent : method.symbols.Consistent) (agree : method.symbols.AgreeWith final) :
    method.Content registry declaration := by
  have same : ∀ attr ∈ method.symbols.attributes, final.facts attr = attr.capabilities :=
    fun attr member => agree.facts_eq member
  have sameParameters := parameterRequests_congr same
  have sameTriggers : method.triggerRequests final.facts = method.statedTriggers := by
    rw [← triggerRequests_capabilities, triggerRequests, triggerRequests, sameParameters]
  have sameInputs : method.inputRequests final.facts = method.statedInputs := by
    rw [← inputRequests_capabilities, inputRequests, inputRequests, sameParameters]
  have sameProperties : method.propertyRequests final.facts = method.statedPropertyOutputs :=
    propertyRequests_congr same
  have sameReturn : method.returnRequests final.facts = method.statedReturnOutputs :=
    returnRequests_congr same
  have sameOutputs : method.outputRequests final.facts = method.statedOutputs := by
    rw [outputRequests, sameProperties, sameReturn, statedOutputs]
  have binds := declares.binds
  constructor
  · intro parameter member
    have single := declares.atMostOne parameter member
    rw [bindingAttributes_congr same member] at single
    simpa only [bindingAttributes, Attribute.bindsParameter_capabilities] using single
  · rw [← sameTriggers]
    exact declares.oneTrigger
  · rw [← sameProperties, ← sameReturn]
    intro someNested
    obtain ⟨noOwn, shape, classified, single⟩ := declares.exclusive someNested
    exact ⟨noOwn, shape, (agree.shape_of_classifies returnType_mem classified).symm, single⟩
  · rw [← sameTriggers, ← sameInputs, ← sameOutputs]
    have insideAndBinds := (List.forall₂_and_left _ _).mpr
      ⟨fun request member => requests_inside member, binds⟩
    refine insideAndBinds.imp ?_
    rintro request binding ⟨⟨attr, type⟩, bindsOne⟩
    refine ⟨?_, bindsOne.fits builtIn⟩
    obtain ⟨output, responds, only⟩ := bindsOne
    rw [← responds.eq_fresh builtIn agree consistent attr type]
    exact only

/-- The declaration of an accepted function holds one binding for its trigger, then one for each of
its inputs, then one for each output attribute, and no other. -/
theorem assemble_content (builtIn : registry.IsBuiltIn) (consistent : method.symbols.Consistent)
    {interruption : Interruption} {session after : Session}
    (agree : method.symbols.AgreeWith session.cache) {outcome : Outcome}
    {declaration : Declaration}
    (ran : method.assemble registry interruption session = (.ok (some outcome), after))
    (accepted : outcome.declaration = some declaration) :
    method.Content registry declaration := by
  have ranCalm := assemble_completed ran
  have uncancelled : session.calm.cancelled = false := rfl
  obtain ⟨result, last, ranTo, _, _, assembled⟩ := assemble_assembled builtIn method uncancelled
  obtain ⟨value, steady⟩ := assemble_steady builtIn consistent (.refl method.symbols)
  obtain ⟨final, ranSteady, _, agreeFinal⟩ := steady session.calm uncancelled agree
  rw [ranCalm] at ranTo ranSteady
  cases ranTo
  cases ranSteady
  exact (assembled.declares builtIn accepted).content builtIn consistent agreeFinal

/-- The relay has two bindings: its trigger, then its result. -/
theorem assemble_content_relay :
    Registry.builtIn.IsBuiltIn ∧ relay.symbols.Consistent ∧
      relay.symbols.AgreeWith SymbolCache.empty ∧ ∃ outcome after declaration,
        relay.assemble .builtIn .never (Session.ofCache .empty) = (.ok (some outcome), after) ∧
          outcome.declaration = some declaration ∧ relay.Content .builtIn declaration ∧
            declaration.bindings.map (·.name) = ["message", "$return"] := by
  have consistent : relay.symbols.Consistent := by
    constructor
    · decide +kernel
    · decide +kernel
  have agree := relay.symbols.agreeWith_empty
  have names : ((relay.assemble .builtIn .never (Session.ofCache .empty)).1.toOption.join.bind
      Outcome.declaration).map (fun declaration => declaration.bindings.map (·.name)) =
        some ["message", "$return"] := by
    decide +kernel
  refine ⟨Registry.isBuiltIn_builtIn, consistent, agree, ?_⟩
  generalize ran : relay.assemble .builtIn .never (Session.ofCache .empty) = run at names ⊢
  obtain ⟨result, after⟩ := run
  obtain ⟨declaration, found, sameNames⟩ := Option.map_eq_some_iff.mp names
  obtain ⟨outcome, completed, accepted⟩ := Option.bind_eq_some_iff.mp found
  cases result with
  | error reason => cases completed
  | ok value =>
    simp only [Except.toOption, Option.join_some] at completed
    subst completed
    exact ⟨outcome, after, declaration, rfl, accepted,
      assemble_content Registry.isBuiltIn_builtIn consistent agree ran accepted, sameNames⟩

end Method

end WorkerBindings
