import WorkerBindings.Proofs.Assembly.Verdict

/-!
# The bindings of an accepted function

An accepted function has no errors, so no generator refused its request: every request that was made
is answered by one binding, and the bindings stand in the order of the requests with that of the
trigger in front (`Declares`). Which requests were made is told by what the last cache knows about
the classes of the attributes.
-/

namespace WorkerBindings

theorem Output.hasErrors_join (outputs : List Output) :
    (join outputs).hasErrors = outputs.any Output.hasErrors := by
  induction outputs with
  | nil => rfl
  | cons output rest ih =>
    simp only [hasErrors, join, append_diagnostics, Diagnostic.hasErrors_append, List.any_cons]
    rw [← ih]
    rfl

namespace Registry

variable {registry : Registry} {final : SymbolCache} {request : Request}

/-- `Binds registry final request binding` says that the registry was called for the request, with
a cache that led to `final`, and returned this one binding. -/
def Binds (registry : Registry) (final : SymbolCache) (request : Request) (binding : Binding) :
    Prop :=
  ∃ output, registry.Responds final request output ∧ output.bindings = [binding]

theorem Binds.fits {binding : Binding} (binds : registry.Binds final request binding)
    (builtIn : registry.IsBuiltIn) : binding.Fits request := by
  obtain ⟨output, responds, only⟩ := binds
  cases responds.answers builtIn with
  | refused unbound errors =>
    rw [unbound] at only
    cases only
  | bound answer isOnly fits =>
    rw [isOnly] at only
    cases only
    exact fits

/-- A response without errors is a binding. -/
theorem Responds.binds {output : Output} (responds : registry.Responds final request output)
    (builtIn : registry.IsBuiltIn) (faultless : output.hasErrors = false) :
    ∃ binding, output.bindings = [binding] ∧ registry.Binds final request binding := by
  cases responds.answers builtIn with
  | refused unbound errors =>
    rw [faultless] at errors
    cases errors
  | bound binding only fits => exact ⟨binding, only, output, responds, only⟩

/-- Responses without errors answer their requests one by one. -/
theorem Responds.binds_join {requests : List Request} {outputs : List Output}
    (responds : List.Forall₂ (registry.Responds final) requests outputs)
    (builtIn : registry.IsBuiltIn) (faultless : (Output.join outputs).hasErrors = false) :
    List.Forall₂ (registry.Binds final) requests (Output.join outputs).bindings := by
  rw [Output.join_bindings]
  rw [Output.hasErrors_join, List.any_eq_false] at faultless
  induction responds with
  | nil => exact .nil
  | cons first others ih =>
    rename_i request output requests outputs
    have faultlessFirst := Bool.eq_false_iff.mpr (faultless output List.mem_cons_self)
    have faultlessOthers := fun other member => faultless other (List.mem_cons_of_mem _ member)
    obtain ⟨binding, only, binds⟩ := first.binds builtIn faultlessFirst
    rw [List.flatMap_cons, only]
    exact .cons binds (ih faultlessOthers)

end Registry

namespace Method

section Requests

variable (facts : Attribute → Capabilities) (method : Method)

/-- The requests for the attributes that bind one parameter. -/
def requestsOf (parameter : Parameter) : List Request :=
  (bindingAttributes facts parameter).map (method.parameterRequest facts parameter)

/-- The requests for all parameters, in their order. -/
def parameterRequests : List Request :=
  method.parameters.flatMap (method.requestsOf facts)

/-- The requests for triggers. -/
def triggerRequests : List Request :=
  (method.parameterRequests facts).filter fun request => request.role == .trigger

/-- The requests for inputs. -/
def inputRequests : List Request :=
  (method.parameterRequests facts).filter fun request => !(request.role == .trigger)

/-- The requests for the output attributes on the properties of the result. -/
def propertyRequests : List Request :=
  method.resultProperties.flatMap fun property =>
    targetRequests facts (method.propertyTarget property) property.attributes

/-- The requests for the output attributes on the method itself. -/
def returnRequests : List Request :=
  targetRequests facts method.returnTarget method.attributes

/-- The requests for outputs: those for properties, unless there is none. -/
def outputRequests : List Request :=
  if method.propertyRequests facts = [] then method.returnRequests facts
  else method.propertyRequests facts

/-- The requests that the bindings of an accepted function answer, in their order. -/
def requests : List Request :=
  method.triggerRequests facts ++ method.inputRequests facts ++ method.outputRequests facts

end Requests

variable {registry : Registry} {final : SymbolCache} {method : Method}

theorem ParameterYields.binds {parameter : Parameter} {output : Output}
    (yields : ParameterYields registry final method parameter output)
    (builtIn : registry.IsBuiltIn) (faultless : output.hasErrors = false) :
    (bindingAttributes final.facts parameter).length ≤ 1 ∧
      List.Forall₂ (registry.Binds final) (method.requestsOf final.facts parameter)
        output.bindings := by
  unfold requestsOf
  cases yields with
  | unbound noAttributes =>
    rw [noAttributes]
    exact ⟨Nat.zero_le 1, .nil⟩
  | bound oneAttribute responds =>
    obtain ⟨binding, only, binds⟩ := responds.binds builtIn faultless
    rw [oneAttribute, only]
    exact ⟨Nat.le_refl 1, .cons binds .nil⟩
  | crowded manyAttributes => cases faultless

theorem ParametersYield.binds {parameters : List Parameter} {output : Output}
    (yields : ParametersYield registry final method parameters output)
    (builtIn : registry.IsBuiltIn) (faultless : output.hasErrors = false) :
    (∀ parameter ∈ parameters, (bindingAttributes final.facts parameter).length ≤ 1) ∧
      List.Forall₂ (registry.Binds final) (parameters.flatMap (method.requestsOf final.facts))
        output.bindings := by
  obtain ⟨outputs, yields⟩ := yields
  rw [Output.join_bindings]
  rw [Output.hasErrors_join, List.any_eq_false] at faultless
  induction yields with
  | nil => exact ⟨by simp, .nil⟩
  | cons first others ih =>
    rename_i parameter output parameters outputs
    have faultlessFirst := Bool.eq_false_iff.mpr (faultless output List.mem_cons_self)
    have faultlessOthers := fun other member => faultless other (List.mem_cons_of_mem _ member)
    obtain ⟨single, binds⟩ := first.binds builtIn faultlessFirst
    obtain ⟨othersSingle, othersBind⟩ := ih faultlessOthers
    refine ⟨List.forall_mem_cons.mpr ⟨single, othersSingle⟩, ?_⟩
    exact List.rel_append binds othersBind

theorem TargetYields.binds {target : Target} {attributes : List Attribute} {output : Output}
    (yields : TargetYields registry final target attributes output)
    (builtIn : registry.IsBuiltIn) (faultless : output.hasErrors = false) :
    List.Forall₂ (registry.Binds final) (targetRequests final.facts target attributes)
      output.bindings := by
  obtain ⟨outputs, responds⟩ := yields
  exact Registry.Responds.binds_join responds builtIn faultless

/-- All diagnostics found at properties. -/
def PropertyOutputs.diagnostics (found : PropertyOutputs) : List Diagnostic :=
  found.loose ++ found.nested.diagnostics

/-- No error that was found at a property is lost at a later one. -/
theorem PropertiesYield.found_faultless {isCollection : Bool} {found result : PropertyOutputs}
    {properties : List ResultProperty}
    (yields : PropertiesYield registry final method isCollection found properties result)
    (faultless : Diagnostic.hasErrors result.diagnostics = false) :
    Diagnostic.hasErrors found.diagnostics = false := by
  induction yields with
  | done => exact faultless
  | bare yields unbound others ih =>
    have later := ih faultless
    simp only [PropertyOutputs.diagnostics, Diagnostic.hasErrors_append,
      Bool.or_eq_false_iff] at later ⊢
    exact ⟨later.1.1, later.2⟩
  | collection yields bound isCollectionType =>
    simp only [PropertyOutputs.diagnostics, Output.append_diagnostics,
      Diagnostic.hasErrors_append, Bool.or_eq_false_iff] at faultless ⊢
    exact ⟨faultless.1, faultless.2.1⟩
  | nested yields bound isSingle others ih =>
    have later := ih faultless
    simp only [PropertyOutputs.diagnostics, Output.append_diagnostics,
      Diagnostic.hasErrors_append, Bool.or_eq_false_iff] at later ⊢
    exact ⟨later.1, later.2.1⟩

/-- Without a binding at a property, nothing was added to what earlier properties yielded. -/
theorem PropertiesYield.nested_eq {isCollection : Bool} {found result : PropertyOutputs}
    {properties : List ResultProperty}
    (yields : PropertiesYield registry final method isCollection found properties result)
    (unbound : result.nested.bindings = []) : result.nested = found.nested := by
  induction yields with
  | done => rfl
  | bare yields unboundHere others ih => exact ih unbound
  | collection yields bound isCollectionType =>
    rw [Output.append_bindings] at unbound
    exact absurd (List.append_eq_nil_iff.mp unbound).2 bound
  | nested yields bound isSingle others ih =>
    have added := congrArg Output.bindings (ih unbound)
    rw [unbound, Output.append_bindings] at added
    exact absurd (List.append_eq_nil_iff.mp added.symm).2 bound

/-- The bindings found at properties, if there is no error and no collection stands in the way. -/
theorem PropertiesYield.binds {isCollection : Bool} {found result : PropertyOutputs}
    {properties : List ResultProperty}
    (yields : PropertiesYield registry final method isCollection found properties result)
    (builtIn : registry.IsBuiltIn) (faultless : Diagnostic.hasErrors result.diagnostics = false)
    (unrefused : result.refused = false) :
    ∃ bindings, result.nested.bindings = found.nested.bindings ++ bindings ∧
      (bindings ≠ [] → isCollection = false) ∧
      List.Forall₂ (registry.Binds final)
        (properties.flatMap fun property =>
          targetRequests final.facts (method.propertyTarget property) property.attributes)
        bindings := by
  induction yields with
  | done => exact ⟨[], by simp, by simp, .nil⟩
  | bare yields unbound others ih =>
    rename_i found result property rest output
    obtain ⟨bindings, added, isSingle, binds⟩ := ih faultless unrefused
    have faultlessHere : output.hasErrors = false := by
      have before := others.found_faultless faultless
      simp only [PropertyOutputs.diagnostics, Diagnostic.hasErrors_append,
        Bool.or_eq_false_iff] at before
      exact before.1.2
    have bindsHere := yields.binds builtIn faultlessHere
    rw [unbound] at bindsHere
    exact ⟨bindings, added, isSingle, List.rel_append bindsHere binds⟩
  | collection yields bound isCollectionType => cases unrefused
  | nested yields bound isSingle others ih =>
    rename_i found result property rest output
    obtain ⟨bindings, added, _, binds⟩ := ih faultless unrefused
    have faultlessHere : output.hasErrors = false := by
      have before := others.found_faultless faultless
      simp only [PropertyOutputs.diagnostics, Output.append_diagnostics,
        Diagnostic.hasErrors_append, Bool.or_eq_false_iff] at before
      exact before.2.2
    have bindsHere := yields.binds builtIn faultlessHere
    refine ⟨output.bindings ++ bindings, ?_, fun _ => isSingle, List.rel_append bindsHere binds⟩
    rw [added, Output.append_bindings, List.append_assoc]

/-- The outputs of a function without errors are those of its properties or its own, and never both;
properties have none if the result is a collection. -/
structure BindsOutputs (registry : Registry) (final : SymbolCache) (method : Method)
    (bindings : List Binding) : Prop where
  exclusive : method.propertyRequests final.facts ≠ [] →
    method.returnRequests final.facts = [] ∧
      ∃ shape, final.Classifies method.returnType (.ok shape) ∧ shape.isCollection = false
  binds : List.Forall₂ (registry.Binds final) (method.outputRequests final.facts) bindings

theorem OutputsYield.binds {functionName : String} {output : Output}
    (yields : OutputsYield registry final method functionName output)
    (builtIn : registry.IsBuiltIn) (faultless : output.hasErrors = false) :
    BindsOutputs registry final method output.bindings := by
  cases yields with
  | unclassified classified => simp [Output.hasErrors, Output.ofDiagnostics] at faultless
  | collection classified properties refused =>
    simp [Output.hasErrors, Output.ofDiagnostics, collectionReport, Problem.entry] at faultless
  | own classified properties unrefused unbound yields =>
    rename_i shape found own
    simp only [Output.hasErrors, Diagnostic.hasErrors_append, Bool.or_eq_false_iff] at faultless
    have noneNested : found.nested = Output.empty := properties.nested_eq unbound
    obtain ⟨bindings, added, _, binds⟩ := properties.binds builtIn
      (by simpa [PropertyOutputs.diagnostics, noneNested, Output.empty] using faultless.1) unrefused
    have noBindings : bindings = [] := by
      rw [unbound] at added
      exact added.symm
    rw [noBindings] at binds
    have noRequests : method.propertyRequests final.facts = [] :=
      List.forall₂_nil_right_iff.mp binds
    refine ⟨absurd noRequests, ?_⟩
    rw [outputRequests, if_pos noRequests]
    exact yields.binds builtIn faultless.2
  | nested classified properties unrefused bound yields =>
    rename_i shape found own
    simp only [Output.hasErrors, Diagnostic.hasErrors_append, Bool.or_eq_false_iff] at faultless
    obtain ⟨⟨propertiesFaultless, ownFaultless⟩, conclusive⟩ := faultless
    obtain ⟨bindings, added, isSingle, binds⟩ := properties.binds builtIn
      (by simpa [PropertyOutputs.diagnostics] using propertiesFaultless) unrefused
    have sameBindings : found.nested.bindings = bindings := added
    rw [sameBindings] at bound ⊢
    have ownUnbound : own.bindings = [] := by
      by_contra ownBound
      simp [List.isEmpty_iff, ownBound, inconclusiveReport, Problem.entry] at conclusive
    have ownBinds := yields.binds builtIn ownFaultless
    rw [ownUnbound] at ownBinds
    have noOwn : method.returnRequests final.facts = [] := List.forall₂_nil_right_iff.mp ownBinds
    have someNested : method.propertyRequests final.facts ≠ [] := by
      intro none
      rw [propertyRequests] at none
      rw [none] at binds
      exact bound (List.forall₂_nil_left_iff.mp binds)
    refine ⟨fun _ => ⟨noOwn, shape, classified, isSingle bound⟩, ?_⟩
    rw [outputRequests, if_neg someNested]
    exact binds

/-- What the bindings of a declaration answer, told from the cache that its run ended with. -/
structure Declares (registry : Registry) (final : SymbolCache) (method : Method)
    (declaration : Declaration) : Prop where
  /-- No parameter has two attributes that bind it. -/
  atMostOne : ∀ parameter ∈ method.parameters,
    (bindingAttributes final.facts parameter).length ≤ 1
  oneTrigger : ∃ request, method.triggerRequests final.facts = [request]
  exclusive : method.propertyRequests final.facts ≠ [] →
    method.returnRequests final.facts = [] ∧
      ∃ shape, final.Classifies method.returnType (.ok shape) ∧ shape.isCollection = false
  binds : List.Forall₂ (registry.Binds final) (method.requests final.facts) declaration.bindings

/-- The answers to the requests for parameters, with that of the trigger in front. -/
theorem partition_binds {requests : List Request} {bindings : List Binding}
    (binds : List.Forall₂ (registry.Binds final) requests bindings)
    (builtIn : registry.IsBuiltIn) :
    List.Forall₂ (registry.Binds final)
        (requests.filter fun request => request.role == .trigger) (bindings.filter isTrigger) ∧
      List.Forall₂ (registry.Binds final)
        (requests.filter fun request => !(request.role == .trigger))
        (bindings.filter fun binding => !isTrigger binding) := by
  have sameRole : ∀ ⦃request⦄ ⦃binding⦄, registry.Binds final request binding →
      (request.role == .trigger) = isTrigger binding := by
    intro request binding bindsOne
    rw [isTrigger, (bindsOne.fits builtIn).role]
  constructor
  · exact List.rel_filter (fun _ _ bindsOne => by simp only [sameRole bindsOne]) binds
  · exact List.rel_filter (fun _ _ bindsOne => by simp only [sameRole bindsOne]) binds

theorem Validated.declares {functionName : String} {parameters outputs : Output}
    {outcome : Outcome} {declaration : Declaration}
    (validated : Validated method functionName parameters outputs outcome)
    (parametersYield : ParametersYield registry final method method.parameters parameters)
    (outputsYield : OutputsYield registry final method functionName outputs)
    (builtIn : registry.IsBuiltIn) (accepted : outcome.declaration = some declaration) :
    Declares registry final method declaration := by
  cases validated with
  | refused reports errors => cases accepted
  | passed faultless oneTrigger resolved =>
    cases accepted
    simp only [Diagnostic.hasErrors_append, Bool.or_eq_false_iff] at faultless
    obtain ⟨atMostOne, parametersBind⟩ := parametersYield.binds builtIn faultless.1
    obtain ⟨triggersBind, inputsBind⟩ := partition_binds parametersBind builtIn
    have outputsBind := outputsYield.binds builtIn faultless.2
    refine ⟨atMostOne, ?_, outputsBind.exclusive, ?_⟩
    · rw [oneTrigger] at triggersBind
      obtain ⟨request, requests, _, others, same⟩ := List.forall₂_cons_right_iff.mp triggersBind
      rw [List.forall₂_nil_right_iff.mp others] at same
      exact ⟨request, same⟩
    · exact List.rel_append (List.rel_append triggersBind inputsBind) outputsBind.binds

/-- The bindings of an accepted function are exactly the answers to its requests. -/
theorem Assembled.declares {outcome : Outcome} {declaration : Declaration}
    (assembled : Assembled registry final method (some outcome)) (builtIn : registry.IsBuiltIn)
    (accepted : outcome.declaration = some declaration) :
    Declares registry final method declaration := by
  generalize result : some outcome = ended at assembled
  cases assembled with
  | skipped named => cases result
  | unnamed named =>
    cases result
    cases accepted
  | asyncVoid named parametersYield isAsyncVoid =>
    cases result
    cases accepted
  | validated named parametersYield notAsyncVoid outputsYield =>
    cases result
    exact (validate_validated method _ _ _).declares parametersYield outputsYield builtIn accepted

end Method

end WorkerBindings
