import WorkerBindings.Proofs.Assembly.Bindings

/-!
# Names of bindings

A host wants the bindings of a function to have different names. Bindings are named after the
parameters and properties that they stand on, so names clash only where one of these carries several
outputs, or where a parameter is called as the result is.
-/

namespace WorkerBindings

/-- Names that are repeated by a count are distinct exactly if no count exceeds one. -/
theorem nodup_flatMap_replicate {α : Type} (count : α → Nat) (name : α → String) {items : List α}
    (distinct : (items.map name).Nodup) :
    (items.flatMap fun item => List.replicate (count item) (name item)).Nodup ↔
      ∀ item ∈ items, count item ≤ 1 := by
  induction items with
  | nil => simp
  | cons item rest ih =>
    obtain ⟨fresh, distinctRest⟩ := List.nodup_cons.mp distinct
    have apart : ∀ first ∈ List.replicate (count item) (name item),
        ∀ second ∈ rest.flatMap fun item => List.replicate (count item) (name item),
          first ≠ second := by
      rintro first firstMem second secondMem rfl
      obtain ⟨other, otherMem, inside⟩ := List.mem_flatMap.mp secondMem
      rw [List.mem_replicate] at firstMem inside
      exact fresh (List.mem_map.mpr ⟨other, otherMem, inside.2.symm.trans firstMem.2⟩)
    rw [List.flatMap_cons, List.nodup_append, List.nodup_replicate, ih distinctRest,
      List.forall_mem_cons]
    constructor
    · rintro ⟨single, others, _⟩
      exact ⟨single, others⟩
    · rintro ⟨single, others⟩
      exact ⟨single, others, apart⟩

namespace Method

variable {facts : Attribute → Capabilities} {method : Method}

/-- The parameters and the properties of the result all have different names. -/
def DistinctNames (method : Method) : Prop :=
  (method.parameters.map (·.name) ++ method.resultProperties.map (·.name)).Nodup

/-- The number of attributes that are output bindings. -/
def outputCount (facts : Attribute → Capabilities) (attributes : List Attribute) : Nat :=
  (attributes.filter fun attr => (facts attr).isOutput).length

/-- Nothing carries two output bindings, and an output binding of the method itself does not share
its name with a parameter that is bound. -/
structure SingleOutputs (facts : Attribute → Capabilities) (method : Method) : Prop where
  properties : ∀ property ∈ method.resultProperties, outputCount facts property.attributes ≤ 1
  own : outputCount facts method.attributes ≤ 1
  unshared : outputCount facts method.attributes ≠ 0 → ∀ parameter ∈ method.parameters,
    bindingAttributes facts parameter ≠ [] → parameter.name ≠ Names.returnBinding

/-- The name of the binding that a request asks for. -/
def requestName (request : Request) : String :=
  request.target.name

theorem names_targetRequests (target : Target) (attributes : List Attribute) :
    (targetRequests facts target attributes).map requestName =
      List.replicate (outputCount facts attributes) target.name := by
  rw [targetRequests, List.map_map, outputCount]
  simp only [Function.comp_def, requestName, List.map_const']

theorem names_parameterRequests :
    (method.parameterRequests facts).map requestName =
      method.parameters.flatMap fun parameter =>
        List.replicate (bindingAttributes facts parameter).length parameter.name := by
  rw [parameterRequests, List.map_flatMap]
  refine List.flatMap_congr fun parameter _ => ?_
  rw [requestsOf, List.map_map]
  exact List.map_const'

theorem names_propertyRequests :
    (method.propertyRequests facts).map requestName =
      method.resultProperties.flatMap fun property =>
        List.replicate (outputCount facts property.attributes) property.name := by
  rw [propertyRequests, List.map_flatMap]
  exact List.flatMap_congr fun property _ => names_targetRequests _ _

/-- The requests for parameters have the names of parameters that are bound. -/
theorem mem_names_parameterRequests {name : String} :
    name ∈ (method.parameterRequests facts).map requestName ↔
      ∃ parameter ∈ method.parameters, bindingAttributes facts parameter ≠ [] ∧
        name = parameter.name := by
  rw [names_parameterRequests, List.mem_flatMap]
  simp only [List.mem_replicate, ne_eq, List.length_eq_zero_iff]

/-- Moving the trigger to the front does not change which names are there. -/
theorem names_perm :
    ((method.triggerRequests facts ++ method.inputRequests facts).map requestName).Perm
      ((method.parameterRequests facts).map requestName) :=
  (List.filter_append_perm _ _).map requestName

theorem nodup_parameterNames (distinct : method.DistinctNames)
    (atMostOne : ∀ parameter ∈ method.parameters,
      (bindingAttributes facts parameter).length ≤ 1) :
    ((method.parameterRequests facts).map requestName).Nodup := by
  have parametersDistinct : (method.parameters.map (·.name)).Nodup :=
    (List.nodup_append.mp distinct).1
  rw [names_parameterRequests]
  exact (nodup_flatMap_replicate _ _ parametersDistinct).mpr atMostOne

/-- Names of requests are distinct if those for outputs are and none is that of a parameter. -/
theorem nodup_names_iff (distinct : method.DistinctNames)
    (atMostOne : ∀ parameter ∈ method.parameters,
      (bindingAttributes facts parameter).length ≤ 1) :
    ((method.requests facts).map requestName).Nodup ↔
      ((method.outputRequests facts).map requestName).Nodup ∧
        ∀ name ∈ (method.parameterRequests facts).map requestName,
          name ∉ (method.outputRequests facts).map requestName := by
  rw [requests, List.map_append, (names_perm.append_right _).nodup_iff, List.nodup_append]
  constructor
  · rintro ⟨_, outputs, apart⟩
    exact ⟨outputs, fun name ofParameter ofOutput => apart name ofParameter name ofOutput rfl⟩
  · rintro ⟨outputs, apart⟩
    refine ⟨nodup_parameterNames distinct atMostOne, outputs, ?_⟩
    rintro name ofParameter other ofOutput rfl
    exact apart name ofParameter ofOutput

/-- Among outputs of the method itself, there may be one, and no parameter may have its name. -/
theorem nodup_return_iff (distinct : method.DistinctNames)
    (atMostOne : ∀ parameter ∈ method.parameters,
      (bindingAttributes facts parameter).length ≤ 1)
    (noProperty : method.propertyRequests facts = []) :
    ((method.requests facts).map requestName).Nodup ↔ SingleOutputs facts method := by
  have names : (method.outputRequests facts).map requestName =
      List.replicate (outputCount facts method.attributes) Names.returnBinding := by
    rw [outputRequests, if_pos noProperty]
    exact names_targetRequests _ _
  have noOutput : ∀ property ∈ method.resultProperties,
      outputCount facts property.attributes = 0 := by
    intro property member
    have noName : _ = method.resultProperties.flatMap fun property =>
        List.replicate (outputCount facts property.attributes) property.name :=
      names_propertyRequests
    rw [noProperty, List.map_nil, eq_comm, List.flatMap_eq_nil_iff] at noName
    exact (List.replicate_eq_nil_iff _).mp (noName property member)
  rw [nodup_names_iff distinct atMostOne, names, List.nodup_replicate]
  constructor
  · rintro ⟨single, apart⟩
    refine ⟨fun property member => ?_, single, fun nonzero parameter member bound same => ?_⟩
    · rw [noOutput property member]
      exact Nat.zero_le 1
    · have named := mem_names_parameterRequests.mpr ⟨parameter, member, bound, rfl⟩
      exact apart parameter.name named (List.mem_replicate.mpr ⟨nonzero, same⟩)
  · intro single
    refine ⟨single.own, fun name ofParameter ofOutput => ?_⟩
    obtain ⟨parameter, member, bound, rfl⟩ := mem_names_parameterRequests.mp ofParameter
    obtain ⟨nonzero, same⟩ := List.mem_replicate.mp ofOutput
    exact single.unshared nonzero parameter member bound same

/-- Among outputs of properties, there may be one for each property. -/
theorem nodup_property_iff (distinct : method.DistinctNames)
    (atMostOne : ∀ parameter ∈ method.parameters,
      (bindingAttributes facts parameter).length ≤ 1)
    (someProperty : method.propertyRequests facts ≠ [])
    (noReturn : method.returnRequests facts = []) :
    ((method.requests facts).map requestName).Nodup ↔ SingleOutputs facts method := by
  obtain ⟨_, propertiesDistinct, namesApart⟩ := List.nodup_append.mp distinct
  have noOwn : outputCount facts method.attributes = 0 := by
    have noName : (method.returnRequests facts).map requestName =
        List.replicate (outputCount facts method.attributes) method.returnTarget.name :=
      names_targetRequests _ _
    rw [noReturn, List.map_nil, eq_comm] at noName
    exact (List.replicate_eq_nil_iff _).mp noName
  have names : (method.outputRequests facts).map requestName =
      method.resultProperties.flatMap fun property =>
        List.replicate (outputCount facts property.attributes) property.name := by
    rw [outputRequests, if_neg someProperty]
    exact names_propertyRequests
  have apart : ∀ name ∈ (method.parameterRequests facts).map requestName,
      name ∉ method.resultProperties.flatMap fun property =>
        List.replicate (outputCount facts property.attributes) property.name := by
    intro name ofParameter ofOutput
    obtain ⟨parameter, parameterMem, _, rfl⟩ := mem_names_parameterRequests.mp ofParameter
    obtain ⟨property, propertyMem, inside⟩ := List.mem_flatMap.mp ofOutput
    have same : parameter.name = property.name := (List.mem_replicate.mp inside).2
    exact namesApart _ (List.mem_map_of_mem parameterMem) _ (List.mem_map_of_mem propertyMem) same
  rw [nodup_names_iff distinct atMostOne, names, nodup_flatMap_replicate _ _ propertiesDistinct]
  constructor
  · rintro ⟨single, _⟩
    refine ⟨single, by rw [noOwn]; exact Nat.zero_le 1, fun nonzero => absurd noOwn nonzero⟩
  · intro single
    exact ⟨single.properties, apart⟩

/-- The names of an accepted function are distinct exactly if its outputs are single. -/
theorem nodup_requests_iff (distinct : method.DistinctNames)
    (atMostOne : ∀ parameter ∈ method.parameters,
      (bindingAttributes facts parameter).length ≤ 1)
    (exclusive : method.propertyRequests facts ≠ [] → method.returnRequests facts = []) :
    ((method.requests facts).map requestName).Nodup ↔ SingleOutputs facts method := by
  by_cases noProperty : method.propertyRequests facts = []
  · exact nodup_return_iff distinct atMostOne noProperty
  · exact nodup_property_iff distinct atMostOne noProperty (exclusive noProperty)

end Method

end WorkerBindings
