import WorkerBindings.Assembly.Method
import WorkerBindings.Proofs.Assembly.Sessions

/-!
# Steadiness of assembling

Assembling asks the cache only about the types and attributes that occur on its method. So among
consistent symbols that include those of the method, each stage has one value for all caches that
agree with the symbols, and leaves such a cache to the stage after it.
-/

namespace WorkerBindings.Method

open Assembling Symbols

variable {registry : Registry} {symbols : Symbols} {method : Method}

theorem selectAttributes_yields (consistent : symbols.Consistent) (test : Capabilities → Bool)
    {attributes : List Attribute} (inside : attributes ⊆ symbols.attributes) :
    Yields symbols (selectAttributes test attributes)
      (attributes.filter fun attr => test attr.capabilities) := by
  induction attributes with
  | nil => exact .pure []
  | cons attr rest ih =>
    have attrInside : attr ∈ symbols.attributes := inside List.mem_cons_self
    have restInside : rest ⊆ symbols.attributes := fun _ member =>
      inside (List.mem_cons_of_mem _ member)
    refine (Yields.capabilitiesOf consistent attrInside).bind ?_
    refine (ih restInside).bind ?_
    rw [List.filter_cons]
    exact .pure _

theorem parameterOutput_steady (builtIn : registry.IsBuiltIn) (consistent : symbols.Consistent)
    (within : method.symbols.Within symbols) {parameter : Parameter}
    (member : parameter ∈ method.parameters) :
    Steady symbols (parameterOutput registry .never method parameter) := by
  have inside : parameter.attributes ⊆ symbols.attributes := fun _ attrMember =>
    within.attributes (parameterAttributes_subset member attrMember)
  refine .after (selectAttributes_yields consistent bindsParameter inside) ?_
  split
  · exact .pure _
  · rename_i attr only
    have selected : attr ∈ parameter.attributes.filter fun attr =>
        bindsParameter attr.capabilities := by
      rw [only]
      exact List.mem_singleton.mpr rfl
    have attrInside : attr ∈ symbols.attributes := inside (List.mem_filter.mp selected).1
    refine .after (.capabilitiesOf consistent attrInside) ?_
    exact .generate builtIn consistent attrInside (within.types (parameterType_mem member))
  · exact .pure _

theorem parameterOutputs_steady (builtIn : registry.IsBuiltIn) (consistent : symbols.Consistent)
    (within : method.symbols.Within symbols) {parameters : List Parameter}
    (inside : parameters ⊆ method.parameters) :
    Steady symbols (parameterOutputs registry .never method parameters) := by
  induction parameters with
  | nil => exact .pure _
  | cons parameter rest ih =>
    have restInside : rest ⊆ method.parameters := fun _ member =>
      inside (List.mem_cons_of_mem _ member)
    refine .bind .checkpoint fun _ => ?_
    refine .bind (parameterOutput_steady builtIn consistent within
      (inside List.mem_cons_self)) fun first => ?_
    exact .bind (ih restInside) fun others => .pure _

theorem targetOutputs_steady (builtIn : registry.IsBuiltIn) (consistent : symbols.Consistent)
    {target : Target} (type : target.type ∈ symbols.types) {attributes : List Attribute}
    (inside : attributes ⊆ symbols.attributes) :
    Steady symbols (targetOutputs registry .never target attributes) := by
  induction attributes with
  | nil => exact .pure _
  | cons attr rest ih =>
    have attrInside : attr ∈ symbols.attributes := inside List.mem_cons_self
    have restInside : rest ⊆ symbols.attributes := fun _ member =>
      inside (List.mem_cons_of_mem _ member)
    refine .after (.capabilitiesOf consistent attrInside) ?_
    split
    · refine .bind (.generate builtIn consistent attrInside type) fun first => ?_
      exact .bind (ih restInside) fun others => .pure _
    · exact ih restInside

theorem propertyOutputs_steady (builtIn : registry.IsBuiltIn) (consistent : symbols.Consistent)
    (within : method.symbols.Within symbols) (isCollection : Bool) (found : PropertyOutputs)
    {properties : List ResultProperty} (inside : properties ⊆ method.resultProperties) :
    Steady symbols (propertyOutputs registry .never method isCollection found properties) := by
  induction properties generalizing found with
  | nil => exact .pure _
  | cons property rest ih =>
    have member : property ∈ method.resultProperties := inside List.mem_cons_self
    have restInside : rest ⊆ method.resultProperties := fun _ restMember =>
      inside (List.mem_cons_of_mem _ restMember)
    have attributesInside : property.attributes ⊆ symbols.attributes := fun _ attrMember =>
      within.attributes (propertyAttributes_subset member attrMember)
    have typeInside : property.type ∈ symbols.types := within.types (propertyType_mem member)
    refine .bind .checkpoint fun _ => ?_
    refine .bind (targetOutputs_steady builtIn consistent typeInside attributesInside)
      fun output => ?_
    split
    · exact ih _ restInside
    · split
      · exact .pure _
      · exact ih _ restInside

theorem outputs_steady (builtIn : registry.IsBuiltIn) (consistent : symbols.Consistent)
    (within : method.symbols.Within symbols) (functionName : String) :
    Steady symbols (outputs registry .never method functionName) := by
  have typeInside : method.returnType ∈ symbols.types := within.types returnType_mem
  have attributesInside : method.attributes ⊆ symbols.attributes := fun _ member =>
    within.attributes (attributes_subset member)
  refine .bind (.classify consistent typeInside) fun classified => ?_
  split
  · exact .pure _
  · refine .bind (propertyOutputs_steady builtIn consistent within _ _ (List.Subset.refl _))
      fun found => ?_
    split
    · exact .pure _
    · refine .bind (targetOutputs_steady builtIn consistent typeInside attributesInside)
        fun own => ?_
      split
      · exact .pure _
      · exact .pure _

/-- The outcome of a method depends on nothing but the method and the registry, as long as the cache
agrees with consistent symbols among which are those of the method. -/
theorem assemble_steady (builtIn : registry.IsBuiltIn) (consistent : symbols.Consistent)
    (within : method.symbols.Within symbols) :
    Steady symbols (method.assemble registry .never) := by
  refine .bind .checkpoint fun _ => ?_
  split
  · exact .pure _
  · exact .pure _
  · refine .bind ?_ fun outcome => .pure _
    refine .bind (parameterOutputs_steady builtIn consistent within (List.Subset.refl _))
      fun parameters => ?_
    split
    · exact .pure _
    · exact .bind (outputs_steady builtIn consistent within _) fun outputs => .pure _

end WorkerBindings.Method
