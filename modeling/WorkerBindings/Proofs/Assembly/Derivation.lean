import Mathlib.Data.List.Forall2
import WorkerBindings.Assembly.Method
import WorkerBindings.Proofs.Assembly.Sessions

/-!
# Derivations of outcomes

How an outcome comes about, told from the cache that its run ends with. Each relation has one case
for every way through the stage that it describes, and names the generator calls that were made on
that way; `assemble_delivers` says that every run which is not cancelled is described so, whatever
the cache held at first.
-/

namespace WorkerBindings

namespace Output

@[simp] theorem append_bindings (first second : Output) :
    (first ++ second).bindings = first.bindings ++ second.bindings :=
  rfl

@[simp] theorem append_diagnostics (first second : Output) :
    (first ++ second).diagnostics = first.diagnostics ++ second.diagnostics :=
  rfl

/-- Several outputs one after another. -/
def join : List Output → Output
  | [] => empty
  | output :: rest => output ++ join rest

@[simp] theorem join_bindings (outputs : List Output) :
    (join outputs).bindings = outputs.flatMap (·.bindings) := by
  induction outputs with
  | nil => rfl
  | cons output rest ih => simp [join, ih]

end Output

namespace Method

/-- The target of the attributes on a parameter. -/
def parameterTarget (method : Method) (parameter : Parameter) : Target :=
  ⟨parameter.name, parameter.type, parameter.location <|> method.location⟩

/-- The target of the attributes on a property of the result. -/
def propertyTarget (method : Method) (property : ResultProperty) : Target :=
  ⟨property.name, property.type, property.location <|> method.location⟩

/-- The target of the output attributes on the method itself. -/
def returnTarget (method : Method) : Target :=
  ⟨Names.returnBinding, method.returnType, method.location⟩

/-- The attributes that bind a parameter, given what is known about their classes. -/
def bindingAttributes (facts : Attribute → Capabilities) (parameter : Parameter) :
    List Attribute :=
  parameter.attributes.filter fun attr => bindsParameter (facts attr)

/-- The requests for the attributes on a target that are output bindings, given what is known about
their classes. -/
def targetRequests (facts : Attribute → Capabilities) (target : Target)
    (attributes : List Attribute) : List Request :=
  (attributes.filter fun attr => (facts attr).isOutput).map fun attr => ⟨attr, .output, target⟩

theorem targetRequests_cons_of_output {facts : Attribute → Capabilities} {attr : Attribute}
    (isOutput : (facts attr).isOutput = true) (target : Target) (rest : List Attribute) :
    targetRequests facts target (attr :: rest) =
      ⟨attr, .output, target⟩ :: targetRequests facts target rest := by
  simp [targetRequests, isOutput]

theorem targetRequests_cons_of_other {facts : Attribute → Capabilities} {attr : Attribute}
    (isNoOutput : ¬ (facts attr).isOutput = true) (target : Target) (rest : List Attribute) :
    targetRequests facts target (attr :: rest) = targetRequests facts target rest := by
  simp [targetRequests, isNoOutput]

/-- The request for an attribute that binds a parameter. -/
def parameterRequest (facts : Attribute → Capabilities) (method : Method) (parameter : Parameter)
    (attr : Attribute) : Request where
  attr
  role := if (facts attr).isInput then .input else .trigger
  target := method.parameterTarget parameter

/-- The report of several attributes that bind one parameter. -/
def multipleReport (method : Method) (parameter : Parameter) : Diagnostic :=
  Diagnostic.report .multipleBindings method.location ["input or trigger", parameter.name]

variable (registry : Registry) (final : SymbolCache) (method : Method)

/-- What one parameter yields. -/
inductive ParameterYields (parameter : Parameter) : Output → Prop where
  | unbound (noAttributes : bindingAttributes final.facts parameter = []) :
      ParameterYields parameter Output.empty
  | bound {attr : Attribute} {output : Output}
      (oneAttribute : bindingAttributes final.facts parameter = [attr])
      (responds : registry.Responds final (method.parameterRequest final.facts parameter attr)
        output) :
      ParameterYields parameter output
  | crowded (manyAttributes : 1 < (bindingAttributes final.facts parameter).length) :
      ParameterYields parameter (Output.ofDiagnostics [method.multipleReport parameter])

/-- What several parameters yield. -/
inductive ParametersYield (parameters : List Parameter) : Output → Prop where
  | each (outputs : List Output)
      (yields : List.Forall₂ (ParameterYields registry final method) parameters outputs) :
      ParametersYield parameters (Output.join outputs)

/-- What the output attributes of one target yield. -/
inductive TargetYields (target : Target) (attributes : List Attribute) : Output → Prop where
  | each (outputs : List Output)
      (responds : List.Forall₂ (registry.Responds final)
        (targetRequests final.facts target attributes) outputs) :
      TargetYields target attributes (Output.join outputs)

/-- What the properties of a result yield, added to what earlier ones yielded. -/
inductive PropertiesYield (isCollection : Bool) :
    PropertyOutputs → List ResultProperty → PropertyOutputs → Prop where
  | done {found : PropertyOutputs} : PropertiesYield isCollection found [] found
  | bare {found result : PropertyOutputs} {property : ResultProperty}
      {rest : List ResultProperty} {output : Output}
      (yields : TargetYields registry final (method.propertyTarget property) property.attributes
        output)
      (unbound : output.bindings = [])
      (others : PropertiesYield isCollection
        { found with loose := found.loose ++ output.diagnostics } rest result) :
      PropertiesYield isCollection found (property :: rest) result
  | collection {found : PropertyOutputs} {property : ResultProperty}
      {rest : List ResultProperty} {output : Output}
      (yields : TargetYields registry final (method.propertyTarget property) property.attributes
        output)
      (bound : output.bindings ≠ []) (isCollectionType : isCollection = true) :
      PropertiesYield isCollection found (property :: rest)
        { found with nested := found.nested ++ output, refused := true }
  | nested {found result : PropertyOutputs} {property : ResultProperty}
      {rest : List ResultProperty} {output : Output}
      (yields : TargetYields registry final (method.propertyTarget property) property.attributes
        output)
      (bound : output.bindings ≠ []) (isSingle : isCollection = false)
      (others : PropertiesYield isCollection
        { found with nested := found.nested ++ output } rest result) :
      PropertiesYield isCollection found (property :: rest) result

/-- What is found before the first property of a result. -/
def noProperties : PropertyOutputs :=
  ⟨[], Output.empty, false⟩

/-- What the result of a method and its output attributes yield. -/
inductive OutputsYield (functionName : String) : Output → Prop where
  | unclassified {reason : ShapeError}
      (classified : final.Classifies method.returnType (.error reason)) :
      OutputsYield functionName (Output.ofDiagnostics [reason.diagnostic method.location])
  | collection {shape : Shape} {found : PropertyOutputs}
      (classified : final.Classifies method.returnType (.ok shape))
      (properties : PropertiesYield registry final method shape.isCollection noProperties
        method.resultProperties found)
      (refused : found.refused = true) :
      OutputsYield functionName (Output.ofDiagnostics
        (found.loose ++ found.nested.diagnostics ++ [collectionReport method]))
  | own {shape : Shape} {found : PropertyOutputs} {own : Output}
      (classified : final.Classifies method.returnType (.ok shape))
      (properties : PropertiesYield registry final method shape.isCollection noProperties
        method.resultProperties found)
      (unrefused : found.refused = false) (unbound : found.nested.bindings = [])
      (yields : TargetYields registry final method.returnTarget method.attributes own) :
      OutputsYield functionName ⟨own.bindings, found.loose ++ own.diagnostics⟩
  | nested {shape : Shape} {found : PropertyOutputs} {own : Output}
      (classified : final.Classifies method.returnType (.ok shape))
      (properties : PropertiesYield registry final method shape.isCollection noProperties
        method.resultProperties found)
      (unrefused : found.refused = false) (bound : found.nested.bindings ≠ [])
      (yields : TargetYields registry final method.returnTarget method.attributes own) :
      OutputsYield functionName ⟨found.nested.bindings,
        found.loose ++ found.nested.diagnostics ++ own.diagnostics ++
          if own.bindings.isEmpty then [] else [inconclusiveReport method functionName]⟩

/-- How assembling a method ends. -/
inductive Assembled : Option Outcome → Prop where
  | skipped (named : method.functionName = .ok none) : Assembled none
  | unnamed {diagnostic : Diagnostic} (named : method.functionName = .error diagnostic) :
      Assembled (some (Outcome.rejected method.methodName [diagnostic]))
  | asyncVoid {functionName : String} {parameters : Output}
      (named : method.functionName = .ok (some functionName))
      (parametersYield : ParametersYield registry final method method.parameters parameters)
      (isAsyncVoid : (method.isAsync && method.returnType.name == Names.void) = true) :
      Assembled (some (Outcome.rejected functionName (parameters.diagnostics ++
        [Diagnostic.report .asyncVoid method.location [functionName]])))
  | validated {functionName : String} {parameters outputs : Output}
      (named : method.functionName = .ok (some functionName))
      (parametersYield : ParametersYield registry final method method.parameters parameters)
      (notAsyncVoid : (method.isAsync && method.returnType.name == Names.void) = false)
      (outputsYield : OutputsYield registry final method functionName outputs) :
      Assembled (some (validate method functionName parameters outputs))

variable {registry final method}

open Assembling

theorem selectAttributes_delivers (test : Capabilities → Bool) (attributes : List Attribute) :
    Delivers final (selectAttributes test attributes) fun selected =>
      selected = attributes.filter fun attr => test (final.facts attr) := by
  induction attributes with
  | nil => exact .pure rfl
  | cons attr rest ih =>
    refine .bind (.capabilitiesOf attr) fun capabilities => ?_
    refine .bind ih fun others => .pure ?_
    rintro rfl rfl
    rw [List.filter_cons]

theorem parameterOutput_delivers (builtIn : registry.IsBuiltIn) (parameter : Parameter) :
    Delivers final (parameterOutput registry .never method parameter)
      (ParameterYields registry final method parameter) := by
  refine .bind (selectAttributes_delivers bindsParameter parameter.attributes) fun selected => ?_
  match selected with
  | [] => exact .pure fun selection => .unbound selection.symm
  | [attr] =>
    refine .bind (.capabilitiesOf attr) fun capabilities => ?_
    refine (Delivers.generate builtIn _).mono fun output responds => ?_
    rintro rfl selection
    exact .bound selection.symm responds
  | first :: second :: rest =>
    refine .pure fun selection => .crowded ?_
    rw [bindingAttributes, ← selection]
    simp

theorem parameterOutputs_delivers (builtIn : registry.IsBuiltIn) (parameters : List Parameter) :
    Delivers final (parameterOutputs registry .never method parameters)
      (ParametersYield registry final method parameters) := by
  induction parameters with
  | nil => exact .pure (.each [] .nil)
  | cons parameter rest ih =>
    refine .seq .checkpoint fun _ => ?_
    refine .bind (parameterOutput_delivers builtIn parameter) fun first => ?_
    refine .bind ih fun others => .pure ?_
    rintro ⟨outputs, yieldsOthers⟩ yieldsFirst
    exact .each (first :: outputs) (.cons yieldsFirst yieldsOthers)

theorem targetOutputs_delivers (builtIn : registry.IsBuiltIn) (target : Target)
    (attributes : List Attribute) :
    Delivers final (targetOutputs registry .never target attributes)
      (TargetYields registry final target attributes) := by
  induction attributes with
  | nil => exact .pure (.each [] .nil)
  | cons attr rest ih =>
    refine .bind (.capabilitiesOf attr) fun capabilities => ?_
    split
    · rename_i isOutput
      refine .bind (Delivers.generate builtIn _) fun first => ?_
      refine .bind ih fun others => .pure ?_
      rintro ⟨outputs, respondOthers⟩ respondsFirst rfl
      refine .each (first :: outputs) ?_
      rw [targetRequests_cons_of_output isOutput]
      exact .cons respondsFirst respondOthers
    · rename_i isNoOutput
      refine ih.mono ?_
      rintro others ⟨outputs, respondOthers⟩ rfl
      refine .each outputs ?_
      rw [targetRequests_cons_of_other isNoOutput]
      exact respondOthers

theorem propertyOutputs_delivers (builtIn : registry.IsBuiltIn) (isCollection : Bool)
    (found : PropertyOutputs) (properties : List ResultProperty) :
    Delivers final (propertyOutputs registry .never method isCollection found properties)
      (PropertiesYield registry final method isCollection found properties) := by
  induction properties generalizing found with
  | nil => exact .pure .done
  | cons property rest ih =>
    refine .seq .checkpoint fun _ => ?_
    refine .bind (targetOutputs_delivers builtIn (method.propertyTarget property)
      property.attributes) fun output => ?_
    split
    · rename_i unbound
      refine (ih _).mono fun result others yields => ?_
      exact .bare yields (List.isEmpty_iff.mp unbound) others
    · rename_i bound
      have bound : output.bindings ≠ [] := fun none => bound (List.isEmpty_iff.mpr none)
      split
      · rename_i isCollectionType
        exact .pure fun yields => .collection yields bound isCollectionType
      · rename_i isSingle
        refine (ih _).mono fun result others yields => ?_
        exact .nested yields bound (Bool.eq_false_iff.mpr isSingle) others

theorem outputs_delivers (builtIn : registry.IsBuiltIn) (functionName : String) :
    Delivers final (outputs registry .never method functionName)
      (OutputsYield registry final method functionName) := by
  refine .bind (.classify method.returnType) fun classified => ?_
  match classified with
  | .error reason => exact .pure fun unclassified => .unclassified unclassified
  | .ok shape =>
    refine .bind (propertyOutputs_delivers builtIn shape.isCollection noProperties
      method.resultProperties) fun found => ?_
    dsimp only
    split
    · rename_i refused
      exact .pure fun properties classified => .collection classified properties refused
    · rename_i unrefused
      have unrefused : found.refused = false := Bool.eq_false_iff.mpr unrefused
      refine .bind (targetOutputs_delivers builtIn method.returnTarget method.attributes)
        fun own => ?_
      split
      · rename_i unbound
        refine .pure fun yields properties classified => ?_
        exact .own classified properties unrefused (List.isEmpty_iff.mp unbound) yields
      · rename_i bound
        refine .pure fun yields properties classified => ?_
        exact .nested classified properties unrefused
          (fun none => bound (List.isEmpty_iff.mpr none)) yields

/-- A run that is not cancelled ends as the cache that it leaves tells, or any later one. -/
theorem assemble_delivers (builtIn : registry.IsBuiltIn) (method : Method) :
    Delivers final (method.assemble registry .never) (Assembled registry final method) := by
  refine .seq .checkpoint fun _ => ?_
  split
  · rename_i named
    exact .pure (.skipped named)
  · rename_i diagnostic named
    exact .pure (.unnamed named)
  · rename_i functionName named
    unfold assembleNamed
    rw [bind_assoc]
    refine .bind (parameterOutputs_delivers builtIn method.parameters) fun parameters => ?_
    split
    · rename_i isAsyncVoid
      exact .pure fun parametersYield => .asyncVoid named parametersYield isAsyncVoid
    · rename_i notAsyncVoid
      rw [bind_assoc]
      refine .bind (outputs_delivers builtIn functionName) fun outputs => ?_
      refine .pure fun outputsYield parametersYield => ?_
      exact .validated named parametersYield (Bool.eq_false_iff.mpr notAsyncVoid) outputsYield

/-- Every run that is not cancelled has a derivation from the cache that it ends with. -/
theorem assemble_assembled (builtIn : registry.IsBuiltIn) (method : Method) {session : Session}
    (uncancelled : session.cancelled = false) :
    ∃ result after, method.assemble registry .never session = (.ok result, after) ∧
      after.cancelled = false ∧ session.cache.Extends after.cache ∧
      Assembled registry after.cache method result := by
  exact Delivers.run (fun _ => assemble_delivers builtIn method) uncancelled

end Method

end WorkerBindings
