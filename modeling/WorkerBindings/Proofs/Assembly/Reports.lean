import WorkerBindings.Proofs.Assembly.Accounting
import WorkerBindings.Proofs.Assembly.Bindings
import WorkerBindings.Proofs.Assembly.Interruption

/-!
# Where diagnostics come from

Every diagnostic of an outcome comes from a generator call, or assembling reports it itself.
`Reports` has one case for every way through assembling: it says which requests are called for on
that way, told by what the last cache knows, and which reports are due. `assemble_diagnostics` says
that the diagnostics of an outcome are those of all calls and these reports, each once.
-/

namespace WorkerBindings

open Invocation

namespace Method

open Assembling

variable {registry : Registry} {final : SymbolCache} {method : Method}

/-- The requests for those among several parameters that at most one attribute binds. -/
def uncrowdedRequests (facts : Attribute → Capabilities) (method : Method)
    (parameters : List Parameter) : List Request :=
  (parameters.filter fun parameter => (bindingAttributes facts parameter).length ≤ 1).flatMap
    (method.requestsOf facts)

/-- The reports on parameters with several attributes that bind them. -/
def crowdedReports (facts : Attribute → Capabilities) (method : Method)
    (parameters : List Parameter) : List Diagnostic :=
  (parameters.filter fun parameter => 1 < (bindingAttributes facts parameter).length).map
    method.multipleReport

/-- The requests for the output attributes on several properties of the result. -/
def requestsAt (facts : Attribute → Capabilities) (method : Method)
    (properties : List ResultProperty) : List Request :=
  properties.flatMap fun property =>
    targetRequests facts (method.propertyTarget property) property.attributes

/-- The report of an asynchronous function without a result to wait for. -/
def asyncVoidReport (method : Method) (functionName : String) : Diagnostic :=
  Diagnostic.report .asyncVoid method.location [functionName]

/-- The report of a number of triggers other than one. -/
def triggerCountReport (method : Method) (count : Nat) : Diagnostic :=
  Diagnostic.report .invalidTriggerCount method.location [Text.ofNat count]

section Reports

variable (registry : Registry) (final : SymbolCache) (method : Method) (functionName : String)

/-- The calls for the properties of a result up to the first one with a binding. -/
inductive FirstBound : List ResultProperty → List Invocation → Prop where
  | reached {seen rest : List ResultProperty} {property : ResultProperty}
      {before there : List Invocation}
      (served : List.Forall₂ (Serves registry final) (method.requestsAt final.facts seen) before)
      (servedThere : List.Forall₂ (Serves registry final)
        (method.requestsAt final.facts [property]) there)
      (unbound : bindingsOf before = []) (bound : bindingsOf there ≠ []) :
      FirstBound (seen ++ property :: rest) (before ++ there)

/-- Which calls are made for the properties of the result and for the method itself, in this order,
and what is reported on them. -/
inductive OutputReports : List Invocation → List Invocation → List Diagnostic → Prop where
  | unclassified {reason : ShapeError}
      (classified : final.shapeOf method.returnType = .error reason) :
      OutputReports [] [] [reason.diagnostic method.location]
  | collection {shape : Shape} {properties : List Invocation}
      (classified : final.shapeOf method.returnType = .ok shape)
      (isCollection : shape.isCollection = true)
      (firstBound : FirstBound registry final method method.resultProperties properties) :
      OutputReports properties [] [collectionReport method]
  | inconclusive {shape : Shape} {properties own : List Invocation}
      (classified : final.shapeOf method.returnType = .ok shape)
      (isSingle : shape.isCollection = false)
      (served : List.Forall₂ (Serves registry final) (method.propertyRequests final.facts)
        properties)
      (servedOwn : List.Forall₂ (Serves registry final) (method.returnRequests final.facts) own)
      (bound : bindingsOf properties ≠ []) (boundAgain : bindingsOf own ≠ []) :
      OutputReports properties own [inconclusiveReport method functionName]
  | conclusive {shape : Shape} {properties own : List Invocation}
      (classified : final.shapeOf method.returnType = .ok shape)
      (served : List.Forall₂ (Serves registry final) (method.propertyRequests final.facts)
        properties)
      (servedOwn : List.Forall₂ (Serves registry final) (method.returnRequests final.facts) own)
      (placed : bindingsOf properties = [] ∨
        shape.isCollection = false ∧ bindingsOf own = []) :
      OutputReports properties own []

/-- What is reported on a function as a whole, given the calls for its parameters, all calls, and
whether there are errors already. -/
inductive VerdictReports (parameters calls : List Invocation) (errors : Bool) :
    List Diagnostic → Prop where
  | spared (erroneous : errors = true) : VerdictReports parameters calls errors []
  | triggers {count : Nat} (faultless : errors = false)
      (counted : ((bindingsOf parameters).filter isTrigger).length = count) (notOne : count ≠ 1) :
      VerdictReports parameters calls errors [method.triggerCountReport count]
  | retry {violation : Retry.Violation} (faultless : errors = false)
      (counted : ((bindingsOf parameters).filter isTrigger).length = 1)
      (violated : Retry.resolve method.attributes ((bindingsOf calls).all (·.retrySupported)) =
        .error violation) :
      VerdictReports parameters calls errors [violation.diagnostic method.location]
  | accepted {policy : Option RetryPolicy} (faultless : errors = false)
      (counted : ((bindingsOf parameters).filter isTrigger).length = 1)
      (resolved : Retry.resolve method.attributes ((bindingsOf calls).all (·.retrySupported)) =
        .ok policy) :
      VerdictReports parameters calls errors []

/-- Which calls are made for the parameters, for the properties of the result and for the method
itself, in this order, and what assembling itself reports on the function. -/
inductive Reports : List Invocation → List Invocation → List Invocation → List Diagnostic → Prop
  where
  | asyncVoid {parameters : List Invocation}
      (served : List.Forall₂ (Serves registry final)
        (method.uncrowdedRequests final.facts method.parameters) parameters)
      (isAsyncVoid : (method.isAsync && method.returnType.name == Names.void) = true) :
      Reports parameters [] []
        (method.crowdedReports final.facts method.parameters ++
          [method.asyncVoidReport functionName])
  | validated {parameters properties own : List Invocation} {outputs verdict : List Diagnostic}
      (served : List.Forall₂ (Serves registry final)
        (method.uncrowdedRequests final.facts method.parameters) parameters)
      (notAsyncVoid : (method.isAsync && method.returnType.name == Names.void) = false)
      (onOutputs : OutputReports registry final method functionName properties own outputs)
      (onVerdict : VerdictReports method parameters (parameters ++ properties ++ own)
        (Diagnostic.hasErrors (diagnosticsOf (parameters ++ properties ++ own) ++
          (method.crowdedReports final.facts method.parameters ++ outputs))) verdict) :
      Reports parameters properties own
        (method.crowdedReports final.facts method.parameters ++ outputs ++ verdict)

end Reports

theorem selectAttributes_accounts (test : Capabilities → Bool) (attributes : List Attribute) :
    Accounts (selectAttributes test attributes) fun final selected calls =>
      calls = [] ∧ selected = attributes.filter fun attr => test (final.facts attr) := by
  induction attributes with
  | nil => exact .pure fun _ => ⟨rfl, rfl⟩
  | cons attr rest ih =>
    refine .after (.capabilitiesOf attr) fun capabilities => ?_
    refine .after ih fun others => .pure fun final => ?_
    rintro rfl rfl
    exact ⟨rfl, by rw [List.filter_cons]⟩

/-- An output that comes from calls for these requests: its bindings are theirs, and its diagnostics
are theirs and these reports. -/
structure Gathers (registry : Registry) (final : SymbolCache) (requests : List Request)
    (calls : List Invocation) (reports : List Diagnostic) (output : Output) : Prop where
  served : List.Forall₂ (Serves registry final) requests calls
  bindings : output.bindings = bindingsOf calls
  diagnostics : Accounted output.diagnostics calls reports

namespace Gathers

variable {requests others : List Request} {calls later : List Invocation}
  {reports more : List Diagnostic} {first second : Output}

theorem empty : Gathers registry final [] [] [] Output.empty :=
  ⟨.nil, rfl, .nil⟩

theorem returned {request : Request} {output : Output}
    (responds : registry.Responds final request output) :
    Gathers registry final [request] [⟨request, output⟩] [] output :=
  ⟨.cons ⟨rfl, responds⟩ .nil, (bindingsOf_singleton request output).symm, .returned request output⟩

theorem append (here : Gathers registry final requests calls reports first)
    (there : Gathers registry final others later more second) :
    Gathers registry final (requests ++ others) (calls ++ later) (reports ++ more)
      (first ++ second) where
  served := List.rel_append here.served there.served
  bindings := by
    rw [Output.append_bindings, here.bindings, there.bindings, bindingsOf_append]
  diagnostics := here.diagnostics.append there.diagnostics

end Gathers

/-- What the parameters of a function yield: the answers to those that can be served, and a report
on each of the others. -/
def ParametersGather (registry : Registry) (final : SymbolCache) (method : Method)
    (parameters : List Parameter) (output : Output) (calls : List Invocation) : Prop :=
  Gathers registry final (method.uncrowdedRequests final.facts parameters) calls
    (method.crowdedReports final.facts parameters) output

namespace ParametersGather

variable {parameter : Parameter} {parameters : List Parameter} {first others : Output}
  {calls later : List Invocation}

theorem of_few (few : (bindingAttributes final.facts parameter).length ≤ 1)
    (gathers : Gathers registry final (method.requestsOf final.facts parameter) calls [] first) :
    ParametersGather registry final method [parameter] first calls := by
  simpa [ParametersGather, uncrowdedRequests, crowdedReports, few, Nat.not_lt.mpr few] using gathers

theorem of_many (many : 1 < (bindingAttributes final.facts parameter).length) :
    ParametersGather registry final method [parameter]
      (Output.ofDiagnostics [method.multipleReport parameter]) [] := by
  simp only [ParametersGather, uncrowdedRequests, crowdedReports, List.filter_cons, List.filter_nil,
    decide_eq_true_eq, many, Nat.not_le.mpr many, if_true, if_false]
  exact ⟨.nil, rfl, .reported _⟩

theorem cons (here : ParametersGather registry final method [parameter] first calls)
    (there : ParametersGather registry final method parameters others later) :
    ParametersGather registry final method (parameter :: parameters) (first ++ others)
      (calls ++ later) := by
  have split := Gathers.append here there
  simp only [uncrowdedRequests, crowdedReports, ← List.flatMap_append, ← List.map_append,
    ← List.filter_append, List.singleton_append] at split
  exact split

end ParametersGather

theorem parameterOutput_accounts (builtIn : registry.IsBuiltIn) (parameter : Parameter) :
    Accounts (parameterOutput registry .never method parameter) fun final output calls =>
      ParametersGather registry final method [parameter] output calls := by
  refine .after (selectAttributes_accounts bindsParameter parameter.attributes) fun selected => ?_
  match selected with
  | [] =>
    refine .pure fun final selection => ?_
    have none : bindingAttributes final.facts parameter = [] := selection.symm
    refine .of_few (by simp [none]) ?_
    rw [requestsOf, none]
    exact .empty
  | [attr] =>
    refine .after (.capabilitiesOf attr) fun capabilities => ?_
    refine (Accounts.generate builtIn _).mono fun final output calls => ?_
    rintro ⟨rfl, responds⟩ rfl selection
    have one : bindingAttributes final.facts parameter = [attr] := selection.symm
    refine .of_few (by simp [one]) ?_
    rw [requestsOf, one]
    exact .returned responds
  | first :: second :: rest =>
    refine .pure fun final selection => .of_many ?_
    rw [bindingAttributes, ← selection]
    simp

theorem parameterOutputs_accounts (builtIn : registry.IsBuiltIn) (parameters : List Parameter) :
    Accounts (parameterOutputs registry .never method parameters) fun final output calls =>
      ParametersGather registry final method parameters output calls := by
  induction parameters with
  | nil => exact .pure fun _ => .empty
  | cons parameter rest ih =>
    refine .after .checkpoint fun _ => ?_
    refine (Accounts.bind (parameterOutput_accounts builtIn parameter) fun first => ?_).mono
      fun final output calls gathers _ => gathers
    refine .bind ih fun others => .pure fun final later gathersLater calls gathers => ?_
    rw [List.append_nil]
    exact gathers.cons gathersLater

theorem targetOutputs_accounts (builtIn : registry.IsBuiltIn) (target : Target)
    (attributes : List Attribute) :
    Accounts (targetOutputs registry .never target attributes) fun final output calls =>
      Gathers registry final (targetRequests final.facts target attributes) calls [] output := by
  induction attributes with
  | nil => exact .pure fun _ => .empty
  | cons attr rest ih =>
    refine .after (.capabilitiesOf attr) fun capabilities => ?_
    split
    · rename_i isOutput
      refine .bind (Accounts.generate builtIn _) fun first => ?_
      refine .bind ih fun others => .pure fun final later gathersLater calls => ?_
      rintro ⟨rfl, responds⟩ rfl
      rw [targetRequests_cons_of_output isOutput, List.append_nil]
      exact (Gathers.returned responds).append gathersLater
    · rename_i isNoOutput
      refine ih.mono fun final others calls gathers => ?_
      rintro rfl
      rw [targetRequests_cons_of_other isNoOutput]
      exact gathers

/-- What the properties looked at so far yielded. Diagnostics are set aside with bindings or on
their own, so that nothing is set aside without a binding. -/
structure PropertiesGather (registry : Registry) (final : SymbolCache) (method : Method)
    (isCollection : Bool) (properties : List ResultProperty) (calls : List Invocation)
    (found : PropertyOutputs) : Prop where
  served : List.Forall₂ (Serves registry final) (method.requestsAt final.facts properties) calls
  bindings : found.nested.bindings = bindingsOf calls
  diagnostics : Accounted (found.loose ++ found.nested.diagnostics) calls []
  bound : found.nested.bindings = [] → found.nested.diagnostics = []
  unrefused : found.refused = false
  isSingle : bindingsOf calls ≠ [] → isCollection = false

/-- What all properties yielded: either each was looked at, or the result is a collection and the
first one with a binding was refused. -/
inductive PropertiesEnd (registry : Registry) (final : SymbolCache) (method : Method)
    (isCollection : Bool) (properties : List ResultProperty) (calls : List Invocation)
    (found : PropertyOutputs) : Prop where
  | complete (gathered : PropertiesGather registry final method isCollection properties calls found)
  | stopped (refused : found.refused = true) (isCollectionType : isCollection = true)
      (firstBound : FirstBound registry final method properties calls)
      (diagnostics : Accounted (found.loose ++ found.nested.diagnostics) calls [])

/-- Unless a binding was refused, each property was looked at. -/
theorem PropertiesEnd.gathered {isCollection : Bool} {properties : List ResultProperty}
    {calls : List Invocation} {found : PropertyOutputs}
    (ended : PropertiesEnd registry final method isCollection properties calls found)
    (unrefused : ¬ found.refused = true) :
    PropertiesGather registry final method isCollection properties calls found := by
  cases ended with
  | complete gathered => exact gathered
  | stopped refused => exact absurd refused unrefused

namespace PropertiesGather

variable {isCollection : Bool} {seen : List ResultProperty} {property : ResultProperty}
  {calls later : List Invocation} {found : PropertyOutputs} {output : Output}

theorem start : PropertiesGather registry final method isCollection [] [] noProperties :=
  ⟨.nil, rfl, .nil, fun _ => rfl, rfl, fun bound => absurd rfl bound⟩

/-- The calls for one more property. -/
theorem served_snoc
    (gathered : PropertiesGather registry final method isCollection seen calls found)
    (served : List.Forall₂ (Serves registry final) (method.requestsAt final.facts [property])
      later) :
    List.Forall₂ (Serves registry final) (method.requestsAt final.facts (seen ++ [property]))
      (calls ++ later) := by
  rw [requestsAt, List.flatMap_append]
  exact List.rel_append gathered.served served

/-- A property without a binding. -/
theorem loose (gathered : PropertiesGather registry final method isCollection seen calls found)
    (gathers : Gathers registry final (method.requestsAt final.facts [property]) later [] output)
    (unbound : output.bindings = []) :
    PropertiesGather registry final method isCollection (seen ++ [property]) (calls ++ later)
      { found with loose := found.loose ++ output.diagnostics } := by
  have same : bindingsOf (calls ++ later) = bindingsOf calls := by
    rw [bindingsOf_append, ← gathers.bindings, unbound, List.append_nil]
  refine ⟨gathered.served_snoc gathers.served, gathered.bindings.trans same.symm, ?_,
    gathered.bound, gathered.unrefused, same ▸ gathered.isSingle⟩
  refine (gathered.diagnostics.append gathers.diagnostics).of_perm ?_
  simp only [List.append_assoc]
  exact List.perm_append_comm.append_left _

/-- The diagnostics of a property with a binding. -/
theorem diagnostics_nested
    (gathered : PropertiesGather registry final method isCollection seen calls found)
    (gathers : Gathers registry final (method.requestsAt final.facts [property]) later [] output) :
    Accounted (found.loose ++ (found.nested ++ output).diagnostics) (calls ++ later) [] := by
  have joined := gathered.diagnostics.append gathers.diagnostics
  rwa [List.append_assoc] at joined

/-- A property with a binding in a result that is not a collection. -/
theorem nested (gathered : PropertiesGather registry final method isCollection seen calls found)
    (gathers : Gathers registry final (method.requestsAt final.facts [property]) later [] output)
    (bound : output.bindings ≠ []) (isSingle : isCollection = false) :
    PropertiesGather registry final method isCollection (seen ++ [property]) (calls ++ later)
      { found with nested := found.nested ++ output } where
  served := gathered.served_snoc gathers.served
  bindings := by
    rw [Output.append_bindings, gathered.bindings, gathers.bindings, bindingsOf_append]
  diagnostics := gathered.diagnostics_nested gathers
  bound unbound := absurd (List.append_eq_nil_iff.mp unbound).2 bound
  unrefused := gathered.unrefused
  isSingle _ := isSingle

/-- A property with a binding in a collection; no other had one before. -/
theorem refused (gathered : PropertiesGather registry final method isCollection seen calls found)
    (gathers : Gathers registry final (method.requestsAt final.facts [property]) later [] output)
    (bound : output.bindings ≠ []) (isCollectionType : isCollection = true)
    (rest : List ResultProperty) :
    PropertiesEnd registry final method isCollection (seen ++ property :: rest) (calls ++ later)
      { found with nested := found.nested ++ output, refused := true } := by
  have unbound : bindingsOf calls = [] := by
    by_contra boundBefore
    rw [gathered.isSingle boundBefore] at isCollectionType
    cases isCollectionType
  refine .stopped rfl isCollectionType ?_ (gathered.diagnostics_nested gathers)
  exact .reached gathered.served gathers.served unbound (gathers.bindings ▸ bound)

end PropertiesGather

/-- The calls for further properties are added to those for earlier ones, whatever these were. -/
theorem propertyOutputs_accounts (builtIn : registry.IsBuiltIn) (isCollection : Bool)
    (found : PropertyOutputs) (properties : List ResultProperty) :
    Accounts (propertyOutputs registry .never method isCollection found properties)
      fun final result calls => ∀ seen earlier,
        PropertiesGather registry final method isCollection seen earlier found →
          PropertiesEnd registry final method isCollection (seen ++ properties) (earlier ++ calls)
            result := by
  induction properties generalizing found with
  | nil =>
    refine .pure fun final seen earlier gathered => ?_
    rw [List.append_nil, List.append_nil]
    exact .complete gathered
  | cons property rest ih =>
    refine .after .checkpoint fun _ => ?_
    refine (Accounts.bind (targetOutputs_accounts builtIn (method.propertyTarget property)
      property.attributes) fun output => ?_).mono fun final result calls goesOn _ => goesOn
    -- The properties seen before are any list, so that the hypothesis is about one more of them.
    have requests : ∀ facts, method.requestsAt facts [property] =
        targetRequests facts (method.propertyTarget property) property.attributes :=
      fun _ => List.flatMap_singleton _ _
    simp only [← requests]
    split
    · rename_i unbound
      refine (ih _).mono fun final result later goesOn calls gathers seen earlier gathered => ?_
      rw [← List.append_assoc, List.append_cons]
      exact goesOn _ _ (gathered.loose gathers (List.isEmpty_iff.mp unbound))
    · rename_i isBound
      have bound : output.bindings ≠ [] := fun none => isBound (List.isEmpty_iff.mpr none)
      split
      · rename_i isCollectionType
        refine .pure fun final calls gathers seen earlier gathered => ?_
        rw [List.append_nil]
        exact gathered.refused gathers bound isCollectionType rest
      · rename_i isSingle
        refine (ih _).mono fun final result later goesOn calls gathers seen earlier gathered => ?_
        rw [← List.append_assoc, List.append_cons]
        exact goesOn _ _ (gathered.nested gathers bound (Bool.eq_false_iff.mpr isSingle))

/-- All properties of a result. -/
theorem resultOutputs_accounts (builtIn : registry.IsBuiltIn) (isCollection : Bool)
    (properties : List ResultProperty) :
    Accounts (propertyOutputs registry .never method isCollection noProperties properties)
      fun final found calls =>
        PropertiesEnd registry final method isCollection properties calls found :=
  (propertyOutputs_accounts builtIn isCollection noProperties properties).mono
    fun _ _ _ goesOn => goesOn [] [] .start

/-- What the result of a function and its output attributes yield. Unless there is an error, the
bindings are those of all calls. -/
structure OutputsGather (registry : Registry) (final : SymbolCache) (method : Method)
    (functionName : String) (properties own : List Invocation) (reports : List Diagnostic)
    (output : Output) : Prop where
  due : OutputReports registry final method functionName properties own reports
  diagnostics : Accounted output.diagnostics (properties ++ own) reports
  bindings : Diagnostic.hasErrors reports = false → output.bindings = bindingsOf (properties ++ own)

namespace OutputsGather

variable {functionName : String} {shape : Shape} {properties ownCalls : List Invocation}
  {found : PropertyOutputs} {own : Output}

theorem unclassified {reason : ShapeError}
    (classified : final.shapeOf method.returnType = .error reason) :
    OutputsGather registry final method functionName [] [] [reason.diagnostic method.location]
      (Output.ofDiagnostics [reason.diagnostic method.location]) :=
  ⟨.unclassified classified, .reported _, by simp⟩

theorem collection (classified : final.shapeOf method.returnType = .ok shape)
    (isCollection : shape.isCollection = true)
    (firstBound : FirstBound registry final method method.resultProperties properties)
    (diagnostics : Accounted (found.loose ++ found.nested.diagnostics) properties []) :
    OutputsGather registry final method functionName properties [] [collectionReport method]
      (Output.ofDiagnostics
        (found.loose ++ found.nested.diagnostics ++ [collectionReport method])) :=
  ⟨.collection classified isCollection firstBound, diagnostics.append (.reported _),
    by simp [collectionReport, Problem.entry]⟩

/-- No property has a binding, so that nothing was set aside with one. -/
theorem unbound (classified : final.shapeOf method.returnType = .ok shape)
    (gathered : PropertiesGather registry final method shape.isCollection method.resultProperties
      properties found)
    (ownGathers : Gathers registry final (method.returnRequests final.facts) ownCalls [] own)
    (unbound : found.nested.bindings = []) :
    OutputsGather registry final method functionName properties ownCalls []
      ⟨own.bindings, found.loose ++ own.diagnostics⟩ := by
  have noBindings : bindingsOf properties = [] := gathered.bindings ▸ unbound
  refine ⟨.conclusive classified gathered.served ownGathers.served (.inl noBindings), ?_,
    fun _ => ?_⟩
  · have looseOnly := gathered.diagnostics
    rw [gathered.bound unbound, List.append_nil] at looseOnly
    exact looseOnly.append ownGathers.diagnostics
  · rw [bindingsOf_append, noBindings, ownGathers.bindings]
    rfl

/-- Some property has a binding. If the method itself has one too, this is reported. -/
theorem bound (classified : final.shapeOf method.returnType = .ok shape)
    (gathered : PropertiesGather registry final method shape.isCollection method.resultProperties
      properties found)
    (ownGathers : Gathers registry final (method.returnRequests final.facts) ownCalls [] own)
    (bound : found.nested.bindings ≠ []) :
    OutputsGather registry final method functionName properties ownCalls
      (if own.bindings.isEmpty then [] else [inconclusiveReport method functionName])
      ⟨found.nested.bindings, found.loose ++ found.nested.diagnostics ++ own.diagnostics ++
        if own.bindings.isEmpty then [] else [inconclusiveReport method functionName]⟩ := by
  have someBindings : bindingsOf properties ≠ [] := gathered.bindings ▸ bound
  have isSingle : shape.isCollection = false := gathered.isSingle someBindings
  have both := gathered.diagnostics.append ownGathers.diagnostics
  split
  · rename_i none
    have noneOfOwn : bindingsOf ownCalls = [] := ownGathers.bindings ▸ List.isEmpty_iff.mp none
    refine ⟨.conclusive classified gathered.served ownGathers.served (.inr ⟨isSingle, noneOfOwn⟩),
      ?_, fun _ => ?_⟩
    · rw [List.append_nil]
      exact both
    · rw [bindingsOf_append, noneOfOwn, gathered.bindings, List.append_nil]
  · rename_i some
    have someOfOwn : bindingsOf ownCalls ≠ [] :=
      ownGathers.bindings ▸ fun none => some (List.isEmpty_iff.mpr none)
    refine ⟨.inconclusive classified isSingle gathered.served ownGathers.served someBindings
      someOfOwn, both.report _, ?_⟩
    simp [inconclusiveReport, Problem.entry]

end OutputsGather

/-- The bindings of the properties go before those of the method itself. -/
theorem outputs_closes (builtIn : registry.IsBuiltIn) (functionName : String) :
    Closes (outputs registry .never method functionName) fun final output calls =>
      ∃ properties own reports, calls = properties ++ own ∧
        OutputsGather registry final method functionName properties own reports output := by
  refine .classify (fun reason => ⟨_, rfl, fun final classified => ?_⟩) fun shape => ?_
  · exact ⟨[], [], _, rfl, .unclassified classified⟩
  refine .of_accounts (Accounts.bind (resultOutputs_accounts builtIn shape.isCollection
    method.resultProperties) fun found => ?_)
  dsimp only
  split
  · rename_i refused
    refine .pure fun final properties ended classified => ?_
    cases ended with
    | complete gathered =>
      rw [gathered.unrefused] at refused
      cases refused
    | stopped _ isCollection firstBound diagnostics =>
      exact ⟨properties, [], _, rfl, .collection classified isCollection firstBound diagnostics⟩
  · rename_i unrefused
    refine .bind (targetOutputs_accounts builtIn method.returnTarget method.attributes)
      fun own => ?_
    split
    · rename_i none
      refine .pure fun final ownCalls ownGathers properties ended classified => ?_
      rw [List.append_nil]
      exact ⟨properties, ownCalls, _, rfl, .unbound classified (ended.gathered unrefused) ownGathers
        (List.isEmpty_iff.mp none)⟩
    · rename_i some
      refine .pure fun final ownCalls ownGathers properties ended classified => ?_
      rw [List.append_nil]
      exact ⟨properties, ownCalls, _, rfl, .bound classified (ended.gathered unrefused) ownGathers
        (mt List.isEmpty_iff.mpr some)⟩

/-- Validation adds the report that is due, if one is. -/
theorem validate_accounted {parameters outputs : Output} {requests : List Request}
    {calls properties own : List Invocation} {crowded reports : List Diagnostic}
    {functionName : String} (gathers : Gathers registry final requests calls crowded parameters)
    (gathered : OutputsGather registry final method functionName properties own reports outputs) :
    ∃ verdict, VerdictReports method calls (calls ++ properties ++ own) (Diagnostic.hasErrors
        (diagnosticsOf (calls ++ properties ++ own) ++ (crowded ++ reports))) verdict ∧
      Accounted (validate method functionName parameters outputs).diagnostics
        (calls ++ properties ++ own) (crowded ++ reports ++ verdict) := by
  have both := gathers.diagnostics.append gathered.diagnostics
  rw [← List.append_assoc] at both
  have silent : Accounted (parameters.diagnostics ++ outputs.diagnostics)
      (calls ++ properties ++ own) (crowded ++ reports ++ []) := by
    rw [List.append_nil]
    exact both
  rw [← both.hasErrors_eq]
  unfold validate
  dsimp only
  split
  · rename_i erroneous
    exact ⟨[], .spared erroneous, silent⟩
  · rename_i faultless
    have faultless := Bool.eq_false_iff.mpr faultless
    -- Only without errors are the bindings of all calls those of the function.
    have sources := both.hasErrors_eq.symm.trans faultless
    simp only [Diagnostic.hasErrors_append, Bool.or_eq_false_iff] at sources
    have bindings : parameters.bindings ++ outputs.bindings =
        bindingsOf (calls ++ properties ++ own) := by
      rw [gathers.bindings, gathered.bindings sources.2.2, List.append_assoc,
        bindingsOf_append calls]
    rw [bindings, gathers.bindings]
    split
    · rename_i notOne
      exact ⟨_, .triggers faultless rfl notOne, both.report _⟩
    · rename_i one
      have counted := Decidable.not_not.mp one
      split
      · rename_i violation violated
        exact ⟨_, .retry faultless counted violated, both.report _⟩
      · rename_i policy resolved
        exact ⟨[], .accepted faultless counted resolved, silent⟩

/-- The calls were made for the parameters, for the properties of the result and for the method
itself, and the diagnostics of the outcome are those that they returned and the reports that are
due, each once. -/
def Explained (registry : Registry) (final : SymbolCache) (method : Method) (functionName : String)
    (outcome : Outcome) (calls : List Invocation) : Prop :=
  ∃ parameters properties own reports, calls = parameters ++ properties ++ own ∧
    Reports registry final method functionName parameters properties own reports ∧
    outcome.diagnostics.Perm (diagnosticsOf calls ++ reports)

theorem assembleNamed_closes (builtIn : registry.IsBuiltIn) (functionName : String) :
    Closes (assembleNamed registry .never method functionName)
      fun final => Explained registry final method functionName := by
  refine .bind (parameterOutputs_accounts builtIn method.parameters) fun parameters => ?_
  split
  · rename_i isAsyncVoid
    refine .of_accounts (.pure fun final calls gathers => ?_)
    refine ⟨calls, [], [], _, by simp, .asyncVoid gathers.served isAsyncVoid, ?_⟩
    exact gathers.diagnostics.append (.reported _)
  · rename_i notAsyncVoid
    refine (outputs_closes builtIn functionName).map fun final outputs later => ?_
    rintro ⟨properties, own, reports, rfl, gathered⟩ calls gathers
    obtain ⟨verdict, onVerdict, total⟩ := validate_accounted gathers gathered
    rw [← List.append_assoc]
    exact ⟨calls, properties, own, _, rfl,
      .validated gathers.served (Bool.eq_false_iff.mpr notAsyncVoid) gathered.due onVerdict, total⟩

theorem assemble_closes (builtIn : registry.IsBuiltIn) {functionName : String}
    (named : method.functionName = .ok (some functionName)) :
    Closes (method.assemble registry .never) fun final result calls =>
      ∃ outcome, result = some outcome ∧
        Explained registry final method functionName outcome calls := by
  refine .bind .checkpoint fun _ => ?_
  rw [named]
  refine (assembleNamed_closes builtIn functionName).map fun final outcome later explained => ?_
  rintro _ ⟨rfl, _⟩
  exact ⟨outcome, rfl, explained⟩

/-- No diagnostic is lost or repeated. A function whose name resolves has an outcome, and its
diagnostics are those returned by the generator calls that the session has recorded and the reports
that are due, each once. An interrupted run that has an outcome has the same. -/
theorem assemble_diagnostics (builtIn : registry.IsBuiltIn) (resolves : method.NameResolves)
    {session : Session} (uncancelled : session.cancelled = false) :
    ∃ functionName outcome after calls,
      method.functionName = .ok (some functionName) ∧
      method.assemble registry .never session = (.ok (some outcome), after) ∧
      after.made = session.made ++ calls ∧
      Explained registry after.cache method functionName outcome calls ∧
      ∀ interruption other last,
        method.assemble registry interruption session = (.ok (some other), last) →
          other = outcome := by
  obtain ⟨functionName, named⟩ := nameResolves_iff.mp resolves
  obtain ⟨_, after, calls, ran, made, _, outcome, rfl, explained⟩ :=
    assemble_closes builtIn named session uncancelled
  refine ⟨functionName, outcome, after, calls, named, ran, made, explained, ?_⟩
  intro interruption other last ranAgain
  have undisturbed := assemble_completed ranAgain
  rw [Session.calm_eq uncancelled, ran] at undisturbed
  cases undisturbed
  rfl

/-- A function whose result is a collection of a type with an output that cannot be made out. -/
def digest : Method where
  methodName := "Run"
  containingType := "Orders.Digest"
  attributes := [
    { className := Names.functionClass
      namespaceName := some Names.workerNamespace
      arguments := [⟨"name", .string "Digest"⟩] }]
  parameters := [
    { name := "message"
      type := DeclaredType.named "string"
      attributes := [
        { className := "QueueTriggerAttribute"
          baseTypes := [Names.triggerBase]
          arguments := [⟨"queueName", .string "orders"⟩] }] }]
  returnType := {
    name := "Orders.Summary"
    interfaces := [.named Names.enumerable]
    properties := [
      { name := "Audit"
        type := .named "string"
        attributes := [
          { className := "QueueOutputAttribute"
            baseTypes := [Names.outputBase]
            arguments := [⟨"queueName", .string "audit"⟩]
            namedArguments := [⟨"Connection", .unresolved "Settings.Conn"⟩] }] }] }

/-- The digest is refused with the diagnostic of its output beside the report on its result. -/
theorem assemble_diagnostics_digest :
    Registry.builtIn.IsBuiltIn ∧ digest.NameResolves ∧ (Session.ofCache .empty).cancelled = false ∧
      ∃ functionName outcome after calls,
        digest.assemble .builtIn .never (Session.ofCache .empty) = (.ok (some outcome), after) ∧
        after.made = calls ∧
        Explained .builtIn after.cache digest functionName outcome calls ∧
        calls.map (fun call => call.output.diagnostics.map (·.problem)) =
          [[], [.invalidArgument]] ∧
        outcome.diagnostics.map (·.problem) = [.invalidArgument, .invalidBindingType] := by
  have resolves : digest.NameResolves :=
    ⟨_, "Digest", rfl, rfl, by decide⟩
  obtain ⟨functionName, outcome, after, calls, _, ran, made, explained, _⟩ :=
    assemble_diagnostics Registry.isBuiltIn_builtIn resolves
      (rfl : (Session.ofCache .empty).cancelled = false)
  have returned : (digest.assemble .builtIn .never (Session.ofCache .empty)).2.made.map
      (fun call => call.output.diagnostics.map (·.problem)) = [[], [.invalidArgument]] := by
    decide +kernel
  have problems : (digest.assemble .builtIn .never (Session.ofCache .empty)).1.toOption.join.map
      (fun outcome => outcome.diagnostics.map (·.problem)) =
        some [.invalidArgument, .invalidBindingType] := by
    decide +kernel
  rw [ran] at returned problems
  rw [made] at returned
  exact ⟨Registry.isBuiltIn_builtIn, resolves, rfl, functionName, outcome, after, calls, ran,
    made, explained, returned, Option.some.inj problems⟩

end Method

end WorkerBindings
