import WorkerBindings.Assembly.Session
import WorkerBindings.Record.Declaration
import WorkerBindings.Retry.Resolution
import WorkerBindings.Symbol.Method

/-!
# Assembling one function

A method with a function attribute is taken through fixed stages: the bindings of its parameters,
the outputs of its result and of the method itself, and validation. It is accepted with a
declaration or rejected; its diagnostics are kept in both cases. Cancellation is looked at when
assembling starts and before each parameter and each property of the result.
-/

namespace WorkerBindings

/-- The stages of a function. -/
inductive Stage where
  | collectingTriggers
  | collectingOutputs
  | validating
  | accepted
  | rejected
  deriving Repr, DecidableEq

namespace Stage

/-- The stages in order. -/
def all : List Stage :=
  [.collectingTriggers, .collectingOutputs, .validating, .accepted, .rejected]

/-- The words for a stage. -/
def name : Stage → String
  | .collectingTriggers => "collecting triggers"
  | .collectingOutputs => "collecting outputs"
  | .validating => "validating"
  | .accepted => "accepted"
  | .rejected => "rejected"

end Stage

/-- How assembling a function ended. -/
structure Outcome where
  functionName : String
  stage : Stage
  /-- There is one exactly if the function was accepted. -/
  declaration : Option Declaration
  diagnostics : List Diagnostic

namespace Outcome

/-- A function that is not written. -/
def rejected (functionName : String) (diagnostics : List Diagnostic) : Outcome :=
  ⟨functionName, .rejected, none, diagnostics⟩

/-- A function that is written as its declaration says. -/
def accepted (declaration : Declaration) (diagnostics : List Diagnostic) : Outcome :=
  ⟨declaration.functionName, .accepted, some declaration, diagnostics⟩

/-- Whether the function was accepted. -/
def isAccepted (outcome : Outcome) : Bool :=
  outcome.stage == .accepted

end Outcome

namespace Method

/-- Whether an attribute makes its method a function. -/
def isFunctionAttribute (attr : Attribute) : Bool :=
  attr.isClass Names.workerNamespace Names.functionClass

/-- The name that a function attribute states, unless it is blank. -/
def statedName? (attr : Attribute) : Option String :=
  ((attr.argument? "name" <|> attr.arguments.head?.map (·.value)).bind Constant.text?).bind
    Text.nonBlank?

/-- The name of the function; there is none for a method that is not a function. -/
def functionName (method : Method) : Except Diagnostic (Option String) :=
  match method.attributes.filter isFunctionAttribute with
  | [] => .ok none
  | [attr] =>
    match statedName? attr with
    | some name => .ok (some name)
    | none => .error (Diagnostic.report .symbolNotFound method.location ["Name"])
  | _ =>
    .error (Diagnostic.report .inconclusiveAttribute method.location
      [Names.functionClass, method.methodName])

/-- The attributes among several whose class passes a test. -/
def selectAttributes (test : Capabilities → Bool) : List Attribute → Assembling (List Attribute)
  | [] => pure []
  | attr :: rest => do
    let capabilities ← Assembling.cached (SymbolCache.capabilitiesOf attr)
    let others ← selectAttributes test rest
    pure (if test capabilities then attr :: others else others)

/-- Whether a class makes a parameter a trigger or an input. -/
def bindsParameter (capabilities : Capabilities) : Bool :=
  capabilities.isBinding && !capabilities.isOutput

/-- The output for one parameter, which may carry at most one trigger or input. -/
def parameterOutput (registry : Registry) (interruption : Interruption) (method : Method)
    (parameter : Parameter) : Assembling Output := do
  let attributes ← selectAttributes bindsParameter parameter.attributes
  match attributes with
  | [] => pure Output.empty
  | [attr] =>
    let capabilities ← Assembling.cached (SymbolCache.capabilitiesOf attr)
    Assembling.generate registry interruption {
      attr
      role := if capabilities.isInput then .input else .trigger
      target := ⟨parameter.name, parameter.type, parameter.location <|> method.location⟩ }
  | _ =>
    pure (Output.ofDiagnostics [Diagnostic.report .multipleBindings method.location
      ["input or trigger", parameter.name]])

/-- The output for several parameters. -/
def parameterOutputs (registry : Registry) (interruption : Interruption) (method : Method) :
    List Parameter → Assembling Output
  | [] => pure Output.empty
  | parameter :: rest => do
    Assembling.checkpoint
    let first ← parameterOutput registry interruption method parameter
    let others ← parameterOutputs registry interruption method rest
    pure (first ++ others)

/-- The output for the attributes of one target that are output bindings. -/
def targetOutputs (registry : Registry) (interruption : Interruption) (target : Target) :
    List Attribute → Assembling Output
  | [] => pure Output.empty
  | attr :: rest => do
    let capabilities ← Assembling.cached (SymbolCache.capabilitiesOf attr)
    if capabilities.isOutput then
      let first ← Assembling.generate registry interruption ⟨attr, .output, target⟩
      let others ← targetOutputs registry interruption target rest
      pure (first ++ others)
    else targetOutputs registry interruption target rest

/-- What the properties of a result yield. -/
structure PropertyOutputs where
  /-- The diagnostics of properties without a binding. -/
  loose : List Diagnostic
  /-- The bindings of the other properties with their diagnostics. -/
  nested : Output
  /-- Whether a binding was found although the result is a collection; no property is looked at
  after that. -/
  refused : Bool

/-- The output of several properties, added to what earlier ones yielded. -/
def propertyOutputs (registry : Registry) (interruption : Interruption) (method : Method)
    (isCollection : Bool) : PropertyOutputs → List ResultProperty → Assembling PropertyOutputs
  | found, [] => pure found
  | found, property :: rest => do
    Assembling.checkpoint
    let target : Target :=
      ⟨property.name, property.type, property.location <|> method.location⟩
    let output ← targetOutputs registry interruption target property.attributes
    if output.bindings.isEmpty then
      propertyOutputs registry interruption method isCollection
        { found with loose := found.loose ++ output.diagnostics } rest
    else if isCollection then
      pure { found with nested := found.nested ++ output, refused := true }
    else
      propertyOutputs registry interruption method isCollection
        { found with nested := found.nested ++ output } rest

/-- The report of outputs on the properties of a collection. -/
def collectionReport (method : Method) : Diagnostic :=
  Diagnostic.report .invalidBindingType method.location
    ["IAsyncEnumerable or IEnumerable", "multi-binding return"]

/-- The report of outputs both on the method and on the properties of its result. -/
def inconclusiveReport (method : Method) (functionName : String) : Diagnostic :=
  Diagnostic.report .inconclusiveOutput method.location [functionName]

/-- The output bindings of a function: those of the properties of its result, else its own. -/
def outputs (registry : Registry) (interruption : Interruption) (method : Method)
    (functionName : String) : Assembling Output := do
  let classified ← Assembling.cached (SymbolCache.classify method.returnType)
  match classified with
  | .error reason => pure (Output.ofDiagnostics [reason.diagnostic method.location])
  | .ok shape =>
    let found ← propertyOutputs registry interruption method shape.isCollection
      ⟨[], Output.empty, false⟩ method.returnType.unwrapped.properties
    if found.refused then
      pure (Output.ofDiagnostics
        (found.loose ++ found.nested.diagnostics ++ [collectionReport method]))
    else
      let target : Target := ⟨Names.returnBinding, method.returnType, method.location⟩
      let own ← targetOutputs registry interruption target method.attributes
      if found.nested.bindings.isEmpty then
        pure ⟨own.bindings, found.loose ++ own.diagnostics⟩
      else
        let conflict :=
          if own.bindings.isEmpty then [] else [inconclusiveReport method functionName]
        pure ⟨found.nested.bindings,
          found.loose ++ found.nested.diagnostics ++ own.diagnostics ++ conflict⟩

/-- Whether a binding is a trigger. -/
def isTrigger (binding : Binding) : Bool :=
  binding.role == .trigger

/-- The verdict on a function whose bindings have been collected. -/
def validate (method : Method) (functionName : String) (parameters outputs : Output) : Outcome :=
  let diagnostics := parameters.diagnostics ++ outputs.diagnostics
  let triggers := parameters.bindings.filter isTrigger
  if Diagnostic.hasErrors diagnostics then Outcome.rejected functionName diagnostics
  else if triggers.length ≠ 1 then
    Outcome.rejected functionName (diagnostics ++
      [Diagnostic.report .invalidTriggerCount method.location [Text.ofNat triggers.length]])
  else
    let supported := (parameters.bindings ++ outputs.bindings).all (·.retrySupported)
    match Retry.resolve method.attributes supported with
    | .error violation =>
      Outcome.rejected functionName (diagnostics ++ [violation.diagnostic method.location])
    | .ok retry =>
      let inputs := parameters.bindings.filter fun binding => !isTrigger binding
      Outcome.accepted {
        functionName
        methodName := method.methodName
        containingType := method.containingType
        bindings := triggers ++ inputs ++ outputs.bindings
        retry } diagnostics

/-- Assemble the bindings of a function whose name is known. -/
def assembleNamed (registry : Registry) (interruption : Interruption) (method : Method)
    (functionName : String) : Assembling Outcome := do
  let parameters ← parameterOutputs registry interruption method method.parameters
  if method.isAsync && method.returnType.name == Names.void then
    pure (Outcome.rejected functionName (parameters.diagnostics ++
      [Diagnostic.report .asyncVoid method.location [functionName]]))
  else
    let outputs ← outputs registry interruption method functionName
    pure (validate method functionName parameters outputs)

/-- Assemble a method; there is no outcome for one that is not a function. -/
def assemble (registry : Registry) (interruption : Interruption) (method : Method) :
    Assembling (Option Outcome) := do
  Assembling.checkpoint
  match method.functionName with
  | .ok none => pure none
  | .error diagnostic => pure (some (Outcome.rejected method.methodName [diagnostic]))
  | .ok (some functionName) =>
    let outcome ← assembleNamed registry interruption method functionName
    pure (some outcome)

end Method

end WorkerBindings
