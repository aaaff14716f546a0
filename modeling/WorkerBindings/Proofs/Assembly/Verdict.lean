import WorkerBindings.Proofs.Assembly.Derivation

/-!
# The verdict on a function

When a method has an outcome at all, and when that outcome is an acceptance. There are five places
at which assembling rejects: the name, `async void`, the errors collected so far, the number of
triggers, and the retry attribute. None of them rejects in silence, and all but the first do so with
an error; so a function whose name is known is accepted exactly if no error was reported.
-/

namespace WorkerBindings

namespace Retry

/-- A retry attribute that is invalid in itself is refused whatever the bindings support. -/
theorem resolve_eq_error {attributes : List Attribute} {violation : Violation}
    (invalid : resolve attributes true = .error violation) (supported : Bool) :
    resolve attributes supported = .error violation := by
  unfold resolve at invalid ⊢
  match selection : attributes.filter isRetry with
  | [] =>
    simp only [selection] at invalid
    cases invalid
  | [attr] =>
    simp only [selection] at invalid ⊢
    cases policy : policyOf attr with
    | ok found => simp [policy, bind, Except.bind] at invalid
    | error reason =>
      simp only [policy, bind, Except.bind] at invalid ⊢
      exact invalid
  | first :: second :: rest =>
    simp only [selection] at invalid ⊢
    exact invalid

end Retry

/-- A violation of the rules for retry attributes is an error. -/
@[simp] theorem Retry.Violation.isError_diagnostic (violation : Violation)
    (location : Option String) : (violation.diagnostic location).isError = true := by
  cases violation <;> rfl

namespace Method

variable {registry : Registry} {final : SymbolCache} {method : Method}

/-- Whether a method carries a function attribute. -/
def isFunction (method : Method) : Bool :=
  method.attributes.any isFunctionAttribute

/-- What a function attribute states as its name: the argument of that name, else the first one. -/
def nameArgument? (attr : Attribute) : Option Constant :=
  attr.argument? "name" <|> attr.arguments.head?.map (·.value)

/-- The method carries exactly one function attribute, and the name that this states is a text that
is not blank. -/
def NameResolves (method : Method) : Prop :=
  ∃ attr text, method.attributes.filter isFunctionAttribute = [attr] ∧
    nameArgument? attr = some (.string text) ∧ Text.isBlankText text = false

theorem statedName?_eq_some {attr : Attribute} {name : String} :
    statedName? attr = some name ↔
      ∃ text, nameArgument? attr = some (.string text) ∧ Text.isBlankText text = false ∧
        name = Text.trim text := by
  have unfolded : statedName? attr =
      ((nameArgument? attr).bind Constant.text?).bind Text.nonBlank? := rfl
  rw [unfolded]
  constructor
  · intro stated
    obtain ⟨text, isText, trimmed⟩ := Option.bind_eq_some_iff.mp stated
    obtain ⟨constant, isArgument, isString⟩ := Option.bind_eq_some_iff.mp isText
    cases constant <;> cases isString
    unfold Text.nonBlank? at trimmed
    split at trimmed
    · cases trimmed
    · rename_i notBlank
      cases trimmed
      exact ⟨text, isArgument, Bool.eq_false_iff.mpr notBlank, rfl⟩
  · rintro ⟨text, isArgument, notBlank, rfl⟩
    simp [isArgument, Constant.text?, Text.nonBlank?, notBlank]

/-- A method has no name and no error exactly if it is not a function. -/
theorem functionName_eq_none : method.functionName = .ok none ↔ method.isFunction = false := by
  have selected : method.isFunction = false ↔
      method.attributes.filter isFunctionAttribute = [] := by
    rw [isFunction, List.any_eq_false, List.filter_eq_nil_iff]
  rw [selected]
  unfold functionName
  constructor
  · intro named
    split at named
    · assumption
    · split at named <;> cases named
    · cases named
  · intro none
    rw [none]

theorem nameResolves_iff : method.NameResolves ↔ ∃ name, method.functionName = .ok (some name) := by
  unfold functionName
  constructor
  · rintro ⟨attr, text, only, isArgument, notBlank⟩
    have stated : statedName? attr = some (Text.trim text) :=
      statedName?_eq_some.mpr ⟨text, isArgument, notBlank, rfl⟩
    exact ⟨Text.trim text, by rw [only]; simp [stated]⟩
  · rintro ⟨name, named⟩
    split at named
    · cases named
    · rename_i attr only
      split at named
      · rename_i stated
        obtain ⟨text, isArgument, notBlank, _⟩ := statedName?_eq_some.mp stated
        exact ⟨attr, text, only, isArgument, notBlank⟩
      · cases named
    · cases named

/-- The declaration of a function that passes validation. -/
def declarationOf (method : Method) (functionName : String) (parameters outputs : Output)
    (retry : Option RetryPolicy) : Declaration where
  functionName
  methodName := method.methodName
  containingType := method.containingType
  bindings := parameters.bindings.filter isTrigger ++
    parameters.bindings.filter (fun binding => !isTrigger binding) ++ outputs.bindings
  retry

/-- How the validation of collected bindings ends: with a rejection for which an error is the
reason, or with the declaration of a function that has one trigger and no error. -/
inductive Validated (method : Method) (functionName : String) (parameters outputs : Output) :
    Outcome → Prop where
  | refused (reports : List Diagnostic)
      (errors : Diagnostic.hasErrors
        (parameters.diagnostics ++ outputs.diagnostics ++ reports) = true) :
      Validated method functionName parameters outputs (Outcome.rejected functionName
        (parameters.diagnostics ++ outputs.diagnostics ++ reports))
  | passed {supported : Bool} {retry : Option RetryPolicy} {trigger : Binding}
      (faultless : Diagnostic.hasErrors (parameters.diagnostics ++ outputs.diagnostics) = false)
      (oneTrigger : parameters.bindings.filter isTrigger = [trigger])
      (resolved : Retry.resolve method.attributes supported = .ok retry) :
      Validated method functionName parameters outputs (Outcome.accepted
        (method.declarationOf functionName parameters outputs retry)
        (parameters.diagnostics ++ outputs.diagnostics))

theorem validate_validated (method : Method) (functionName : String)
    (parameters outputs : Output) :
    Validated method functionName parameters outputs
      (validate method functionName parameters outputs) := by
  unfold validate
  dsimp only
  split
  · rename_i errors
    have refused : Validated method functionName parameters outputs (Outcome.rejected functionName
        (parameters.diagnostics ++ outputs.diagnostics ++ [])) :=
      .refused [] (by simpa using errors)
    simpa using refused
  · rename_i faultless
    split
    · exact .refused _ (by simp [Problem.entry])
    · rename_i oneTrigger
      obtain ⟨trigger, only⟩ := List.length_eq_one_iff.mp (Decidable.not_not.mp oneTrigger)
      split
      · exact .refused _ (by simp)
      · rename_i retry resolved
        exact .passed (Bool.eq_false_iff.mpr faultless) only resolved

/-- What holds of every outcome of a method. -/
structure Verdict (method : Method) (outcome : Outcome) : Prop where
  ends : outcome.stage = .accepted ∨ outcome.stage = .rejected
  declares : outcome.declaration.isSome = true ↔ outcome.stage = .accepted
  accepts : outcome.stage = .accepted ↔
    method.NameResolves ∧ Diagnostic.hasErrors outcome.diagnostics = false
  explains : outcome.stage = .rejected → outcome.diagnostics ≠ []
  errs : method.NameResolves → outcome.stage = .rejected →
    ∃ report ∈ outcome.diagnostics, report.isError = true
  refusesAsyncVoid : method.NameResolves → method.isAsync = true →
    method.returnType.name = Names.void →
      outcome.stage = .rejected ∧ ∃ report ∈ outcome.diagnostics, report.problem = .asyncVoid
  refusesRetry : (∃ violation, Retry.resolve method.attributes true = .error violation) →
    outcome.stage = .rejected

/-- A rejection with an error has its verdict, if it says so where the reason is `async void`. -/
theorem Verdict.of_errors {functionName : String} {diagnostics : List Diagnostic}
    (errors : Diagnostic.hasErrors diagnostics = true)
    (asyncVoid : method.isAsync = true → method.returnType.name = Names.void →
      ∃ report ∈ diagnostics, report.problem = .asyncVoid) :
    method.Verdict (Outcome.rejected functionName diagnostics) where
  ends := .inr rfl
  declares := by simp [Outcome.rejected]
  accepts := by simp [Outcome.rejected, errors]
  explains := by
    rintro _ rfl
    cases errors
  errs _ _ := List.any_eq_true.mp errors
  refusesAsyncVoid _ isAsync isVoid := ⟨rfl, asyncVoid isAsync isVoid⟩
  refusesRetry _ := rfl

/-- A rejection because of the name has its verdict. -/
theorem Verdict.of_unnamed {diagnostic : Diagnostic}
    (named : method.functionName = .error diagnostic) :
    method.Verdict (Outcome.rejected method.methodName [diagnostic]) := by
  have unresolved : ¬ method.NameResolves := by
    intro resolves
    obtain ⟨name, resolved⟩ := nameResolves_iff.mp resolves
    rw [resolved] at named
    cases named
  exact {
    ends := .inr rfl
    declares := by simp [Outcome.rejected]
    accepts := by simp [Outcome.rejected, unresolved]
    explains := by simp [Outcome.rejected]
    errs := fun resolves => absurd resolves unresolved
    refusesAsyncVoid := fun resolves => absurd resolves unresolved
    refusesRetry := fun _ => rfl }

/-- The outcome of validation has its verdict. -/
theorem Verdict.of_validated {functionName : String} {parameters outputs : Output}
    {outcome : Outcome} (named : method.functionName = .ok (some functionName))
    (notAsyncVoid : (method.isAsync && method.returnType.name == Names.void) = false)
    (validated : Validated method functionName parameters outputs outcome) :
    method.Verdict outcome := by
  have excluded : method.isAsync = true → method.returnType.name ≠ Names.void := by
    intro isAsync isVoid
    simp [isAsync, isVoid] at notAsyncVoid
  have resolves : method.NameResolves := nameResolves_iff.mpr ⟨functionName, named⟩
  cases validated with
  | refused reports errors =>
    exact .of_errors errors fun isAsync isVoid => absurd isVoid (excluded isAsync)
  | passed faultless oneTrigger resolved =>
    rename_i supported retry trigger
    exact {
      ends := .inl rfl
      declares := by simp [Outcome.accepted]
      accepts := iff_of_true rfl ⟨resolves, faultless⟩
      explains := by simp [Outcome.accepted]
      errs := by simp [Outcome.accepted]
      refusesAsyncVoid := fun _ isAsync isVoid => absurd isVoid (excluded isAsync)
      refusesRetry := by
        rintro ⟨violation, invalid⟩
        rw [Retry.resolve_eq_error invalid supported] at resolved
        cases resolved }

/-- Every outcome that has a derivation has its verdict. -/
theorem Assembled.verdict {outcome : Outcome}
    (assembled : Assembled registry final method (some outcome)) : method.Verdict outcome := by
  generalize result : some outcome = ended at assembled
  cases assembled with
  | skipped named => cases result
  | unnamed named =>
    cases result
    exact .of_unnamed named
  | asyncVoid named parametersYield isAsyncVoid =>
    cases result
    refine .of_errors (by simp [Problem.entry]) fun _ _ => ?_
    exact ⟨_, List.mem_append_right _ (List.mem_singleton.mpr rfl), rfl⟩
  | validated named parametersYield notAsyncVoid outputsYield =>
    cases result
    exact .of_validated named notAsyncVoid (validate_validated method _ _ _)

/-- There is no outcome exactly for the methods that are not functions. -/
theorem Assembled.eq_none_iff {result : Option Outcome}
    (assembled : Assembled registry final method result) :
    result = none ↔ method.isFunction = false := by
  rw [← functionName_eq_none]
  cases assembled with
  | skipped named => exact iff_of_true rfl named
  | unnamed named | asyncVoid named _ _ | validated named _ _ _ => simp [named]

/-- A function that a queue message triggers and whose result goes to another queue. -/
def relay : Method where
  methodName := "Run"
  containingType := "Orders.Relay"
  attributes := [
    { className := Names.functionClass
      namespaceName := some Names.workerNamespace
      arguments := [⟨"name", .string "Relay"⟩] },
    { className := "QueueOutputAttribute"
      baseTypes := [Names.outputBase]
      arguments := [⟨"queueName", .string "done"⟩] }]
  parameters := [
    { name := "message"
      type := DeclaredType.named "string"
      attributes := [
        { className := "QueueTriggerAttribute"
          baseTypes := [Names.triggerBase]
          arguments := [⟨"queueName", .string "orders"⟩] }] }]
  returnType := DeclaredType.named "string"

end Method

end WorkerBindings
