import WorkerBindings.Proofs.Assembly.Sessions

/-!
# The calls of a step

The session records every generator call with what it returned. `Accounts` says which calls a step
adds to the record, for a step that others may follow; `Closes` is for a last step, which may speak
of what the cache does not know. Both have one rule for every way in which steps are put together.
`Accounted` relates diagnostics to the calls that returned them, and to what is reported beside.
-/

namespace WorkerBindings

namespace Invocation

/-- The bindings that calls returned. -/
def bindingsOf (calls : List Invocation) : List Binding :=
  calls.flatMap (·.output.bindings)

/-- The diagnostics that calls returned. -/
def diagnosticsOf (calls : List Invocation) : List Diagnostic :=
  calls.flatMap (·.output.diagnostics)

@[simp] theorem bindingsOf_append (calls later : List Invocation) :
    bindingsOf (calls ++ later) = bindingsOf calls ++ bindingsOf later :=
  List.flatMap_append

@[simp] theorem bindingsOf_singleton (request : Request) (output : Output) :
    bindingsOf [⟨request, output⟩] = output.bindings :=
  List.flatMap_singleton _ _

/-- The call was made with this request, and returned what the registry answered, with a cache that
led to `final`. -/
structure Serves (registry : Registry) (final : SymbolCache) (request : Request)
    (call : Invocation) : Prop where
  asked : call.request = request
  responds : registry.Responds final request call.output

end Invocation

open Invocation

namespace Assembling

variable {α β : Type}

/-- From every session that is not cancelled, the step completes without a cancellation, keeps what
the cache knows, and adds calls to those that the session has recorded. Its value and these calls
have the postcondition for every cache that extends the one it leaves. -/
def Accounts (step : Assembling α) (post : SymbolCache → α → List Invocation → Prop) : Prop :=
  ∀ session : Session, session.cancelled = false →
    ∃ value after calls, step session = (.ok value, after) ∧
      after.made = session.made ++ calls ∧ after.cancelled = false ∧
      session.cache.Extends after.cache ∧
      ∀ final, after.cache.Extends final → post final value calls

namespace Accounts

theorem pure {post : SymbolCache → α → List Invocation → Prop} {value : α}
    (holds : ∀ final, post final value []) : Accounts (Pure.pure value) post :=
  fun session uncancelled => ⟨value, session, [], rfl, (List.append_nil _).symm, uncancelled,
    .refl _, fun final _ => holds final⟩

theorem mono {step : Assembling α} {post weaker : SymbolCache → α → List Invocation → Prop}
    (accounts : Accounts step post)
    (implies : ∀ final value calls, post final value calls → weaker final value calls) :
    Accounts step weaker := by
  intro session uncancelled
  obtain ⟨value, after, calls, ran, made, stillUncancelled, grows, holds⟩ :=
    accounts session uncancelled
  exact ⟨value, after, calls, ran, made, stillUncancelled, grows,
    fun final later => implies final value calls (holds final later)⟩

/-- The calls of both steps, in their order, are the calls of the two together. -/
theorem bind {step : Assembling α} {next : α → Assembling β}
    {middle : SymbolCache → α → List Invocation → Prop}
    {post : SymbolCache → β → List Invocation → Prop} (first : Accounts step middle)
    (second : ∀ value, Accounts (next value) fun final result later =>
      ∀ calls, middle final value calls → post final result (calls ++ later)) :
    Accounts (step >>= next) post := by
  intro session uncancelled
  obtain ⟨value, between, calls, ranFirst, madeFirst, uncancelledBetween, growsFirst, holdsFirst⟩ :=
    first session uncancelled
  obtain ⟨result, after, later, ranSecond, madeSecond, uncancelledAfter, growsSecond,
    holdsSecond⟩ := second value between uncancelledBetween
  refine ⟨result, after, calls ++ later, ?_, ?_, uncancelledAfter, growsFirst.trans growsSecond,
    fun final known => ?_⟩
  · rw [bind_apply, ranFirst]
    exact ranSecond
  · rw [madeSecond, madeFirst, List.append_assoc]
  · exact holdsSecond final known calls (holdsFirst final (growsSecond.trans known))

/-- A step that follows one without calls. -/
theorem after {step : Assembling α} {next : α → Assembling β} {middle : SymbolCache → α → Prop}
    {post : SymbolCache → β → List Invocation → Prop}
    (first : Accounts step fun final value calls => calls = [] ∧ middle final value)
    (second : ∀ value, Accounts (next value) fun final result calls =>
      middle final value → post final result calls) :
    Accounts (step >>= next) post := by
  refine .bind first fun value => (second value).mono fun final result later holds => ?_
  rintro _ ⟨rfl, known⟩
  exact holds known

/-- A step that leaves the record of calls alone, as far as it is known what it delivers. -/
theorem of_delivers {step : Assembling α} {post : SymbolCache → α → Prop}
    (delivers : ∀ final, Delivers final step (post final))
    (unrecorded : ∀ session, (step session).2.made = session.made) :
    Accounts step fun final value calls => calls = [] ∧ post final value := by
  intro session uncancelled
  obtain ⟨value, after, ran, stillUncancelled, grows, _⟩ :=
    delivers session.cache session uncancelled
  refine ⟨value, after, [], ran, ?_, stillUncancelled, grows, fun final later => ⟨rfl, ?_⟩⟩
  · rw [List.append_nil, ← unrecorded session, ran]
  · -- What `delivers` says for this `final` is about the same run.
    obtain ⟨_, _, ranAgain, _, _, holds⟩ := delivers final session uncancelled
    rw [ran] at ranAgain
    cases ranAgain
    exact holds later

theorem checkpoint : Accounts checkpoint fun _ _ calls => calls = [] ∧ True :=
  .of_delivers (fun _ => .checkpoint) fun _ => rfl

theorem capabilitiesOf (attr : Attribute) :
    Accounts (cached (SymbolCache.capabilitiesOf attr)) fun final found calls =>
      calls = [] ∧ found = final.facts attr :=
  .of_delivers (fun _ => .capabilitiesOf attr) fun _ => rfl

theorem generate {registry : Registry} (builtIn : registry.IsBuiltIn) (request : Request) :
    Accounts (generate registry .never request) fun final output calls =>
      calls = [⟨request, output⟩] ∧ registry.Responds final request output := by
  intro session uncancelled
  exact ⟨_, _, _, generate_never registry request session, rfl, uncancelled,
    builtIn.lawful.grows request session.cache, fun final later => ⟨rfl, session.cache, later, rfl⟩⟩

end Accounts

/-- From every session that is not cancelled, the step completes and adds calls to those that the
session has recorded, and its value and these calls have the postcondition for the cache that it
leaves. No later step may change the cache, so the postcondition may be one that is lost when the
cache grows. -/
def Closes (step : Assembling α) (post : SymbolCache → α → List Invocation → Prop) : Prop :=
  ∀ session : Session, session.cancelled = false →
    ∃ value after calls, step session = (.ok value, after) ∧
      after.made = session.made ++ calls ∧ session.cache.Extends after.cache ∧
      post after.cache value calls

namespace Closes

theorem of_accounts {step : Assembling α} {post : SymbolCache → α → List Invocation → Prop}
    (accounts : Accounts step post) : Closes step post := by
  intro session uncancelled
  obtain ⟨value, after, calls, ran, made, _, grows, holds⟩ := accounts session uncancelled
  exact ⟨value, after, calls, ran, made, grows, holds after.cache (.refl _)⟩

theorem bind {step : Assembling α} {next : α → Assembling β}
    {middle : SymbolCache → α → List Invocation → Prop}
    {post : SymbolCache → β → List Invocation → Prop} (first : Accounts step middle)
    (second : ∀ value, Closes (next value) fun final result later =>
      ∀ calls, middle final value calls → post final result (calls ++ later)) :
    Closes (step >>= next) post := by
  intro session uncancelled
  obtain ⟨value, between, calls, ranFirst, madeFirst, uncancelledBetween, growsFirst, holdsFirst⟩ :=
    first session uncancelled
  obtain ⟨result, after, later, ranSecond, madeSecond, growsSecond, holds⟩ :=
    second value between uncancelledBetween
  refine ⟨result, after, calls ++ later, ?_, ?_, growsFirst.trans growsSecond,
    holds calls (holdsFirst after.cache growsSecond)⟩
  · rw [bind_apply, ranFirst]
    exact ranSecond
  · rw [madeSecond, madeFirst, List.append_assoc]

/-- What is done with the value of a last step without another step. -/
theorem map {step : Assembling α} {change : α → β}
    {middle : SymbolCache → α → List Invocation → Prop}
    {post : SymbolCache → β → List Invocation → Prop} (closes : Closes step middle)
    (implies : ∀ final value calls, middle final value calls → post final (change value) calls) :
    Closes (step >>= fun value => Pure.pure (change value)) post := by
  intro session uncancelled
  obtain ⟨value, after, calls, ran, made, grows, holds⟩ := closes session uncancelled
  refine ⟨change value, after, calls, ?_, made, grows, implies _ _ _ holds⟩
  rw [bind_apply, ran]
  rfl

/-- A type that is looked at before the last step. If its shape cannot be found nothing else is
done, and the last cache does not know the type either. -/
theorem classify {type : DeclaredType} {next : Except ShapeError Shape → Assembling α}
    {post : SymbolCache → α → List Invocation → Prop}
    (unknown : ∀ reason, ∃ value, next (.error reason) = Pure.pure value ∧
      ∀ final : SymbolCache, final.shapeOf type = .error reason → post final value [])
    (known : ∀ shape, Closes (next (.ok shape)) fun final value calls =>
      final.shapeOf type = .ok shape → post final value calls) :
    Closes (cached (SymbolCache.classify type) >>= next) post := by
  intro session uncancelled
  have looked : cached (SymbolCache.classify type) session =
      (.ok (session.cache.shapeOf type),
        { session with cache := (SymbolCache.classify type session.cache).2 }) := by
    rw [← SymbolCache.classify_fst]
    rfl
  rw [bind_apply, looked]
  cases answered : session.cache.shapeOf type with
  | error reason =>
    obtain ⟨value, only, holds⟩ := unknown reason
    rw [SymbolCache.classify_snd_of_error answered]
    refine ⟨value, session, [], ?_, (List.append_nil _).symm, .refl _, holds _ answered⟩
    dsimp only
    rw [only]
    rfl
  | ok shape =>
    obtain ⟨value, after, calls, ran, made, grows, holds⟩ := known shape
      { session with cache := (SymbolCache.classify type session.cache).2 } uncancelled
    refine ⟨value, after, calls, ran, made,
      (SymbolCache.extends_classify type session.cache).trans grows, holds ?_⟩
    exact SymbolCache.shapeOf_eq_ok_of_extends grows answered

end Closes

end Assembling

/-- The diagnostics are those that the calls returned and these reports, each once. -/
def Accounted (diagnostics : List Diagnostic) (calls : List Invocation)
    (reports : List Diagnostic) : Prop :=
  diagnostics.Perm (diagnosticsOf calls ++ reports)

namespace Accounted

variable {first second diagnostics reports more : List Diagnostic} {calls later : List Invocation}

theorem nil : Accounted [] [] [] :=
  .refl _

theorem reported (reports : List Diagnostic) : Accounted reports [] reports :=
  .refl _

theorem returned (request : Request) (output : Output) :
    Accounted output.diagnostics [⟨request, output⟩] [] := by
  rw [Accounted, diagnosticsOf, List.flatMap_singleton, List.append_nil]

theorem append (here : Accounted first calls reports) (there : Accounted second later more) :
    Accounted (first ++ second) (calls ++ later) (reports ++ more) := by
  have sorted : ((diagnosticsOf calls ++ reports) ++ (diagnosticsOf later ++ more)).Perm
      (diagnosticsOf calls ++ (diagnosticsOf later ++ (reports ++ more))) := by
    rw [List.append_assoc]
    exact (List.perm_append_comm_assoc ..).append_left _
  have joined : diagnosticsOf (calls ++ later) = diagnosticsOf calls ++ diagnosticsOf later :=
    List.flatMap_append
  rw [Accounted, joined, List.append_assoc]
  exact (List.Perm.append here there).trans sorted

/-- The assembler reports something itself. -/
theorem report (accounted : Accounted diagnostics calls reports) (report : Diagnostic) :
    Accounted (diagnostics ++ [report]) calls (reports ++ [report]) := by
  have reported := accounted.append (.reported [report])
  rwa [List.append_nil] at reported

theorem of_perm (accounted : Accounted first calls reports) (perm : second.Perm first) :
    Accounted second calls reports :=
  perm.trans accounted

/-- Whether something went wrong can be told from the sources. -/
theorem hasErrors_eq (accounted : Accounted diagnostics calls reports) :
    Diagnostic.hasErrors diagnostics =
      Diagnostic.hasErrors (diagnosticsOf calls ++ reports) :=
  accounted.any_eq

end Accounted

end WorkerBindings
