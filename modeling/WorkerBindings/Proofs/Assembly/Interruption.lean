import WorkerBindings.Assembly.Module
import WorkerBindings.Proofs.Assembly.Sessions

/-!
# Interrupted runs

Cancellation is looked at between the steps of assembling and nowhere else. So an interrupted run
either stops, or goes through the very cache states of a run that nobody interrupts and ends with
its value; there is no third way for it to end (`EndsAs`). Which calls are made, and with which
requests, is settled before anything is known about interruptions; so the moments at which a run can
be struck are those of the run that nobody interrupts (`Interruptible`).

`WorkerModule.run_interrupted` says this of whole modules, where the checkpoint behind the last
method turns every cancellation into a failure, and of single methods.
-/

namespace WorkerBindings

/-- The session as it would be if nobody had cancelled it. -/
def Session.calm (session : Session) : Session :=
  { session with cancelled := false }

theorem Session.calm_eq {session : Session} (uncancelled : session.cancelled = false) :
    session.calm = session := by
  rw [calm, ← uncancelled]

namespace Interruption

/-- A cancellation falls on the arrival at one of the places, or into one of the calls with these
requests, of which the first has the given number. -/
def Strikes (interruption : Interruption) (firstCall : Nat) (places : List Nat)
    (requests : List Request) : Prop :=
  (∃ place ∈ places, interruption.beforeMethod place = true) ∨
    ∃ call ∈ requests.zipIdx firstCall, interruption.duringCall call.2 call.1 = true

variable {interruption : Interruption} {firstCall : Nat}

theorem not_strikes_nil : ¬ interruption.Strikes firstCall [] [] := by
  simp [Strikes]

theorem not_strikes_never (places : List Nat) (requests : List Request) :
    ¬ never.Strikes firstCall places requests := by
  simp [Strikes, never]

theorem strikes_place (place : Nat) :
    interruption.Strikes firstCall [place] [] ↔ interruption.beforeMethod place = true := by
  simp [Strikes]

theorem strikes_call (request : Request) :
    interruption.Strikes firstCall [] [request] ↔
      interruption.duringCall firstCall request = true := by
  simp [Strikes]

/-- The second of two runs goes on counting calls where the first left off. -/
theorem strikes_append (places others : List Nat) (requests later : List Request) :
    interruption.Strikes firstCall (places ++ others) (requests ++ later) ↔
      interruption.Strikes firstCall places requests ∨
        interruption.Strikes (firstCall + requests.length) others later := by
  simp only [Strikes, List.zipIdx_append, List.mem_append, or_and_right, exists_or]
  exact or_or_or_comm

end Interruption

namespace Assembling

variable {α β : Type}

/-- How a step may end that leads to a value and a session if nobody interrupts it: so it ends, or
it stops. `cancelled` says whether there has been a cancellation by then; without one no step
stops. -/
inductive EndsAs (value : α) (after : Session) (cancelled : Bool) :
    Except Cancelled α × Session → Prop where
  | completed : EndsAs value after cancelled (.ok value, { after with cancelled })
  | stopped {last : Session} (known : cancelled = true) (left : last.cancelled = true) :
      EndsAs value after cancelled (.error .cancelled, last)

namespace EndsAs

variable {value : α} {after : Session} {cancelled : Bool} {ended : Except Cancelled α × Session}

/-- The session remembers whether there has been a cancellation. -/
theorem cancelled_eq (endsAs : EndsAs value after cancelled ended) :
    ended.2.cancelled = cancelled := by
  cases endsAs with
  | completed => rfl
  | stopped known left => rw [left, known]

/-- Whether the later session is flagged as cancelled does not matter: `cancelled` says so. -/
theorem calm (endsAs : EndsAs value after cancelled ended) :
    EndsAs value after.calm cancelled ended := by
  cases endsAs with
  | completed => exact .completed
  | stopped known left => exact .stopped known left

/-- A step that nobody has interrupted completes. -/
theorem undisturbed (endsAs : EndsAs value after false ended) :
    ended = (.ok value, after.calm) := by
  cases endsAs with
  | completed => rfl
  | stopped known _ => cases known

/-- A step that completes has the value of the undisturbed step. -/
theorem of_ok {result : α} {last : Session}
    (endsAs : EndsAs value after cancelled (.ok result, last)) :
    result = value ∧ last.calm = after.calm := by
  cases endsAs
  exact ⟨rfl, rfl⟩

end EndsAs

/-- From every session there is one value, one later session and one list of requests, known before
anything is known of interruptions, such that every interrupted step ends as the undisturbed one or
stops, and has been cancelled in the end exactly if it was at the start or a cancellation falls on
one of the places or into one of the requests. -/
def Interruptible (places : List Nat) (step : Interruption → Assembling α) : Prop :=
  ∀ start : Session, ∃ value after requests, after.calls = start.calls + requests.length ∧
    ∀ interruption cancelled, ∃ cancelledAfter : Bool,
      (cancelledAfter = true ↔
        cancelled = true ∨ interruption.Strikes start.calls places requests) ∧
      EndsAs value after cancelledAfter (step interruption { start with cancelled })

namespace Interruptible

theorem pure (value : α) : Interruptible [] fun _ => Pure.pure value := by
  refine fun start => ⟨value, start, [], rfl, fun interruption cancelled => ⟨cancelled, ?_, ?_⟩⟩
  · simp [Interruption.not_strikes_nil]
  · exact .completed

theorem bind {places others : List Nat} {step : Interruption → Assembling α}
    {next : Interruption → α → Assembling β} (first : Interruptible places step)
    (second : ∀ value, Interruptible others (next · value)) :
    Interruptible (places ++ others) fun interruption =>
      step interruption >>= next interruption := by
  intro start
  obtain ⟨value, between, requests, callsFirst, endsFirst⟩ := first start
  obtain ⟨result, after, later, callsSecond, endsSecond⟩ := second value between
  refine ⟨result, after, requests ++ later, ?_, fun interruption cancelled => ?_⟩
  · rw [callsSecond, callsFirst, List.length_append]
    omega
  obtain ⟨cancelledBetween, struckFirst, endsFirst⟩ := endsFirst interruption cancelled
  obtain ⟨cancelledAfter, struckSecond, endsSecond⟩ := endsSecond interruption cancelledBetween
  refine ⟨cancelledAfter, ?_, ?_⟩
  · rw [struckSecond, struckFirst, Interruption.strikes_append, callsFirst, or_assoc]
  · change EndsAs result after cancelledAfter
      ((step interruption >>= next interruption) { start with cancelled })
    rw [bind_apply]
    -- A step that stops takes the whole with it; the flag can only go up after that.
    generalize step interruption { start with cancelled } = ended at endsFirst
    cases endsFirst with
    | completed => exact endsSecond
    | stopped known left => exact .stopped (struckSecond.mpr (.inl known)) left

/-- A step without places of its own before one that has some. -/
theorem seq {places : List Nat} {step : Interruption → Assembling α}
    {next : Interruption → α → Assembling β} (first : Interruptible [] step)
    (second : ∀ value, Interruptible places (next · value)) :
    Interruptible places fun interruption => step interruption >>= next interruption :=
  first.bind second

/-- A choice that does not depend on the interruption. -/
theorem ite {places : List Nat} {condition : Prop} [Decidable condition]
    {step other : Interruption → Assembling α} (yes : Interruptible places step)
    (no : Interruptible places other) :
    Interruptible places fun interruption =>
      if condition then step interruption else other interruption := by
  split
  · exact yes
  · exact no

theorem checkpoint : Interruptible [] fun _ => checkpoint := by
  refine fun start => ⟨(), start, [], rfl, fun interruption cancelled => ⟨cancelled, ?_, ?_⟩⟩
  · simp [Interruption.not_strikes_nil]
  · cases cancelled with
    | false => exact .completed
    | true => exact .stopped rfl rfl

theorem cached (query : StateM SymbolCache α) : Interruptible [] fun _ => cached query := by
  refine fun start => ⟨(query start.cache).1, { start with cache := (query start.cache).2 }, [],
    rfl, fun interruption cancelled => ⟨cancelled, ?_, ?_⟩⟩
  · simp [Interruption.not_strikes_nil]
  · exact .completed

theorem generate (registry : Registry) (request : Request) :
    Interruptible [] fun interruption => generate registry interruption request := by
  refine fun start => ⟨(registry.generate request start.cache).1,
    { start with
      cache := (registry.generate request start.cache).2
      made := start.made ++ [⟨request, (registry.generate request start.cache).1⟩] },
    [request], List.length_append, fun interruption cancelled =>
      ⟨cancelled || interruption.duringCall start.calls request, ?_, ?_⟩⟩
  · rw [Interruption.strikes_call, Bool.or_eq_true]
  · exact .completed

theorem arrive (place : Nat) :
    Interruptible [place] fun interruption => arrive interruption place := by
  refine fun start => ⟨(), start, [], rfl, fun interruption cancelled =>
    ⟨cancelled || interruption.beforeMethod place, ?_, ?_⟩⟩
  · rw [Interruption.strikes_place, Bool.or_eq_true]
  · exact .completed

/-- What an interruptible step does in a session, without an interruption and with one. -/
theorem runs {places : List Nat} {step : Interruption → Assembling α}
    (interruptible : Interruptible places step) (session : Session) :
    ∃ value after requests, step .never session.calm = (.ok value, after.calm) ∧
      ∀ interruption, ∃ cancelled : Bool,
        (cancelled = true ↔
          session.cancelled = true ∨ interruption.Strikes session.calls places requests) ∧
        EndsAs value after cancelled (step interruption session) := by
  obtain ⟨value, after, requests, _, ends⟩ := interruptible session
  refine ⟨value, after, requests, ?_, fun interruption => ends interruption session.cancelled⟩
  obtain ⟨cancelled, struck, endsAs⟩ := ends .never false
  have calm : cancelled = false := by
    simpa [Interruption.not_strikes_never] using struck
  subst calm
  exact endsAs.undisturbed

/-- An interrupted step that completes is a step that nobody interrupts, as to its value and as to
the session that it leaves. -/
theorem completed {places : List Nat} {step : Interruption → Assembling α}
    (interruptible : Interruptible places step) {interruption : Interruption}
    {session after : Session} {value : α}
    (ran : step interruption session = (.ok value, after)) :
    step .never session.calm = (.ok value, after.calm) := by
  obtain ⟨result, last, requests, calm, ends⟩ := interruptible.runs session
  obtain ⟨cancelled, _, endsAs⟩ := ends interruption
  rw [ran] at endsAs
  obtain ⟨rfl, sameSession⟩ := endsAs.of_ok
  rw [calm, sameSession]

end Interruptible

end Assembling

namespace Method

open Assembling

variable {registry : Registry} {method : Method}

theorem selectAttributes_interruptible (test : Capabilities → Bool) (attributes : List Attribute) :
    Interruptible [] fun _ => selectAttributes test attributes := by
  induction attributes with
  | nil => exact .pure []
  | cons attr rest ih =>
    refine .seq (.cached _) fun capabilities => ?_
    exact .seq ih fun others => .pure _

theorem parameterOutput_interruptible (parameter : Parameter) :
    Interruptible [] fun interruption =>
      parameterOutput registry interruption method parameter := by
  refine .seq (selectAttributes_interruptible _ _) fun attributes => ?_
  match attributes with
  | [] => exact .pure _
  | [attr] => exact .seq (.cached _) fun capabilities => .generate registry _
  | _ :: _ :: _ => exact .pure _

theorem parameterOutputs_interruptible (parameters : List Parameter) :
    Interruptible [] fun interruption =>
      parameterOutputs registry interruption method parameters := by
  induction parameters with
  | nil => exact .pure _
  | cons parameter rest ih =>
    refine .seq .checkpoint fun _ => ?_
    refine .seq (parameterOutput_interruptible parameter) fun first => ?_
    exact .seq ih fun others => .pure _

theorem targetOutputs_interruptible (target : Target) (attributes : List Attribute) :
    Interruptible [] fun interruption =>
      targetOutputs registry interruption target attributes := by
  induction attributes with
  | nil => exact .pure _
  | cons attr rest ih =>
    refine .seq (.cached _) fun capabilities => .ite ?_ ih
    exact .seq (.generate registry _) fun first => .seq ih fun others => .pure _

theorem propertyOutputs_interruptible (isCollection : Bool) (found : PropertyOutputs)
    (properties : List ResultProperty) :
    Interruptible [] fun interruption =>
      propertyOutputs registry interruption method isCollection found properties := by
  induction properties generalizing found with
  | nil => exact .pure _
  | cons property rest ih =>
    refine .seq .checkpoint fun _ => ?_
    refine .seq (targetOutputs_interruptible _ _) fun output => ?_
    exact .ite (ih _) (.ite (.pure _) (ih _))

theorem outputs_interruptible (functionName : String) :
    Interruptible [] fun interruption =>
      outputs registry interruption method functionName := by
  refine .seq (.cached _) fun classified => ?_
  match classified with
  | .error reason => exact .pure _
  | .ok shape =>
    refine .seq (propertyOutputs_interruptible _ _ _) fun found => .ite (.pure _) ?_
    exact .seq (targetOutputs_interruptible _ _) fun own => .ite (.pure _) (.pure _)

theorem assembleNamed_interruptible (functionName : String) :
    Interruptible [] fun interruption =>
      assembleNamed registry interruption method functionName := by
  refine .seq (parameterOutputs_interruptible _) fun parameters => .ite (.pure _) ?_
  exact .seq (outputs_interruptible _) fun outputs => .pure _

theorem assemble_interruptible (registry : Registry) (method : Method) :
    Interruptible [] fun interruption => method.assemble registry interruption := by
  refine .seq .checkpoint fun _ => ?_
  match method.functionName with
  | .ok none => exact .pure _
  | .error diagnostic => exact .pure _
  | .ok (some functionName) =>
    exact .seq (assembleNamed_interruptible _) fun outcome => .pure _

/-- An interrupted run that completes is a run that nobody interrupts, as to its value and as to the
cache that it leaves. -/
theorem assemble_completed {interruption : Interruption} {session after : Session}
    {result : Option Outcome}
    (ran : method.assemble registry interruption session = (.ok result, after)) :
    method.assemble registry .never session.calm = (.ok result, after.calm) :=
  (method.assemble_interruptible registry).completed ran

end Method

namespace WorkerModule

open Assembling

/-- The places of a run are those of its methods. -/
theorem assembleFrom_interruptible (registry : Registry) (place : Nat) (methods : List Method) :
    Interruptible (List.range' place methods.length) fun interruption =>
      assembleFrom registry interruption place methods := by
  induction methods generalizing place with
  | nil => exact .pure []
  | cons method rest ih =>
    refine Interruptible.bind (.arrive place) fun _ => ?_
    refine .seq (method.assemble_interruptible registry) fun first => ?_
    rw [← List.append_nil (List.range' (place + 1) rest.length)]
    exact (ih (place + 1)).bind fun others => .pure (first.toList ++ others)

/-- A run is cancelled exactly if it has been cancelled by the time its last method has been
assembled, which is the case exactly if it was at the start, a cancellation falls on the arrival at
one of its methods, or into one of the calls that it makes if nobody interrupts it. Otherwise it has
the outcome, and leaves the session, of the run that nobody interrupts. A single method has its
undisturbed outcome or none at all. -/
theorem run_interrupted (registry : Registry) (module : WorkerModule) (context : ModuleContext)
    (generatedAt : String) (session : Session) :
    (∃ outcome after requests,
      module.run registry .never context generatedAt session.calm = (.ok outcome, after) ∧
      ∀ interruption : Interruption,
        let last := (assembleFrom registry interruption 0 module.methods session).2
        (last.cancelled = true ↔ session.cancelled = true ∨
          interruption.Strikes session.calls (List.range module.methods.length) requests) ∧
        module.run registry interruption context generatedAt session =
          if last.cancelled then (.error .cancelled, last) else (.ok outcome, after)) ∧
    ∀ (method : Method) (start : Session), ∃ result after requests,
      method.assemble registry .never start.calm = (.ok result, after) ∧
      ∀ interruption : Interruption, ∃ cancelled : Bool,
        (cancelled = true ↔
          start.cancelled = true ∨ interruption.Strikes start.calls [] requests) ∧
        EndsAs result after cancelled (method.assemble registry interruption start) := by
  constructor
  · obtain ⟨outcomes, after, requests, calm, ends⟩ :=
      (assembleFrom_interruptible registry 0 module.methods).runs session
    refine ⟨module.summarize context generatedAt outcomes, after.calm, requests, ?_, ?_⟩
    · rw [run, bind_apply, calm]
      rfl
    · intro interruption
      obtain ⟨cancelled, struck, endsAs⟩ := ends interruption
      rw [List.range_eq_range', run, bind_apply]
      generalize assembleFrom registry interruption 0 module.methods session = ended at endsAs
      refine ⟨by rw [endsAs.cancelled_eq, struck], ?_⟩
      cases endsAs with
      | completed => cases cancelled <;> rfl
      | stopped known left => rw [if_pos left]
  · intro method start
    obtain ⟨result, after, requests, calm, ends⟩ :=
      (method.assemble_interruptible registry).runs start
    refine ⟨result, after.calm, requests, calm, fun interruption => ?_⟩
    obtain ⟨cancelled, struck, endsAs⟩ := ends interruption
    exact ⟨cancelled, struck, endsAs.calm⟩

end WorkerModule

end WorkerBindings
