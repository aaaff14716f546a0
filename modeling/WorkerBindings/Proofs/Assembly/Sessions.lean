import WorkerBindings.Assembly.Session
import WorkerBindings.Proofs.Generator.Outputs

/-!
# Steps of a session that is not cancelled

Two ways to say what a step of assembling does in a session that nobody cancels, each with one rule
for every way in which steps are put together.

`Delivers` is for any cache: the step completes, the cache grows, and the value can be told from any
cache that extends the one it leaves. So a whole run is described by the cache it ends with.

`Yields` is for a cache that agrees with the symbols at hand: the value is always the same, and the
cache stays in agreement. So the order of steps does not matter, nor does what was assembled before.
-/

namespace WorkerBindings.Assembling

variable {α β : Type}

theorem bind_apply (step : Assembling α) (next : α → Assembling β) (session : Session) :
    (step >>= next) session =
      match step session with
      | (.ok value, after) => next value after
      | (.error reason, after) => (.error reason, after) := by
  change (ExceptT.bindCont next (step session).1 : StateM Session _) (step session).2 = _
  rcases step session with ⟨result, after⟩
  cases result <;> rfl

/-- From every session that is not cancelled, the step completes without a cancellation, keeps what
the cache knows, and has a value with the postcondition as soon as the cache that it leaves is
extended by `final`. -/
def Delivers (final : SymbolCache) (step : Assembling α) (post : α → Prop) : Prop :=
  ∀ session : Session, session.cancelled = false →
    ∃ value after, step session = (.ok value, after) ∧ after.cancelled = false ∧
      session.cache.Extends after.cache ∧ (after.cache.Extends final → post value)

namespace Delivers

variable {final : SymbolCache}

theorem pure {post : α → Prop} {value : α} (holds : post value) :
    Delivers final (Pure.pure value) post := by
  intro session uncancelled
  exact ⟨value, session, rfl, uncancelled, .refl _, fun _ => holds⟩

theorem mono {step : Assembling α} {post weaker : α → Prop} (delivers : Delivers final step post)
    (implies : ∀ value, post value → weaker value) : Delivers final step weaker := by
  intro session uncancelled
  obtain ⟨value, after, ran, stillUncancelled, grows, holds⟩ := delivers session uncancelled
  exact ⟨value, after, ran, stillUncancelled, grows, fun later => implies value (holds later)⟩

/-- A later step may assume of an earlier value what is known of it in the end. -/
theorem bind {step : Assembling α} {next : α → Assembling β} {middle : α → Prop}
    {post : β → Prop} (first : Delivers final step middle)
    (second : ∀ value, Delivers final (next value) fun result => middle value → post result) :
    Delivers final (step >>= next) post := by
  intro session uncancelled
  obtain ⟨value, between, ranFirst, uncancelledBetween, growsFirst, holdsFirst⟩ :=
    first session uncancelled
  obtain ⟨result, after, ranSecond, uncancelledAfter, growsSecond, holdsSecond⟩ :=
    second value between uncancelledBetween
  refine ⟨result, after, ?_, uncancelledAfter, growsFirst.trans growsSecond, fun later => ?_⟩
  · rw [bind_apply, ranFirst]
    exact ranSecond
  · exact holdsSecond later (holdsFirst (growsSecond.trans later))

/-- A step of which nothing is to be remembered. -/
theorem seq {step : Assembling α} {next : α → Assembling β} {post : β → Prop}
    (first : Delivers final step fun _ => True)
    (second : ∀ value, Delivers final (next value) post) :
    Delivers final (step >>= next) post :=
  first.bind fun value => (second value).mono fun _ holds _ => holds

theorem checkpoint : Delivers final checkpoint fun _ => True := by
  intro session uncancelled
  refine ⟨(), session, ?_, uncancelled, .refl _, fun _ => trivial⟩
  simp [Assembling.checkpoint, uncancelled]

theorem arrive (place : Nat) : Delivers final (arrive .never place) fun _ => True := by
  intro session uncancelled
  refine ⟨(), _, rfl, ?_, .refl _, fun _ => trivial⟩
  simp [uncancelled, Interruption.never]

theorem capabilitiesOf (attr : Attribute) :
    Delivers final (cached (SymbolCache.capabilitiesOf attr)) fun found =>
      found = final.facts attr := by
  intro session uncancelled
  refine ⟨_, _, rfl, uncancelled, SymbolCache.extends_capabilitiesOf attr session.cache, ?_⟩
  intro later
  exact (SymbolCache.capabilitiesOf_fst attr session.cache).trans
    (SymbolCache.facts_eq_of_extends later)

theorem classify (type : DeclaredType) :
    Delivers final (cached (SymbolCache.classify type)) (final.Classifies type) := by
  intro session uncancelled
  refine ⟨_, _, rfl, uncancelled, SymbolCache.extends_classify type session.cache, ?_⟩
  exact fun later => ⟨session.cache, later, rfl⟩

/-- A run has the postcondition for the cache that it ends with. -/
theorem run {step : Assembling α} {post : SymbolCache → α → Prop}
    (delivers : ∀ final, Delivers final step (post final)) {session : Session}
    (uncancelled : session.cancelled = false) :
    ∃ value after, step session = (.ok value, after) ∧ after.cancelled = false ∧
      session.cache.Extends after.cache ∧ post after.cache value := by
  obtain ⟨value, after, ran, stillUncancelled, grows, holds⟩ :=
    delivers (step session).2.cache session uncancelled
  rw [ran] at holds
  exact ⟨value, after, ran, stillUncancelled, grows, holds (.refl _)⟩

end Delivers

end Assembling

/-- `Responds registry final request output` says that the registry was called for the request, with
a cache that led to `final`, and returned the output. -/
def Registry.Responds (registry : Registry) (final : SymbolCache) (request : Request)
    (output : Output) : Prop :=
  ∃ cache, (registry.generate request cache).2.Extends final ∧
    (registry.generate request cache).1 = output

namespace Registry.Responds

variable {registry : Registry} {final : SymbolCache} {request : Request} {output : Output}

theorem answers (responds : registry.Responds final request output)
    (builtIn : registry.IsBuiltIn) : output.Answers request := by
  obtain ⟨cache, _, rfl⟩ := responds
  exact builtIn.lawful.answers request cache

/-- On symbols that agree with the last cache, a response is that of a call with an empty cache. -/
theorem eq_fresh (responds : registry.Responds final request output)
    (builtIn : registry.IsBuiltIn) {symbols : Symbols} (agree : symbols.AgreeWith final)
    (consistent : symbols.Consistent) (attr : request.attr ∈ symbols.attributes)
    (type : request.target.type ∈ symbols.types) :
    output = (registry.generate request SymbolCache.empty).1 := by
  obtain ⟨cache, later, rfl⟩ := responds
  have agreeBefore := agree.of_extends ((builtIn.lawful.grows request cache).trans later)
  exact builtIn.lawful.determined agreeBefore consistent attr type

end Registry.Responds

namespace Assembling

variable {α β : Type}

theorem generate_never (registry : Registry) (request : Request) (session : Session) :
    generate registry .never request session =
      (.ok (registry.generate request session.cache).1,
        { session with
          cache := (registry.generate request session.cache).2
          made := session.made ++ [⟨request, (registry.generate request session.cache).1⟩] }) := by
  simp only [generate, Interruption.never, Bool.or_false]
  rfl

theorem Delivers.generate {registry : Registry} (builtIn : registry.IsBuiltIn)
    {final : SymbolCache} (request : Request) :
    Delivers final (generate registry .never request) (registry.Responds final request) := by
  intro session uncancelled
  refine ⟨_, _, generate_never registry request session, uncancelled,
    builtIn.lawful.grows request session.cache, ?_⟩
  exact fun later => ⟨session.cache, later, rfl⟩

/-- From every session that is not cancelled and whose cache agrees with the symbols, the step
completes with this value and leaves such a session. -/
def Yields (symbols : Symbols) (step : Assembling α) (value : α) : Prop :=
  ∀ session : Session, session.cancelled = false → symbols.AgreeWith session.cache →
    ∃ after, step session = (.ok value, after) ∧ after.cancelled = false ∧
      symbols.AgreeWith after.cache

/-- The step yields one value, whichever that is. -/
def Steady (symbols : Symbols) (step : Assembling α) : Prop :=
  ∃ value, Yields symbols step value

namespace Yields

variable {symbols : Symbols}

theorem pure (value : α) : Yields symbols (Pure.pure value) value :=
  fun session uncancelled agree => ⟨session, rfl, uncancelled, agree⟩

theorem bind {step : Assembling α} {next : α → Assembling β} {value : α} {result : β}
    (first : Yields symbols step value) (second : Yields symbols (next value) result) :
    Yields symbols (step >>= next) result := by
  intro session uncancelled agree
  obtain ⟨between, ranFirst, uncancelledBetween, agreeBetween⟩ := first session uncancelled agree
  obtain ⟨after, ranSecond, uncancelledAfter, agreeAfter⟩ :=
    second between uncancelledBetween agreeBetween
  refine ⟨after, ?_, uncancelledAfter, agreeAfter⟩
  rw [bind_apply, ranFirst]
  exact ranSecond

theorem checkpoint : Yields symbols checkpoint () := by
  intro session uncancelled agree
  exact ⟨session, by simp [Assembling.checkpoint, uncancelled], uncancelled, agree⟩

/-- A query of the cache yields its answer if no agreeing cache gives another. -/
theorem cached {query : StateM SymbolCache α} {value : α}
    (answers : ∀ cache, symbols.AgreeWith cache →
      (query cache).1 = value ∧ symbols.AgreeWith (query cache).2) :
    Yields symbols (cached query) value := by
  intro session uncancelled agree
  obtain ⟨rfl, agreeAfter⟩ := answers session.cache agree
  exact ⟨{ session with cache := (query session.cache).2 }, rfl, uncancelled, agreeAfter⟩

theorem capabilitiesOf (consistent : symbols.Consistent) {attr : Attribute}
    (member : attr ∈ symbols.attributes) :
    Yields symbols (Assembling.cached (SymbolCache.capabilitiesOf attr)) attr.capabilities := by
  refine .cached fun cache agree => ⟨?_, agree.capabilitiesOf consistent member⟩
  exact (SymbolCache.capabilitiesOf_fst attr cache).trans (agree.facts_eq member)

theorem arrive (place : Nat) : Yields symbols (arrive .never place) () := by
  intro session uncancelled agree
  exact ⟨_, rfl, by simp [uncancelled, Interruption.never], agree⟩

end Yields

namespace Steady

variable {symbols : Symbols}

theorem pure (value : α) : Steady symbols (Pure.pure value) :=
  ⟨value, .pure value⟩

theorem bind {step : Assembling α} {next : α → Assembling β} (first : Steady symbols step)
    (second : ∀ value, Steady symbols (next value)) : Steady symbols (step >>= next) := by
  obtain ⟨value, yieldsFirst⟩ := first
  obtain ⟨result, yieldsSecond⟩ := second value
  exact ⟨result, yieldsFirst.bind yieldsSecond⟩

/-- A step after one whose value is known. -/
theorem after {step : Assembling α} {next : α → Assembling β} {value : α}
    (first : Yields symbols step value) (second : Steady symbols (next value)) :
    Steady symbols (step >>= next) := by
  obtain ⟨result, yieldsSecond⟩ := second
  exact ⟨result, first.bind yieldsSecond⟩

theorem checkpoint : Steady symbols checkpoint :=
  ⟨(), .checkpoint⟩

theorem classify (consistent : symbols.Consistent) {type : DeclaredType}
    (member : type ∈ symbols.types) : Steady symbols (cached (SymbolCache.classify type)) := by
  refine ⟨type.shape, .cached fun cache agree => ⟨?_, ?_⟩⟩
  · exact agree.classify_fst member
  · exact agree.classify consistent member

theorem generate {registry : Registry} (builtIn : registry.IsBuiltIn)
    (consistent : symbols.Consistent) {request : Request}
    (attr : request.attr ∈ symbols.attributes) (type : request.target.type ∈ symbols.types) :
    Steady symbols (generate registry .never request) := by
  refine ⟨(registry.generate request SymbolCache.empty).1, fun session uncancelled agree => ?_⟩
  rw [generate_never, builtIn.lawful.determined agree consistent attr type]
  exact ⟨_, rfl, uncancelled, builtIn.lawful.agrees agree consistent attr type⟩

end Steady

end Assembling

end WorkerBindings
