import WorkerBindings.Generator.Registry

/-!
# Assembling sessions

A session is what assembling carries from one function to the next: the symbol cache, the generator
calls made so far, and whether the run has been cancelled. Cancellation comes from outside, at
moments that an `Interruption` describes, and is looked at only at checkpoints; once cancelled, a
session stays so.
-/

namespace WorkerBindings

/-- The moments at which a run is cancelled. -/
structure Interruption where
  /-- Whether the run is cancelled during a generator call, given the number of calls before it. -/
  duringCall : Nat → Request → Bool
  /-- Whether the run is cancelled just before the method at this place is assembled. -/
  beforeMethod : Nat → Bool

/-- A run that is never cancelled. -/
def Interruption.never : Interruption :=
  ⟨fun _ _ => false, fun _ => false⟩

/-- A generator call that was made: what it was asked, and what it returned. -/
structure Invocation where
  request : Request
  output : Output

/-- What assembling carries along. -/
structure Session where
  cache : SymbolCache
  /-- The generator calls made so far, the earliest first. -/
  made : List Invocation
  cancelled : Bool

namespace Session

/-- The session that starts with a cache. -/
def ofCache (cache : SymbolCache) : Session :=
  ⟨cache, [], false⟩

/-- The number of generator calls made so far. -/
def calls (session : Session) : Nat :=
  session.made.length

end Session

/-- The one way in which assembling ends early. -/
inductive Cancelled where
  | cancelled
  deriving Repr, DecidableEq

/-- The words for a cancelled run. -/
def Cancelled.message : Cancelled → String
  | .cancelled => "Generation was cancelled"

/-- A step of assembling: it changes the session even if it ends in cancellation. -/
abbrev Assembling (α : Type) := ExceptT Cancelled (StateM Session) α

namespace Assembling

/-- Look into the cache. -/
def cached {α : Type} (query : StateM SymbolCache α) : Assembling α := fun session =>
  let (answer, cache) := query session.cache
  (.ok answer, { session with cache })

/-- End here if the run has been cancelled. -/
def checkpoint : Assembling Unit := fun session =>
  (if session.cancelled then .error .cancelled else .ok (), session)

/-- Call the generator for a request. -/
def generate (registry : Registry) (interruption : Interruption) (request : Request) :
    Assembling Output := fun session =>
  let (output, cache) := registry.generate request session.cache
  (.ok output, {
    cache
    made := session.made ++ [⟨request, output⟩]
    cancelled := session.cancelled || interruption.duringCall session.calls request })

/-- Cancel the run if it is time to, before the method at a place. -/
def arrive (interruption : Interruption) (place : Nat) : Assembling Unit := fun session =>
  (.ok (), { session with cancelled := session.cancelled || interruption.beforeMethod place })

end Assembling

end WorkerBindings
