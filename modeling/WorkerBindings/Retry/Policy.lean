import WorkerBindings.Interval
import WorkerBindings.Json.Decoder
import WorkerBindings.Json.Text

/-!
# Retry policies

A policy says how often a failed call of a function is repeated and after what pause. In documents
the member `strategy` names the kind of policy and intervals are interval text.
-/

namespace WorkerBindings

/-- A function-level retry strategy. -/
inductive RetryPolicy where
  | fixedDelay (maxRetryCount : UInt32) (delay : Interval)
  | exponentialBackoff (maxRetryCount : UInt32) (minimum maximum : Interval)
  deriving Repr, DecidableEq

namespace RetryPolicy

/-- How often a call is repeated at most. -/
def maxRetryCount : RetryPolicy → UInt32
  | .fixedDelay count _ => count
  | .exponentialBackoff count _ _ => count

/-- One line for people. -/
def summary : RetryPolicy → String
  | .fixedDelay count delay => s!"FixedDelay {Text.ofNat count.toNat}, {delay.format}"
  | .exponentialBackoff count minimum maximum =>
    s!"ExponentialBackoff {Text.ofNat count.toNat}, {minimum.format} to {maximum.format}"

/-- The member that names the strategy. -/
def strategyKey : String := "strategy"

/-- A policy as a document. -/
def toJson : RetryPolicy → Json
  | .fixedDelay count delay => .object [
      (strategyKey, .string "fixedDelay"),
      ("maxRetryCount", .nat count.toNat),
      ("delayInterval", .string delay.format)]
  | .exponentialBackoff count minimum maximum => .object [
      (strategyKey, .string "exponentialBackoff"),
      ("maxRetryCount", .nat count.toNat),
      ("minimumInterval", .string minimum.format),
      ("maximumInterval", .string maximum.format)]

/-- An interval that is not negative, from its text. -/
def decodeInterval : Decoder Interval := fun reading => do
  let text ← Decoder.string reading
  match Interval.parse? text with
  | some interval => .ok interval
  | none => .error (.invalidInterval text)

/-- The fields of a fixed delay. -/
def fixedDelayFields : List (Decoder.Field (UInt32 × Interval)) := [
  Decoder.required "maxRetryCount" Decoder.uint32 fun count (_, delay) => (count, delay),
  Decoder.required "delayInterval" decodeInterval fun delay (count, _) => (count, delay)]

/-- The fields of an exponential backoff. -/
def backoffFields : List (Decoder.Field (UInt32 × Interval × Interval)) := [
  Decoder.required "maxRetryCount" Decoder.uint32 fun count (_, rest) => (count, rest),
  Decoder.required "minimumInterval" decodeInterval fun minimum (count, _, maximum) =>
    (count, minimum, maximum),
  Decoder.required "maximumInterval" decodeInterval fun maximum (count, minimum, _) =>
    (count, minimum, maximum)]

/-- The policy that the members beside the strategy describe. -/
def decodeStrategy (strategy : String) : Decoder RetryPolicy := fun reading =>
  if strategy = "fixedDelay" then
    (Decoder.record fixedDelayFields (0, ⟨0⟩) reading).map fun (count, delay) =>
      .fixedDelay count delay
  else if strategy = "exponentialBackoff" then
    (Decoder.record backoffFields (0, ⟨0⟩, ⟨0⟩) reading).map fun (count, minimum, maximum) =>
      .exponentialBackoff count minimum maximum
  else .error .malformed

/-- Whether a member can be read at all, whatever it means. -/
def memberReads (budget : Nat) (member : Option String × Reading) : Bool :=
  member.1.isSome && (Decoder.value budget member.2).isOk

/-- A policy from a document. The strategy may stand anywhere among the members, so that all of them
are read before the first is examined. A policy may also be an array that starts
with its strategy. -/
def decode (budget : Nat) : Decoder RetryPolicy :=
  Decoder.nested budget fun inner reading =>
    match reading with
    | .object members =>
      if members.all (memberReads inner) then
        match members.partition fun member => member.1 == some strategyKey with
        | ([(_, .string strategy)], others) => decodeStrategy strategy (.object others)
        | _ => .error .malformed
      else .error .malformed
    | .array (.string strategy :: others) =>
      if (Decoder.values inner others).isOk then decodeStrategy strategy (.array others)
      else .error .malformed
    | _ => .error .malformed

end RetryPolicy

end WorkerBindings
