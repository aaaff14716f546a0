import WorkerBindings.Diagnostic
import WorkerBindings.Retry.Policy
import WorkerBindings.Symbol.Attribute

/-!
# Retry resolution

A function may carry one retry attribute. Its arguments are checked in a fixed order and the first
violation is reported, so that a policy is either valid as a whole or absent. A valid policy is
still refused unless every binding of the function supports it.
-/

namespace WorkerBindings.Retry

/-- Whether an attribute states a retry policy. -/
def isRetry (attr : Attribute) : Bool :=
  attr.isClass Names.workerNamespace Names.fixedDelayClass ||
    attr.isClass Names.workerNamespace Names.backoffClass

/-- Why a retry attribute is refused. -/
inductive Violation where
  /-- There is more than one retry attribute. -/
  | repeatedAttribute
  | invalidCount
  | invalidInterval (argument : String)
  /-- The minimum is longer than the maximum. -/
  | reversedIntervals
  /-- Some binding of the function does not support retry. -/
  | unsupported
  deriving Repr, DecidableEq

/-- The report of a violation at the location of the function. -/
def Violation.diagnostic (location : Option String) : Violation → Diagnostic
  | .repeatedAttribute =>
    Diagnostic.report .invalidRetryArgument location ["retry attribute", "at most 1"]
  | .invalidCount =>
    Diagnostic.report .invalidRetryArgument location ["maxRetryCount", "integer greater than 0"]
  | .invalidInterval argument =>
    Diagnostic.report .invalidRetryArgument location [argument, "valid positive TimeSpan"]
  | .reversedIntervals =>
    Diagnostic.report .invalidRetryArgument location
      ["minimumInterval", "not be greater than the maximumInterval"]
  | .unsupported => Diagnostic.report .invalidRetryOptions location []

/-- The value of an argument by its name, else by its place in the constructor. -/
def argument? (attr : Attribute) (name : String) (place : Nat) : Option Constant :=
  attr.argument? name <|> (attr.arguments[place]?).map (·.value)

/-- The retry count: a positive integer of 32 bits, as a number or as text. -/
def count (attr : Attribute) : Except Violation UInt32 :=
  match (argument? attr "maxRetryCount" 0).bind Constant.int? with
  | some value =>
    if 0 < value ∧ value < 4294967296 then .ok (UInt32.ofNat value.toNat) else .error .invalidCount
  | none => .error .invalidCount

/-- An interval argument. -/
def interval (attr : Attribute) (name : String) (place : Nat) : Except Violation Interval :=
  match ((argument? attr name place).bind Constant.text?).bind Interval.parse? with
  | some value => .ok value
  | none => .error (.invalidInterval name)

/-- The policy of a fixed delay. -/
def fixedDelay (attr : Attribute) : Except Violation RetryPolicy := do
  let count ← count attr
  let delay ← interval attr "delayInterval" 1
  .ok (.fixedDelay count delay)

/-- The policy of a growing delay. -/
def backoff (attr : Attribute) : Except Violation RetryPolicy := do
  let count ← count attr
  let minimum ← interval attr "minimumInterval" 1
  let maximum ← interval attr "maximumInterval" 2
  if maximum.nanos < minimum.nanos then .error .reversedIntervals
  else .ok (.exponentialBackoff count minimum maximum)

/-- The policy of one retry attribute. -/
def policyOf (attr : Attribute) : Except Violation RetryPolicy :=
  if attr.className = Names.fixedDelayClass then fixedDelay attr else backoff attr

/-- The policy among the attributes of a function, if there is one. `supported` says whether all
bindings of the function support retry. -/
def resolve (attributes : List Attribute) (supported : Bool) :
    Except Violation (Option RetryPolicy) :=
  match attributes.filter isRetry with
  | [] => .ok none
  | [attr] => do
    let policy ← policyOf attr
    if supported then .ok (some policy) else .error .unsupported
  | _ => .error .repeatedAttribute

end WorkerBindings.Retry
