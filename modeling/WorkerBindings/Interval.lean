import WorkerBindings.Text.Blank
import WorkerBindings.Text.Digits
import WorkerBindings.Text.Substitution

/-!
# Interval text

Intervals are written as whole days, as `[d.]hh:mm[:ss[.fffffff]]` or as `d:hh:mm:ss[.fffffff]`,
with a minus sign in front if they are negative. They are read in ticks of 100 nanoseconds; a number
of ticks that does not fit a signed 64-bit integer is no interval.
-/

namespace WorkerBindings

/-- A span of time in whole nanoseconds. -/
structure Interval where
  nanos : Nat
  deriving Repr, DecidableEq

namespace Interval

/-- The ticks of one second. -/
def ticksPerSecond : Nat := 10000000

/-- The ticks of one minute. -/
def ticksPerMinute : Nat := 600000000

/-- The ticks of one hour. -/
def ticksPerHour : Nat := 36000000000

/-- The ticks of one day. -/
def ticksPerDay : Nat := 864000000000

/-- The largest number of ticks. -/
def maxTicks : Nat := 9223372036854775807

/-- The most digits that a fraction of a second may have; the last of them counts ticks. -/
def fractionDigits : Nat := 7

/-- A number of ticks that is not too large. -/
def capped? (value : Nat) : Option Nat :=
  if value ≤ maxTicks then some value else none

/-- One or more digits. -/
def number? (part : List Char) : Option Nat := do
  let value ← Text.nat? part
  capped? value

/-- One or more digits that stand for a number up to `limit`. -/
def bounded? (limit : Nat) (part : List Char) : Option Nat := do
  let value ← number? part
  if value ≤ limit then some value else none

/-- The days and the text of the hours in `[d.]hh`. -/
def splitDays? (head : List Char) : Option (Nat × List Char) :=
  match Text.cutAtFirst? '.' head with
  | some (days, hours) => (number? days).map fun days => (days, hours)
  | none => some (0, head)

/-- The ticks of the digits after the point of the seconds. -/
def fraction? (part : List Char) : Option Nat :=
  if 1 ≤ part.length ∧ part.length ≤ fractionDigits then
    (number? part).map fun value => value * Nat.pow 10 (fractionDigits - part.length)
  else none

/-- The ticks of `ss[.fffffff]`. -/
def seconds? (part : List Char) : Option Nat := do
  match Text.cutAtFirst? '.' part with
  | some (whole, fraction) =>
    let whole ← bounded? 59 whole
    let fraction ← fraction? fraction
    some (whole * ticksPerSecond + fraction)
  | none =>
    let whole ← bounded? 59 part
    some (whole * ticksPerSecond)

/-- The ticks of days, hours and minutes that are still text in part, and of seconds that are
counted. -/
def clockTicks? (days : Nat) (hours minutes : List Char) (seconds : Nat) : Option Nat := do
  let hours ← bounded? 23 hours
  let minutes ← bounded? 59 minutes
  capped? (days * ticksPerDay + (hours * ticksPerHour + minutes * ticksPerMinute + seconds))

/-- The ticks of a text with colons. -/
def clock? (body : List Char) : Option Nat :=
  match Text.pieces ':' body with
  | [head, minutes] => do
    let (days, hours) ← splitDays? head
    clockTicks? days hours minutes 0
  | [head, minutes, seconds] => do
    let (days, hours) ← splitDays? head
    let seconds ← seconds? seconds
    clockTicks? days hours minutes seconds
  | [days, hours, minutes, seconds] => do
    let days ← number? days
    let seconds ← seconds? seconds
    clockTicks? days hours minutes seconds
  | _ => none

/-- The ticks of an interval without its sign. -/
def magnitude? (body : List Char) : Option Nat :=
  if ':' ∈ body then clock? body
  else do
    let days ← number? body
    capped? (days * ticksPerDay)

/-- The signed ticks of an interval, after blank characters at the ends are taken off. -/
def parseTicks? (text : String) : Option Int :=
  match Text.trimCharacters text.toList with
  | '-' :: body => (magnitude? body).map fun ticks => -(ticks : Int)
  | body => (magnitude? body).map fun ticks => (ticks : Int)

/-- The interval of a number of ticks, its sign aside. An interval is never longer than 2^64-1
nanoseconds, so that a larger number of ticks yields that much. -/
def ofTicks (ticks : Int) : Interval :=
  ⟨min (ticks.natAbs * 100) Text.uint64Max⟩

/-- An interval that is not negative. -/
def parse? (text : String) : Option Interval := do
  let ticks ← parseTicks? text
  if ticks < 0 then none else some (ofTicks ticks)

/-- The whole ticks of an interval, as many as can be counted. -/
def ticks (interval : Interval) : Nat :=
  min (interval.nanos / 100) maxTicks

/-- The characters of `[d.]hh:mm:ss[.fffffff]` for a number of ticks. -/
def formatTicks (ticks : Nat) : List Char :=
  let days := ticks / ticksPerDay
  let hours := ticks % ticksPerDay / ticksPerHour
  let minutes := ticks % ticksPerHour / ticksPerMinute
  let seconds := ticks % ticksPerMinute / ticksPerSecond
  let fraction := ticks % ticksPerSecond
  (if 0 < days then Text.digits days ++ ['.'] else []) ++
    Text.paddedDigits 2 hours ++ [':'] ++ Text.paddedDigits 2 minutes ++ [':'] ++
    Text.paddedDigits 2 seconds ++
    (if 0 < fraction then '.' :: Text.paddedDigits fractionDigits fraction else [])

/-- The text of an interval, cut down to whole ticks. -/
def format (interval : Interval) : String :=
  String.ofList (formatTicks interval.ticks)

end Interval

end WorkerBindings
