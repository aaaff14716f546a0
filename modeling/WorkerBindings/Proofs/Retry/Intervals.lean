import WorkerBindings.Proofs.Interval.Durations
import WorkerBindings.Proofs.Retry.Resolution

/-!
# The intervals of a growing delay

The minimum of a growing delay is compared with its maximum after both were turned into nanoseconds.
The order is that of the ticks in the texts unless neither can be counted: then both intervals are
the longest one, and a minimum above the maximum goes unnoticed.
-/

namespace WorkerBindings

namespace Retry

variable {attr : Attribute} {count : UInt32} {minimum maximum : String}
  {minimumTicks maximumTicks : Nat}

/-- What the check of the order makes of two texts that are read. -/
theorem backoff_of_ticks (counted : StatesCount attr count)
    (least : Finds attr "minimumInterval" 1 (.string minimum))
    (most : Finds attr "maximumInterval" 2 (.string maximum))
    (leastReads : Interval.parseTicks? minimum = some (minimumTicks : Int))
    (mostReads : Interval.parseTicks? maximum = some (maximumTicks : Int)) :
    backoff attr =
      if maximumTicks < minimumTicks ∧ Interval.IsCountable maximumTicks then
        .error .reversedIntervals
      else
        .ok (.exponentialBackoff count (.ofTicks minimumTicks) (.ofTicks maximumTicks)) := by
  have leastInterval : interval attr "minimumInterval" 1 = .ok (.ofTicks minimumTicks) :=
    interval_eq_ok_iff.mpr ⟨minimum, least, Interval.parse?_of_parseTicks? leastReads⟩
  have mostInterval : interval attr "maximumInterval" 2 = .ok (.ofTicks maximumTicks) :=
    interval_eq_ok_iff.mpr ⟨maximum, most, Interval.parse?_of_parseTicks? mostReads⟩
  simp only [backoff, count_eq_ok_iff.mpr counted, leastInterval, mostInterval, bind, Except.bind,
    Interval.nanos_ofTicks_lt_iff]

end Retry

namespace Interval

open Text

/-- A text that is not negative is read as an interval that lasts a hundred nanoseconds for each of
its ticks and shows them again, exactly if so many can be counted, and otherwise as the longest
interval. Two such intervals have the order of their ticks unless these are different and neither
can be counted, and so the minimum of a growing delay is found to be above the maximum exactly if
it is and the maximum can be counted. -/
theorem parse_exact_iff {text : String} {ticks : Nat}
    (reads : parseTicks? text = some (ticks : Int)) :
    ∃ interval, parse? text = some interval ∧
      (interval.nanos = 100 * ticks ↔ IsCountable ticks) ∧
      (parseTicks? interval.format = some (ticks : Int) ↔ IsCountable ticks) ∧
      (¬ IsCountable ticks → interval.nanos = uint64Max) ∧
      ∀ {other : String} {otherTicks : Nat}, parseTicks? other = some (otherTicks : Int) →
        ∃ otherInterval, parse? other = some otherInterval ∧
          (compare interval.nanos otherInterval.nanos = compare ticks otherTicks ↔
            ticks = otherTicks ∨ IsCountable ticks ∨ IsCountable otherTicks) ∧
          ∀ {attr : Attribute} {count : UInt32}, Retry.StatesCount attr count →
            Retry.Finds attr "minimumInterval" 1 (.string text) →
              Retry.Finds attr "maximumInterval" 2 (.string other) →
                (Retry.backoff attr = .error .reversedIntervals ↔
                  otherTicks < ticks ∧ IsCountable otherTicks) := by
  refine ⟨ofTicks ticks, parse?_of_parseTicks? reads, nanos_ofTicks_eq_iff, ?_,
    nanos_ofTicks_of_not_countable, ?_⟩
  · rw [parseTicks?_format, Option.some.injEq, Int.ofNat_inj, ticks_ofTicks_eq_iff]
  · intro other otherTicks otherReads
    refine ⟨ofTicks otherTicks, parse?_of_parseTicks? otherReads, compare_nanos_ofTicks_iff, ?_⟩
    intro attr count counted least most
    rw [Retry.backoff_of_ticks counted least most reads otherReads]
    split
    · rename_i reversed
      exact iff_of_true rfl reversed
    · rename_i ordered
      exact iff_of_false nofun ordered

/-- The longest time that is kept exactly, beside one that is not. -/
theorem parse_exact_iff_longest :
    parseTicks? "213503.23:34:33.7095516" = some 184467440737095516 ∧
      parseTicks? "213504" = some 184467456000000000 ∧
      ∃ interval otherInterval, parse? "213503.23:34:33.7095516" = some interval ∧
        parse? "213504" = some otherInterval ∧ interval.nanos = 18446744073709551600 ∧
        compare interval.nanos otherInterval.nanos = .lt := by
  have reads : parseTicks? "213503.23:34:33.7095516" = some (184467440737095516 : Nat) := by decide
  have otherReads : parseTicks? "213504" = some (184467456000000000 : Nat) := by decide
  obtain ⟨interval, found, exact, _, _, compared⟩ := parse_exact_iff reads
  obtain ⟨otherInterval, otherFound, order, _⟩ := compared otherReads
  refine ⟨reads, otherReads, interval, otherInterval, found, otherFound, exact.mpr (by decide), ?_⟩
  exact order.mpr (.inr (.inl (by decide)))

end Interval

namespace Retry

/-- A growing delay whose minimum is above its maximum, both longer than any interval. -/
def endlessBackoff : Attribute where
  className := Names.backoffClass
  namespaceName := some Names.workerNamespace
  arguments := [⟨"maxRetryCount", .int 3⟩, ⟨"minimumInterval", .string "300000"⟩,
    ⟨"maximumInterval", .string "250000"⟩]

/-- Both are read as the longest interval, which is neither of the two and shows the ticks of
neither, and the delay is accepted. -/
theorem resolve_endlessBackoff :
    Interval.parseTicks? "300000" = some 259200000000000000 ∧
      Interval.parseTicks? "250000" = some 216000000000000000 ∧
      ∃ interval, Interval.parse? "300000" = some interval ∧
        Interval.parse? "250000" = some interval ∧
        interval.nanos ≠ 100 * 259200000000000000 ∧ interval.nanos ≠ 100 * 216000000000000000 ∧
        Interval.parseTicks? interval.format = some 184467440737095516 ∧
        resolve [endlessBackoff] true = .ok (some (.exponentialBackoff 3 interval interval)) := by
  have least : Interval.parseTicks? "300000" = some (259200000000000000 : Nat) := by decide
  have most : Interval.parseTicks? "250000" = some (216000000000000000 : Nat) := by decide
  exact ⟨least, most, ⟨18446744073709551615⟩, Interval.parse?_of_parseTicks? least,
    Interval.parse?_of_parseTicks? most, by decide, by decide, Interval.parseTicks?_format _,
    by decide +kernel⟩

end Retry

end WorkerBindings
