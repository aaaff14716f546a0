import WorkerBindings.Proofs.Interval.Format

/-!
# Ticks and the time they last

Text is read in ticks, and an interval is kept in nanoseconds. There are fewer nanoseconds than a
hundred times the ticks that can be read: up to a bound the interval lasts exactly as long as its
text says (`IsCountable`), and every longer one is kept as the longest that there is. Intervals are
told apart by their texts as far as their whole ticks go.
-/

namespace WorkerBindings.Interval

open Text

/-- The nanoseconds of a number of ticks can be counted. -/
def IsCountable (ticks : Nat) : Prop :=
  100 * ticks ≤ uint64Max

instance : DecidablePred IsCountable := fun ticks =>
  inferInstanceAs (Decidable (100 * ticks ≤ uint64Max))

variable {ticks otherTicks : Nat}

theorem nanos_ofTicks (ticks : Nat) : (ofTicks ticks).nanos = min (100 * ticks) uint64Max := by
  rw [ofTicks, Int.natAbs_natCast, Nat.mul_comm]

/-- Ticks last a hundred nanoseconds each, as long as these can be counted. -/
theorem nanos_ofTicks_eq_iff : (ofTicks ticks).nanos = 100 * ticks ↔ IsCountable ticks := by
  rw [nanos_ofTicks, IsCountable]
  exact ⟨fun same => same ▸ Nat.min_le_right _ _, Nat.min_eq_left⟩

theorem nanos_ofTicks_of_not_countable (long : ¬ IsCountable ticks) :
    (ofTicks ticks).nanos = uint64Max := by
  rw [nanos_ofTicks]
  exact Nat.min_eq_right (Nat.le_of_not_le long)

/-- A shorter time is kept as a shorter one, unless neither can be counted. -/
theorem nanos_ofTicks_lt_iff :
    (ofTicks ticks).nanos < (ofTicks otherTicks).nanos ↔
      ticks < otherTicks ∧ IsCountable ticks := by
  rw [nanos_ofTicks, nanos_ofTicks, IsCountable, uint64Max]
  omega

/-- Times are kept in their order, unless neither can be counted. -/
theorem compare_nanos_ofTicks_iff :
    compare (ofTicks ticks).nanos (ofTicks otherTicks).nanos = compare ticks otherTicks ↔
      ticks = otherTicks ∨ IsCountable ticks ∨ IsCountable otherTicks := by
  rcases Nat.lt_trichotomy ticks otherTicks with shorter | rfl | longer
  · rw [Nat.compare_eq_lt.mpr shorter, Nat.compare_eq_lt, nanos_ofTicks_lt_iff, IsCountable,
      IsCountable]
    omega
  · simp only [true_or, Nat.compare_eq_eq.mpr rfl]
  · rw [Nat.compare_eq_gt.mpr longer, Nat.compare_eq_gt, nanos_ofTicks_lt_iff, IsCountable,
      IsCountable]
    omega

theorem ticks_le_maxTicks (interval : Interval) : interval.ticks ≤ maxTicks :=
  Nat.min_le_right _ _

/-- Of the ticks that an interval was made of, those are left that can be counted. -/
theorem ticks_ofTicks (ticks : Nat) : (ofTicks ticks).ticks = min ticks (uint64Max / 100) := by
  rw [Interval.ticks, nanos_ofTicks, uint64Max, maxTicks]
  omega

theorem ticks_ofTicks_eq_iff : (ofTicks ticks).ticks = ticks ↔ IsCountable ticks := by
  rw [ticks_ofTicks, IsCountable, uint64Max]
  omega

theorem ticks_of_bounded {interval : Interval} (bounded : interval.nanos ≤ uint64Max) :
    interval.ticks = interval.nanos / 100 := by
  rw [uint64Max] at bounded
  rw [Interval.ticks, maxTicks]
  omega

/-- A text that is not negative is read as the interval of its ticks. -/
theorem parse?_of_parseTicks? {text : String} (reads : parseTicks? text = some (ticks : Int)) :
    parse? text = some (ofTicks ticks) := by
  have notNegative : ¬ (ticks : Int) < 0 := by omega
  simp only [parse?, reads, Option.bind_eq_bind, Option.bind_some, if_neg notNegative]

theorem parseTicks?_format (interval : Interval) :
    parseTicks? interval.format = some (interval.ticks : Int) :=
  parseTicks?_formatTicks interval.ticks_le_maxTicks

/-- The text of an interval shows its whole ticks and nothing else. -/
theorem format_eq_format_iff {interval other : Interval} :
    interval.format = other.format ↔ interval.ticks = other.ticks := by
  constructor
  · intro same
    have reads := parseTicks?_format interval
    rw [same, parseTicks?_format, Option.some.injEq, Int.ofNat_inj] at reads
    exact reads.symm
  · intro same
    rw [format, format, same]

/-- The text of an interval is read as the interval cut down to whole ticks, and two intervals have
the same text exactly if they are cut down to the same. So an interval of whole ticks is read
unchanged, and has its text to itself. -/
theorem format_faithful {interval : Interval} (bounded : interval.nanos ≤ uint64Max) :
    parse? interval.format = some ⟨interval.nanos / 100 * 100⟩ ∧
      (∀ other : Interval, other.nanos ≤ uint64Max →
        (interval.format = other.format ↔ interval.nanos / 100 = other.nanos / 100)) ∧
      (interval.nanos % 100 = 0 →
        parse? interval.format = some interval ∧
          ∀ other : Interval, other.IsExact → interval.format = other.format →
            interval = other) := by
  have sameText (other : Interval) (otherBounded : other.nanos ≤ uint64Max) :
      interval.format = other.format ↔ interval.nanos / 100 = other.nanos / 100 := by
    rw [format_eq_format_iff, ticks_of_bounded bounded, ticks_of_bounded otherBounded]
  refine ⟨parse?_format bounded, sameText, fun wholeTicks => ?_⟩
  have exact : interval.IsExact := ⟨wholeTicks, bounded⟩
  refine ⟨exact.parse?_format, fun other otherExact same => ?_⟩
  have reads := exact.parse?_format
  rw [same, otherExact.parse?_format] at reads
  exact (Option.some.inj reads).symm

/-- The longest interval of whole ticks, the only one of them with its text. -/
theorem format_faithful_longest :
    parse? "213503.23:34:33.7095516" = some ⟨18446744073709551600⟩ ∧
      ∀ other : Interval, other.IsExact → other.format = "213503.23:34:33.7095516" →
        other = ⟨18446744073709551600⟩ := by
  have text : (⟨18446744073709551600⟩ : Interval).format = "213503.23:34:33.7095516" := by
    decide +kernel
  have bounded : (⟨18446744073709551600⟩ : Interval).nanos ≤ uint64Max := by decide
  obtain ⟨reads, alone⟩ := (format_faithful bounded).2.2 (by decide)
  rw [text] at reads alone
  exact ⟨reads, fun other exact same => (alone other exact same.symm).symm⟩

end WorkerBindings.Interval
