import WorkerBindings.Proofs.Interval.Format

/-!
# The grammar of interval text

The accepted texts are stated as relations between characters and ticks, from the single number up
to the text with its sign and the blank characters around it (`Written`). Reading yields a value
exactly for the texts of the grammar, and the value is the one that the grammar gives. The parts
below the days are always shorter than a day together, so only the days can make a number of ticks
too large.
-/

namespace WorkerBindings.Interval

open Text

/-- One or more decimal digits, leading zeros included, and the number that they stand for. -/
structure Numeral (row : List Char) (value : Nat) : Prop where
  nonempty : row ≠ []
  digits : ∀ character ∈ row, isDigit character = true
  stands : digitsValue 0 row = value

/-- `S[.F]`: whole seconds, and up to seven digits of a fraction of a second. -/
inductive SecondsText : List Char → Nat → Prop where
  | whole {row : List Char} {seconds : Nat} (numeral : Numeral row seconds)
      (inside : seconds ≤ 59) : SecondsText row (seconds * ticksPerSecond)
  | fractional {row fraction : List Char} {seconds value ticks : Nat}
      (numeral : Numeral row seconds) (inside : seconds ≤ 59)
      (decimals : Numeral fraction value) (short : fraction.length ≤ 7)
      (scaled : ticks * Nat.pow 10 fraction.length = value * ticksPerSecond) :
      SecondsText (row ++ '.' :: fraction) (seconds * ticksPerSecond + ticks)

/-- `[D.]H`: hours, and days in front of them if there are any. -/
inductive HoursText : List Char → Nat → Prop where
  | hours {row : List Char} {hours : Nat} (numeral : Numeral row hours) (inside : hours ≤ 23) :
      HoursText row (hours * ticksPerHour)
  | daysAndHours {front row : List Char} {days hours : Nat} (before : Numeral front days)
      (numeral : Numeral row hours) (inside : hours ≤ 23) :
      HoursText (front ++ '.' :: row) (days * ticksPerDay + hours * ticksPerHour)

/-- An interval without its sign: `D`, `[D.]H:M`, `[D.]H:M:S[.F]` or `D:H:M:S[.F]`. -/
inductive MagnitudeText : List Char → Nat → Prop where
  | days {row : List Char} {days : Nat} (numeral : Numeral row days) :
      MagnitudeText row (days * ticksPerDay)
  | minutes {head row : List Char} {ticks minutes : Nat} (upToHours : HoursText head ticks)
      (numeral : Numeral row minutes) (inside : minutes ≤ 59) :
      MagnitudeText (head ++ ':' :: row) (ticks + minutes * ticksPerMinute)
  | seconds {head row tail : List Char} {ticks minutes rest : Nat}
      (upToHours : HoursText head ticks) (numeral : Numeral row minutes) (inside : minutes ≤ 59)
      (fromSeconds : SecondsText tail rest) :
      MagnitudeText (head ++ ':' :: (row ++ ':' :: tail))
        (ticks + minutes * ticksPerMinute + rest)
  | fourParts {front middle row tail : List Char} {days hours minutes rest : Nat}
      (before : Numeral front days) (hour : Numeral middle hours) (ofDay : hours ≤ 23)
      (numeral : Numeral row minutes) (inside : minutes ≤ 59)
      (fromSeconds : SecondsText tail rest) :
      MagnitudeText (front ++ ':' :: (middle ++ ':' :: (row ++ ':' :: tail)))
        (days * ticksPerDay + hours * ticksPerHour + minutes * ticksPerMinute + rest)

/-- An interval with its sign. -/
inductive SignedText : List Char → Int → Prop where
  | plain {body : List Char} {ticks : Nat} (magnitude : MagnitudeText body ticks)
      (fits : ticks ≤ maxTicks) : SignedText body ticks
  | negative {body : List Char} {ticks : Nat} (magnitude : MagnitudeText body ticks)
      (fits : ticks ≤ maxTicks) : SignedText ('-' :: body) (-ticks)

/-- The text of an interval: blank characters may stand around it. -/
def Written (text : String) (value : Int) : Prop :=
  ∃ front body back, text.toList = front ++ body ++ back ∧
    (∀ character ∈ front, isBlank character = true) ∧
    (∀ character ∈ back, isBlank character = true) ∧ SignedText body value

variable {part : List Char} {value limit : Nat}

theorem nat?_eq_some_iff_numeral : nat? part = some value ↔ Numeral part value := by
  rw [nat?_eq_some_iff]
  exact ⟨fun ⟨nonempty, digits, stands⟩ => ⟨nonempty, digits, stands⟩,
    fun numeral => ⟨numeral.nonempty, numeral.digits, numeral.stands⟩⟩

theorem capped?_eq_some_iff {number : Nat} :
    capped? number = some value ↔ number = value ∧ number ≤ maxTicks := by
  simp only [capped?, Option.ite_none_right_eq_some, Option.some.injEq, and_comm]

theorem number?_eq_some_iff :
    number? part = some value ↔ Numeral part value ∧ value ≤ maxTicks := by
  simp only [number?, Option.bind_eq_bind, Option.bind_eq_some_iff, nat?_eq_some_iff_numeral,
    capped?_eq_some_iff]
  constructor
  · rintro ⟨_, numeral, rfl, fits⟩
    exact ⟨numeral, fits⟩
  · rintro ⟨numeral, fits⟩
    exact ⟨value, numeral, rfl, fits⟩

theorem bounded?_eq_some_iff (small : limit ≤ maxTicks) :
    bounded? limit part = some value ↔ Numeral part value ∧ value ≤ limit := by
  simp only [bounded?, Option.bind_eq_bind, Option.bind_eq_some_iff, number?_eq_some_iff,
    Option.ite_none_right_eq_some, Option.some.injEq]
  constructor
  · rintro ⟨_, ⟨numeral, _⟩, inside, rfl⟩
    exact ⟨numeral, inside⟩
  · rintro ⟨numeral, inside⟩
    exact ⟨value, ⟨numeral, Nat.le_trans inside small⟩, inside, rfl⟩

theorem bounded?_hours_iff : bounded? 23 part = some value ↔ Numeral part value ∧ value ≤ 23 :=
  bounded?_eq_some_iff (by decide)

theorem bounded?_sixtieths_iff :
    bounded? 59 part = some value ↔ Numeral part value ∧ value ≤ 59 :=
  bounded?_eq_some_iff (by decide)

theorem Numeral.notMem {character : Char} (numeral : Numeral part value)
    (notDigit : isDigit character = false) : character ∉ part :=
  notMem_of_isDigit numeral.digits notDigit

theorem Numeral.lt (numeral : Numeral part value) : value < Nat.pow 10 part.length := by
  have bound := digitsValue_lt numeral.digits 0
  rwa [numeral.stands, Nat.zero_add, Nat.one_mul] at bound

/-- A second has as many ticks as there are fractions of seven digits. -/
theorem ticksPerSecond_eq (short : part.length ≤ 7) :
    ticksPerSecond = Nat.pow 10 (7 - part.length) * Nat.pow 10 part.length := by
  have joined : Nat.pow 10 (7 - part.length + part.length) = _ := Nat.pow_add 10 _ _
  rw [Nat.sub_add_cancel short] at joined
  exact joined

/-- The digits behind the point count the same part of a second as the ticks. -/
theorem fraction?_eq_some_iff {ticks : Nat} :
    fraction? part = some ticks ↔ ∃ value, Numeral part value ∧ part.length ≤ 7 ∧
      ticks * Nat.pow 10 part.length = value * ticksPerSecond := by
  have scaled {value : Nat} (short : part.length ≤ 7) :
      value * Nat.pow 10 (7 - part.length) = ticks ↔
        ticks * Nat.pow 10 part.length = value * ticksPerSecond := by
    have positive : 0 < Nat.pow 10 part.length := Nat.pow_pos (by decide)
    rw [ticksPerSecond_eq short, ← Nat.mul_assoc, Nat.mul_right_cancel_iff positive, eq_comm]
  unfold fraction? fractionDigits
  constructor
  · intro reads
    split at reads
    · rename_i width
      obtain ⟨value, found, same⟩ := Option.map_eq_some_iff.mp reads
      exact ⟨value, (number?_eq_some_iff.mp found).1, width.2, (scaled width.2).mp same⟩
    · cases reads
  · rintro ⟨value, numeral, short, same⟩
    have fits : value ≤ maxTicks := by
      have small : Nat.pow 10 part.length ≤ Nat.pow 10 7 := Nat.pow_le_pow_right (by decide) short
      exact Nat.le_trans (Nat.le_of_lt numeral.lt) (Nat.le_trans small (by decide))
    rw [if_pos ⟨List.length_pos_iff.mpr numeral.nonempty, short⟩,
      number?_eq_some_iff.mpr ⟨numeral, fits⟩]
    exact congrArg some ((scaled short).mpr same)

theorem fraction?_lt {ticks : Nat} (reads : fraction? part = some ticks) :
    ticks < ticksPerSecond := by
  obtain ⟨value, numeral, short, scaled⟩ := fraction?_eq_some_iff.mp reads
  have bound : ticks * Nat.pow 10 part.length < ticksPerSecond * Nat.pow 10 part.length := by
    rw [scaled, Nat.mul_comm]
    exact Nat.mul_lt_mul_of_pos_left numeral.lt (by decide)
  exact Nat.lt_of_mul_lt_mul_right bound

theorem seconds?_eq_some_iff {ticks : Nat} :
    seconds? part = some ticks ↔ SecondsText part ticks := by
  constructor
  · intro reads
    unfold seconds? at reads
    split at reads
    · rename_i whole fraction cut
      obtain ⟨seconds, wholeReads, rest⟩ := Option.bind_eq_some_iff.mp reads
      obtain ⟨ofSecond, fractionReads, rest⟩ := Option.bind_eq_some_iff.mp rest
      cases rest
      obtain ⟨rfl, _⟩ := cutAtFirst?_eq_some_iff.mp cut
      obtain ⟨numeral, inside⟩ := bounded?_sixtieths_iff.mp wholeReads
      obtain ⟨_, decimals, short, scaled⟩ := fraction?_eq_some_iff.mp fractionReads
      exact .fractional numeral inside decimals short scaled
    · obtain ⟨seconds, wholeReads, rest⟩ := Option.bind_eq_some_iff.mp reads
      cases rest
      obtain ⟨numeral, inside⟩ := bounded?_sixtieths_iff.mp wholeReads
      exact .whole numeral inside
  · intro written
    cases written with
    | whole numeral inside =>
      rw [seconds?, cutAtFirst?_of_notMem (numeral.notMem rfl)]
      simp only [bounded?_sixtieths_iff.mpr ⟨numeral, inside⟩, Option.bind_eq_bind,
        Option.bind_some]
    | fractional numeral inside decimals short scaled =>
      rw [seconds?, cutAtFirst?_append (numeral.notMem rfl)]
      simp only [bounded?_sixtieths_iff.mpr ⟨numeral, inside⟩,
        fraction?_eq_some_iff.mpr ⟨_, decimals, short, scaled⟩, Option.bind_eq_bind,
        Option.bind_some]

/-- Seconds with their fraction are shorter than a minute. -/
theorem seconds?_lt {ticks : Nat} (reads : seconds? part = some ticks) :
    ticks < ticksPerMinute := by
  cases seconds?_eq_some_iff.mp reads with
  | whole numeral inside =>
    unfold ticksPerSecond ticksPerMinute
    omega
  | fractional numeral inside decimals short scaled =>
    have below := fraction?_lt (fraction?_eq_some_iff.mpr ⟨_, decimals, short, scaled⟩)
    unfold ticksPerSecond at below ⊢
    unfold ticksPerMinute
    omega

theorem Numeral.isPart (numeral : Numeral part value) : IsPart part :=
  fun character member => .inl (numeral.digits character member)

theorem SecondsText.isPart {ticks : Nat} (written : SecondsText part ticks) : IsPart part := by
  cases written with
  | whole numeral => exact numeral.isPart
  | fractional numeral _ decimals =>
    exact isPart_append numeral.isPart (List.forall_mem_cons.mpr ⟨.inr rfl, decimals.isPart⟩)

theorem HoursText.isPart {ticks : Nat} (written : HoursText part ticks) : IsPart part := by
  cases written with
  | hours numeral => exact numeral.isPart
  | daysAndHours before numeral =>
    exact isPart_append before.isPart (List.forall_mem_cons.mpr ⟨.inr rfl, numeral.isPart⟩)

/-- Days whose ticks can be counted can be counted themselves. -/
theorem days_le_maxTicks {days ticks : Nat} (among : days * ticksPerDay ≤ ticks)
    (fits : ticks ≤ maxTicks) : days ≤ maxTicks := by
  unfold ticksPerDay at among
  omega

/-- The text up to the hours is split into days and hours. -/
theorem hoursText_iff {head : List Char} {ticks : Nat} (fits : ticks ≤ maxTicks) :
    HoursText head ticks ↔ ∃ days row hours, splitDays? head = some (days, row) ∧
      Numeral row hours ∧ hours ≤ 23 ∧ days * ticksPerDay + hours * ticksPerHour = ticks := by
  constructor
  · intro written
    cases written with
    | hours numeral inside =>
      refine ⟨0, head, _, ?_, numeral, inside, by rw [Nat.zero_mul, Nat.zero_add]⟩
      rw [splitDays?, cutAtFirst?_of_notMem (numeral.notMem rfl)]
    | @daysAndHours front row days hours before numeral inside =>
      have daysFit : days ≤ maxTicks := days_le_maxTicks (Nat.le_add_right _ _) fits
      refine ⟨days, row, hours, ?_, numeral, inside, rfl⟩
      rw [splitDays?, cutAtFirst?_append (before.notMem rfl)]
      simp only [number?_eq_some_iff.mpr ⟨before, daysFit⟩, Option.map_some]
  · rintro ⟨days, row, hours, split, numeral, inside, rfl⟩
    unfold splitDays? at split
    split at split
    · rename_i front behind cut
      obtain ⟨_, found, same⟩ := Option.map_eq_some_iff.mp split
      cases same
      obtain ⟨rfl, _⟩ := cutAtFirst?_eq_some_iff.mp cut
      exact .daysAndHours (number?_eq_some_iff.mp found).1 numeral inside
    · cases split
      rw [Nat.zero_mul, Nat.zero_add]
      exact .hours numeral inside

/-- The ticks of the days and hours come first in the grammar. -/
theorem clock_sum (days hour minute rest : Nat) :
    days * ticksPerDay + (hour * ticksPerHour + minute * ticksPerMinute + rest) =
      days * ticksPerDay + hour * ticksPerHour + minute * ticksPerMinute + rest := by
  simp only [Nat.add_assoc]

theorem clockTicks?_eq_some_iff {days seconds ticks : Nat} {hours minutes : List Char} :
    clockTicks? days hours minutes seconds = some ticks ↔
      ∃ hour minute, (Numeral hours hour ∧ hour ≤ 23) ∧ (Numeral minutes minute ∧ minute ≤ 59) ∧
        days * ticksPerDay + (hour * ticksPerHour + minute * ticksPerMinute + seconds) = ticks ∧
        ticks ≤ maxTicks := by
  simp only [clockTicks?, Option.bind_eq_bind, Option.bind_eq_some_iff, bounded?_hours_iff,
    bounded?_sixtieths_iff, capped?_eq_some_iff]
  constructor
  · rintro ⟨hour, ofDay, minute, ofHour, rfl, fits⟩
    exact ⟨hour, minute, ofDay, ofHour, rfl, fits⟩
  · rintro ⟨hour, minute, ofDay, ofHour, rfl, fits⟩
    exact ⟨hour, ofDay, minute, ofHour, rfl, fits⟩

/-- The days, hours and minutes that a text shows, whichever way the days are written in it. -/
theorem splitDays?_clockTicks?_iff {head minutes : List Char} {rest ticks : Nat} :
    (∃ days hours, splitDays? head = some (days, hours) ∧
        clockTicks? days hours minutes rest = some ticks) ↔
      ∃ upToHours minute, HoursText head upToHours ∧ (Numeral minutes minute ∧ minute ≤ 59) ∧
        upToHours + minute * ticksPerMinute + rest = ticks ∧ ticks ≤ maxTicks := by
  constructor
  · rintro ⟨days, hours, split, clock⟩
    obtain ⟨hour, minute, ⟨hourText, ofDay⟩, ofHour, rfl, fits⟩ := clockTicks?_eq_some_iff.mp clock
    have upToHours : HoursText head (days * ticksPerDay + hour * ticksPerHour) :=
      (hoursText_iff (by omega)).mpr ⟨days, hours, hour, split, hourText, ofDay, rfl⟩
    exact ⟨_, minute, upToHours, ofHour, (clock_sum ..).symm, fits⟩
  · rintro ⟨_, minute, upToHours, ofHour, rfl, fits⟩
    obtain ⟨days, hours, hour, split, hourText, ofDay, rfl⟩ :=
      (hoursText_iff (by omega)).mp upToHours
    exact ⟨days, hours, split, clockTicks?_eq_some_iff.mpr
      ⟨hour, minute, ⟨hourText, ofDay⟩, ofHour, clock_sum .., fits⟩⟩

/-- What is below the days adds up to less than a day. -/
theorem clock_lt_day {hours minutes seconds : List Char} {hour minute ticks : Nat}
    (hourReads : bounded? 23 hours = some hour) (minuteReads : bounded? 59 minutes = some minute)
    (secondReads : seconds? seconds = some ticks) :
    hour * ticksPerHour + minute * ticksPerMinute + ticks < ticksPerDay := by
  have ofDay := (bounded?_hours_iff.mp hourReads).2
  have ofHour := (bounded?_sixtieths_iff.mp minuteReads).2
  have ofMinute := seconds?_lt secondReads
  unfold ticksPerMinute at ofMinute ⊢
  unfold ticksPerHour ticksPerDay
  omega

variable {body : List Char} {ticks : Nat}

theorem MagnitudeText.of_clock (reads : clock? body = some ticks) :
    MagnitudeText body ticks ∧ ticks ≤ maxTicks := by
  unfold clock? at reads
  split at reads
  · rename_i head minutes cut
    obtain ⟨⟨days, hours⟩, split, clock⟩ := Option.bind_eq_some_iff.mp reads
    obtain ⟨_, minute, upToHours, ⟨numeral, inside⟩, rfl, fits⟩ :=
      splitDays?_clockTicks?_iff.mp ⟨days, hours, split, clock⟩
    obtain ⟨_, rfl, _, cut⟩ := pieces_eq_cons_cons_iff.mp cut
    obtain ⟨rfl, _⟩ := pieces_eq_singleton_iff.mp cut
    refine ⟨?_, fits⟩
    rw [Nat.add_zero]
    exact .minutes upToHours numeral inside
  · rename_i head minutes seconds cut
    obtain ⟨⟨days, hours⟩, split, reads⟩ := Option.bind_eq_some_iff.mp reads
    obtain ⟨rest, secondReads, clock⟩ := Option.bind_eq_some_iff.mp reads
    obtain ⟨_, minute, upToHours, ⟨numeral, inside⟩, rfl, fits⟩ :=
      splitDays?_clockTicks?_iff.mp ⟨days, hours, split, clock⟩
    obtain ⟨_, rfl, _, cut⟩ := pieces_eq_cons_cons_iff.mp cut
    obtain ⟨_, rfl, _, cut⟩ := pieces_eq_cons_cons_iff.mp cut
    obtain ⟨rfl, _⟩ := pieces_eq_singleton_iff.mp cut
    exact ⟨.seconds upToHours numeral inside (seconds?_eq_some_iff.mp secondReads), fits⟩
  · rename_i days hours minutes seconds cut
    obtain ⟨days, dayReads, reads⟩ := Option.bind_eq_some_iff.mp reads
    obtain ⟨rest, secondReads, clock⟩ := Option.bind_eq_some_iff.mp reads
    obtain ⟨hour, minute, ⟨hourText, ofDay⟩, ⟨numeral, inside⟩, rfl, fits⟩ :=
      clockTicks?_eq_some_iff.mp clock
    obtain ⟨_, rfl, _, cut⟩ := pieces_eq_cons_cons_iff.mp cut
    obtain ⟨_, rfl, _, cut⟩ := pieces_eq_cons_cons_iff.mp cut
    obtain ⟨_, rfl, _, cut⟩ := pieces_eq_cons_cons_iff.mp cut
    obtain ⟨rfl, _⟩ := pieces_eq_singleton_iff.mp cut
    refine ⟨?_, fits⟩
    rw [clock_sum]
    exact .fourParts (number?_eq_some_iff.mp dayReads).1 hourText ofDay numeral inside
      (seconds?_eq_some_iff.mp secondReads)
  · cases reads

/-- A text of the grammar with a colon is read as its ticks. -/
theorem MagnitudeText.clock?_eq (written : MagnitudeText body ticks) (colon : ':' ∈ body)
    (fits : ticks ≤ maxTicks) : clock? body = some ticks := by
  cases written with
  | days numeral => exact absurd colon numeral.isPart.noColon
  | @minutes head row _ minute upToHours numeral inside =>
    obtain ⟨days, hours, split, clock⟩ := splitDays?_clockTicks?_iff.mpr
      ⟨_, minute, upToHours, ⟨numeral, inside⟩, Nat.add_zero _, fits⟩
    have cut : pieces ':' (head ++ ':' :: row) = [head, row] := by
      rw [pieces_append upToHours.isPart.noColon, pieces_of_notMem numeral.isPart.noColon]
    rw [clock?, cut]
    exact Option.bind_eq_some_iff.mpr ⟨_, split, clock⟩
  | @seconds head row tail _ minute rest upToHours numeral inside fromSeconds =>
    obtain ⟨days, hours, split, clock⟩ := splitDays?_clockTicks?_iff.mpr
      ⟨_, minute, upToHours, ⟨numeral, inside⟩, rfl, fits⟩
    have cut : pieces ':' (head ++ ':' :: (row ++ ':' :: tail)) = [head, row, tail] := by
      rw [pieces_append upToHours.isPart.noColon, pieces_append numeral.isPart.noColon,
        pieces_of_notMem fromSeconds.isPart.noColon]
    rw [clock?_of_pieces cut split (seconds?_eq_some_iff.mpr fromSeconds), clock]
  | @fourParts front middle row tail days hour minute rest before hourText ofDay numeral inside
      fromSeconds =>
    have cut : pieces ':' (front ++ ':' :: (middle ++ ':' :: (row ++ ':' :: tail))) =
        [front, middle, row, tail] := by
      rw [pieces_append before.isPart.noColon, pieces_append hourText.isPart.noColon,
        pieces_append numeral.isPart.noColon, pieces_of_notMem fromSeconds.isPart.noColon]
    have daysFit : days ≤ maxTicks := days_le_maxTicks (by omega) fits
    rw [clock?, cut]
    exact Option.bind_eq_some_iff.mpr ⟨days, number?_eq_some_iff.mpr ⟨before, daysFit⟩,
      Option.bind_eq_some_iff.mpr ⟨rest, seconds?_eq_some_iff.mpr fromSeconds,
        clockTicks?_eq_some_iff.mpr
          ⟨hour, minute, ⟨hourText, ofDay⟩, ⟨numeral, inside⟩, clock_sum .., fits⟩⟩⟩

/-- A text of the grammar without a colon is a number of days. -/
theorem MagnitudeText.days_of_noColon (written : MagnitudeText body ticks) (noColon : ':' ∉ body) :
    ∃ days, Numeral body days ∧ days * ticksPerDay = ticks := by
  cases written with
  | days numeral => exact ⟨_, numeral, rfl⟩
  | minutes | seconds | fourParts => simp at noColon

theorem magnitude?_eq_some_iff :
    magnitude? body = some ticks ↔ MagnitudeText body ticks ∧ ticks ≤ maxTicks := by
  unfold magnitude?
  split
  · rename_i colon
    exact ⟨MagnitudeText.of_clock, fun ⟨written, fits⟩ => written.clock?_eq colon fits⟩
  · rename_i noColon
    simp only [Option.bind_eq_bind, Option.bind_eq_some_iff, number?_eq_some_iff,
      capped?_eq_some_iff]
    constructor
    · rintro ⟨days, ⟨numeral, _⟩, rfl, fits⟩
      exact ⟨.days numeral, fits⟩
    · rintro ⟨written, fits⟩
      obtain ⟨days, numeral, rfl⟩ := written.days_of_noColon noColon
      exact ⟨days, ⟨numeral, days_le_maxTicks (Nat.le_refl _) fits⟩, rfl, fits⟩

theorem MagnitudeText.isClock (written : MagnitudeText body ticks) : IsClock body := by
  cases written with
  | days numeral => exact numeral.isPart.isClock
  | minutes upToHours numeral => exact .cons_append upToHours.isPart numeral.isPart.isClock
  | seconds upToHours numeral _ fromSeconds =>
    exact .cons_append upToHours.isPart (.cons_append numeral.isPart fromSeconds.isPart.isClock)
  | fourParts before hourText _ numeral _ fromSeconds =>
    exact .cons_append before.isPart (.cons_append hourText.isPart
      (.cons_append numeral.isPart fromSeconds.isPart.isClock))

theorem SignedText.notBlank {value : Int} (signed : SignedText body value) :
    ∀ character ∈ body, isBlank character = false := by
  cases signed with
  | plain magnitude => exact magnitude.isClock.notBlank
  | negative magnitude => exact List.forall_mem_cons.mpr ⟨rfl, magnitude.isClock.notBlank⟩

/-- A magnitude is read before its sign is put to it. -/
theorem map_magnitude?_eq_some_iff {sign : Int → Int} {value : Int} :
    ((magnitude? body).bind fun (ticks : Nat) => some (ticks : Int)).map sign = some value ↔
      ∃ ticks : Nat, (MagnitudeText body ticks ∧ ticks ≤ maxTicks) ∧ sign ticks = value := by
  simp only [Option.map_eq_some_iff, Option.bind_eq_some_iff, magnitude?_eq_some_iff,
    Option.some.injEq]
  constructor
  · rintro ⟨_, ⟨ticks, written, rfl⟩, signed⟩
    exact ⟨ticks, written, signed⟩
  · rintro ⟨ticks, written, signed⟩
    exact ⟨_, ⟨ticks, written, rfl⟩, signed⟩

/-- What is left of a text when it is trimmed decides over it. -/
theorem parseTicks?_of_trimmed {text : String} {value : Int} :
    parseTicks? text = some value ↔ SignedText (trimCharacters text.toList) value := by
  unfold parseTicks?
  generalize trimCharacters text.toList = characters
  constructor
  · intro reads
    split at reads
    · obtain ⟨ticks, ⟨written, fits⟩, rfl⟩ := map_magnitude?_eq_some_iff.mp reads
      exact .negative written fits
    · obtain ⟨ticks, ⟨written, fits⟩, rfl⟩ := map_magnitude?_eq_some_iff.mp reads
      exact .plain written fits
  · intro signed
    cases signed with
    | plain written fits =>
      split
      · exact absurd List.mem_cons_self written.isClock.noMinus
      · exact map_magnitude?_eq_some_iff.mpr ⟨_, ⟨written, fits⟩, rfl⟩
    | negative written fits =>
      exact map_magnitude?_eq_some_iff.mpr ⟨_, ⟨written, fits⟩, rfl⟩

/-- Trimming leaves the interval of a written text. -/
theorem written_iff {text : String} {value : Int} :
    Written text value ↔ SignedText (trimCharacters text.toList) value := by
  constructor
  · rintro ⟨front, body, back, same, blankFront, blankBack, signed⟩
    rw [same, trimCharacters_append blankFront blankBack
      (fun character first => signed.notBlank character (List.mem_of_mem_head? first))
      (fun character last => signed.notBlank character (List.mem_of_mem_getLast? last))]
    exact signed
  · intro signed
    obtain ⟨front, back, same, blankFront, blankBack⟩ := eq_append_trimCharacters text.toList
    exact ⟨front, _, back, same, blankFront, blankBack, signed⟩

theorem SignedText.in_range {value : Int} (signed : SignedText body value) :
    -(maxTicks : Int) ≤ value ∧ value ≤ maxTicks := by
  cases signed with
  | plain _ fits | negative _ fits => omega

/-- A text is read exactly if it is one of the grammar, and as the value that the grammar gives, so
that no value is out of range. What is added up and scaled without a check is far from the largest
number of ticks: whatever the parts of a text are, those below the days stay below a day, and the
digits behind the point below a second. -/
theorem parse_follows_grammar (text : String) :
    (∀ value, parseTicks? text = some value ↔ Written text value) ∧
      (∀ value, parseTicks? text = some value → -(maxTicks : Int) ≤ value ∧ value ≤ maxTicks) ∧
      (∀ {hours minutes seconds : List Char} {hour minute ticks : Nat},
        bounded? 23 hours = some hour → bounded? 59 minutes = some minute →
          seconds? seconds = some ticks →
            hour * ticksPerHour + minute * ticksPerMinute + ticks < ticksPerDay) ∧
      ∀ {fraction : List Char} {ticks : Nat},
        fraction? fraction = some ticks → ticks < ticksPerSecond := by
  refine ⟨fun value => ?_, fun value reads => ?_, clock_lt_day, fraction?_lt⟩
  · rw [parseTicks?_of_trimmed, written_iff]
  · exact (parseTicks?_of_trimmed.mp reads).in_range

example : parseTicks? " -1.02:03:04.5 " = some (-937845000000) := by decide

end WorkerBindings.Interval
