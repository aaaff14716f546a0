import WorkerBindings.Interval
import WorkerBindings.Proofs.Text.Pieces

/-!
# Interval text read back

The text that is written for an interval is read as the interval cut down to whole ticks. The parts
between the colons are taken one by one: each is read as the number it was written for, and the
parts of a number of ticks add up to that number again.
-/

namespace WorkerBindings.Interval

open Text

/-- The days in front of the hours, if there are any. -/
def daysText (days : Nat) : List Char :=
  if 0 < days then digits days ++ ['.'] else []

/-- The ticks behind the seconds, if there are any. -/
def fractionText (fraction : Nat) : List Char :=
  if 0 < fraction then '.' :: paddedDigits fractionDigits fraction else []

theorem formatTicks_eq (ticks : Nat) :
    formatTicks ticks =
      (daysText (ticks / ticksPerDay) ++ paddedDigits 2 (ticks % ticksPerDay / ticksPerHour)) ++
        ':' :: (paddedDigits 2 (ticks % ticksPerHour / ticksPerMinute) ++
          ':' :: (paddedDigits 2 (ticks % ticksPerMinute / ticksPerSecond) ++
            fractionText (ticks % ticksPerSecond))) := by
  simp only [formatTicks, daysText, fractionText, List.append_assoc, List.cons_append,
    List.nil_append]

/-- The characters that a part of interval text may hold. -/
def IsPart (part : List Char) : Prop :=
  ∀ character ∈ part, isDigit character = true ∨ character = '.'

theorem isPart_paddedDigits (width value : Nat) : IsPart (paddedDigits width value) :=
  fun _ member => .inl (isDigit_of_mem_paddedDigits member)

theorem isPart_append {first second : List Char} (left : IsPart first) (right : IsPart second) :
    IsPart (first ++ second) := by
  intro character member
  rcases List.mem_append.mp member with inFirst | inSecond
  · exact left character inFirst
  · exact right character inSecond

theorem isPart_daysText (days : Nat) : IsPart (daysText days) := by
  unfold daysText
  split
  · exact isPart_append (fun _ member => .inl (isDigit_of_mem_digits member)) (by simp [IsPart])
  · simp [IsPart]

theorem isPart_fractionText (fraction : Nat) : IsPart (fractionText fraction) := by
  unfold fractionText
  split
  · refine List.forall_mem_cons.mpr ⟨.inr rfl, isPart_paddedDigits fractionDigits fraction⟩
  · simp [IsPart]

theorem IsPart.notMem {part : List Char} (isPart : IsPart part) {character : Char}
    (notDigit : isDigit character = false) (notPoint : character ≠ '.') : character ∉ part := by
  intro member
  rcases isPart character member with digit | point
  · rw [notDigit] at digit
    cases digit
  · exact notPoint point

theorem IsPart.noColon {part : List Char} (isPart : IsPart part) : ':' ∉ part :=
  isPart.notMem rfl (by decide)

/-- The characters of parts with colons between them. -/
def IsClock (characters : List Char) : Prop :=
  ∀ character ∈ characters, isDigit character = true ∨ character = '.' ∨ character = ':'

theorem IsPart.isClock {part : List Char} (isPart : IsPart part) : IsClock part :=
  fun character member => (isPart character member).imp_right .inl

theorem IsClock.cons_append {part rest : List Char} (isPart : IsPart part)
    (isClock : IsClock rest) : IsClock (part ++ ':' :: rest) := by
  intro character member
  rcases List.mem_append.mp member with inPart | behind
  · exact isPart.isClock character inPart
  · rcases List.mem_cons.mp behind with rfl | inRest
    · exact .inr (.inr rfl)
    · exact isClock character inRest

theorem IsClock.notBlank {characters : List Char} (isClock : IsClock characters) :
    ∀ character ∈ characters, isBlank character = false := by
  intro character member
  rcases isClock character member with digit | rfl | rfl
  · exact isBlank_of_isDigit digit
  · rfl
  · rfl

theorem IsClock.noMinus {characters : List Char} (isClock : IsClock characters) :
    '-' ∉ characters := by
  intro member
  rcases isClock '-' member with digit | point | colon
  · cases digit
  · cases point
  · cases colon

theorem notMem_of_isDigit {part : List Char} (digits : ∀ c ∈ part, isDigit c = true)
    {character : Char} (notDigit : isDigit character = false) : character ∉ part := by
  intro member
  rw [digits character member] at notDigit
  cases notDigit

theorem capped?_eq_some {value : Nat} (fits : value ≤ maxTicks) : capped? value = some value :=
  if_pos fits

theorem number?_eq_some {part : List Char} {value : Nat} (reads : nat? part = some value)
    (fits : value ≤ maxTicks) : number? part = some value := by
  simp [number?, reads, capped?_eq_some fits]

theorem number?_paddedDigits {width value : Nat} (positive : 0 < width)
    (short : value < Nat.pow 10 width) (fits : value ≤ maxTicks) :
    number? (paddedDigits width value) = some value :=
  number?_eq_some (nat?_paddedDigits positive short) fits

theorem bounded?_paddedDigits {limit value : Nat} (inside : value ≤ limit) (two : limit < 100) :
    bounded? limit (paddedDigits 2 value) = some value := by
  have fits : value ≤ maxTicks := by
    unfold maxTicks
    omega
  have reads : number? (paddedDigits 2 value) = some value :=
    number?_paddedDigits (by decide) (Nat.lt_of_le_of_lt inside two) fits
  simp [bounded?, reads, inside]

theorem notMem_paddedDigits {character : Char} (notDigit : isDigit character = false)
    (width value : Nat) : character ∉ paddedDigits width value :=
  notMem_of_isDigit (fun _ => isDigit_of_mem_paddedDigits) notDigit

theorem splitDays?_daysText {days : Nat} (fits : days ≤ maxTicks) (hours : Nat) :
    splitDays? (daysText days ++ paddedDigits 2 hours) = some (days, paddedDigits 2 hours) := by
  by_cases positive : 0 < days
  · have noPoint : '.' ∉ digits days := notMem_of_isDigit (fun _ => isDigit_of_mem_digits) rfl
    have cut := cutAtFirst?_append noPoint (paddedDigits 2 hours)
    rw [daysText, if_pos positive, List.append_assoc, List.singleton_append, splitDays?, cut]
    simp [number?_eq_some (nat?_digits days) fits]
  · have zero : days = 0 := by omega
    rw [daysText, if_neg positive, List.nil_append, splitDays?,
      cutAtFirst?_of_notMem (notMem_paddedDigits rfl 2 hours), zero]

theorem fraction?_paddedDigits {fraction : Nat} (fits : fraction < ticksPerSecond) :
    fraction? (paddedDigits fractionDigits fraction) = some fraction := by
  have fitsTicks : fraction ≤ maxTicks := by
    unfold ticksPerSecond at fits
    unfold maxTicks
    omega
  have reads : number? (paddedDigits 7 fraction) = some fraction :=
    number?_paddedDigits (by decide) fits fitsTicks
  simp [fraction?, fractionDigits, reads]

theorem seconds?_fractionText {whole fraction : Nat} (inside : whole ≤ 59)
    (fits : fraction < ticksPerSecond) :
    seconds? (paddedDigits 2 whole ++ fractionText fraction) =
      some (whole * ticksPerSecond + fraction) := by
  have noPoint : '.' ∉ paddedDigits 2 whole := notMem_paddedDigits rfl 2 whole
  have wholeReads := bounded?_paddedDigits inside (by decide)
  by_cases positive : 0 < fraction
  · rw [fractionText, if_pos positive, seconds?, cutAtFirst?_append noPoint]
    simp [wholeReads, fraction?_paddedDigits fits]
  · have zero : fraction = 0 := by omega
    rw [fractionText, if_neg positive, List.append_nil, seconds?, cutAtFirst?_of_notMem noPoint,
      zero]
    simp [wholeReads]

theorem clockTicks?_paddedDigits {days hours minutes seconds : Nat} (hourOfDay : hours ≤ 23)
    (minuteOfHour : minutes ≤ 59)
    (fits : days * ticksPerDay + (hours * ticksPerHour + minutes * ticksPerMinute + seconds) ≤
      maxTicks) :
    clockTicks? days (paddedDigits 2 hours) (paddedDigits 2 minutes) seconds =
      some (days * ticksPerDay + (hours * ticksPerHour + minutes * ticksPerMinute + seconds)) := by
  rw [clockTicks?, bounded?_paddedDigits hourOfDay (by decide), Option.bind_eq_bind,
    Option.bind_some, bounded?_paddedDigits minuteOfHour (by decide), Option.bind_some,
    capped?_eq_some fits]

/-- The parts that the text of a number of ticks is written from add up to it. -/
theorem ticks_eq_sum (ticks : Nat) :
    ticks / ticksPerDay * ticksPerDay +
      (ticks % ticksPerDay / ticksPerHour * ticksPerHour +
        ticks % ticksPerHour / ticksPerMinute * ticksPerMinute +
        (ticks % ticksPerMinute / ticksPerSecond * ticksPerSecond + ticks % ticksPerSecond)) =
      ticks := by
  unfold ticksPerDay ticksPerHour ticksPerMinute ticksPerSecond
  omega

theorem pieces_formatTicks (ticks : Nat) :
    pieces ':' (formatTicks ticks) =
      [daysText (ticks / ticksPerDay) ++ paddedDigits 2 (ticks % ticksPerDay / ticksPerHour),
        paddedDigits 2 (ticks % ticksPerHour / ticksPerMinute),
        paddedDigits 2 (ticks % ticksPerMinute / ticksPerSecond) ++
          fractionText (ticks % ticksPerSecond)] := by
  rw [formatTicks_eq,
    pieces_append (isPart_append (isPart_daysText _) (isPart_paddedDigits _ _)).noColon,
    pieces_append (isPart_paddedDigits _ _).noColon,
    pieces_of_notMem (isPart_append (isPart_paddedDigits _ _) (isPart_fractionText _)).noColon]

theorem clock?_of_pieces {body head hours minutes seconds : List Char} {days ticks : Nat}
    (cut : pieces ':' body = [head, minutes, seconds])
    (split : splitDays? head = some (days, hours)) (reads : seconds? seconds = some ticks) :
    clock? body = clockTicks? days hours minutes ticks := by
  -- Rewriting alone leaves the sum of the ticks closed: its constants are too large to count out.
  rw [clock?, cut]
  dsimp only
  rw [split, reads]
  rfl

/-- The text of a number of ticks is read as that number. -/
theorem magnitude?_formatTicks {ticks : Nat} (fits : ticks ≤ maxTicks) :
    magnitude? (formatTicks ticks) = some ticks := by
  have colon : ':' ∈ formatTicks ticks := by simp [formatTicks_eq]
  have days : ticks / ticksPerDay ≤ maxTicks := Nat.le_trans (Nat.div_le_self _ _) fits
  have hours : ticks % ticksPerDay / ticksPerHour ≤ 23 := by
    unfold ticksPerDay ticksPerHour
    omega
  have minutes : ticks % ticksPerHour / ticksPerMinute ≤ 59 := by
    unfold ticksPerHour ticksPerMinute
    omega
  have seconds : ticks % ticksPerMinute / ticksPerSecond ≤ 59 := by
    unfold ticksPerMinute ticksPerSecond
    omega
  have fraction : ticks % ticksPerSecond < ticksPerSecond := by
    unfold ticksPerSecond
    omega
  have sum := ticks_eq_sum ticks
  have fitsSum := Nat.le_trans (Nat.le_of_eq sum) fits
  rw [magnitude?, if_pos colon, clock?_of_pieces (pieces_formatTicks ticks)
    (splitDays?_daysText days _) (seconds?_fractionText seconds fraction),
    clockTicks?_paddedDigits hours minutes fitsSum, sum]

/-- A text without blank characters and without a sign is read as its magnitude. -/
theorem parseTicks?_of_unsigned {characters : List Char}
    (solid : ∀ character ∈ characters, isBlank character = false)
    (unsigned : '-' ∉ characters) :
    parseTicks? (String.ofList characters) =
      (magnitude? characters).map fun ticks => (ticks : Int) := by
  unfold parseTicks?
  rw [String.toList_ofList, trimCharacters_of_solid solid]
  split
  · exact absurd List.mem_cons_self unsigned
  · rfl

theorem isClock_formatTicks (ticks : Nat) : IsClock (formatTicks ticks) := by
  rw [formatTicks_eq]
  exact .cons_append (isPart_append (isPart_daysText _) (isPart_paddedDigits _ _))
    (.cons_append (isPart_paddedDigits _ _)
      (isPart_append (isPart_paddedDigits _ _) (isPart_fractionText _)).isClock)

/-- The text of a number of ticks is read without a sign. -/
theorem parseTicks?_formatTicks {ticks : Nat} (fits : ticks ≤ maxTicks) :
    parseTicks? (String.ofList (formatTicks ticks)) = some (ticks : Int) := by
  have isClock := isClock_formatTicks ticks
  rw [parseTicks?_of_unsigned isClock.notBlank isClock.noMinus, magnitude?_formatTicks fits]
  rfl

/-- The text of an interval is read as the interval cut down to whole ticks. -/
theorem parse?_format {interval : Interval} (bounded : interval.nanos ≤ uint64Max) :
    parse? interval.format = some ⟨interval.nanos / 100 * 100⟩ := by
  unfold uint64Max at bounded
  have whole : interval.ticks = interval.nanos / 100 := by
    unfold ticks maxTicks
    omega
  have fits : interval.nanos / 100 ≤ maxTicks := by
    unfold maxTicks
    omega
  have cut : ofTicks (interval.nanos / 100 : Nat) = ⟨interval.nanos / 100 * 100⟩ := by
    unfold ofTicks uint64Max
    rw [Int.natAbs_natCast, Nat.min_eq_left (by omega)]
  have notNegative : ¬ ((interval.nanos / 100 : Nat) : Int) < 0 := by omega
  rw [parse?, format, whole, parseTicks?_formatTicks fits]
  simp only [Option.bind_eq_bind, Option.bind_some, if_neg notNegative, cut]

/-- The text of an interval shows all of it: the interval is a whole number of ticks and not longer
than any interval that is read. -/
structure IsExact (interval : Interval) : Prop where
  wholeTicks : interval.nanos % 100 = 0
  bounded : interval.nanos ≤ uint64Max

theorem IsExact.parse?_format {interval : Interval} (exact : interval.IsExact) :
    parse? interval.format = some interval := by
  have whole : interval.nanos / 100 * 100 = interval.nanos := by
    have wholeTicks := exact.wholeTicks
    omega
  rw [Interval.parse?_format exact.bounded, whole]

end WorkerBindings.Interval
