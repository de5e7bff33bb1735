import AssetRegistry.Proofs.DateParts
import AssetRegistry.Proofs.NumberText
import AssetRegistry.Proofs.ValueShapes
import Mathlib.Data.List.DropRight

/-!
# The language of dates

A date is written in one of four ways: as a moment with a zone, strictly, or without a zone and
with blanks in front of its numbers, as a date and a time with the letter `T` or with blanks
between them, or as a date alone.  Where nothing stands between date and time the digits of the
day run on into those of the hour.  The day takes two of them, which makes the first reading of
such a text the only one.
-/

namespace AssetRegistry.Calendar

open Text

/-! ### Whole languages -/

namespace Spelling

/-- A day of the calendar with hyphens between its numbers. -/
def dayOf (year : Int → Language Char) (month day : Nat → Language Char) : Language Char :=
  {w | ∃ d : Date, d.Exists ∧
    w ∈ year d.year * oneOf ['-'] * month d.month * oneOf ['-'] * day d.day}

/-- A time of day with colons between its numbers. -/
def clock (number : Nat → Language Char) (hour minute second : Nat) : Language Char :=
  number hour * oneOf [':'] * number minute * oneOf [':'] * number second * fraction

/-- A time of day that a clock shows. -/
def timeOf (number : Nat → Language Char) : Language Char :=
  {w | ∃ hour minute second, hour ≤ 23 ∧ minute ≤ 59 ∧ second ≤ 60 ∧
    w ∈ clock number hour minute second}

/-- A date and a time with numbers of fixed widths, and a zone. -/
def moment : Language Char :=
  dayOf strictYear twoDigits twoDigits * oneOf ['T', 't', ' '] * timeOf twoDigits * zone

/-- A date with blanks in front of its numbers, and so many digits at least of the day. -/
def plainDay (least : Nat) : Language Char :=
  dayOf looseYear (loose 1) (loose least)

/-- A time with blanks in front of its numbers. -/
def plainTime : Language Char :=
  timeOf (loose 1)

/-- The four ways to write a date.  Where nothing stands between day and hour the day takes two
    digits. -/
def date : Language Char :=
  moment + plainDay 1 * oneOf ['T'] * plainTime +
    (plainDay 1 * blanks * plainTime + plainDay 2 * plainTime) + plainDay 1

end Spelling

section Whole

variable {d : Date} {t : TimeOfDay} {offset : Int} {i : Instant}
  {cs rest : List Char}

/-- A day is spelled by the three parts of a date of the calendar. -/
theorem leaves_dayOf {year : Int → Language Char} {month day : Nat → Language Char} :
    Leaves (Spelling.dayOf year month day) cs rest ↔ ∃ d : Date, d.Exists ∧
      Leaves (year d.year * oneOf ['-'] * month d.month * oneOf ['-'] * day d.day) cs rest :=
  leaves_exists

/-- A time is spelled by three parts that are in their bounds. -/
theorem leaves_timeOf {number : Nat → Language Char} :
    Leaves (Spelling.timeOf number) cs rest ↔ ∃ hour minute second, hour ≤ 23 ∧ minute ≤ 59 ∧
      second ≤ 60 ∧ Leaves (Spelling.clock number hour minute second) cs rest := by
  constructor
  · rintro ⟨w, ⟨hour, minute, second, hour_le, minute_le, second_le, member⟩, front⟩
    exact ⟨hour, minute, second, hour_le, minute_le, second_le, w, member, front⟩
  · rintro ⟨hour, minute, second, hour_le, minute_le, second_le, w, member, front⟩
    exact ⟨w, ⟨hour, minute, second, hour_le, minute_le, second_le, member⟩, front⟩

/-- A time is real if its parts are in their bounds. -/
theorem isReal_time_iff :
    t.isReal = true ↔
      (t.hour ≤ 23 ∧ t.minute ≤ 59 ∧ t.second ≤ 60) ∧ t.nanosecond < 1000000000 := by
  simp only [TimeOfDay.isReal, Bool.and_eq_true, decide_eq_true_eq, and_assoc]

/-! ### Moments with a zone -/

/-- A month has a first day. -/
theorem one_le_daysInMonth {year : Int} {month : Nat} (first : 1 ≤ month) (last : month ≤ 12) :
    1 ≤ daysInMonth year month :=
  (le_daysInMonth_iff (Nat.le_refl 1)).2
    ⟨⟨first, last⟩, by decide, fun _ => by decide, fun _ => .inl (by decide)⟩

/-- A day of a month that is not longer than the month. -/
theorem isReal_mk {year : Int} {month day : Nat} (least : -262143 ≤ year) (most : year ≤ 262142)
    (positive : 1 ≤ day) (last : day ≤ daysInMonth year month) :
    Date.isReal ⟨year, month, day⟩ = true := by
  simp only [Date.isReal, Bool.and_eq_true, decide_eq_true_eq]
  exact ⟨⟨⟨least, most⟩, positive⟩, last⟩

/-- Away from the last year there is a day after every day. -/
theorem exists_next? (real : d.isReal = true) (year : d.year < 262142) :
    ∃ d', d.next? = some d' := by
  obtain ⟨⟨least, -⟩, ⟨first, last⟩, ⟨positive, -⟩, -, -⟩ := Date.isReal_iff.1 real
  simp only [Date.next?, Option.ite_none_right_eq_some]
  split_ifs with inMonth inYear
  · exact ⟨_, isReal_mk least year.le (Nat.le_add_left 1 _) inMonth, rfl⟩
  · exact ⟨_, isReal_mk least year.le (Nat.le_refl 1)
      (one_le_daysInMonth (Nat.le_add_left 1 _) inYear), rfl⟩
  · exact ⟨_, isReal_mk (by omega) year (Nat.le_refl 1)
      (one_le_daysInMonth (Nat.le_refl 1) (by decide)), rfl⟩

/-- Away from the first year there is a day before every day. -/
theorem exists_previous? (real : d.isReal = true) (year : -262143 < d.year) :
    ∃ d', d.previous? = some d' := by
  obtain ⟨⟨-, most⟩, ⟨first, last⟩, ⟨positive, -⟩, -, -⟩ := Date.isReal_iff.1 real
  have day : d.day ≤ daysInMonth d.year d.month := by
    simp only [Date.isReal, Bool.and_eq_true, decide_eq_true_eq] at real
    exact real.2
  simp only [Date.previous?, Option.ite_none_right_eq_some]
  split_ifs with inMonth inYear
  · exact ⟨_, isReal_mk year.le most (by omega) (by omega), rfl⟩
  · have before : 1 ≤ daysInMonth d.year (d.month - 1) :=
      one_le_daysInMonth (by omega) (by omega)
    exact ⟨_, isReal_mk year.le most before (Nat.le_refl _), rfl⟩
  · exact ⟨_, isReal_mk (by omega) (by omega) (by decide) (Nat.le_refl 31), rfl⟩

/-- A year of four digits is far from both ends of the calendar. -/
theorem exists_ofLocal? (date : d.isReal = true) (time : t.isReal = true) (first : 0 ≤ d.year)
    (last : d.year ≤ 9999) : ∃ i, Instant.ofLocal? d t offset = some i := by
  obtain ⟨before, previous⟩ := exists_previous? date (by omega)
  obtain ⟨after, next⟩ := exists_next? date (by omega)
  simp only [Instant.ofLocal?, date, time, Bool.not_true, Bool.or_self, Bool.false_eq_true,
    if_false, bind, previous, next]
  split_ifs <;> exact ⟨_, rfl⟩

/-- A part of a date or a time is taken off with its two digits. -/
theorem digitsExactly_two_iff {n : Nat} :
    digitsExactly 2 cs = some (n, rest) ↔ Leaves (Spelling.twoDigits n) cs rest :=
  digitsExactly_eq_some_iff (by decide)

/-- A year is taken off with its four digits. -/
theorem digitsExactly_four_iff {n : Nat} :
    digitsExactly 4 cs = some (n, rest) ↔ Leaves (Spelling.strictYear n) cs rest := by
  rw [digitsExactly_eq_some_iff (by decide)]
  constructor
  · rintro ⟨w, member, front⟩
    exact ⟨w, ⟨n, rfl, member⟩, front⟩
  · rintro ⟨w, ⟨n', same, member⟩, front⟩
    rw [Int.ofNat_inj.1 same]
    exact ⟨w, member, front⟩

/-- A year of four digits comes before the year 10000. -/
theorem exists_of_leaves_strictYear {year : Int}
    (left : Leaves (Spelling.strictYear year) cs rest) :
    ∃ n : Nat, year = n ∧ n ≤ 9999 := by
  obtain ⟨w, ⟨n, same, ⟨⟨⟨run, -⟩, rfl⟩, least, most⟩⟩, -⟩ := left
  have small : digitsValue w < 10 ^ 4 := by
    rw [← Nat.le_antisymm most least]
    exact digitsValue_lt run
  exact ⟨_, same, by omega⟩

/-- A zone starts with neither a digit nor a point. -/
theorem head_of_leaves_zone (left : Leaves Spelling.zone cs rest) :
    ∀ c ∈ cs.head?, c.isDigit = false ∧ c ≠ '.' := by
  have marks : ['Z', 'z', '+', '-', '\u2212'].all (fun c => !c.isDigit && c != '.') = true := by
    decide
  simp only [List.all_eq_true, Bool.and_eq_true, Bool.not_eq_true', bne_iff_ne] at marks
  intro c head
  -- A zone is a letter, or starts with the sign of an offset.
  rcases leaves_add.1 left with zulu | ⟨w, ⟨_, _, _, _, member⟩, front⟩
  · obtain ⟨d, among, rfl⟩ := leaves_oneOf.1 zulu
    cases head
    exact marks c (List.mem_append_left ['+', '-', '\u2212'] among)
  · have parts : Leaves (oneOf ['+', '-', '\u2212'] * _ * _ * _) cs rest := ⟨w, member, front⟩
    simp only [leaves_mul] at parts
    obtain ⟨_, ⟨_, ⟨_, signed, -⟩, -⟩, -⟩ := parts
    obtain ⟨d, among, rfl⟩ := leaves_oneOf.1 signed
    cases head
    exact marks c (List.mem_append_right ['Z', 'z'] among)

/-- What is read strictly is spelled as an instant. -/
theorem mem_moment_of_strict? (read : strict? cs = some i) : cs ∈ Spelling.moment := by
  -- The date.
  obtain ⟨⟨year, r₁⟩, atYear, read⟩ := Option.bind_eq_some_iff.1 read
  obtain ⟨r₂, hyphen, read⟩ := Option.bind_eq_some_iff.1 read
  obtain ⟨⟨month, r₃⟩, atMonth, read⟩ := Option.bind_eq_some_iff.1 read
  obtain ⟨r₄, hyphen', read⟩ := Option.bind_eq_some_iff.1 read
  obtain ⟨⟨day, r₅⟩, atDay, read⟩ := Option.bind_eq_some_iff.1 read
  obtain ⟨r₆, between, read⟩ := Option.bind_eq_some_iff.1 read
  -- The time.
  obtain ⟨⟨hour, r₇⟩, atHour, read⟩ := Option.bind_eq_some_iff.1 read
  obtain ⟨r₈, colon, read⟩ := Option.bind_eq_some_iff.1 read
  obtain ⟨⟨minute, r₉⟩, atMinute, read⟩ := Option.bind_eq_some_iff.1 read
  obtain ⟨r₁₀, colon', read⟩ := Option.bind_eq_some_iff.1 read
  obtain ⟨⟨second, r₁₁⟩, atSecond, read⟩ := Option.bind_eq_some_iff.1 read
  obtain ⟨⟨nanosecond, r₁₂⟩, atFraction, read⟩ := Option.bind_eq_some_iff.1 read
  -- The zone, and nothing behind it.
  obtain ⟨⟨offset, r₁₃⟩, atZone, shown⟩ := Option.bind_eq_some_iff.1 read
  obtain ⟨nothing, shown⟩ : r₁₃ = [] ∧
      Instant.ofLocal? ⟨year, month, day⟩ ⟨hour, minute, second, nanosecond⟩ offset = some i := by
    cases r₁₃ with
    | nil => exact ⟨rfl, shown⟩
    | cons => cases shown
  obtain ⟨date, time⟩ := isReal_of_shown shown
  have onDay : Leaves (Spelling.dayOf Spelling.strictYear Spelling.twoDigits
      Spelling.twoDigits) cs r₅ := by
    refine leaves_dayOf.2 ⟨_, Date.isReal_iff.1 date, ?_⟩
    simp only [leaves_mul, ← digitsExactly_two_iff, ← digitsExactly_four_iff, ← mark_eq_some_iff]
    exact ⟨r₄, ⟨r₃, ⟨r₂, ⟨r₁, atYear, hyphen⟩, atMonth⟩, hyphen'⟩, atDay⟩
  have atTime : Leaves (Spelling.timeOf Spelling.twoDigits) r₆ r₁₂ := by
    obtain ⟨hour_le, minute_le, second_le⟩ := (isReal_time_iff.1 time).1
    refine leaves_timeOf.2 ⟨_, _, _, hour_le, minute_le, second_le, ?_⟩
    simp only [Spelling.clock, leaves_mul, ← digitsExactly_two_iff, ← mark_eq_some_iff]
    exact ⟨r₁₁, ⟨r₁₀, ⟨r₉, ⟨r₈, ⟨r₇, atHour, colon⟩, atMinute⟩, colon'⟩, atSecond⟩,
      (leaves_of_secondFraction atFraction).1⟩
  have zone : Leaves Spelling.zone r₁₂ [] := exists_zoneOffset_iff.1 ⟨offset, nothing ▸ atZone⟩
  rw [← leaves_nil]
  simp only [Spelling.moment, leaves_mul]
  exact ⟨r₁₂, ⟨r₆, ⟨r₅, onDay, separator_eq_some_iff.1 between⟩, atTime⟩, zone⟩

/-- What is spelled as an instant is read strictly. -/
theorem exists_strict?_of_mem_moment (member : cs ∈ Spelling.moment) :
    ∃ i, strict? cs = some i := by
  rw [← leaves_nil] at member
  simp only [Spelling.moment, leaves_mul] at member
  obtain ⟨r₁₂, ⟨r₆, ⟨r₅, onDay, between⟩, atTime⟩, atZone⟩ := member
  obtain ⟨⟨year, month, day⟩, date, onDay⟩ := leaves_dayOf.1 onDay
  obtain ⟨hour, minute, second, hour_le, minute_le, second_le, atTime⟩ := leaves_timeOf.1 atTime
  simp only [Spelling.clock, leaves_mul] at onDay atTime
  obtain ⟨r₄, ⟨r₃, ⟨r₂, ⟨r₁, atYear, hyphen⟩, atMonth⟩, hyphen'⟩, atDay⟩ := onDay
  obtain ⟨r₁₁, ⟨r₁₀, ⟨r₉, ⟨r₈, ⟨r₇, atHour, colon⟩, atMinute⟩, colon'⟩, atSecond⟩, atFraction⟩ :=
    atTime
  -- Every part is read to where the next one starts, and together they are an instant.
  obtain ⟨nanosecond, small, fraction⟩ :=
    exists_secondFraction atFraction (head_of_leaves_zone atZone)
  obtain ⟨offset, zone⟩ := exists_zoneOffset_iff.2 atZone
  obtain ⟨n, rfl, most⟩ := exists_of_leaves_strictYear atYear
  obtain ⟨i, shown⟩ : ∃ i, Instant.ofLocal? ⟨n, month, day⟩ ⟨hour, minute, second, nanosecond⟩
      offset = some i :=
    exists_ofLocal? (Date.isReal_iff.2 date)
      (isReal_time_iff.2 ⟨⟨hour_le, minute_le, second_le⟩, small⟩) (Int.natCast_nonneg n)
      (Int.ofNat_le.2 most)
  refine ⟨i, ?_⟩
  simp only [← digitsExactly_two_iff, ← digitsExactly_four_iff, ← mark_eq_some_iff,
    ← separator_eq_some_iff] at *
  simp only [strict?, bind, Option.bind, atYear, hyphen, atMonth, hyphen', atDay, between, atHour,
    colon, atMinute, colon', atSecond, fraction, zone, List.isEmpty_nil, Bool.not_true,
    Bool.false_eq_true, if_false, shown]

/-- The strict reading takes exactly the moments that are written in its language. -/
theorem isSome_strict?_iff : (strict? cs).isSome = true ↔ cs ∈ Spelling.moment := by
  rw [Option.isSome_iff_exists]
  exact ⟨fun ⟨_, read⟩ => mem_moment_of_strict? read, exists_strict?_of_mem_moment⟩

/-! ### Dates without a zone -/

/-- Year and month of a date stand in front of a hyphen each. -/
theorem plainDate_eq_some_iff_looseNumber :
    plainDate cs = some (d, rest) ↔ ∃ mid,
      Leaves (Spelling.looseYear d.year * oneOf ['-'] * Spelling.loose 1 d.month * oneOf ['-'])
        cs mid ∧ looseNumber mid = some (d.day, rest) := by
  simp only [mul_assoc _ (Spelling.loose 1 d.month), leaves_mul (L := _ * _),
    ← exists_looseYear_mark_iff, ← exists_looseNumber_mark_iff (c := '-') (by decide)]
  simp only [plainDate, bind, Option.bind_eq_some_iff]
  constructor
  · rintro ⟨⟨year, r₁⟩, atYear, r₂, hyphen, ⟨month, r₃⟩, atMonth, r₄, hyphen', ⟨day, r₅⟩, atDay,
      same⟩
    cases same
    exact ⟨r₄, ⟨r₂, ⟨r₁, atYear, hyphen⟩, r₃, atMonth, hyphen'⟩, atDay⟩
  · rintro ⟨r₄, ⟨r₂, ⟨r₁, atYear, hyphen⟩, r₃, atMonth, hyphen'⟩, atDay⟩
    exact ⟨_, atYear, r₂, hyphen, _, atMonth, r₄, hyphen', _, atDay, rfl⟩

/-- A date is read with two digits of the day, or else no further digit comes. -/
theorem exists_plainDate_iff :
    (∃ d : Date, d.isReal = true ∧ plainDate cs = some (d, rest)) ↔
      Leaves (Spelling.plainDay 2) cs rest ∨
        Leaves (Spelling.plainDay 1) cs rest ∧ EndsDigits rest := by
  simp only [Spelling.plainDay, leaves_dayOf, plainDate_eq_some_iff_looseNumber,
    looseNumber_eq_some_iff, Date.isReal_iff, leaves_mul (M := Spelling.loose _ (Date.day _))]
  constructor
  · rintro ⟨d, real, mid, front, wide | ⟨number, ends⟩⟩
    · exact .inl ⟨d, real, mid, front, wide⟩
    · exact .inr ⟨⟨d, real, mid, front, number⟩, ends⟩
  · rintro (⟨d, real, mid, front, wide⟩ | ⟨⟨d, real, mid, front, number⟩, ends⟩)
    · exact ⟨d, real, mid, front, .inl wide⟩
    · exact ⟨d, real, mid, front, .inr ⟨number, ends⟩⟩

/-- A day with two digits is one with at least one. -/
theorem leaves_plainDay_one (left : Leaves (Spelling.plainDay 2) cs rest) :
    Leaves (Spelling.plainDay 1) cs rest := by
  obtain ⟨d, exist, member⟩ := leaves_dayOf.1 left
  obtain ⟨mid, front, wide⟩ := leaves_mul.1 member
  exact leaves_dayOf.2 ⟨d, exist, leaves_mul.2 ⟨mid, front, leaves_loose_one wide⟩⟩

/-- A text is a date alone if nothing is left behind the day. -/
theorem isPlainDate_iff : isPlainDate cs = true ↔ cs ∈ Spelling.plainDay 1 := by
  have alone : isPlainDate cs = true ↔
      ∃ d : Date, d.isReal = true ∧ plainDate cs = some (d, []) := by
    simp only [isPlainDate, Option.any_eq_true, Bool.and_eq_true, List.isEmpty_iff]
    constructor
    · rintro ⟨⟨d, rest⟩, read, rfl, real⟩
      exact ⟨d, real, read⟩
    · rintro ⟨d, real, read⟩
      exact ⟨(d, []), read, rfl, real⟩
  rw [alone, exists_plainDate_iff, ← leaves_nil, and_iff_left EndsDigits.nil]
  exact or_iff_right_of_imp leaves_plainDay_one

/-! ### Times without a zone -/

/-- A fraction does not start with a digit, and neither does what follows where there is none. -/
theorem endsDigits_of_leaves_fraction (left : Leaves Spelling.fraction cs rest)
    (ends : EndsDigits rest) : EndsDigits cs := by
  rcases leaves_add.1 left with none | some
  · rwa [leaves_one.1 none]
  · obtain ⟨behind, point, -⟩ := leaves_mul.1 some
    rw [leaves_char.1 point]
    exact endsDigits_cons.2 (by decide)

/-- Hours and minutes of a time stand in front of a colon each. -/
theorem plainTime_eq_some_iff :
    plainTime cs = some (t, rest) ↔ ∃ mid,
      Leaves (Spelling.loose 1 t.hour * oneOf [':'] * Spelling.loose 1 t.minute * oneOf [':'])
          cs mid ∧
        ∃ behind, looseNumber mid = some (t.second, behind) ∧
          secondFraction behind = some (t.nanosecond, rest) := by
  simp only [mul_assoc _ (Spelling.loose 1 t.minute), leaves_mul (L := _ * _),
    ← exists_looseNumber_mark_iff (c := ':') (by decide)]
  simp only [plainTime, bind, Option.bind_eq_some_iff]
  constructor
  · rintro ⟨⟨hour, r₁⟩, atHour, r₂, colon, ⟨minute, r₃⟩, atMinute, r₄, colon', ⟨second, r₅⟩,
      atSecond, ⟨nanosecond, r₆⟩, atFraction, same⟩
    cases same
    exact ⟨r₄, ⟨r₂, ⟨r₁, atHour, colon⟩, r₃, atMinute, colon'⟩, r₅, atSecond, atFraction⟩
  · rintro ⟨r₄, ⟨r₂, ⟨r₁, atHour, colon⟩, r₃, atMinute, colon'⟩, r₅, atSecond, atFraction⟩
    exact ⟨_, atHour, r₂, colon, _, atMinute, r₄, colon', _, atSecond, _, atFraction, rfl⟩

/-- A time is read to the end of a text if the text is written in the language of times. -/
theorem exists_plainTime_iff :
    (∃ t, t.isReal = true ∧ plainTime cs = some (t, [])) ↔ cs ∈ Spelling.plainTime := by
  rw [← leaves_nil, Spelling.plainTime, leaves_timeOf]
  simp only [plainTime_eq_some_iff, Spelling.clock, leaves_mul (M := Spelling.fraction),
    leaves_mul (L := _ * oneOf [':'])]
  constructor
  · rintro ⟨t, real, mid, front, behind, atSecond, atFraction⟩
    obtain ⟨hour_le, minute_le, second_le⟩ := (isReal_time_iff.1 real).1
    have number : Leaves (Spelling.loose 1 t.second) mid behind :=
      (looseNumber_eq_some_iff.1 atSecond).elim leaves_loose_one And.left
    exact ⟨t.hour, t.minute, t.second, hour_le, minute_le, second_le, behind, ⟨mid, front, number⟩,
      (leaves_of_secondFraction atFraction).1⟩
  · rintro ⟨hour, minute, second, hour_le, minute_le, second_le, behind, ⟨mid, front, number⟩,
      left⟩
    -- The fraction is read to the end, and the second ends where the fraction starts.
    obtain ⟨nanosecond, small, atFraction⟩ := exists_secondFraction left (by simp)
    have ends : EndsDigits behind := endsDigits_of_leaves_fraction left .nil
    exact ⟨⟨hour, minute, second, nanosecond⟩,
      isReal_time_iff.2 ⟨⟨hour_le, minute_le, second_le⟩, small⟩, mid, front, behind,
      looseNumber_eq_some_iff.2 (.inr ⟨number, ends⟩), atFraction⟩

/-- Blanks in front of a time do not matter. -/
theorem plainTime_dropBlank (cs : List Char) : plainTime (dropBlank cs) = plainTime cs := by
  simp only [plainTime, looseNumber, dropBlank, List.dropWhile_idempotent]

/-- Blanks in front of a time make no difference. -/
theorem dropBlank_mem_plainTime_iff :
    dropBlank cs ∈ Spelling.plainTime ↔ cs ∈ Spelling.plainTime := by
  rw [← exists_plainTime_iff, ← exists_plainTime_iff, plainTime_dropBlank]

/-- Behind blanks a time starts with a digit. -/
theorem not_endsDigits_of_mem_plainTime (member : cs ∈ Spelling.plainTime) :
    ¬ EndsDigits (dropBlank cs) := by
  obtain ⟨t, -, read⟩ := exists_plainTime_iff.2 member
  simp only [plainTime, bind, Option.bind_eq_some_iff] at read
  obtain ⟨⟨hour, behind⟩, atHour, -⟩ := read
  obtain ⟨w, number, front, -⟩ := digitsUpTo_eq_some_iff.1 atHour
  obtain ⟨c, ds, rfl, digit, -⟩ := exists_cons_of_mem_digits number.1.1
  rw [← front, List.cons_append, endsDigits_cons, digit]
  decide

/-- A time starts with something other than a digit where blanks stand in front of it. -/
theorem mem_blanks_mul_plainTime_iff :
    cs ∈ blanks * Spelling.plainTime ↔ EndsDigits cs ∧ cs ∈ Spelling.plainTime := by
  rw [Language.mem_mul]
  constructor
  · rintro ⟨b, ⟨blank, nonempty⟩, w, member, rfl⟩
    obtain ⟨c, b, rfl⟩ := List.exists_cons_of_ne_nil nonempty
    -- A time may have blanks in front, so that one with more of them is still a time.
    refine ⟨.of_isBlank (blank c List.mem_cons_self), ?_⟩
    rw [← dropBlank_mem_plainTime_iff] at member ⊢
    rwa [dropBlank, List.dropWhile_append_of_pos blank]
  · rintro ⟨ends, member⟩
    obtain ⟨b, blank, front⟩ := leaves_blankRun_dropBlank cs
    refine ⟨b, ⟨blank, ?_⟩, dropBlank cs, dropBlank_mem_plainTime_iff.2 member, front⟩
    rintro rfl
    rw [← front] at ends
    exact not_endsDigits_of_mem_plainTime member ends

/-! ### Dates and times without a zone -/

/-- The day ends where two digits of it are read, or else where no further digit comes. -/
theorem isPlainDateTime_iff {between : List Char → Option (List Char)} :
    isPlainDateTime between cs = true ↔ ∃ mid,
      (Leaves (Spelling.plainDay 2) cs mid ∨ Leaves (Spelling.plainDay 1) cs mid ∧ EndsDigits mid) ∧
        ∃ behind, between mid = some behind ∧ behind ∈ Spelling.plainTime := by
  simp only [← exists_plainDate_iff, ← exists_plainTime_iff]
  simp only [isPlainDateTime, Option.any_eq_true, Bool.and_eq_true, List.isEmpty_iff, bind,
    Option.bind_eq_some_iff]
  constructor
  · rintro ⟨_, ⟨⟨d, mid⟩, atDate, behind, passed, ⟨t, rest⟩, atTime, same⟩, ⟨nothing, date⟩, time⟩
    cases same
    cases nothing
    exact ⟨mid, ⟨d, date, atDate⟩, behind, passed, t, time, atTime⟩
  · rintro ⟨mid, ⟨d, date, atDate⟩, behind, passed, t, time, atTime⟩
    exact ⟨_, ⟨_, atDate, behind, passed, _, atTime, rfl⟩, ⟨rfl, date⟩, time⟩

/-- A date and a time with the letter between them are checked as the language has them. -/
theorem isPlainDateTime_mark_iff :
    isPlainDateTime (mark 'T') cs = true ↔
      cs ∈ Spelling.plainDay 1 * oneOf ['T'] * Spelling.plainTime := by
  rw [isPlainDateTime_iff, mul_assoc, mem_mul_iff]
  simp only [mark_eq_some_iff, mem_mul_iff]
  constructor
  · rintro ⟨mid, wide | ⟨narrow, -⟩, time⟩
    · exact ⟨mid, leaves_plainDay_one wide, time⟩
    · exact ⟨mid, narrow, time⟩
  · rintro ⟨mid, day, behind, letter, time⟩
    refine ⟨mid, .inr ⟨day, ?_⟩, behind, letter, time⟩
    rw [leaves_char.1 letter]
    exact endsDigits_cons.2 (by decide)

/-- Where nothing stands between a date and a time the day has two digits. -/
theorem isPlainDateTime_dropBlank_iff :
    isPlainDateTime (some ∘ dropBlank) cs = true ↔
      cs ∈ Spelling.plainDay 1 * blanks * Spelling.plainTime +
        Spelling.plainDay 2 * Spelling.plainTime := by
  rw [isPlainDateTime_iff, Language.mem_add, mul_assoc, mem_mul_iff, mem_mul_iff]
  simp only [Function.comp_apply, Option.some.injEq, exists_eq_left', dropBlank_mem_plainTime_iff,
    mem_blanks_mul_plainTime_iff]
  constructor
  · rintro ⟨mid, wide | ⟨narrow, ends⟩, time⟩
    · exact .inr ⟨mid, wide, time⟩
    · exact .inl ⟨mid, narrow, ends, time⟩
  · rintro (⟨mid, narrow, ends, time⟩ | ⟨mid, wide, time⟩)
    · exact ⟨mid, .inr ⟨narrow, ends⟩, time⟩
    · exact ⟨mid, .inl wide, time⟩

/-- The texts that are accepted as a date are those of the four ways to write one. -/
theorem isIsoDate_iff : isIsoDate cs = true ↔ cs ∈ Spelling.date := by
  simp only [isIsoDate, Bool.or_eq_true, isSome_strict?_iff, isPlainDateTime_mark_iff,
    isPlainDateTime_dropBlank_iff, isPlainDate_iff, Spelling.date, Language.mem_add]

end Whole

end AssetRegistry.Calendar

/-! ### Values -/

namespace AssetRegistry.Validation

open Text Calendar

/-- A text is a value of the types of numbers and of dates if it is spelled like one. -/
theorem number_and_date_pass_spellings {s : String} (text : s ≠ "") :
    (metadataValue s .number = .ok () ↔ s.toList ∈ blankRun * Numeric.number * blankRun) ∧
      (metadataValue s .date = .ok () ↔ s.toList ∈ Spelling.date) := by
  simp only [metadataValue_eq_ok, or_iff_right text, checkText, requireValue_eq_ok]
  exact ⟨Numeric.isLiteral_trim_iff, isIsoDate_iff⟩

/-- The leap second of a leap day is spelled like a date, and not like a number. -/
theorem number_and_date_pass_spellings_leapSecond :
    "2024-02-29 23:59:60" ≠ "" ∧
      "2024-02-29 23:59:60".toList ∉ blankRun * Numeric.number * blankRun ∧
      "2024-02-29 23:59:60".toList ∈ Spelling.date := by
  have text : "2024-02-29 23:59:60" ≠ "" := by decide
  obtain ⟨number, date⟩ := number_and_date_pass_spellings text
  exact ⟨text, fun spelled => absurd (number.2 spelled) (by decide), date.1 (by decide)⟩

/-- The digits of a day run on into those of the hour if nothing stands between them. -/
theorem date_without_blanks_refused :
    ¬ ∀ s : String, s ≠ "" →
      (metadataValue s .number = .ok () ↔ s.toList ∈ blankRun * Numeric.number * blankRun) ∧
        (metadataValue s .date = .ok () ↔ s.toList ∈
          Spelling.moment + Spelling.plainDay 1 * oneOf ['T'] * Spelling.plainTime +
            Spelling.plainDay 1 * blankRun * Spelling.plainTime + Spelling.plainDay 1) := by
  intro spelled
  have day : "2024-02-3".toList ∈ Spelling.plainDay 1 := isPlainDate_iff.1 (by decide)
  have time : "12:00:00".toList ∈ Spelling.plainTime :=
    exists_plainTime_iff.1 ⟨⟨12, 0, 0, 0⟩, by decide, by decide⟩
  have nothing : [] ∈ blankRun := List.forall_mem_nil _
  have joined : "2024-02-312:00:00".toList ∈
      Spelling.plainDay 1 * blankRun * Spelling.plainTime :=
    Language.append_mem_mul (Language.append_mem_mul day nothing) time
  have refused : metadataValue "2024-02-312:00:00" .date ≠ .ok () := by decide
  exact refused ((spelled _ (by decide)).2.2 (.inl (.inr joined)))

end AssetRegistry.Validation
