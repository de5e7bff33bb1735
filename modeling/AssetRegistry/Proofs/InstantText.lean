import AssetRegistry.Moment
import AssetRegistry.Proofs.JsonTokens
import Mathlib.Algebra.Group.Nat.Defs

/-!
# Texts of instants

The text of an instant is read as that instant (`lenient?_text`), whichever of the accepted
spellings the instant itself came from.  Numbers of a fixed width end where their digits
end, a year outside the first ten thousand has a sign in front, and a fraction has as many
digits as its nanoseconds need.
-/

namespace AssetRegistry.Text

/-! ### Padded numbers -/

variable {width n : Nat} {c : Char} {cs rest : List Char}

/-- A padded number has digits only. -/
theorem isDigit_of_mem_padded (member : c ∈ padded width n) : c.isDigit = true := by
  rcases List.mem_append.1 member with zero | digit
  · rw [List.eq_of_mem_replicate zero]
    rfl
  · exact Nat.isDigit_of_mem_toDigits (by decide) (by decide) digit

/-- A padded number has at least one digit. -/
theorem padded_ne_nil (width n : Nat) : padded width n ≠ [] :=
  List.append_ne_nil_of_right_ne_nil _ Nat.toDigits_ne_nil

/-- Zeros in front of a number do not change it. -/
theorem digitsValue_padded (width n : Nat) : digitsValue (padded width n) = n := by
  rw [padded, digitsValue, Nat.ofDigitChars_append, Nat.ofDigitChars_replicate_zero, Nat.mul_zero]
  exact digitsValue_digitsOf n

/-- A number that is not too large is padded to the width. -/
theorem length_padded (positive : 0 < width) (small : n < 10 ^ width) :
    (padded width n).length = width := by
  have fits : (digitsOf n).length ≤ width :=
    (Nat.length_toDigits_le_iff (by decide) positive).2 small
  rw [padded, List.length_append, List.length_replicate]
  omega

/-- A padded number starts with a digit. -/
theorem exists_padded_eq_cons (width n : Nat) :
    ∃ d ds, padded width n = d :: ds ∧ d.isDigit = true := by
  obtain ⟨d, ds, h⟩ := List.exists_cons_of_ne_nil (padded_ne_nil width n)
  exact ⟨d, ds, h, isDigit_of_mem_padded (h ▸ List.mem_cons_self)⟩

/-- A padded number ends where no further digit comes. -/
theorem spanDigits_padded (noDigit : c.isDigit = false) :
    spanDigits (padded width n ++ c :: rest) = (padded width n, c :: rest) :=
  Json.spanDigits_append (fun _ member => isDigit_of_mem_padded member) (by simpa using noDigit)

/-! ### Blanks -/

/-- A digit is not blank. -/
theorem isBlank_of_isDigit (digit : c.isDigit = true) : isBlank c = false := by
  obtain ⟨low, high⟩ := Char.isDigit_iff_toNat.1 digit
  have low' : 48 ≤ c.toNat := low
  have high' : c.toNat ≤ 57 := high
  simp only [isBlank, blankRanges, List.any_cons, List.any_nil, Bool.or_false,
    Bool.or_eq_false_iff, Bool.and_eq_false_iff, decide_eq_false_iff_not]
  omega

/-- Nothing is dropped in front of a character that is no blank. -/
theorem dropBlank_cons (noBlank : isBlank c = false) : dropBlank (c :: cs) = c :: cs := by
  rw [dropBlank, List.dropWhile_cons_of_neg (by simp [noBlank])]

/-- There are no blanks before a padded number. -/
theorem dropBlank_padded_append (width n : Nat) (rest : List Char) :
    dropBlank (padded width n ++ rest) = padded width n ++ rest := by
  obtain ⟨d, ds, h, digit⟩ := exists_padded_eq_cons width n
  rw [h, List.cons_append, dropBlank_cons (isBlank_of_isDigit digit)]

end AssetRegistry.Text

namespace AssetRegistry.Calendar

open Text

/-! ### Reading parts -/

section Parts

variable {width n atMost : Nat} {c : Char} {rest : List Char}

/-- A padded number is read up to its end. -/
theorem digitsUpTo_padded (fits : (padded width n).length ≤ atMost) (noDigit : c.isDigit = false) :
    digitsUpTo atMost (padded width n ++ c :: rest) = some (n, c :: rest) := by
  have digits : (padded width n ++ c :: rest).takeWhile Char.isDigit = padded width n :=
    congrArg Prod.fst (spanDigits_padded noDigit)
  have whole : (padded width n).take atMost = padded width n := List.take_of_length_le fits
  have nonempty : (padded width n).isEmpty = false :=
    List.isEmpty_eq_false_iff.2 (padded_ne_nil width n)
  simp only [digitsUpTo, digits, whole, nonempty, digitsValue_padded, List.drop_left]
  rfl

/-- A number of two digits is read up to its end. -/
theorem looseNumber_padded (small : n < 100) (noDigit : c.isDigit = false) :
    looseNumber (padded 2 n ++ c :: rest) = some (n, c :: rest) := by
  have fits : (padded 2 n).length ≤ 2 := Nat.le_of_eq (length_padded (by decide) small)
  rw [looseNumber, dropBlank_padded_append, digitsUpTo_padded fits noDigit]

/-- A year is read from its four digits, or from its sign and its digits. -/
theorem looseYear_yearText (year : Int) (noDigit : c.isDigit = false) :
    looseYear (yearText year ++ c :: rest) = some (year, c :: rest) := by
  rw [yearText]
  split
  case isTrue plain =>
    obtain ⟨first, last⟩ := plain
    have fits : (padded 4 year.toNat).length ≤ 4 :=
      Nat.le_of_eq (length_padded (by decide) (by omega))
    have read : digitsUpTo 4 (padded 4 year.toNat ++ c :: rest) = some (year.toNat, c :: rest) :=
      digitsUpTo_padded fits noDigit
    obtain ⟨d, ds, h, digit⟩ := exists_padded_eq_cons 4 year.toNat
    rw [looseYear, dropBlank_padded_append]
    rw [h, List.cons_append] at read ⊢
    split
    case h_1 same => exact absurd digit (by rw [(List.cons.inj same).1]; decide)
    case h_2 same => exact absurd digit (by rw [(List.cons.inj same).1]; decide)
    case h_3 =>
      rw [read]
      show some ((year.toNat : Int), c :: rest) = some (year, c :: rest)
      rw [Int.toNat_of_nonneg first]
  case isFalse signed =>
    -- Behind a sign there may be any number of digits.
    have fits : (padded 4 year.natAbs).length ≤ (padded 4 year.natAbs ++ c :: rest).length := by
      rw [List.length_append]
      omega
    have read : digitsUpTo (padded 4 year.natAbs ++ c :: rest).length
        (padded 4 year.natAbs ++ c :: rest) = some (year.natAbs, c :: rest) :=
      digitsUpTo_padded fits noDigit
    by_cases negative : year < 0
    · rw [if_pos negative, List.cons_append, looseYear, dropBlank_cons (by decide)]
      simp only [read, bind, Option.bind]
      show some (-(year.natAbs : Int), c :: rest) = some (year, c :: rest)
      rw [Int.ofNat_natAbs_of_nonpos (by omega), Int.neg_neg]
    · rw [if_neg negative, List.cons_append, looseYear, dropBlank_cons (by decide)]
      simp only [read, bind, Option.bind]
      show some ((year.natAbs : Int), c :: rest) = some (year, c :: rest)
      rw [Int.natAbs_of_nonneg (by omega)]

/-- A fraction of some width is read up to its end. -/
theorem secondFraction_padded (narrow : width ≤ 9) (positive : 0 < width) (small : n < 10 ^ width)
    (noDigit : c.isDigit = false) :
    secondFraction ('.' :: (padded width n ++ c :: rest)) =
      some (n * Nat.pow 10 (9 - width), c :: rest) := by
  have length : (padded width n).length = width := length_padded positive small
  have whole : (padded width n).take 9 = padded width n :=
    List.take_of_length_le (by omega)
  have nonempty : (padded width n).isEmpty = false :=
    List.isEmpty_eq_false_iff.2 (padded_ne_nil width n)
  simp only [secondFraction, spanDigits_padded noDigit, nonempty, whole, length,
    digitsValue_padded]
  rfl

/-- A fraction is read as the nanoseconds that it is written for. -/
theorem secondFraction_fractionText {nanosecond : Nat} (small : nanosecond < 1000000000)
    (noDigit : c.isDigit = false) (noPoint : c ≠ '.') :
    secondFraction (fractionText nanosecond ++ c :: rest) = some (nanosecond, c :: rest) := by
  -- The width is zero, three, six or nine, as the number of nanoseconds allows.
  rw [fractionText]
  split_ifs with whole milli micro
  · rw [whole, List.nil_append, secondFraction]
    exact fun _ h => noPoint (List.cons.inj h).1
  · have narrow : nanosecond / 1000000 < 10 ^ 3 := by omega
    rw [List.cons_append, secondFraction_padded (by decide) (by decide) narrow noDigit]
    simp only [Option.some.injEq, Prod.mk.injEq, and_true]
    show nanosecond / 1000000 * 1000000 = nanosecond
    omega
  · have narrow : nanosecond / 1000 < 10 ^ 6 := by omega
    rw [List.cons_append, secondFraction_padded (by decide) (by decide) narrow noDigit]
    simp only [Option.some.injEq, Prod.mk.injEq, and_true]
    show nanosecond / 1000 * 1000 = nanosecond
    omega
  · rw [List.cons_append, secondFraction_padded (by decide) (by decide) small noDigit]
    simp only [Option.some.injEq, Prod.mk.injEq, and_true]
    exact Nat.mul_one nanosecond

end Parts

/-! ### Whole instants -/

section Whole

variable {d : Date} {t : TimeOfDay} {i : Instant} {cs rest : List Char} {c : Char}

/-- A month has two digits at most, and so has a day. -/
theorem month_and_day_of_isReal (real : d.isReal) : d.month < 100 ∧ d.day < 100 := by
  simp only [Date.isReal, Bool.and_eq_true, decide_eq_true_eq] at real
  obtain ⟨⟨_, first⟩, last⟩ := real
  -- Only a month of the year has a day, so the length of the month bounds its number too.
  unfold daysInMonth at last
  split_ifs at last with long short february
  · simp at long
    omega
  · simp at short
    omega
  · omega
  · omega
  · omega

/-- A date is read up to its end. -/
theorem looseDate_text (real : d.isReal) (noDigit : c.isDigit = false) :
    looseDate (yearText d.year ++ '-' :: padded 2 d.month ++ '-' :: padded 2 d.day ++ c :: rest) =
      some (d, c :: rest) := by
  obtain ⟨month, day⟩ := month_and_day_of_isReal real
  simp only [List.append_assoc, List.cons_append]
  simp only [looseDate, looseYear_yearText d.year (c := '-') (by decide), bind, Option.bind]
  rw [dropBlank_cons (by decide)]
  simp only [mark, if_true, looseNumber_padded month (c := '-') (by decide)]
  rw [dropBlank_cons (by decide)]
  simp only [if_true, looseNumber_padded day noDigit]
  rfl

/-- A fraction, or what follows where there is none, does not start with a digit. -/
theorem exists_fractionText_append_eq_cons (nanosecond : Nat) (noDigit : c.isDigit = false) :
    ∃ d ds, fractionText nanosecond ++ c :: rest = d :: ds ∧ d.isDigit = false := by
  rw [fractionText]
  split_ifs
  · exact ⟨c, rest, rfl, noDigit⟩
  · exact ⟨'.', _, rfl, by decide⟩
  · exact ⟨'.', _, rfl, by decide⟩
  · exact ⟨'.', _, rfl, by decide⟩

/-- A time is read up to its end. -/
theorem looseTime_text (real : t.isReal) (noDigit : c.isDigit = false) (noPoint : c ≠ '.') :
    looseTime (padded 2 t.hour ++ ':' :: padded 2 t.minute ++ ':' :: padded 2 t.second ++
        fractionText t.nanosecond ++ c :: rest) = some (t, c :: rest) := by
  simp only [TimeOfDay.isReal, Bool.and_eq_true, decide_eq_true_eq] at real
  obtain ⟨⟨⟨hour, minute⟩, second⟩, small⟩ := real
  have fraction : secondFraction (fractionText t.nanosecond ++ c :: rest) =
      some (t.nanosecond, c :: rest) := secondFraction_fractionText small noDigit noPoint
  have parts : ∃ d ds, fractionText t.nanosecond ++ c :: rest = d :: ds ∧ d.isDigit = false :=
    exists_fractionText_append_eq_cons _ noDigit
  -- The seconds end at a point, or else at what follows on the time.
  obtain ⟨d, ds, after, noDigit'⟩ := parts
  simp only [List.append_assoc, List.cons_append]
  rw [after] at fraction ⊢
  have hour' : t.hour < 100 := by omega
  have minute' : t.minute < 100 := by omega
  have second' : t.second < 100 := by omega
  simp only [looseTime, looseNumber_padded hour' (c := ':') (by decide), bind, Option.bind]
  rw [dropBlank_cons (by decide)]
  simp only [mark, if_true, looseNumber_padded minute' (c := ':') (by decide)]
  rw [dropBlank_cons (by decide)]
  simp only [if_true, looseNumber_padded second' noDigit', fraction]
  rfl

/-- A clock that shows universal time shows the time itself. -/
theorem ofLocal?_universal (date : d.isReal) (time : t.isReal) :
    Instant.ofLocal? d t 0 = some ⟨d, t⟩ := by
  obtain ⟨hour, minute, second, nanosecond⟩ := t
  have shown := time
  simp only [TimeOfDay.isReal, Bool.and_eq_true, decide_eq_true_eq] at shown
  obtain ⟨⟨⟨hour', minute'⟩, _⟩, _⟩ := shown
  -- The minutes of the day neither fall below zero nor go beyond the day.
  have early : ¬ ((hour : Int) * 60 + minute - 0 < 0) := by omega
  have late : ¬ (1440 ≤ (hour : Int) * 60 + minute - 0) := by omega
  have minutes : (((hour : Int) * 60 + minute - 0) % 1440).toNat = hour * 60 + minute := by omega
  simp only [Instant.ofLocal?, date, time, Bool.not_true, Bool.or_self, Bool.false_eq_true,
    if_false, early, late, minutes, bind, Option.bind]
  show some (Instant.mk d ⟨(hour * 60 + minute) / 60, (hour * 60 + minute) % 60, _, _⟩) = _
  have hours : (hour * 60 + minute) / 60 = hour := by omega
  have rest : (hour * 60 + minute) % 60 = minute := by omega
  rw [hours, rest]

/-- The day after a day of the calendar is one. -/
theorem isReal_of_next? {d' : Date} (next : d.next? = some d') : d'.isReal := by
  simp only [Date.next?, Option.ite_none_right_eq_some, Option.some.injEq] at next
  obtain ⟨real, rfl⟩ := next
  exact real

/-- The day before a day of the calendar is one. -/
theorem isReal_of_previous? {d' : Date} (previous : d.previous? = some d') : d'.isReal := by
  simp only [Date.previous?, Option.ite_none_right_eq_some, Option.some.injEq] at previous
  obtain ⟨real, rfl⟩ := previous
  exact real

/-- A clock shows a day of the calendar and a time of the day only. -/
theorem isReal_of_shown {offset : Int} (shown : Instant.ofLocal? d t offset = some i) :
    d.isReal ∧ t.isReal := by
  rw [Instant.ofLocal?] at shown
  by_contra broken
  have refused : (!d.isReal || !t.isReal) = true := by
    rw [not_and_or] at broken
    simpa using broken
  simp [refused] at shown

/-- An instant that a clock shows is on a day of the calendar at a time of the day. -/
theorem isReal_of_ofLocal? {offset : Int} (shown : Instant.ofLocal? d t offset = some i) :
    i.date.isReal ∧ i.time.isReal := by
  obtain ⟨date, time⟩ := isReal_of_shown shown
  -- The hours and minutes come from the minutes of a day.
  have moved (minutes : Int) : TimeOfDay.isReal
      { t with hour := (minutes % 1440).toNat / 60, minute := (minutes % 1440).toNat % 60 } := by
    simp only [TimeOfDay.isReal, Bool.and_eq_true, decide_eq_true_eq] at time ⊢
    omega
  rw [Instant.ofLocal?] at shown
  simp only [date, time, Bool.not_true, Bool.or_self, Bool.false_eq_true, if_false, bind,
    pure] at shown
  split_ifs at shown
  · obtain ⟨d', before, same⟩ := Option.bind_eq_some_iff.1 shown
    cases same
    exact ⟨isReal_of_previous? before, moved _⟩
  · obtain ⟨d', after, same⟩ := Option.bind_eq_some_iff.1 shown
    cases same
    exact ⟨isReal_of_next? after, moved _⟩
  · cases shown
    exact ⟨date, moved _⟩

/-- What is read is an instant of the calendar. -/
theorem isReal_of_lenient? (read : lenient? cs = some i) : i.date.isReal ∧ i.time.isReal := by
  simp only [lenient?, bind, Option.bind_eq_some_iff] at read
  obtain ⟨⟨d, _⟩, _, _, _, ⟨t, _⟩, _, ⟨offset, _⟩, _, shown⟩ := read
  split at shown
  · cases shown
  · exact isReal_of_ofLocal? shown

/-- The text of an instant is read as the instant. -/
theorem lenient?_text (date : i.date.isReal) (time : i.time.isReal) :
    lenient? i.text.toList = some i := by
  obtain ⟨d, t⟩ := i
  have parts : Instant.textWith ['Z'] ⟨d, t⟩ =
      yearText d.year ++ '-' :: padded 2 d.month ++ '-' :: padded 2 d.day ++
        'T' :: (padded 2 t.hour ++ ':' :: padded 2 t.minute ++ ':' :: padded 2 t.second ++
          fractionText t.nanosecond ++ ['Z']) := by
    simp [Instant.textWith]
  rw [Instant.text, String.toList_ofList, parts, lenient?]
  -- The zone ends the time, as the mark before the time ends the date.
  have zone : looseZone (dropBlank ['Z']) = some (0, []) := by decide
  have clock : looseTime (padded 2 t.hour ++ ':' :: padded 2 t.minute ++ ':' :: padded 2 t.second ++
      fractionText t.nanosecond ++ ['Z']) = some (t, ['Z']) :=
    looseTime_text time (by decide) (by decide)
  simp only [looseDate_text date (c := 'T') (by decide), bind, Option.bind, mark, if_true,
    Option.orElse_eq_orElse, Option.orElse, clock, zone]
  exact ofLocal?_universal date time

end Whole

end AssetRegistry.Calendar
