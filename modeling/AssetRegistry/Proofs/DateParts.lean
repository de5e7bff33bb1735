import AssetRegistry.Calendar.Reading
import AssetRegistry.Proofs.TextLanguage

/-!
# Parts of dates

The days of the Gregorian calendar, and the languages of the parts that dates and times are
written with.  Each part has a reader, which passes exactly the texts of its language.  A number
of one or two digits is read on as long as there are digits, so that one of a single digit is
only read where no further digit comes.
-/

namespace AssetRegistry.Calendar

open Text

/-! ### The calendar -/

/-- A leap year is divisible by four, and if by a hundred then by four hundred. -/
def IsLeap (year : Int) : Prop :=
  4 ∣ year ∧ (100 ∣ year → 400 ∣ year)

/-- A day that the Gregorian calendar has, in a year from -262143 to 262142. -/
structure Date.Exists (d : Date) : Prop where
  year : -262143 ≤ d.year ∧ d.year ≤ 262142
  month : 1 ≤ d.month ∧ d.month ≤ 12
  day : 1 ≤ d.day ∧ d.day ≤ 31
  short : d.month ∈ [4, 6, 9, 11] → d.day ≤ 30
  february : d.month = 2 → d.day ≤ 28 ∨ d.day = 29 ∧ IsLeap d.year

/-- Leap years are those of the calendar. -/
theorem isLeapYear_iff {year : Int} : isLeapYear year = true ↔ IsLeap year := by
  simp only [isLeapYear, IsLeap, Bool.or_eq_true, Bool.and_eq_true, beq_iff_eq, bne_iff_ne]
  omega

/-- A day is in a month if it is one of 31, of 30, or of the 28 or 29 of February. -/
theorem le_daysInMonth_iff {year : Int} {month day : Nat} (positive : 1 ≤ day) :
    day ≤ daysInMonth year month ↔
      (1 ≤ month ∧ month ≤ 12) ∧ day ≤ 31 ∧ (month ∈ [4, 6, 9, 11] → day ≤ 30) ∧
        (month = 2 → day ≤ 28 ∨ day = 29 ∧ IsLeap year) := by
  rw [daysInMonth, ← isLeapYear_iff]
  -- The cases are the long months, the short ones, February in either kind of year, and no month.
  split_ifs with long short february leap
  · have month : month ∈ [1, 3, 5, 7, 8, 10, 12] := by simpa using long
    simp only [List.mem_cons, List.not_mem_nil, or_false] at month ⊢
    omega
  · have month : month ∈ [4, 6, 9, 11] := by simpa using short
    simp only [List.mem_cons, List.not_mem_nil, or_false] at month ⊢
    omega
  · simp [february, leap]
    omega
  · simp [february, leap]
    omega
  · have other : ¬ (1 ≤ month ∧ month ≤ 12) := by
      simp at long short
      omega
    omega

/-- A date is real if it is in the calendar. -/
theorem Date.isReal_iff {d : Date} : d.isReal = true ↔ d.Exists := by
  simp only [Date.isReal, Bool.and_eq_true, decide_eq_true_eq]
  constructor
  · rintro ⟨⟨⟨first, last⟩, positive⟩, day⟩
    obtain ⟨month, most, short, february⟩ := (le_daysInMonth_iff positive).1 day
    exact ⟨⟨first, last⟩, month, ⟨positive, most⟩, short, february⟩
  · rintro ⟨year, month, ⟨positive, most⟩, short, february⟩
    exact ⟨⟨year, positive⟩, (le_daysInMonth_iff positive).2 ⟨month, most, short, february⟩⟩

/-! ### Languages of parts -/

namespace Spelling

/-- The runs of digits that stand for a number. -/
def numeral (n : Nat) : Language Char :=
  {w | w ∈ digits ∧ digitsValue w = n}

/-- The runs of so many digits that stand for a number. -/
def numeralOf (least most n : Nat) : Language Char :=
  {w | w ∈ numeral n ∧ least ≤ w.length ∧ w.length ≤ most}

/-- The two digits that stand for a number. -/
def twoDigits (n : Nat) : Language Char :=
  numeralOf 2 2 n

/-- A number with one or two digits, or with two at least, behind any blanks. -/
def loose (least n : Nat) : Language Char :=
  blankRun * numeralOf least 2 n

/-- The four digits of a year. -/
def strictYear (year : Int) : Language Char :=
  {w | ∃ n : Nat, year = n ∧ w ∈ numeralOf 4 4 n}

/-- A year of up to four digits, or with a sign and any number of them. -/
def solidYear (year : Int) : Language Char :=
  {w | ∃ n : Nat, year = n ∧ w ∈ numeralOf 1 4 n + oneOf ['+'] * numeral n ∨
    year = -n ∧ w ∈ oneOf ['-'] * numeral n}

/-- A year behind any blanks. -/
def looseYear (year : Int) : Language Char :=
  blankRun * solidYear year

/-- Nothing, or a point and digits behind it. -/
def fraction : Language Char :=
  1 + oneOf ['.'] * digits

/-- A sign, hours and minutes that are less than a day. -/
def offset : Language Char :=
  {w | ∃ hours minutes, hours ≤ 23 ∧ minutes ≤ 59 ∧
    w ∈ oneOf ['+', '-', '\u2212'] * twoDigits hours * oneOf [':'] * twoDigits minutes}

/-- The letter `Z` in either case, or an offset. -/
def zone : Language Char :=
  oneOf ['Z', 'z'] + offset

end Spelling

/-! ### Digits -/

section Digits

variable {width atMost n : Nat} {w cs rest : List Char}

/-- A run of digits is less than the power of ten with as many zeros. -/
theorem digitsValue_lt (run : w ∈ digitRun) : digitsValue w < 10 ^ w.length := by
  induction w with
  | nil => decide
  | cons c w ih =>
    have rest : digitsValue w < 10 ^ w.length := ih fun d member =>
      run d (List.mem_cons_of_mem _ member)
    obtain ⟨low, high⟩ := Char.isDigit_iff_toNat.1 (run c List.mem_cons_self)
    -- One digit more is worth nine at most in its place.
    have digit : c.toNat - '0'.toNat ≤ 9 := by
      have high' : c.toNat ≤ 57 := high
      have zero : '0'.toNat = 48 := rfl
      omega
    rw [digitsValue, Nat.ofDigitChars_cons, Nat.ofDigitChars_eq_ofDigitChars_zero,
      List.length_cons, Nat.pow_succ]
    have scaled : 10 ^ w.length * (10 * 0 + (c.toNat - '0'.toNat)) ≤ 10 ^ w.length * 9 :=
      Nat.mul_le_mul_left _ (by omega)
    rw [digitsValue] at rest
    omega

/-- A number of a fixed width is taken off as it is spelled. -/
theorem digitsExactly_eq_some_iff (positive : 0 < width) :
    digitsExactly width cs = some (n, rest) ↔
      Leaves (Spelling.numeralOf width width n) cs rest := by
  simp only [digitsExactly, Option.ite_none_right_eq_some, Option.some.injEq, Prod.mk.injEq,
    Bool.and_eq_true, decide_eq_true_eq, List.all_eq_true]
  constructor
  · rintro ⟨⟨length, run⟩, value, left⟩
    -- A positive number of digits is at least one digit.
    have nonempty : cs.take width ≠ [] := by
      intro empty
      rw [empty] at length
      exact absurd length positive.ne
    exact ⟨cs.take width, ⟨⟨⟨run, nonempty⟩, value⟩, length.ge, length.le⟩,
      left ▸ List.take_append_drop width cs⟩
  · rintro ⟨w, ⟨⟨⟨run, -⟩, value⟩, least, most⟩, rfl⟩
    have length : w.length = width := Nat.le_antisymm most least
    rw [List.take_left' length, List.drop_left' length]
    exact ⟨⟨length, run⟩, value, rfl⟩

/-- A number is read up to its greatest width, or until no digit comes. -/
theorem digitsUpTo_eq_some_iff :
    digitsUpTo atMost cs = some (n, rest) ↔
      ∃ w ∈ Spelling.numeralOf 1 atMost n, w ++ rest = cs ∧
        (w.length = atMost ∨ EndsDigits rest) := by
  simp only [digitsUpTo, Option.ite_none_left_eq_some, Option.some.injEq, Prod.mk.injEq,
    List.isEmpty_iff]
  constructor
  · rintro ⟨nonempty, value, left⟩
    have run : (cs.takeWhile Char.isDigit).take atMost ∈ digitRun := fun c member =>
      List.mem_takeWhile_imp (List.mem_of_mem_take member)
    have front : (cs.takeWhile Char.isDigit).take atMost ++ rest = cs := by
      rw [← left]
      exact List.prefix_iff_eq_append.1
        ((List.take_prefix _ _).trans (List.takeWhile_prefix _))
    refine ⟨_, ⟨⟨⟨run, nonempty⟩, value⟩, List.length_pos_iff.2 nonempty,
      List.length_take_le _ _⟩, front, ?_⟩
    by_cases long : atMost ≤ (cs.takeWhile Char.isDigit).length
    · exact .inl (List.length_take_of_le long)
    · -- All digits are read, so that what is left does not start with one.
      have whole : (cs.takeWhile Char.isDigit).take atMost = cs.takeWhile Char.isDigit :=
        List.take_of_length_le (by omega)
      rw [whole] at front
      have behind : rest = cs.dropWhile Char.isDigit :=
        List.append_cancel_left (front.trans List.takeWhile_append_dropWhile.symm)
      refine .inr ?_
      intro c head
      have stops := List.head?_dropWhile_not Char.isDigit cs
      rw [← behind, Option.mem_def.1 head] at stops
      exact stops
  · rintro ⟨w, ⟨⟨⟨run, nonempty⟩, value⟩, least, most⟩, rfl, ends⟩
    have taken : ((w ++ rest).takeWhile Char.isDigit).take atMost = w := by
      rw [List.takeWhile_append_of_pos run]
      rcases ends with full | ends
      · exact List.take_left' full
      · have stops : rest.takeWhile Char.isDigit = [] := by
          cases rest with
          | nil => rfl
          | cons c rest => exact List.takeWhile_cons_of_neg (by simp [endsDigits_cons.1 ends])
        rw [stops, List.append_nil, List.take_of_length_le most]
    rw [taken]
    exact ⟨nonempty, value, List.drop_left⟩

/-- A number of any width is read until no digit comes. -/
theorem digitsUpTo_length_eq_some_iff :
    digitsUpTo cs.length cs = some (n, rest) ↔
      Leaves (Spelling.numeral n) cs rest ∧ EndsDigits rest := by
  rw [digitsUpTo_eq_some_iff]
  constructor
  · rintro ⟨w, ⟨member, -⟩, rfl, ends⟩
    refine ⟨⟨w, member, rfl⟩, ends.elim (fun full => ?_) id⟩
    -- Where the digits take up all of the text nothing is left that could be one.
    have empty : rest = [] := by
      rw [List.length_append] at full
      exact List.eq_nil_of_length_eq_zero (by omega)
    exact empty ▸ .nil
  · rintro ⟨⟨w, member, rfl⟩, ends⟩
    refine ⟨w, ⟨member, List.length_pos_iff.2 member.1.2, ?_⟩, rfl, .inr ends⟩
    rw [List.length_append]
    omega

end Digits

/-! ### Marks, fractions and zones -/

section Marks

variable {c : Char} {n : Nat} {cs rest : List Char}

/-- A mark is taken off as it is. -/
theorem mark_eq_some_iff : mark c cs = some rest ↔ Leaves (oneOf [c]) cs rest := by
  rw [leaves_char]
  cases cs with
  | nil => simp [mark]
  | cons d cs =>
    rw [mark, Option.ite_none_right_eq_some, Option.some.injEq, List.cons.injEq]

/-- Between a date and a time with a zone stands the letter `T` in either case or a space. -/
theorem separator_eq_some_iff :
    (mark 'T' cs <|> mark 't' cs <|> mark ' ' cs) = some rest ↔
      Leaves (oneOf ['T', 't', ' ']) cs rest := by
  rw [leaves_oneOf]
  cases cs with
  | nil => simp [mark]
  | cons d cs =>
    by_cases capital : d = 'T'
    · simp [mark, capital]
    · by_cases small : d = 't'
      · simp [mark, small]
      · simp [mark, capital, small]

/-- A part of a second has a point and digits, and is less than a second. -/
theorem leaves_of_secondFraction (read : secondFraction cs = some (n, rest)) :
    Leaves Spelling.fraction cs rest ∧ n < 1000000000 := by
  unfold secondFraction at read
  split at read
  case h_1 behind =>
    obtain ⟨run, front⟩ := spanDigits_parts behind
    generalize spanDigits behind = parts at read run front
    obtain ⟨ds, left⟩ := parts
    simp only [Option.ite_none_left_eq_some, List.isEmpty_iff, Option.some.injEq,
      Prod.mk.injEq] at read run front
    obtain ⟨nonempty, value, rfl⟩ := read
    refine ⟨leaves_add.2 (.inr (leaves_mul.2 ⟨behind, leaves_char.2 rfl, ds, ⟨run, nonempty⟩,
      front⟩)), ?_⟩
    -- The first nine digits are less than the power of ten that the zeros behind them complete.
    have kept : digitsValue (ds.take 9) < 10 ^ (ds.take 9).length :=
      digitsValue_lt fun c member => run c (List.mem_of_mem_take member)
    have width : (ds.take 9).length + (9 - (ds.take 9).length) = 9 :=
      Nat.add_sub_cancel' (List.length_take_le _ _)
    calc n = digitsValue (ds.take 9) * 10 ^ (9 - (ds.take 9).length) := value.symm
      _ < 10 ^ (ds.take 9).length * 10 ^ (9 - (ds.take 9).length) :=
        Nat.mul_lt_mul_of_pos_right kept (Nat.pow_pos (by decide))
      _ = 1000000000 := by rw [← Nat.pow_add, width]
  case h_2 =>
    cases read
    exact ⟨leaves_add.2 (.inl (leaves_one.2 rfl)), by decide⟩

/-- A fraction is read where neither a digit nor a point follows. -/
theorem exists_secondFraction (left : Leaves Spelling.fraction cs rest)
    (ends : ∀ c ∈ rest.head?, c.isDigit = false ∧ c ≠ '.') :
    ∃ n, n < 1000000000 ∧ secondFraction cs = some (n, rest) := by
  have read : ∃ n, secondFraction cs = some (n, rest) := by
    rcases leaves_add.1 left with none | some
    · cases leaves_one.1 none
      unfold secondFraction
      split
      -- Without a fraction no point follows, and with one no further digit does.
      case h_1 => exact absurd rfl (ends '.' rfl).2
      case h_2 => exact ⟨0, rfl⟩
    · obtain ⟨behind, point, ds, ⟨run, nonempty⟩, rfl⟩ := leaves_mul.1 some
      cases leaves_char.1 point
      have span : spanDigits (ds ++ rest) = (ds, rest) :=
        Json.spanDigits_append run fun c head => (ends c head).1
      simp only [secondFraction, span, List.isEmpty_iff, nonempty, if_false]
      exact ⟨_, rfl⟩
  obtain ⟨n, read⟩ := read
  exact ⟨n, (leaves_of_secondFraction read).2, read⟩

/-- The letter of the zero offset may be small. -/
theorem zulu_eq_some_iff : zulu cs = some rest ↔ Leaves (oneOf ['Z', 'z']) cs rest := by
  rw [leaves_oneOf]
  unfold zulu
  split
  case h_1 => simp [eq_comm]
  case h_2 => simp [eq_comm]
  case h_3 capital small =>
    simp only [reduceCtorEq, List.mem_cons, List.not_mem_nil, or_false, false_iff]
    rintro ⟨c, rfl | rfl, rfl⟩
    · exact capital rest rfl
    · exact small rest rfl

/-- An offset has one of three signs. -/
theorem exists_offsetSign_iff :
    (∃ negative, offsetSign cs = some (negative, rest)) ↔
      Leaves (oneOf ['+', '-', '\u2212']) cs rest := by
  rw [leaves_oneOf]
  unfold offsetSign
  split
  case h_1 => simp [eq_comm]
  case h_2 => simp [eq_comm]
  case h_3 => simp [eq_comm]
  -- Nothing else is a sign.
  case h_4 plus minus minus' =>
    simp only [reduceCtorEq, exists_const, List.mem_cons, List.not_mem_nil, or_false, false_iff]
    rintro ⟨c, rfl | rfl | rfl, rfl⟩
    · exact plus rest rfl
    · exact minus rest rfl
    · exact minus' rest rfl

/-- Where an offset starts there is no letter `Z`. -/
theorem zulu_eq_none_of_sign (left : Leaves (oneOf ['+', '-', '\u2212']) cs rest) :
    zulu cs = none := by
  obtain ⟨c, among, rfl⟩ := leaves_oneOf.1 left
  simp only [List.mem_cons, List.not_mem_nil, or_false] at among
  rcases among with rfl | rfl | rfl <;> rfl

/-- A zone is taken off as it is spelled. -/
theorem exists_zoneOffset_iff :
    (∃ offset, zoneOffset (mark ':') cs = some (offset, rest)) ↔ Leaves Spelling.zone cs rest := by
  rw [Spelling.zone, leaves_add]
  constructor
  · rintro ⟨offset, read⟩
    unfold zoneOffset at read
    split at read
    case h_1 left zone =>
      cases read
      exact .inl (zulu_eq_some_iff.1 zone)
    case h_2 =>
      simp only [bind, Option.bind_eq_some_iff, Prod.exists] at read
      obtain ⟨negative, r₁, signed, hours, r₂, first, r₃, colon, minutes, r₄, second, last⟩ := read
      split at last
      · cases last
      · rename_i small
        cases last
        simp only [Bool.or_eq_true, decide_eq_true_eq, not_or, not_lt] at small
        -- The parts of an offset, each left to the next one.
        have parts : Leaves (oneOf ['+', '-', '\u2212'] * Spelling.twoDigits hours * oneOf [':'] *
            Spelling.twoDigits minutes) cs rest := by
          simp only [leaves_mul]
          exact ⟨r₃, ⟨r₂, ⟨r₁, exists_offsetSign_iff.1 ⟨negative, signed⟩,
            (digitsExactly_eq_some_iff (by decide)).1 first⟩, mark_eq_some_iff.1 colon⟩,
            (digitsExactly_eq_some_iff (by decide)).1 second⟩
        obtain ⟨w, member, front⟩ := parts
        exact .inr ⟨w, ⟨hours, minutes, small.1, small.2, member⟩, front⟩
  · rintro (zone | ⟨w, ⟨hours, minutes, hours_le, minutes_le, member⟩, front⟩)
    · refine ⟨0, ?_⟩
      rw [zoneOffset, zulu_eq_some_iff.2 zone]
    · have parts : Leaves (oneOf ['+', '-', '\u2212'] * Spelling.twoDigits hours * oneOf [':'] *
            Spelling.twoDigits minutes) cs rest := ⟨w, member, front⟩
      simp only [leaves_mul] at parts
      obtain ⟨r₃, ⟨r₂, ⟨r₁, signed, first⟩, colon⟩, second⟩ := parts
      obtain ⟨negative, sign⟩ := exists_offsetSign_iff.2 signed
      have small : ¬ ((23 < hours || 59 < minutes) = true) := by
        simp only [Bool.or_eq_true, decide_eq_true_eq]
        omega
      simp only [zoneOffset, zulu_eq_none_of_sign signed, sign, bind, Option.bind,
        (digitsExactly_eq_some_iff (by decide)).2 first, mark_eq_some_iff.2 colon,
        (digitsExactly_eq_some_iff (by decide)).2 second, small]
      exact ⟨_, rfl⟩

end Marks

/-! ### Loose numbers -/

section Loose

variable {c : Char} {least n : Nat} {year : Int} {w cs rest : List Char}

/-- A run of digits does not start with a blank. -/
theorem exists_cons_of_mem_digits (member : w ∈ digits) :
    ∃ d ds, w = d :: ds ∧ d.isDigit = true ∧ isBlank d = false := by
  obtain ⟨d, ds, rfl⟩ := List.exists_cons_of_ne_nil member.2
  have digit : d.isDigit = true := member.1 d List.mem_cons_self
  exact ⟨d, ds, rfl, digit, isBlank_of_isDigit digit⟩

/-- A loose number comes after any blanks. -/
theorem leaves_loose :
    Leaves (Spelling.loose least n) cs rest ↔
      Leaves (Spelling.numeralOf least 2 n) (dropBlank cs) rest :=
  leaves_blankRun_mul fun w member => by
    obtain ⟨d, ds, same, -, visible⟩ := exists_cons_of_mem_digits member.1.1
    exact ⟨d, ds, same, visible⟩

/-- A number that has two digits has at least one. -/
theorem leaves_loose_one (left : Leaves (Spelling.loose 2 n) cs rest) :
    Leaves (Spelling.loose 1 n) cs rest := by
  rw [leaves_loose] at left ⊢
  obtain ⟨w, ⟨value, least, most⟩, front⟩ := left
  exact ⟨w, ⟨value, Nat.le_of_succ_le least, most⟩, front⟩

/-- A number is read with two digits, or else no further digit comes. -/
theorem looseNumber_eq_some_iff :
    looseNumber cs = some (n, rest) ↔
      Leaves (Spelling.loose 2 n) cs rest ∨
        Leaves (Spelling.loose 1 n) cs rest ∧ EndsDigits rest := by
  rw [looseNumber, digitsUpTo_eq_some_iff, leaves_loose, leaves_loose]
  constructor
  · rintro ⟨w, member, front, full | ends⟩
    · exact .inl ⟨w, ⟨member.1, full.ge, member.2.2⟩, front⟩
    · exact .inr ⟨⟨w, member, front⟩, ends⟩
  · rintro (⟨w, ⟨value, least, most⟩, front⟩ | ⟨⟨w, member, front⟩, ends⟩)
    · exact ⟨w, ⟨value, Nat.le_of_succ_le least, most⟩, front, .inl (Nat.le_antisymm most least)⟩
    · exact ⟨w, member, front, .inr ends⟩

/-- In front of a mark that is no digit a number may have one digit or two. -/
theorem exists_looseNumber_mark_iff (noDigit : c.isDigit = false) :
    (∃ mid, looseNumber cs = some (n, mid) ∧ mark c mid = some rest) ↔
      Leaves (Spelling.loose 1 n * oneOf [c]) cs rest := by
  simp only [looseNumber_eq_some_iff, mark_eq_some_iff, leaves_mul]
  constructor
  · rintro ⟨mid, wide | ⟨number, -⟩, marked⟩
    · exact ⟨mid, leaves_loose_one wide, marked⟩
    · exact ⟨mid, number, marked⟩
  · rintro ⟨mid, number, marked⟩
    refine ⟨mid, .inr ⟨number, ?_⟩, marked⟩
    rw [leaves_char.1 marked]
    exact endsDigits_cons.2 noDigit

/-! ### Loose years -/

/-- A loose year comes after any blanks. -/
theorem leaves_looseYear :
    Leaves (Spelling.looseYear year) cs rest ↔
      Leaves (Spelling.solidYear year) (dropBlank cs) rest := by
  refine leaves_blankRun_mul ?_
  rintro w ⟨n, ⟨-, member⟩ | ⟨-, member⟩⟩
  · rcases (Language.mem_add _ _ _).1 member with plain | signed
    · obtain ⟨d, ds, same, -, visible⟩ := exists_cons_of_mem_digits plain.1.1
      exact ⟨d, ds, same, visible⟩
    · obtain ⟨v, -, rfl⟩ := mem_char_mul.1 signed
      exact ⟨'+', v, rfl, by decide⟩
  · obtain ⟨v, -, rfl⟩ := mem_char_mul.1 member
    exact ⟨'-', v, rfl, by decide⟩

/-- A year that was read is spelled as one. -/
theorem leaves_of_looseYear (read : looseYear cs = some (year, rest)) :
    Leaves (Spelling.looseYear year) cs rest := by
  rw [leaves_looseYear]
  unfold looseYear at read
  generalize dropBlank cs = solid at read ⊢
  split at read
  -- A year of any width comes behind a sign, and one of four digits at most comes without.
  case h_1 behind =>
    obtain ⟨⟨n, left⟩, number, same⟩ := Option.bind_eq_some_iff.1 read
    cases same
    obtain ⟨w, member, rfl⟩ := (digitsUpTo_length_eq_some_iff.1 number).1
    exact ⟨'-' :: w, ⟨n, .inr ⟨rfl, mem_char_mul.2 ⟨w, member, rfl⟩⟩⟩, rfl⟩
  case h_2 behind =>
    obtain ⟨⟨n, left⟩, number, same⟩ := Option.bind_eq_some_iff.1 read
    cases same
    obtain ⟨w, member, rfl⟩ := (digitsUpTo_length_eq_some_iff.1 number).1
    exact ⟨'+' :: w, ⟨n, .inl ⟨rfl, .inr (mem_char_mul.2 ⟨w, member, rfl⟩)⟩⟩, rfl⟩
  case h_3 =>
    obtain ⟨⟨n, left⟩, number, same⟩ := Option.bind_eq_some_iff.1 read
    cases same
    obtain ⟨w, member, front, -⟩ := digitsUpTo_eq_some_iff.1 number
    exact ⟨w, ⟨n, .inl ⟨rfl, .inl member⟩⟩, front⟩

/-- A year that is spelled is read as it is, where no digit follows. -/
theorem looseYear_of_leaves (left : Leaves (Spelling.looseYear year) cs rest)
    (ends : EndsDigits rest) : looseYear cs = some (year, rest) := by
  have whole {n : Nat} {v : List Char} (number : v ∈ Spelling.numeral n) :
      digitsUpTo (v ++ rest).length (v ++ rest) = some (n, rest) :=
    digitsUpTo_length_eq_some_iff.2 ⟨⟨v, number, rfl⟩, ends⟩
  rw [leaves_looseYear] at left
  unfold looseYear
  generalize dropBlank cs = solid at left ⊢
  obtain ⟨w, ⟨n, ⟨rfl, plain | signed⟩ | ⟨rfl, signed⟩⟩, rfl⟩ := left
  · have read : digitsUpTo 4 (w ++ rest) = some (n, rest) :=
      digitsUpTo_eq_some_iff.2 ⟨w, plain, rfl, .inr ends⟩
    obtain ⟨d, ds, rfl, digit, -⟩ := exists_cons_of_mem_digits plain.1.1
    -- A digit is neither of the signs.
    split
    case h_1 same => exact absurd digit (by rw [(List.cons.inj same).1]; decide)
    case h_2 same => exact absurd digit (by rw [(List.cons.inj same).1]; decide)
    case h_3 => rw [read]; rfl
  · obtain ⟨v, number, rfl⟩ := mem_char_mul.1 signed
    simp only [List.cons_append, whole number]
    rfl
  · obtain ⟨v, number, rfl⟩ := mem_char_mul.1 signed
    simp only [List.cons_append, whole number]
    rfl

/-- In front of a hyphen a year is read to its end. -/
theorem exists_looseYear_mark_iff :
    (∃ mid, looseYear cs = some (year, mid) ∧ mark '-' mid = some rest) ↔
      Leaves (Spelling.looseYear year * oneOf ['-']) cs rest := by
  simp only [mark_eq_some_iff, leaves_mul]
  constructor
  · rintro ⟨mid, read, marked⟩
    exact ⟨mid, leaves_of_looseYear read, marked⟩
  · rintro ⟨mid, left, marked⟩
    have ends : EndsDigits mid := by
      rw [leaves_char.1 marked]
      exact endsDigits_cons.2 (by decide)
    exact ⟨mid, looseYear_of_leaves left ends, marked⟩

end Loose

end AssetRegistry.Calendar
