import AssetRegistry.Numeric.Literal
import AssetRegistry.Proofs.TextLanguage

/-!
# The language of numbers

The texts that are accepted as a number, part by part: an optional sign, then the name of a
special value, or digits with at most one point and an optional exponent.  Blanks around a
number are trimmed off, and there are none inside.
-/

namespace AssetRegistry.Numeric

open Text

/-! ### The language -/

/-- No sign, or a plus, or a minus. -/
def sign : Language Char :=
  1 + oneOf ['+', '-']

/-- The names of infinity and of the value that is no number, in any case. -/
def special : Language Char :=
  {w | w.map Char.toLower ∈ ["inf".toList, "infinity".toList, "nan".toList]}

/-- Digits with at most one point, and at least one digit in all. -/
def mantissa : Language Char :=
  {w | (∀ c ∈ w, c.isDigit = true ∨ c = '.') ∧ w.count '.' ≤ 1 ∧ ∃ c ∈ w, c.isDigit = true}

/-- Nothing, or an exponent with an optional sign and at least one digit. -/
def exponent : Language Char :=
  1 + oneOf ['e', 'E'] * sign * digits

/-- An optional sign and the name of a special value or a decimal. -/
def number : Language Char :=
  sign * (special + mantissa * exponent)

section Parts

variable {L : Language Char} {cs w : List Char}

/-! ### Signs and exponents -/

/-- A sign is dropped in front of a language whose texts do not start with one. -/
theorem dropSign_mem_iff (unsigned : ∀ w ∈ L, ∀ c ∈ w.head?, c ≠ '+' ∧ c ≠ '-') :
    dropSign cs ∈ L ↔ cs ∈ sign * L := by
  simp only [sign, add_mul, one_mul, Language.mem_add, mem_oneOf_mul]
  constructor
  · intro member
    unfold dropSign at member
    split at member
    -- A sign in front is taken off, and then a text of the language is left.
    case h_1 rest => exact .inr ⟨'+', by decide, rest, member, rfl⟩
    case h_2 rest => exact .inr ⟨'-', by decide, rest, member, rfl⟩
    case h_3 => exact .inl member
  · rintro (member | ⟨c, signed, rest, member, rfl⟩)
    · unfold dropSign
      split
      case h_1 rest => exact absurd rfl (unsigned _ member '+' rfl).1
      case h_2 rest => exact absurd rfl (unsigned _ member '-' rfl).2
      case h_3 => exact member
    · simp only [List.mem_cons, List.not_mem_nil, or_false] at signed
      rcases signed with rfl | rfl <;> exact member

/-- A digit is no sign. -/
theorem ne_sign_of_isDigit {c : Char} (digit : c.isDigit = true) : c ≠ '+' ∧ c ≠ '-' := by
  constructor
  · rintro rfl
    exact absurd digit (by decide)
  · rintro rfl
    exact absurd digit (by decide)

/-- Digits are checked as the language has them. -/
theorem isDigits_iff : isDigits cs = true ↔ cs ∈ digits := by
  rw [isDigits, Bool.and_eq_true, Bool.not_eq_true', List.isEmpty_eq_false_iff, List.all_eq_true,
    and_comm]
  rfl

/-- Digits are checked after a sign, if there is one. -/
theorem isDigits_dropSign_iff : isDigits (dropSign cs) = true ↔ cs ∈ sign * digits := by
  rw [isDigits_iff, dropSign_mem_iff]
  exact fun w member c head => ne_sign_of_isDigit (member.1 c (List.mem_of_mem_head? head))

/-- An exponent is checked as the language has it. -/
theorem isExponent_iff : isExponent cs = true ↔ cs ∈ exponent := by
  rw [exponent, mul_assoc, Language.mem_add, Language.mem_one, mem_oneOf_mul]
  unfold isExponent
  cases cs with
  -- There may be no exponent at all, and else there is a mark.
  | nil => simp
  | cons mark rest =>
    rw [Bool.and_eq_true, isDigits_dropSign_iff, or_iff_right (List.cons_ne_nil _ _)]
    constructor
    · rintro ⟨marked, member⟩
      exact ⟨mark, by simpa using marked, rest, member, rfl⟩
    · rintro ⟨mark', marked, rest', member, same⟩
      cases same
      exact ⟨by simpa using marked, member⟩

/-- What an exponent starts with is neither a digit nor a point. -/
theorem head_of_mem_exponent (member : cs ∈ exponent) :
    ∀ c ∈ cs.head?, c.isDigit = false ∧ c ≠ '.' := by
  rw [← isExponent_iff] at member
  cases cs with
  | nil => simp
  | cons mark rest =>
    intro c head
    cases head
    -- An exponent starts with its mark.
    have marked : mark = 'e' ∨ mark = 'E' := by
      have parts := (Bool.and_eq_true _ _).mp member
      simpa using parts.1
    rcases marked with rfl | rfl <;> decide

/-! ### Decimals -/

/-- A mantissa has digits only, or it has digits around a point. -/
theorem mem_mantissa_iff :
    w ∈ mantissa ↔ w ∈ digits ∨ ∃ whole ∈ digitRun, ∃ fraction ∈ digitRun,
      w = whole ++ '.' :: fraction ∧ (whole ≠ [] ∨ fraction ≠ []) := by
  have noPoint {ds : List Char} (run : ds ∈ digitRun) : '.' ∉ ds := fun member =>
    absurd (run '.' member) (by decide)
  constructor
  · rintro ⟨characters, once, d, among, digit⟩
    by_cases point : '.' ∈ w
    · obtain ⟨whole, fraction, rfl⟩ := List.append_of_mem point
      rw [List.count_append, List.count_cons_self] at once
      have noneBefore : '.' ∉ whole := List.count_eq_zero.1 (by omega)
      have noneAfter : '.' ∉ fraction := List.count_eq_zero.1 (by omega)
      -- On either side of the point every character is a digit.
      have before : whole ∈ digitRun := by
        intro c member
        apply (characters c (by simp [member])).resolve_right
        rintro rfl
        exact noneBefore member
      have after : fraction ∈ digitRun := by
        intro c member
        apply (characters c (by simp [member])).resolve_right
        rintro rfl
        exact noneAfter member
      refine .inr ⟨whole, before, fraction, after, rfl, ?_⟩
      by_contra nothing
      obtain ⟨rfl, rfl⟩ := not_or.1 nothing |>.imp not_not.1 not_not.1
      rw [List.mem_singleton.1 among] at digit
      exact absurd digit (by decide)
    · refine .inl ⟨?_, List.ne_nil_of_mem among⟩
      intro c member
      apply (characters c member).resolve_right
      rintro rfl
      exact point member
  · rintro (⟨run, nonempty⟩ | ⟨whole, run, fraction, run', rfl, nonempty⟩)
    · obtain ⟨d, ds, rfl⟩ := List.exists_cons_of_ne_nil nonempty
      refine ⟨fun c member => .inl (run c member), ?_, d, List.mem_cons_self,
        run d List.mem_cons_self⟩
      rw [List.count_eq_zero.2 (noPoint run)]
      exact Nat.zero_le 1
    · refine ⟨fun c member => ?_, ?_, ?_⟩
      · rcases List.mem_append.1 member with before | after
        · exact .inl (run c before)
        · exact (List.mem_cons.1 after).elim .inr fun later => .inl (run' c later)
      · rw [List.count_append, List.count_cons_self, List.count_eq_zero.2 (noPoint run),
          List.count_eq_zero.2 (noPoint run')]
      · rcases nonempty with some | some
        · obtain ⟨d, ds, rfl⟩ := List.exists_cons_of_ne_nil some
          exact ⟨d, by simp, run d List.mem_cons_self⟩
        · obtain ⟨d, ds, rfl⟩ := List.exists_cons_of_ne_nil some
          exact ⟨d, by simp, run' d List.mem_cons_self⟩

/-- A decimal is checked as the language has it. -/
theorem isDecimal_iff : isDecimal cs = true ↔ cs ∈ mantissa * exponent := by
  rw [Language.mem_mul]
  constructor
  · intro decimal
    obtain ⟨run, front⟩ := spanDigits_parts cs
    unfold isDecimal at decimal
    generalize spanDigits cs = parts at decimal run front
    obtain ⟨whole, rest⟩ := parts
    simp only at decimal run front
    split at decimal
    case h_1 rest =>
      obtain ⟨run', behind⟩ := spanDigits_parts rest
      rw [Bool.and_eq_true, isExponent_iff] at decimal
      -- The mantissa is all that the check takes off before the exponent.
      refine ⟨whole ++ '.' :: (spanDigits rest).1, ?_, _, decimal.2, ?_⟩
      · exact mem_mantissa_iff.2 (.inr ⟨whole, run, _, run', rfl, by simpa using decimal.1⟩)
      · rw [List.append_assoc, List.cons_append, behind, front]
    case h_2 =>
      rw [Bool.and_eq_true, isExponent_iff] at decimal
      exact ⟨whole, mem_mantissa_iff.2 (.inl ⟨run, by simpa using decimal.1⟩), rest, decimal.2,
        front⟩
  · rintro ⟨w, member, v, exponent, rfl⟩
    -- The exponent does not go on with the digits, so that these end where the mantissa does.
    have starts := head_of_mem_exponent exponent
    have ends : EndsDigits v := fun c head => (starts c head).1
    unfold isDecimal
    rcases mem_mantissa_iff.1 member with ⟨run, nonempty⟩ | ⟨whole, run, fraction, run', rfl, some⟩
    · rw [Json.spanDigits_append run ends]
      simp only
      split
      case h_1 rest => exact absurd rfl (starts '.' rfl).2
      case h_2 => simp [nonempty, isExponent_iff.2 exponent]
    · have point : EndsDigits ('.' :: (fraction ++ v)) := endsDigits_cons.2 (by decide)
      rw [List.append_assoc, List.cons_append, Json.spanDigits_append run point]
      simp only [Json.spanDigits_append run' ends, isExponent_iff.2 exponent, Bool.and_true]
      simpa using some

/-! ### Whole numbers -/

/-- The names of infinities and of what is no number are those of the language. -/
theorem isSpecial_iff : isSpecial cs = true ↔ cs ∈ special := by
  show ["inf", "infinity", "nan"].contains (String.ofList (cs.map Char.toLower)) = true ↔
    cs.map Char.toLower ∈ ["inf".toList, "infinity".toList, "nan".toList]
  simp only [List.contains_iff_mem, List.mem_cons, List.not_mem_nil, or_false, ← String.toList_inj,
    String.toList_ofList]

/-- The letters of the special values, as they are in lower case. -/
theorem toLower_of_mem_special (member : w ∈ special) {c : Char} (among : c ∈ w) :
    c.toLower ∈ "infinityan".toList := by
  have letters : ["inf".toList, "infinity".toList, "nan".toList].all
      (fun name => name.all "infinityan".toList.contains) = true := by decide
  simp only [List.all_eq_true, List.contains_iff_mem] at letters
  exact letters _ member _ (List.mem_map_of_mem among)

/-- A letter is not blank in either case. -/
theorem isBlank_of_toLower {c : Char} (letter : c.toLower ∈ "infinityan".toList) :
    isBlank c = false := by
  -- A capital letter is made small, and any other character stays as it is.
  by_cases upper : 'A' ≤ c ∧ c ≤ 'Z'
  · have low : 65 ≤ c.toNat := upper.1
    have high : c.toNat ≤ 90 := upper.2
    simp only [isBlank, blankRanges, List.any_cons, List.any_nil, Bool.or_false,
      Bool.or_eq_false_iff, Bool.and_eq_false_iff, decide_eq_false_iff_not]
    omega
  · have same : c.toLower = c := dif_neg upper
    rw [same] at letter
    have visible : "infinityan".toList.any isBlank = false := by decide
    exact Bool.eq_false_iff.2 (List.any_eq_false.1 visible c letter)

/-- Numbers without a sign do not start with one. -/
theorem head_of_mem_unsigned (member : w ∈ special + mantissa * exponent) :
    ∀ c ∈ w.head?, c ≠ '+' ∧ c ≠ '-' := by
  intro c head
  rcases (Language.mem_add _ _ _).1 member with named | decimal
  · have letter := toLower_of_mem_special named (List.mem_of_mem_head? head)
    constructor
    · rintro rfl
      exact absurd letter (by decide)
    · rintro rfl
      exact absurd letter (by decide)
  · obtain ⟨m, ⟨characters, _, d, among, _⟩, v, _, rfl⟩ := Language.mem_mul.1 decimal
    rw [List.head?_append_of_ne_nil _ (List.ne_nil_of_mem among)] at head
    rcases characters c (List.mem_of_mem_head? head) with digit | rfl
    · exact ne_sign_of_isDigit digit
    · decide

/-- A number is checked as the language has it. -/
theorem isLiteral_iff : isLiteral cs = true ↔ cs ∈ number := by
  rw [number, ← dropSign_mem_iff fun w member => head_of_mem_unsigned member, Language.mem_add,
    ← isSpecial_iff, ← isDecimal_iff, ← Bool.or_eq_true]
  rfl

/-- No number has a blank in it. -/
theorem solid_number : Solid number := by
  have solidSign : Solid sign := .add .one (.oneOf (by decide))
  have solidSpecial : Solid special := fun w member c among =>
    isBlank_of_toLower (toLower_of_mem_special member among)
  have solidMantissa : Solid mantissa := fun w member c among =>
    (member.1 c among).elim isBlank_of_isDigit fun point => point ▸ by decide
  have solidExponent : Solid exponent :=
    .add .one (.mul (.mul (.oneOf (by decide)) solidSign) .digits)
  exact .mul solidSign (.add solidSpecial (.mul solidMantissa solidExponent))

/-- A text is trimmed to a number if it is one with blanks around it. -/
theorem isLiteral_trim_iff : isLiteral (trim cs) = true ↔ cs ∈ blankRun * number * blankRun := by
  rw [isLiteral_iff, trim_mem_iff solid_number]

end Parts

end AssetRegistry.Numeric
