/-! # Double precision magnitudes

Finite non-negative numbers of the 64 bit binary floating point format, in exact
arithmetic.  `ofRatio` rounds a fraction to the nearest such number, ties to the
even significand, and `ofDecimal` reads a decimal in double arithmetic. -/

namespace AssetRegistry

/-- The number `significand * 2 ^ exponent`. -/
structure Binary64 where
  significand : Nat
  exponent : Int
  deriving DecidableEq, Repr

namespace Binary64

/-- The quotient rounded to the nearest natural number, a tie to the even one. -/
def roundHalfEven (num den : Nat) : Nat :=
  let quotient := num / den
  let rest := num % den
  if 2 * rest < den then quotient
  else if den < 2 * rest then quotient + 1
  else quotient + quotient % 2

/-- The exponent of the least positive number. -/
def minExponent : Int := -1074

/-- The greatest exponent of a finite number. -/
def maxExponent : Int := 971

/-- The exponent at which `num / den` has a significand of 53 bits, or the least
    exponent where that is greater. -/
def exponentOf (num den : Nat) : Int :=
  -- The quotient lies between the powers of two just below and just above that of the guess.
  let guess : Int := (num.log2 : Int) - den.log2 - 53
  let exact := if den <<< (53 + guess).toNat ≤ num <<< (-(53 + guess)).toNat
    then guess + 1 else guess
  max exact minExponent

/-- The number nearest to `num / den`, and `none` where that is beyond the
    greatest finite one. -/
def ofRatio (num den : Nat) : Option Binary64 :=
  if num = 0 then some ⟨0, minExponent⟩ else
    let exponent := exponentOf num den
    let significand := roundHalfEven (num <<< (-exponent).toNat) (den <<< exponent.toNat)
    -- Rounding up may carry into a bit more than there is room for.
    let rounded : Binary64 :=
      if significand = 1 <<< 53 then ⟨1 <<< 52, exponent + 1⟩ else ⟨significand, exponent⟩
    if rounded.exponent ≤ maxExponent then some rounded else none

/-- The numerator of the number as a fraction. -/
def num (x : Binary64) : Nat :=
  x.significand <<< x.exponent.toNat

/-- The denominator of the number as a fraction. -/
def den (x : Binary64) : Nat :=
  1 <<< (-x.exponent).toNat

/-- The rounded product. -/
def mul (x y : Binary64) : Option Binary64 :=
  ofRatio (x.num * y.num) (x.den * y.den)

/-- The rounded quotient. -/
def div (x y : Binary64) : Option Binary64 :=
  ofRatio (x.num * y.den) (x.den * y.num)

/-- Whether the number is at most a natural number. -/
def le (x : Binary64) (bound : Nat) : Bool :=
  x.num ≤ bound * x.den

/-- The longest run of leading digits that fits 64 bits, and the power of ten
    that it then counts. -/
def leadingDigits (digits : Nat) (scale : Int) : Nat × Int :=
  if digits < 0x10000000000000000 then (digits, scale) else leadingDigits (digits / 10) (scale + 1)
termination_by digits
decreasing_by omega

/-- The greatest power of ten that is a finite number. -/
def maxScale : Nat := 308

/-- The number nearest to `10 ^ scale`. -/
def powerOfTen (scale : Nat) : Option Binary64 :=
  ofRatio (Nat.pow 10 scale) 1

/-- Divide by `10 ^ scale` in steps of at most `10 ^ 308`.  Two steps take every
    64 bit number to zero, so a scale beyond them gives zero. -/
def scaleDown (x : Binary64) (scale : Nat) : Option Binary64 := do
  if scale ≤ maxScale then
    div x (← powerOfTen scale)
  else if scale ≤ 2 * maxScale then
    div (← div x (← powerOfTen maxScale)) (← powerOfTen (scale - maxScale))
  else
    some ⟨0, minExponent⟩

/-- The decimal `digits * 10 ^ scale` in double arithmetic: the leading digits
    that fit 64 bits are rounded, then multiplied or divided by a rounded power
    of ten.  `none` where that overflows. -/
def ofDecimal (digits : Nat) (scale : Int) : Option Binary64 := do
  let (leading, scale) := leadingDigits digits scale
  if leading = 0 then
    some ⟨0, minExponent⟩
  else if 0 ≤ scale then
    if scale ≤ maxScale then
      mul (← ofRatio leading 1) (← powerOfTen scale.toNat)
    else
      none
  else
    scaleDown (← ofRatio leading 1) (-scale).toNat

end Binary64

end AssetRegistry
