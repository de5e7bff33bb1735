import AssetRegistry.Text.Basic

/-! # Written numbers

The texts that are accepted as a floating point number: an optional sign, then
`inf`, `infinity` or `nan` in any case, or a decimal with at least one digit
beside its point and an optional exponent.  A magnitude beyond every finite
number is still a number. -/

namespace AssetRegistry.Numeric

open Text

/-- The text without a sign in front. -/
def dropSign : List Char → List Char
  | '+' :: rest => rest
  | '-' :: rest => rest
  | rest => rest

/-- Whether the text is a non-empty run of digits. -/
def isDigits (cs : List Char) : Bool :=
  !cs.isEmpty && cs.all Char.isDigit

/-- Whether the text is nothing, or an exponent mark with a signed run of digits. -/
def isExponent : List Char → Bool
  | [] => true
  | mark :: rest => (mark == 'e' || mark == 'E') && isDigits (dropSign rest)

/-- Whether the text is an unsigned decimal: digits with at most one point, at
    least one digit on either side of it, and an optional exponent. -/
def isDecimal (cs : List Char) : Bool :=
  let (whole, rest) := spanDigits cs
  match rest with
  | '.' :: rest =>
    let (fraction, rest) := spanDigits rest
    (!whole.isEmpty || !fraction.isEmpty) && isExponent rest
  | rest => !whole.isEmpty && isExponent rest

/-- Whether the text names an infinity or the value that is no number. -/
def isSpecial (cs : List Char) : Bool :=
  ["inf", "infinity", "nan"].contains (String.ofList (cs.map Char.toLower))

/-- Whether the text is a number. -/
def isLiteral (cs : List Char) : Bool :=
  let unsigned := dropSign cs
  isSpecial unsigned || isDecimal unsigned

end AssetRegistry.Numeric
