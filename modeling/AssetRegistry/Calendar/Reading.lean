import AssetRegistry.Calendar.Instant
import AssetRegistry.Text.Basic

/-! # Reading dates and times

Two readings of a moment with a zone, the strict one of RFC 3339 and a lenient
one that allows blanks between the parts, and the readings without a zone.
`isIsoDate` says which texts are accepted as a date. -/

namespace AssetRegistry.Calendar

open Text

/-! ### Parts -/

/-- A number of one digit at least and of `atMost` digits at most. -/
def digitsUpTo (atMost : Nat) (cs : List Char) : Option (Nat × List Char) :=
  let digits := (cs.takeWhile Char.isDigit).take atMost
  if digits.isEmpty then none else some (digitsValue digits, cs.drop digits.length)

/-- A number of exactly that many digits. -/
def digitsExactly (width : Nat) (cs : List Char) : Option (Nat × List Char) :=
  let digits := cs.take width
  if digits.length = width && digits.all Char.isDigit then
    some (digitsValue digits, cs.drop width)
  else none

/-- A number of at most two digits after any blanks. -/
def looseNumber (cs : List Char) : Option (Nat × List Char) :=
  digitsUpTo 2 (dropBlank cs)

/-- A year after any blanks: up to four digits, or a sign and any digits. -/
def looseYear (cs : List Char) : Option (Int × List Char) :=
  match dropBlank cs with
  | '-' :: rest => do
    let (year, rest) ← digitsUpTo rest.length rest
    return (-year, rest)
  | '+' :: rest => do
    let (year, rest) ← digitsUpTo rest.length rest
    return (year, rest)
  | rest => do
    let (year, rest) ← digitsUpTo 4 rest
    return (year, rest)

/-- The text after a wanted character. -/
def mark (wanted : Char) : List Char → Option (List Char)
  | c :: rest => if c = wanted then some rest else none
  | [] => none

/-- The nanoseconds of an optional fraction.  Digits after the ninth are dropped. -/
def secondFraction : List Char → Option (Nat × List Char)
  | '.' :: rest =>
    let (digits, rest) := spanDigits rest
    if digits.isEmpty then none
    else
      let kept := digits.take 9
      some (digitsValue kept * Nat.pow 10 (9 - kept.length), rest)
  | rest => some (0, rest)

/-- Whether the next character is an upper-case or lower-case `Z`, and the text
    after it. -/
def zulu : List Char → Option (List Char)
  | 'Z' :: rest | 'z' :: rest => some rest
  | _ => none

/-- Whether the text starts with a minus, which may be the mathematical one,
    rather than a plus. -/
def offsetSign : List Char → Option (Bool × List Char)
  | '+' :: rest => some (false, rest)
  | '-' :: rest | '\u2212' :: rest => some (true, rest)
  | _ => none

/-- An offset from universal time of less than a day, in minutes.  `between`
    passes what separates hours and minutes. -/
def zoneOffset (between : List Char → Option (List Char)) (cs : List Char) :
    Option (Int × List Char) :=
  match zulu cs with
  | some rest => some (0, rest)
  | none => do
    let (negative, rest) ← offsetSign cs
    let (hours, rest) ← digitsExactly 2 rest
    let (minutes, rest) ← digitsExactly 2 (← between rest)
    if 23 < hours || 59 < minutes then none
    let offset : Int := hours * 60 + minutes
    return (if negative then -offset else offset, rest)

/-! ### With a zone -/

/-- The strict reading of RFC 3339: fixed widths, the letter `T` in either case
    or a blank between date and time, and nothing around. -/
def strict? (cs : List Char) : Option Instant := do
  let (year, rest) ← digitsExactly 4 cs
  let (month, rest) ← digitsExactly 2 (← mark '-' rest)
  let (day, rest) ← digitsExactly 2 (← mark '-' rest)
  let rest ← mark 'T' rest <|> mark 't' rest <|> mark ' ' rest
  let (hour, rest) ← digitsExactly 2 rest
  let (minute, rest) ← digitsExactly 2 (← mark ':' rest)
  let (second, rest) ← digitsExactly 2 (← mark ':' rest)
  let (nanosecond, rest) ← secondFraction rest
  let (offset, rest) ← zoneOffset (mark ':') rest
  if !rest.isEmpty then none
  Instant.ofLocal? ⟨year, month, day⟩ ⟨hour, minute, second, nanosecond⟩ offset

/-- A date with blanks allowed before each number and each hyphen. -/
def looseDate (cs : List Char) : Option (Date × List Char) := do
  let (year, rest) ← looseYear cs
  let (month, rest) ← looseNumber (← mark '-' (dropBlank rest))
  let (day, rest) ← looseNumber (← mark '-' (dropBlank rest))
  return (⟨year, month, day⟩, rest)

/-- A time with blanks allowed before each number and each colon. -/
def looseTime (cs : List Char) : Option (TimeOfDay × List Char) := do
  let (hour, rest) ← looseNumber cs
  let (minute, rest) ← looseNumber (← mark ':' (dropBlank rest))
  let (second, rest) ← looseNumber (← mark ':' (dropBlank rest))
  let (nanosecond, rest) ← secondFraction rest
  return (⟨hour, minute, second, nanosecond⟩, rest)

/-- A zone that may also be the letters `UTC` in any case, with any colons and
    blanks between hours and minutes of an offset. -/
def looseZone (cs : List Char) : Option (Int × List Char) :=
  if (cs.take 3).map Char.toLower = ['u', 't', 'c'] then some (0, cs.drop 3)
  else zoneOffset (fun rest => some (rest.dropWhile fun c => c = ':' || isBlank c)) cs

/-- The lenient reading: date, the letter `T` in either case or a blank, time and
    zone, with blanks allowed between the parts and at both ends. -/
def lenient? (cs : List Char) : Option Instant := do
  let (date, rest) ← looseDate cs
  let rest ← mark 'T' rest <|> mark 't' rest <|> mark ' ' rest
  let (time, rest) ← looseTime rest
  let (offset, rest) ← looseZone (dropBlank rest)
  if !(dropBlank rest).isEmpty then none
  Instant.ofLocal? date time offset

/-! ### Without a zone -/

/-- A date with blanks allowed before each number only. -/
def plainDate (cs : List Char) : Option (Date × List Char) := do
  let (year, rest) ← looseYear cs
  let (month, rest) ← looseNumber (← mark '-' rest)
  let (day, rest) ← looseNumber (← mark '-' rest)
  return (⟨year, month, day⟩, rest)

/-- A time with blanks allowed before each number only. -/
def plainTime (cs : List Char) : Option (TimeOfDay × List Char) := do
  let (hour, rest) ← looseNumber cs
  let (minute, rest) ← looseNumber (← mark ':' rest)
  let (second, rest) ← looseNumber (← mark ':' rest)
  let (nanosecond, rest) ← secondFraction rest
  return (⟨hour, minute, second, nanosecond⟩, rest)

/-- Whether the text is a date alone. -/
def isPlainDate (cs : List Char) : Bool :=
  (plainDate cs).any fun (date, rest) => rest.isEmpty && date.isReal

/-- Whether the text is a date and a time, with `between` passing what separates
    them. -/
def isPlainDateTime (between : List Char → Option (List Char)) (cs : List Char) : Bool :=
  let parts := do
    let (date, rest) ← plainDate cs
    let (time, rest) ← plainTime (← between rest)
    return (date, time, rest)
  parts.any fun (date, time, rest) => rest.isEmpty && date.isReal && time.isReal

/-- Whether the text is accepted as a date: a moment with a zone in the strict
    reading, a date and a time with the letter `T` or any blanks between them, or
    a date alone. -/
def isIsoDate (cs : List Char) : Bool :=
  (strict? cs).isSome || isPlainDateTime (mark 'T') cs ||
    isPlainDateTime (some ∘ dropBlank) cs || isPlainDate cs

end AssetRegistry.Calendar
