import AssetRegistry.Json.Basic
import AssetRegistry.Text.Basic
import AssetRegistry.Text.Utf8

/-! # JSON tokens

`tokens` cuts a text into the tokens of JSON.  It never fails: where a text
stops being JSON the list ends with the token `bad`, so that a reader who goes
from left to right meets the fault exactly where it stands.

`byteTokens` does the same to bytes that nobody has decoded before.  Outside string
literals JSON has ASCII characters only, so each byte is taken for the character with its
number, and a literal is decoded once its end is found. -/

namespace AssetRegistry.Json

open Text

/-- A token.  `garbled` is a string literal that is the spelling of no text, for half of a
    surrogate pair in it or for bytes of no character.  It can be skipped. -/
inductive Token where
  | braceOpen
  | braceClose
  | bracketOpen
  | bracketClose
  | colon
  | comma
  | null
  | bool (value : Bool)
  | number (value : Number)
  | string (value : String)
  | garbled
  | bad
  deriving DecidableEq, Repr

/-! ### String literals -/

/-- A unit of a string literal: a character that stands there itself, one that an escape
    stands for, or half of a surrogate pair as its ten bits. -/
inductive Piece where
  | plain (c : Char)
  | escape (c : Char)
  | high (bits : Nat)
  | low (bits : Nat)
  deriving DecidableEq, Repr

/-- The unit that a 16 bit code stands for. -/
def Piece.ofCode (code : Nat) : Piece :=
  if 0xD800 ≤ code ∧ code ≤ 0xDBFF then .high (code - 0xD800)
  else if 0xDC00 ≤ code ∧ code ≤ 0xDFFF then .low (code - 0xDC00)
  else .escape (Char.ofNat code)

/-- The character after a backslash, other than `u`. -/
def escape? : Char → Option Char
  | '"' => some '"'
  | '\\' => some '\\'
  | '/' => some '/'
  | 'b' => some '\x08'
  | 'f' => some '\x0c'
  | 'n' => some '\n'
  | 'r' => some '\r'
  | 't' => some '\t'
  | _ => none

/-- The unit of four hexadecimal digits. -/
def unicodeEscape? (a b c d : Char) : Option Piece := do
  let a ← hexValue? a
  let b ← hexValue? b
  let c ← hexValue? c
  let d ← hexValue? d
  return .ofCode (((a * 16 + b) * 16 + c) * 16 + d)

/-- The units of a string literal after its opening quote, and the text after
    its closing quote.  Control characters have to be escaped. -/
def scanString : List Char → Option (List Piece × List Char)
  | [] => none
  | '"' :: rest => some ([], rest)
  | '\\' :: 'u' :: a :: b :: c :: d :: rest => do
    let piece ← unicodeEscape? a b c d
    let (pieces, rest) ← scanString rest
    return (piece :: pieces, rest)
  | '\\' :: c :: rest => do
    let c ← escape? c
    let (pieces, rest) ← scanString rest
    return (.escape c :: pieces, rest)
  | c :: rest =>
    if c < ' ' ∨ c = '\\' then none else do
      let (pieces, rest) ← scanString rest
      return (.plain c :: pieces, rest)

/-- What units spell, where every half of a pair has its other half next to it: the
    letters for characters that stand there and for those of escapes, one after another. -/
def joinPieces (plain escape : Char → List α) : List Piece → Option (List α)
  | [] => some []
  | .plain c :: rest => (joinPieces plain escape rest).map (plain c ++ ·)
  | .escape c :: rest => (joinPieces plain escape rest).map (escape c ++ ·)
  | .high high :: .low low :: rest =>
    (joinPieces plain escape rest).map
      (escape (Char.ofNat (0x10000 + high * 0x400 + low)) ++ ·)
  | _ :: _ => none

/-- What the units of a string literal spell, if they spell a text. -/
abbrev Spelling : Type :=
  List Piece → Option String

/-- The spelling in a text. -/
def spellText : Spelling := fun pieces =>
  (joinPieces (fun c => [c]) (fun c => [c]) pieces).map String.ofList

/-- The spelling where characters stand for bytes.  An escape stands for the bytes of its
    character. -/
def spellBytes : Spelling := fun pieces =>
  (joinPieces (fun c => [UInt8.ofNat c.toNat]) String.utf8EncodeChar pieces).bind Utf8.decode?

/-- The token of a string literal with the given units. -/
def Token.ofPieces (spell : Spelling) (pieces : List Piece) : Token :=
  match spell pieces with
  | some text => .string text
  | none => .garbled

/-! ### Numbers -/

/-- Whether the text starts with a minus sign, and the text after a sign. -/
def scanSign : List Char → Bool × List Char
  | '-' :: rest => (true, rest)
  | '+' :: rest => (false, rest)
  | rest => (false, rest)

/-- The exponent of a number, zero where there is none, and the text after it. -/
def scanExponent : List Char → Option (Int × List Char)
  | [] => some (0, [])
  | c :: rest =>
    if c = 'e' ∨ c = 'E' then
      let (negative, unsigned) := scanSign rest
      let (digits, rest) := spanDigits unsigned
      if digits.isEmpty then none
      else
        let value : Int := digitsValue digits
        some (if negative then -value else value, rest)
    else some (0, c :: rest)

/-- The fraction digits of a number, none where there is no point, and the text
    after them. -/
def scanFraction : List Char → Option (List Char × List Char)
  | '.' :: rest =>
    let (digits, rest) := spanDigits rest
    if digits.isEmpty then none else some (digits, rest)
  | rest => some ([], rest)

/-- Whether the text goes on in the way of a fraction or an exponent. -/
def goesOn : List Char → Bool
  | c :: _ => c = '.' || c = 'e' || c = 'E'
  | [] => false

/-- Whether a run of digits is empty or has a zero before other digits. -/
def isMalformedWhole (digits : List Char) : Bool :=
  digits.isEmpty || (digits.length > 1 && digits.head? == some '0')

/-- An unsigned number and the text after it: no zero before other digits, and
    digits after a point and after an exponent mark. -/
def scanUnsigned (negative : Bool) (cs : List Char) : Option (Number × List Char) := do
  let (whole, rest) := spanDigits cs
  if isMalformedWhole whole then
    none
  else if goesOn rest then
    let (digits, rest) ← scanFraction rest
    let (power, rest) ← scanExponent rest
    return (.real negative (digitsValue (whole ++ digits)) (power - digits.length), rest)
  else
    let value := digitsValue whole
    -- Integers have no minus zero, so that one is kept as a decimal.
    if negative then
      return (if value = 0 then .real true 0 0 else .integer (-value), rest)
    else
      return (.integer value, rest)

/-- A number and the text after it. -/
def scanNumber : List Char → Option (Number × List Char)
  | '-' :: rest => scanUnsigned true rest
  | cs => scanUnsigned false cs

/-! ### Tokens -/

/-- The text after the given characters, where it starts with them. -/
def scanWord : List Char → List Char → Option (List Char)
  | [], rest => some rest
  | w :: word, c :: rest => if w = c then scanWord word rest else none
  | _ :: _, [] => none

/-- The token that starts with a character, and the text after it. -/
def scanToken (spell : Spelling) (c : Char) (rest : List Char) : Option (Token × List Char) :=
  match c with
  | '{' => some (.braceOpen, rest)
  | '}' => some (.braceClose, rest)
  | '[' => some (.bracketOpen, rest)
  | ']' => some (.bracketClose, rest)
  | ':' => some (.colon, rest)
  | ',' => some (.comma, rest)
  | '"' => (scanString rest).map fun (pieces, rest) => (.ofPieces spell pieces, rest)
  | 'n' => (scanWord ['u', 'l', 'l'] rest).map fun rest => (.null, rest)
  | 't' => (scanWord ['r', 'u', 'e'] rest).map fun rest => (.bool true, rest)
  | 'f' => (scanWord ['a', 'l', 's', 'e'] rest).map fun rest => (.bool false, rest)
  | c => (scanNumber (c :: rest)).map fun (n, rest) => (.number n, rest)

/-- The characters that may stand between tokens. -/
def isSpace (c : Char) : Bool :=
  c = ' ' || c = '\t' || c = '\n' || c = '\r'

/-! ### Every sub-reader leaves a shorter text -/

/-- A string takes at least its closing quote. -/
theorem length_scanString_lt {cs : List Char} {pieces rest}
    (h : scanString cs = some (pieces, rest)) : rest.length < cs.length := by
  fun_induction scanString cs generalizing pieces rest with
  | case1 => simp at h
  | case2 => simp at h; simp [← h.2]
  | case3 a b c d tail ih =>
    simp only [Option.bind_eq_bind, Option.bind_eq_some_iff] at h
    obtain ⟨piece, -, ⟨ps, r⟩, hr, h⟩ := h
    simp at h
    have := ih hr
    simp [← h.2]
    omega
  | case4 c tail _ ih =>
    simp only [Option.bind_eq_bind, Option.bind_eq_some_iff] at h
    obtain ⟨e, -, ⟨ps, r⟩, hr, h⟩ := h
    simp at h
    have := ih hr
    simp [← h.2]
    omega
  | case5 => simp at h
  | case6 c tail _ _ _ _ ih =>
    simp only [Option.bind_eq_bind, Option.bind_eq_some_iff] at h
    obtain ⟨⟨ps, r⟩, hr, h⟩ := h
    simp at h
    have := ih hr
    simp [← h.2]
    omega

/-- A word takes its characters from the text. -/
theorem length_scanWord_le {word cs rest : List Char} (h : scanWord word cs = some rest) :
    rest.length ≤ cs.length := by
  fun_induction scanWord word cs with
  | case1 => simp at h; simp [h]
  | case2 _ _ _ ih => have := ih h; simp; omega
  | case3 => simp at h
  | case4 => simp at h

/-- A sign takes a character, or nothing. -/
theorem length_scanSign_le (cs : List Char) : (scanSign cs).2.length ≤ cs.length := by
  unfold scanSign
  split <;> simp

/-- An exponent takes its characters, or nothing. -/
theorem length_scanExponent_le {cs : List Char} {power rest}
    (h : scanExponent cs = some (power, rest)) : rest.length ≤ cs.length := by
  unfold scanExponent at h
  split at h
  · simp at h; simp [h]
  · next c tail =>
    split at h
    · simp only at h
      split at h
      · simp at h
      · simp only [Option.some.injEq, Prod.mk.injEq] at h
        rw [← h.2]
        have := length_spanDigits_le (scanSign tail).2
        have := length_scanSign_le tail
        simp
        omega
    · simp at h; simp [← h.2]

/-- A fraction takes its characters, or nothing. -/
theorem length_scanFraction_le {cs digits rest : List Char}
    (h : scanFraction cs = some (digits, rest)) : rest.length ≤ cs.length := by
  unfold scanFraction at h
  split at h
  · simp only at h
    split at h
    · simp at h
    · simp only [Option.some.injEq, Prod.mk.injEq] at h
      rw [← h.2]
      exact Nat.le_trans (length_spanDigits_le _) (by simp)
  · simp at h; simp [h.2]

/-- A number without a sign takes at least a digit. -/
theorem length_scanUnsigned_lt {negative : Bool} {cs : List Char} {n rest}
    (h : scanUnsigned negative cs = some (n, rest)) : rest.length < cs.length := by
  have shorter : (spanDigits cs).1 ≠ [] → (spanDigits cs).2.length < cs.length := by
    intro nonempty
    have split : (spanDigits cs).1 ++ (spanDigits cs).2 = cs := List.takeWhile_append_dropWhile
    have := congrArg List.length split
    have := List.length_pos_iff.mpr nonempty
    simp only [List.length_append] at *
    omega
  unfold scanUnsigned at h
  simp only at h
  -- A malformed whole part is no number; any other one has a digit at least.
  split at h
  · simp at h
  · next whole =>
    have nonempty : (spanDigits cs).1 ≠ [] := by
      intro empty
      simp [isMalformedWhole, empty] at whole
    have := shorter nonempty
    split at h
    · simp only [Option.bind_eq_bind, Option.bind_eq_some_iff] at h
      obtain ⟨⟨digits, r⟩, hf, ⟨power, r'⟩, he, h⟩ := h
      have := length_scanFraction_le hf
      have := length_scanExponent_le he
      simp at h
      rw [← h.2]
      simp only at *
      omega
    · split at h <;> · simp at h; rw [← h.2]; omega

/-- A number takes at least a digit. -/
theorem length_scanNumber_lt {cs : List Char} {n rest}
    (h : scanNumber cs = some (n, rest)) : rest.length < cs.length := by
  unfold scanNumber at h
  split at h
  · have := length_scanUnsigned_lt h
    simp
    omega
  · exact length_scanUnsigned_lt h

/-- A token takes no characters but its own. -/
theorem length_scanToken_le {spell : Spelling} {c : Char} {rest : List Char} {t rest'}
    (h : scanToken spell c rest = some (t, rest')) : rest'.length ≤ rest.length := by
  unfold scanToken at h
  split at h
  -- Numbers start with the character itself, so what they leave is compared with all of it.
  case h_11 =>
    simp only [Option.map_eq_some_iff] at h
    obtain ⟨⟨n, r⟩, hn, h⟩ := h
    have := length_scanNumber_lt hn
    simp at h this
    rw [← h.2]
    omega
  -- String literals
  case h_7 =>
    simp only [Option.map_eq_some_iff] at h
    obtain ⟨⟨pieces, r⟩, hs, h⟩ := h
    have := length_scanString_lt hs
    simp at h
    rw [← h.2]
    omega
  -- Single characters, then words
  all_goals
    first
    | simp at h; simp [h.2]
    | simp only [Option.map_eq_some_iff] at h
      obtain ⟨r, hw, h⟩ := h
      have := length_scanWord_le hw
      simp at h
      rw [← h.2]
      exact this

/-- The tokens of a text, up to the first place where it stops being JSON. -/
def tokensWith (spell : Spelling) (cs : List Char) : List Token :=
  match _ : cs.dropWhile isSpace with
  | [] => []
  | c :: rest =>
    match _ : scanToken spell c rest with
    | none => [.bad]
    | some (t, rest') => t :: tokensWith spell rest'
termination_by cs.length
decreasing_by
  have := length_scanToken_le ‹scanToken _ _ _ = some _›
  have := (List.dropWhile_sublist isSpace (l := cs)).length_le
  rw [‹cs.dropWhile isSpace = _›] at this
  simp at this
  omega

/-- The tokens of a text. -/
def tokens (cs : List Char) : List Token :=
  tokensWith spellText cs

/-- The character with the number of a byte. -/
def byteChar (byte : UInt8) : Char :=
  Char.ofNat byte.toNat

/-- The tokens of bytes. -/
def byteTokens (bytes : List UInt8) : List Token :=
  tokensWith spellBytes (bytes.map byteChar)

/-! ### Writing -/

/-- A character as it stands in a string literal. -/
def escaped (c : Char) : List Char :=
  if c = '"' then ['\\', '"']
  else if c = '\\' then ['\\', '\\']
  else if c = '\x08' then ['\\', 'b']
  else if c = '\x0c' then ['\\', 'f']
  else if c = '\n' then ['\\', 'n']
  else if c = '\r' then ['\\', 'r']
  else if c = '\t' then ['\\', 't']
  else if c < ' ' then ['\\', 'u', '0', '0', hexDigit (c.toNat / 16), hexDigit (c.toNat % 16)]
  else [c]

/-- The shortest spelling of a number that is read back as the same number. -/
def Number.text : Number → List Char
  | .integer value => signedDigitsOf value
  | .real negative digits scale =>
    (if negative then ['-'] else []) ++ digitsOf digits ++ 'e' :: signedDigitsOf scale

/-- The text of a token.  The two tokens that stand for a fault have none. -/
def Token.text : Token → List Char
  | .braceOpen => ['\x7b']
  | .braceClose => ['\x7d']
  | .bracketOpen => ['[']
  | .bracketClose => [']']
  | .colon => [':']
  | .comma => [',']
  | .null => ['n', 'u', 'l', 'l']
  | .bool true => ['t', 'r', 'u', 'e']
  | .bool false => ['f', 'a', 'l', 's', 'e']
  | .number n => n.text
  | .string s => '"' :: s.toList.flatMap escaped ++ ['"']
  | .garbled => []
  | .bad => []

end AssetRegistry.Json
