import AssetRegistry.Json.Codec
import AssetRegistry.Proofs.JsonTokens
import AssetRegistry.Proofs.Utf8Text

/-!
# Bodies that are a text

The tokens of the bytes of a text are those of the text (`byteTokens_encode`), so that
what is decoded from a body in UTF-8 is what is decoded from its text.

JSON is cut with a character in the place of each byte, which is what `spread` makes of a
text.  ASCII characters are spread as themselves and all others as characters that are not
ASCII.  The latter stand in string literals alone: everywhere else either text stops being
JSON with them.
-/

namespace AssetRegistry.Json

open Text

/-! ### A character for each byte -/

/-- A character of one byte. -/
def IsAscii (c : Char) : Prop :=
  c.toNat ≤ 0x7F

instance : DecidablePred IsAscii :=
  fun c => inferInstanceAs (Decidable (c.toNat ≤ 0x7F))

/-- A text with a character for each of its bytes. -/
def spread (cs : List Char) : List Char :=
  (Utf8.encode cs).map byteChar

/-- The character of a byte has the number of the byte. -/
theorem toNat_byteChar (b : UInt8) : (byteChar b).toNat = b.toNat := by
  have below := b.toNat_lt
  exact Utf8.toNat_ofNat_of_isValidChar (.inl (by omega))

/-- No bytes are spread out. -/
theorem spread_nil : spread [] = [] :=
  rfl

/-- A text is spread out character by character. -/
theorem spread_cons (c : Char) (cs : List Char) :
    spread (c :: cs) = (String.utf8EncodeChar c).map byteChar ++ spread cs := by
  rw [spread, Utf8.encode, List.flatMap_cons, List.map_append]
  rfl

/-- An ASCII character is spread as itself. -/
theorem spread_cons_of_isAscii {c : Char} (ascii : IsAscii c) (cs : List Char) :
    spread (c :: cs) = c :: spread cs := by
  have byte : (UInt8.ofNat c.toNat).toNat = c.toNat := toNat_ofNat_of_le ascii
  -- The spelling of its number is what an ASCII character is written as.
  have spells := Utf8.Spells.one (a := UInt8.ofNat c.toNat) (byte.trans_le ascii)
  have written := spells.utf8EncodeChar_eq
  rw [byte, Char.ofNat_toNat] at written
  rw [spread_cons, written, List.map_singleton, byteChar, byte, Char.ofNat_toNat,
    List.singleton_append]

/-- Any other character is spread as characters that are not ASCII. -/
theorem not_isAscii_of_mem {c d : Char} (other : ¬IsAscii c)
    (member : d ∈ (String.utf8EncodeChar c).map byteChar) : ¬IsAscii d := by
  obtain ⟨b, inBytes, rfl⟩ := List.mem_map.1 member
  have large := (Utf8.spells_utf8EncodeChar c).large (Nat.lt_of_not_le other) b inBytes
  rw [IsAscii, toNat_byteChar]
  omega

/-- Any other character is spread as one at least. -/
theorem exists_spread_cons {c : Char} (other : ¬IsAscii c) (cs : List Char) :
    ∃ d ds, ¬IsAscii d ∧ spread (c :: cs) = d :: ds := by
  obtain ⟨b, bs, bytes⟩ := List.exists_cons_of_ne_nil (utf8EncodeChar_ne_nil c)
  refine ⟨byteChar b, bs.map byteChar ++ spread cs, ?_, ?_⟩
  · apply not_isAscii_of_mem other
    rw [bytes, List.map_cons]
    exact List.mem_cons_self
  · rw [spread_cons, bytes, List.map_cons, List.cons_append]

/-- A text starts with an ASCII character both ways, or with another one both ways. -/
theorem spread_cases (cs : List Char) :
    cs = [] ∨ (∃ c rest, cs = c :: rest ∧ IsAscii c ∧ spread cs = c :: spread rest) ∨
      ∃ c rest d ds, cs = c :: rest ∧ ¬IsAscii c ∧ ¬IsAscii d ∧ spread cs = d :: ds := by
  cases cs with
  | nil => exact .inl rfl
  | cons c rest =>
    by_cases ascii : IsAscii c
    · exact .inr (.inl ⟨c, rest, rfl, ascii, spread_cons_of_isAscii ascii rest⟩)
    · obtain ⟨d, ds, other, front⟩ := exists_spread_cons ascii rest
      exact .inr (.inr ⟨c, rest, d, ds, rfl, ascii, other, front⟩)

/-- A character that is not ASCII is none that is. -/
theorem ne_of_not_isAscii {c d : Char} (other : ¬IsAscii c) (ascii : d.toNat ≤ 0x7F) : c ≠ d := by
  rintro rfl
  exact other ascii

/-! ### Runs of ASCII characters -/

section

variable {p : Char → Bool} (asciiOnly : ∀ c, p c = true → IsAscii c)
include asciiOnly

/-- A run of ASCII characters of some kind starts both texts. -/
theorem takeWhile_spread (cs : List Char) : (spread cs).takeWhile p = cs.takeWhile p := by
  induction cs with
  | nil => rfl
  | cons c cs ih =>
    by_cases ascii : IsAscii c
    · rw [spread_cons_of_isAscii ascii, List.takeWhile_cons, List.takeWhile_cons, ih]
    · -- Neither the character nor the first one of its bytes belongs to the run.
      obtain ⟨d, ds, other, front⟩ := exists_spread_cons ascii cs
      have stops (c : Char) (other : ¬IsAscii c) : ¬p c := fun holds => other (asciiOnly c holds)
      rw [front, List.takeWhile_cons_of_neg (stops d other),
        List.takeWhile_cons_of_neg (stops c ascii)]

/-- What follows a run of ASCII characters is spread out. -/
theorem dropWhile_spread (cs : List Char) :
    (spread cs).dropWhile p = spread (cs.dropWhile p) := by
  induction cs with
  | nil => rfl
  | cons c cs ih =>
    by_cases ascii : IsAscii c
    · rw [spread_cons_of_isAscii ascii, List.dropWhile_cons, List.dropWhile_cons, ih]
      split
      · rfl
      · exact (spread_cons_of_isAscii ascii cs).symm
    · obtain ⟨d, ds, other, front⟩ := exists_spread_cons ascii cs
      have stops (c : Char) (other : ¬IsAscii c) : ¬p c := fun holds => other (asciiOnly c holds)
      rw [List.dropWhile_cons_of_neg (stops c ascii), front,
        List.dropWhile_cons_of_neg (stops d other)]

end

/-- Digits are ASCII. -/
theorem isAscii_of_isDigit (c : Char) (digit : c.isDigit = true) : IsAscii c := by
  simp only [Char.isDigit, Bool.and_eq_true, decide_eq_true_eq] at digit
  have below : c.toNat ≤ '9'.toNat := UInt32.le_iff_toNat_le.1 digit.2
  exact Nat.le_trans below (by decide)

/-- Characters between tokens are ASCII. -/
theorem isAscii_of_isSpace (c : Char) (space : isSpace c = true) : IsAscii c := by
  simp only [isSpace, Bool.or_eq_true, decide_eq_true_eq] at space
  rcases space with ((rfl | rfl) | rfl) | rfl <;> simp [IsAscii]

/-- Digits are taken off both texts. -/
theorem spanDigits_spread (cs : List Char) :
    spanDigits (spread cs) = ((spanDigits cs).1, spread (spanDigits cs).2) := by
  rw [spanDigits, takeWhile_spread isAscii_of_isDigit, dropWhile_spread isAscii_of_isDigit]
  rfl

/-- A word is taken off both texts. -/
theorem scanWord_spread {word : List Char} (ascii : ∀ w ∈ word, IsAscii w) (cs : List Char) :
    scanWord word (spread cs) = (scanWord word cs).map spread := by
  induction word generalizing cs with
  | nil => rfl
  | cons w word ih =>
    have here := ascii w List.mem_cons_self
    have others : ∀ v ∈ word, IsAscii v := fun v member => ascii v (List.mem_cons_of_mem w member)
    rcases spread_cases cs with rfl | ⟨c, rest, rfl, _, front⟩ |
      ⟨c, rest, d, ds, rfl, hc, hd, front⟩
    · rfl
    · rw [front, scanWord, scanWord, ih others]
      split <;> rfl
    · rw [front, scanWord, scanWord, if_neg (ne_of_not_isAscii hd here).symm,
        if_neg (ne_of_not_isAscii hc here).symm]
      rfl

/-! ### Numbers -/

/-- Any other character than a sign stays. -/
theorem scanSign_cons {c : Char} (minus : c ≠ '-') (plus : c ≠ '+') (rest : List Char) :
    scanSign (c :: rest) = (false, c :: rest) := by
  rw [scanSign]
  · simp [minus]
  · simp [plus]

/-- A sign is taken off both texts. -/
theorem scanSign_spread (cs : List Char) :
    scanSign (spread cs) = ((scanSign cs).1, spread (scanSign cs).2) := by
  rcases spread_cases cs with rfl | ⟨c, rest, rfl, _, front⟩ |
    ⟨c, rest, d, ds, rfl, hc, hd, front⟩
  · rfl
  · rw [front]
    by_cases minus : c = '-'
    · rw [minus]
      rfl
    by_cases plus : c = '+'
    · rw [plus]
      rfl
    rw [scanSign_cons minus plus, scanSign_cons minus plus, front]
  · rw [front, scanSign_cons (ne_of_not_isAscii hd (by decide)) (ne_of_not_isAscii hd (by decide)),
      scanSign_cons (ne_of_not_isAscii hc (by decide)) (ne_of_not_isAscii hc (by decide)), front]

/-- Both texts go on in the same way after digits. -/
theorem goesOn_spread (cs : List Char) : goesOn (spread cs) = goesOn cs := by
  rcases spread_cases cs with rfl | ⟨c, rest, rfl, _, front⟩ |
    ⟨c, rest, d, ds, rfl, hc, hd, front⟩
  · rfl
  · rw [front]
    rfl
  · have none (c : Char) (rest : List Char) (other : ¬IsAscii c) : goesOn (c :: rest) = false := by
      simp [goesOn, ne_of_not_isAscii other]
    rw [front, none d ds hd, none c rest hc]

/-- Without a point there are no fraction digits. -/
theorem scanFraction_cons {c : Char} (point : c ≠ '.') (rest : List Char) :
    scanFraction (c :: rest) = some ([], c :: rest) := by
  rw [scanFraction]
  simp [point]

/-- Fraction digits are taken off both texts. -/
theorem scanFraction_spread (cs : List Char) :
    scanFraction (spread cs) = (scanFraction cs).map (Prod.map id spread) := by
  rcases spread_cases cs with rfl | ⟨c, rest, rfl, _, front⟩ |
    ⟨c, rest, d, ds, rfl, hc, hd, front⟩
  · rfl
  · rw [front]
    by_cases point : c = '.'
    · rw [point, scanFraction, scanFraction, spanDigits_spread]
      dsimp only
      split <;> rfl
    · rw [scanFraction_cons point, scanFraction_cons point, Option.map_some, Prod.map_apply, front,
        id]
  · rw [front, scanFraction_cons (ne_of_not_isAscii hd (by decide)),
      scanFraction_cons (ne_of_not_isAscii hc (by decide)), Option.map_some, Prod.map_apply, front,
      id]

/-- An exponent is taken off both texts. -/
theorem scanExponent_spread (cs : List Char) :
    scanExponent (spread cs) = (scanExponent cs).map (Prod.map id spread) := by
  rcases spread_cases cs with rfl | ⟨c, rest, rfl, _, front⟩ |
    ⟨c, rest, d, ds, rfl, hc, hd, front⟩
  · rfl
  · rw [front, scanExponent, scanExponent]
    split
    · rw [scanSign_spread]
      dsimp only
      rw [spanDigits_spread]
      dsimp only
      split <;> rfl
    · rw [Option.map_some, Prod.map_apply, front, id]
  · -- Neither text goes on with a mark, and the exponent is zero.
    have none (c : Char) (rest : List Char) (other : ¬IsAscii c) :
        scanExponent (c :: rest) = some (0, c :: rest) := by
      simp [scanExponent, ne_of_not_isAscii other]
    rw [front, none d ds hd, none c rest hc, Option.map_some, Prod.map_apply, front, id]

/-- A number without a sign is taken off both texts. -/
theorem scanUnsigned_spread (negative : Bool) (cs : List Char) :
    scanUnsigned negative (spread cs) =
      (scanUnsigned negative cs).map (Prod.map id spread) := by
  rw [scanUnsigned, scanUnsigned, spanDigits_spread]
  dsimp only
  rw [goesOn_spread]
  -- What decides over the form of the number is the same for both texts.
  split
  · rfl
  split
  · rw [scanFraction_spread]
    cases scanFraction (spanDigits cs).2 with
    | none => rfl
    | some fraction =>
      obtain ⟨digits, rest⟩ := fraction
      simp only [Option.map_some, Prod.map_apply, id, Option.bind_eq_bind, Option.bind_some,
        scanExponent_spread]
      cases scanExponent rest <;> rfl
  · split <;> rfl

/-- A number is taken off both texts. -/
theorem scanNumber_spread (cs : List Char) :
    scanNumber (spread cs) = (scanNumber cs).map (Prod.map id spread) := by
  have unsigned (c : Char) (rest : List Char) (minus : c ≠ '-') :
      scanNumber (c :: rest) = scanUnsigned false (c :: rest) := by
    rw [scanNumber]
    simp [minus]
  rcases spread_cases cs with rfl | ⟨c, rest, rfl, _, front⟩ |
    ⟨c, rest, d, ds, rfl, hc, hd, front⟩
  · rfl
  · by_cases minus : c = '-'
    · rw [front, minus]
      exact scanUnsigned_spread true rest
    · rw [front, unsigned c _ minus, unsigned c _ minus, ← front, scanUnsigned_spread]
  · rw [front, unsigned d ds (ne_of_not_isAscii hd (by decide)),
      unsigned c rest (ne_of_not_isAscii hc (by decide)), ← front, scanUnsigned_spread]

/-- No number starts with a character that is not ASCII. -/
theorem scanNumber_of_not_isAscii {c : Char} (other : ¬IsAscii c) (rest : List Char) :
    scanNumber (c :: rest) = none := by
  have noDigit : c.isDigit = false := by
    by_contra digit
    exact other (isAscii_of_isDigit c (by simpa using digit))
  -- There are no digits to start with, and that is malformed.
  rw [scanNumber]
  · simp [scanUnsigned, spanDigits, noDigit, isMalformedWhole]
  · simp [ne_of_not_isAscii other]

/-! ### String literals -/

/-- A unit with a character for each byte of a character that stands there. -/
def Piece.spread : Piece → List Piece
  | .plain c => ((String.utf8EncodeChar c).map byteChar).map .plain
  | piece => [piece]

/-- No hexadecimal digit is beyond ASCII. -/
theorem hexValue?_of_not_isAscii {c : Char} (other : ¬IsAscii c) : hexValue? c = none := by
  have large : 0x7F < c.toNat := Nat.lt_of_not_le other
  have beyond (d : Char) (ascii : d.toNat ≤ 0x7F) : ¬c ≤ d := by
    intro le
    have below : c.toNat ≤ d.toNat := UInt32.le_iff_toNat_le.1 le
    omega
  rw [hexValue?, if_neg, if_neg, if_neg]
  · exact fun range => beyond 'F' (by decide) range.2
  · exact fun range => beyond 'f' (by decide) range.2
  · exact fun range => beyond '9' (by decide) range.2

/-- Four characters that are not all ASCII are no code. -/
theorem unicodeEscape?_of_not_isAscii {a b c d : Char}
    (other : ∃ e ∈ [a, b, c, d], ¬IsAscii e) : unicodeEscape? a b c d = none := by
  simp only [List.mem_cons, List.not_mem_nil, or_false, exists_eq_or_imp, exists_eq_left] at other
  rcases other with other | other | other | other
  all_goals simp [unicodeEscape?, hexValue?_of_not_isAscii other]

/-- No character beyond ASCII is escaped by a backslash. -/
theorem escape?_of_not_isAscii {c : Char} (other : ¬IsAscii c) : escape? c = none := by
  unfold escape?
  split
  case h_9 => rfl
  all_goals exact absurd (by decide) other

/-- An escape by a code has four hexadecimal digits. -/
theorem scanString_unicode_eq_none {cs : List Char}
    (broken : cs.length < 4 ∨ ∃ c ∈ cs.take 4, ¬IsAscii c) :
    scanString ('\\' :: 'u' :: cs) = none := by
  rcases cs with _ | ⟨a, _ | ⟨b, _ | ⟨c, _ | ⟨d, rest⟩⟩⟩⟩
  case cons.cons.cons.cons =>
    have other : ∃ e ∈ [a, b, c, d], ¬IsAscii e := broken.resolve_left (by simp)
    rw [scanString, unicodeEscape?_of_not_isAscii other]
    rfl
  all_goals rfl

/-- An escape by a code is the unit of the code. -/
theorem scanString_unicode (a b c d : Char) (rest : List Char) :
    scanString ('\\' :: 'u' :: a :: b :: c :: d :: rest) =
      (unicodeEscape? a b c d).bind fun piece =>
        (scanString rest).map fun (pieces, rest) => (piece :: pieces, rest) := by
  rw [scanString]
  simp only [bind_scanString]
  rfl

/-- Any other escape is one character. -/
theorem scanString_escape {c : Char} (code : c ≠ 'u') (rest : List Char) :
    scanString ('\\' :: c :: rest) = (escape? c).bind fun c =>
      (scanString rest).map fun (pieces, rest) => (.escape c :: pieces, rest) := by
  rw [scanString]
  · simp only [bind_scanString]
    rfl
  · simp [code]

/-- Control characters are ASCII. -/
theorem isAscii_of_control {c : Char} (control : c < ' ') : IsAscii c := by
  have below : c.toNat < ' '.toNat := UInt32.lt_iff_toNat_lt.1 control
  exact Nat.le_of_lt (Nat.lt_trans below (by decide))

/-- Control characters have to be escaped. -/
theorem scanString_control {c : Char} (control : c < ' ') (rest : List Char) :
    scanString (c :: rest) = none := by
  rw [scanString, if_pos (.inl control)]
  · rintro rfl
    exact absurd control (by decide)
  · rintro _ _ _ _ _ rfl
    exact absurd control (by decide)
  · rintro _ _ rfl
    exact absurd control (by decide)

/-- Characters beyond ASCII stand for themselves. -/
theorem scanString_append_of_not_isAscii {cs : List Char} (other : ∀ c ∈ cs, ¬IsAscii c)
    (rest : List Char) :
    scanString (cs ++ rest) =
      (scanString rest).map fun (pieces, rest) => (cs.map .plain ++ pieces, rest) := by
  induction cs with
  | nil => simp
  | cons c cs ih =>
    have here := other c List.mem_cons_self
    have others : ∀ d ∈ cs, ¬IsAscii d := fun d member => other d (List.mem_cons_of_mem c member)
    -- The first character has no meaning of its own, so that it is a unit.
    have printable : ¬c < ' ' := fun control => here (isAscii_of_control control)
    rw [List.cons_append, scanString_plain (ne_of_not_isAscii here (by decide))
      (ne_of_not_isAscii here (by decide)) printable, ih others, Option.map_map]
    rfl

/-- ASCII characters in front are spread as themselves. -/
theorem spread_append {cs : List Char} (ascii : ∀ c ∈ cs, IsAscii c) (rest : List Char) :
    spread (cs ++ rest) = cs ++ spread rest := by
  induction cs with
  | nil => rfl
  | cons c cs ih =>
    rw [List.cons_append, spread_cons_of_isAscii (ascii c List.mem_cons_self), List.cons_append, ih]
    intro d member
    exact ascii d (List.mem_cons_of_mem c member)

/-- A character beyond ASCII does not move back where a text is spread out. -/
theorem exists_mem_take_spread {n : Nat} {cs : List Char} (other : ∃ c ∈ cs.take n, ¬IsAscii c) :
    ∃ d ∈ (spread cs).take n, ¬IsAscii d := by
  induction n generalizing cs with
  | zero => simp at other
  | succ n ih =>
    rcases spread_cases cs with rfl | ⟨c, rest, rfl, here, front⟩ |
      ⟨c, rest, d, ds, rfl, _, hd, front⟩
    · simp at other
    · -- The first character takes one place, and the other one is further behind.
      obtain ⟨e, member, other⟩ := other
      rcases List.mem_cons.1 member with rfl | later
      · exact absurd here other
      · obtain ⟨d, found, other⟩ := ih ⟨e, later, other⟩
        rw [front]
        exact ⟨d, List.mem_cons_of_mem c found, other⟩
    · rw [front]
      exact ⟨d, List.mem_cons_self, hd⟩

/-- The units of a string literal have a character for each byte, and so has what follows. -/
def spreadScanned (scanned : List Piece × List Char) : List Piece × List Char :=
  (scanned.1.flatMap Piece.spread, spread scanned.2)

/-- An escape by a code that is broken in a text is broken in the text spread out. -/
theorem scanString_unicode_spread {cs : List Char}
    (broken : cs.length < 4 ∨ ∃ c ∈ cs.take 4, ¬IsAscii c) :
    scanString ('\\' :: 'u' :: spread cs) = none := by
  apply scanString_unicode_eq_none
  by_cases ascii : ∀ c ∈ cs.take 4, IsAscii c
  · -- All characters that there are are ASCII, so they are too few in both texts.
    have short : cs.length < 4 := by
      rcases broken with short | ⟨c, member, other⟩
      · exact short
      · exact absurd (ascii c member) other
    rw [List.take_of_length_le (by omega)] at ascii
    have same := spread_append ascii []
    rw [List.append_nil, spread_nil, List.append_nil] at same
    rw [same]
    exact .inl short
  · exact .inr (exists_mem_take_spread (by simpa using ascii))

/-- A unit that stands for itself is put in front before or after the text is spread out. -/
theorem map_spreadScanned {piece : Piece} (same : piece.spread = [piece])
    (scanned : Option (List Piece × List Char)) :
    ((scanned.map spreadScanned).map fun (pieces, rest) => (piece :: pieces, rest)) =
      (scanned.map fun (pieces, rest) => (piece :: pieces, rest)).map spreadScanned := by
  rw [Option.map_map, Option.map_map]
  congr 1
  funext scanned
  simp [spreadScanned, same]

/-- The unit of a code is no character that stands there. -/
theorem spread_ofCode (code : Nat) : (Piece.ofCode code).spread = [.ofCode code] := by
  unfold Piece.ofCode
  split_ifs <;> rfl

/-- A string literal is taken off both texts. -/
theorem scanString_spread (cs : List Char) :
    scanString (spread cs) = (scanString cs).map spreadScanned := by
  fun_induction scanString cs
  case case1 => rfl
  case case2 rest =>
    rw [spread_cons_of_isAscii (by decide)]
    rfl
  -- Four characters behind `u`, which are a code only if all of them are ASCII.
  case case3 a b c d rest ih =>
    rw [spread_cons_of_isAscii (by decide), spread_cons_of_isAscii (by decide)]
    simp only [bind_scanString]
    by_cases ascii : ∀ e ∈ [a, b, c, d], IsAscii e
    · have front := spread_append ascii rest
      simp only [List.cons_append, List.nil_append] at front
      rw [front, scanString_unicode, ih]
      cases unicode : unicodeEscape? a b c d with
      | none => rfl
      | some piece =>
        have same : piece.spread = [piece] := by
          simp [unicodeEscape?, Option.bind_eq_some_iff] at unicode
          obtain ⟨_, _, _, _, _, _, _, _, rfl⟩ := unicode
          exact spread_ofCode _
        exact map_spreadScanned same _
    · simp only [not_forall, exists_prop] at ascii
      have broken : ∃ e ∈ (a :: b :: c :: d :: rest).take 4, ¬IsAscii e := ascii
      rw [unicodeEscape?_of_not_isAscii ascii, scanString_unicode_spread (.inr broken)]
      rfl
  -- Any other character behind a backslash.
  case case4 c rest short ih =>
    rw [spread_cons_of_isAscii (by decide)]
    simp only [bind_scanString]
    by_cases code : c = 'u'
    · -- There are too few characters for a code, and no code comes of their bytes.
      have broken : rest.length < 4 := by
        by_contra long
        obtain _ | ⟨a, _ | ⟨b, _ | ⟨c, _ | ⟨d, rest⟩⟩⟩⟩ := rest <;> simp at long
        exact short a b c d rest code rfl
      rw [code, spread_cons_of_isAscii (by decide), scanString_unicode_spread (.inl broken)]
      rfl
    by_cases ascii : IsAscii c
    · rw [spread_cons_of_isAscii ascii, scanString_escape code, ih]
      cases escape? c with
      | none => rfl
      | some e => exact map_spreadScanned rfl _
    · obtain ⟨d, ds, other, front⟩ := exists_spread_cons ascii rest
      rw [front, scanString_escape (ne_of_not_isAscii other (by decide)),
        escape?_of_not_isAscii other, escape?_of_not_isAscii ascii]
      rfl
  -- A control character, or a backslash at the end of the text.
  case case5 c rest quote _ escape broken =>
    rcases broken with control | rfl
    · rw [spread_cons_of_isAscii (isAscii_of_control control), scanString_control control]
      rfl
    · cases rest with
      | nil => rfl
      | cons d rest => exact (escape d rest rfl rfl).elim
  -- A character that stands for itself, and its bytes for themselves.
  case case6 c rest quote _ _ plain ih =>
    rw [not_or] at plain
    simp only [bind_scanString]
    by_cases ascii : IsAscii c
    · rw [spread_cons_of_isAscii ascii, scanString_plain quote plain.2 plain.1, ih]
      apply map_spreadScanned
      have bytes := spread_cons_of_isAscii ascii []
      rw [spread_cons, spread_nil, List.append_nil] at bytes
      rw [Piece.spread, bytes]
      rfl
    · rw [spread_cons, scanString_append_of_not_isAscii (fun d => not_isAscii_of_mem ascii), ih,
        Option.map_map, Option.map_map]
      rfl

/-! ### What units spell -/

/-- Plain units spell the letters of their characters. -/
theorem joinPieces_map_plain_append (plain escape : Char → List α) (cs : List Char)
    (pieces : List Piece) :
    joinPieces plain escape (cs.map .plain ++ pieces) =
      (joinPieces plain escape pieces).map (cs.flatMap plain ++ ·) := by
  induction cs with
  | nil => simp
  | cons c cs ih =>
    rw [List.map_cons, List.cons_append, joinPieces, ih, Option.map_map]
    congr 1
    funext letters
    simp

/-- A byte is the letter of its character. -/
theorem flatMap_byteChar (bytes : List UInt8) :
    (bytes.map byteChar).flatMap (fun c => [UInt8.ofNat c.toNat]) = bytes := by
  rw [List.flatMap_map]
  simp [toNat_byteChar]

/-- Units with a character for each byte spell the bytes of what the units spell. -/
theorem joinPieces_spread (pieces : List Piece) :
    joinPieces (fun c => [UInt8.ofNat c.toNat]) String.utf8EncodeChar
        (pieces.flatMap Piece.spread) =
      (joinPieces (fun c => [c]) (fun c => [c]) pieces).map Utf8.encode := by
  fun_induction joinPieces (fun c => [c]) (fun c => [c]) pieces
  case case1 => rfl
  case case2 c rest ih =>
    rw [List.flatMap_cons, Piece.spread, joinPieces_map_plain_append, flatMap_byteChar, ih,
      Option.map_map, Option.map_map]
    rfl
  case case3 c rest ih =>
    show Option.map _ (joinPieces _ _ (rest.flatMap Piece.spread)) = _
    rw [ih, Option.map_map, Option.map_map]
    rfl
  case case4 high low rest ih =>
    show Option.map _ (joinPieces _ _ (rest.flatMap Piece.spread)) = _
    rw [ih, Option.map_map, Option.map_map]
    rfl
  case case5 piece rest notPlain notEscape notPair =>
    -- Half of a pair without its other half next to it, which no spread unit is.
    cases piece with
    | plain c => exact (notPlain c rfl).elim
    | escape c => exact (notEscape c rfl).elim
    | low bits => rfl
    | high bits =>
      cases rest with
      | nil => rfl
      | cons next rest =>
        cases next with
        | plain c =>
          obtain ⟨b, bs, bytes⟩ := List.exists_cons_of_ne_nil (utf8EncodeChar_ne_nil c)
          rw [List.flatMap_cons, List.flatMap_cons, Piece.spread, Piece.spread, bytes]
          · rfl
          · simp
        | escape c => rfl
        | high bits => rfl
        | low low => exact (notPair bits low rest rfl rfl).elim

/-- Units spell the same text both ways. -/
theorem spellBytes_spread (pieces : List Piece) :
    spellBytes (pieces.flatMap Piece.spread) = spellText pieces := by
  rw [spellBytes, spellText, joinPieces_spread]
  cases joinPieces (fun c => [c]) (fun c => [c]) pieces with
  | none => rfl
  | some cs =>
    have decoded : Utf8.decode? (Utf8.encode cs) = some (String.ofList cs) := by
      rw [Utf8.decode?_eq_some, String.toList_ofList]
    exact decoded

/-! ### Tokens -/

/-- A token is taken off both texts. -/
theorem scanToken_spread {c : Char} (ascii : IsAscii c) (rest : List Char) :
    scanToken spellBytes c (spread rest) =
      (scanToken spellText c rest).map (Prod.map id spread) := by
  unfold scanToken
  split
  -- String literals, words and numbers; all other tokens are one character.
  case h_7 =>
    rw [scanString_spread, Option.map_map, Option.map_map]
    congr 1
    funext scanned
    simp [spreadScanned, Token.ofPieces, spellBytes_spread]
  case h_8 | h_9 | h_10 =>
    rw [scanWord_spread (by simp [IsAscii]), Option.map_map, Option.map_map]
    rfl
  case h_11 =>
    rw [← spread_cons_of_isAscii ascii, scanNumber_spread, Option.map_map, Option.map_map]
    rfl
  all_goals rfl

/-- No token starts with a character beyond ASCII. -/
theorem scanToken_of_not_isAscii {c : Char} (other : ¬IsAscii c) (spell : Spelling)
    (rest : List Char) : scanToken spell c rest = none := by
  unfold scanToken
  split
  case h_11 => rw [scanNumber_of_not_isAscii other, Option.map_none]
  all_goals exact absurd (by decide) other

/-- A text has the same tokens when it is spread out. -/
theorem tokensWith_spread (cs : List Char) :
    tokensWith spellBytes (spread cs) = tokensWith spellText cs := by
  fun_induction tokensWith spellText cs
  case case1 cs blank =>
    apply tokensWith_of_nil
    rw [dropWhile_spread isAscii_of_isSpace, blank]
    rfl
  -- Where a text stops being JSON the other one does, at the same character or its first byte.
  case case2 cs c rest front none =>
    have spreadFront := dropWhile_spread isAscii_of_isSpace cs
    rw [front] at spreadFront
    by_cases ascii : IsAscii c
    · rw [spread_cons_of_isAscii ascii] at spreadFront
      rw [tokensWith_of_cons spreadFront, scanToken_spread ascii, none]
      rfl
    · obtain ⟨d, ds, other, same⟩ := exists_spread_cons ascii rest
      rw [same] at spreadFront
      rw [tokensWith_of_cons spreadFront, scanToken_of_not_isAscii other]
  case case3 cs c rest front t rest' some ih =>
    have ascii : IsAscii c := by
      by_contra other
      simp [scanToken_of_not_isAscii other] at some
    have spreadFront := dropWhile_spread isAscii_of_isSpace cs
    rw [front, spread_cons_of_isAscii ascii] at spreadFront
    rw [tokensWith_of_cons spreadFront, scanToken_spread ascii, some]
    exact congrArg _ ih

/-- The tokens of the bytes of a text are those of the text. -/
theorem byteTokens_encode (cs : List Char) : byteTokens (Utf8.encode cs) = tokens cs :=
  tokensWith_spread cs

/-- What is decoded from the bytes of a text is what its tokens start with. -/
theorem decodeFront_encode (decode : Decoder α) (text : String) :
    decodeFront decode (Utf8.encode text.toList) =
      Except.map Prod.fst (decode maxDepth (tokens text.toList)) := by
  rw [decodeFront, byteTokens_encode]
  cases decode maxDepth (tokens text.toList) <;> rfl

/-- Whatever a text is read as is decoded from its bytes. -/
theorem Codec.decodeFront_of_ofText {codec : Codec α} {text : String} {a : α}
    (read : codec.ofText text = .ok a) :
    decodeFront codec.decode (Utf8.encode text.toList) = .ok a := by
  rw [decodeFront_encode]
  rw [ofText, decodeWhole] at read
  cases decoded : codec.decode maxDepth (tokens text.toList) with
  | error fault =>
    rw [decoded] at read
    exact nomatch read
  | ok found =>
    obtain ⟨b, rest⟩ := found
    rw [decoded] at read
    -- Nothing may follow the value in a text, and anything in a body.
    cases rest with
    | nil => exact read
    | cons t rest => cases read

end AssetRegistry.Json
