import AssetRegistry.Json.Printer
import Mathlib.Data.List.Chain

/-!
# The tokens of a printed value

The text of a value is cut into the tokens that it was put together from (`tokens_text`).
Every token but a number ends where its text ends, whatever comes after it.  A number would
go on with a digit, a point or an exponent mark, and in the text of a value it is followed
by none of them.
-/

namespace AssetRegistry.Json

open Text

/-! ### String literals -/

/-- A control character is read from the code that it is written as. -/
theorem unicodeEscape?_control : ∀ code < 32,
    unicodeEscape? '0' '0' (hexDigit (code / 16)) (hexDigit (code % 16)) =
      some (.escape (Char.ofNat code)) := by
  decide

/-- The unit that a character is written as. -/
def Piece.written (c : Char) : Piece :=
  if escaped c = [c] then .plain c else .escape c

/-- What follows a unit is read on its own. -/
theorem bind_scanString (piece : Piece) (rest : List Char) :
    (do
      let (pieces, rest) ← scanString rest
      return (piece :: pieces, rest)) =
      (scanString rest).map fun (pieces, rest) => (piece :: pieces, rest) := by
  cases scanString rest <;> rfl

/-- A character without a meaning of its own stands for itself. -/
theorem scanString_plain {c : Char} (quote : c ≠ '"') (backslash : c ≠ '\\')
    (printable : ¬c < ' ') (rest : List Char) :
    scanString (c :: rest) =
      (scanString rest).map fun (pieces, rest) => (.plain c :: pieces, rest) := by
  rw [scanString, if_neg (by simp [backslash, printable]), bind_scanString]
  · exact quote
  · simp [backslash]
  · simp [backslash]

/-- What a character is written as is read as that character. -/
theorem scanString_escaped (c : Char) (rest : List Char) :
    scanString (escaped c ++ rest) =
      (scanString rest).map fun (pieces, rest) => (.written c :: pieces, rest) := by
  unfold escaped
  split_ifs with quote backslash _ _ _ _ _ control
  -- The characters that are written as a backslash and one more character.
  iterate 7 · subst_vars; rw [← bind_scanString]; rfl
  · have unit : Piece.written c = .escape c := if_neg (by simp [escaped, *])
    have read := unicodeEscape?_control c.toNat control
    rw [Char.ofNat_toNat] at read
    show scanString ('\\' :: 'u' :: '0' :: '0' :: hexDigit (c.toNat / 16) ::
      hexDigit (c.toNat % 16) :: rest) = _
    rw [scanString, read, unit, ← bind_scanString]
    rfl
  · have unit : Piece.written c = .plain c := if_pos (by simp [escaped, *])
    rw [unit]
    exact scanString_plain quote backslash control rest

/-- A string literal ends at its closing quote. -/
theorem scanString_literal (cs rest : List Char) :
    scanString (cs.flatMap escaped ++ '"' :: rest) = some (cs.map .written, rest) := by
  induction cs with
  | nil => rw [List.flatMap_nil, List.nil_append, scanString, List.map_nil]
  | cons c cs ih =>
    rw [List.flatMap_cons, List.append_assoc, scanString_escaped, ih]
    rfl

/-- Where escapes spell what plain characters spell, it does not matter how a character is
    written. -/
theorem joinPieces_map_written (spell : Char → List α) (cs : List Char) :
    joinPieces spell spell (cs.map .written) = some (cs.flatMap spell) := by
  induction cs with
  | nil => rfl
  | cons c cs ih =>
    rw [List.map_cons, List.flatMap_cons]
    by_cases same : escaped c = [c]
    · rw [Piece.written, if_pos same, joinPieces, ih]
      rfl
    · rw [Piece.written, if_neg same, joinPieces, ih]
      rfl

/-- A text is spelled by the units that it is written as. -/
theorem spellText_map_written (cs : List Char) :
    spellText (cs.map .written) = some (String.ofList cs) := by
  rw [spellText, joinPieces_map_written, List.flatMap_singleton', Option.map_some]

/-! ### Numbers -/

/-- A text that no number in front of it goes on with. -/
structure EndsNumber (rest : List Char) : Prop where
  noDigit : ∀ c ∈ rest.head?, c.isDigit = false
  noMark : goesOn rest = false

/-- Digits end where no further digit comes. -/
theorem spanDigits_append {ds rest : List Char} (digits : ∀ d ∈ ds, d.isDigit = true)
    (noDigit : ∀ c ∈ rest.head?, c.isDigit = false) : spanDigits (ds ++ rest) = (ds, rest) := by
  have stops : rest.takeWhile Char.isDigit = [] ∧ rest.dropWhile Char.isDigit = rest := by
    cases rest with
    | nil => exact ⟨rfl, rfl⟩
    | cons c rest => simp [noDigit c rfl]
  rw [spanDigits, List.takeWhile_append_of_pos digits, List.dropWhile_append_of_pos digits,
    stops.1, stops.2, List.append_nil]

/-- The digits of a number are taken off where no digit follows. -/
theorem spanDigits_digitsOf {rest : List Char} (noDigit : ∀ c ∈ rest.head?, c.isDigit = false)
    (n : Nat) : spanDigits (digitsOf n ++ rest) = (digitsOf n, rest) :=
  spanDigits_append (fun _ member => Nat.isDigit_of_mem_toDigits (by decide) (by decide) member)
    noDigit

/-- The digits of a positive number do not start with a zero. -/
theorem head?_digitsOf_ne_zero {n : Nat} (positive : 0 < n) : (digitsOf n).head? ≠ some '0' := by
  induction n using Nat.strong_induction_on with
  | _ n ih =>
    by_cases small : n < 10
    · rw [digitsOf, Nat.toDigits_of_lt_base small]
      have digits : ∀ n < 10, 0 < n → n.digitChar ≠ '0' := by decide
      simpa using digits n small positive
    · rw [digitsOf, Nat.toDigits_of_base_le (by decide) (by omega),
        List.head?_append_of_ne_nil _ Nat.toDigits_ne_nil]
      exact ih (n / 10) (by omega) (by omega)

/-- The digits of a number do not start with a zero too many. -/
theorem isMalformedWhole_digitsOf (n : Nat) : isMalformedWhole (digitsOf n) = false := by
  have nonempty : (digitsOf n).isEmpty = false := List.isEmpty_eq_false_iff.2 Nat.toDigits_ne_nil
  rw [isMalformedWhole, nonempty, Bool.false_or]
  by_cases small : n < 10
  · rw [digitsOf, Nat.toDigits_of_lt_base small]
    rfl
  · simp [head?_digitsOf_ne_zero (n := n) (by omega)]

/-- An integer without sign is read up to its end. -/
theorem scanUnsigned_digitsOf {rest : List Char} (ends : EndsNumber rest) (negative : Bool)
    (n : Nat) :
    scanUnsigned negative (digitsOf n ++ rest) =
      some (if negative then if n = 0 then .real true 0 0 else .integer (-n) else .integer n,
        rest) := by
  rw [scanUnsigned, spanDigits_digitsOf ends.noDigit]
  simp only [isMalformedWhole_digitsOf, ends.noMark, digitsValue_digitsOf, Bool.false_eq_true,
    if_false]
  cases negative
  · rfl
  · simp only [if_true]
    rfl

/-- The digits of a number are no sign. -/
theorem exists_digitsOf_eq_cons (n : Nat) : ∃ c cs, digitsOf n = c :: cs ∧ c.isDigit = true := by
  obtain ⟨c, cs, h⟩ := List.exists_cons_of_ne_nil (Nat.toDigits_ne_nil (n := n) (b := 10))
  exact ⟨c, cs, h, Nat.isDigit_of_mem_toDigits (by decide) (by decide) (h ▸ List.mem_cons_self)⟩

/-- The digits of a number have no sign. -/
theorem scanSign_digitsOf (n : Nat) (rest : List Char) :
    scanSign (digitsOf n ++ rest) = (false, digitsOf n ++ rest) := by
  obtain ⟨c, cs, h, digit⟩ := exists_digitsOf_eq_cons n
  rw [h, List.cons_append, scanSign]
  · rintro _ ⟨⟩
    simp at digit
  · rintro _ ⟨⟩
    simp at digit

/-- An exponent is read up to its end. -/
theorem scanExponent_signedDigitsOf {rest : List Char}
    (noDigit : ∀ c ∈ rest.head?, c.isDigit = false) (scale : Int) :
    scanExponent ('e' :: (signedDigitsOf scale ++ rest)) = some (scale, rest) := by
  have nonempty (n : Nat) : (digitsOf n).isEmpty = false :=
    List.isEmpty_eq_false_iff.2 Nat.toDigits_ne_nil
  cases scale with
  | ofNat n =>
    simp [scanExponent, signedDigitsOf, scanSign_digitsOf, spanDigits_digitsOf noDigit, nonempty,
      digitsValue_digitsOf]
  | negSucc n =>
    simp [scanExponent, signedDigitsOf, scanSign, spanDigits_digitsOf noDigit, nonempty,
      digitsValue_digitsOf, Int.negSucc_eq]

/-- A decimal without sign is read up to its end. -/
theorem scanUnsigned_decimal {rest : List Char}
    (noDigit : ∀ c ∈ rest.head?, c.isDigit = false) (negative : Bool) (digits : Nat)
    (scale : Int) :
    scanUnsigned negative (digitsOf digits ++ 'e' :: (signedDigitsOf scale ++ rest)) =
      some (.real negative digits scale, rest) := by
  have mark : ∀ c ∈ ('e' :: (signedDigitsOf scale ++ rest)).head?, c.isDigit = false := by
    simp
  rw [scanUnsigned, spanDigits_digitsOf mark]
  simp [isMalformedWhole_digitsOf, goesOn, scanFraction, scanExponent_signedDigitsOf noDigit,
    digitsValue_digitsOf]

/-- The digits of a number are scanned as one without a sign. -/
theorem scanNumber_digitsOf (n : Nat) (rest : List Char) :
    scanNumber (digitsOf n ++ rest) = scanUnsigned false (digitsOf n ++ rest) := by
  obtain ⟨c, cs, h, digit⟩ := exists_digitsOf_eq_cons n
  rw [h, List.cons_append, scanNumber]
  rintro _ ⟨⟩
  simp at digit

/-- A number is read up to its end. -/
theorem scanNumber_text {rest : List Char} (ends : EndsNumber rest) (n : Number) :
    scanNumber (n.text ++ rest) = some (n, rest) := by
  rcases n with (n | n) | ⟨_ | _, digits, scale⟩
  · show scanNumber (digitsOf n ++ rest) = _
    rw [scanNumber_digitsOf, scanUnsigned_digitsOf ends]
    rfl
  · show scanUnsigned true (digitsOf (n + 1) ++ rest) = _
    rw [scanUnsigned_digitsOf ends]
    rfl
  · rw [Number.text, if_neg Bool.false_ne_true, List.nil_append, List.append_assoc,
      List.cons_append, scanNumber_digitsOf, scanUnsigned_decimal ends.noDigit]
  · rw [Number.text, if_pos rfl, List.append_assoc, List.append_assoc, List.cons_append,
      List.cons_append, List.nil_append, scanNumber, scanUnsigned_decimal ends.noDigit]

/-! ### Tokens -/

namespace Token

/-- Whether the token has a text. -/
def isSpelled : Token → Bool
  | garbled | bad => false
  | _ => true

/-- Whether the token may go on with what is written after it. -/
def isNumber : Token → Bool
  | number _ => true
  | _ => false

end Token

/-- The texts of tokens that can be cut at their ends. -/
structure Printable (ts : List Token) : Prop where
  spelled : ∀ t ∈ ts, t.isSpelled
  apart : ts.IsChain fun t t' => t.isNumber = false ∨ t'.isNumber = false

/-- A number is told by its first character. -/
theorem scanToken_of_number {spell : Spelling} {c : Char} (starts : c = '-' ∨ c.isDigit = true)
    (rest : List Char) :
    scanToken spell c rest =
      (scanNumber (c :: rest)).map fun (n, rest) => (.number n, rest) := by
  unfold scanToken
  split
  case h_11 => rfl
  all_goals simp at starts

/-- The text of a number starts with a sign or a digit. -/
theorem exists_text_eq_cons (n : Number) :
    ∃ c cs, n.text = c :: cs ∧ (c = '-' ∨ c.isDigit = true) := by
  rcases n with (n | n) | ⟨_ | _, digits, scale⟩
  · obtain ⟨c, cs, h, digit⟩ := exists_digitsOf_eq_cons n
    exact ⟨c, cs, h, .inr digit⟩
  · exact ⟨_, _, rfl, .inl rfl⟩
  · obtain ⟨c, cs, h, digit⟩ := exists_digitsOf_eq_cons digits
    exact ⟨c, cs ++ 'e' :: signedDigitsOf scale, by simp [Number.text, h], .inr digit⟩
  · exact ⟨_, _, rfl, .inl rfl⟩

/-- A token is scanned up to its end, from its first character on, which is no blank. -/
theorem scanToken_text {t : Token} (spelled : t.isSpelled) {rest : List Char}
    (ends : t.isNumber → EndsNumber rest) :
    ∃ c cs, t.text ++ rest = c :: cs ∧ isSpace c = false ∧
      scanToken spellText c cs = some (t, rest) := by
  cases t with
  | garbled | bad => simp [Token.isSpelled] at spelled
  | bool b => cases b <;> exact ⟨_, _, rfl, by decide, rfl⟩
  | string s =>
    refine ⟨'"', s.toList.flatMap escaped ++ '"' :: rest, by simp [Token.text], by decide, ?_⟩
    show (scanString _).map _ = _
    rw [scanString_literal]
    simp [Token.ofPieces, spellText_map_written]
  -- A number is told by its first character and ends before what follows.
  | number n =>
    obtain ⟨c, cs, h, starts⟩ := exists_text_eq_cons n
    refine ⟨c, cs ++ rest, by rw [Token.text, h, List.cons_append], ?_, ?_⟩
    · rcases starts with rfl | digit
      · decide
      · by_contra space
        simp only [isSpace, Bool.not_eq_false, Bool.or_eq_true, decide_eq_true_eq] at space
        rcases space with ((rfl | rfl) | rfl) | rfl <;> simp at digit
    · rw [scanToken_of_number starts, ← List.cons_append, ← h, scanNumber_text (ends rfl)]
      rfl
  | _ => exact ⟨_, _, rfl, by decide, rfl⟩

/-- Blanks alone have no tokens. -/
theorem tokensWith_of_nil (spell : Spelling) {cs : List Char} (blank : cs.dropWhile isSpace = []) :
    tokensWith spell cs = [] := by
  rw [tokensWith]
  split
  · rfl
  · next front => simp [blank] at front

/-- The first token starts with the first character that is no blank. -/
theorem tokensWith_of_cons {spell : Spelling} {cs : List Char} {c : Char} {rest : List Char}
    (front : cs.dropWhile isSpace = c :: rest) :
    tokensWith spell cs =
      match scanToken spell c rest with
      | none => [.bad]
      | some (t, rest) => t :: tokensWith spell rest := by
  rw [tokensWith]
  split
  · next blank => simp [front] at blank
  · next same =>
    obtain ⟨rfl, rfl⟩ := List.cons.inj (front.symm.trans same)
    split
    · next none => rw [none]
    · next some => rw [some]

/-- A token is cut off the front of a text. -/
theorem tokens_text_append {t : Token} (spelled : t.isSpelled) {rest : List Char}
    (ends : t.isNumber → EndsNumber rest) : tokens (t.text ++ rest) = t :: tokens rest := by
  obtain ⟨c, cs, h, noSpace, scanned⟩ := scanToken_text spelled ends
  have front : (c :: cs).dropWhile isSpace = c :: cs := by simp [noSpace]
  rw [h, tokens, tokensWith_of_cons front, scanned]
  rfl

/-- What is written after a number ends it. -/
theorem endsNumber_text {t : Token} (spelled : t.isSpelled) (other : t.isNumber = false)
    (rest : List Char) : EndsNumber (t.text ++ rest) := by
  cases t with
  | garbled | bad => simp [Token.isSpelled] at spelled
  | number => simp [Token.isNumber] at other
  | bool b => cases b <;> exact ⟨by simp [Token.text], rfl⟩
  | _ => exact ⟨by simp [Token.text], rfl⟩

/-- Tokens that can be told apart are cut out of their texts. -/
theorem tokens_flatMap_text {ts : List Token} (printable : Printable ts) :
    tokens (ts.flatMap Token.text) = ts := by
  induction ts with
  | nil => exact tokensWith_of_nil spellText rfl
  | cons t ts ih =>
    have tail : Printable ts :=
      ⟨fun t' member => printable.spelled t' (List.mem_cons_of_mem t member), printable.apart.tail⟩
    rw [List.flatMap_cons, tokens_text_append (printable.spelled t List.mem_cons_self), ih tail]
    intro number
    cases ts with
    | nil => exact ⟨by simp, rfl⟩
    | cons t' ts =>
      -- Two numbers do not follow on each other, so that the next token ends this one.
      have other : t'.isNumber = false := by
        simpa [number] using (List.isChain_cons_cons.1 printable.apart).1
      exact endsNumber_text (tail.spelled t' List.mem_cons_self) other _

/-! ### Values -/

namespace Printable

/-- No tokens are printed as nothing. -/
theorem nil : Printable [] :=
  ⟨by simp, .nil⟩

/-- A single token has no neighbour. -/
theorem singleton {t : Token} (spelled : t.isSpelled) : Printable [t] :=
  ⟨by simpa using spelled, .singleton t⟩

/-- Tokens with punctuation between them can be told apart. -/
theorem append_cons {ts ts' : List Token} {t : Token} (before : Printable ts)
    (spelled : t.isSpelled) (other : t.isNumber = false) (after : Printable ts') :
    Printable (ts ++ t :: ts') := by
  constructor
  · intro u member
    rcases List.mem_append.1 member with first | second
    · exact before.spelled u first
    · rcases List.mem_cons.1 second with rfl | second
      · exact spelled
      · exact after.spelled u second
  · refine List.isChain_append.2 ⟨before.apart, ?_, ?_⟩
    · exact List.isChain_cons.2 ⟨fun _ _ => .inl other, after.apart⟩
    · rintro u _ v ⟨⟩
      exact .inr other

/-- A token that is no number may have any neighbour. -/
theorem cons {ts : List Token} {t : Token} (spelled : t.isSpelled) (other : t.isNumber = false)
    (after : Printable ts) : Printable (t :: ts) :=
  nil.append_cons spelled other after

end Printable

mutual

/-- The tokens of a value are printed so that they are read again. -/
theorem printable_toTokens : ∀ j : Json, Printable j.toTokens
  | .null | .bool _ | .number _ | .string _ => .singleton rfl
  | .array items => .cons rfl rfl ((printable_itemTokens items).append_cons rfl rfl .nil)
  | .object members => .cons rfl rfl ((printable_memberTokens members).append_cons rfl rfl .nil)

/-- Items are kept apart by commas. -/
theorem printable_itemTokens : ∀ items : List Json, Printable (itemTokens items)
  | [] => .nil
  | [item] => printable_toTokens item
  | item :: next :: items =>
    (printable_toTokens item).append_cons rfl rfl (printable_itemTokens (next :: items))

/-- Members are kept apart by commas, and names from values by colons. -/
theorem printable_memberTokens : ∀ members : List (String × Json), Printable (memberTokens members)
  | [] => .nil
  | [(_, value)] => .cons rfl rfl (.cons rfl rfl (printable_toTokens value))
  | (_, value) :: next :: members =>
    .cons rfl rfl (.cons rfl rfl
      ((printable_toTokens value).append_cons rfl rfl (printable_memberTokens (next :: members))))

end

/-- The text of a value is cut into its tokens. -/
theorem tokens_text (j : Json) : tokens j.text.toList = j.toTokens := by
  rw [text, String.toList_ofList, tokens_flatMap_text (printable_toTokens j)]

end AssetRegistry.Json
