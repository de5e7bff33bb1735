import AssetRegistry.Text.Utf8
import AssetRegistry.Proofs.Utf8Order

/-!
# Bytes that are a text

Bytes are read as UTF-8 without a fault where they are the bytes of a text, and then they
are read as this text (`Utf8.decode?_eq_some`).  In between stands the grammar of the bytes
of one character, `Spells`: the reader takes off exactly what it derives, and it derives
exactly what characters are written as.
-/

namespace AssetRegistry.Text.Utf8

/-! ### The bytes of a character -/

/-- A byte with six bits of a character. -/
def IsTail (b : UInt8) : Prop :=
  0x80 ≤ b.toNat ∧ b.toNat ≤ 0xBF

/-- Bytes spell the character with a number.  The bounds of second bytes leave out what has
    a shorter spelling, the surrogates and what is beyond the last character. -/
inductive Spells : List UInt8 → Nat → Prop where
  | one {a : UInt8} (first : a.toNat ≤ 0x7F) : Spells [a] a.toNat
  | two {a b : UInt8} (first : 0xC2 ≤ a.toNat ∧ a.toNat ≤ 0xDF) (second : IsTail b) :
      Spells [a, b] ((a.toNat - 0xC0) * 0x40 + (b.toNat - 0x80))
  | three {a b c : UInt8} (first : 0xE0 ≤ a.toNat ∧ a.toNat ≤ 0xEF) (second : IsTail b)
      (shorter : a.toNat = 0xE0 → 0xA0 ≤ b.toNat) (surrogate : a.toNat = 0xED → b.toNat ≤ 0x9F)
      (third : IsTail c) :
      Spells [a, b, c] (((a.toNat - 0xE0) * 0x40 + (b.toNat - 0x80)) * 0x40 + (c.toNat - 0x80))
  | four {a b c d : UInt8} (first : 0xF0 ≤ a.toNat ∧ a.toNat ≤ 0xF4) (second : IsTail b)
      (shorter : a.toNat = 0xF0 → 0x90 ≤ b.toNat) (beyond : a.toNat = 0xF4 → b.toNat ≤ 0x8F)
      (third : IsTail c) (fourth : IsTail d) :
      Spells [a, b, c, d]
        ((((a.toNat - 0xF0) * 0x40 + (b.toNat - 0x80)) * 0x40 + (c.toNat - 0x80)) * 0x40 +
          (d.toNat - 0x80))

/-! ### Characters are written as their spellings -/

/-- A number in the range of characters is that of its character. -/
theorem toNat_ofNat_of_isValidChar {v : Nat} (valid : v.isValidChar) :
    (Char.ofNat v).val.toNat = v := by
  rw [Char.ofNat, dif_pos valid]
  rfl

/-- A byte is known by its number. -/
theorem ofNat_eq_of_toNat {n : Nat} {b : UInt8} (same : n = b.toNat) : UInt8.ofNat n = b := by
  rw [same, UInt8.ofNat_toNat]

/-- Only characters are spelled. -/
theorem Spells.isValidChar {bytes : List UInt8} {v : Nat} (spells : Spells bytes v) :
    v.isValidChar := by
  cases spells <;> simp only [IsTail, Nat.isValidChar] at * <;> omega

/-- Small numbers have a byte of their own, and the bytes of all others are large. -/
theorem Spells.large {bytes : List UInt8} {v : Nat} (spells : Spells bytes v) (large : 0x7F < v) :
    ∀ b ∈ bytes, 0x7F < b.toNat := by
  cases spells <;>
    simp only [IsTail, List.forall_mem_cons, List.not_mem_nil, IsEmpty.forall_iff, implies_true,
      and_true] at * <;>
    omega

/-- What spells a character is what it is written as. -/
theorem Spells.utf8EncodeChar_eq {bytes : List UInt8} {v : Nat} (spells : Spells bytes v) :
    String.utf8EncodeChar (Char.ofNat v) = bytes := by
  have number := toNat_ofNat_of_isValidChar spells.isValidChar
  unfold String.utf8EncodeChar
  rw [number]
  generalize same : v = n
  cases spells <;> simp only [IsTail] at *
  case one a first => rw [← same, if_pos first, UInt8.ofNat_toNat]
  case two a b first second =>
    have inA : n / 64 % 32 + 192 = a.toNat := by omega
    have inB : n % 64 + 128 = b.toNat := by omega
    rw [if_neg (by omega), if_pos (by omega), ofNat_eq_of_toNat inA, ofNat_eq_of_toNat inB]
  case three a b c first second shorter surrogate third =>
    have inA : n / 4096 % 16 + 224 = a.toNat := by omega
    have inB : n / 64 % 64 + 128 = b.toNat := by omega
    have inC : n % 64 + 128 = c.toNat := by omega
    rw [if_neg (by omega), if_neg (by omega), if_pos (by omega), ofNat_eq_of_toNat inA,
      ofNat_eq_of_toNat inB, ofNat_eq_of_toNat inC]
  case four a b c d first second shorter beyond third fourth =>
    have inA : n / 262144 % 8 + 240 = a.toNat := by omega
    have inB : n / 4096 % 64 + 128 = b.toNat := by omega
    have inC : n / 64 % 64 + 128 = c.toNat := by omega
    have inD : n % 64 + 128 = d.toNat := by omega
    rw [if_neg (by omega), if_neg (by omega), if_neg (by omega), ofNat_eq_of_toNat inA,
      ofNat_eq_of_toNat inB, ofNat_eq_of_toNat inC, ofNat_eq_of_toNat inD]

/-- What a character is written as spells it. -/
theorem spells_utf8EncodeChar (c : Char) : Spells (String.utf8EncodeChar c) c.val.toNat := by
  have valid : c.val.toNat.isValidChar := c.valid
  simp only [Nat.isValidChar] at valid
  unfold String.utf8EncodeChar
  generalize c.val.toNat = v at *
  have tail (n : Nat) : (UInt8.ofNat (n % 64 + 128)).toNat = n % 64 + 128 :=
    toNat_ofNat_mod_add (by decide) (by decide)
  have isTail (n : Nat) : IsTail (UInt8.ofNat (n % 64 + 128)) := by
    rw [IsTail, tail]
    omega
  dsimp only
  -- The lengths, with the bits that each byte holds.
  split_ifs with one two three
  · have inA := toNat_ofNat_of_le one
    have spells := Spells.one (a := UInt8.ofNat v) (by omega)
    rwa [inA] at spells
  · have inA : (UInt8.ofNat (v / 64 % 32 + 192)).toNat = v / 64 % 32 + 192 :=
      toNat_ofNat_mod_add (by decide) (by decide)
    have spells := Spells.two (a := UInt8.ofNat (v / 64 % 32 + 192)) (by omega) (isTail v)
    have value : (v / 64 % 32 + 192 - 0xC0) * 0x40 + (v % 64 + 128 - 0x80) = v := by omega
    rwa [inA, tail, value] at spells
  · have inA : (UInt8.ofNat (v / 4096 % 16 + 224)).toNat = v / 4096 % 16 + 224 :=
      toNat_ofNat_mod_add (by decide) (by decide)
    have inB := tail (v / 64)
    have spells := Spells.three (a := UInt8.ofNat (v / 4096 % 16 + 224)) (by omega)
      (isTail (v / 64)) (by omega) (by omega) (isTail v)
    have value : ((v / 4096 % 16 + 224 - 0xE0) * 0x40 + (v / 64 % 64 + 128 - 0x80)) * 0x40 +
        (v % 64 + 128 - 0x80) = v := by
      omega
    rwa [inA, tail, tail, value] at spells
  · have inA : (UInt8.ofNat (v / 262144 % 8 + 240)).toNat = v / 262144 % 8 + 240 :=
      toNat_ofNat_mod_add (by decide) (by decide)
    have inB := tail (v / 4096)
    have spells := Spells.four (a := UInt8.ofNat (v / 262144 % 8 + 240)) (by omega)
      (isTail (v / 4096)) (by omega) (by omega) (isTail (v / 64)) (isTail v)
    have value : (((v / 262144 % 8 + 240 - 0xF0) * 0x40 + (v / 4096 % 64 + 128 - 0x80)) * 0x40 +
        (v / 64 % 64 + 128 - 0x80)) * 0x40 + (v % 64 + 128 - 0x80) = v := by
      omega
    rwa [inA, tail, tail, tail, value] at spells

/-! ### Spellings are what is read -/

/-- No byte more follows. -/
theorem follow_zero {least greatest bits v : Nat} {bytes rest : List UInt8} :
    follow 0 least greatest bits bytes = (some v, rest) ↔ bits = v ∧ bytes = rest := by
  simp [follow]

/-- One byte more follows, and its lowest six bits are those of the character. -/
theorem follow_succ {count least greatest bits v : Nat} {bytes rest : List UInt8} :
    follow (count + 1) least greatest bits bytes = (some v, rest) ↔
      ∃ b bs, bytes = b :: bs ∧ (least ≤ b.toNat ∧ b.toNat ≤ greatest) ∧
        follow count 0x80 0xBF (bits * 0x40 + (b.toNat - 0x80)) bs = (some v, rest) := by
  cases bytes with
  | nil => simp [follow]
  | cons b bs =>
    rw [follow]
    by_cases within : least ≤ b.toNat ∧ b.toNat ≤ greatest
    · rw [if_pos within]
      constructor
      · intro followed
        exact ⟨b, bs, rfl, within, followed⟩
      · rintro ⟨_, _, same, _, followed⟩
        cases same
        exact followed
    · rw [if_neg within]
      constructor
      · intro followed
        simp at followed
      · rintro ⟨_, _, same, bounds, _⟩
        cases same
        exact absurd bounds within

/-- The first bytes, by how many bytes follow on them. -/
theorem lead?_eq_some {b count least greatest bits : Nat} :
    lead? b = some (count, least, greatest, bits) ↔
      b ≤ 0x7F ∧ count = 0 ∧ least = 0x80 ∧ greatest = 0xBF ∧ bits = b ∨
      (0xC2 ≤ b ∧ b ≤ 0xDF) ∧ count = 1 ∧ least = 0x80 ∧ greatest = 0xBF ∧ bits = b - 0xC0 ∨
      (0xE0 ≤ b ∧ b ≤ 0xEF) ∧ count = 2 ∧ least = (if b = 0xE0 then 0xA0 else 0x80) ∧
        greatest = (if b = 0xED then 0x9F else 0xBF) ∧ bits = b - 0xE0 ∨
      (0xF0 ≤ b ∧ b ≤ 0xF4) ∧ count = 3 ∧ least = (if b = 0xF0 then 0x90 else 0x80) ∧
        greatest = (if b = 0xF4 then 0x8F else 0xBF) ∧ bits = b - 0xF0 := by
  unfold lead?
  split_ifs <;> simp only [Option.some.injEq, Prod.mk.injEq, false_iff] <;> omega

/-- Bounds of a second byte are those of every following byte, and closer after one first
    byte at either end. -/
theorem bounds_iff {a b first last least greatest : Nat} (above : 0x80 ≤ least)
    (below : greatest ≤ 0xBF) :
    (if a = first then least else 0x80) ≤ b ∧ (b ≤ if a = last then greatest else 0xBF) ↔
      (0x80 ≤ b ∧ b ≤ 0xBF) ∧ (a = first → least ≤ b) ∧ (a = last → b ≤ greatest) := by
  split_ifs <;> omega

/-- What is read off the front of bytes is a spelling. -/
theorem spells_of_follow {byte : UInt8} {count least greatest bits v : Nat}
    {bytes rest : List UInt8} (lead : lead? byte.toNat = some (count, least, greatest, bits))
    (followed : follow count least greatest bits bytes = (some v, rest)) :
    ∃ spelling, Spells spelling v ∧ byte :: bytes = spelling ++ rest := by
  -- The first byte tells how many more to take off.
  rcases lead?_eq_some.1 lead with ⟨first, count_eq, -, -, bits_eq⟩ |
    ⟨first, count_eq, least_eq, greatest_eq, bits_eq⟩ |
    ⟨first, count_eq, least_eq, greatest_eq, bits_eq⟩ |
    ⟨first, count_eq, least_eq, greatest_eq, bits_eq⟩
  · rw [count_eq, bits_eq] at followed
    obtain ⟨number, same⟩ := follow_zero.1 followed
    rw [← number, same]
    exact ⟨[byte], .one first, rfl⟩
  · rw [count_eq, least_eq, greatest_eq, bits_eq] at followed
    obtain ⟨b, bs, split, second, followed⟩ := follow_succ.1 followed
    obtain ⟨number, same⟩ := follow_zero.1 followed
    rw [← number, split, same]
    exact ⟨[byte, b], .two first second, rfl⟩
  · rw [count_eq, least_eq, greatest_eq, bits_eq] at followed
    obtain ⟨b, bs, split, second, followed⟩ := follow_succ.1 followed
    obtain ⟨c, cs, split', third, followed⟩ := follow_succ.1 followed
    obtain ⟨number, same⟩ := follow_zero.1 followed
    obtain ⟨second, shorter, surrogate⟩ := (bounds_iff (by decide) (by decide)).1 second
    rw [← number, split, split', same]
    exact ⟨[byte, b, c], .three first second shorter surrogate third, rfl⟩
  · rw [count_eq, least_eq, greatest_eq, bits_eq] at followed
    obtain ⟨b, bs, split, second, followed⟩ := follow_succ.1 followed
    obtain ⟨c, cs, split', third, followed⟩ := follow_succ.1 followed
    obtain ⟨d, ds, split'', fourth, followed⟩ := follow_succ.1 followed
    obtain ⟨number, same⟩ := follow_zero.1 followed
    obtain ⟨second, shorter, beyond⟩ := (bounds_iff (by decide) (by decide)).1 second
    rw [← number, split, split', split'', same]
    exact ⟨[byte, b, c, d], .four first second shorter beyond third fourth, rfl⟩

/-- A spelling has a first byte, and the others are those that follow on it. -/
theorem Spells.exists_follow {spelling : List UInt8} {v : Nat} (spells : Spells spelling v)
    (rest : List UInt8) :
    ∃ byte bytes count least greatest bits, spelling ++ rest = byte :: bytes ∧
      lead? byte.toNat = some (count, least, greatest, bits) ∧
      follow count least greatest bits bytes = (some v, rest) := by
  cases spells with
  | @one a first =>
    refine ⟨a, rest, 0, _, _, _, rfl, lead?_eq_some.2 (.inl ⟨first, rfl, rfl, rfl, rfl⟩), ?_⟩
    exact follow_zero.2 ⟨rfl, rfl⟩
  | @two a b first second =>
    refine ⟨a, b :: rest, 1, _, _, _, rfl,
      lead?_eq_some.2 (.inr (.inl ⟨first, rfl, rfl, rfl, rfl⟩)), ?_⟩
    refine follow_succ.2 ⟨b, rest, rfl, second, ?_⟩
    exact follow_zero.2 ⟨rfl, rfl⟩
  | @three a b c first second shorter surrogate third =>
    refine ⟨a, b :: c :: rest, 2, _, _, _, rfl,
      lead?_eq_some.2 (.inr (.inr (.inl ⟨first, rfl, rfl, rfl, rfl⟩))), ?_⟩
    have bounds := (bounds_iff (by decide) (by decide)).2 ⟨second, shorter, surrogate⟩
    refine follow_succ.2 ⟨b, c :: rest, rfl, bounds, ?_⟩
    refine follow_succ.2 ⟨c, rest, rfl, third, ?_⟩
    exact follow_zero.2 ⟨rfl, rfl⟩
  | @four a b c d first second shorter beyond third fourth =>
    refine ⟨a, b :: c :: d :: rest, 3, _, _, _, rfl,
      lead?_eq_some.2 (.inr (.inr (.inr ⟨first, rfl, rfl, rfl, rfl⟩))), ?_⟩
    have bounds := (bounds_iff (by decide) (by decide)).2 ⟨second, shorter, beyond⟩
    refine follow_succ.2 ⟨b, c :: d :: rest, rfl, bounds, ?_⟩
    refine follow_succ.2 ⟨c, d :: rest, rfl, third, ?_⟩
    refine follow_succ.2 ⟨d, rest, rfl, fourth, ?_⟩
    exact follow_zero.2 ⟨rfl, rfl⟩

/-- A character is read from its bytes, whatever comes after them. -/
theorem units_utf8EncodeChar_append (c : Char) (rest : List UInt8) :
    units (String.utf8EncodeChar c ++ rest) = some c :: units rest := by
  obtain ⟨byte, bytes, count, least, greatest, bits, front, lead, followed⟩ :=
    (spells_utf8EncodeChar c).exists_follow rest
  have number : Char.ofNat c.val.toNat = c := Char.ofNat_toNat c
  rw [front, units, lead]
  simp only [followed, Option.map_some, number]

/-! ### Texts -/

/-- The bytes of a text are read as its characters. -/
theorem units_encode (cs : List Char) : units (encode cs) = cs.map some := by
  induction cs with
  | nil => rw [encode, List.flatMap_nil, units, List.map_nil]
  | cons c cs ih =>
    rw [encode, List.flatMap_cons, units_utf8EncodeChar_append, List.map_cons]
    exact congrArg _ ih

/-- Bytes that are read without a fault are those of the characters that they are read as. -/
theorem eq_encode_of_units {bytes : List UInt8} {cs : List Char}
    (read : units bytes = cs.map some) : bytes = encode cs := by
  fun_induction units bytes generalizing cs
  case case1 =>
    have empty : cs = [] := List.map_eq_nil_iff.1 read.symm
    rw [empty]
    rfl
  case case2 =>
    -- A byte that starts no character is a fault.
    obtain ⟨c, cs, rfl, fault, -⟩ := List.map_eq_cons_iff.1 read.symm
    exact nomatch fault
  case case3 byte bytes count least greatest bits lead _ followed ih =>
    obtain ⟨c, cs, rfl, first, others⟩ := List.map_eq_cons_iff.1 read.symm
    -- The first unit is a character, and what was read as it is a spelling of it.
    obtain ⟨v, found, number⟩ := Option.map_eq_some_iff.1 first.symm
    have pair : follow count least greatest bits bytes = (some v, followed.2) :=
      Prod.ext found rfl
    obtain ⟨spelling, spells, front⟩ := spells_of_follow lead pair
    rw [front, ← spells.utf8EncodeChar_eq, number, ih others.symm]
    rfl

/-- Items are all there where they are those of a list. -/
theorem mapM_id_eq_some {items : List (Option α)} {found : List α} :
    items.mapM id = some found ↔ items = found.map some := by
  induction items generalizing found with
  | nil =>
    cases found <;> simp
  | cons item items ih =>
    rw [List.mapM_cons]
    cases item with
    | none => cases found <;> simp
    | some a =>
      simp only [id, Option.bind_eq_bind, Option.bind_some, Option.bind_eq_some_iff, ih]
      cases found with
      | nil => simp
      | cons b bs =>
        constructor
        · rintro ⟨_, same, found⟩
          cases found
          rw [same, List.map_cons]
        · intro same
          obtain ⟨first, others⟩ := List.cons.inj same
          cases first
          exact ⟨bs, others, rfl⟩

/-- Bytes are read without a fault as a text where they are its bytes. -/
theorem decode?_eq_some {bytes : List UInt8} {text : String} :
    decode? bytes = some text ↔ bytes = encode text.toList := by
  rw [decode?, Option.map_eq_some_iff]
  -- Reading undoes writing, and what was read was written so.
  constructor
  · rintro ⟨cs, read, rfl⟩
    rw [String.toList_ofList]
    exact eq_encode_of_units (mapM_id_eq_some.1 read)
  · rintro rfl
    exact ⟨text.toList, mapM_id_eq_some.2 (units_encode _), String.ofList_toList⟩

/-- Where nothing is faulty nothing is replaced. -/
theorem decodeLossy_encode (text : String) : decodeLossy (encode text.toList) = text := by
  rw [decodeLossy, units_encode, List.map_map]
  simp [Function.comp_def]

end AssetRegistry.Text.Utf8
