import AssetRegistry.Json.Decoder

/-! # Codecs

A `Codec` says how the values of a type are written as JSON and how they are
read back from the tokens of a text.  Compound codecs are made from the codecs
of their parts; records follow in `AssetRegistry.Json.Record`. -/

namespace AssetRegistry

/-- How the values of a type are written and read.  `absent` is the value, if
    any, that a missing member of an object stands for. -/
structure Json.Codec (α : Type) where
  decode : Json.Decoder α
  encode : α → Json
  absent : Option α := none

namespace Json.Codec

/-- The text of a value. -/
def text (codec : Codec α) (a : α) : String :=
  (codec.encode a).text

/-- The value that a text is. -/
def ofText (codec : Codec α) (text : String) : Except Fault α :=
  decodeWhole codec.decode text

/-- The value that a JSON value is. -/
def ofJson (codec : Codec α) (j : Json) : Except Fault α := do
  let (value, _) ← codec.decode maxDepth j.toTokens
  return value

/-- Texts are strings. -/
def string : Codec String where
  decode
    | _, .string s :: ts => .ok (s, ts)
    | _, ts => .error (unexpected ts)
  encode := Json.string

/-- Truth values. -/
def bool : Codec Bool where
  decode
    | _, .bool b :: ts => .ok (b, ts)
    | _, ts => .error (unexpected ts)
  encode := Json.bool

/-- Integers in a range, written without fraction and exponent. -/
def integer (least greatest : Int) : Codec Int where
  decode
    | _, .number n :: ts =>
      match n with
      | .integer value =>
        if least ≤ value ∧ value ≤ greatest then .ok (value, ts)
        else .error (unexpected (.number n :: ts))
      | .real .. => .error (unexpected (.number n :: ts))
    | _, ts => .error (unexpected ts)
  encode value := .number (.integer value)

/-- Signed integers of 64 bits. -/
def int64 : Codec Int :=
  integer (-0x8000000000000000) 0x7fffffffffffffff

/-- The same type or another one with the same values. -/
def map (codec : Codec α) (forward : α → β) (back : β → α) : Codec β where
  decode room ts := do
    let (a, ts) ← codec.decode room ts
    return (forward a, ts)
  encode b := codec.encode (back b)
  absent := codec.absent.map forward

/-- Counts: unsigned integers of 64 bits. -/
def count : Codec Nat :=
  (integer 0 0xffffffffffffffff).map Int.toNat Int.ofNat

/-- Texts of a certain form. -/
def spelled (read : String → Option α) (spell : α → String) : Codec α where
  decode
    | _, .string s :: ts =>
      match read s with
      | some a => .ok (a, ts)
      | none => .error .mismatched
    | _, ts => .error (unexpected ts)
  encode a := .string (spell a)

/-- One of several names.  A name may also be the one key of an object, with the
    value `null`.  To such a reader a value that is neither a string nor an object is no
    JSON at all, and an object starts with a key. -/
def choice (read : String → Option α) (spell : α → String) : Codec α where
  decode
    | _, .string s :: ts =>
      match read s with
      | some a => .ok (a, ts)
      | none => .error .mismatched
    | room, .braceOpen :: .string s :: ts => do
      let _ ← enter room
      match read s with
      | none => .error .mismatched
      | some a =>
        match ← expect .colon ts with
        | .null :: ts => return (a, ← expect .braceClose ts)
        | ts => .error (unexpected ts)
    | _, _ => .error .malformed
  encode a := .string (spell a)

/-- A value or `null`, where a missing member is `null` too. -/
def option (codec : Codec α) : Codec (Option α) where
  decode
    | _, .null :: ts => .ok (none, ts)
    | room, ts => do
      let (a, ts) ← codec.decode room ts
      return (some a, ts)
  encode
    | none => .null
    | some a => codec.encode a
  absent := some none

/-- Arrays. -/
def list (codec : Codec α) : Codec (List α) where
  decode := Decoder.list codec.decode
  encode as := .array (as.map codec.encode)

end Json.Codec

end AssetRegistry
