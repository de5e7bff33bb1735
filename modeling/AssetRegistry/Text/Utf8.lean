/-! # Reading UTF-8

`units` reads bytes as UTF-8 and never fails.  Where bytes belong to no character there
is a fault in its result: one for each longest run of bytes that starts a character
but does not complete it, and one for each byte that starts none. -/

namespace AssetRegistry.Text.Utf8

/-- The bytes of a text. -/
def encode (cs : List Char) : List UInt8 :=
  cs.flatMap String.utf8EncodeChar

/-- How many bytes follow a first byte, the bounds of the next one, and the bits of the
    character that the first byte holds. -/
def lead? (byte : Nat) : Option (Nat × Nat × Nat × Nat) :=
  if byte ≤ 0x7F then some (0, 0x80, 0xBF, byte)
  else if 0xC2 ≤ byte ∧ byte ≤ 0xDF then some (1, 0x80, 0xBF, byte - 0xC0)
  else if byte = 0xE0 then some (2, 0xA0, 0xBF, 0)
  else if byte = 0xED then some (2, 0x80, 0x9F, 0xD)
  else if 0xE1 ≤ byte ∧ byte ≤ 0xEF then some (2, 0x80, 0xBF, byte - 0xE0)
  else if byte = 0xF0 then some (3, 0x90, 0xBF, 0)
  else if 0xF1 ≤ byte ∧ byte ≤ 0xF3 then some (3, 0x80, 0xBF, byte - 0xF0)
  else if byte = 0xF4 then some (3, 0x80, 0x8F, 4)
  else none

/-- Passes following bytes, the first of them between two bounds.  The result is the
    bits so far, unless a byte is missing, and the bytes that are left. -/
def follow : (count least greatest bits : Nat) → List UInt8 → Option Nat × List UInt8
  | 0, _, _, bits, bytes => (some bits, bytes)
  | _ + 1, _, _, _, [] => (none, [])
  | count + 1, least, greatest, bits, byte :: bytes =>
    if least ≤ byte.toNat ∧ byte.toNat ≤ greatest then
      follow count 0x80 0xBF (bits * 0x40 + (byte.toNat - 0x80)) bytes
    else (none, byte :: bytes)

/-- Bytes that follow are taken from those that are left. -/
theorem length_follow_le (count least greatest bits : Nat) (bytes : List UInt8) :
    (follow count least greatest bits bytes).2.length ≤ bytes.length := by
  fun_induction follow count least greatest bits bytes with
  | case1 => simp
  | case2 => simp
  | case3 _ _ _ _ _ _ _ ih => simp; omega
  | case4 => simp

/-- The characters that bytes spell, with `none` for every fault. -/
def units : List UInt8 → List (Option Char)
  | [] => []
  | byte :: bytes =>
    match lead? byte.toNat with
    | none => none :: units bytes
    | some (count, least, greatest, bits) =>
      have _shrinks := length_follow_le count least greatest bits bytes
      let followed := follow count least greatest bits bytes
      followed.1.map Char.ofNat :: units followed.2
termination_by bytes => bytes.length
decreasing_by
  · simp
  · simp only [List.length_cons]
    omega

/-- The text that bytes spell without a fault. -/
def decode? (bytes : List UInt8) : Option String :=
  ((units bytes).mapM id).map String.ofList

/-- The text that bytes spell, with a replacement character for every fault. -/
def decodeLossy (bytes : List UInt8) : String :=
  String.ofList ((units bytes).map (·.getD '\uFFFD'))

end AssetRegistry.Text.Utf8
