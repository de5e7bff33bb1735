import AssetRegistry.Text.Basic
import AssetRegistry.Text.Utf8

/-! # Escapes and queries

In a path and in a query a percent sign with two hexadecimal digits stands for a byte.
Without them it stands for itself.

A query is a list of names with values.  A name that somebody asks for may stand there
once; other names are passed over. -/

namespace AssetRegistry.Http

open Text

namespace Percent

/-- The bytes of a text with escapes. -/
def bytes : List Char → List UInt8
  | [] => []
  | '%' :: a :: b :: rest =>
    match hexValue? a, hexValue? b with
    | some high, some low => UInt8.ofNat (high * 16 + low) :: bytes rest
    | _, _ => Utf8.encode ['%'] ++ bytes (a :: b :: rest)
  | c :: rest => Utf8.encode [c] ++ bytes rest

/-- A part of a path, where its bytes are a text. -/
def decodePath? (cs : List Char) : Option String :=
  Utf8.decode? (bytes cs)

/-- A name or a value in a query, where a plus sign is a blank. -/
def decodeQuery (cs : List Char) : String :=
  Utf8.decodeLossy (bytes (cs.map fun c => if c = '+' then ' ' else c))

end Percent

namespace Query

/-- The names and values of a query.  A name without an equals sign has an empty value. -/
def pairs (query : List Char) : List (String × String) :=
  ((splitAt '&' query).filter (!·.isEmpty)).map fun part =>
    let (name, value) := splitFirst '=' part
    (Percent.decodeQuery name, Percent.decodeQuery value)

/-- The value of a name, if it is there, or a refusal where it is there twice. -/
def text (name : String) (query : List Char) : Except Unit (Option String) :=
  match (pairs query).filter (·.1 == name) with
  | [] => .ok none
  | [(_, value)] => .ok (some value)
  | _ => .error ()

/-- The value of a name that is true or false, and false where it is missing. -/
def flag (name : String) (query : List Char) : Except Unit Bool := do
  match ← text name query with
  | none | some "false" => return false
  | some "true" => return true
  | some _ => throw ()

end Query

end AssetRegistry.Http
