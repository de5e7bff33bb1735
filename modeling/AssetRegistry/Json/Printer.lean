import AssetRegistry.Json.Token

/-! # Writing JSON

A value is written without blanks between its tokens, an object in the order of
its members. -/

namespace AssetRegistry.Json

mutual

/-- The tokens of a value. -/
def toTokens : Json → List Token
  | .null => [.null]
  | .bool b => [.bool b]
  | .number n => [.number n]
  | .string s => [.string s]
  | .array items => .bracketOpen :: (itemTokens items ++ [.bracketClose])
  | .object members => .braceOpen :: (memberTokens members ++ [.braceClose])

/-- The tokens of the items of an array, with commas between them. -/
def itemTokens : List Json → List Token
  | [] => []
  | [item] => item.toTokens
  | item :: items => item.toTokens ++ .comma :: itemTokens items

/-- The tokens of the members of an object, with commas between them. -/
def memberTokens : List (String × Json) → List Token
  | [] => []
  | [(key, value)] => .string key :: .colon :: value.toTokens
  | (key, value) :: members =>
    .string key :: .colon :: (value.toTokens ++ .comma :: memberTokens members)

end

/-- The text of a value. -/
def text (j : Json) : String :=
  String.ofList (j.toTokens.flatMap Token.text)

end AssetRegistry.Json
