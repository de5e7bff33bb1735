import AssetRegistry.Json.Decoder

/-! # Embedded texts

An object whose first key is a reserved one stands for another value: the one that the text
under the key spells.  It has no other member.  Such a text may hold embedded texts of its
own. -/

namespace AssetRegistry.Json

/-- The key of an embedded text. -/
def embeddedKey : String :=
  "$serde_json::private::RawValue"

/-- The text that is embedded in an object with these members. -/
def embeddedText? : List (String × Json) → Option String
  | [(_, .string text)] => some text
  | _ => none

mutual

/-- The value where embedded texts are replaced by what they spell. -/
def withEmbedded? (read : String → Option Json) : Json → Option Json
  | .array items => (itemsWithEmbedded? read items).map .array
  | .object members =>
    -- Only the first key makes the difference.
    if members.head?.any (·.1 == embeddedKey) then (embeddedText? members).bind read
    else (membersWithEmbedded? read members).map .object
  | j => some j

/-- The items of an array where embedded texts are replaced. -/
def itemsWithEmbedded? (read : String → Option Json) : List Json → Option (List Json)
  | [] => some []
  | item :: items => do
    let item ← withEmbedded? read item
    return item :: (← itemsWithEmbedded? read items)

/-- The members of an object where embedded texts are replaced. -/
def membersWithEmbedded? (read : String → Option Json) :
    List (String × Json) → Option (List (String × Json))
  | [] => some []
  | (key, value) :: members => do
    let value ← withEmbedded? read value
    return (key, value) :: (← membersWithEmbedded? read members)

end

/-- The value of a JSON text with texts in each other at most that many levels deep. -/
def ofTextWithin? : Nat → String → Option Json
  | 0, _ => none
  | levels + 1, text => (ofPlainText? text).bind (withEmbedded? (ofTextWithin? levels))

/-- The value of a JSON text.  An embedded text is shorter than the text around it, so as
    many levels as there are characters are enough. -/
def ofText? (text : String) : Option Json :=
  ofTextWithin? (text.length + 1) text

end AssetRegistry.Json
