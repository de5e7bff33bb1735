import AssetRegistry.Text.Basic

/-! # Media types

A media type is a type and a subtype, then parameters.  A subtype may end in a suffix
after a plus sign, which tells its syntax. -/

namespace AssetRegistry.Http.MediaType

open Text

/-- A character of which the names in media types are made. -/
def isTokenChar (c : Char) : Bool :=
  c.isAlphanum || "!#$%&'*+-.^_\x60|~".toList.contains c

/-- A character that may stand in a quoted value. -/
def isQuotable (c : Char) : Bool :=
  ' ' ≤ c && c ≤ '~'

/-! ### Parameters -/

/-- A place in a list of parameters. -/
inductive Place where
  | beforeName
  | name
  | beforeValue
  | value
  | beforeQuoted
  | quoted
  | afterQuoted
  | nowhere
  deriving DecidableEq, Repr

/-- The place after one more character.  Blanks may precede a name and follow a quoted
    value, and a quoted value has a character at least, whichever it is. -/
def Place.next : Place → Char → Place
  | .beforeName, c => if c = ' ' then .beforeName else if isTokenChar c then .name else .nowhere
  | .name, c => if c = '=' then .beforeValue else if isTokenChar c then .name else .nowhere
  | .beforeValue, c => if c = '"' then .beforeQuoted else if isTokenChar c then .value else .nowhere
  | .value, c => if c = ';' then .beforeName else if isTokenChar c then .value else .nowhere
  | .beforeQuoted, c => if isQuotable c then .quoted else .nowhere
  | .quoted, c => if c = '"' then .afterQuoted else if isQuotable c then .quoted else .nowhere
  | .afterQuoted, c => if c = ';' then .beforeName else if c = ' ' then .afterQuoted else .nowhere
  | .nowhere, _ => .nowhere

/-- Whether a list of parameters may end at a place. -/
def Place.isEnd : Place → Bool
  | .beforeName | .beforeValue | .value | .afterQuoted => true
  | .name | .beforeQuoted | .quoted | .nowhere => false

/-- Whether a text is a list of parameters. -/
def areParameters (cs : List Char) : Bool :=
  (cs.foldl Place.next .beforeName).isEnd

/-! ### The type itself -/

/-- A subtype without its suffix, and the suffix: what follows the last plus sign, where
    that is not the first character. -/
def splitSuffix : List Char → List Char × Option (List Char)
  | [] => ([], none)
  | first :: rest =>
    -- Reversed, the last plus sign is the first one.
    let (suffix, before) := splitFirst '+' rest.reverse
    if rest.contains '+' then (first :: before.reverse, some suffix.reverse)
    else (first :: rest, none)

/-- Whether a subtype has the syntax of JSON. -/
def isJsonSubtype (subtype : List Char) : Bool :=
  let (name, suffix) := splitSuffix subtype
  subtype.all isTokenChar && (name == "json".toList || suffix == some "json".toList)

/-- Whether a text is a media type for JSON. -/
def isJson (text : String) : Bool :=
  let (essence, parameters) := splitFirst ';' text.toLower.toList
  let (type, subtype) := splitFirst '/' essence
  type == "application".toList && isJsonSubtype subtype && areParameters parameters

end AssetRegistry.Http.MediaType
