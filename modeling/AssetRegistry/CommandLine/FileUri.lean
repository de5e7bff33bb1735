import AssetRegistry.CommandLine.Location
import AssetRegistry.Text.Basic

/-! # File URIs

The name of a database that is to be opened may be a file URI.  Its parameters change how
the database is opened; those that nobody knows are passed over.  A NUL character ends a
text early. -/

namespace AssetRegistry.CommandLine

open Http Text

/-- The layers that there are. -/
def layers : List String :=
  ["unix", "unix-dotfile", "unix-excl", "unix-none", "memdb"]

/-- The layer whose files are kept in memory. -/
def memoryLayer : String :=
  "memdb"

/-- The greatest length of a name in the memory layer, in bytes. -/
def maxMemoryNameLength : Nat :=
  1016

namespace FileUri

/-- What a URI starts with. -/
def scheme : List Char :=
  "file:".toList

/-- The text before the first NUL character. -/
def untilNul (s : String) : String :=
  String.ofList (s.toList.takeWhile (· ≠ '\x00'))

/-- A part of a URI without its escapes. -/
def component (cs : List Char) : String :=
  Utf8.decodeLossy ((Percent.bytes cs).takeWhile (· ≠ 0))

/-- The text after the host of a URI.  The only host is this one. -/
def withoutHost? : List Char → Option (List Char)
  | '/' :: '/' :: rest =>
    let host := rest.takeWhile (· ≠ '/')
    if host.isEmpty || host = "localhost".toList then some (rest.drop host.length) else none
  | cs => some cs

/-- The parameters of a URI that have a name. -/
def parameters (query : List Char) : List (String × String) :=
  let pairs := (splitAt '&' query).map fun part =>
    let (name, value) := splitFirst '=' part
    (component name, component value)
  pairs.filter (·.1 ≠ "")

/-- The number that a text starts with, zero where it starts with none.  It may be written
    with hexadecimal digits after `0x`. -/
def leadingNumber : List Char → Nat
  | '0' :: 'x' :: rest | '0' :: 'X' :: rest =>
    (leadingHexValues rest).foldl (fun number value => 16 * number + value) 0
  | cs => digitsValue (spanDigits cs).1

/-- Whether a value says yes.  A number of 31 bits does if its last eight bits are not all
    zero. -/
def isAffirmative (value : String) : Bool :=
  if value.toList.head?.any Char.isDigit then
    let number := leadingNumber value.toList
    number < 0x80000000 && number % 0x100 ≠ 0
  else ["on", "yes", "true"].contains value.toLower

/-- The rights that a mode gives. -/
def rightsOfMode? : String → Option Rights
  | "ro" => some .read
  | "rw" => some .write
  | "rwc" => some .create
  | _ => none

end FileUri

namespace Location

open FileUri

/-- The location with a mode.  A mode gives no more rights than there are, except that a
    temporary database may become any other one. -/
def withMode? (location : Location) (mode : String) : Option Location := do
  if mode = "memory" then
    return { location with isTemporary := true, rights := .create }
  let rights ← rightsOfMode? mode
  guard (location.isTemporary || rights.rank ≤ location.rights.rank)
  return { location with isTemporary := false, rights }

/-- The location with a parameter of a file URI. -/
def withUriParameter? (location : Location) : String × String → Option Location
  | ("mode", mode) => location.withMode? mode
  | ("cache", cache) => if cache = "private" || cache = "shared" then some location else none
  | ("vfs", layer) => some { location with layer := some layer }
  | _ => some location

/-- The location with a file URI for its name, which is given without its scheme. -/
def ofFileUri? (location : Location) (cs : List Char) : Option Location := do
  let (path, query) := splitFirst '?' (splitFirst '#' (← withoutHost? cs)).1
  let given := parameters query
  -- Of these two parameters the first counts, and of the others the last.
  let isImmutable := (given.lookup "immutable").any isAffirmative
  let pattern := given.lookup "modeof"
  given.foldlM withUriParameter? { location with name := component path, isImmutable, pattern }

/-- The location with its name as it is read for opening. -/
def withPlainName? (location : Location) : Option Location :=
  -- A name with other settings beside it is quoted, so that it is never a URI of its own.
  if location.isImmutable || location.layer.isSome then
    some { location with
      name := untilNul location.name
      layer := location.layer.map untilNul }
  else if location.name.toList.contains '\x00' then none
  else if scheme.isPrefixOf location.name.toList then
    location.ofFileUri? (location.name.toList.drop scheme.length)
  else some location

/-- The location as it is opened, if its layer is one that there is and takes the name. -/
def opened? (location : Location) : Option Location := do
  let location ← location.withPlainName?
  guard (location.layer.all layers.contains)
  let isLong := maxMemoryNameLength < location.name.utf8ByteSize
  guard !(location.namesFile && location.layer = some memoryLayer && isLong)
  return location

/-- Whether the database outlasts the program. -/
def isKept (location : Location) : Bool :=
  location.namesFile && location.layer ≠ some memoryLayer

end Location

end AssetRegistry.CommandLine
