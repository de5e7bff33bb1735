import AssetRegistry.Http.Query

/-! # Where a database is

A database is in a file, or it is a temporary one that ends with the program.  Its
place is written as a URL: a name, and parameters after a question mark. -/

namespace AssetRegistry.CommandLine

open Http Text

/-- What may be done with a database.  `create` is to write it, and to make it where it is
    missing. -/
inductive Rights where
  | read
  | write
  | create
  deriving DecidableEq, Repr

/-- The place of rights in their order. -/
def Rights.rank : Rights → Nat
  | .read => 0
  | .write => 1
  | .create => 2

/-- Where a database is, and how it is opened.  The file of an immutable database is only
    read.  A layer is what stands between the database and the files, where the usual one
    is not wanted.  The access rights of a new file may be those of a pattern. -/
structure Location where
  name : String
  isTemporary : Bool := false
  rights : Rights := .create
  isImmutable : Bool := false
  layer : Option String := none
  pattern : Option String := none
  deriving DecidableEq, Repr

/-- The name that stands for a temporary database. -/
def memoryName : String :=
  ":memory:"

/-- The text without a start that stands there any number of times. -/
def dropRepeated (start : List Char) (cs : List Char) : List Char :=
  if _ : start ≠ [] ∧ start.isPrefixOf cs ∧ cs ≠ [] then dropRepeated start (cs.drop start.length)
  else cs
termination_by cs.length
decreasing_by
  have nonempty : 0 < start.length := List.length_pos_iff.mpr (by simp_all)
  have : 0 < cs.length := List.length_pos_iff.mpr (by simp_all)
  simp
  omega

/-- Whether a text stands anywhere in another one. -/
def standsIn (part : List Char) : List Char → Bool
  | [] => part.isEmpty
  | c :: cs => part.isPrefixOf (c :: cs) || standsIn part cs

namespace Location

/-- The location with a parameter of its URL, which has to be a known one with a value that
    it takes. -/
def withParameter? (location : Location) : String × String → Option Location
  | ("mode", "ro") => some { location with rights := .read }
  | ("mode", "rw") | ("mode", "rwc") => some location
  | ("mode", "memory") => some { location with isTemporary := true }
  | ("cache", "private") | ("cache", "shared") => some location
  | ("immutable", "true") | ("immutable", "1") => some { location with isImmutable := true }
  | ("immutable", "false") | ("immutable", "0") => some { location with isImmutable := false }
  | ("vfs", layer) => some { location with layer := some layer }
  | _ => none

/-- The location that the part of a URL before its parameters names. -/
def ofName? (cs : List Char) : Option Location :=
  if cs = memoryName.toList then some { name := memoryName, isTemporary := true }
  else (Percent.decodePath? cs).map fun name => { name }

/-- The location that a URL names. -/
def ofUrl? (url : String) : Option Location := do
  let reference := dropRepeated "sqlite:".toList (dropRepeated "sqlite://".toList url.toList)
  let (name, query) := splitFirst '?' reference
  (Query.pairs query).foldlM withParameter? (← ofName? name)

/-- Whether there is a file to open. -/
def namesFile (location : Location) : Bool :=
  !location.isTemporary && location.name ≠ "" && location.name ≠ memoryName

/-- Whether nothing can be written. -/
def isReadOnly (location : Location) : Bool :=
  location.rights = .read || (location.namesFile && location.isImmutable)

end Location

end AssetRegistry.CommandLine
