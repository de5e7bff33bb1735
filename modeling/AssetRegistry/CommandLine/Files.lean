import AssetRegistry.CommandLine.Location
import AssetRegistry.Registry

/-! # Database files

Databases are files in directories.  A file that is opened for the first time is a
database that is not set up. -/

namespace AssetRegistry.CommandLine

open Text

/-- A path: the names on the way from the root. -/
abbrev Path : Type :=
  List String

/-- The length of a path in bytes, with a slash before every name. -/
def Path.textLength (path : Path) : Nat :=
  path.foldl (fun length name => length + 1 + name.utf8ByteSize) 0

/-- The directories in which files can be made, the database files in them, and what else is
    there, where there are no databases. -/
structure Files where
  workingDirectory : Path
  directories : List Path
  databases : List (Path × Registry)
  others : List Path := []

/-- The greatest length of a name, in bytes. -/
def maxNameLength : Nat :=
  255

/-- What a path is shorter than, in bytes. -/
def pathLengthLimit : Nat :=
  512

/-- What the name of a file is followed by in the name of the journal beside it. -/
def journalEnding : String :=
  "-journal"

namespace Files

/-- The database in the file at a path. -/
def database? (files : Files) (path : Path) : Option Registry :=
  (files.databases.find? (·.1 == path)).map (·.2)

/-- Whether there is something at a path that is no directory. -/
def isOccupied (files : Files) (path : Path) : Bool :=
  (files.database? path).isSome || files.others.contains path

/-- The path one name further. -/
def step? (files : Files) (path : Path) (name : String) : Option Path :=
  if name = "" || name = "." then some path
  else if name = ".." then some path.dropLast
  else
    let next := path ++ [name]
    if name.utf8ByteSize ≤ maxNameLength && next.textLength < pathLengthLimit
        && !files.isOccupied path
    then some next
    else none

/-- Where a text with slashes starts, and the names in it. -/
def names (files : Files) (text : String) : Path × List String :=
  (if text.startsWith "/" then [] else files.workingDirectory,
    (splitAt '/' text.toList).map String.ofList)

/-- The path that a text with slashes stands for.  Whether the directories on the way are
    there makes no difference to it.  There has to be room for the path of a journal. -/
def resolve? (files : Files) (text : String) : Option Path := do
  let (start, names) := files.names text
  let path ← names.foldlM files.step? start
  guard (path.textLength + journalEnding.utf8ByteSize ≤ pathLengthLimit)
  return path

/-- The path one name further, where something is there. -/
def enter? (files : Files) (path : Path) (name : String) : Option Path := do
  guard (files.directories.contains path)
  if name = "" || name = "." then
    return path
  if name = ".." then
    return path.dropLast
  let next := path ++ [name]
  guard (files.directories.contains next || files.isOccupied next)
  return next

/-- Whether a text with slashes leads to something through directories that are there. -/
def isThere (files : Files) (text : String) : Bool :=
  let (start, names) := files.names text
  text ≠ "" && (names.foldlM files.enter? start).isSome

/-- The database in the file at a path.  With the rights for it a missing file is made. -/
def open? (files : Files) (rights : Rights) (path : Path) : Option Registry :=
  match files.database? path with
  | some r => some r.reopened
  | none =>
    let isFree := !files.directories.contains path && !files.others.contains path
    if rights = .create && isFree && files.directories.contains path.dropLast then
      some .unprepared
    else none

/-- The files with the database at a path replaced. -/
def saved (files : Files) (path : Path) (r : Registry) : Files :=
  { files with databases := (path, r) :: files.databases.filter (·.1 ≠ path) }

end Files

/-- Whether the name of a file leaves room for the name of its journal.  Without a journal
    nothing is written. -/
def Path.hasJournal (path : Path) : Bool :=
  path.getLast?.all fun name => (name ++ journalEnding).utf8ByteSize ≤ maxNameLength

end AssetRegistry.CommandLine
