import AssetRegistry.CommandLine.FileUri
import AssetRegistry.CommandLine.Files
import AssetRegistry.CommandLine.Invocation
import AssetRegistry.Executions.Lifecycle

/-! # Running a command

A command opens a database, and may set it up. -/

namespace AssetRegistry.CommandLine

/-- What surrounds the program: the files, and the addresses that a server can listen on. -/
structure Surroundings where
  files : Files
  canListen : String → Bool

/-- How a run of the program goes: it ends with an exit code, or it goes on. -/
inductive Ending where
  | exit (code : Nat)
  | running
  deriving DecidableEq, Repr

/-- What a run of the program prints, how it goes, and the files after it. -/
structure Run where
  printed : List Json
  ending : Ending
  files : Files

/-- Whether a text is a host and a number of 16 bits with a colon between them. -/
def isAddress (address : String) : Bool :=
  let (digits, host) := Text.splitFirst ':' address.toList.reverse
  !host.isEmpty && (number? 0xffff false (String.ofList digits.reverse)).isSome

/-- What is printed of a snapshot. -/
def printedSnapshot (executions : List Execution) : Json :=
  (Json.Codec.list Execution.codec).encode executions

/-- Watches a database that nobody changes. -/
def runWatch (target : WatchTarget) (r : Registry) : List Json × Ending :=
  match ((Executions.fetchExecutions target).perform r).1 with
  | .error _ => ([], .exit 1)
  | .ok snapshot =>
    -- Every later snapshot would be the same.
    ([printedSnapshot snapshot], if isSettled snapshot then .exit 0 else .running)

/-- Sets up a database.  One that is read only can only be set up already. -/
def setUp (readOnly : Bool) (r : Registry) : Option Registry :=
  if readOnly && r.access ≠ .ready then none
  else
    match r.prepare with
    | (.ok (), r) => some r
    | (.error _, _) => none

/-- Runs a command on an open database.  The answer is what it prints, how it goes, and
    the database after it. -/
def runCommand (s : Surroundings) (readOnly : Bool) (command : Command) (r : Registry) :
    List Json × Ending × Registry :=
  match command with
  | .watch target _ =>
    let (printed, ending) := runWatch target r
    (printed, ending, r)
  | .migrate =>
    match setUp readOnly r with
    | some r => ([], .exit 0, r)
    | none => ([], .exit 1, r)
  | .serve address _ =>
    match setUp readOnly r with
    | some r => ([], if s.canListen address then .running else .exit 1, r)
    | none => ([], .exit 1, r)

/-- Whether no connection to the database is allowed.  There is always one to a database
    whose URL speaks of memory. -/
def Invocation.lacksConnections (invocation : Invocation) : Bool :=
  match invocation.command with
  | .serve _ connections =>
    connections = 0 && !standsIn memoryName.toList invocation.databaseUrl.toList
  | .migrate | .watch .. => false

/-- The location to open, or else the exit code. -/
def Invocation.location (invocation : Invocation) : Except Nat Location :=
  match Location.ofUrl? invocation.databaseUrl with
  | none => .error 1
  | some location =>
    if invocation.lacksConnections then .error 101
    else
      match location.opened? with
      | none => .error 1
      | some location => .ok location

/-- The file at a location with the database in it, if it can be opened. -/
def Files.openAt? (files : Files) (location : Location) : Option (Path × Registry) := do
  guard (location.pattern.all files.isThere)
  let path ← files.resolve? location.name
  return (path, ← files.open? location.rights path)

/-- Runs a command on the database at a location. -/
def runAt (s : Surroundings) (location : Location) (command : Command) : Run :=
  if location.isKept then
    match s.files.openAt? location with
    | none => ⟨[], .exit 1, s.files⟩
    | some (path, r) =>
      let readOnly := location.isReadOnly || !path.hasJournal
      let (printed, ending, r) := runCommand s readOnly command r
      ⟨printed, ending, s.files.saved path r⟩
  else
    let (printed, ending, _) := runCommand s location.isReadOnly command .unprepared
    ⟨printed, ending, s.files⟩

/-- Runs what the arguments ask for. -/
def runInvocation (s : Surroundings) (invocation : Invocation) : Run :=
  match invocation.location with
  | .error code => ⟨[], .exit code, s.files⟩
  | .ok location => runAt s location invocation.command

/-- Runs the program. -/
def run (s : Surroundings) (arguments : List String) (environment : Environment) : Run :=
  match Invocation.ofArguments arguments environment with
  | .error .description => ⟨[], .exit 0, s.files⟩
  | .error .misuse => ⟨[], .exit 2, s.files⟩
  | .ok invocation => runInvocation s invocation

end AssetRegistry.CommandLine
