import AssetRegistry.CommandLine.Journal
import AssetRegistry.CommandLine.Program

/-! # The program

A thin layer over `AssetRegistry.CommandLine`.  Databases are journals in files.  A server
takes requests from standard input, one a line, and answers on standard output. -/

open AssetRegistry CommandLine

namespace AssetRegistry.Program

/-- The variables that settings come from. -/
def settingNames : List String :=
  ["DATABASE_URL", "ASSET_REGISTRY_BIND", "ASSET_REGISTRY_MAX_CONNECTIONS",
   "ASSET_REGISTRY_POLL_SECS"]

/-- The variables that are set. -/
def environment : IO Environment := do
  let values ← settingNames.mapM fun name => do
    return (name, ← IO.getEnv name)
  return values.filterMap fun (name, value) => value.map (name, ·)

/-- A database that is open: the path of its file, unless it is a temporary one, and
    whether it is only read. -/
structure Opened where
  path : Option String
  isReadOnly : Bool

/-- Opens the database at a location. -/
def openAt (location : Location) : IO Opened := do
  if !location.isKept then
    return { path := none, isReadOnly := location.isReadOnly }
  let files : Files :=
    { workingDirectory := ((← IO.currentDir).toString.splitOn "/").filter (· ≠ "")
      directories := []
      databases := [] }
  -- The path of what is not there is an error.
  location.pattern.forM fun pattern => discard (IO.FS.realPath pattern)
  match files.resolve? location.name with
  | none => throw (IO.userError "the path leads nowhere")
  | some path =>
    let name := "/" ++ "/".intercalate path
    if location.rights = .create then
      -- A missing file is made before anything is read from it.
      IO.FS.withFile name .append fun _ => pure ()
    return { path := name, isReadOnly := location.isReadOnly || !path.hasJournal }

/-- The registry of an open database. -/
def Opened.registry (opened : Opened) : IO Registry := do
  match opened.path with
  | none => return .unprepared
  | some path =>
    match Journal.read? (← IO.FS.lines path).toList with
    | some r => return r
    | none => throw (IO.userError "the file is not a database")

/-- Adds a line to the file of an open database. -/
def Opened.append (opened : Opened) (line : String) : IO Unit :=
  opened.path.forM fun path => IO.FS.withFile path .append fun file => file.putStrLn line

/-- Sets up an open database. -/
def Opened.setUp (opened : Opened) : IO Registry := do
  let r ← opened.registry
  match CommandLine.setUp opened.isReadOnly r with
  | none => throw (IO.userError "the database cannot be set up")
  | some prepared =>
    if r.access ≠ .ready then
      opened.append Journal.heading
    return prepared

/-- Answers requests until there is no more. -/
partial def serve (opened : Opened) (r : Registry) : IO Unit := do
  let line ← (← IO.getStdin).getLine
  if line.isEmpty then
    return
  match Journal.requestCodec.ofText line with
  | .error _ => serve opened r
  | .ok request =>
    let (response, r) := Journal.answer request r
    if Journal.isKept request response then
      opened.append (Journal.requestCodec.text request)
    IO.println (Journal.responseJson response).text
    serve opened r

/-- Prints snapshots until one is settled. -/
partial def watch (opened : Opened) (target : WatchTarget) (seconds : Nat) : IO UInt32 := do
  let (printed, ending) := runWatch target (← opened.registry)
  printed.forM fun snapshot => IO.println snapshot.text
  match ending with
  | .exit code => return code.toUInt32
  | .running =>
    IO.sleep (1000 * seconds).toUInt32
    watch opened target seconds

/-- Runs a command on an open database. -/
def runCommand (opened : Opened) : Command → IO UInt32
  | .migrate => do
    let _ ← opened.setUp
    return 0
  | .serve address _ => do
    let r ← opened.setUp
    if isAddress address then
      serve opened r
      return 0
    throw (IO.userError "the address cannot be listened on")
  | .watch target seconds => watch opened target seconds

/-- What the program tells of itself. -/
def usage : String :=
  "Usage: asset-registry [--database-url <URL>] <serve|migrate|watch>"

end AssetRegistry.Program

/-- Runs what the arguments ask for. -/
def main (arguments : List String) : IO UInt32 := do
  match Invocation.ofArguments arguments (← Program.environment) with
  | .error .description =>
    IO.println Program.usage
    return 0
  | .error .misuse =>
    IO.eprintln Program.usage
    return 2
  | .ok invocation =>
    match invocation.location with
    | .error code =>
      IO.eprintln "the database URL cannot be used"
      return code.toUInt32
    | .ok location =>
      try
        Program.runCommand (← Program.openAt location) invocation.command
      catch e =>
        IO.eprintln (toString e)
        return 1
