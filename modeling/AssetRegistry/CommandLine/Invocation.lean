import AssetRegistry.CommandLine.Arguments
import AssetRegistry.Execution
import AssetRegistry.Watch

/-! # Invocations

What the command line asks for.  A setting comes from an option, or else from the
environment, or else it has a default. -/

namespace AssetRegistry.CommandLine

/-- The variables of the environment with their values. -/
abbrev Environment : Type :=
  List (String × String)

/-- The address that the server listens on, unless another one is set. -/
def defaultAddress : String :=
  "0.0.0.0:8080"

/-- The greatest number of connections to a database, unless another one is set. -/
def defaultConnections : Nat :=
  10

/-- Where the database is, unless another place is set. -/
def defaultDatabaseUrl : String :=
  "sqlite://asset-registry.db"

/-- A command with its settings. -/
inductive Command where
  | serve (address : String) (connections : Nat)
  | migrate
  | watch (target : WatchTarget) (intervalSeconds : Nat)
  deriving DecidableEq, Repr

/-- A command and the database that it works on. -/
structure Invocation where
  databaseUrl : String
  command : Command
  deriving DecidableEq, Repr

/-- The place of the database, which may be given at every level. -/
def databaseUrlOption : OptionForm where
  name := "database-url"

/-- The program itself. -/
def programLevel : Level where
  options := [databaseUrlOption]
  isVersioned := true
  hasCommands := true

/-- The level of a command. -/
def commandLevel? : String → Option Level
  | "serve" => some
    { options :=
        [databaseUrlOption, { name := "bind" },
         { name := "max-connections", isValue := fun s => (connections? s).isSome }] }
  | "migrate" => some { options := [databaseUrlOption] }
  | "watch" => some
    { options :=
        [databaseUrlOption, { name := "database-id" }, { name := "asset-id" },
         { name := "workflow-id" },
         { name := "interval-secs", isValue := fun s => (seconds? s).isSome }] }
  | _ => none

/-- What a setting is. -/
def setting (given : Given) (environment : Environment) (option key : String)
    (read : String → Option α) (default : α) : Except Stop α :=
  match given? option given <|> given? key environment with
  | none => .ok default
  | some text =>
    match read text with
    | some value => .ok value
    | none => .error .misuse

/-- The value of an option that has to be given. -/
def demanded (given : Given) (option : String) : Except Stop String :=
  match given? option given with
  | some value => .ok value
  | none => .error .misuse

/-- The command of a name with the settings that it has. -/
def Command.ofName (name : String) (given : Given) (environment : Environment) :
    Except Stop Command :=
  match name with
  | "serve" => do
    let address ← setting given environment "bind" "ASSET_REGISTRY_BIND" some defaultAddress
    let connections ← setting given environment "max-connections"
      "ASSET_REGISTRY_MAX_CONNECTIONS" connections? defaultConnections
    return .serve address connections
  | "migrate" => return .migrate
  | "watch" => do
    let intervalSeconds ← setting given environment "interval-secs" "ASSET_REGISTRY_POLL_SECS"
      seconds? Watch.defaultIntervalSeconds
    let databaseId ← demanded given "database-id"
    let assetId ← demanded given "asset-id"
    return .watch ⟨databaseId, assetId, given? "workflow-id" given⟩ (max 1 intervalSeconds)
  | _ => .error .misuse

/-- What a request for the description of a command comes to. -/
def describeCommand : List String → Stop
  | [] => .description
  | [name] => if name = "help" || (commandLevel? name).isSome then .description else .misuse
  | _ => .misuse

/-- What the arguments ask for. -/
def Invocation.ofArguments (arguments : List String) (environment : Environment) :
    Except Stop Invocation := do
  match ← programLevel.scan [] arguments with
  | (_, none) => .error .misuse
  | (_, some ("help", names)) => .error (describeCommand names)
  | (outer, some (name, rest)) =>
    match commandLevel? name with
    | none => .error .misuse
    | some level =>
      let (inner, _) ← level.scan [] rest
      -- What is given at the inner level comes first, so that it wins over the outer level.
      let command ← Command.ofName name inner environment
      let databaseUrl ← setting (inner ++ outer) environment "database-url" "DATABASE_URL" some
        defaultDatabaseUrl
      return { databaseUrl, command }

end AssetRegistry.CommandLine
