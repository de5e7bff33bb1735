import AssetRegistry.RegistryError
import AssetRegistry.Store.Write

/-! # Registries

A registry is a store together with what the operations on it need besides: the
clock, the names for new links and executions, the limit of links and whether the
store can be reached.  An `Action` runs on a registry.  What it has written stays
written when a later part of it fails. -/

namespace AssetRegistry

/-- Whether a store can be reached: it is, or it was not set up yet, or it was
    closed. -/
inductive Access where
  | ready
  | blank
  | closed
  deriving DecidableEq, Repr

/-- The greatest number of links at an asset, unless another one is set. -/
def defaultLinkLimit : Nat :=
  500

/-- The state that operations run on.  `operation` is the number of the operation
    that runs, `writes` counts the statements that changed the store, and
    `linksMade` and `executionsMade` count the names given out. -/
structure Registry where
  store : Store := .initial
  access : Access := .ready
  linkLimit : Nat := defaultLinkLimit
  linksMade : Nat := 0
  executionsMade : Nat := 0
  operation : Nat := 0
  writes : Nat := 0
  deriving DecidableEq, Repr

/-- Runs on a registry, and either answers or fails. -/
abbrev Action (α : Type) : Type :=
  ExceptT RegistryError (StateM Registry) α

namespace Registry

/-- A registry whose store is not set up. -/
def unprepared (linkLimit : Nat := defaultLinkLimit) : Registry where
  access := .blank
  linkLimit

/-- Sets up the store, unless that was done before. -/
def prepare (r : Registry) : Except StoreError Unit × Registry :=
  match r.access with
  | .ready => (.ok (), r)
  | .blank => (.ok (), { r with access := .ready, store := .initial })
  | .closed => (.error .unavailable, r)

/-- Closes the store.  Nothing opens it again but `reopened`. -/
def close (r : Registry) : Registry :=
  { r with access := .closed }

/-- The registry as it is found by whoever opens its store anew. -/
def reopened (r : Registry) : Registry :=
  if r.access = .closed then { r with access := .ready } else r

/-- The time. -/
def now (r : Registry) : Moment :=
  .reading r.operation r.writes

/-- The name for the next link. -/
def nextLinkId (r : Registry) : String :=
  "link-" ++ toString (r.linksMade + 1)

/-- The name for the next execution. -/
def nextExecutionId (r : Registry) : String :=
  "exec-" ++ toString (r.executionsMade + 1)

/-- Reads the store. -/
def query (read : Store → α) (r : Registry) : Except StoreError α :=
  match r.access with
  | .ready => .ok (read r.store)
  | _ => .error .unavailable

/-- Runs a statement.  One that is refused leaves the registry as it is. -/
def execute (statement : Statement α) (r : Registry) : Except StoreError α × Registry :=
  match r.query statement with
  | .error e | .ok (.error e) => (.error e, r)
  | .ok (.ok (a, store)) => (.ok a, { r with store, writes := r.writes + 1 })

end Registry

namespace Action

/-- The answer of an action and the registry after it. -/
def perform (action : Action α) (r : Registry) : Except RegistryError α × Registry :=
  action.run r

/-- A part of the registry's state. -/
def get (part : Registry → α) : Action α := do
  return part (← getThe Registry)

/-- Passes an outcome that does not depend on the registry. -/
def check (outcome : Except RegistryError α) : Action α :=
  match outcome with
  | .ok a => pure a
  | .error e => throw e

/-- Reads the store. -/
def query (read : Store → α) : Action α := do
  match (← getThe Registry).query read with
  | .ok a => return a
  | .error _ => throw .database

/-- Runs a statement and passes on whether it is refused. -/
def attempt (statement : Statement α) : Action (Except StoreError α) := do
  let (outcome, r) := (← getThe Registry).execute statement
  set r
  return outcome

/-- Runs a statement.  `failure` says what its refusal means. -/
def execute (statement : Statement α) (failure : StoreError → RegistryError) : Action α := do
  match ← attempt statement with
  | .ok a => return a
  | .error e => throw (failure e)

/-- What is there, or else a failure. -/
def orElse (failure : RegistryError) : Option α → Action α
  | some a => pure a
  | none => throw failure

/-- A refusal of a row whose key is taken. -/
def conflict (subject : Subject) : StoreError → RegistryError
  | .uniqueViolation => .alreadyExists subject
  | _ => .database

/-- A refusal to change a row that is not there. -/
def missing (subject : Subject) : StoreError → RegistryError
  | .notFound => .notFound subject
  | _ => .database

/-- Any other refusal. -/
def broken : StoreError → RegistryError
  | _ => .database

end Action

end AssetRegistry
