import AssetRegistry.Asset

/-! # Executions

An execution is one run of a workflow on an asset.  It is running until it gets one
of the terminal statuses, and then never changes. -/

namespace AssetRegistry

open Json

/-- Where an execution stands. -/
inductive ExecutionStatus where
  | running
  | succeeded
  | failed
  | timedOut
  | aborted
  | canceled
  deriving DecidableEq, Repr

namespace ExecutionStatus

/-- The statuses. -/
def all : List ExecutionStatus :=
  [running, succeeded, failed, timedOut, aborted, canceled]

/-- The name of a status. -/
def name : ExecutionStatus → String
  | .running => "RUNNING"
  | .succeeded => "SUCCEEDED"
  | .failed => "FAILED"
  | .timedOut => "TIMED_OUT"
  | .aborted => "ABORTED"
  | .canceled => "CANCELED"

/-- The status of a name. -/
def ofName? (s : String) : Option ExecutionStatus :=
  all.find? (·.name == s)

/-- The status that a text names, or a message. -/
def parse (s : String) : Except String ExecutionStatus :=
  match ofName? s with
  | some status => .ok status
  | none => .error ("unknown execution status: " ++ s)

/-- Whether an execution with the status is over. -/
def isTerminal (s : ExecutionStatus) : Bool :=
  s ≠ .running

/-- Statuses are written as their names. -/
def codec : Codec ExecutionStatus :=
  .choice ofName? name

end ExecutionStatus

/-- What identifies an execution. -/
structure ExecutionKey where
  workflowDatabaseId : String
  workflowId : String
  executionId : String
  deriving DecidableEq, Repr

/-- The key as texts show it. -/
def ExecutionKey.text (k : ExecutionKey) : String :=
  k.workflowDatabaseId ++ "/" ++ k.workflowId ++ "/" ++ k.executionId

/-- The JSON form of a key. -/
def ExecutionKey.codec : Codec ExecutionKey :=
  .record
    (.required "workflowDatabaseId" .string <| .required "workflowId" .string <|
      .required "executionId" .string .nil)
    (fun (workflowDatabaseId, workflowId, executionId, ()) =>
      { workflowDatabaseId, workflowId, executionId })
    (fun k => (k.workflowDatabaseId, k.workflowId, k.executionId, ()))

/-- A stored execution. -/
structure Execution where
  workflowDatabaseId : String
  workflowId : String
  executionId : String
  databaseId : String
  assetId : String
  status : ExecutionStatus
  startedAt : Moment
  stoppedAt : Option Moment
  deriving DecidableEq, Repr

namespace Execution

/-- The key of a stored execution. -/
def key (e : Execution) : ExecutionKey :=
  ⟨e.workflowDatabaseId, e.workflowId, e.executionId⟩

/-- Whether the execution is a run of a workflow, wherever that is stored, on an
    asset. -/
def isOn (e : Execution) (asset : AssetKey) (workflowId : String) : Bool :=
  e.databaseId = asset.databaseId && e.assetId = asset.assetId && e.workflowId = workflowId

/-- The slot that an execution takes in the unique index of running executions.  An execution
    that is over takes none. -/
def runningSlot? (e : Execution) : Option (String × String × String) :=
  if e.status = .running then some (e.databaseId, e.assetId, e.workflowId) else none

/-- The order of listings: the newest first, then by id from the greatest down. -/
def le (a b : Execution) : Bool :=
  b.startedAt.before a.startedAt ||
    (!a.startedAt.before b.startedAt && b.executionId ≤ a.executionId)

/-- The JSON form of a stored execution. -/
def codec : Codec Execution :=
  .record
    (.required "workflowDatabaseId" .string <| .required "workflowId" .string <|
      .required "executionId" .string <| .required "databaseId" .string <|
      .required "assetId" .string <| .required "status" ExecutionStatus.codec <|
      .required "startedAt" Moment.codec <|
      .required "stoppedAt" (.option Moment.codec) .nil)
    (fun (workflowDatabaseId, workflowId, executionId, databaseId, assetId, status, startedAt,
        stoppedAt, ()) =>
      { workflowDatabaseId, workflowId, executionId, databaseId, assetId, status, startedAt,
        stoppedAt })
    (fun e => (e.workflowDatabaseId, e.workflowId, e.executionId, e.databaseId, e.assetId,
      e.status, e.startedAt, e.stoppedAt, ()))

end Execution

/-- Whether no execution of a snapshot is running.  An empty snapshot is settled. -/
def isSettled (executions : List Execution) : Bool :=
  executions.all (·.status.isTerminal)

/-- A request to run a workflow on an asset.  Without a database for the workflow,
    the database of the asset is taken. -/
structure StartExecution where
  databaseId : String
  assetId : String
  workflowId : String
  workflowDatabaseId : Option String := none
  deriving DecidableEq, Repr

/-- The JSON form of a request to run a workflow. -/
def StartExecution.codec : Codec StartExecution :=
  .record
    (.required "databaseId" .string <| .required "assetId" .string <|
      .required "workflowId" .string <|
      .defaulted "workflowDatabaseId" (.option .string) none .nil)
    (fun (databaseId, assetId, workflowId, workflowDatabaseId, ()) =>
      { databaseId, assetId, workflowId, workflowDatabaseId })
    (fun s => (s.databaseId, s.assetId, s.workflowId, s.workflowDatabaseId, ()))

/-- The executions that a watcher is interested in: those of one workflow on an
    asset, or without one those of every workflow that is visible from its
    database. -/
structure WatchTarget where
  databaseId : String
  assetId : String
  workflowId : Option String
  deriving DecidableEq, Repr

/-- The JSON form of a watch target. -/
def WatchTarget.codec : Codec WatchTarget :=
  .record
    (.required "databaseId" .string <| .required "assetId" .string <|
      .required "workflowId" (.option .string) .nil)
    (fun (databaseId, assetId, workflowId, ()) => { databaseId, assetId, workflowId })
    (fun t => (t.databaseId, t.assetId, t.workflowId, ()))

/-- What a caller supplies to record the outcome of an execution.  The status is a
    name. -/
structure StatusUpdate where
  status : String
  deriving DecidableEq, Repr

/-- The JSON form of a request to record an outcome. -/
def StatusUpdate.codec : Codec StatusUpdate :=
  .record (.required "status" .string .nil) (fun (status, ()) => { status })
    (fun u => (u.status, ()))

end AssetRegistry
