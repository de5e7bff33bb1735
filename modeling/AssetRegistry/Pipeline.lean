import AssetRegistry.Json.Record
import AssetRegistry.Moment

/-! # Pipelines

A pipeline turns files of one type into files of another one.  It has to be enabled
before a workflow runs it. -/

namespace AssetRegistry

open Json

/-- What runs a pipeline. -/
inductive ExecutionType where
  | lambda
  | batch
  deriving DecidableEq, Repr

namespace ExecutionType

/-- The name of an execution type. -/
def name : ExecutionType → String
  | .lambda => "Lambda"
  | .batch => "Batch"

/-- The execution type of a name. -/
def ofName? (s : String) : Option ExecutionType :=
  [lambda, batch].find? (·.name == s)

/-- Execution types are written as their names. -/
def codec : Codec ExecutionType :=
  .choice ofName? name

end ExecutionType

/-- What identifies a pipeline. -/
structure PipelineRef where
  databaseId : String
  pipelineId : String
  deriving DecidableEq, Repr

/-- The reference as texts show it. -/
def PipelineRef.text (r : PipelineRef) : String :=
  r.databaseId ++ "/" ++ r.pipelineId

/-- The JSON form of a reference. -/
def PipelineRef.codec : Codec PipelineRef :=
  .record
    (.required "databaseId" .string <| .required "pipelineId" .string .nil)
    (fun (databaseId, pipelineId, ()) => { databaseId, pipelineId })
    (fun r => (r.databaseId, r.pipelineId, ()))

/-- A stored pipeline. -/
structure Pipeline where
  databaseId : String
  pipelineId : String
  description : String
  assetType : String
  outputType : String
  executionType : ExecutionType
  waitForCallback : Bool
  taskTimeoutSeconds : Option Int
  taskHeartbeatTimeoutSeconds : Option Int
  enabled : Bool
  archived : Bool
  createdAt : Moment
  deriving DecidableEq, Repr

/-- The reference to a stored pipeline. -/
def Pipeline.ref (p : Pipeline) : PipelineRef :=
  ⟨p.databaseId, p.pipelineId⟩

/-- The JSON form of a stored pipeline. -/
def Pipeline.codec : Codec Pipeline :=
  .record
    (.required "databaseId" .string <| .required "pipelineId" .string <|
      .required "description" .string <| .required "assetType" .string <|
      .required "outputType" .string <| .required "executionType" ExecutionType.codec <|
      .required "waitForCallback" .bool <|
      .required "taskTimeoutSeconds" (.option .int64) <|
      .required "taskHeartbeatTimeoutSeconds" (.option .int64) <|
      .required "enabled" .bool <| .required "archived" .bool <|
      .required "createdAt" Moment.codec .nil)
    (fun (databaseId, pipelineId, description, assetType, outputType, executionType,
        waitForCallback, taskTimeoutSeconds, taskHeartbeatTimeoutSeconds, enabled, archived,
        createdAt, ()) =>
      { databaseId, pipelineId, description, assetType, outputType, executionType,
        waitForCallback, taskTimeoutSeconds, taskHeartbeatTimeoutSeconds, enabled, archived,
        createdAt })
    (fun p => (p.databaseId, p.pipelineId, p.description, p.assetType, p.outputType,
      p.executionType, p.waitForCallback, p.taskTimeoutSeconds, p.taskHeartbeatTimeoutSeconds,
      p.enabled, p.archived, p.createdAt, ()))

/-- What a caller supplies to create a pipeline in a database. -/
structure NewPipeline where
  pipelineId : String
  description : String := ""
  assetType : String
  outputType : String
  executionType : ExecutionType
  waitForCallback : Bool := false
  taskTimeoutSeconds : Option Int := none
  taskHeartbeatTimeoutSeconds : Option Int := none
  deriving DecidableEq, Repr

/-- The JSON form of a request for a pipeline. -/
def NewPipeline.codec : Codec NewPipeline :=
  .record
    (.required "pipelineId" .string <| .defaulted "description" .string "" <|
      .required "assetType" .string <| .required "outputType" .string <|
      .required "executionType" ExecutionType.codec <|
      .defaulted "waitForCallback" .bool false <|
      .defaulted "taskTimeoutSeconds" (.option .int64) none <|
      .defaulted "taskHeartbeatTimeoutSeconds" (.option .int64) none .nil)
    (fun (pipelineId, description, assetType, outputType, executionType, waitForCallback,
        taskTimeoutSeconds, taskHeartbeatTimeoutSeconds, ()) =>
      { pipelineId, description, assetType, outputType, executionType, waitForCallback,
        taskTimeoutSeconds, taskHeartbeatTimeoutSeconds })
    (fun p => (p.pipelineId, p.description, p.assetType, p.outputType, p.executionType,
      p.waitForCallback, p.taskTimeoutSeconds, p.taskHeartbeatTimeoutSeconds, ()))

/-- What a caller supplies to enable or disable a pipeline. -/
structure EnabledUpdate where
  enabled : Bool
  deriving DecidableEq, Repr

/-- The JSON form of a request to enable or disable a pipeline. -/
def EnabledUpdate.codec : Codec EnabledUpdate :=
  .record (.required "enabled" .bool .nil) (fun (enabled, ()) => { enabled })
    (fun u => (u.enabled, ()))

end AssetRegistry
