import AssetRegistry.Pipeline

/-! # Workflows

A workflow runs pipelines in order.  It is known by its database and its own id
within it. -/

namespace AssetRegistry

open Json

/-- What identifies a workflow. -/
structure WorkflowKey where
  databaseId : String
  workflowId : String
  deriving DecidableEq, Repr

/-- The key as texts show it. -/
def WorkflowKey.text (k : WorkflowKey) : String :=
  k.databaseId ++ "/" ++ k.workflowId

/-- A stored workflow. -/
structure Workflow where
  databaseId : String
  workflowId : String
  description : String
  pipelines : List PipelineRef
  archived : Bool
  createdAt : Moment
  deriving DecidableEq, Repr

/-- The key of a stored workflow. -/
def Workflow.key (w : Workflow) : WorkflowKey :=
  ⟨w.databaseId, w.workflowId⟩

/-- The JSON form of a stored workflow. -/
def Workflow.codec : Codec Workflow :=
  .record
    (.required "databaseId" .string <| .required "workflowId" .string <|
      .required "description" .string <| .required "pipelines" (.list PipelineRef.codec) <|
      .required "archived" .bool <| .required "createdAt" Moment.codec .nil)
    (fun (databaseId, workflowId, description, pipelines, archived, createdAt, ()) =>
      { databaseId, workflowId, description, pipelines, archived, createdAt })
    (fun w => (w.databaseId, w.workflowId, w.description, w.pipelines, w.archived, w.createdAt,
      ()))

/-- What a caller supplies to create a workflow in a database. -/
structure NewWorkflow where
  workflowId : String
  description : String := ""
  pipelines : List PipelineRef
  deriving DecidableEq, Repr

/-- The JSON form of a request for a workflow. -/
def NewWorkflow.codec : Codec NewWorkflow :=
  .record
    (.required "workflowId" .string <| .defaulted "description" .string "" <|
      .required "pipelines" (.list PipelineRef.codec) .nil)
    (fun (workflowId, description, pipelines, ()) => { workflowId, description, pipelines })
    (fun w => (w.workflowId, w.description, w.pipelines, ()))

end AssetRegistry
