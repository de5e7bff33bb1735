import AssetRegistry.Http.MediaType
import AssetRegistry.Http.Message
import AssetRegistry.Http.Query
import AssetRegistry.Operation

/-! # Endpoints

An endpoint reads a request as an operation.  It reads the path first, then the query,
then the body, and stops at the first part that cannot be read. -/

namespace AssetRegistry.Http

/-- An operation that a request asks for, and the status of the response when it
    succeeds. -/
structure Call where
  operation : Operation
  success : Nat
  deriving DecidableEq, Repr

/-- What a request comes to: a call, or a response that needs none. -/
abbrev Reading (α : Type) : Type :=
  Except Response α

/-- What answers one method on a path. -/
structure Endpoint where
  method : String
  read : Request → Reading Call

/-! ### Parts of requests -/

/-- A parameter in the path. -/
def parameter (segment : String) : Reading String :=
  match Percent.decodePath? segment.toList with
  | some value => .ok value
  | none => .error (.unreadable 400)

/-- An asset in the path. -/
def assetParameter (databaseId assetId : String) : Reading AssetKey :=
  return ⟨← parameter databaseId, ← parameter assetId⟩

/-- A truth value in the query. -/
def flag (name : String) (request : Request) : Reading Bool :=
  match Query.flag name request.query with
  | .ok value => .ok value
  | .error () => .error (.unreadable 400)

/-- A text in the query. -/
def optionalText (name : String) (request : Request) : Reading (Option String) :=
  match Query.text name request.query with
  | .ok value => .ok value
  | .error () => .error (.unreadable 400)

/-- Whether a listing shows what is archived. -/
def includeArchived (request : Request) : Reading Bool :=
  flag "includeArchived" request

/-- How many bytes a body may have. -/
def maxBodyBytes : Nat := 2097152

/-- The body, whatever follows its first JSON value. -/
def body (codec : Json.Codec α) (request : Request) : Reading α :=
  -- The media type and the size are looked at before any value is read.
  if !request.contentType.any MediaType.isJson then .error (.unreadable 415)
  else if maxBodyBytes < request.body.length then .error (.unreadable 413)
  else
    match Json.decodeFront codec.decode request.body with
    | .ok value => .ok value
    | .error .malformed => .error (.unreadable 400)
    | .error .mismatched => .error (.unreadable 422)

/-- What a name in the body stands for. -/
def named (outcome : Except String α) : Reading α :=
  match outcome with
  | .ok value => .ok value
  | .error text => .error (.message 400 text)

/-! ### The table of endpoints -/

/-- The endpoints of databases and assets. -/
def catalogEndpoints : List String → Option (List Endpoint)
  | ["databases"] => some
    [⟨"GET", fun request => do
        return ⟨.listDatabases (← includeArchived request), 200⟩⟩,
     ⟨"POST", fun request => do
        return ⟨.createDatabase (← body NewDatabase.codec request), 201⟩⟩]
  | ["databases", databaseId] => some
    [⟨"GET", fun _ => do
        return ⟨.getDatabase (← parameter databaseId), 200⟩⟩,
     ⟨"DELETE", fun _ => do
        return ⟨.archiveDatabase (← parameter databaseId), 204⟩⟩]
  | ["databases", databaseId, "assets"] => some
    [⟨"GET", fun request => do
        return ⟨.listAssets (← parameter databaseId) (← includeArchived request), 200⟩⟩,
     ⟨"POST", fun request => do
        return ⟨.createAsset (← parameter databaseId) (← body NewAsset.codec request), 201⟩⟩]
  | ["databases", databaseId, "assets", assetId] => some
    [⟨"GET", fun _ => do
        return ⟨.getAsset (← assetParameter databaseId assetId), 200⟩⟩,
     ⟨"DELETE", fun request => do
        let key ← assetParameter databaseId assetId
        let permanent ← flag "permanent" request
        return ⟨if permanent then .deleteAsset key else .archiveAsset key, 204⟩⟩]
  | ["databases", databaseId, "assets", assetId, "restore"] => some
    [⟨"POST", fun _ => do
        return ⟨.restoreAsset (← assetParameter databaseId assetId), 200⟩⟩]
  | _ => none

/-- The endpoints of links and their metadata. -/
def linkEndpoints : List String → Option (List Endpoint)
  | ["databases", databaseId, "assets", assetId, "asset-links"] => some
    [⟨"GET", fun request => do
        let key ← assetParameter databaseId assetId
        return ⟨.listLinks key (← flag "childTreeView" request), 200⟩⟩]
  | ["asset-links"] => some
    [⟨"POST", fun request => do
        return ⟨.createLink (← body NewAssetLink.codec request), 201⟩⟩]
  | ["asset-links", assetLinkId] => some
    [⟨"GET", fun _ => do
        return ⟨.getLink (← parameter assetLinkId), 200⟩⟩,
     ⟨"PUT", fun request => do
        let assetLinkId ← parameter assetLinkId
        let update ← body TagUpdate.codec request
        return ⟨.updateLinkTags assetLinkId update.tags, 200⟩⟩,
     ⟨"DELETE", fun _ => do
        return ⟨.deleteLink (← parameter assetLinkId), 204⟩⟩]
  | ["asset-links", assetLinkId, "metadata"] => some
    [⟨"GET", fun _ => do
        return ⟨.listMetadata (← parameter assetLinkId), 200⟩⟩,
     ⟨"POST", fun request => do
        let assetLinkId ← parameter assetLinkId
        let entry ← body NewMetadata.codec request
        let type ← named (ValueType.parse entry.metadataValueType)
        return ⟨.createMetadata ⟨assetLinkId, entry.metadataKey, entry.metadataValue, type⟩, 201⟩⟩]
  | ["asset-links", assetLinkId, "metadata", metadataKey] => some
    [⟨"PUT", fun request => do
        let assetLinkId ← parameter assetLinkId
        let metadataKey ← parameter metadataKey
        let update ← body MetadataUpdate.codec request
        let type ← named (ValueType.parse update.metadataValueType)
        return ⟨.updateMetadata ⟨assetLinkId, metadataKey, update.metadataValue, type⟩, 200⟩⟩,
     ⟨"DELETE", fun _ => do
        return ⟨.deleteMetadata (← parameter assetLinkId) (← parameter metadataKey), 204⟩⟩]
  | _ => none

/-- The endpoints of pipelines and workflows. -/
def pipelineEndpoints : List String → Option (List Endpoint)
  | ["databases", databaseId, "pipelines"] => some
    [⟨"GET", fun request => do
        return ⟨.listPipelines (← parameter databaseId) (← includeArchived request), 200⟩⟩,
     ⟨"POST", fun request => do
        return ⟨.createPipeline (← parameter databaseId) (← body NewPipeline.codec request), 201⟩⟩]
  | ["databases", databaseId, "pipelines", pipelineId, "enabled"] => some
    [⟨"PUT", fun request => do
        let databaseId ← parameter databaseId
        let pipelineId ← parameter pipelineId
        let update ← body EnabledUpdate.codec request
        return ⟨.setPipelineEnabled ⟨databaseId, pipelineId⟩ update.enabled, 200⟩⟩]
  | ["databases", databaseId, "workflows"] => some
    [⟨"GET", fun request => do
        return ⟨.listWorkflows (← parameter databaseId) (← includeArchived request), 200⟩⟩,
     ⟨"POST", fun request => do
        return ⟨.createWorkflow (← parameter databaseId) (← body NewWorkflow.codec request), 201⟩⟩]
  | ["databases", databaseId, "workflows", workflowId] => some
    [⟨"DELETE", fun _ => do
        return ⟨.archiveWorkflow ⟨← parameter databaseId, ← parameter workflowId⟩, 204⟩⟩]
  | _ => none

/-- The endpoints of executions. -/
def executionEndpoints : List String → Option (List Endpoint)
  | ["databases", databaseId, "assets", assetId, "workflows", workflowId] => some
    [⟨"POST", fun request => do
        let key ← assetParameter databaseId assetId
        let workflowId ← parameter workflowId
        let workflowDatabaseId ← optionalText "workflowDatabaseId" request
        return ⟨.startExecution
          { databaseId := key.databaseId
            assetId := key.assetId
            workflowId
            workflowDatabaseId }, 201⟩⟩]
  | ["databases", databaseId, "assets", assetId, "workflows", workflowId, "executions"] => some
    [⟨"GET", fun _ => do
        let key ← assetParameter databaseId assetId
        return ⟨.listExecutions key (← parameter workflowId), 200⟩⟩]
  | ["workflows", workflowDatabaseId, workflowId, "executions", executionId, "status"] => some
    [⟨"PUT", fun request => do
        let workflowDatabaseId ← parameter workflowDatabaseId
        let workflowId ← parameter workflowId
        let executionId ← parameter executionId
        let update ← body StatusUpdate.codec request
        let status ← named (ExecutionStatus.parse update.status)
        return ⟨.updateExecutionStatus ⟨workflowDatabaseId, workflowId, executionId⟩ status, 200⟩⟩]
  | _ => none

/-- The endpoint that tells that the server is up. -/
def healthEndpoints : List String → Option (List Endpoint)
  | ["health"] => some
    [⟨"GET", fun _ => .error ⟨200, .json (.object [("status", .string "ok")])⟩⟩]
  | _ => none

/-- The endpoints of a path.  A parameter at the end of a path is not empty. -/
def endpoints (segments : List String) : Option (List Endpoint) :=
  if segments.getLast? = some "" then none
  else
    healthEndpoints segments <|> catalogEndpoints segments <|> linkEndpoints segments <|>
      pipelineEndpoints segments <|> executionEndpoints segments

end AssetRegistry.Http
