import AssetRegistry.Catalog.Assets
import AssetRegistry.Executions.Lifecycle
import AssetRegistry.Links.Listing
import AssetRegistry.Links.Metadata

/-! # Operations

Everything that a caller can ask of a registry, as data, and `Operation.run`, which
answers it. -/

namespace AssetRegistry

/-- What a caller asks of a registry. -/
inductive Operation where
  | createDatabase (request : NewDatabase)
  | getDatabase (databaseId : String)
  | listDatabases (includeArchived : Bool)
  | archiveDatabase (databaseId : String)
  | createAsset (databaseId : String) (request : NewAsset)
  | getAsset (key : AssetKey)
  | listAssets (databaseId : String) (includeArchived : Bool)
  | archiveAsset (key : AssetKey)
  | restoreAsset (key : AssetKey)
  | deleteAsset (key : AssetKey)
  | createPipeline (databaseId : String) (request : NewPipeline)
  | findPipeline (ref : PipelineRef)
  | setPipelineEnabled (ref : PipelineRef) (enabled : Bool)
  | listPipelines (databaseId : String) (includeArchived : Bool)
  | createWorkflow (databaseId : String) (request : NewWorkflow)
  | getWorkflow (databaseId workflowId : String)
  | listWorkflows (databaseId : String) (includeArchived : Bool)
  | archiveWorkflow (key : WorkflowKey)
  | createLink (request : NewAssetLink)
  | getLink (assetLinkId : String)
  | updateLinkTags (assetLinkId : String) (tags : List String)
  | deleteLink (assetLinkId : String)
  | listLinks (key : AssetKey) (childTreeView : Bool)
  | createMetadata (row : LinkMetadata)
  | listMetadata (assetLinkId : String)
  | updateMetadata (row : LinkMetadata)
  | deleteMetadata (assetLinkId metadataKey : String)
  | startExecution (request : StartExecution)
  | updateExecutionStatus (key : ExecutionKey) (status : ExecutionStatus)
  | listExecutions (asset : AssetKey) (workflowId : String)
  | fetchExecutions (target : WatchTarget)
  deriving DecidableEq, Repr

/-- What a registry answers. -/
inductive Reply where
  | done
  | count (number : Nat)
  | database (row : Database)
  | databases (rows : List Database)
  | asset (row : Asset)
  | assets (rows : List Asset)
  | pipeline (row : Pipeline)
  | foundPipeline (row : Option Pipeline)
  | pipelines (rows : List Pipeline)
  | workflow (row : Workflow)
  | workflows (rows : List Workflow)
  | link (row : AssetLink)
  | links (listing : AssetLinks)
  | metadata (row : LinkMetadata)
  | metadataList (rows : List LinkMetadata)
  | execution (row : Execution)
  | executions (rows : List Execution)
  deriving Repr

/-- The JSON form of an answer. -/
def Reply.toJson : Reply → Json
  | .done => .null
  | .count number => .ofNat number
  | .database row => Database.codec.encode row
  | .databases rows => (Json.Codec.list Database.codec).encode rows
  | .asset row => Asset.codec.encode row
  | .assets rows => (Json.Codec.list Asset.codec).encode rows
  | .pipeline row => Pipeline.codec.encode row
  | .foundPipeline row => (Json.Codec.option Pipeline.codec).encode row
  | .pipelines rows => (Json.Codec.list Pipeline.codec).encode rows
  | .workflow row => Workflow.codec.encode row
  | .workflows rows => (Json.Codec.list Workflow.codec).encode rows
  | .link row => AssetLink.codec.encode row
  | .links listing => AssetLinks.codec.encode listing
  | .metadata row => LinkMetadata.codec.encode row
  | .metadataList rows => (Json.Codec.list LinkMetadata.codec).encode rows
  | .execution row => Execution.codec.encode row
  | .executions rows => (Json.Codec.list Execution.codec).encode rows

/-- Answers an operation. -/
def Operation.run : Operation → Action Reply
  | .createDatabase request => .database <$> Catalog.createDatabase request
  | .getDatabase databaseId => .database <$> Catalog.getDatabase databaseId
  | .listDatabases includeArchived => .databases <$> Catalog.listDatabases includeArchived
  | .archiveDatabase databaseId => (fun _ => .done) <$> Catalog.archiveDatabase databaseId
  | .createAsset databaseId request => .asset <$> Catalog.createAsset databaseId request
  | .getAsset key => .asset <$> Catalog.getAsset key
  | .listAssets databaseId includeArchived =>
    .assets <$> Catalog.listAssets databaseId includeArchived
  | .archiveAsset key => (fun _ => .done) <$> Catalog.archiveAsset key
  | .restoreAsset key => .asset <$> Catalog.restoreAsset key
  | .deleteAsset key => .count <$> Catalog.deleteAsset key
  | .createPipeline databaseId request => .pipeline <$> Catalog.createPipeline databaseId request
  | .findPipeline ref => .foundPipeline <$> Catalog.findPipeline ref
  | .setPipelineEnabled ref enabled => .pipeline <$> Catalog.setPipelineEnabled ref enabled
  | .listPipelines databaseId includeArchived =>
    .pipelines <$> Catalog.listPipelines databaseId includeArchived
  | .createWorkflow databaseId request => .workflow <$> Catalog.createWorkflow databaseId request
  | .getWorkflow databaseId workflowId => .workflow <$> Catalog.getWorkflow databaseId workflowId
  | .listWorkflows databaseId includeArchived =>
    .workflows <$> Catalog.listWorkflows databaseId includeArchived
  | .archiveWorkflow key => (fun _ => .done) <$> Catalog.archiveWorkflow key
  | .createLink request => .link <$> Links.createLink request
  | .getLink assetLinkId => .link <$> Links.getLink assetLinkId
  | .updateLinkTags assetLinkId tags => .link <$> Links.updateTags assetLinkId tags
  | .deleteLink assetLinkId => (fun _ => .done) <$> Links.deleteLink assetLinkId
  | .listLinks key childTreeView => .links <$> Links.listLinks key childTreeView
  | .createMetadata row => .metadata <$> Links.createMetadata row
  | .listMetadata assetLinkId => .metadataList <$> Links.listMetadata assetLinkId
  | .updateMetadata row => .metadata <$> Links.updateMetadata row
  | .deleteMetadata assetLinkId metadataKey =>
    (fun _ => .done) <$> Links.deleteMetadata assetLinkId metadataKey
  | .startExecution request => .execution <$> Executions.startExecution request
  | .updateExecutionStatus key status => .execution <$> Executions.updateStatus key status
  | .listExecutions asset workflowId =>
    .executions <$> Executions.listExecutions asset workflowId
  | .fetchExecutions target => .executions <$> Executions.fetchExecutions target

/-- The answer of an operation and the registry after it. -/
def Operation.perform (operation : Operation) (r : Registry) :
    Except RegistryError Reply × Registry :=
  operation.run.perform r

/-! ### Batches -/

namespace Batch

/-- Runs operations one after another and answers each. -/
def performAll : List Operation → Registry → List (Except RegistryError Reply) × Registry
  | [], r => ([], r)
  | operation :: operations, r =>
    let (outcome, r) := operation.perform r
    let (outcomes, r) := performAll operations r
    (outcome :: outcomes, r)

/-- The number of outcomes that are no failures. -/
def successes (outcomes : List (Except RegistryError Reply)) : Nat :=
  outcomes.countP (·.isOk)

end Batch

end AssetRegistry
