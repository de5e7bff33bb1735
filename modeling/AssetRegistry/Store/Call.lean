import AssetRegistry.Registry

/-! # Calls to the store

What a caller with direct access to the store can ask of it.  Nothing is checked here
but what the store itself insists on. -/

namespace AssetRegistry

/-- A request to the store itself. -/
inductive StoreCall where
  | insertAsset (row : Asset)
  | insertLink (row : AssetLink)
  | insertPipeline (row : Pipeline)
  | insertWorkflow (row : Workflow)
  | insertMetadata (row : LinkMetadata)
  | findAsset (key : AssetKey)
  | linksFrom (key : AssetKey)
  | linksTo (key : AssetKey)
  | countLinks (key : AssetKey)
  | deleteLinkCascade (assetLinkId : String)
  | countMetadata (assetLinkId : String)
  | createDatabase (databaseId description : String)
  | setDatabaseArchived (databaseId : String) (archived : Bool)
  | setWorkflowArchived (key : WorkflowKey) (archived : Bool)
  | createExecution (key : ExecutionKey) (asset : AssetKey)
  | finishExecution (key : ExecutionKey) (status : ExecutionStatus) (stoppedAt : Option Moment)
  | countRunning (asset : AssetKey) (workflowId : String)
  | insertLinks (rows : List AssetLink)
  | prepare
  deriving DecidableEq, Repr

/-- What the store answers. -/
inductive StoreReply where
  | done
  | count (number : Nat)
  | database (row : Database)
  | asset (row : Asset)
  | foundAsset (row : Option Asset)
  | link (row : AssetLink)
  | links (rows : List AssetLink)
  | pipeline (row : Pipeline)
  | workflow (row : Workflow)
  | execution (row : Execution)
  deriving DecidableEq, Repr

/-- The JSON form of an answer. -/
def StoreReply.toJson : StoreReply → Json
  | .done => .null
  | .count number => .ofNat number
  | .database row => Database.codec.encode row
  | .asset row => Asset.codec.encode row
  | .foundAsset row => (Json.Codec.option Asset.codec).encode row
  | .link row => AssetLink.codec.encode row
  | .links rows => (Json.Codec.list AssetLink.codec).encode rows
  | .pipeline row => Pipeline.codec.encode row
  | .workflow row => Workflow.codec.encode row
  | .execution row => Execution.codec.encode row

namespace StoreCall

/-- Runs a statement and words its answer. -/
def write (statement : Statement α) (reply : α → StoreReply) (r : Registry) :
    Except StoreError StoreReply × Registry :=
  let (outcome, r) := r.execute statement
  (outcome.map reply, r)

/-- Reads the store and words the answer. -/
def read (query : Store → α) (reply : α → StoreReply) (r : Registry) :
    Except StoreError StoreReply × Registry :=
  ((r.query query).map reply, r)

/-- Stores rows one by one up to the first that is refused. -/
def writeLinks : List AssetLink → Registry → Except StoreError Unit × Registry
  | [], r => (.ok (), r)
  | row :: rows, r =>
    match r.execute (Store.insertLink row) with
    | (.ok _, r) => writeLinks rows r
    | (.error e, r) => (.error e, r)

/-- Answers a call. -/
def perform (call : StoreCall) (r : Registry) : Except StoreError StoreReply × Registry :=
  match call with
  | .insertAsset row => write (Store.insertAsset row) .asset r
  | .insertLink row => write (Store.insertLink row) .link r
  | .insertPipeline row => write (Store.insertPipeline row) .pipeline r
  | .insertWorkflow row => write (Store.insertWorkflow row) .workflow r
  | .insertMetadata row => write (Store.insertMetadata row) (fun _ => .done) r
  | .findAsset key => read (·.asset? key) .foundAsset r
  | .linksFrom key => read (·.linksFrom key) .links r
  | .linksTo key => read (·.linksTo key) .links r
  | .countLinks key => read (·.linkCount key) .count r
  | .deleteLinkCascade assetLinkId => write (Store.deleteLinkCascade assetLinkId) .count r
  | .countMetadata assetLinkId => read (·.metadataCount assetLinkId) .count r
  | .createDatabase databaseId description =>
    write (Store.insertDatabase { databaseId, description, archived := false, createdAt := r.now })
      .database r
  | .setDatabaseArchived databaseId archived =>
    write (Store.setDatabaseArchived databaseId archived) (fun _ => .done) r
  | .setWorkflowArchived key archived =>
    write (Store.setWorkflowArchived key archived) (fun _ => .done) r
  | .createExecution key asset => write (Store.insertExecution key asset r.now) .execution r
  | .finishExecution key status stoppedAt =>
    write (Store.finishExecution key status stoppedAt) (fun _ => .done) r
  | .countRunning asset workflowId => read (·.runningCount asset workflowId) .count r
  | .insertLinks rows =>
    let (outcome, r) := writeLinks rows r
    (outcome.map fun _ => .count rows.length, r)
  | .prepare =>
    let (outcome, r) := r.prepare
    (outcome.map fun _ => .done, r)

end StoreCall

end AssetRegistry
