import AssetRegistry.Database
import AssetRegistry.AssetLink
import AssetRegistry.LinkMetadata
import AssetRegistry.Workflow
import AssetRegistry.Execution

/-! # The store

A store is a list of rows for each kind of thing.  The functions here read it;
those that change it are in `AssetRegistry.Store.Write`.  A listing is sorted, so
that its order does not tell in which order the rows were stored. -/

namespace AssetRegistry

/-- The rows of a registry. -/
structure Store where
  databases : List Database
  assets : List Asset
  links : List AssetLink
  metadata : List LinkMetadata
  pipelines : List Pipeline
  workflows : List Workflow
  executions : List Execution
  deriving DecidableEq, Repr

/-- Why the store refuses to be read or changed.  `unavailable` means that it is
    closed or not set up. -/
inductive StoreError where
  | uniqueViolation
  | foreignKeyViolation
  | notFound
  | unavailable
  deriving DecidableEq, Repr

namespace Store

/-- The store of a registry that was just set up: the reserved database alone. -/
def initial : Store where
  databases := [.global]
  assets := []
  links := []
  metadata := []
  pipelines := []
  workflows := []
  executions := []

/-- Whether a row is shown in a listing that may leave out archived rows. -/
def isListed (includeArchived archived : Bool) : Bool :=
  includeArchived || !archived

/-! ### Databases and assets -/

/-- The database of an id. -/
def database? (s : Store) (databaseId : String) : Option Database :=
  s.databases.find? (·.databaseId = databaseId)

/-- The databases by id. -/
def listDatabases (s : Store) (includeArchived : Bool) : List Database :=
  (s.databases.filter fun d => isListed includeArchived d.archived).mergeSort
    fun a b => a.databaseId ≤ b.databaseId

/-- The asset of a key. -/
def asset? (s : Store) (key : AssetKey) : Option Asset :=
  s.assets.find? (·.key = key)

/-- The asset of a key, where it is not archived. -/
def activeAsset? (s : Store) (key : AssetKey) : Option Asset :=
  (s.asset? key).filter (!·.archived)

/-- The order of asset listings: by name, then by id. -/
def assetLe (a b : Asset) : Bool :=
  a.assetName < b.assetName || (a.assetName = b.assetName && a.assetId ≤ b.assetId)

/-- The assets of a database by name. -/
def listAssets (s : Store) (databaseId : String) (includeArchived : Bool) : List Asset :=
  (s.assets.filter fun a => a.databaseId = databaseId && isListed includeArchived a.archived)
    |>.mergeSort assetLe

/-! ### Links and their metadata -/

/-- The link of an id. -/
def link? (s : Store) (assetLinkId : String) : Option AssetLink :=
  s.links.find? (·.assetLinkId = assetLinkId)

/-- The links that come from an asset, the oldest first. -/
def linksFrom (s : Store) (key : AssetKey) : List AssetLink :=
  (s.links.filter (·.source = key)).mergeSort AssetLink.le

/-- The links that go to an asset, the oldest first. -/
def linksTo (s : Store) (key : AssetKey) : List AssetLink :=
  (s.links.filter (·.target = key)).mergeSort AssetLink.le

/-- The links of one relationship from one asset to another one. -/
def linksBetween (s : Store) (source target : AssetKey) (type : RelationshipType) :
    List AssetLink :=
  s.links.filter fun l => l.source = source && l.target = target && l.relationshipType = type

/-- The number of links at an asset.  A link from an asset to itself counts once. -/
def linkCount (s : Store) (key : AssetKey) : Nat :=
  s.links.countP (·.touches key)

/-- The metadata value of a key at a link. -/
def metadata? (s : Store) (assetLinkId metadataKey : String) : Option LinkMetadata :=
  s.metadata.find? fun m => m.assetLinkId = assetLinkId && m.metadataKey = metadataKey

/-- The metadata of a link by key. -/
def listMetadata (s : Store) (assetLinkId : String) : List LinkMetadata :=
  (s.metadata.filter (·.assetLinkId = assetLinkId)).mergeSort
    fun a b => a.metadataKey ≤ b.metadataKey

/-- The number of metadata values of a link. -/
def metadataCount (s : Store) (assetLinkId : String) : Nat :=
  s.metadata.countP (·.assetLinkId = assetLinkId)

/-! ### Pipelines and workflows -/

/-- The pipeline of a reference. -/
def pipeline? (s : Store) (ref : PipelineRef) : Option Pipeline :=
  s.pipelines.find? (·.ref = ref)

/-- The pipelines that are stored under a database by id. -/
def listPipelines (s : Store) (databaseId : String) (includeArchived : Bool) : List Pipeline :=
  (s.pipelines.filter fun p => p.databaseId = databaseId && isListed includeArchived p.archived)
    |>.mergeSort fun a b => a.pipelineId ≤ b.pipelineId

/-- The workflow of a key. -/
def workflow? (s : Store) (key : WorkflowKey) : Option Workflow :=
  s.workflows.find? (·.key = key)

/-- The workflows that are stored under a database by id. -/
def listWorkflows (s : Store) (databaseId : String) (includeArchived : Bool) : List Workflow :=
  (s.workflows.filter fun w => w.databaseId = databaseId && isListed includeArchived w.archived)
    |>.mergeSort fun a b => a.workflowId ≤ b.workflowId

/-! ### Executions -/

/-- The execution of a key. -/
def execution? (s : Store) (key : ExecutionKey) : Option Execution :=
  s.executions.find? (·.key = key)

/-- The executions of a workflow on an asset, the newest first. -/
def listExecutions (s : Store) (asset : AssetKey) (workflowId : String) : List Execution :=
  (s.executions.filter (·.isOn asset workflowId)).mergeSort Execution.le

/-- The number of executions of a workflow on an asset that are running. -/
def runningCount (s : Store) (asset : AssetKey) (workflowId : String) : Nat :=
  s.executions.countP fun e => e.isOn asset workflowId && e.status = .running

end Store

end AssetRegistry
