import AssetRegistry.Store.Basic

/-! # Changing the store

A statement changes the store as a whole or refuses and leaves it as it is.  Rows
have unique keys; assets, pipelines and workflows belong to a stored database and
metadata to a stored link; and of the executions of a workflow on an asset at most
one is running.  A repeated key is noticed before a missing owner. -/

namespace AssetRegistry

/-- A change of the store with an answer, or a refusal. -/
abbrev Statement (α : Type) : Type :=
  Store → Except StoreError (α × Store)

namespace Store

/-- A row list with one more row at its end. -/
def insertRow (rows : List ρ) (row : ρ) (isTaken hasOwner : Bool) :
    Except StoreError (List ρ) :=
  if isTaken then .error .uniqueViolation
  else if !hasOwner then .error .foreignKeyViolation
  else .ok (rows ++ [row])

/-- A row list with the chosen rows changed.  There has to be one. -/
def updateRows (rows : List ρ) (chosen : ρ → Bool) (change : ρ → ρ) :
    Except StoreError (List ρ) :=
  if rows.any chosen then .ok (rows.map fun row => if chosen row then change row else row)
  else .error .notFound

/-! ### Databases and assets -/

/-- Stores a new database and answers with it. -/
def insertDatabase (row : Database) : Statement Database := fun s => do
  let databases ← insertRow s.databases row (s.database? row.databaseId).isSome true
  return (row, { s with databases })

/-- Archives a database or takes it back. -/
def setDatabaseArchived (databaseId : String) (archived : Bool) : Statement Unit := fun s => do
  let databases ← updateRows s.databases (·.databaseId = databaseId) ({ · with archived })
  return ((), { s with databases })

/-- Stores a new asset and answers with it. -/
def insertAsset (row : Asset) : Statement Asset := fun s => do
  let assets ← insertRow s.assets row (s.asset? row.key).isSome (s.database? row.databaseId).isSome
  return (row, { s with assets })

/-- Archives an asset or takes it back. -/
def setAssetArchived (key : AssetKey) (archived : Bool) : Statement Unit := fun s => do
  let assets ← updateRows s.assets (·.key = key) ({ · with archived })
  return ((), { s with assets })

/-- Removes an asset with the links at it and their metadata, and answers with the
    number of links. -/
def deleteAssetCascade (key : AssetKey) : Statement Nat := fun s =>
  if (s.asset? key).isNone then .error .notFound
  else
    -- Metadata is known only through its link, so the links are chosen before any is removed.
    let gone := s.links.filter (·.touches key)
    .ok (gone.length,
      { s with
        assets := s.assets.filter (·.key ≠ key)
        links := s.links.filter (!·.touches key)
        metadata := s.metadata.filter fun m => !gone.any (·.assetLinkId = m.assetLinkId) })

/-! ### Links and their metadata -/

/-- Stores a new link and answers with it. -/
def insertLink (row : AssetLink) : Statement AssetLink := fun s => do
  let links ← insertRow s.links row (s.link? row.assetLinkId).isSome true
  return (row, { s with links })

/-- Replaces the tags of a link. -/
def setLinkTags (assetLinkId : String) (tags : List String) : Statement Unit := fun s => do
  let links ← updateRows s.links (·.assetLinkId = assetLinkId) ({ · with tags })
  return ((), { s with links })

/-- Removes a link with its metadata and answers with the number of values. -/
def deleteLinkCascade (assetLinkId : String) : Statement Nat := fun s =>
  if (s.link? assetLinkId).isNone then .error .notFound
  else
    .ok (s.metadataCount assetLinkId,
      { s with
        links := s.links.filter (·.assetLinkId ≠ assetLinkId)
        metadata := s.metadata.filter (·.assetLinkId ≠ assetLinkId) })

/-- Stores a new metadata value. -/
def insertMetadata (row : LinkMetadata) : Statement Unit := fun s => do
  let metadata ← insertRow s.metadata row (s.metadata? row.assetLinkId row.metadataKey).isSome
    (s.link? row.assetLinkId).isSome
  return ((), { s with metadata })

/-- Replaces the text and the type of a metadata value. -/
def setMetadata (row : LinkMetadata) : Statement Unit := fun s => do
  let metadata ← updateRows s.metadata
    (fun m => m.assetLinkId = row.assetLinkId && m.metadataKey = row.metadataKey)
    ({ · with
        metadataValue := row.metadataValue
        metadataValueType := row.metadataValueType })
  return ((), { s with metadata })

/-- Removes a metadata value. -/
def deleteMetadata (assetLinkId metadataKey : String) : Statement Unit := fun s =>
  if (s.metadata? assetLinkId metadataKey).isNone then .error .notFound
  else
    .ok ((),
      { s with
        metadata := s.metadata.filter fun m =>
          !(m.assetLinkId = assetLinkId && m.metadataKey = metadataKey) })

/-! ### Pipelines and workflows -/

/-- Stores a new pipeline and answers with it. -/
def insertPipeline (row : Pipeline) : Statement Pipeline := fun s => do
  let pipelines ← insertRow s.pipelines row (s.pipeline? row.ref).isSome
    (s.database? row.databaseId).isSome
  return (row, { s with pipelines })

/-- Enables or disables a pipeline. -/
def setPipelineEnabled (ref : PipelineRef) (enabled : Bool) : Statement Unit := fun s => do
  let pipelines ← updateRows s.pipelines (·.ref = ref) ({ · with enabled })
  return ((), { s with pipelines })

/-- Stores a new workflow and answers with it. -/
def insertWorkflow (row : Workflow) : Statement Workflow := fun s => do
  let workflows ← insertRow s.workflows row (s.workflow? row.key).isSome
    (s.database? row.databaseId).isSome
  return (row, { s with workflows })

/-- Archives a workflow or takes it back. -/
def setWorkflowArchived (key : WorkflowKey) (archived : Bool) : Statement Unit := fun s => do
  let workflows ← updateRows s.workflows (·.key = key) ({ · with archived })
  return ((), { s with workflows })

/-! ### Executions -/

/-- Whether an execution would take a slot that a stored one takes. -/
def runningSlotIsTaken (s : Store) (row : Execution) : Bool :=
  match row.runningSlot? with
  | some slot => s.executions.any (·.runningSlot? = some slot)
  | none => false

/-- Stores a new running execution and answers with it. -/
def insertExecution (key : ExecutionKey) (asset : AssetKey) (startedAt : Moment) :
    Statement Execution := fun s => do
  let row : Execution :=
    { workflowDatabaseId := key.workflowDatabaseId
      workflowId := key.workflowId
      executionId := key.executionId
      databaseId := asset.databaseId
      assetId := asset.assetId
      status := .running
      startedAt
      stoppedAt := none }
  -- Both the key and the slot have to be free.
  let isTaken := (s.execution? key).isSome || s.runningSlotIsTaken row
  let executions ← insertRow s.executions row isTaken true
  return (row, { s with executions })

/-- Gives a running execution a status and the time at which it stopped. -/
def finishExecution (key : ExecutionKey) (status : ExecutionStatus) (stoppedAt : Option Moment) :
    Statement Unit := fun s => do
  let executions ← updateRows s.executions (fun e => e.key = key && e.status = .running)
    ({ · with status, stoppedAt })
  return ((), { s with executions })

end Store

end AssetRegistry
