import AssetRegistry.Catalog.Databases

/-! # Pipelines of the catalog

A pipeline starts out disabled.  The pipelines of the reserved database are listed
after those of every other one. -/

namespace AssetRegistry.Catalog

/-- Refuses a request for a pipeline that breaks a rule. -/
def checkPipeline (databaseId : String) (request : NewPipeline) : Except RegistryError Unit := do
  Validation.databaseId "databaseId" databaseId
  Validation.identifier "pipelineId" request.pipelineId
  Validation.freeText "description" request.description
  Validation.fileExtension "assetType" request.assetType
  Validation.fileExtension "outputType" request.outputType
  Validation.timeouts request

/-- The row of a new pipeline. -/
def newPipeline (databaseId : String) (request : NewPipeline) (now : Moment) : Pipeline where
  databaseId
  pipelineId := request.pipelineId
  description := request.description
  assetType := request.assetType
  outputType := request.outputType
  executionType := request.executionType
  waitForCallback := request.waitForCallback
  taskTimeoutSeconds := request.taskTimeoutSeconds
  taskHeartbeatTimeoutSeconds := request.taskHeartbeatTimeoutSeconds
  enabled := false
  archived := false
  createdAt := now

/-- Creates a pipeline in a database that is not archived. -/
def createPipeline (databaseId : String) (request : NewPipeline) : Action Pipeline := do
  Action.check (checkPipeline databaseId request)
  let _ ← activeDatabase databaseId
  let now ← Action.get Registry.now
  let row := newPipeline databaseId request now
  Action.execute (Store.insertPipeline row) (Action.conflict (.pipeline row.ref))

/-- The pipeline of a reference, if there is one. -/
def findPipeline (ref : PipelineRef) : Action (Option Pipeline) :=
  Action.query (·.pipeline? ref)

/-- Enables or disables a pipeline. -/
def setPipelineEnabled (ref : PipelineRef) (enabled : Bool) : Action Pipeline := do
  Action.execute (Store.setPipelineEnabled ref enabled) (Action.missing (.pipeline ref))
  let found ← findPipeline ref
  Action.orElse (.notFound (.pipeline ref)) found

/-- The pipelines that are visible from a database: its own, then the reserved
    database's. -/
def listPipelines (databaseId : String) (includeArchived : Bool) : Action (List Pipeline) := do
  let _ ← getDatabase databaseId
  let locals ← Action.query (·.listPipelines databaseId includeArchived)
  if databaseId = globalDatabaseId then
    return locals
  let shared ← Action.query (·.listPipelines globalDatabaseId includeArchived)
  return mergeWithGlobal Pipeline.ref locals shared

end AssetRegistry.Catalog
