import AssetRegistry.Catalog.Pipelines

/-! # Workflows of the catalog

The steps of a workflow are pipelines of its own database or of the reserved one.  A
workflow is looked up in a database first, and then in the reserved one. -/

namespace AssetRegistry.Catalog

/-- Refuses a request for a workflow that breaks a rule. -/
def checkWorkflow (databaseId : String) (request : NewWorkflow) : Except RegistryError Unit := do
  Validation.databaseId "databaseId" databaseId
  Validation.identifier "workflowId" request.workflowId
  Validation.freeText "description" request.description
  Validation.require (!request.pipelines.isEmpty) "pipelines" .atLeastOnePipeline

/-- Whether a workflow of a database may have a step.  A workflow of the reserved
    database has steps of that database only. -/
def mayUse (databaseId : String) (step : PipelineRef) : Bool :=
  step.databaseId = globalDatabaseId ||
    (databaseId ≠ globalDatabaseId && step.databaseId = databaseId)

/-- Refuses a step that a workflow of a database may not have, and one whose pipeline
    is missing or archived. -/
def checkStep (databaseId : String) (step : PipelineRef) : Action Unit := do
  Action.check
    (Validation.require (mayUse databaseId step) "pipelines" (.ownPipeline step databaseId))
  let found ← findPipeline step
  let _ ← Action.orElse (.notFound (.pipeline step)) (found.filter (!·.archived))

/-- Refuses the first step that is refused by itself. -/
def checkSteps (databaseId : String) : List PipelineRef → Action Unit
  | [] => pure ()
  | step :: steps => do
    checkStep databaseId step
    checkSteps databaseId steps

/-- The row of a new workflow. -/
def newWorkflow (databaseId : String) (request : NewWorkflow) (now : Moment) : Workflow where
  databaseId
  workflowId := request.workflowId
  description := request.description
  pipelines := request.pipelines
  archived := false
  createdAt := now

/-- Creates a workflow in a database that is not archived. -/
def createWorkflow (databaseId : String) (request : NewWorkflow) : Action Workflow := do
  Action.check (checkWorkflow databaseId request)
  let _ ← activeDatabase databaseId
  checkSteps databaseId request.pipelines
  let now ← Action.get Registry.now
  let row := newWorkflow databaseId request now
  Action.execute (Store.insertWorkflow row) (Action.conflict (.workflow row.key))

/-- The workflow that an id stands for in a database: its own one, otherwise that of
    the reserved database.  Archived ones do not count. -/
def getWorkflow (databaseId workflowId : String) : Action Workflow := do
  let own ← Action.query (·.workflow? ⟨databaseId, workflowId⟩)
  if let some workflow := own.filter (!·.archived) then
    return workflow
  -- An archived workflow does not hide one of the reserved database with the same id.
  if databaseId ≠ globalDatabaseId then
    let shared ← Action.query (·.workflow? ⟨globalDatabaseId, workflowId⟩)
    if let some workflow := shared.filter (!·.archived) then
      return workflow
  throw (.notFound (.visibleWorkflow workflowId))

/-- The workflows that are visible from a database: its own, then the reserved
    database's. -/
def listWorkflows (databaseId : String) (includeArchived : Bool) : Action (List Workflow) := do
  let _ ← getDatabase databaseId
  let locals ← Action.query (·.listWorkflows databaseId includeArchived)
  if databaseId = globalDatabaseId then
    return locals
  let shared ← Action.query (·.listWorkflows globalDatabaseId includeArchived)
  return mergeWithGlobal Workflow.key locals shared

/-- Archives a workflow. -/
def archiveWorkflow (key : WorkflowKey) : Action Unit :=
  Action.execute (Store.setWorkflowArchived key true) (Action.missing (.workflow key))

end AssetRegistry.Catalog
