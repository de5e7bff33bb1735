import AssetRegistry.Catalog.Workflows

/-! # The life of an execution

An execution starts when every pipeline of its workflow is enabled and no execution of
the same workflow id is running on the asset.  It ends once, with a terminal
status. -/

namespace AssetRegistry.Executions

/-! ### Starting -/

/-- An asset that is not archived. -/
def activeAsset (key : AssetKey) : Action Asset := do
  let found ← Action.query (·.activeAsset? key)
  Action.orElse (.notFound (.asset key)) found

/-- Refuses a step whose pipeline is missing, disabled or archived. -/
def requireEnabled (step : PipelineRef) : Action Unit := do
  let found ← Catalog.findPipeline step
  if !found.any (fun p => p.enabled && !p.archived) then
    throw (.pipelineDisabled step)

/-- Refuses a workflow that is running on the asset. -/
def requireIdle (asset : AssetKey) (workflowId : String) : Action Unit := do
  let running ← Action.query (·.runningCount asset workflowId)
  if 0 < running then
    throw .executionAlreadyRunning

/-- A refusal of an execution beside one that is running. -/
def alreadyRunning : StoreError → RegistryError
  | .uniqueViolation => .executionAlreadyRunning
  | _ => .database

/-- Stores a new execution under the next name. -/
def storeExecution (workflow : WorkflowKey) (asset : AssetKey) : Action Execution := do
  let key ← Action.get fun r =>
    { workflowDatabaseId := workflow.databaseId
      workflowId := workflow.workflowId
      executionId := r.nextExecutionId : ExecutionKey }
  let now ← Action.get Registry.now
  let stored ← Action.execute (Store.insertExecution key asset now) alreadyRunning
  modify fun r => { r with executionsMade := r.executionsMade + 1 }
  return stored

/-- Starts a workflow on an asset. -/
def startExecution (request : StartExecution) : Action Execution := do
  let asset ← activeAsset ⟨request.databaseId, request.assetId⟩
  let workflow ← Catalog.getWorkflow (request.workflowDatabaseId.getD asset.databaseId)
    request.workflowId
  workflow.pipelines.forM requireEnabled
  -- The workflow id alone counts here, wherever the workflow is stored.
  requireIdle asset.key workflow.workflowId
  storeExecution workflow.key asset.key

/-! ### Ending -/

/-- An execution. -/
def getExecution (key : ExecutionKey) : Action Execution := do
  let found ← Action.query (·.execution? key)
  Action.orElse (.notFound (.execution key)) found

/-- Refuses to give an execution a status. -/
def refuseStatus (key : ExecutionKey) (status : ExecutionStatus) : Action Execution := do
  let current ← getExecution key
  throw (.invalidTransition current.status status)

/-- Records the terminal status of a running execution, and the time. -/
def updateStatus (key : ExecutionKey) (status : ExecutionStatus) : Action Execution := do
  if !status.isTerminal then
    refuseStatus key status
  else
    let now ← Action.get Registry.now
    -- The status is looked up only after a refusal: the statement itself asks for a running one.
    match ← Action.attempt (Store.finishExecution key status (some now)) with
    | .ok () => getExecution key
    | .error .notFound => refuseStatus key status
    | .error _ => throw .database

/-! ### Listing -/

/-- The executions of a workflow on a stored asset, the newest first. -/
def listExecutions (asset : AssetKey) (workflowId : String) : Action (List Execution) := do
  let found ← Action.query (·.asset? asset)
  let _ ← Action.orElse (.notFound (.asset asset)) found
  Action.query (·.listExecutions asset workflowId)

/-- The workflow ids that a watcher asks for.  A workflow of the database and one of the
    reserved database can share an id, which counts once. -/
def watchedWorkflows (target : WatchTarget) : Action (List String) :=
  match target.workflowId with
  | some workflowId => pure [workflowId]
  | none => do
    let workflows ← Catalog.listWorkflows target.databaseId false
    return Catalog.keepFirst id [] (workflows.map (·.workflowId))

/-- The executions that a watcher sees, workflow by workflow. -/
def fetchExecutions (target : WatchTarget) : Action (List Execution) := do
  let workflowIds ← watchedWorkflows target
  let executions ← workflowIds.mapM (listExecutions ⟨target.databaseId, target.assetId⟩)
  return executions.flatten

end AssetRegistry.Executions
