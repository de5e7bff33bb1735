import AssetRegistry.Proofs.Reading
import AssetRegistry.Proofs.Statement

/-!
# What operations do

`Operation.Step` lists once what an operation that succeeds has done: the checks that
it passed, the statement that it ran and the registry that it left.  An operation
that fails has done nothing.  Every invariant of registries is a case analysis of a
step.
-/

namespace AssetRegistry

open AssetRegistry.Action

/-- The operations that only read. -/
def Operation.isRead : Operation → Bool
  | .getDatabase .. | .listDatabases .. | .getAsset .. | .listAssets .. | .findPipeline ..
  | .listPipelines .. | .getWorkflow .. | .listWorkflows .. | .getLink .. | .listLinks ..
  | .listMetadata .. | .listExecutions .. | .fetchExecutions .. => true
  | _ => false

/-- The key that a new execution of a workflow gets. -/
def Registry.nextExecutionKey (r : Registry) (workflow : WorkflowKey) : ExecutionKey :=
  ⟨workflow.databaseId, workflow.workflowId, r.nextExecutionId⟩

/-- What an operation that succeeds answers, and the registry that it leaves.  The
    constructors of the operations that write hold the checks that were passed and
    the statement that was run. -/
inductive Operation.Step (r : Registry) : Operation → Reply → Registry → Prop where
  | read {operation : Operation} {reply : Reply} (reads : operation.isRead) :
    Step r operation reply r
  | createDatabase {request : NewDatabase} {row : Database} {s : Store}
      (unreserved : request.databaseId ≠ globalDatabaseId)
      (identifier : Validation.identifier "databaseId" request.databaseId = .ok ())
      (description : Validation.freeText "description" request.description = .ok ())
      (ran : Store.insertDatabase (Catalog.newDatabase request r.now) r.store = .ok (row, s)) :
    Step r (.createDatabase request) (.database row) (r.wrote s)
  | archiveDatabase {databaseId : String} {s : Store} (unreserved : databaseId ≠ globalDatabaseId)
      (ran : Store.setDatabaseArchived databaseId true r.store = .ok ((), s)) :
    Step r (.archiveDatabase databaseId) .done (r.wrote s)
  | createAsset {databaseId : String} {request : NewAsset} {row : Asset} {s : Store}
      (valid : Catalog.checkAsset databaseId request = .ok ())
      (active : (r.store.activeDatabase? databaseId).isSome)
      (ran : Store.insertAsset (Catalog.newAsset databaseId request r.now) r.store =
        .ok (row, s)) :
    Step r (.createAsset databaseId request) (.asset row) (r.wrote s)
  | archiveAsset {key : AssetKey} {s : Store}
      (ran : Store.setAssetArchived key true r.store = .ok ((), s)) :
    Step r (.archiveAsset key) .done (r.wrote s)
  | restoreAsset {key : AssetKey} {row : Asset} {s : Store}
      (ran : Store.setAssetArchived key false r.store = .ok ((), s))
      (found : s.asset? key = some row) :
    Step r (.restoreAsset key) (.asset row) (r.wrote s)
  | deleteAsset {key : AssetKey} {number : Nat} {s : Store}
      (ran : Store.deleteAssetCascade key r.store = .ok (number, s)) :
    Step r (.deleteAsset key) (.count number) (r.wrote s)
  | createPipeline {databaseId : String} {request : NewPipeline} {row : Pipeline} {s : Store}
      (valid : Catalog.checkPipeline databaseId request = .ok ())
      (active : (r.store.activeDatabase? databaseId).isSome)
      (ran : Store.insertPipeline (Catalog.newPipeline databaseId request r.now) r.store =
        .ok (row, s)) :
    Step r (.createPipeline databaseId request) (.pipeline row) (r.wrote s)
  | setPipelineEnabled {ref : PipelineRef} {enabled : Bool} {row : Pipeline} {s : Store}
      (ran : Store.setPipelineEnabled ref enabled r.store = .ok ((), s))
      (found : s.pipeline? ref = some row) :
    Step r (.setPipelineEnabled ref enabled) (.pipeline row) (r.wrote s)
  | createWorkflow {databaseId : String} {request : NewWorkflow} {row : Workflow} {s : Store}
      (valid : Catalog.checkWorkflow databaseId request = .ok ())
      (active : (r.store.activeDatabase? databaseId).isSome)
      (steps : ∀ step ∈ request.pipelines,
        Catalog.mayUse databaseId step ∧ (r.store.activePipeline? step).isSome)
      (ran : Store.insertWorkflow (Catalog.newWorkflow databaseId request r.now) r.store =
        .ok (row, s)) :
    Step r (.createWorkflow databaseId request) (.workflow row) (r.wrote s)
  | archiveWorkflow {key : WorkflowKey} {s : Store}
      (ran : Store.setWorkflowArchived key true r.store = .ok ((), s)) :
    Step r (.archiveWorkflow key) .done (r.wrote s)
  | createLink {request : NewAssetLink} {row : AssetLink} {s : Store}
      (valid : Links.checkRequest request = .ok ())
      (source : (r.store.asset? request.source).isSome)
      (target : (r.store.asset? request.target).isSome)
      (sourceRoom : r.store.linkCount request.source < r.linkLimit)
      (targetRoom : r.store.linkCount request.target < r.linkLimit)
      (admits : Links.Admits r.store request)
      (ran : Store.insertLink (Links.newLink request r.nextLinkId r.now) r.store =
        .ok (row, s)) :
    Step r (.createLink request) (.link row) { r.wrote s with linksMade := r.linksMade + 1 }
  | updateLinkTags {assetLinkId : String} {tags : List String} {row : AssetLink} {s : Store}
      (valid : Links.checkTags tags = .ok ())
      (ran : Store.setLinkTags assetLinkId tags r.store = .ok ((), s))
      (found : s.link? assetLinkId = some row) :
    Step r (.updateLinkTags assetLinkId tags) (.link row) (r.wrote s)
  | deleteLink {assetLinkId : String} {number : Nat} {s : Store}
      (ran : Store.deleteLinkCascade assetLinkId r.store = .ok (number, s)) :
    Step r (.deleteLink assetLinkId) .done (r.wrote s)
  | createMetadata {row : LinkMetadata} {s : Store}
      (validKey : Validation.metadataKey row.metadataKey = .ok ())
      (validValue : Validation.metadataValue row.metadataValue row.metadataValueType = .ok ())
      (ran : Store.insertMetadata row r.store = .ok ((), s)) :
    Step r (.createMetadata row) (.metadata row) (r.wrote s)
  | updateMetadata {row : LinkMetadata} {s : Store}
      (validValue : Validation.metadataValue row.metadataValue row.metadataValueType = .ok ())
      (ran : Store.setMetadata row r.store = .ok ((), s)) :
    Step r (.updateMetadata row) (.metadata row) (r.wrote s)
  | deleteMetadata {assetLinkId metadataKey : String} {s : Store}
      (ran : Store.deleteMetadata assetLinkId metadataKey r.store = .ok ((), s)) :
    Step r (.deleteMetadata assetLinkId metadataKey) .done (r.wrote s)
  | startExecution {request : StartExecution} {asset : Asset} {workflow : Workflow}
      {row : Execution} {s : Store}
      (there : r.store.activeAsset? ⟨request.databaseId, request.assetId⟩ = some asset)
      (visible : r.store.visibleWorkflow?
        (request.workflowDatabaseId.getD asset.databaseId) request.workflowId = some workflow)
      (enabled : ∀ step ∈ workflow.pipelines,
        ∃ p, r.store.activePipeline? step = some p ∧ p.enabled)
      (idle : r.store.runningCount asset.key workflow.workflowId = 0)
      (ran : Store.insertExecution (r.nextExecutionKey workflow.key) asset.key r.now r.store =
        .ok (row, s)) :
    Step r (.startExecution request) (.execution row)
      { r.wrote s with executionsMade := r.executionsMade + 1 }
  | updateExecutionStatus {key : ExecutionKey} {status : ExecutionStatus} {row : Execution}
      {s : Store} (terminal : status.isTerminal)
      (ran : Store.finishExecution key status (some r.now) r.store = .ok ((), s))
      (found : s.execution? key = some row) :
    Step r (.updateExecutionStatus key status) (.execution row) (r.wrote s)

/-! ### Storing a link -/

/-- A link is stored under the next name. -/
theorem Links.storeLink_eq_ok {request : NewAssetLink} {r r' : Registry} {l : AssetLink} :
    (storeLink request).perform r = (.ok l, r') ↔
      r.access = .ready ∧ newLink request r.nextLinkId r.now = l ∧
        ∃ s, Store.insertLink l r.store = .ok (l, s) ∧
          { r.wrote s with linksMade := r.linksMade + 1 } = r' := by
  simp only [storeLink, bind_eq_ok, get_eq_ok, execute_eq_ok, modify_eq_ok, pure_eq_ok]
  constructor
  · rintro ⟨_, _, ⟨rfl, rfl⟩, stored, _, ⟨ready, s, ran, rfl⟩, _, _, rfl, rfl, rfl⟩
    obtain rfl := (Store.insertLink_eq_ok.1 ran).2.1
    exact ⟨ready, rfl, s, ran, rfl⟩
  · rintro ⟨ready, rfl, s, ran, rfl⟩
    exact ⟨_, _, ⟨rfl, rfl⟩, _, _, ⟨ready, s, ran, rfl⟩, (), _, rfl, rfl, rfl⟩

/-! ### Recording a status -/

namespace Executions

variable {key : ExecutionKey} {status : ExecutionStatus}

/-- A terminal status goes to the store, and what the store says of it decides. -/
theorem perform_updateStatus (terminal : status.isTerminal) (r : Registry) :
    (updateStatus key status).perform r =
      match r.execute (Store.finishExecution key status (some r.now)) with
      | (.ok (), r₁) => (getExecution key).perform r₁
      | (.error .notFound, r₁) => (refuseStatus key status).perform r₁
      | (.error _, r₁) => (.error .database, r₁) := by
  rw [updateStatus, if_neg (by simp [terminal]), perform_get_bind, perform_attempt_bind]
  rcases r.execute (Store.finishExecution key status (some r.now)) with ⟨e | u, r₁⟩
  · cases e <;> rfl
  · rfl

/-- A status that is not terminal is refused. -/
theorem perform_updateStatus_of_not_terminal (running : status.isTerminal = false)
    (r : Registry) :
    (updateStatus key status).perform r = (refuseStatus key status).perform r := by
  rw [updateStatus, if_pos (by simp [running])]

end Executions

namespace Operation

variable {r r' : Registry} {operation : Operation} {reply : Reply}

/-! ### Operations that only read -/

/-- An operation that only reads leaves the registry as it is. -/
theorem reads_run (reads : operation.isRead) : Reads operation.run := by
  cases operation <;> simp only [isRead, Bool.false_eq_true] at reads
  -- An operation wraps the answer of its action, which only reads.
  case getDatabase => exact (Catalog.reads_getDatabase _).map _
  case listDatabases => exact (Reads.query _).map _
  case getAsset => exact (Catalog.reads_getAsset _).map _
  case listAssets => exact (Catalog.reads_listAssets _ _).map _
  case findPipeline => exact (Reads.query _).map _
  case listPipelines => exact (Catalog.reads_listPipelines _ _).map _
  case getWorkflow => exact (Catalog.reads_getWorkflow _ _).map _
  case listWorkflows => exact (Catalog.reads_listWorkflows _ _).map _
  case getLink => exact (Links.reads_getLink _).map _
  case listLinks => exact (Links.reads_listLinks _ _).map _
  case listMetadata => exact (Links.reads_listMetadata _).map _
  case listExecutions => exact (Executions.reads_listExecutions _ _).map _
  case fetchExecutions => exact (Executions.reads_fetchExecutions _).map _

/-! ### Operations that succeed -/

/-- A stored database has an identifier other than the reserved one. -/
private theorem step_createDatabase {request : NewDatabase} {row : Database}
    (h : (Catalog.createDatabase request).perform r = (.ok row, r')) :
    Step r (.createDatabase request) (.database row) r' := by
  simp only [Catalog.createDatabase, bind_eq_ok, check_eq_ok, get_eq_ok, execute_eq_ok,
    Validation.bind_eq_ok, Catalog.requireUnreserved_eq_ok] at h
  obtain ⟨_, _, ⟨⟨_, unreserved, _, identifier, description⟩, rfl⟩, _, _, ⟨rfl, rfl⟩, _, s, ran,
    rfl⟩ := h
  exact .createDatabase unreserved identifier description ran

/-- An archived database is not the reserved one. -/
private theorem step_archiveDatabase {databaseId : String} {u : Unit}
    (h : (Catalog.archiveDatabase databaseId).perform r = (.ok u, r')) :
    Step r (.archiveDatabase databaseId) .done r' := by
  simp only [Catalog.archiveDatabase, bind_eq_ok, check_eq_ok, execute_eq_ok,
    Catalog.requireUnreserved_eq_ok] at h
  obtain ⟨_, _, ⟨unreserved, rfl⟩, _, s, ran, rfl⟩ := h
  exact .archiveDatabase unreserved ran

/-- A stored asset has a database that is not archived. -/
private theorem step_createAsset {databaseId : String} {request : NewAsset} {row : Asset}
    (h : (Catalog.createAsset databaseId request).perform r = (.ok row, r')) :
    Step r (.createAsset databaseId request) (.asset row) r' := by
  simp only [Catalog.createAsset, bind_eq_ok, check_eq_ok, Catalog.activeDatabase_eq_ok,
    get_eq_ok, execute_eq_ok] at h
  obtain ⟨_, _, ⟨valid, rfl⟩, d, _, ⟨_, active, rfl⟩, _, _, ⟨rfl, rfl⟩, _, s, ran, rfl⟩ := h
  exact .createAsset valid (Option.isSome_of_eq_some active) ran

/-- A restored asset is answered as it is stored then. -/
private theorem step_restoreAsset {key : AssetKey} {row : Asset}
    (h : (Catalog.restoreAsset key).perform r = (.ok row, r')) :
    Step r (.restoreAsset key) (.asset row) r' := by
  simp only [Catalog.restoreAsset, bind_eq_ok, execute_eq_ok, Catalog.getAsset_eq_ok] at h
  obtain ⟨_, _, ⟨_, s, ran, rfl⟩, _, found, rfl⟩ := h
  exact .restoreAsset ran found

/-- A stored pipeline has a database that is not archived. -/
private theorem step_createPipeline {databaseId : String} {request : NewPipeline} {row : Pipeline}
    (h : (Catalog.createPipeline databaseId request).perform r = (.ok row, r')) :
    Step r (.createPipeline databaseId request) (.pipeline row) r' := by
  simp only [Catalog.createPipeline, bind_eq_ok, check_eq_ok, Catalog.activeDatabase_eq_ok,
    get_eq_ok, execute_eq_ok] at h
  obtain ⟨_, _, ⟨valid, rfl⟩, d, _, ⟨_, active, rfl⟩, _, _, ⟨rfl, rfl⟩, _, s, ran, rfl⟩ := h
  exact .createPipeline valid (Option.isSome_of_eq_some active) ran

/-- A changed pipeline is answered as it is stored then. -/
private theorem step_setPipelineEnabled {ref : PipelineRef} {enabled : Bool} {row : Pipeline}
    (h : (Catalog.setPipelineEnabled ref enabled).perform r = (.ok row, r')) :
    Step r (.setPipelineEnabled ref enabled) (.pipeline row) r' := by
  simp only [Catalog.setPipelineEnabled, bind_eq_ok, execute_eq_ok, Catalog.findPipeline_eq_ok,
    orElse_eq_ok] at h
  obtain ⟨_, _, ⟨_, s, ran, rfl⟩, _, _, ⟨_, rfl, rfl⟩, found, rfl⟩ := h
  exact .setPipelineEnabled ran found

/-- A stored workflow has active pipelines as its steps, and its database may use them. -/
private theorem step_createWorkflow {databaseId : String} {request : NewWorkflow} {row : Workflow}
    (h : (Catalog.createWorkflow databaseId request).perform r = (.ok row, r')) :
    Step r (.createWorkflow databaseId request) (.workflow row) r' := by
  simp only [Catalog.createWorkflow, bind_eq_ok, check_eq_ok, Catalog.activeDatabase_eq_ok,
    get_eq_ok, execute_eq_ok] at h
  obtain ⟨_, _, ⟨valid, rfl⟩, d, _, ⟨_, active, rfl⟩, _, _, checked, _, _, ⟨rfl, rfl⟩, _, s, ran,
    rfl⟩ := h
  -- The steps were looked up in the registry that the workflow was then stored in.
  have unchanged := (Catalog.reads_checkSteps _ _).eq checked
  subst unchanged
  exact .createWorkflow valid (Option.isSome_of_eq_some active)
    (Catalog.checkSteps_eq_ok checked) ran

/-- A stored link was let through by every check, on the registry it was stored in. -/
private theorem step_createLink {request : NewAssetLink} {row : AssetLink}
    (h : (Links.createLink request).perform r = (.ok row, r')) :
    Step r (.createLink request) (.link row) r' := by
  simp only [Links.createLink, Links.storeLink, bind_eq_ok, check_eq_ok, Links.requireEnd_eq_ok,
    Links.requireCapacity_eq_ok, Links.requireAdmissible_eq_ok, get_eq_ok, execute_eq_ok,
    modify_eq_ok, pure_eq_ok] at h
  obtain ⟨_, _, ⟨valid, rfl⟩, _, _, ⟨_, source, rfl⟩, _, _, ⟨_, target, rfl⟩, _, _,
    ⟨_, sourceRoom, rfl⟩, _, _, ⟨_, targetRoom, rfl⟩, _, _, ⟨_, admits, rfl⟩, _, _, ⟨rfl, rfl⟩,
    _, _, ⟨_, s, ran, rfl⟩, _, _, rfl, rfl, rfl⟩ := h
  exact .createLink valid source target sourceRoom targetRoom admits ran

/-- A tagged link is answered as it is stored then. -/
private theorem step_updateLinkTags {assetLinkId : String} {tags : List String} {row : AssetLink}
    (h : (Links.updateTags assetLinkId tags).perform r = (.ok row, r')) :
    Step r (.updateLinkTags assetLinkId tags) (.link row) r' := by
  simp only [Links.updateTags, bind_eq_ok, check_eq_ok, execute_eq_ok, Links.getLink_eq_ok] at h
  obtain ⟨_, _, ⟨valid, rfl⟩, _, _, ⟨_, s, ran, rfl⟩, _, found, rfl⟩ := h
  exact .updateLinkTags valid ran found

/-- A link is deleted by one statement, whose count is not answered. -/
private theorem step_deleteLink {assetLinkId : String} {u : Unit}
    (h : (Links.deleteLink assetLinkId).perform r = (.ok u, r')) :
    Step r (.deleteLink assetLinkId) .done r' := by
  simp only [Links.deleteLink, bind_eq_ok, execute_eq_ok, pure_eq_ok] at h
  obtain ⟨number, _, ⟨_, s, ran, rfl⟩, _, rfl⟩ := h
  exact .deleteLink ran

/-- Stored metadata has a key and a value of its type. -/
private theorem step_createMetadata {row row' : LinkMetadata}
    (h : (Links.createMetadata row).perform r = (.ok row', r')) :
    Step r (.createMetadata row) (.metadata row') r' := by
  simp only [Links.createMetadata, bind_eq_ok, check_eq_ok, execute_eq_ok, Links.getLink_eq_ok,
    Validation.bind_eq_ok, pure_eq_ok] at h
  obtain ⟨l, _, ⟨_, _, rfl⟩, _, _, ⟨⟨_, validKey, validValue⟩, rfl⟩, _, _, ⟨_, s, ran, rfl⟩, rfl,
    rfl⟩ := h
  exact .createMetadata validKey validValue ran

/-- Changed metadata has a value of its new type, and its key is not checked again. -/
private theorem step_updateMetadata {row row' : LinkMetadata}
    (h : (Links.updateMetadata row).perform r = (.ok row', r')) :
    Step r (.updateMetadata row) (.metadata row') r' := by
  simp only [Links.updateMetadata, bind_eq_ok, check_eq_ok, execute_eq_ok, pure_eq_ok] at h
  obtain ⟨_, _, ⟨validValue, rfl⟩, _, _, ⟨_, s, ran, rfl⟩, rfl, rfl⟩ := h
  exact .updateMetadata validValue ran

/-- A stored execution is of a visible workflow with enabled pipelines, on an idle asset. -/
private theorem step_startExecution {request : StartExecution} {row : Execution}
    (h : (Executions.startExecution request).perform r = (.ok row, r')) :
    Step r (.startExecution request) (.execution row) r' := by
  simp only [Executions.startExecution, Executions.storeExecution, bind_eq_ok,
    Executions.activeAsset_eq_ok, Catalog.getWorkflow_eq_ok, Executions.requireIdle_eq_ok,
    get_eq_ok, execute_eq_ok, modify_eq_ok, pure_eq_ok] at h
  obtain ⟨asset, _, ⟨_, there, rfl⟩, workflow, _, ⟨_, visible, rfl⟩, _, _, checked, _, _,
    ⟨_, idle, rfl⟩, _, _, ⟨rfl, rfl⟩, _, _, ⟨rfl, rfl⟩, _, _, ⟨_, s, ran, rfl⟩, _, _, rfl, rfl,
    rfl⟩ := h
  -- The pipelines were looked up in the registry that the execution was then stored in.
  have unchanged := (Reads.forM Executions.reads_requireEnabled _).eq checked
  subst unchanged
  have enabled := fun step member =>
    (Executions.requireEnabled_eq_ok.1
      (forM_eq_ok Executions.reads_requireEnabled checked step member)).2.1
  exact .startExecution there visible enabled idle ran

/-- A recorded status is terminal, and the statement found the execution running. -/
private theorem step_updateStatus {key : ExecutionKey} {status : ExecutionStatus} {row : Execution}
    (h : (Executions.updateStatus key status).perform r = (.ok row, r')) :
    Step r (.updateExecutionStatus key status) (.execution row) r' := by
  cases terminal : status.isTerminal with
  | false =>
    rw [Executions.perform_updateStatus_of_not_terminal terminal,
      Executions.refuseStatus_eq_ok] at h
    exact h.elim
  | true =>
    rw [Executions.perform_updateStatus terminal] at h
    rcases attempted : r.execute (Store.finishExecution key status (some r.now)) with ⟨e | u, r₁⟩
    · -- What the statement refuses is no success of the operation.
      rw [attempted] at h
      cases e <;> simp [Executions.refuseStatus_eq_ok] at h
    · obtain ⟨_, s, ran, rfl⟩ := Registry.execute_eq_ok.1 attempted
      rw [attempted] at h
      obtain ⟨_, found, rfl⟩ := Executions.getExecution_eq_ok.1 h
      exact .updateExecutionStatus terminal ran found

/-- An operation that succeeds has made a step. -/
theorem step_of_perform (h : operation.perform r = (.ok reply, r')) :
    Step r operation reply r' := by
  by_cases reads : operation.isRead
  · rw [(reads_run reads).eq h]
    exact .read reads
  cases operation <;> simp only [isRead, not_true_eq_false] at reads
  -- The reply wraps the answer of an action, and the action has run to its end.
  all_goals obtain ⟨answer, done, rfl⟩ := map_eq_ok.1 h
  case createDatabase => exact step_createDatabase done
  case archiveDatabase => exact step_archiveDatabase done
  case createAsset => exact step_createAsset done
  case archiveAsset =>
    obtain ⟨_, s, ran, rfl⟩ := execute_eq_ok.1 done
    exact .archiveAsset ran
  case restoreAsset => exact step_restoreAsset done
  case deleteAsset =>
    obtain ⟨_, s, ran, rfl⟩ := execute_eq_ok.1 done
    exact .deleteAsset ran
  case createPipeline => exact step_createPipeline done
  case setPipelineEnabled => exact step_setPipelineEnabled done
  case createWorkflow => exact step_createWorkflow done
  case archiveWorkflow =>
    obtain ⟨_, s, ran, rfl⟩ := execute_eq_ok.1 done
    exact .archiveWorkflow ran
  case createLink => exact step_createLink done
  case updateLinkTags => exact step_updateLinkTags done
  case deleteLink => exact step_deleteLink done
  case createMetadata => exact step_createMetadata done
  case updateMetadata => exact step_updateMetadata done
  case deleteMetadata =>
    obtain ⟨_, s, ran, rfl⟩ := execute_eq_ok.1 done
    exact .deleteMetadata ran
  case startExecution => exact step_startExecution done
  case updateExecutionStatus => exact step_updateStatus done

end Operation

end AssetRegistry
