import AssetRegistry.Proofs.Frame
import AssetRegistry.Proofs.HttpStatus
import AssetRegistry.Proofs.Reachable
import AssetRegistry.Proofs.Survival

/-!
# Failures of the store

An operation words every refusal that it meets: its own checks never report a failure of
the store, and a statement that is refused is refused for the reason that the operation
has a word for.  Foreign keys hold since owners are looked up first.  What remains is the
id of a new link, which has to be free; it is, as ids are numbered and every stored link
has an earlier number.
-/

namespace AssetRegistry

open AssetRegistry.Action

/-! ### Operations on the catalog -/

namespace Catalog

variable {r : Registry} (ready : r.access = .ready)
include ready

/-- A database that is not stored is refused as one that is not found. -/
theorem survives_getDatabase (databaseId : String) : Survives (getDatabase databaseId) r := by
  rw [getDatabase, survives_query_bind ready]
  exact Survives.orElse (by simp) _

/-- An archived database is refused like one that is not stored. -/
theorem survives_activeDatabase (databaseId : String) : Survives (activeDatabase databaseId) r := by
  unfold activeDatabase
  apply Survives.bind_reads (reads_getDatabase databaseId) (survives_getDatabase ready databaseId)
  intro database _
  exact Survives.ite (Survives.throw_bind (by simp)) (Survives.pure database)

/-- Where a database was found, what follows can rely on its row. -/
theorem survives_activeDatabase_bind {databaseId : String} {f : Database → Action α}
    (rest : ∀ d, (r.store.database? databaseId).isSome → Survives (f d) r) :
    Survives (activeDatabase databaseId >>= f) r := by
  apply Survives.bind_reads (reads_activeDatabase _) (survives_activeDatabase ready _)
  intro d found
  obtain ⟨_, active, _⟩ := activeDatabase_eq_ok.1 found
  rw [Store.activeDatabase?, Option.filter_eq_some_iff] at active
  exact rest d (Option.isSome_of_eq_some active.1)

/-- The only refusal of a new database by the store is that its id is taken. -/
theorem survives_createDatabase (request : NewDatabase) : Survives (createDatabase request) r := by
  have checks : Faultless (do
      requireUnreserved request.databaseId
      Validation.identifier "databaseId" request.databaseId
      Validation.freeText "description" request.description) := by
    refine Faultless.andThen (faultless_requireUnreserved _) ?_
    refine Faultless.andThen (Validation.faultless_require _ _ _) ?_
    exact Validation.faultless_require _ _ _
  -- Behind the checks there is one statement, and its refusal is answered as a conflict.
  unfold createDatabase
  apply Survives.check_bind checks
  intro _ _
  rw [survives_get_bind]
  exact Survives.execute_refusesOnly ready (Store.insertDatabase_refusesOnly _) (by simp [conflict])

/-- The only refusal of the store is that there is no such database. -/
theorem survives_archiveDatabase (databaseId : String) :
    Survives (archiveDatabase databaseId) r := by
  unfold archiveDatabase
  apply Survives.check_bind (faultless_requireUnreserved databaseId)
  intro _ _
  exact Survives.execute_refusesOnly ready (Store.setDatabaseArchived_refusesOnly _ _)
    (by simp [missing])

/-- The database of a new asset was found, so its key can only be taken. -/
theorem survives_createAsset (databaseId : String) (request : NewAsset) :
    Survives (createAsset databaseId request) r := by
  unfold createAsset
  apply Survives.check_bind (faultless_checkAsset _ _)
  intro _ _
  apply survives_activeDatabase_bind ready
  intro d owner
  rw [survives_get_bind]
  exact Survives.execute_refusesOnly ready (Store.insertAsset_refusesOnly owner)
    (by simp [conflict])

/-- An asset that is not stored is refused as one that is not found. -/
theorem survives_getAsset (key : AssetKey) : Survives (getAsset key) r := by
  rw [getAsset, survives_query_bind ready]
  exact Survives.orElse (by simp) _

/-- Assets are listed once their database is found. -/
theorem survives_listAssets (databaseId : String) (includeArchived : Bool) :
    Survives (listAssets databaseId includeArchived) r := by
  unfold listAssets
  apply Survives.bind_reads (reads_getDatabase _) (survives_getDatabase ready _)
  intro _ _
  exact Survives.query ready _

/-- The only refusal of the store is that there is no such asset. -/
theorem survives_archiveAsset (key : AssetKey) : Survives (archiveAsset key) r :=
  .execute_refusesOnly ready (Store.setAssetArchived_refusesOnly _ _) (by simp [missing])

/-- The registry can still be read when the asset is taken back. -/
theorem survives_restoreAsset (key : AssetKey) : Survives (restoreAsset key) r := by
  have restores : Survives (execute (Store.setAssetArchived key false) (missing (.asset key))) r :=
    Survives.execute_refusesOnly ready (Store.setAssetArchived_refusesOnly _ _) (by simp [missing])
  apply Survives.bind restores
  intro _ _ ran
  exact survives_getAsset (ready_of_execute ran) key

/-- The only refusal of the store is that there is no such asset. -/
theorem survives_deleteAsset (key : AssetKey) : Survives (deleteAsset key) r :=
  .execute_refusesOnly ready (Store.deleteAssetCascade_refusesOnly _) (by simp [missing])

/-- The database of a new pipeline was found, so its id can only be taken. -/
theorem survives_createPipeline (databaseId : String) (request : NewPipeline) :
    Survives (createPipeline databaseId request) r := by
  unfold createPipeline
  apply Survives.check_bind (faultless_checkPipeline _ _)
  intro _ _
  apply survives_activeDatabase_bind ready
  intro d owner
  rw [survives_get_bind]
  exact Survives.execute_refusesOnly ready (Store.insertPipeline_refusesOnly owner)
    (by simp [conflict])

/-- The pipeline is looked up again on the registry that the change left. -/
theorem survives_setPipelineEnabled (ref : PipelineRef) (enabled : Bool) :
    Survives (setPipelineEnabled ref enabled) r := by
  have sets : Survives
      (execute (Store.setPipelineEnabled ref enabled) (missing (.pipeline ref))) r :=
    Survives.execute_refusesOnly ready (Store.setPipelineEnabled_refusesOnly _ _)
      (by simp [missing])
  apply Survives.bind sets
  intro _ r₁ ran
  rw [findPipeline, survives_query_bind (ready_of_execute ran)]
  exact Survives.orElse (by simp) _

/-- Pipelines are listed once their database is found. -/
theorem survives_listPipelines (databaseId : String) (includeArchived : Bool) :
    Survives (listPipelines databaseId includeArchived) r := by
  unfold listPipelines
  apply Survives.bind_reads (reads_getDatabase _) (survives_getDatabase ready _)
  intro _ _
  rw [survives_query_bind ready]
  -- The reserved database has no other pipelines to show.
  apply Survives.ite (Survives.pure _)
  rw [survives_query_bind ready]
  exact Survives.pure _

/-- A step is refused as one that its workflow may not have, or whose pipeline is not
    found. -/
theorem survives_checkStep (databaseId : String) (step : PipelineRef) :
    Survives (checkStep databaseId step) r := by
  unfold checkStep
  apply Survives.check_bind (Validation.faultless_require _ _ _)
  intro _ _
  rw [findPipeline, survives_query_bind ready]
  apply Survives.orElse_bind (by simp)
  intro pipeline _
  exact Survives.pure _

/-- The steps are looked at one after another, all on one registry. -/
theorem survives_checkSteps (databaseId : String) (steps : List PipelineRef) :
    Survives (checkSteps databaseId steps) r := by
  induction steps with
  | nil => exact Survives.pure ()
  | cons step steps ih =>
    apply Survives.bind_reads (reads_checkStep databaseId step) (survives_checkStep ready _ _)
    intro _ _
    exact ih

/-- The database of a new workflow was found, so its id can only be taken. -/
theorem survives_createWorkflow (databaseId : String) (request : NewWorkflow) :
    Survives (createWorkflow databaseId request) r := by
  unfold createWorkflow
  apply Survives.check_bind (faultless_checkWorkflow _ _)
  intro _ _
  apply survives_activeDatabase_bind ready
  intro d owner
  -- The steps are checked on the registry on which the database was found.
  apply Survives.bind_reads (reads_checkSteps _ _) (survives_checkSteps ready _ _)
  intro _ _
  rw [survives_get_bind]
  exact Survives.execute_refusesOnly ready (Store.insertWorkflow_refusesOnly owner)
    (by simp [conflict])

/-- A workflow that is not visible is refused as one that is not found. -/
theorem survives_getWorkflow (databaseId workflowId : String) :
    Survives (getWorkflow databaseId workflowId) r := by
  rw [Survives, perform_getWorkflow ready]
  cases r.store.visibleWorkflow? databaseId workflowId with
  | some w => exact Faultless.ok w
  | none => exact Faultless.error (by simp)

/-- Workflows are listed once their database is found. -/
theorem survives_listWorkflows (databaseId : String) (includeArchived : Bool) :
    Survives (listWorkflows databaseId includeArchived) r := by
  unfold listWorkflows
  apply Survives.bind_reads (reads_getDatabase _) (survives_getDatabase ready _)
  intro _ _
  rw [survives_query_bind ready]
  apply Survives.ite (Survives.pure _)
  rw [survives_query_bind ready]
  exact Survives.pure _

/-- The only refusal of the store is that there is no such workflow. -/
theorem survives_archiveWorkflow (key : WorkflowKey) : Survives (archiveWorkflow key) r :=
  .execute_refusesOnly ready (Store.setWorkflowArchived_refusesOnly _ _) (by simp [missing])

end Catalog

/-! ### Operations on links -/

namespace Links

variable {r : Registry} (ready : r.access = .ready)
include ready

/-- A link that is not stored is refused as one that is not found. -/
theorem survives_getLink (assetLinkId : String) : Survives (getLink assetLinkId) r := by
  rw [getLink, survives_query_bind ready]
  exact Survives.orElse (by simp) _

/-- An end that is not stored is refused as an unknown asset. -/
theorem survives_requireEnd (side : Side) (key : AssetKey) : Survives (requireEnd side key) r := by
  rw [requireEnd, survives_query_bind ready]
  apply Survives.orElse_bind (by simp)
  intro asset _
  exact Survives.pure _

/-- An end with its fill of links is refused for the limit. -/
theorem survives_requireCapacity (key : AssetKey) : Survives (requireCapacity key) r := by
  rw [requireCapacity, survives_get_bind, survives_query_bind ready]
  exact Survives.ite_throw (by simp)

/-- A second related link is refused as a duplicate. -/
theorem survives_requireUnrelated (source target : AssetKey) :
    Survives (requireUnrelated source target) r := by
  rw [requireUnrelated, survives_query_bind ready, survives_query_bind ready]
  exact Survives.ite_throw (by simp)

/-- A second parent-child link is refused as a duplicate, in either direction. -/
theorem survives_requireNewChild (source target : AssetKey) (alias? : Option String) :
    Survives (requireNewChild source target alias?) r := by
  rw [requireNewChild, survives_query_bind ready]
  apply Survives.ite (Survives.throw_bind (by simp))
  -- The alias is new, and the other direction is asked for.
  rw [survives_query_bind ready]
  exact Survives.ite_throw (by simp)

/-- A link that closes a cycle is refused as such. -/
theorem survives_requireAcyclic (source target : AssetKey) :
    Survives (requireAcyclic source target) r := by
  rw [requireAcyclic, survives_query_bind ready]
  exact Survives.ite_throw (by simp)

/-- What a link is checked for depends on its relationship, and neither check fails through
    the store. -/
theorem survives_requireAdmissible (request : NewAssetLink) :
    Survives (requireAdmissible request) r := by
  unfold requireAdmissible
  split
  · exact survives_requireUnrelated ready _ _
  · apply Survives.bind_reads (reads_requireNewChild _ _ _) (survives_requireNewChild ready _ _ _)
    intro _ _
    exact survives_requireAcyclic ready _ _

/-- There is no word for a link whose id is taken, so the next id has to be free. -/
theorem survives_storeLink (free : r.store.link? r.nextLinkId = none) (request : NewAssetLink) :
    Survives (storeLink request) r := by
  rw [storeLink, survives_get_bind]
  have stores : Survives
      (execute (Store.insertLink (newLink request r.nextLinkId r.now)) broken) r := by
    apply Survives.execute ready
    intro e refused
    exact (Store.insertLink_ne_error free e refused).elim
  apply Survives.bind stores
  intro stored _ _
  exact Faultless.ok stored

/-- All checks of a new link leave the registry as it is, so that the next id is still free
    when the link is stored. -/
theorem survives_createLink (free : r.store.link? r.nextLinkId = none) (request : NewAssetLink) :
    Survives (createLink request) r := by
  unfold createLink
  apply Survives.check_bind (faultless_checkRequest request)
  intro _ _
  apply Survives.bind_reads (reads_requireEnd _ _) (survives_requireEnd ready _ _)
  intro _ _
  apply Survives.bind_reads (reads_requireEnd _ _) (survives_requireEnd ready _ _)
  intro _ _
  -- Both ends are stored, and their links are counted next.
  apply Survives.bind_reads (reads_requireCapacity _) (survives_requireCapacity ready _)
  intro _ _
  apply Survives.bind_reads (reads_requireCapacity _) (survives_requireCapacity ready _)
  intro _ _
  apply Survives.bind_reads (reads_requireAdmissible _) (survives_requireAdmissible ready _)
  intro _ _
  exact survives_storeLink ready free request

/-- The link is looked up again on the registry that the change left. -/
theorem survives_updateTags (assetLinkId : String) (tags : List String) :
    Survives (updateTags assetLinkId tags) r := by
  unfold updateTags
  apply Survives.check_bind (faultless_checkTags tags)
  intro _ _
  have sets : Survives
      (execute (Store.setLinkTags assetLinkId tags) (missing (.assetLink assetLinkId))) r :=
    Survives.execute_refusesOnly ready (Store.setLinkTags_refusesOnly _ _) (by simp [missing])
  apply Survives.bind sets
  intro _ r₁ ran
  exact survives_getLink (ready_of_execute ran) assetLinkId

/-- The only refusal of the store is that there is no such link. -/
theorem survives_deleteLink (assetLinkId : String) : Survives (deleteLink assetLinkId) r := by
  have deletes : Survives
      (execute (Store.deleteLinkCascade assetLinkId) (missing (.assetLink assetLinkId))) r :=
    Survives.execute_refusesOnly ready (Store.deleteLinkCascade_refusesOnly _) (by simp [missing])
  apply Survives.bind deletes
  intro _ _ _
  exact Survives.pure _

/-- An asset whose links are asked for is refused where it is not stored. -/
theorem survives_requireListed (key : AssetKey) : Survives (requireListed key) r := by
  rw [requireListed, survives_query_bind ready]
  apply Survives.orElse_bind (by simp)
  intro asset _
  exact Survives.pure _

/-- Links are listed once their asset is found. -/
theorem survives_listLinks (key : AssetKey) (childTreeView : Bool) :
    Survives (listLinks key childTreeView) r := by
  unfold listLinks
  apply Survives.bind_reads (reads_requireListed key) (survives_requireListed ready key)
  intro _ _
  exact Survives.query ready _

/-- The link of a new value was found before the value is stored. -/
theorem survives_createMetadata (row : LinkMetadata) : Survives (createMetadata row) r := by
  have checks : Faultless (do
      Validation.metadataKey row.metadataKey
      Validation.metadataValue row.metadataValue row.metadataValueType) := by
    refine Faultless.andThen (Validation.faultless_require _ _ _) ?_
    exact Validation.faultless_metadataValue _ _
  unfold createMetadata
  apply Survives.bind_reads (reads_getLink _) (survives_getLink ready _)
  intro l found
  apply Survives.check_bind checks
  intro _ _
  -- The lookup of the link succeeded, so that the statement cannot miss it.
  have owner := Option.isSome_of_eq_some (getLink_eq_ok.1 found).2.1
  have stores : Survives (execute (Store.insertMetadata row) (takenKey row.metadataKey)) r :=
    Survives.execute_refusesOnly ready (Store.insertMetadata_refusesOnly owner)
      (by simp [takenKey])
  apply Survives.bind stores
  intro _ _ _
  exact Survives.pure row

/-- Metadata is listed once its link is found. -/
theorem survives_listMetadata (assetLinkId : String) : Survives (listMetadata assetLinkId) r := by
  unfold listMetadata
  apply Survives.bind_reads (reads_getLink _) (survives_getLink ready _)
  intro _ _
  exact Survives.query ready _

/-- The only refusal of the store is that there is no value under the key. -/
theorem survives_updateMetadata (row : LinkMetadata) : Survives (updateMetadata row) r := by
  unfold updateMetadata
  apply Survives.check_bind (Validation.faultless_metadataValue _ _)
  intro _ _
  have sets : Survives (execute (Store.setMetadata row)
      (missing (.metadata row.assetLinkId row.metadataKey))) r :=
    Survives.execute_refusesOnly ready (Store.setMetadata_refusesOnly _) (by simp [missing])
  apply Survives.bind sets
  intro _ _ _
  exact Survives.pure row

/-- The only refusal of the store is that there is no value under the key. -/
theorem survives_deleteMetadata (assetLinkId metadataKey : String) :
    Survives (deleteMetadata assetLinkId metadataKey) r :=
  .execute_refusesOnly ready (Store.deleteMetadata_refusesOnly _ _) (by simp [missing])

end Links

/-! ### Operations on executions -/

namespace Executions

variable {r : Registry} (ready : r.access = .ready)
include ready

/-- An asset that is not stored, or archived, is refused as one that is not found. -/
theorem survives_activeAsset (key : AssetKey) : Survives (activeAsset key) r := by
  rw [activeAsset, survives_query_bind ready]
  exact Survives.orElse (by simp) _

/-- A step that cannot run is refused as a disabled pipeline. -/
theorem survives_requireEnabled (step : PipelineRef) : Survives (requireEnabled step) r := by
  rw [requireEnabled, Catalog.findPipeline, survives_query_bind ready]
  exact Survives.ite_throw (by simp)

/-- A second running execution is refused as such. -/
theorem survives_requireIdle (asset : AssetKey) (workflowId : String) :
    Survives (requireIdle asset workflowId) r := by
  rw [requireIdle, survives_query_bind ready]
  exact Survives.ite_throw (by simp)

/-- The store refuses a new execution beside a running one only. -/
theorem survives_storeExecution (workflow : WorkflowKey) (asset : AssetKey) :
    Survives (storeExecution workflow asset) r := by
  rw [storeExecution, survives_get_bind, survives_get_bind]
  have stores : Survives (execute
      (Store.insertExecution
        ⟨workflow.databaseId, workflow.workflowId, r.nextExecutionId⟩ asset r.now)
      alreadyRunning) r :=
    Survives.execute_refusesOnly ready (Store.insertExecution_refusesOnly _ _ _)
      (by simp [alreadyRunning])
  apply Survives.bind stores
  intro stored _ _
  exact Faultless.ok stored

/-- Everything is looked up on one registry before the execution is stored. -/
theorem survives_startExecution (request : StartExecution) :
    Survives (startExecution request) r := by
  unfold startExecution
  apply Survives.bind_reads (reads_activeAsset _) (survives_activeAsset ready _)
  intro asset _
  apply Survives.bind_reads (Catalog.reads_getWorkflow _ _) (Catalog.survives_getWorkflow ready _ _)
  intro workflow _
  -- Each step of the workflow is looked up in turn.
  have survivesSteps : Survives (workflow.pipelines.forM requireEnabled) r :=
    Survives.forM reads_requireEnabled (survives_requireEnabled ready) _
  apply Survives.bind_reads (Reads.forM reads_requireEnabled _) survivesSteps
  intro _ _
  apply Survives.bind_reads (reads_requireIdle _ _) (survives_requireIdle ready _ _)
  intro _ _
  exact survives_storeExecution ready _ _

/-- An execution that is not stored is refused as one that is not found. -/
theorem survives_getExecution (key : ExecutionKey) : Survives (getExecution key) r := by
  rw [getExecution, survives_query_bind ready]
  exact Survives.orElse (by simp) _

/-- A refused status is reported with the one that the execution has. -/
theorem survives_refuseStatus (key : ExecutionKey) (status : ExecutionStatus) :
    Survives (refuseStatus key status) r := by
  unfold refuseStatus
  apply Survives.bind_reads (reads_getExecution key) (survives_getExecution ready key)
  intro current _
  exact Survives.throw (by simp)

/-- A status is refused for one reason only, which the operation looks into. -/
theorem survives_updateStatus (key : ExecutionKey) (status : ExecutionStatus) :
    Survives (updateStatus key status) r := by
  cases terminal : status.isTerminal with
  | false =>
    rw [Survives, perform_updateStatus_of_not_terminal terminal]
    exact survives_refuseStatus ready key status
  | true =>
    rw [Survives, perform_updateStatus terminal, Registry.execute_of_ready ready]
    cases attempted : Store.finishExecution key status (some r.now) r.store with
    -- The statement refuses what is missing or does not run; both are looked into afterwards.
    | error e =>
      obtain rfl := Store.finishExecution_refusesOnly _ _ _ e attempted
      exact survives_refuseStatus ready key status
    | ok answer =>
      have ready' : (r.wrote answer.2).access = .ready := ready
      exact survives_getExecution ready' key

/-- Executions are listed once their asset is found. -/
theorem survives_listExecutions (asset : AssetKey) (workflowId : String) :
    Survives (listExecutions asset workflowId) r := by
  rw [listExecutions, survives_query_bind ready]
  apply Survives.orElse_bind (by simp)
  intro _ _
  exact Survives.query ready _

/-- A watcher of a whole asset asks for the workflows that are visible. -/
theorem survives_watchedWorkflows (target : WatchTarget) :
    Survives (watchedWorkflows target) r := by
  unfold watchedWorkflows
  split
  · exact Survives.pure _
  · apply Survives.bind_reads (Catalog.reads_listWorkflows _ _)
      (Catalog.survives_listWorkflows ready _ _)
    intro workflows _
    exact Survives.pure _

/-- The executions of one workflow after another are listed, all from one registry. -/
theorem survives_fetchExecutions (target : WatchTarget) : Survives (fetchExecutions target) r := by
  unfold fetchExecutions
  apply Survives.bind_reads (reads_watchedWorkflows target) (survives_watchedWorkflows ready target)
  intro workflowIds _
  have survivesLists : Survives
      (workflowIds.mapM (listExecutions ⟨target.databaseId, target.assetId⟩)) r :=
    Survives.mapM (reads_listExecutions _) (survives_listExecutions ready _) _
  apply Survives.bind_reads (Reads.mapM (reads_listExecutions _) _) survivesLists
  intro executions _
  exact Survives.pure _

end Executions

/-! ### All operations -/

/-- Where the store can be reached and the next link has a free id, no operation fails
    through the store, whatever is stored. -/
theorem Operation.survives_run {r : Registry} (ready : r.access = .ready)
    (free : r.store.link? r.nextLinkId = none) (operation : Operation) :
    Survives operation.run r := by
  cases operation
  -- The cases are those of the operations; each wraps the answer of one action.
  case createDatabase => exact (Catalog.survives_createDatabase ready _).map _
  case getDatabase => exact (Catalog.survives_getDatabase ready _).map _
  case listDatabases => exact (Survives.query ready _).map _
  case archiveDatabase => exact (Catalog.survives_archiveDatabase ready _).map _
  case createAsset => exact (Catalog.survives_createAsset ready _ _).map _
  case getAsset => exact (Catalog.survives_getAsset ready _).map _
  case listAssets => exact (Catalog.survives_listAssets ready _ _).map _
  case archiveAsset => exact (Catalog.survives_archiveAsset ready _).map _
  case restoreAsset => exact (Catalog.survives_restoreAsset ready _).map _
  case deleteAsset => exact (Catalog.survives_deleteAsset ready _).map _
  case createPipeline => exact (Catalog.survives_createPipeline ready _ _).map _
  case findPipeline => exact (Survives.query ready _).map _
  case setPipelineEnabled => exact (Catalog.survives_setPipelineEnabled ready _ _).map _
  case listPipelines => exact (Catalog.survives_listPipelines ready _ _).map _
  case createWorkflow => exact (Catalog.survives_createWorkflow ready _ _).map _
  case getWorkflow => exact (Catalog.survives_getWorkflow ready _ _).map _
  case listWorkflows => exact (Catalog.survives_listWorkflows ready _ _).map _
  case archiveWorkflow => exact (Catalog.survives_archiveWorkflow ready _).map _
  case createLink => exact (Links.survives_createLink ready free _).map _
  case getLink => exact (Links.survives_getLink ready _).map _
  case updateLinkTags => exact (Links.survives_updateTags ready _ _).map _
  case deleteLink => exact (Links.survives_deleteLink ready _).map _
  case listLinks => exact (Links.survives_listLinks ready _ _).map _
  case createMetadata => exact (Links.survives_createMetadata ready _).map _
  case listMetadata => exact (Links.survives_listMetadata ready _).map _
  case updateMetadata => exact (Links.survives_updateMetadata ready _).map _
  case deleteMetadata => exact (Links.survives_deleteMetadata ready _ _).map _
  case startExecution => exact (Executions.survives_startExecution ready _).map _
  case updateExecutionStatus => exact (Executions.survives_updateStatus ready _ _).map _
  case listExecutions => exact (Executions.survives_listExecutions ready _ _).map _
  case fetchExecutions => exact (Executions.survives_fetchExecutions ready _).map _

/-! ### The ids of links -/

/-- Different numbers after a stem make different names. -/
theorem append_toString_injective {stem : String} {m n : Nat}
    (same : stem ++ toString m = stem ++ toString n) : m = n := by
  have digits : (toString m).toList = (toString n).toList := by
    have texts := congrArg String.toList same
    simp only [String.toList_append] at texts
    exact List.append_cancel_left texts
  have values := congrArg (Nat.ofDigitChars 10 · 0) digits
  simpa [Nat.toString_eq_ofList_toDigits] using values

namespace Registry

/-- The id of the link of a number. -/
def linkId (n : Nat) : String :=
  "link-" ++ toString n

/-- Different numbers make different ids. -/
theorem linkId_injective {m n : Nat} (same : linkId m = linkId n) : m = n :=
  append_toString_injective same

/-- The links that are stored have got the numbers that were given out. -/
def NumbersLinks (r : Registry) : Prop :=
  ∀ l ∈ r.store.links, ∃ n ≤ r.linksMade, l.assetLinkId = linkId n

/-- The next number is larger than that of every stored link. -/
theorem NumbersLinks.link?_nextLinkId {r : Registry} (numbers : r.NumbersLinks) :
    r.store.link? r.nextLinkId = none := by
  rw [Store.link?, List.find?_eq_none]
  intro l member
  obtain ⟨n, le, named⟩ := numbers l member
  have other : l.assetLinkId ≠ r.nextLinkId := by
    intro same
    have next : n = r.linksMade + 1 := linkId_injective (named ▸ same)
    omega
  simpa using other

end Registry

/-- No number is taken back. -/
theorem Operation.Step.linksMade_le {operation : Operation} {reply : Reply} {r r' : Registry}
    (step : Step r operation reply r') : r.linksMade ≤ r'.linksMade := by
  cases step <;> simp [Registry.wrote]

/-- A new link gets the next number, and no number is given out again. -/
theorem Operation.Step.numbersLinks {operation : Operation} {reply : Reply} {r r' : Registry}
    (step : Step r operation reply r') (numbers : r.NumbersLinks) : r'.NumbersLinks := by
  have grows := step.linksMade_le
  have kept : ∀ l ∈ r.store.links, ∃ n ≤ r'.linksMade, l.assetLinkId = Registry.linkId n := by
    intro l there
    obtain ⟨n, le, named⟩ := numbers l there
    exact ⟨n, by omega, named⟩
  unfold Registry.NumbersLinks
  rcases step.links_cases with fewer | ⟨_, _, ran⟩ | ⟨request, row, rfl, _, ran⟩
  · exact fun l member => kept l (fewer.subset member)
  · obtain ⟨_, same⟩ := Store.setLinkTags_eq_ok.1 ran
    rw [← same]
    exact Store.forall_mem_changeRows (fun _ h => h) kept
  · obtain ⟨_, _, same⟩ := Store.insertLink_eq_ok.1 ran
    -- The new link has the number that the counter shows after the step.
    have counted : r'.linksMade = r.linksMade + 1 := by
      cases step with
      | read reads => simp [isRead] at reads
      | createLink => rfl
    rw [← same]
    intro l member
    rcases List.mem_append.1 member with old | new
    · exact kept l old
    · rw [List.mem_singleton.1 new, counted]
      exact ⟨r.linksMade + 1, Nat.le_refl _, rfl⟩

/-- Every link of a run has got a number that was given out. -/
theorem Registry.Reachable.numbersLinks {linkLimit : Nat} {r : Registry}
    (reachable : r.Reachable linkLimit) : r.NumbersLinks := by
  apply LeadsTo.invariant (motive := NumbersLinks) reachable
  · intro l member
    exact nomatch member
  · intro r inv
    exact inv
  · intro r operation reply r' step inv
    exact step.numbersLinks inv

/-- In every registry that operations lead to, no operation fails through the store, and
    no request is answered with status 500. -/
theorem no_store_failure {linkLimit : Nat} {r : Registry} (reachable : r.Reachable linkLimit) :
    (∀ operation : Operation, (operation.perform r).1 ≠ .error .database) ∧
      ∀ request : Http.Request, (Http.handle request r).1.status ≠ 500 := by
  have survives (operation : Operation) : (operation.perform r).1 ≠ .error .database :=
    operation.survives_run reachable.ready reachable.numbersLinks.link?_nextLinkId
  refine ⟨survives, fun request status => ?_⟩
  obtain ⟨call, r', _, failed⟩ := Http.exists_of_status_eq_500 status
  exact survives call.operation (by rw [failed])

/-- Metadata for a missing link and a second running execution are refused in a plant, and
    neither of them through the store. -/
theorem no_store_failure_plant :
    ((Operation.createMetadata ⟨"link-9", "weight", "1", .number⟩).perform Registry.plant).1 ≠
        .error .database ∧
      (Http.handle ⟨"POST", "/databases/plant/assets/hall/workflows/preview", none, []⟩
        Registry.plant).1.status ≠ 500 ∧
      (Http.handle ⟨"POST", "/databases/plant/assets/hall/workflows/preview", none, []⟩
        Registry.plant).1.status = 409 := by
  obtain ⟨operations, requests⟩ := no_store_failure Registry.reachable_plant
  exact ⟨operations _, requests _, by decide +kernel⟩

end AssetRegistry
