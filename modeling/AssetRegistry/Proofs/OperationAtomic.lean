import AssetRegistry.Proofs.OperationStep

/-!
# Operations that fail have no effect

An operation checks first and then runs one statement, which is refused as a whole or
not at all.  Where it reads once more after its statement, as when it answers with a
changed row, the read cannot fail: the statement found the row.
-/

namespace AssetRegistry

open AssetRegistry.Action

namespace Catalog

/-- A database is stored after its fields have passed. -/
theorem atomic_createDatabase (request : NewDatabase) : Atomic (createDatabase request) := by
  apply Atomic.bind (Reads.check _)
  intro _
  apply Atomic.bind (Reads.get _)
  intro now
  exact Atomic.execute _ _

/-- A database is archived if it is not the reserved one. -/
theorem atomic_archiveDatabase (databaseId : String) : Atomic (archiveDatabase databaseId) := by
  apply Atomic.bind (Reads.check _)
  intro _
  exact Atomic.execute _ _

/-- An asset is stored after its fields have passed and its database was found. -/
theorem atomic_createAsset (databaseId : String) (request : NewAsset) :
    Atomic (createAsset databaseId request) := by
  apply Atomic.bind (Reads.check _)
  intro _
  apply Atomic.bind (reads_activeDatabase databaseId)
  intro database
  apply Atomic.bind (Reads.get _)
  intro now
  exact Atomic.execute _ _

/-- The asset that is restored is there to be read. -/
theorem atomic_restoreAsset (key : AssetKey) : Atomic (restoreAsset key) := by
  apply (Atomic.execute _ _).bind_of_ok
  intro r u r₁ h
  obtain ⟨ready, s, ran, rfl⟩ := execute_eq_ok.1 h
  obtain ⟨a, found⟩ := Store.asset?_of_setAssetArchived ran
  exact ⟨a, _, getAsset_eq_ok.2 ⟨ready, found, rfl⟩⟩

/-- A pipeline is stored after its fields have passed and its database was found. -/
theorem atomic_createPipeline (databaseId : String) (request : NewPipeline) :
    Atomic (createPipeline databaseId request) := by
  apply Atomic.bind (Reads.check _)
  intro _
  apply Atomic.bind (reads_activeDatabase databaseId)
  intro database
  apply Atomic.bind (Reads.get _)
  intro now
  exact Atomic.execute _ _

/-- The pipeline that is enabled or disabled is there to be read. -/
theorem atomic_setPipelineEnabled (ref : PipelineRef) (enabled : Bool) :
    Atomic (setPipelineEnabled ref enabled) := by
  apply (Atomic.execute _ _).bind_of_ok
  intro r u r₁ h
  obtain ⟨ready, s, ran, rfl⟩ := execute_eq_ok.1 h
  obtain ⟨p, found⟩ := Store.pipeline?_of_setPipelineEnabled ran
  have looked : (findPipeline ref).perform (r.wrote s) = (.ok (some p), r.wrote s) :=
    findPipeline_eq_ok.2 ⟨ready, found, rfl⟩
  exact ⟨p, _, bind_eq_ok.2 ⟨_, _, looked, orElse_eq_ok.2 ⟨rfl, rfl⟩⟩⟩

/-- A workflow is stored after its steps were all found. -/
theorem atomic_createWorkflow (databaseId : String) (request : NewWorkflow) :
    Atomic (createWorkflow databaseId request) := by
  apply Atomic.bind (Reads.check _)
  intro _
  apply Atomic.bind (reads_activeDatabase databaseId)
  intro database
  apply Atomic.bind (reads_checkSteps databaseId request.pipelines)
  intro _
  apply Atomic.bind (Reads.get _)
  intro now
  exact Atomic.execute _ _

end Catalog

namespace Links

/-- The number of a new link is used up only with the link. -/
theorem atomic_storeLink (request : NewAssetLink) : Atomic (storeLink request) := by
  apply Atomic.bind (Reads.get _)
  intro row
  apply (Atomic.execute _ _).bind_of_ok
  intro r stored r₁ _
  exact ⟨_, _, rfl⟩

/-- A link is stored after everything that it has to meet. -/
theorem atomic_createLink (request : NewAssetLink) : Atomic (createLink request) := by
  apply Atomic.bind (Reads.check _)
  intro _
  -- Both ends are there.
  apply Atomic.bind (reads_requireEnd _ _)
  intro _
  apply Atomic.bind (reads_requireEnd _ _)
  intro _
  -- Both have room for another link.
  apply Atomic.bind (reads_requireCapacity _)
  intro _
  apply Atomic.bind (reads_requireCapacity _)
  intro _
  apply Atomic.bind (reads_requireAdmissible request)
  intro _
  exact atomic_storeLink request

/-- The link whose tags are replaced is there to be read. -/
theorem atomic_updateTags (assetLinkId : String) (tags : List String) :
    Atomic (updateTags assetLinkId tags) := by
  apply Atomic.bind (Reads.check _)
  intro _
  apply (Atomic.execute _ _).bind_of_ok
  intro r u r₁ h
  obtain ⟨ready, s, ran, rfl⟩ := execute_eq_ok.1 h
  obtain ⟨l, found⟩ := Store.link?_of_setLinkTags ran
  exact ⟨l, _, getLink_eq_ok.2 ⟨ready, found, rfl⟩⟩

/-- The number of deleted rows is not answered. -/
theorem atomic_deleteLink (assetLinkId : String) : Atomic (deleteLink assetLinkId) := by
  apply (Atomic.execute _ _).bind_of_ok
  intro r number r₁ _
  exact ⟨_, _, rfl⟩

/-- Metadata is stored after its link was found and its value has passed. -/
theorem atomic_createMetadata (row : LinkMetadata) : Atomic (createMetadata row) := by
  apply Atomic.bind (reads_getLink row.assetLinkId)
  intro link
  apply Atomic.bind (Reads.check _)
  intro _
  apply (Atomic.execute _ _).bind_of_ok
  intro r u r₁ _
  exact ⟨_, _, rfl⟩

/-- Metadata is changed after its new value has passed. -/
theorem atomic_updateMetadata (row : LinkMetadata) : Atomic (updateMetadata row) := by
  apply Atomic.bind (Reads.check _)
  intro _
  apply (Atomic.execute _ _).bind_of_ok
  intro r u r₁ _
  exact ⟨_, _, rfl⟩

end Links

namespace Executions

/-- The number of a new execution is used up only with the execution. -/
theorem atomic_storeExecution (workflow : WorkflowKey) (asset : AssetKey) :
    Atomic (storeExecution workflow asset) := by
  apply Atomic.bind (Reads.get _)
  intro executionId
  apply Atomic.bind (Reads.get _)
  intro now
  apply (Atomic.execute _ _).bind_of_ok
  intro r stored r₁ _
  exact ⟨_, _, rfl⟩

/-- An execution is stored after its workflow was found runnable and idle. -/
theorem atomic_startExecution (request : StartExecution) : Atomic (startExecution request) := by
  apply Atomic.bind (reads_activeAsset _)
  intro asset
  apply Atomic.bind (Catalog.reads_getWorkflow _ _)
  intro workflow
  apply Atomic.bind (Reads.forM reads_requireEnabled workflow.pipelines)
  intro _
  apply Atomic.bind (reads_requireIdle _ _)
  intro _
  exact atomic_storeExecution _ _

/-- An execution that got a status is there to be read.  If it got none, only reads
    follow. -/
theorem atomic_updateStatus (key : ExecutionKey) (status : ExecutionStatus) :
    Atomic (updateStatus key status) := by
  intro r e r' h
  cases terminal : status.isTerminal with
  | false =>
    rw [perform_updateStatus_of_not_terminal terminal] at h
    exact (reads_refuseStatus _ _).eq h
  | true =>
    rw [perform_updateStatus terminal] at h
    rcases attempted : r.execute (Store.finishExecution key status (some r.now)) with
      ⟨error | u, r₁⟩
    · -- The statement was refused, and why is looked up without a change.
      have unchanged := Registry.eq_of_execute_eq_error attempted
      rw [attempted] at h
      cases error
      case notFound => rw [(reads_refuseStatus _ _).eq h, unchanged]
      all_goals rw [← (Prod.mk.inj h).2, unchanged]
    · -- The statement ran, so that there is no failure.
      obtain ⟨ready, s, ran, rfl⟩ := Registry.execute_eq_ok.1 attempted
      obtain ⟨e₁, found⟩ := Store.execution?_of_finishExecution ran
      have answered : (getExecution key).perform (r.wrote s) = (.ok e₁, r.wrote s) :=
        getExecution_eq_ok.2 ⟨ready, found, rfl⟩
      rw [attempted] at h
      simp [answered] at h

end Executions

namespace Operation

variable {r r' : Registry} {operation : Operation} {e : RegistryError}

/-- Whatever an operation is, its failure leaves the registry as it was. -/
theorem atomic_run (operation : Operation) : Atomic operation.run := by
  by_cases reads : operation.isRead
  · exact (reads_run reads).atomic
  cases operation <;> simp only [isRead, not_true_eq_false] at reads
  -- Every other operation makes its one write at its end, so that nothing fails after it.
  case createDatabase => exact (Catalog.atomic_createDatabase _).map _
  case archiveDatabase => exact (Catalog.atomic_archiveDatabase _).map _
  case createAsset => exact (Catalog.atomic_createAsset _ _).map _
  case archiveAsset => exact (Atomic.execute _ _).map _
  case restoreAsset => exact (Catalog.atomic_restoreAsset _).map _
  case deleteAsset => exact (Atomic.execute _ _).map _
  case createPipeline => exact (Catalog.atomic_createPipeline _ _).map _
  case setPipelineEnabled => exact (Catalog.atomic_setPipelineEnabled _ _).map _
  case createWorkflow => exact (Catalog.atomic_createWorkflow _ _).map _
  case archiveWorkflow => exact (Atomic.execute _ _).map _
  case createLink => exact (Links.atomic_createLink _).map _
  case updateLinkTags => exact (Links.atomic_updateTags _ _).map _
  case deleteLink => exact (Links.atomic_deleteLink _).map _
  case createMetadata => exact (Links.atomic_createMetadata _).map _
  case updateMetadata => exact (Links.atomic_updateMetadata _).map _
  case deleteMetadata => exact (Atomic.execute _ _).map _
  case startExecution => exact (Executions.atomic_startExecution _).map _
  case updateExecutionStatus => exact (Executions.atomic_updateStatus _ _).map _

/-- A registry is after an operation as it was before, or the operation has made a
    step. -/
theorem perform_eq_or_step (operation : Operation) (r : Registry) :
    (operation.perform r).2 = r ∨
      ∃ reply, Step r operation reply (operation.perform r).2 := by
  rcases h : operation.perform r with ⟨e | reply, r'⟩
  · exact .inl (atomic_run operation r e r' h)
  · exact .inr ⟨reply, step_of_perform h⟩

end Operation

end AssetRegistry
