import AssetRegistry.Proofs.Statement

/-!
# What statements are refused for

A new row is refused because its key is taken or because its owner is missing, and where
the owner was seen before, only because of the key.  A change or a removal is refused
only where there is no row for it.  Hence whoever runs a statement after having looked
for the owner has one refusal to word.
-/

namespace AssetRegistry.Store

/-- On a store, a statement has one reason at most to be refused. -/
def RefusesOnly (reason : StoreError) (statement : Statement α) (s : Store) : Prop :=
  ∀ e, statement s = .error e → e = reason

section Rows

variable {rows : List ρ} {row : ρ} {isTaken hasOwner : Bool} {chosen : ρ → Bool}
  {change : ρ → ρ} {answer : List ρ → α × Store} {e : StoreError}

/-- Where the owner is there, a row is refused only if its key is taken. -/
theorem eq_uniqueViolation_of_map_insertRow (owner : hasOwner = true)
    (refused : answer <$> insertRow rows row isTaken hasOwner = .error e) :
    e = .uniqueViolation := by
  subst owner
  cases isTaken <;> simp_all [insertRow, Functor.map, Except.map]

/-- A change is refused only if there is no row for it. -/
theorem eq_notFound_of_map_updateRows
    (refused : answer <$> updateRows rows chosen change = .error e) : e = .notFound :=
  (map_updateRows_eq_error.1 refused).2.symm

end Rows

variable {s : Store}

/-! ### New rows -/

/-- A database belongs to nothing, so only its id can be in the way. -/
theorem insertDatabase_refusesOnly (row : Database) :
    RefusesOnly .uniqueViolation (insertDatabase row) s := by
  intro e refused
  exact eq_uniqueViolation_of_map_insertRow rfl refused

/-- In a stored database an asset is refused only if its key is taken. -/
theorem insertAsset_refusesOnly {row : Asset} (owner : (s.database? row.databaseId).isSome) :
    RefusesOnly .uniqueViolation (insertAsset row) s := by
  intro e refused
  exact eq_uniqueViolation_of_map_insertRow owner refused

/-- In a stored database a pipeline is refused only if its reference is taken. -/
theorem insertPipeline_refusesOnly {row : Pipeline} (owner : (s.database? row.databaseId).isSome) :
    RefusesOnly .uniqueViolation (insertPipeline row) s := by
  intro e refused
  exact eq_uniqueViolation_of_map_insertRow owner refused

/-- In a stored database a workflow is refused only if its key is taken. -/
theorem insertWorkflow_refusesOnly {row : Workflow} (owner : (s.database? row.databaseId).isSome) :
    RefusesOnly .uniqueViolation (insertWorkflow row) s := by
  intro e refused
  exact eq_uniqueViolation_of_map_insertRow owner refused

/-- On a stored link metadata is refused only if its key is taken. -/
theorem insertMetadata_refusesOnly {row : LinkMetadata}
    (owner : (s.link? row.assetLinkId).isSome) :
    RefusesOnly .uniqueViolation (insertMetadata row) s := by
  intro e refused
  exact eq_uniqueViolation_of_map_insertRow owner refused

/-- An execution is refused only if its key or the slot of its workflow is taken. -/
theorem insertExecution_refusesOnly (key : ExecutionKey) (asset : AssetKey) (startedAt : Moment) :
    RefusesOnly .uniqueViolation (insertExecution key asset startedAt) s := by
  intro e refused
  exact eq_uniqueViolation_of_map_insertRow rfl refused

/-- A link has no owner, and with a free id it is not refused at all. -/
theorem insertLink_ne_error {row : AssetLink} (free : s.link? row.assetLinkId = none)
    (e : StoreError) : insertLink row s ≠ .error e := by
  intro refused
  have stored := insertLink_eq_ok.2 ⟨free, rfl, rfl⟩
  rw [refused] at stored
  exact nomatch stored

/-! ### Changed and removed rows -/

/-- A database can be archived and brought back wherever it is stored. -/
theorem setDatabaseArchived_refusesOnly (databaseId : String) (archived : Bool) :
    RefusesOnly .notFound (setDatabaseArchived databaseId archived) s := by
  intro e refused
  exact eq_notFound_of_map_updateRows refused

/-- An asset can be archived and restored wherever it is stored. -/
theorem setAssetArchived_refusesOnly (key : AssetKey) (archived : Bool) :
    RefusesOnly .notFound (setAssetArchived key archived) s := by
  intro e refused
  exact eq_notFound_of_map_updateRows refused

/-- A link can be tagged wherever it is stored. -/
theorem setLinkTags_refusesOnly (assetLinkId : String) (tags : List String) :
    RefusesOnly .notFound (setLinkTags assetLinkId tags) s := by
  intro e refused
  exact eq_notFound_of_map_updateRows refused

/-- Metadata can be changed wherever it is stored. -/
theorem setMetadata_refusesOnly (row : LinkMetadata) :
    RefusesOnly .notFound (setMetadata row) s := by
  intro e refused
  exact eq_notFound_of_map_updateRows refused

/-- A pipeline can be enabled and disabled wherever it is stored. -/
theorem setPipelineEnabled_refusesOnly (ref : PipelineRef) (enabled : Bool) :
    RefusesOnly .notFound (setPipelineEnabled ref enabled) s := by
  intro e refused
  exact eq_notFound_of_map_updateRows refused

/-- A workflow can be archived wherever it is stored. -/
theorem setWorkflowArchived_refusesOnly (key : WorkflowKey) (archived : Bool) :
    RefusesOnly .notFound (setWorkflowArchived key archived) s := by
  intro e refused
  exact eq_notFound_of_map_updateRows refused

/-- An execution is refused a new status only if it is not there or not running. -/
theorem finishExecution_refusesOnly (key : ExecutionKey) (status : ExecutionStatus)
    (stoppedAt : Option Moment) : RefusesOnly .notFound (finishExecution key status stoppedAt) s := by
  intro e refused
  exact eq_notFound_of_map_updateRows refused

/-- An asset can be deleted wherever it is stored, whatever is linked to it. -/
theorem deleteAssetCascade_refusesOnly (key : AssetKey) :
    RefusesOnly .notFound (deleteAssetCascade key) s := by
  intro e refused
  unfold deleteAssetCascade at refused
  split at refused <;> simp_all

/-- A link can be deleted wherever it is stored, with its metadata. -/
theorem deleteLinkCascade_refusesOnly (assetLinkId : String) :
    RefusesOnly .notFound (deleteLinkCascade assetLinkId) s := by
  intro e refused
  unfold deleteLinkCascade at refused
  split at refused <;> simp_all

/-- Metadata can be deleted wherever it is stored. -/
theorem deleteMetadata_refusesOnly (assetLinkId metadataKey : String) :
    RefusesOnly .notFound (deleteMetadata assetLinkId metadataKey) s := by
  intro e refused
  unfold deleteMetadata at refused
  split at refused <;> simp_all

end AssetRegistry.Store
