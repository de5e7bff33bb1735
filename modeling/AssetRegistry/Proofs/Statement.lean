import AssetRegistry.Store.Write
import Mathlib.Data.List.Find

/-!
# What statements do

For each statement that changes the store, when it succeeds and the store that it
leaves.  Everything that is said later about changes of the store is derived from the
lemmas here that end in `eq_ok`; no other module looks into a statement.
-/

namespace AssetRegistry.Store

/-! ### Rows -/

/-- A row list in which the chosen rows are changed. -/
def changeRows (rows : List ρ) (chosen : ρ → Bool) (change : ρ → ρ) : List ρ :=
  rows.map fun row => if chosen row then change row else row

section Rows

variable {rows : List ρ} {row : ρ} {chosen : ρ → Bool} {change : ρ → ρ}
  {answer : List ρ → α × Store} {p : α × Store}

/-- A new row is at the end.  Its key was free and its owner was there. -/
theorem map_insertRow_eq_ok {isTaken hasOwner : Bool} :
    answer <$> insertRow rows row isTaken hasOwner = .ok p ↔
      isTaken = false ∧ hasOwner = true ∧ answer (rows ++ [row]) = p := by
  unfold insertRow
  cases isTaken <;> cases hasOwner <;> simp [Functor.map, Except.map]

/-- A taken key is noticed before anything else. -/
theorem map_insertRow_eq_uniqueViolation {isTaken hasOwner : Bool} :
    answer <$> insertRow rows row isTaken hasOwner = .error .uniqueViolation ↔ isTaken = true := by
  unfold insertRow
  cases isTaken <;> cases hasOwner <;> simp [Functor.map, Except.map]

/-- There was a row to change. -/
theorem map_updateRows_eq_ok :
    answer <$> updateRows rows chosen change = .ok p ↔
      (∃ row ∈ rows, chosen row) ∧ answer (changeRows rows chosen change) = p := by
  unfold updateRows
  by_cases found : rows.any chosen
  · simp [found, changeRows, Functor.map, Except.map, ← List.any_eq_true]
  · simp [found, Functor.map, Except.map, ← List.any_eq_true]

/-- Without a row to change, nothing else is reported. -/
theorem map_updateRows_eq_error {e : StoreError} :
    answer <$> updateRows rows chosen change = .error e ↔
      (∀ row ∈ rows, chosen row = false) ∧ .notFound = e := by
  unfold updateRows
  cases found : rows.any chosen with
  | false =>
    have unchosen := List.any_eq_false.1 found
    simpa [Functor.map, Except.map] using fun _ row member => by simpa using unchosen row member
  | true =>
    obtain ⟨row, member, h⟩ := List.any_eq_true.1 found
    simpa [Functor.map, Except.map] using fun unchosen => by simp [unchosen row member] at h

/-- A row after a change is a row from before it, changed if it was chosen. -/
theorem mem_changeRows {row' : ρ} :
    row' ∈ changeRows rows chosen change ↔
      ∃ row ∈ rows, (if chosen row then change row else row) = row' :=
  List.mem_map

/-- What the change keeps true of a row stays true of all rows. -/
theorem forall_mem_changeRows {P : ρ → Prop} (keeps : ∀ row, P row → P (change row))
    (before : ∀ row ∈ rows, P row) : ∀ row ∈ changeRows rows chosen change, P row := by
  intro row' changed
  obtain ⟨row, member, rfl⟩ := mem_changeRows.1 changed
  split
  · exact keeps row (before row member)
  · exact before row member

/-- What the change keeps is kept in every row. -/
theorem map_changeRows {g : ρ → β} (keeps : ∀ row, g (change row) = g row) :
    (changeRows rows chosen change).map g = rows.map g := by
  rw [changeRows, List.map_map]
  apply List.map_congr_left
  intro row _
  by_cases h : chosen row <;> simp [h, keeps]

/-- A change of the same rows that undoes one leaves the rows as they were. -/
theorem changeRows_undo {undo : ρ → ρ} (keeps : ∀ row, chosen (change row) = chosen row)
    (undone : ∀ row ∈ rows, chosen row → undo (change row) = row) :
    changeRows (changeRows rows chosen change) chosen undo = rows := by
  rw [changeRows, changeRows, List.map_map]
  refine (List.map_congr_left fun row member => ?_).trans (List.map_id _)
  by_cases h : chosen row
  · simp [h, keeps, undone row member h]
  · simp [h]

/-- A row is found after a change where it was found before, if the change keeps what
    it is looked up by. -/
theorem find?_changeRows {q : ρ → Bool} (keeps : ∀ row, q (change row) = q row) :
    (changeRows rows chosen change).find? q =
      (rows.find? q).map fun row => if chosen row then change row else row := by
  -- A row is looked up after the change as it would be looked up before it.
  rw [changeRows, List.find?_map]
  congr 2
  funext row
  by_cases h : chosen row <;> simp [h, keeps]

/-- A row that was there to be changed is found after the change. -/
theorem exists_find?_changeRows {q : ρ → Bool} (keeps : ∀ row, q (change row) = q row)
    (there : ∃ row ∈ rows, q row) : ∃ row, (changeRows rows chosen change).find? q = some row := by
  rw [find?_changeRows keeps]
  obtain ⟨row, found⟩ := Option.isSome_iff_exists.1 (List.find?_isSome.2 there)
  exact ⟨_, by rw [found]; rfl⟩

/-- What is looked up is found after a removal that leaves all such rows. -/
theorem find?_filter_of_kept {keep q : ρ → Bool} (kept : ∀ row ∈ rows, q row → keep row) :
    (rows.filter keep).find? q = rows.find? q := by
  rw [List.find?_filter]
  apply List.find?_congr
  intro row member
  cases h : q row with
  | false => simp
  | true => simp [kept row member h]

/-- What is chosen is the same after a removal that leaves all such rows. -/
theorem filter_filter_of_kept {keep chosen : ρ → Bool} (kept : ∀ row, chosen row → keep row) :
    (rows.filter keep).filter chosen = rows.filter chosen := by
  rw [List.filter_filter]
  apply List.filter_congr
  intro row _
  cases h : chosen row with
  | false => rfl
  | true => simp [kept row h]

/-- What is looked up is not found after a removal of all such rows. -/
theorem find?_filter_of_removed {keep q : ρ → Bool}
    (removed : ∀ row ∈ rows, q row → keep row = false) :
    (rows.filter keep).find? q = none := by
  rw [List.find?_eq_none]
  intro row member found
  obtain ⟨there, left⟩ := List.mem_filter.1 member
  rw [removed row there found] at left
  exact nomatch left

end Rows

variable {s s' : Store}

/-! ### Databases and assets -/

/-- A database is stored under an id that is free. -/
theorem insertDatabase_eq_ok {row d : Database} :
    insertDatabase row s = .ok (d, s') ↔
      s.database? row.databaseId = none ∧ row = d ∧
        { s with databases := s.databases ++ [row] } = s' := by
  simp [insertDatabase, map_insertRow_eq_ok]

/-- A database is archived where it is stored. -/
theorem setDatabaseArchived_eq_ok {databaseId : String} {archived : Bool} :
    setDatabaseArchived databaseId archived s = .ok ((), s') ↔
      (∃ d ∈ s.databases, d.databaseId = databaseId) ∧
        { s with
          databases := changeRows s.databases (·.databaseId = databaseId)
            ({ · with archived }) } = s' := by
  simp [setDatabaseArchived, map_updateRows_eq_ok]

/-- An asset is stored in a stored database, under a key that is free. -/
theorem insertAsset_eq_ok {row a : Asset} :
    insertAsset row s = .ok (a, s') ↔
      s.asset? row.key = none ∧ (s.database? row.databaseId).isSome ∧ row = a ∧
        { s with assets := s.assets ++ [row] } = s' := by
  simp [insertAsset, map_insertRow_eq_ok]

/-- An asset is archived where it is stored. -/
theorem setAssetArchived_eq_ok {key : AssetKey} {archived : Bool} :
    setAssetArchived key archived s = .ok ((), s') ↔
      (∃ a ∈ s.assets, a.key = key) ∧
        { s with assets := changeRows s.assets (·.key = key) ({ · with archived }) } = s' := by
  simp [setAssetArchived, map_updateRows_eq_ok]

/-- An asset is still there after it was archived or taken back. -/
theorem asset?_of_setAssetArchived {key : AssetKey} {archived : Bool}
    (ran : setAssetArchived key archived s = .ok ((), s')) : ∃ a, s'.asset? key = some a := by
  obtain ⟨there, rfl⟩ := setAssetArchived_eq_ok.1 ran
  exact exists_find?_changeRows (fun _ => rfl) (by simpa using there)

/-- With an asset go its links, and with a link its metadata. -/
theorem deleteAssetCascade_eq_ok {key : AssetKey} {number : Nat} :
    deleteAssetCascade key s = .ok (number, s') ↔
      (s.asset? key).isSome ∧ (s.links.filter (·.touches key)).length = number ∧
        { s with
          assets := s.assets.filter (·.key ≠ key)
          links := s.links.filter (!·.touches key)
          metadata := s.metadata.filter fun m =>
            !(s.links.filter (·.touches key)).any (·.assetLinkId = m.assetLinkId) } = s' := by
  unfold deleteAssetCascade
  cases s.asset? key <;> simp

/-! ### Links and their metadata -/

/-- A link is stored under an id that is free, whatever its ends are. -/
theorem insertLink_eq_ok {row l : AssetLink} :
    insertLink row s = .ok (l, s') ↔
      s.link? row.assetLinkId = none ∧ row = l ∧ { s with links := s.links ++ [row] } = s' := by
  simp [insertLink, map_insertRow_eq_ok]

/-- A link gets tags where it is stored. -/
theorem setLinkTags_eq_ok {assetLinkId : String} {tags : List String} :
    setLinkTags assetLinkId tags s = .ok ((), s') ↔
      (∃ l ∈ s.links, l.assetLinkId = assetLinkId) ∧
        { s with
          links := changeRows s.links (·.assetLinkId = assetLinkId) ({ · with tags }) } = s' := by
  simp [setLinkTags, map_updateRows_eq_ok]

/-- A link is still there after its tags were replaced. -/
theorem link?_of_setLinkTags {assetLinkId : String} {tags : List String}
    (ran : setLinkTags assetLinkId tags s = .ok ((), s')) :
    ∃ l, s'.link? assetLinkId = some l := by
  obtain ⟨there, rfl⟩ := setLinkTags_eq_ok.1 ran
  exact exists_find?_changeRows (fun _ => rfl) (by simpa using there)

/-- A link is deleted with its metadata, which is counted. -/
theorem deleteLinkCascade_eq_ok {assetLinkId : String} {number : Nat} :
    deleteLinkCascade assetLinkId s = .ok (number, s') ↔
      (s.link? assetLinkId).isSome ∧ s.metadataCount assetLinkId = number ∧
        { s with
          links := s.links.filter (·.assetLinkId ≠ assetLinkId)
          metadata := s.metadata.filter (·.assetLinkId ≠ assetLinkId) } = s' := by
  unfold deleteLinkCascade
  cases s.link? assetLinkId <;> simp

/-- Metadata is stored on a stored link, under a key that is free. -/
theorem insertMetadata_eq_ok {row : LinkMetadata} :
    insertMetadata row s = .ok ((), s') ↔
      s.metadata? row.assetLinkId row.metadataKey = none ∧ (s.link? row.assetLinkId).isSome ∧
        { s with metadata := s.metadata ++ [row] } = s' := by
  simp [insertMetadata, map_insertRow_eq_ok]

/-- Metadata is changed where it is stored. -/
theorem setMetadata_eq_ok {row : LinkMetadata} :
    setMetadata row s = .ok ((), s') ↔
      (∃ m ∈ s.metadata, m.assetLinkId = row.assetLinkId ∧ m.metadataKey = row.metadataKey) ∧
        { s with
          metadata := changeRows s.metadata
            (fun m => m.assetLinkId = row.assetLinkId && m.metadataKey = row.metadataKey)
            ({ · with
                metadataValue := row.metadataValue
                metadataValueType := row.metadataValueType }) } = s' := by
  simp [setMetadata, map_updateRows_eq_ok]

/-- Metadata is deleted where it is stored. -/
theorem deleteMetadata_eq_ok {assetLinkId metadataKey : String} :
    deleteMetadata assetLinkId metadataKey s = .ok ((), s') ↔
      (s.metadata? assetLinkId metadataKey).isSome ∧
        { s with
          metadata := s.metadata.filter fun m =>
            !(m.assetLinkId = assetLinkId && m.metadataKey = metadataKey) } = s' := by
  unfold deleteMetadata
  cases s.metadata? assetLinkId metadataKey <;> simp

/-! ### Pipelines and workflows -/

/-- A pipeline is stored in a stored database, under a reference that is free. -/
theorem insertPipeline_eq_ok {row p : Pipeline} :
    insertPipeline row s = .ok (p, s') ↔
      s.pipeline? row.ref = none ∧ (s.database? row.databaseId).isSome ∧ row = p ∧
        { s with pipelines := s.pipelines ++ [row] } = s' := by
  simp [insertPipeline, map_insertRow_eq_ok]

/-- A pipeline is enabled or disabled where it is stored. -/
theorem setPipelineEnabled_eq_ok {ref : PipelineRef} {enabled : Bool} :
    setPipelineEnabled ref enabled s = .ok ((), s') ↔
      (∃ p ∈ s.pipelines, p.ref = ref) ∧
        { s with pipelines := changeRows s.pipelines (·.ref = ref) ({ · with enabled }) } = s' := by
  simp [setPipelineEnabled, map_updateRows_eq_ok]

/-- A pipeline is still there after it was enabled or disabled. -/
theorem pipeline?_of_setPipelineEnabled {ref : PipelineRef} {enabled : Bool}
    (ran : setPipelineEnabled ref enabled s = .ok ((), s')) :
    ∃ p, s'.pipeline? ref = some p := by
  obtain ⟨there, rfl⟩ := setPipelineEnabled_eq_ok.1 ran
  exact exists_find?_changeRows (fun _ => rfl) (by simpa using there)

/-- A workflow is stored in a stored database, under a key that is free. -/
theorem insertWorkflow_eq_ok {row w : Workflow} :
    insertWorkflow row s = .ok (w, s') ↔
      s.workflow? row.key = none ∧ (s.database? row.databaseId).isSome ∧ row = w ∧
        { s with workflows := s.workflows ++ [row] } = s' := by
  simp [insertWorkflow, map_insertRow_eq_ok]

/-- A workflow is archived where it is stored. -/
theorem setWorkflowArchived_eq_ok {key : WorkflowKey} {archived : Bool} :
    setWorkflowArchived key archived s = .ok ((), s') ↔
      (∃ w ∈ s.workflows, w.key = key) ∧
        { s with
          workflows := changeRows s.workflows (·.key = key) ({ · with archived }) } = s' := by
  simp [setWorkflowArchived, map_updateRows_eq_ok]

/-! ### Executions -/

/-- The row of a new execution. -/
def newExecution (key : ExecutionKey) (asset : AssetKey) (startedAt : Moment) : Execution where
  workflowDatabaseId := key.workflowDatabaseId
  workflowId := key.workflowId
  executionId := key.executionId
  databaseId := asset.databaseId
  assetId := asset.assetId
  status := .running
  startedAt
  stoppedAt := none

/-- The index holds the rows that are counted: the slot of a new execution is taken exactly
    where the count of the running ones is positive. -/
theorem runningSlotIsTaken_newExecution {key : ExecutionKey} {asset : AssetKey}
    {startedAt : Moment} :
    s.runningSlotIsTaken (newExecution key asset startedAt) ↔
      0 < s.runningCount asset key.workflowId := by
  have slot_eq_iff (e : Execution) :
      e.runningSlot? = some (asset.databaseId, asset.assetId, key.workflowId) ↔
        e.isOn asset key.workflowId ∧ e.status = .running := by
    unfold Execution.runningSlot? Execution.isOn
    split <;> simp_all [and_assoc]
  show (s.executions.any fun e => e.runningSlot? =
    some (asset.databaseId, asset.assetId, key.workflowId)) = true ↔ _
  rw [runningCount, List.countP_pos_iff, List.any_eq_true]
  simp [slot_eq_iff]

/-- An execution is stored under a key that is free, where none of its workflow's id runs. -/
theorem insertExecution_eq_ok {key : ExecutionKey} {asset : AssetKey} {startedAt : Moment}
    {e : Execution} :
    insertExecution key asset startedAt s = .ok (e, s') ↔
      s.execution? key = none ∧ s.runningCount asset key.workflowId = 0 ∧
        newExecution key asset startedAt = e ∧
        { s with executions := s.executions ++ [newExecution key asset startedAt] } = s' := by
  have idle_iff : s.runningSlotIsTaken (newExecution key asset startedAt) = false ↔
      s.runningCount asset key.workflowId = 0 := by
    rw [← Bool.not_eq_true, runningSlotIsTaken_newExecution, Nat.not_lt, Nat.le_zero]
  rw [newExecution] at idle_iff
  simp [insertExecution, map_insertRow_eq_ok, newExecution, and_assoc, idle_iff]

/-- A new execution needs a free key, and no running one of its workflow id on its asset. -/
theorem insertExecution_eq_uniqueViolation {key : ExecutionKey} {asset : AssetKey}
    {startedAt : Moment} :
    insertExecution key asset startedAt s = .error .uniqueViolation ↔
      (s.execution? key).isSome ∨ 0 < s.runningCount asset key.workflowId := by
  rw [← @runningSlotIsTaken_newExecution s key asset startedAt]
  simp [insertExecution, map_insertRow_eq_uniqueViolation, newExecution]

/-- A status is recorded where the execution is stored and running. -/
theorem finishExecution_eq_ok {key : ExecutionKey} {status : ExecutionStatus}
    {stoppedAt : Option Moment} :
    finishExecution key status stoppedAt s = .ok ((), s') ↔
      (∃ e ∈ s.executions, e.key = key ∧ e.status = .running) ∧
        { s with
          executions := changeRows s.executions (fun e => e.key = key && e.status = .running)
            ({ · with status, stoppedAt }) } = s' := by
  simp [finishExecution, map_updateRows_eq_ok]

/-- An execution is still there after it got a status. -/
theorem execution?_of_finishExecution {key : ExecutionKey} {status : ExecutionStatus}
    {stoppedAt : Option Moment} (ran : finishExecution key status stoppedAt s = .ok ((), s')) :
    ∃ e, s'.execution? key = some e := by
  obtain ⟨⟨e, there, named, _⟩, rfl⟩ := finishExecution_eq_ok.1 ran
  exact exists_find?_changeRows (fun _ => rfl) ⟨e, there, by simpa using named⟩

/-- A status is refused for one reason only. -/
theorem finishExecution_eq_error {key : ExecutionKey} {status : ExecutionStatus}
    {stoppedAt : Option Moment} {e : StoreError} :
    finishExecution key status stoppedAt s = .error e ↔
      (∀ e ∈ s.executions, e.key = key → e.status ≠ .running) ∧ .notFound = e := by
  simp [finishExecution, map_updateRows_eq_error]

end AssetRegistry.Store
