import AssetRegistry.Proofs.Reachable
import Mathlib.Data.List.Nodup

/-!
# Keys and references

In every registry that operations lead to, the keys of each table are distinct and
every reference from one row to another one has its row.  The store itself insists on
the keys and on the owners of assets, pipelines, workflows and metadata.  The ends of
links, the steps of workflows and the workflows of executions are looked up by the
operations that store them, and only the deletions of assets and links take rows away.
-/

namespace AssetRegistry

/-- The key of the workflow that an execution is a run of. -/
def Execution.workflowKey (e : Execution) : WorkflowKey :=
  ⟨e.workflowDatabaseId, e.workflowId⟩

/-- What identifies a metadata value: its link, and its key at that link. -/
def LinkMetadata.place (m : LinkMetadata) : String × String :=
  (m.assetLinkId, m.metadataKey)

namespace Store

variable {s s' : Store}

/-! ### Columns of keys -/

section Keys

variable {κ : Type} {rows : List ρ} {g : ρ → κ} {row : ρ} {k : κ}

/-- A new row with a free key leaves the keys distinct. -/
theorem nodup_keys_append (distinct : (rows.map g).Nodup) (free : g row ∉ rows.map g) :
    ((rows ++ [row]).map g).Nodup := by
  rw [List.map_append, List.map_singleton, List.nodup_append]
  refine ⟨distinct, by simp, fun k old k' new => ?_⟩
  rw [List.mem_singleton.1 new]
  exact fun same => free (same ▸ old)

/-- Rows that are left after a removal have distinct keys. -/
theorem nodup_keys_filter (distinct : (rows.map g).Nodup) (keep : ρ → Bool) :
    ((rows.filter keep).map g).Nodup :=
  distinct.sublist (List.filter_sublist.map g)

/-- Where keys are distinct, so is a column by which the keys can be told. -/
theorem nodup_keys_of_tells {κ' : Type} {h : ρ → κ'} (distinct : (rows.map g).Nodup)
    (tells : ∀ row ∈ rows, ∀ row' ∈ rows, h row = h row' → g row = g row') :
    (rows.map h).Nodup := by
  apply (List.Nodup.of_map _ distinct).map_on
  intro row member row' member' same
  exact List.inj_on_of_nodup_map distinct member member' (tells row member row' member' same)

/-- A key that is there is still there after a row was added. -/
theorem mem_keys_append (there : k ∈ rows.map g) : k ∈ (rows ++ [row]).map g := by
  rw [List.map_append]
  exact List.mem_append_left _ there

/-- Only the key of the removed row is gone. -/
theorem mem_keys_filter_ne [DecidableEq κ] {removed : κ} (there : k ∈ rows.map g)
    (other : k ≠ removed) : k ∈ (rows.filter (g · ≠ removed)).map g := by
  obtain ⟨row, member, rfl⟩ := List.mem_map.1 there
  exact List.mem_map_of_mem (List.mem_filter.2 ⟨member, by simpa using other⟩)

/-- A change that keeps the keys keeps them distinct. -/
theorem nodup_keys_changeRows {chosen : ρ → Bool} {change : ρ → ρ}
    (keeps : ∀ row, g (change row) = g row) (distinct : (rows.map g).Nodup) :
    ((changeRows rows chosen change).map g).Nodup := by
  rw [map_changeRows keeps]
  exact distinct

/-- A key that is there is still there after a change that keeps the keys. -/
theorem mem_keys_changeRows {chosen : ρ → Bool} {change : ρ → ρ}
    (keeps : ∀ row, g (change row) = g row) (there : k ∈ rows.map g) :
    k ∈ (changeRows rows chosen change).map g := by
  rw [map_changeRows keeps]
  exact there

/-- What holds of all rows and of a new one holds of all rows with the new one. -/
theorem forall_mem_append_singleton {P : ρ → Prop} (before : ∀ row ∈ rows, P row) (new : P row) :
    ∀ row' ∈ rows ++ [row], P row' := by
  intro row' member
  rcases List.mem_append.1 member with old | added
  · exact before row' old
  · rw [List.mem_singleton.1 added]
    exact new

/-- A row is found by its key where the key is there. -/
theorem isSome_find?_iff_mem_keys [DecidableEq κ] :
    (rows.find? (g · = k)).isSome ↔ k ∈ rows.map g := by
  simp [List.find?_isSome]

/-- No row is found by its key where the key is free. -/
theorem find?_eq_none_iff_notMem_keys [DecidableEq κ] :
    rows.find? (g · = k) = none ↔ k ∉ rows.map g := by
  rw [← isSome_find?_iff_mem_keys, Option.not_isSome_iff_eq_none]

/-- Where keys are distinct, every row is the one that is found by its key. -/
theorem find?_eq_some_of_mem [DecidableEq κ] (distinct : (rows.map g).Nodup)
    (member : row ∈ rows) : rows.find? (g · = g row) = some row := by
  -- Some row of the key is found, and there is only this one.
  obtain ⟨found, h⟩ := Option.isSome_iff_exists.1
    (isSome_find?_iff_mem_keys.2 (List.mem_map_of_mem (f := g) member))
  have same : g found = g row := by simpa using List.find?_some h
  rw [h, List.inj_on_of_nodup_map distinct (List.mem_of_find?_eq_some h) member same]

/-- Where keys are distinct, what is found by a key is the row that has it. -/
theorem find?_eq_some_iff_mem [DecidableEq κ] (distinct : (rows.map g).Nodup) :
    rows.find? (g · = k) = some row ↔ row ∈ rows ∧ g row = k := by
  constructor
  · intro found
    exact ⟨List.mem_of_find?_eq_some found, by simpa using List.find?_some found⟩
  · rintro ⟨member, rfl⟩
    exact find?_eq_some_of_mem distinct member

end Keys

/-- The keys of the databases. -/
def databaseIds (s : Store) : List String :=
  s.databases.map (·.databaseId)

/-- The keys of the assets. -/
def assetKeys (s : Store) : List AssetKey :=
  s.assets.map Asset.key

/-- The keys of the links. -/
def linkIds (s : Store) : List String :=
  s.links.map (·.assetLinkId)

/-- The keys of the metadata values. -/
def metadataPlaces (s : Store) : List (String × String) :=
  s.metadata.map LinkMetadata.place

/-- The keys of the pipelines. -/
def pipelineRefs (s : Store) : List PipelineRef :=
  s.pipelines.map Pipeline.ref

/-- The keys of the workflows. -/
def workflowKeys (s : Store) : List WorkflowKey :=
  s.workflows.map Workflow.key

/-- The keys of the executions. -/
def executionKeys (s : Store) : List ExecutionKey :=
  s.executions.map Execution.key

/-- Metadata is not found where its place is free. -/
theorem metadata?_eq_none_iff {assetLinkId metadataKey : String} :
    s.metadata? assetLinkId metadataKey = none ↔
      (assetLinkId, metadataKey) ∉ s.metadataPlaces := by
  simp [metadata?, metadataPlaces, LinkMetadata.place]

/-- Keys are distinct, and references have their rows. -/
structure Consistent (s : Store) : Prop where
  distinctDatabases : s.databaseIds.Nodup
  distinctAssets : s.assetKeys.Nodup
  distinctLinks : s.linkIds.Nodup
  distinctMetadata : s.metadataPlaces.Nodup
  distinctPipelines : s.pipelineRefs.Nodup
  distinctWorkflows : s.workflowKeys.Nodup
  distinctExecutions : s.executionKeys.Nodup
  assetDatabase : ∀ a ∈ s.assets, a.databaseId ∈ s.databaseIds
  linkEnds : ∀ l ∈ s.links, l.source ∈ s.assetKeys ∧ l.target ∈ s.assetKeys
  metadataLink : ∀ m ∈ s.metadata, m.assetLinkId ∈ s.linkIds
  pipelineDatabase : ∀ p ∈ s.pipelines, p.databaseId ∈ s.databaseIds
  workflowDatabase : ∀ w ∈ s.workflows, w.databaseId ∈ s.databaseIds
  workflowSteps : ∀ w ∈ s.workflows, ∀ step ∈ w.pipelines, step ∈ s.pipelineRefs
  executionWorkflow : ∀ e ∈ s.executions, e.workflowKey ∈ s.workflowKeys

namespace Consistent

/-- A stored execution is found under its key. -/
theorem execution?_eq_some (inv : s.Consistent) {e : Execution} (member : e ∈ s.executions) :
    s.execution? e.key = some e :=
  find?_eq_some_of_mem inv.distinctExecutions member

/-- Nothing refers to anything yet. -/
theorem initial : Consistent .initial := by
  constructor <;> simp [Store.initial, databaseIds, assetKeys, linkIds, metadataPlaces,
    pipelineRefs, workflowKeys, executionKeys]

/-! ### Databases and assets -/

/-- A new database has a new id and refers to nothing. -/
theorem insertDatabase (inv : s.Consistent) {row d : Database}
    (ran : Store.insertDatabase row s = .ok (d, s')) : s'.Consistent := by
  obtain ⟨free, _, rfl⟩ := insertDatabase_eq_ok.1 ran
  have fresh : row.databaseId ∉ s.databaseIds := find?_eq_none_iff_notMem_keys.1 free
  exact { inv with
    distinctDatabases := nodup_keys_append inv.distinctDatabases fresh
    assetDatabase := fun a member => mem_keys_append (inv.assetDatabase a member)
    pipelineDatabase := fun p member => mem_keys_append (inv.pipelineDatabase p member)
    workflowDatabase := fun w member => mem_keys_append (inv.workflowDatabase w member) }

/-- An archived database keeps its id. -/
theorem setDatabaseArchived (inv : s.Consistent) {databaseId : String} {archived : Bool}
    (ran : Store.setDatabaseArchived databaseId archived s = .ok ((), s')) : s'.Consistent := by
  obtain ⟨_, rfl⟩ := setDatabaseArchived_eq_ok.1 ran
  exact { inv with
    distinctDatabases := nodup_keys_changeRows (fun _ => rfl) inv.distinctDatabases
    assetDatabase := fun a member => mem_keys_changeRows (fun _ => rfl) (inv.assetDatabase a member)
    pipelineDatabase := fun p member =>
      mem_keys_changeRows (fun _ => rfl) (inv.pipelineDatabase p member)
    workflowDatabase := fun w member =>
      mem_keys_changeRows (fun _ => rfl) (inv.workflowDatabase w member) }

/-- A new asset has a new key and a stored database. -/
theorem insertAsset (inv : s.Consistent) {row a : Asset}
    (ran : Store.insertAsset row s = .ok (a, s')) : s'.Consistent := by
  obtain ⟨free, owner, _, rfl⟩ := insertAsset_eq_ok.1 ran
  have fresh : row.key ∉ s.assetKeys := find?_eq_none_iff_notMem_keys.1 free
  exact { inv with
    distinctAssets := nodup_keys_append inv.distinctAssets fresh
    assetDatabase := forall_mem_append_singleton inv.assetDatabase
      (isSome_find?_iff_mem_keys.1 owner)
    linkEnds := fun l member =>
      (inv.linkEnds l member).imp mem_keys_append mem_keys_append }

/-- An archived asset keeps its key. -/
theorem setAssetArchived (inv : s.Consistent) {key : AssetKey} {archived : Bool}
    (ran : Store.setAssetArchived key archived s = .ok ((), s')) : s'.Consistent := by
  obtain ⟨_, rfl⟩ := setAssetArchived_eq_ok.1 ran
  exact { inv with
    distinctAssets := nodup_keys_changeRows (fun _ => rfl) inv.distinctAssets
    assetDatabase := forall_mem_changeRows (fun _ h => h) inv.assetDatabase
    linkEnds := fun l member => (inv.linkEnds l member).imp
      (mem_keys_changeRows fun _ => rfl) (mem_keys_changeRows fun _ => rfl) }

/-- The links that are left have both their ends, and the metadata that is left has its
    link. -/
theorem deleteAssetCascade (inv : s.Consistent) {key : AssetKey} {number : Nat}
    (ran : Store.deleteAssetCascade key s = .ok (number, s')) : s'.Consistent := by
  obtain ⟨_, _, rfl⟩ := deleteAssetCascade_eq_ok.1 ran
  refine { inv with
    distinctAssets := nodup_keys_filter inv.distinctAssets _
    distinctLinks := nodup_keys_filter inv.distinctLinks _
    distinctMetadata := nodup_keys_filter inv.distinctMetadata _
    assetDatabase := fun a member => inv.assetDatabase a (List.mem_filter.1 member).1
    linkEnds := fun l member => ?_
    metadataLink := fun m member => ?_ }
  · -- A link that is left has the removed asset at neither end.
    obtain ⟨there, apart⟩ := List.mem_filter.1 member
    simp only [AssetLink.touches, Bool.not_eq_true', Bool.or_eq_false_iff,
      decide_eq_false_iff_not] at apart
    obtain ⟨source, target⟩ := inv.linkEnds l there
    exact ⟨mem_keys_filter_ne source apart.1, mem_keys_filter_ne target apart.2⟩
  · obtain ⟨there, left⟩ := List.mem_filter.1 member
    obtain ⟨l, link, owns⟩ := List.mem_map.1 (inv.metadataLink m there)
    -- Had the link gone, its metadata would have gone with it.
    have apart : l.touches key = false := by
      cases touches : l.touches key with
      | false => rfl
      | true =>
        have gone : l ∈ s.links.filter (·.touches key) := List.mem_filter.2 ⟨link, touches⟩
        have found : (s.links.filter (·.touches key)).any (·.assetLinkId = m.assetLinkId) :=
          List.any_eq_true.2 ⟨l, gone, by simpa using owns⟩
        simp [found] at left
    exact List.mem_map.2 ⟨l, List.mem_filter.2 ⟨link, by simp [apart]⟩, owns⟩

/-! ### Links and their metadata -/

/-- A new link has a new id, and its ends are stored. -/
theorem insertLink (inv : s.Consistent) {row l : AssetLink}
    (ends : row.source ∈ s.assetKeys ∧ row.target ∈ s.assetKeys)
    (ran : Store.insertLink row s = .ok (l, s')) : s'.Consistent := by
  obtain ⟨free, _, rfl⟩ := insertLink_eq_ok.1 ran
  have fresh : row.assetLinkId ∉ s.linkIds := find?_eq_none_iff_notMem_keys.1 free
  exact { inv with
    distinctLinks := nodup_keys_append inv.distinctLinks fresh
    linkEnds := forall_mem_append_singleton inv.linkEnds ends
    metadataLink := fun m member => mem_keys_append (inv.metadataLink m member) }

/-- A tagged link keeps its id and its ends. -/
theorem setLinkTags (inv : s.Consistent) {assetLinkId : String} {tags : List String}
    (ran : Store.setLinkTags assetLinkId tags s = .ok ((), s')) : s'.Consistent := by
  obtain ⟨_, rfl⟩ := setLinkTags_eq_ok.1 ran
  exact { inv with
    distinctLinks := nodup_keys_changeRows (fun _ => rfl) inv.distinctLinks
    linkEnds := forall_mem_changeRows (fun _ h => h) inv.linkEnds
    metadataLink := fun m member => mem_keys_changeRows (fun _ => rfl) (inv.metadataLink m member) }

/-- The metadata of a deleted link goes with it. -/
theorem deleteLinkCascade (inv : s.Consistent) {assetLinkId : String} {number : Nat}
    (ran : Store.deleteLinkCascade assetLinkId s = .ok (number, s')) : s'.Consistent := by
  obtain ⟨_, _, rfl⟩ := deleteLinkCascade_eq_ok.1 ran
  refine { inv with
    distinctLinks := nodup_keys_filter inv.distinctLinks _
    distinctMetadata := nodup_keys_filter inv.distinctMetadata _
    linkEnds := fun l member => inv.linkEnds l (List.mem_filter.1 member).1
    metadataLink := fun m member => ?_ }
  -- Metadata that is left belongs to another link than the removed one.
  obtain ⟨there, other⟩ := List.mem_filter.1 member
  exact mem_keys_filter_ne (inv.metadataLink m there) (by simpa using other)

/-- New metadata has a new place and a stored link. -/
theorem insertMetadata (inv : s.Consistent) {row : LinkMetadata}
    (ran : Store.insertMetadata row s = .ok ((), s')) : s'.Consistent := by
  obtain ⟨free, owner, rfl⟩ := insertMetadata_eq_ok.1 ran
  exact { inv with
    distinctMetadata := nodup_keys_append inv.distinctMetadata (metadata?_eq_none_iff.1 free)
    metadataLink := forall_mem_append_singleton inv.metadataLink
      (isSome_find?_iff_mem_keys.1 owner) }

/-- Changed metadata keeps its place. -/
theorem setMetadata (inv : s.Consistent) {row : LinkMetadata}
    (ran : Store.setMetadata row s = .ok ((), s')) : s'.Consistent := by
  obtain ⟨_, rfl⟩ := setMetadata_eq_ok.1 ran
  exact { inv with
    distinctMetadata := nodup_keys_changeRows (fun _ => rfl) inv.distinctMetadata
    metadataLink := forall_mem_changeRows (fun _ h => h) inv.metadataLink }

/-- Nothing refers to metadata. -/
theorem deleteMetadata (inv : s.Consistent) {assetLinkId metadataKey : String}
    (ran : Store.deleteMetadata assetLinkId metadataKey s = .ok ((), s')) : s'.Consistent := by
  obtain ⟨_, rfl⟩ := deleteMetadata_eq_ok.1 ran
  exact { inv with
    distinctMetadata := nodup_keys_filter inv.distinctMetadata _
    metadataLink := fun m member => inv.metadataLink m (List.mem_filter.1 member).1 }

/-! ### Pipelines and workflows -/

/-- A new pipeline has a new reference and a stored database. -/
theorem insertPipeline (inv : s.Consistent) {row p : Pipeline}
    (ran : Store.insertPipeline row s = .ok (p, s')) : s'.Consistent := by
  obtain ⟨free, owner, _, rfl⟩ := insertPipeline_eq_ok.1 ran
  have fresh : row.ref ∉ s.pipelineRefs := find?_eq_none_iff_notMem_keys.1 free
  exact { inv with
    distinctPipelines := nodup_keys_append inv.distinctPipelines fresh
    pipelineDatabase := forall_mem_append_singleton inv.pipelineDatabase
      (isSome_find?_iff_mem_keys.1 owner)
    workflowSteps := fun w member step uses =>
      mem_keys_append (inv.workflowSteps w member step uses) }

/-- A disabled pipeline keeps its reference. -/
theorem setPipelineEnabled (inv : s.Consistent) {ref : PipelineRef} {enabled : Bool}
    (ran : Store.setPipelineEnabled ref enabled s = .ok ((), s')) : s'.Consistent := by
  obtain ⟨_, rfl⟩ := setPipelineEnabled_eq_ok.1 ran
  exact { inv with
    distinctPipelines := nodup_keys_changeRows (fun _ => rfl) inv.distinctPipelines
    pipelineDatabase := forall_mem_changeRows (fun _ h => h) inv.pipelineDatabase
    workflowSteps := fun w member step uses =>
      mem_keys_changeRows (fun _ => rfl) (inv.workflowSteps w member step uses) }

/-- A new workflow has a new key, a stored database and stored steps. -/
theorem insertWorkflow (inv : s.Consistent) {row w : Workflow}
    (steps : ∀ step ∈ row.pipelines, step ∈ s.pipelineRefs)
    (ran : Store.insertWorkflow row s = .ok (w, s')) : s'.Consistent := by
  obtain ⟨free, owner, _, rfl⟩ := insertWorkflow_eq_ok.1 ran
  have fresh : row.key ∉ s.workflowKeys := find?_eq_none_iff_notMem_keys.1 free
  exact { inv with
    distinctWorkflows := nodup_keys_append inv.distinctWorkflows fresh
    workflowDatabase := forall_mem_append_singleton inv.workflowDatabase
      (isSome_find?_iff_mem_keys.1 owner)
    workflowSteps := forall_mem_append_singleton inv.workflowSteps steps
    executionWorkflow := fun e member => mem_keys_append (inv.executionWorkflow e member) }

/-- An archived workflow keeps its key and its steps. -/
theorem setWorkflowArchived (inv : s.Consistent) {key : WorkflowKey} {archived : Bool}
    (ran : Store.setWorkflowArchived key archived s = .ok ((), s')) : s'.Consistent := by
  obtain ⟨_, rfl⟩ := setWorkflowArchived_eq_ok.1 ran
  exact { inv with
    distinctWorkflows := nodup_keys_changeRows (fun _ => rfl) inv.distinctWorkflows
    workflowDatabase := forall_mem_changeRows (fun _ h => h) inv.workflowDatabase
    workflowSteps := forall_mem_changeRows (fun _ h => h) inv.workflowSteps
    executionWorkflow := fun e member =>
      mem_keys_changeRows (fun _ => rfl) (inv.executionWorkflow e member) }

/-! ### Executions -/

/-- A new execution has a new key and a stored workflow. -/
theorem insertExecution (inv : s.Consistent) {key : ExecutionKey} {asset : AssetKey}
    {startedAt : Moment} {e : Execution}
    (workflow : ⟨key.workflowDatabaseId, key.workflowId⟩ ∈ s.workflowKeys)
    (ran : Store.insertExecution key asset startedAt s = .ok (e, s')) : s'.Consistent := by
  obtain ⟨free, _, _, rfl⟩ := insertExecution_eq_ok.1 ran
  have fresh : (newExecution key asset startedAt).key ∉ s.executionKeys :=
    find?_eq_none_iff_notMem_keys.1 free
  exact { inv with
    distinctExecutions := nodup_keys_append inv.distinctExecutions fresh
    executionWorkflow := forall_mem_append_singleton inv.executionWorkflow workflow }

/-- An execution that ends keeps its key. -/
theorem finishExecution (inv : s.Consistent) {key : ExecutionKey} {status : ExecutionStatus}
    {stoppedAt : Option Moment}
    (ran : Store.finishExecution key status stoppedAt s = .ok ((), s')) : s'.Consistent := by
  obtain ⟨_, rfl⟩ := finishExecution_eq_ok.1 ran
  exact { inv with
    distinctExecutions := nodup_keys_changeRows (fun _ => rfl) inv.distinctExecutions
    executionWorkflow := forall_mem_changeRows (fun _ h => h) inv.executionWorkflow }

end Consistent

/-! ### Lookups -/

/-- A pipeline that is active is stored. -/
theorem mem_pipelineRefs_of_active {ref : PipelineRef} (active : (s.activePipeline? ref).isSome) :
    ref ∈ s.pipelineRefs := by
  rw [activePipeline?, Option.isSome_filter] at active
  obtain ⟨p, found, _⟩ := (Option.any_eq_true _ _).1 active
  exact isSome_find?_iff_mem_keys.1 (Option.isSome_of_eq_some found)

/-- A workflow that is active is stored. -/
theorem mem_workflows_of_active {key : WorkflowKey} {w : Workflow}
    (active : s.activeWorkflow? key = some w) : w ∈ s.workflows := by
  rw [activeWorkflow?, Option.filter_eq_some_iff] at active
  exact List.mem_of_find?_eq_some active.1

/-- A visible workflow is stored, in its own database or in the reserved one. -/
theorem mem_workflows_of_visible {databaseId workflowId : String} {w : Workflow}
    (visible : s.visibleWorkflow? databaseId workflowId = some w) : w ∈ s.workflows := by
  rw [visibleWorkflow?, Option.or_eq_some_iff] at visible
  rcases visible with own | ⟨_, shared⟩
  · exact mem_workflows_of_active own
  · exact mem_workflows_of_active shared

end Store

/-! ### Runs -/

/-- An operation keeps keys distinct and leaves no reference without its row. -/
theorem Operation.Step.consistent {operation : Operation} {reply : Reply} {r r' : Registry}
    (step : Step r operation reply r') (inv : r.store.Consistent) : r'.store.Consistent := by
  cases step
  case read => exact inv
  case createDatabase ran => exact inv.insertDatabase ran
  case archiveDatabase ran => exact inv.setDatabaseArchived ran
  case createAsset ran => exact inv.insertAsset ran
  case archiveAsset ran => exact inv.setAssetArchived ran
  case restoreAsset ran _ => exact inv.setAssetArchived ran
  case deleteAsset ran => exact inv.deleteAssetCascade ran
  case createPipeline ran => exact inv.insertPipeline ran
  case setPipelineEnabled ran _ => exact inv.setPipelineEnabled ran
  case createWorkflow steps ran =>
    -- Every step was found to be an active pipeline.
    exact inv.insertWorkflow
      (fun step member => Store.mem_pipelineRefs_of_active (steps step member).2) ran
  case archiveWorkflow ran => exact inv.setWorkflowArchived ran
  case createLink request _ _ _ source target _ _ _ ran =>
    -- Both ends were looked up before the link was stored.
    have sourceThere : request.source ∈ r.store.assetKeys :=
      Store.isSome_find?_iff_mem_keys.1 source
    have targetThere : request.target ∈ r.store.assetKeys :=
      Store.isSome_find?_iff_mem_keys.1 target
    refine inv.insertLink ?_ ran
    exact ⟨sourceThere, targetThere⟩
  case updateLinkTags ran _ => exact inv.setLinkTags ran
  case deleteLink ran => exact inv.deleteLinkCascade ran
  case createMetadata ran => exact inv.insertMetadata ran
  case updateMetadata ran => exact inv.setMetadata ran
  case deleteMetadata ran => exact inv.deleteMetadata ran
  case startExecution visible _ _ ran =>
    -- Archived workflows cannot be started, and no workflow is ever removed.
    exact inv.insertExecution
      (List.mem_map_of_mem (Store.mem_workflows_of_visible visible)) ran
  case updateExecutionStatus ran _ => exact inv.finishExecution ran

/-- A consistent store stays so over any run. -/
theorem Registry.LeadsTo.consistent {r r' : Registry} (leads : LeadsTo r r')
    (inv : r.store.Consistent) : r'.store.Consistent := by
  apply LeadsTo.invariant (motive := fun r => r.store.Consistent) leads inv
  · intro r inv
    exact inv
  · intro r operation reply r' step inv
    exact step.consistent inv

/-- In every registry that operations lead to, the rows of each table have distinct keys,
    and whatever a row refers to is found: the ends of links, the links of metadata, the
    databases of assets, pipelines and workflows, the pipelines that workflows run and the
    workflows that executions are runs of. -/
theorem keys_distinct_and_references_found {linkLimit : Nat} {r : Registry}
    (reachable : r.Reachable linkLimit) :
    (r.store.databaseIds.Nodup ∧ r.store.assetKeys.Nodup ∧ r.store.linkIds.Nodup ∧
      r.store.metadataPlaces.Nodup ∧ r.store.pipelineRefs.Nodup ∧ r.store.workflowKeys.Nodup ∧
      r.store.executionKeys.Nodup) ∧
    (∀ l ∈ r.store.links, (r.store.asset? l.source).isSome ∧ (r.store.asset? l.target).isSome) ∧
    (∀ m ∈ r.store.metadata, (r.store.link? m.assetLinkId).isSome) ∧
    (∀ a ∈ r.store.assets, (r.store.database? a.databaseId).isSome) ∧
    (∀ p ∈ r.store.pipelines, (r.store.database? p.databaseId).isSome) ∧
    (∀ w ∈ r.store.workflows, (r.store.database? w.databaseId).isSome ∧
      ∀ step ∈ w.pipelines, (r.store.pipeline? step).isSome) ∧
    (∀ e ∈ r.store.executions, (r.store.workflow? e.workflowKey).isSome) := by
  have inv : r.store.Consistent := Registry.LeadsTo.consistent reachable .initial
  -- The invariant has references as keys among keys; a key among them is one that is found.
  refine ⟨⟨inv.distinctDatabases, inv.distinctAssets, inv.distinctLinks, inv.distinctMetadata,
    inv.distinctPipelines, inv.distinctWorkflows, inv.distinctExecutions⟩, ?_, ?_, ?_, ?_, ?_, ?_⟩
  · intro l member
    obtain ⟨source, target⟩ := inv.linkEnds l member
    exact ⟨Store.isSome_find?_iff_mem_keys.2 source, Store.isSome_find?_iff_mem_keys.2 target⟩
  · intro m member
    exact Store.isSome_find?_iff_mem_keys.2 (inv.metadataLink m member)
  · intro a member
    exact Store.isSome_find?_iff_mem_keys.2 (inv.assetDatabase a member)
  · intro p member
    exact Store.isSome_find?_iff_mem_keys.2 (inv.pipelineDatabase p member)
  · intro w member
    refine ⟨Store.isSome_find?_iff_mem_keys.2 (inv.workflowDatabase w member), ?_⟩
    intro step uses
    exact Store.isSome_find?_iff_mem_keys.2 (inv.workflowSteps w member step uses)
  · intro e member
    exact Store.isSome_find?_iff_mem_keys.2 (inv.executionWorkflow e member)

/-- The metadata of a plant, the pipeline of its workflow and the workflow of its
    execution are all found, and so are the ends of its three links. -/
theorem keys_distinct_and_references_found_plant :
    Registry.plant.store.linkIds = ["link-1", "link-2", "link-3"] ∧
      Registry.plant.store.executionKeys = [⟨"plant", "preview", "exec-1"⟩] ∧
      (∀ l ∈ Registry.plant.store.links, (Registry.plant.store.asset? l.source).isSome ∧
        (Registry.plant.store.asset? l.target).isSome) ∧
      (∀ m ∈ Registry.plant.store.metadata,
        (Registry.plant.store.link? m.assetLinkId).isSome) := by
  obtain ⟨_, linkEnds, metadataLinks, _⟩ :=
    keys_distinct_and_references_found Registry.reachable_plant
  exact ⟨by decide +kernel, by decide +kernel, linkEnds, metadataLinks⟩

end AssetRegistry
