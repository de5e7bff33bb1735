import AssetRegistry.Proofs.CreationOrder
import AssetRegistry.Proofs.FirstOccurrence
import AssetRegistry.Proofs.Repetition
import Mathlib.Data.List.Flatten
import Mathlib.Tactic.Tauto

/-!
# What a watcher fetches

A watcher of an asset goes through the ids of the workflows that are visible from its database
and fetches, id by id, the executions of the asset.  A workflow of the database and one of the
reserved database may have one id, which is asked for once, where it occurs first.  The
executions of different ids are different ones, so that what is fetched are the executions of
the asset whose workflow id is visible, each of them once.
-/

namespace AssetRegistry

open AssetRegistry.Action

/-! ### Workflow ids -/

namespace Catalog

/-- No workflow id is lost where listings are merged. -/
theorem mem_map_mergeWithGlobal {locals shared : List Workflow} {workflowId : String} :
    workflowId ∈ (mergeWithGlobal Workflow.key locals shared).map (·.workflowId) ↔
      workflowId ∈ locals.map (·.workflowId) ∨ workflowId ∈ shared.map (·.workflowId) := by
  -- The id is a part of the key, and of every key there is a workflow left.
  have byKey : ∀ workflows : List Workflow, workflowId ∈ workflows.map (·.workflowId) ↔
      ∃ k ∈ workflows.map Workflow.key, k.workflowId = workflowId := by
    intro workflows
    simp only [List.mem_map, exists_exists_and_eq_and]
    rfl
  have kept : ∀ k, k ∈ (mergeWithGlobal Workflow.key locals shared).map Workflow.key ↔
      k ∈ (locals ++ shared).map Workflow.key := by
    simp [mergeWithGlobal, mem_map_keepFirst]
  rw [← List.mem_append, ← List.map_append, byKey, byKey]
  simp only [kept]

end Catalog

/-! ### Visible workflows -/

namespace Store

variable {s : Store} {databaseId workflowId : String}

/-- The workflows that are visible from a database and not archived: its own by id, then those
    of the reserved database. -/
def visibleWorkflows (s : Store) (databaseId : String) : List Workflow :=
  if databaseId = globalDatabaseId then s.listWorkflows databaseId false
  else
    Catalog.mergeWithGlobal Workflow.key (s.listWorkflows databaseId false)
      (s.listWorkflows globalDatabaseId false)

/-- Some workflow with an id, under a database or the reserved one, is not archived. -/
def ShowsWorkflow (s : Store) (databaseId workflowId : String) : Prop :=
  ∃ w ∈ s.workflows, w.archived = false ∧
    (w.databaseId = databaseId ∨ w.databaseId = globalDatabaseId) ∧ w.workflowId = workflowId

/-- The ids of a listing are those of active workflows of the database. -/
theorem mem_map_listWorkflows :
    workflowId ∈ (s.listWorkflows databaseId false).map (·.workflowId) ↔
      ∃ w ∈ s.workflows, w.archived = false ∧ w.databaseId = databaseId ∧
        w.workflowId = workflowId := by
  simp [listWorkflows, isListed, and_assoc, and_left_comm]

/-- The visible workflows have the ids of all workflows there that are not archived. -/
theorem mem_map_visibleWorkflows :
    workflowId ∈ (s.visibleWorkflows databaseId).map (·.workflowId) ↔
      s.ShowsWorkflow databaseId workflowId := by
  rw [visibleWorkflows, ShowsWorkflow]
  split
  case isTrue reserved =>
    simp only [mem_map_listWorkflows, reserved, or_self]
  case isFalse =>
    rw [Catalog.mem_map_mergeWithGlobal, mem_map_listWorkflows, mem_map_listWorkflows, ← exists_or]
    apply exists_congr
    intro w
    tauto

end Store

namespace Catalog

variable {r : Registry} {databaseId : String}

/-- The listing of a stored database shows its visible workflows. -/
theorem perform_listWorkflows (ready : r.access = .ready)
    (there : (r.store.database? databaseId).isSome) :
    (listWorkflows databaseId false).perform r =
      (.ok (r.store.visibleWorkflows databaseId), r) := by
  exact perform_listWorkflows_of_stored ready there false

end Catalog

/-! ### Groups of executions -/

namespace Store

variable {s : Store} {asset : AssetKey} {workflowId : String} {workflowIds : List String}
  {e : Execution}

/-- The executions of a workflow id on an asset, the last one of the table first. -/
def executionGroup (s : Store) (asset : AssetKey) (workflowId : String) : List Execution :=
  (s.executions.filter (·.isOn asset workflowId)).reverse

/-- The group of a workflow are the executions of its id on the asset. -/
theorem mem_executionGroup :
    e ∈ s.executionGroup asset workflowId ↔ e ∈ s.executions ∧
      e.databaseId = asset.databaseId ∧ e.assetId = asset.assetId ∧ e.workflowId = workflowId := by
  simp [executionGroup, Execution.isOn, and_assoc]

/-- Groups of different ids share no execution. -/
theorem nodup_flatMap_executionGroup (distinct : s.executions.Nodup)
    (distinctIds : workflowIds.Nodup) :
    (workflowIds.flatMap (s.executionGroup asset)).Nodup := by
  refine List.nodup_flatMap.2 ⟨fun id _ => List.nodup_reverse.2 (distinct.filter _), ?_⟩
  refine distinctIds.imp fun {id id'} apart e first second => apart ?_
  exact (mem_executionGroup.1 first).2.2.2.symm.trans (mem_executionGroup.1 second).2.2.2

/-- The groups together are the executions of all the ids on the asset. -/
theorem mem_flatMap_executionGroup :
    e ∈ workflowIds.flatMap (s.executionGroup asset) ↔ e ∈ s.executions ∧
      e.databaseId = asset.databaseId ∧ e.assetId = asset.assetId ∧
      e.workflowId ∈ workflowIds := by
  simp only [List.mem_flatMap, mem_executionGroup]
  constructor
  · rintro ⟨id, among, stored, database, same, rfl⟩
    exact ⟨stored, database, same, among⟩
  · rintro ⟨stored, database, same, among⟩
    exact ⟨_, among, stored, database, same, rfl⟩

end Store

/-- Actions that answer one by one answer together. -/
theorem Action.perform_mapM_of_ok {r : Registry} {g : γ → Action β} {answer : γ → β}
    {cs : List γ} (each : ∀ c ∈ cs, (g c).perform r = (.ok (answer c), r)) :
    (cs.mapM g).perform r = (.ok (cs.map answer), r) := by
  induction cs with
  | nil => rfl
  | cons c cs ih =>
    have rest := ih fun c' member => each c' (List.mem_cons_of_mem _ member)
    rw [List.mapM_cons, perform_bind_of_ok (each c List.mem_cons_self), perform_bind_of_ok rest]
    rfl

namespace Executions

variable {r : Registry} {key : AssetKey} {workflowId : String}

/-- The executions of a workflow id on a stored asset are listed from the newest to the
    oldest. -/
theorem perform_listExecutions (ready : r.access = .ready) (there : (r.store.asset? key).isSome)
    (ordered : r.store.executions.Pairwise fun e e' => e.startedAt.before e'.startedAt) :
    (listExecutions key workflowId).perform r =
      (.ok (r.store.executionGroup key workflowId), r) := by
  obtain ⟨a, found⟩ := Option.isSome_iff_exists.1 there
  rw [listExecutions, perform_query_bind ready, found, Store.executionGroup,
    ← Store.listExecutions_eq_reverse ordered]
  exact query_eq_ok.2 ⟨ready, rfl, rfl⟩

/-- What is fetched is a group for every workflow id that is watched. -/
theorem perform_fetchExecutions {target : WatchTarget} {workflowIds : List String}
    (ready : r.access = .ready)
    (there : (r.store.asset? ⟨target.databaseId, target.assetId⟩).isSome)
    (ordered : r.store.executions.Pairwise fun e e' => e.startedAt.before e'.startedAt)
    (watched : (watchedWorkflows target).perform r = (.ok workflowIds, r)) :
    (Operation.fetchExecutions target).perform r =
      (.ok (.executions (workflowIds.flatMap
        (r.store.executionGroup ⟨target.databaseId, target.assetId⟩))), r) := by
  have listed : (workflowIds.mapM (listExecutions ⟨target.databaseId, target.assetId⟩)).perform r =
      (.ok (workflowIds.map (r.store.executionGroup ⟨target.databaseId, target.assetId⟩)), r) :=
    perform_mapM_of_ok fun _ _ => perform_listExecutions ready there ordered
  refine map_eq_ok.2 ⟨_, ?_, rfl⟩
  rw [fetchExecutions, perform_bind_of_ok watched, perform_bind_of_ok listed]
  rfl

end Executions

/-- In every registry that operations lead to, what a watcher of a stored asset fetches without
    a workflow id are groups of executions, one for every workflow id in the order in which
    the ids first occur in the listing of the workflows that are visible from the database of
    the asset.  It is every execution of the asset for whose workflow id there is a workflow,
    under that database or under the reserved one, that is not archived, and each of them once.
    With a workflow id it is the group of that id, whatever became of its workflows.  A group
    is all executions of an id on the asset, from the newest to the oldest. -/
theorem fetch_groups_executions {linkLimit : Nat} {r : Registry}
    (reachable : r.Reachable linkLimit) {databaseId assetId : String}
    (there : (r.store.asset? ⟨databaseId, assetId⟩).isSome) :
    (∃ (workflows : List Workflow) (workflowIds : List String),
      (Operation.listWorkflows databaseId false).perform r = (.ok (.workflows workflows), r) ∧
      (∀ id, id ∈ workflowIds ↔ id ∈ workflows.map (·.workflowId)) ∧
      (workflowIds.Pairwise fun id id' =>
        (workflows.map (·.workflowId)).idxOf id < (workflows.map (·.workflowId)).idxOf id') ∧
      let rows := workflowIds.flatMap (r.store.executionGroup ⟨databaseId, assetId⟩)
      (Operation.fetchExecutions ⟨databaseId, assetId, none⟩).perform r =
        (.ok (.executions rows), r) ∧
      rows.Nodup ∧
      ∀ e, e ∈ rows ↔ e ∈ r.store.executions ∧ e.databaseId = databaseId ∧ e.assetId = assetId ∧
        r.store.ShowsWorkflow databaseId e.workflowId) ∧
    ∀ workflowId,
      let rows := r.store.executionGroup ⟨databaseId, assetId⟩ workflowId
      (Operation.fetchExecutions ⟨databaseId, assetId, some workflowId⟩).perform r =
        (.ok (.executions rows), r) ∧
      rows.Pairwise (fun e e' => e'.startedAt.before e.startedAt) ∧
      ∀ e, e ∈ rows ↔ e ∈ r.store.executions ∧ e.databaseId = databaseId ∧ e.assetId = assetId ∧
        e.workflowId = workflowId := by
  have inv : r.store.Consistent := Registry.LeadsTo.consistent reachable .initial
  have ordered := reachable.executions_ordered
  constructor
  · obtain ⟨a, found⟩ := Option.isSome_iff_exists.1 there
    have named : a.key = ⟨databaseId, assetId⟩ := by simpa using List.find?_some found
    -- The workflows of a database are listed where it is stored, as it is with an asset.
    have database : (r.store.database? databaseId).isSome := by
      have owner := inv.assetDatabase a (List.mem_of_find?_eq_some found)
      rw [show a.databaseId = databaseId from congrArg AssetKey.databaseId named] at owner
      exact Store.isSome_find?_iff_mem_keys.2 owner
    have listed := Catalog.perform_listWorkflows reachable.ready database
    have watched : (Executions.watchedWorkflows ⟨databaseId, assetId, none⟩).perform r = _ :=
      perform_bind_of_ok listed _
    have firsts := Catalog.pairwise_keepFirst_id []
      ((r.store.visibleWorkflows databaseId).map (·.workflowId))
    refine ⟨_, _, map_eq_ok.2 ⟨_, listed, rfl⟩, ?_, firsts,
      Executions.perform_fetchExecutions reachable.ready there ordered watched, ?_, ?_⟩
    · intro id
      simp [Catalog.mem_keepFirst_id]
    · -- What has different places in the listing is different.
      refine Store.nodup_flatMap_executionGroup (List.Nodup.of_map _ inv.distinctExecutions) ?_
      exact firsts.imp fun less same => (same ▸ less).ne rfl
    · intro e
      rw [Store.mem_flatMap_executionGroup, Catalog.mem_keepFirst_id,
        Store.mem_map_visibleWorkflows]
      simp
  · intro workflowId
    -- Here no workflow is looked up.
    refine ⟨?_, List.pairwise_reverse.2 (ordered.filter _), fun e => Store.mem_executionGroup⟩
    have watched : (Executions.watchedWorkflows ⟨databaseId, assetId, some workflowId⟩).perform r =
        (.ok [workflowId], r) := rfl
    have alone := Executions.perform_fetchExecutions reachable.ready there ordered watched
    rwa [List.flatMap_singleton] at alone

namespace Registry

/-- A plant with a second workflow of an id, one more under the reserved database and one that
    was run and then archived. -/
def busyPlant : Registry :=
  (Batch.performAll
    [ .updateExecutionStatus ⟨"plant", "preview", "exec-1"⟩ .succeeded,
      .createWorkflow globalDatabaseId
        { workflowId := "inspect", pipelines := [⟨globalDatabaseId, "convert"⟩] },
      .createWorkflow globalDatabaseId
        { workflowId := "preview", pipelines := [⟨globalDatabaseId, "convert"⟩] },
      .createWorkflow "plant"
        { workflowId := "retired", pipelines := [⟨globalDatabaseId, "convert"⟩] },
      .startExecution ⟨"plant", "hall", "preview", some globalDatabaseId⟩,
      .startExecution ⟨"plant", "hall", "inspect", none⟩,
      .startExecution ⟨"plant", "hall", "retired", none⟩,
      .archiveWorkflow ⟨"plant", "retired"⟩ ] plant).2

/-- The busy plant is come to by operations. -/
theorem reachable_busyPlant : busyPlant.Reachable 3 :=
  reachable_plant.trans (LeadsTo.performAll _ _)

end Registry

open Registry in
/-- The two executions of the id that two workflows have come first and in one group.  The
    execution of the archived workflow is fetched only by its id. -/
theorem fetch_groups_executions_busyPlant :
    (∃ rows, (Operation.fetchExecutions ⟨"plant", "hall", none⟩).perform busyPlant =
        (.ok (.executions rows), busyPlant) ∧
      rows.map (·.executionId) = ["exec-2", "exec-1", "exec-3"] ∧ rows.Nodup) ∧
    ∃ rows, (Operation.fetchExecutions ⟨"plant", "hall", some "retired"⟩).perform busyPlant =
        (.ok (.executions rows), busyPlant) ∧
      rows.map (·.executionId) = ["exec-4"] := by
  have there : (busyPlant.store.asset? ⟨"plant", "hall"⟩).isSome := by decide +kernel
  obtain ⟨⟨_, workflowIds, _, _, _, fetched, distinct, _⟩, byId⟩ :=
    fetch_groups_executions reachable_busyPlant there
  -- The workflows of either database were created in the order of their ids.
  have sorted : ∀ databaseId ∈ ["plant", globalDatabaseId],
      (busyPlant.store.workflows.filter fun w =>
        w.databaseId = databaseId && Store.isListed false w.archived).Pairwise
          fun w w' => decide (w.workflowId ≤ w'.workflowId) := by
    decide +kernel
  have ids : Catalog.keepFirst id []
      ((busyPlant.store.visibleWorkflows "plant").map (·.workflowId)) = ["preview", "inspect"] := by
    rw [Store.visibleWorkflows, Store.listWorkflows, Store.listWorkflows,
      List.mergeSort_of_pairwise (sorted "plant" (by decide)),
      List.mergeSort_of_pairwise (sorted globalDatabaseId (by decide))]
    decide +kernel
  have watched : (Executions.watchedWorkflows ⟨"plant", "hall", none⟩).perform busyPlant =
      (.ok ["preview", "inspect"], busyPlant) := by
    rw [← ids]
    exact perform_bind_of_ok
      (Catalog.perform_listWorkflows reachable_busyPlant.ready (by decide +kernel)) _
  have evaluated := Executions.perform_fetchExecutions reachable_busyPlant.ready there
    reachable_busyPlant.executions_ordered watched
  have rows : workflowIds.flatMap (busyPlant.store.executionGroup ⟨"plant", "hall"⟩) =
      ["preview", "inspect"].flatMap (busyPlant.store.executionGroup ⟨"plant", "hall"⟩) := by
    have same := fetched.symm.trans evaluated
    simpa only [Prod.mk.injEq, Except.ok.injEq, Reply.executions.injEq, and_true] using same
  refine ⟨⟨_, fetched, ?_, distinct⟩, _, (byId "retired").1, by decide +kernel⟩
  rw [rows]
  decide +kernel

end AssetRegistry
