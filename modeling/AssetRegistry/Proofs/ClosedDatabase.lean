import AssetRegistry.Proofs.Frame
import AssetRegistry.Proofs.StoreConsistent

/-!
# Archived databases

No operation takes the archiving of a database back, and nothing is created in an
archived database.  What is stored in it can still be switched, archived and deleted.
So after the archiving its asset keys only get fewer, and its pipelines and workflows
stay as they are, but for their flags.
-/

namespace AssetRegistry

variable {databaseId : String}

namespace Store

/-- The database of an id is stored, and it is archived. -/
def IsClosed (s : Store) (databaseId : String) : Prop :=
  ∃ d, s.database? databaseId = some d ∧ d.archived

/-- The keys of the assets in a database. -/
def assetKeysIn (s : Store) (databaseId : String) : List AssetKey :=
  s.assetKeys.filter (·.databaseId = databaseId)

/-- The keys of the pipelines in a database. -/
def pipelineRefsIn (s : Store) (databaseId : String) : List PipelineRef :=
  s.pipelineRefs.filter (·.databaseId = databaseId)

/-- The keys of the workflows in a database. -/
def workflowKeysIn (s : Store) (databaseId : String) : List WorkflowKey :=
  s.workflowKeys.filter (·.databaseId = databaseId)

/-- The steps of the workflows, each with the key of its workflow. -/
def workflowSteps (s : Store) : List (WorkflowKey × List PipelineRef) :=
  s.workflows.map fun w => (w.key, w.pipelines)

/-- The steps of the workflows in a database. -/
def workflowStepsIn (s : Store) (databaseId : String) : List (WorkflowKey × List PipelineRef) :=
  s.workflowSteps.filter (·.1.databaseId = databaseId)

/-- The keys of workflows are among what is said of their steps. -/
theorem map_fst_workflowStepsIn (s : Store) :
    (s.workflowStepsIn databaseId).map Prod.fst = s.workflowKeysIn databaseId := by
  simp [workflowStepsIn, workflowSteps, workflowKeysIn, workflowKeys, List.filter_map,
    Function.comp_def]

/-- What becomes of the rows in a closed database. -/
structure StaysClosed (databaseId : String) (s s' : Store) : Prop where
  closed : s'.IsClosed databaseId
  assets : s'.assetKeysIn databaseId ⊆ s.assetKeysIn databaseId
  pipelines : s'.pipelineRefsIn databaseId = s.pipelineRefsIn databaseId
  workflows : s'.workflowStepsIn databaseId = s.workflowStepsIn databaseId

section

variable {s s' s'' : Store}

/-- A closed database is as it was. -/
theorem StaysClosed.refl (closed : s.IsClosed databaseId) : s.StaysClosed databaseId s :=
  ⟨closed, List.Subset.refl _, rfl, rfl⟩

/-- What stays closed over two runs does over both. -/
theorem StaysClosed.trans (first : s.StaysClosed databaseId s')
    (second : s'.StaysClosed databaseId s'') : s.StaysClosed databaseId s'' where
  closed := second.closed
  assets := List.Subset.trans second.assets first.assets
  pipelines := second.pipelines.trans first.pipelines
  workflows := second.workflows.trans first.workflows

/-- A database that is not archived is another one than a closed one. -/
theorem IsClosed.ne_of_active (closed : s.IsClosed databaseId) {other : String}
    (active : (s.activeDatabase? other).isSome) : other ≠ databaseId := by
  rintro rfl
  obtain ⟨d, found, archived⟩ := closed
  simp [activeDatabase?, found, archived, Option.filter] at active

/-- A database is found as before when one is archived or taken back, but for its flag. -/
theorem database?_of_setDatabaseArchived {changedId : String} {archived : Bool}
    (ran : setDatabaseArchived changedId archived s = .ok ((), s')) :
    s'.database? databaseId =
      (s.database? databaseId).map fun d =>
        if d.databaseId = changedId then { d with archived } else d := by
  obtain ⟨_, rfl⟩ := setDatabaseArchived_eq_ok.1 ran
  show (changeRows s.databases _ _).find? _ = (s.databases.find? _).map _
  rw [find?_changeRows]
  · simp only [decide_eq_true_eq]
  · exact fun _ => rfl

/-- An archived database is closed. -/
theorem isClosed_of_setDatabaseArchived
    (ran : setDatabaseArchived databaseId true s = .ok ((), s')) : s'.IsClosed databaseId := by
  have there : databaseId ∈ s.databaseIds := List.mem_map.2 (setDatabaseArchived_eq_ok.1 ran).1
  obtain ⟨d, found⟩ := Option.isSome_iff_exists.1 (isSome_find?_iff_mem_keys.2 there)
  have named : d.databaseId = databaseId := by simpa using List.find?_some found
  refine ⟨{ d with archived := true }, ?_, rfl⟩
  rw [database?_of_setDatabaseArchived ran, database?, found, Option.map_some, if_pos named]

/-- A closed database stays closed when one is archived. -/
theorem IsClosed.setDatabaseArchived (closed : s.IsClosed databaseId) {changedId : String}
    (ran : setDatabaseArchived changedId true s = .ok ((), s')) : s'.IsClosed databaseId := by
  obtain ⟨d, found, archived⟩ := closed
  refine ⟨_, by rw [database?_of_setDatabaseArchived ran, found, Option.map_some], ?_⟩
  -- It was archived before, and if it is the one that is archived now, it is so again.
  split
  · rfl
  · exact archived

/-- A closed database stays closed when one is created: it is found before the new one. -/
theorem IsClosed.insertDatabase (closed : s.IsClosed databaseId) {row d : Database}
    (ran : insertDatabase row s = .ok (d, s')) : s'.IsClosed databaseId := by
  obtain ⟨_, _, rfl⟩ := insertDatabase_eq_ok.1 ran
  obtain ⟨d, found, archived⟩ := closed
  refine ⟨d, ?_, archived⟩
  rw [database?, List.find?_append, ← database?, found]
  rfl

/-! ### Keys after a statement -/

/-- A new asset adds its key. -/
theorem assetKeys_of_insertAsset {row a : Asset} (ran : insertAsset row s = .ok (a, s')) :
    s'.assetKeys = s.assetKeys ++ [row.key] := by
  obtain ⟨_, _, _, rfl⟩ := insertAsset_eq_ok.1 ran
  exact List.map_append

/-- Archiving an asset keeps all keys. -/
theorem assetKeys_of_setAssetArchived {key : AssetKey} {archived : Bool}
    (ran : setAssetArchived key archived s = .ok ((), s')) : s'.assetKeys = s.assetKeys := by
  obtain ⟨_, rfl⟩ := setAssetArchived_eq_ok.1 ran
  exact map_changeRows fun _ => rfl

/-- A deleted asset only takes its key away. -/
theorem assetKeys_of_deleteAssetCascade {key : AssetKey} {number : Nat}
    (ran : deleteAssetCascade key s = .ok (number, s')) : s'.assetKeys.Sublist s.assetKeys := by
  obtain ⟨_, _, rfl⟩ := deleteAssetCascade_eq_ok.1 ran
  exact List.filter_sublist.map _

/-- A new pipeline adds its reference. -/
theorem pipelineRefs_of_insertPipeline {row p : Pipeline}
    (ran : insertPipeline row s = .ok (p, s')) : s'.pipelineRefs = s.pipelineRefs ++ [row.ref] := by
  obtain ⟨_, _, _, rfl⟩ := insertPipeline_eq_ok.1 ran
  exact List.map_append

/-- Enabling a pipeline keeps all references. -/
theorem pipelineRefs_of_setPipelineEnabled {ref : PipelineRef} {enabled : Bool}
    (ran : setPipelineEnabled ref enabled s = .ok ((), s')) :
    s'.pipelineRefs = s.pipelineRefs := by
  obtain ⟨_, rfl⟩ := setPipelineEnabled_eq_ok.1 ran
  exact map_changeRows fun _ => rfl

/-- A new workflow adds its steps. -/
theorem workflowSteps_of_insertWorkflow {row w : Workflow}
    (ran : insertWorkflow row s = .ok (w, s')) :
    s'.workflowSteps = s.workflowSteps ++ [(row.key, row.pipelines)] := by
  obtain ⟨_, _, _, rfl⟩ := insertWorkflow_eq_ok.1 ran
  exact List.map_append

/-- Archiving a workflow keeps the steps of all. -/
theorem workflowSteps_of_setWorkflowArchived {key : WorkflowKey} {archived : Bool}
    (ran : setWorkflowArchived key archived s = .ok ((), s')) :
    s'.workflowSteps = s.workflowSteps := by
  obtain ⟨_, rfl⟩ := setWorkflowArchived_eq_ok.1 ran
  exact map_changeRows fun _ => rfl

end

end Store

/-! ### Steps -/

namespace Operation.Step

variable {operation : Operation} {reply : Reply} {r r' : Registry}

/-- No step opens a closed database. -/
theorem isClosed (step : Step r operation reply r') (closed : r.store.IsClosed databaseId) :
    r'.store.IsClosed databaseId := by
  have frame := step.agreesBut
  cases step
  -- Two operations write to the databases, and neither takes the flag back.
  case read => exact closed
  case createDatabase ran => exact closed.insertDatabase ran
  case archiveDatabase ran => exact closed.setDatabaseArchived ran
  all_goals
    have same : _ = r.store.databases := frame.databases (by simp [tables])
    rwa [Store.IsClosed, Store.database?, same]

/-- A new asset is in another database, and other changes of assets add no key. -/
theorem assetKeysIn_subset (step : Step r operation reply r')
    (closed : r.store.IsClosed databaseId) :
    r'.store.assetKeysIn databaseId ⊆ r.store.assetKeysIn databaseId := by
  have frame := step.agreesBut
  cases step
  case read => exact List.Subset.refl _
  case createAsset other request _ _ _ active ran =>
    -- The database of a new asset was active, and the closed one is not.
    have apart : other ≠ databaseId := closed.ne_of_active active
    have keys := Store.assetKeys_of_insertAsset ran
    simp [Store.assetKeysIn, Registry.wrote, keys, Asset.key, Catalog.newAsset, apart]
  case archiveAsset ran =>
    have keys := Store.assetKeys_of_setAssetArchived ran
    simp [Store.assetKeysIn, Registry.wrote, keys]
  case restoreAsset ran _ =>
    have keys := Store.assetKeys_of_setAssetArchived ran
    simp [Store.assetKeysIn, Registry.wrote, keys]
  case deleteAsset ran =>
    exact ((Store.assetKeys_of_deleteAssetCascade ran).filter _).subset
  -- All other steps leave the table of assets alone.
  all_goals
    have same : _ = r.store.assets := frame.assets (by simp [tables])
    rw [Store.assetKeysIn, Store.assetKeys, same]
    exact List.Subset.refl _

/-- A new pipeline is in another database, and a pipeline that is switched keeps its key. -/
theorem pipelineRefsIn_eq (step : Step r operation reply r')
    (closed : r.store.IsClosed databaseId) :
    r'.store.pipelineRefsIn databaseId = r.store.pipelineRefsIn databaseId := by
  have frame := step.agreesBut
  cases step
  case read => rfl
  case createPipeline other request _ _ _ active ran =>
    -- The database of a new pipeline was active, and the closed one is not.
    have apart : other ≠ databaseId := closed.ne_of_active active
    have refs := Store.pipelineRefs_of_insertPipeline ran
    simp [Store.pipelineRefsIn, Registry.wrote, refs, Pipeline.ref, Catalog.newPipeline, apart]
  case setPipelineEnabled ran _ =>
    have refs := Store.pipelineRefs_of_setPipelineEnabled ran
    simp [Store.pipelineRefsIn, Registry.wrote, refs]
  -- All other steps leave the table of pipelines alone.
  all_goals
    have same : _ = r.store.pipelines := frame.pipelines (by simp [tables])
    rw [Store.pipelineRefsIn, Store.pipelineRefs, same]
    rfl

/-- A new workflow is in another database, and a workflow that is archived keeps its key and
    its steps. -/
theorem workflowStepsIn_eq (step : Step r operation reply r')
    (closed : r.store.IsClosed databaseId) :
    r'.store.workflowStepsIn databaseId = r.store.workflowStepsIn databaseId := by
  have frame := step.agreesBut
  cases step
  case read => rfl
  case createWorkflow other request _ _ _ active _ ran =>
    -- The database of a new workflow was active, and the closed one is not.
    have apart : other ≠ databaseId := closed.ne_of_active active
    have steps := Store.workflowSteps_of_insertWorkflow ran
    simp [Store.workflowStepsIn, Registry.wrote, steps, Workflow.key, Catalog.newWorkflow, apart]
  case archiveWorkflow ran =>
    have steps := Store.workflowSteps_of_setWorkflowArchived ran
    simp [Store.workflowStepsIn, Registry.wrote, steps]
  -- All other steps leave the table of workflows alone.
  all_goals
    have same : _ = r.store.workflows := frame.workflows (by simp [tables])
    rw [Store.workflowStepsIn, Store.workflowSteps, same]
    rfl

/-- No step adds to a closed database. -/
theorem staysClosed (step : Step r operation reply r') (closed : r.store.IsClosed databaseId) :
    r.store.StaysClosed databaseId r'.store where
  closed := step.isClosed closed
  assets := step.assetKeysIn_subset closed
  pipelines := step.pipelineRefsIn_eq closed
  workflows := step.workflowStepsIn_eq closed

end Operation.Step

/-! ### Runs -/

namespace Registry

variable {r r' : Registry}

/-- A closed database stays closed, wherever a registry leads to. -/
theorem LeadsTo.staysClosed (leads : r.LeadsTo r') (closed : r.store.IsClosed databaseId) :
    r.store.StaysClosed databaseId r'.store := by
  apply leads.invariant (motive := fun r' => r.store.StaysClosed databaseId r'.store) (.refl closed)
  · intro r₁ before
    exact before
  · intro r₁ operation reply r₂ step before
    exact before.trans (step.staysClosed before.closed)

/-- A database is closed when it was archived. -/
theorem isClosed_of_archiveDatabase
    (done : ((Operation.archiveDatabase databaseId).perform r).1.isOk) :
    ((Operation.archiveDatabase databaseId).perform r).2.store.IsClosed databaseId := by
  rcases outcome : (Operation.archiveDatabase databaseId).perform r with ⟨e | reply, r'⟩
  · rw [outcome] at done
    exact nomatch done
  · cases Operation.step_of_perform outcome with
    | read reads => simp [Operation.isRead] at reads
    | archiveDatabase _ ran => exact Store.isClosed_of_setDatabaseArchived ran

/-- No asset is created in a closed database. -/
theorem createAsset_refused_of_closed (closed : r.store.IsClosed databaseId)
    (request : NewAsset) :
    ∃ e, ((Operation.createAsset databaseId request).perform r).1 = .error e := by
  rcases outcome : (Operation.createAsset databaseId request).perform r with ⟨e | reply, r'⟩
  · exact ⟨e, rfl⟩
  · -- A success would have found the database active.
    cases Operation.step_of_perform outcome with
    | read reads => simp [Operation.isRead] at reads
    | createAsset _ active _ => exact absurd rfl (closed.ne_of_active active)

end Registry

/-- Once a database is archived, it is so in every later registry, and no asset can be
    created in it any more, not even one that was deleted.  Its asset keys are among those
    that it had, it has the same pipelines and the same workflows, and these have the same
    steps. -/
theorem archived_database_closed_for_good {r r' : Registry}
    (archived : r.store.IsClosed databaseId) (leads : r.LeadsTo r') :
    r'.store.IsClosed databaseId ∧
    (∀ request, ∃ e, ((Operation.createAsset databaseId request).perform r').1 = .error e) ∧
    r'.store.assetKeysIn databaseId ⊆ r.store.assetKeysIn databaseId ∧
    r'.store.pipelineRefsIn databaseId = r.store.pipelineRefsIn databaseId ∧
    r'.store.workflowKeysIn databaseId = r.store.workflowKeysIn databaseId ∧
    r'.store.workflowStepsIn databaseId = r.store.workflowStepsIn databaseId := by
  have stays := leads.staysClosed archived
  refine ⟨stays.closed, Registry.createAsset_refused_of_closed stays.closed, stays.assets,
    stays.pipelines, ?_, stays.workflows⟩
  rw [← Store.map_fst_workflowStepsIn, ← Store.map_fst_workflowStepsIn, stays.workflows]

namespace Registry

/-- The plant with its database archived. -/
def closedPlant : Registry :=
  ((Operation.archiveDatabase "plant").perform plant).2

/-- The closed plant after its motor was deleted and was to be created again. -/
def closedPlantRun : Registry :=
  (Batch.performAll
    [ .deleteAsset ⟨"plant", "motor"⟩,
      .createAsset "plant" { assetId := "motor", assetName := "Motor" },
      .archiveWorkflow ⟨"plant", "preview"⟩ ] closedPlant).2

end Registry

/-- The motor of a closed plant is gone when it is deleted, and the workflow keeps its step
    when it is archived. -/
theorem archived_database_closed_for_good_plant :
    Registry.closedPlantRun.store.IsClosed "plant" ∧
      Registry.closedPlantRun.store.assetKeysIn "plant" =
        [⟨"plant", "hall"⟩, ⟨"plant", "press"⟩] ∧
      Registry.closedPlantRun.store.workflowStepsIn "plant" =
        [(⟨"plant", "preview"⟩, [⟨"GLOBAL", "convert"⟩])] ∧
      Registry.closedPlantRun.store.assetKeysIn "plant" ⊆
        Registry.closedPlant.store.assetKeysIn "plant" := by
  have archived : Registry.closedPlant.store.IsClosed "plant" :=
    Registry.isClosed_of_archiveDatabase (by decide +kernel)
  have leads : Registry.closedPlant.LeadsTo Registry.closedPlantRun :=
    Registry.LeadsTo.performAll _ _
  obtain ⟨closed, _, assets, _, _, steps⟩ := archived_database_closed_for_good archived leads
  refine ⟨closed, by decide +kernel, ?_, assets⟩
  rw [steps]
  decide +kernel

end AssetRegistry
