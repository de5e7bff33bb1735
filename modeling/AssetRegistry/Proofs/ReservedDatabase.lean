import AssetRegistry.Proofs.StoredFields

/-!
# The reserved database

The reserved database holds the pipelines and workflows that all databases share, and
nothing else.  Its row is the one of a new store, since it can neither be created nor
archived.  The check of an asset's database does not know its name, so it has no assets,
and so neither an end of a link nor the asset of an execution is in it.  The steps of its
workflows are its own pipelines, and those of another workflow are its own or that
workflow's database's.
-/

namespace AssetRegistry

/-- The name of the reserved database has no form of an id. -/
theorem Validation.not_isIdentifier_global : ¬ IsIdentifier globalDatabaseId := by
  rw [← isIdentifier_iff]
  decide +kernel

/-- What a workflow of the reserved database, and what another one may have as a step. -/
theorem Catalog.mayUse_iff {databaseId : String} {step : PipelineRef} :
    mayUse databaseId step ↔
      (databaseId = globalDatabaseId → step.databaseId = globalDatabaseId) ∧
        (databaseId ≠ globalDatabaseId →
          step.databaseId = databaseId ∨ step.databaseId = globalDatabaseId) := by
  by_cases reserved : databaseId = globalDatabaseId <;> simp [mayUse, reserved, or_comm]

namespace Store

/-- The row of the reserved database is there, and what is stored keeps to the rules
    about it. -/
structure KeepsReserved (s : Store) : Prop where
  row : .global ∈ s.databases
  assets : ∀ a ∈ s.assets, a.databaseId ≠ globalDatabaseId
  executions : ∀ e ∈ s.executions, e.databaseId ≠ globalDatabaseId
  steps : ∀ w ∈ s.workflows, ∀ step ∈ w.pipelines, Catalog.mayUse w.databaseId step

/-- The first store has the row of the reserved database and no others. -/
theorem KeepsReserved.initial : KeepsReserved .initial := by
  constructor <;> simp [Store.initial]

end Store

section Origins

variable {r : Registry} (inv : r.store.KeepsReserved)
include inv

/-- An asset is never stored in the reserved database. -/
theorem Asset.Origin.databaseId_ne {a : Asset} (origin : a.Origin r) :
    a.databaseId ≠ globalDatabaseId := by
  cases origin with
  | kept there => exact inv.assets a there
  | @archived old there _ => exact inv.assets old there
  | created valid _ =>
    have identifier := (Catalog.isValid_newAsset valid r.now).databaseId
    exact fun reserved => Validation.not_isIdentifier_global (reserved ▸ identifier)

/-- An execution is never on an asset of the reserved database. -/
theorem Execution.Origin.databaseId_ne {e : Execution} (origin : e.Origin r) :
    e.databaseId ≠ globalDatabaseId := by
  cases origin with
  | kept there => exact inv.executions e there
  | @finished old there _ _ _ => exact inv.executions old there
  | started there _ => exact inv.assets _ there

/-- A workflow is stored with steps that its database may use. -/
theorem Workflow.Origin.mayUse {w : Workflow} (origin : w.Origin r) :
    ∀ step ∈ w.pipelines, Catalog.mayUse w.databaseId step := by
  cases origin with
  | kept there => exact inv.steps w there
  | @archived old there _ => exact inv.steps old there
  | created _ _ steps => exact fun step uses => (steps step uses).1

end Origins

/-- The row of the reserved database is neither changed nor taken away. -/
theorem Operation.Step.global_mem {operation : Operation} {reply : Reply} {r r' : Registry}
    (step : Step r operation reply r') (there : .global ∈ r.store.databases) :
    .global ∈ r'.store.databases := by
  have frame := step.agreesBut
  cases step
  case read => exact there
  case createDatabase ran =>
    obtain ⟨_, _, rfl⟩ := Store.insertDatabase_eq_ok.1 ran
    exact List.mem_append_left _ there
  case archiveDatabase unreserved ran =>
    obtain ⟨_, rfl⟩ := Store.setDatabaseArchived_eq_ok.1 ran
    -- The row is passed over, for the id to be archived is another one.
    have other : Database.global.databaseId ≠ _ := unreserved.symm
    exact Store.mem_changeRows.2 ⟨.global, there, if_neg (by simpa using other)⟩
  all_goals exact frame.databases (by simp [tables]) ▸ there

/-- No step of an operation writes to what is reserved. -/
theorem Operation.Step.keepsReserved {operation : Operation} {reply : Reply} {r r' : Registry}
    (step : Step r operation reply r') (inv : r.store.KeepsReserved) :
    r'.store.KeepsReserved where
  row := step.global_mem inv.row
  assets a member := (step.asset_origin a member).databaseId_ne inv
  executions e member := (step.execution_origin e member).databaseId_ne inv
  steps w member := (step.workflow_origin w member).mayUse inv

/-- In every registry that operations lead to, the reserved database is as it was in a new
    store and not archived; no asset, no end of a link and no asset of an execution is in
    it; and every step of a workflow is a stored pipeline of the reserved database, or of
    the workflow's own where that is another one. -/
theorem reserved_database_apart {linkLimit : Nat} {r : Registry}
    (reachable : r.Reachable linkLimit) :
    (∀ d, d ∈ r.store.databases ∧ d.databaseId = "GLOBAL" ↔
      d = ⟨"GLOBAL", "Pipelines and workflows shared by every database", false, .epoch⟩) ∧
    (∀ a ∈ r.store.assets, a.databaseId ≠ "GLOBAL") ∧
    (∀ l ∈ r.store.links, l.fromDatabaseId ≠ "GLOBAL" ∧ l.toDatabaseId ≠ "GLOBAL") ∧
    (∀ e ∈ r.store.executions, e.databaseId ≠ "GLOBAL") ∧
    (∀ w ∈ r.store.workflows, ∀ step ∈ w.pipelines,
      (r.store.pipeline? step).isSome ∧
      (w.databaseId = "GLOBAL" → step.databaseId = "GLOBAL") ∧
      (w.databaseId ≠ "GLOBAL" →
        step.databaseId = w.databaseId ∨ step.databaseId = "GLOBAL")) := by
  have consistent : r.store.Consistent := Registry.LeadsTo.consistent reachable .initial
  have inv : r.store.KeepsReserved :=
    reachable.invariant .initial fun _ _ _ _ step h => step.keepsReserved h
  have apart : ∀ key ∈ r.store.assetKeys, key.databaseId ≠ globalDatabaseId := by
    intro key there
    obtain ⟨a, member, rfl⟩ := List.mem_map.1 there
    exact inv.assets a member
  refine ⟨fun d => ⟨?_, ?_⟩, inv.assets, ?_, inv.executions, ?_⟩
  · -- The ids of databases are distinct.
    rintro ⟨member, named⟩
    exact List.inj_on_of_nodup_map consistent.distinctDatabases member inv.row named
  · rintro rfl
    exact ⟨inv.row, rfl⟩
  · intro l member
    obtain ⟨source, target⟩ := consistent.linkEnds l member
    exact ⟨apart _ source, apart _ target⟩
  · intro w member step uses
    have stored := Store.isSome_find?_iff_mem_keys.2 (consistent.workflowSteps w member step uses)
    exact ⟨stored, Catalog.mayUse_iff.1 (inv.steps w member step uses)⟩

/-- The workflow of a plant runs a pipeline of the reserved database on an asset of the
    plant. -/
theorem reserved_database_apart_plant :
    Registry.plant.store.pipelineRefs = [⟨"GLOBAL", "convert"⟩] ∧
      Registry.plant.store.workflowKeys = [⟨"plant", "preview"⟩] ∧
      (∀ a ∈ Registry.plant.store.assets, a.databaseId ≠ "GLOBAL") ∧
      ∀ w ∈ Registry.plant.store.workflows, ∀ step ∈ w.pipelines, w.databaseId ≠ "GLOBAL" →
        step.databaseId = w.databaseId ∨ step.databaseId = "GLOBAL" := by
  obtain ⟨_, assets, _, _, steps⟩ := reserved_database_apart Registry.reachable_plant
  refine ⟨by decide +kernel, by decide +kernel, assets, ?_⟩
  exact fun w member step uses => (steps w member step uses).2.2

end AssetRegistry
