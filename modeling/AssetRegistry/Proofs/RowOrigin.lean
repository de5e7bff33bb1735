import AssetRegistry.Proofs.Frame
import AssetRegistry.Proofs.StoreConsistent

/-!
# Where rows come from

A row that is stored after an operation was stored before it, or the operation changed
one that was, or created it.  For each kind of row `Origin` says so, with the values that
a change can give and the checks that a new row has passed.  What every row of a kind
satisfies in all registries is a case analysis of where it comes from.
-/

namespace AssetRegistry

variable {r r' : Registry}

/-- Where a database comes from.  The reserved one is neither archived nor created. -/
inductive Database.Origin (r : Registry) : Database → Prop where
  | kept {d : Database} (there : d ∈ r.store.databases) : Origin r d
  | archived {d : Database} (there : d ∈ r.store.databases)
      (unreserved : d.databaseId ≠ globalDatabaseId) : Origin r { d with archived := true }
  | created {request : NewDatabase} (unreserved : request.databaseId ≠ globalDatabaseId)
      (identifier : Validation.identifier "databaseId" request.databaseId = .ok ())
      (description : Validation.freeText "description" request.description = .ok ()) :
    Origin r (Catalog.newDatabase request r.now)

/-- Where an asset comes from. -/
inductive Asset.Origin (r : Registry) : Asset → Prop where
  | kept {a : Asset} (there : a ∈ r.store.assets) : Origin r a
  | archived {a : Asset} (there : a ∈ r.store.assets) (archived : Bool) :
    Origin r { a with archived }
  | created {databaseId : String} {request : NewAsset}
      (valid : Catalog.checkAsset databaseId request = .ok ())
      (active : (r.store.activeDatabase? databaseId).isSome) :
    Origin r (Catalog.newAsset databaseId request r.now)

/-- Where a link comes from. -/
inductive AssetLink.Origin (r : Registry) : AssetLink → Prop where
  | kept {l : AssetLink} (there : l ∈ r.store.links) : Origin r l
  | retagged {l : AssetLink} (there : l ∈ r.store.links) {tags : List String}
      (valid : Links.checkTags tags = .ok ()) : Origin r { l with tags }
  | created {request : NewAssetLink} (accepts : Links.Accepts r request) :
    Origin r (Links.newLink request r.nextLinkId r.now)

/-- Where a metadata value comes from.  A new text and a new type are checked together. -/
inductive LinkMetadata.Origin (r : Registry) : LinkMetadata → Prop where
  | kept {m : LinkMetadata} (there : m ∈ r.store.metadata) : Origin r m
  | replaced {m : LinkMetadata} (there : m ∈ r.store.metadata) {value : String} {type : ValueType}
      (valid : Validation.metadataValue value type = .ok ()) :
    Origin r { m with metadataValue := value, metadataValueType := type }
  | created {m : LinkMetadata} (validKey : Validation.metadataKey m.metadataKey = .ok ())
      (validValue : Validation.metadataValue m.metadataValue m.metadataValueType = .ok ())
      (link : (r.store.link? m.assetLinkId).isSome) : Origin r m

/-- Where a pipeline comes from. -/
inductive Pipeline.Origin (r : Registry) : Pipeline → Prop where
  | kept {p : Pipeline} (there : p ∈ r.store.pipelines) : Origin r p
  | switched {p : Pipeline} (there : p ∈ r.store.pipelines) (enabled : Bool) :
    Origin r { p with enabled }
  | created {databaseId : String} {request : NewPipeline}
      (valid : Catalog.checkPipeline databaseId request = .ok ())
      (active : (r.store.activeDatabase? databaseId).isSome) :
    Origin r (Catalog.newPipeline databaseId request r.now)

/-- Where a workflow comes from. -/
inductive Workflow.Origin (r : Registry) : Workflow → Prop where
  | kept {w : Workflow} (there : w ∈ r.store.workflows) : Origin r w
  | archived {w : Workflow} (there : w ∈ r.store.workflows) (archived : Bool) :
    Origin r { w with archived }
  | created {databaseId : String} {request : NewWorkflow}
      (valid : Catalog.checkWorkflow databaseId request = .ok ())
      (active : (r.store.activeDatabase? databaseId).isSome)
      (steps : ∀ step ∈ request.pipelines,
        Catalog.mayUse databaseId step ∧ (r.store.activePipeline? step).isSome) :
    Origin r (Catalog.newWorkflow databaseId request r.now)

/-- Where an execution comes from.  A new one is of a stored workflow on a stored asset. -/
inductive Execution.Origin (r : Registry) : Execution → Prop where
  | kept {e : Execution} (there : e ∈ r.store.executions) : Origin r e
  | finished {e : Execution} (there : e ∈ r.store.executions) {status : ExecutionStatus}
      (terminal : status.isTerminal) (stoppedAt : Option Moment) :
    Origin r { e with status, stoppedAt }
  | started {asset : Asset} {workflow : Workflow} (there : asset ∈ r.store.assets)
      (visible : workflow ∈ r.store.workflows) :
    Origin r (Store.newExecution (r.nextExecutionKey workflow.key) asset.key r.now)

/-! ### Rows of a changed table -/

namespace Store

/-- A row after a change is an old one, or one that was chosen and changed. -/
theorem of_mem_changeRows {rows : List ρ} {chosen : ρ → Bool} {change : ρ → ρ} {row' : ρ}
    {P : ρ → Prop} (member : row' ∈ changeRows rows chosen change)
    (kept : ∀ row ∈ rows, P row) (changed : ∀ row ∈ rows, chosen row → P (change row)) :
    P row' := by
  obtain ⟨row, there, rfl⟩ := mem_changeRows.1 member
  split
  · exact changed row there ‹_›
  · exact kept row there

/-- An asset that is not archived is stored. -/
theorem mem_assets_of_active {s : Store} {key : AssetKey} {a : Asset}
    (active : s.activeAsset? key = some a) : a ∈ s.assets := by
  rw [activeAsset?, Option.filter_eq_some_iff] at active
  exact List.mem_of_find?_eq_some active.1

end Store

/-! ### Steps -/

namespace Operation.Step

variable {operation : Operation} {reply : Reply}

/-- A database is from before the step, or the step has stored it. -/
theorem database_origin (step : Step r operation reply r') :
    ∀ d ∈ r'.store.databases, d.Origin r := by
  have frame := step.agreesBut
  intro d member
  cases step
  case read => exact .kept member
  case createDatabase unreserved identifier description ran =>
    obtain ⟨_, _, rfl⟩ := Store.insertDatabase_eq_ok.1 ran
    rcases List.mem_append.1 member with old | new
    · exact .kept old
    · rw [List.mem_singleton.1 new]
      exact .created unreserved identifier description
  case archiveDatabase unreserved ran =>
    obtain ⟨_, rfl⟩ := Store.setDatabaseArchived_eq_ok.1 ran
    apply Store.of_mem_changeRows member (fun _ => .kept)
    intro d there chosen
    -- The changed row has the id that the operation was given, which is not reserved.
    exact .archived there (of_decide_eq_true chosen ▸ unreserved)
  all_goals exact .kept (frame.databases (by simp [tables]) ▸ member)

/-- An asset is from before the step, or the step has stored it. -/
theorem asset_origin (step : Step r operation reply r') :
    ∀ a ∈ r'.store.assets, a.Origin r := by
  have frame := step.agreesBut
  intro a member
  cases step
  case read => exact .kept member
  case createAsset valid active ran =>
    obtain ⟨_, _, _, rfl⟩ := Store.insertAsset_eq_ok.1 ran
    rcases List.mem_append.1 member with old | new
    · exact .kept old
    · rw [List.mem_singleton.1 new]
      exact .created valid active
  case archiveAsset ran =>
    obtain ⟨_, rfl⟩ := Store.setAssetArchived_eq_ok.1 ran
    apply Store.of_mem_changeRows member (fun _ => .kept)
    intro old there _
    exact .archived there _
  case restoreAsset ran _ =>
    obtain ⟨_, rfl⟩ := Store.setAssetArchived_eq_ok.1 ran
    apply Store.of_mem_changeRows member (fun _ => .kept)
    intro old there _
    exact .archived there _
  case deleteAsset ran =>
    obtain ⟨_, _, rfl⟩ := Store.deleteAssetCascade_eq_ok.1 ran
    exact .kept (List.mem_filter.1 member).1
  -- All other steps leave the table of assets alone.
  all_goals exact .kept (frame.assets (by simp [tables]) ▸ member)

/-- A link is from before the step, or the step has stored it. -/
theorem link_origin (step : Step r operation reply r') :
    ∀ l ∈ r'.store.links, l.Origin r := by
  have frame := step.agreesBut
  intro l member
  cases step
  case read => exact .kept member
  case createLink valid source target sourceRoom targetRoom admits ran =>
    obtain ⟨_, _, rfl⟩ := Store.insertLink_eq_ok.1 ran
    rcases List.mem_append.1 member with old | new
    · exact .kept old
    · rw [List.mem_singleton.1 new]
      exact .created ⟨valid, source, target, sourceRoom, targetRoom, admits⟩
  case updateLinkTags valid ran _ =>
    obtain ⟨_, rfl⟩ := Store.setLinkTags_eq_ok.1 ran
    apply Store.of_mem_changeRows member (fun _ => .kept)
    intro old there _
    exact .retagged there valid
  -- A cascade removes rows and changes none.
  case deleteLink ran =>
    obtain ⟨_, _, rfl⟩ := Store.deleteLinkCascade_eq_ok.1 ran
    exact .kept (List.mem_filter.1 member).1
  case deleteAsset ran =>
    obtain ⟨_, _, rfl⟩ := Store.deleteAssetCascade_eq_ok.1 ran
    exact .kept (List.mem_filter.1 member).1
  -- All other steps leave the table of links alone.
  all_goals exact .kept (frame.links (by simp [tables]) ▸ member)

/-- Metadata is from before the step, or the step has written it. -/
theorem metadata_origin (step : Step r operation reply r') :
    ∀ m ∈ r'.store.metadata, m.Origin r := by
  have frame := step.agreesBut
  intro m member
  cases step
  case read => exact .kept member
  case createMetadata validKey validValue ran =>
    obtain ⟨_, link, rfl⟩ := Store.insertMetadata_eq_ok.1 ran
    rcases List.mem_append.1 member with old | new
    · exact .kept old
    · rw [List.mem_singleton.1 new]
      exact .created validKey validValue link
  case updateMetadata validValue ran =>
    obtain ⟨_, rfl⟩ := Store.setMetadata_eq_ok.1 ran
    apply Store.of_mem_changeRows member (fun _ => .kept)
    intro old there _
    exact .replaced there validValue
  -- A deletion, whether of the row alone or by a cascade, changes no row that it leaves.
  case deleteMetadata ran =>
    obtain ⟨_, rfl⟩ := Store.deleteMetadata_eq_ok.1 ran
    exact .kept (List.mem_filter.1 member).1
  case deleteLink ran =>
    obtain ⟨_, _, rfl⟩ := Store.deleteLinkCascade_eq_ok.1 ran
    exact .kept (List.mem_filter.1 member).1
  case deleteAsset ran =>
    obtain ⟨_, _, rfl⟩ := Store.deleteAssetCascade_eq_ok.1 ran
    exact .kept (List.mem_filter.1 member).1
  -- All other steps leave the table of metadata alone.
  all_goals exact .kept (frame.metadata (by simp [tables]) ▸ member)

/-- A pipeline is from before the step, or the step has stored it. -/
theorem pipeline_origin (step : Step r operation reply r') :
    ∀ p ∈ r'.store.pipelines, p.Origin r := by
  have frame := step.agreesBut
  intro p member
  cases step
  case read => exact .kept member
  case createPipeline valid active ran =>
    obtain ⟨_, _, _, rfl⟩ := Store.insertPipeline_eq_ok.1 ran
    rcases List.mem_append.1 member with old | new
    · exact .kept old
    · rw [List.mem_singleton.1 new]
      exact .created valid active
  case setPipelineEnabled ran _ =>
    obtain ⟨_, rfl⟩ := Store.setPipelineEnabled_eq_ok.1 ran
    apply Store.of_mem_changeRows member (fun _ => .kept)
    intro old there _
    exact .switched there _
  -- All other steps leave the table of pipelines alone.
  all_goals exact .kept (frame.pipelines (by simp [tables]) ▸ member)

/-- A workflow is from before the step, or the step has stored it. -/
theorem workflow_origin (step : Step r operation reply r') :
    ∀ w ∈ r'.store.workflows, w.Origin r := by
  have frame := step.agreesBut
  intro w member
  cases step
  case read => exact .kept member
  case createWorkflow valid active steps ran =>
    obtain ⟨_, _, _, rfl⟩ := Store.insertWorkflow_eq_ok.1 ran
    rcases List.mem_append.1 member with old | new
    · exact .kept old
    · rw [List.mem_singleton.1 new]
      exact .created valid active steps
  case archiveWorkflow ran =>
    obtain ⟨_, rfl⟩ := Store.setWorkflowArchived_eq_ok.1 ran
    apply Store.of_mem_changeRows member (fun _ => .kept)
    intro old there _
    exact .archived there _
  -- All other steps leave the table of workflows alone.
  all_goals exact .kept (frame.workflows (by simp [tables]) ▸ member)

/-- An execution is from before the step, or the step has stored it. -/
theorem execution_origin (step : Step r operation reply r') :
    ∀ e ∈ r'.store.executions, e.Origin r := by
  have frame := step.agreesBut
  intro e member
  cases step
  case read => exact .kept member
  case startExecution there visible _ _ ran =>
    obtain ⟨_, _, _, rfl⟩ := Store.insertExecution_eq_ok.1 ran
    -- Nothing is archived or deleted between the lookups and the statement.
    rcases List.mem_append.1 member with old | new
    · exact .kept old
    · rw [List.mem_singleton.1 new]
      exact .started (Store.mem_assets_of_active there) (Store.mem_workflows_of_visible visible)
  case updateExecutionStatus terminal ran _ =>
    obtain ⟨_, rfl⟩ := Store.finishExecution_eq_ok.1 ran
    apply Store.of_mem_changeRows member (fun _ => .kept)
    intro old there _
    exact .finished there terminal _
  all_goals exact .kept (frame.executions (by simp [tables]) ▸ member)

end Operation.Step

end AssetRegistry
