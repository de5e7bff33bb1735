import AssetRegistry.Proofs.FieldForm
import AssetRegistry.Proofs.RowOrigin

/-!
# The fields of stored rows

In every registry that operations lead to, the fields of all rows have passed their
checks, although a field may be written by several operations and a row may get its ids
from other rows.  `IsValid` says for each kind of row what its fields look like, in
characters and numbers; a row is valid wherever it comes from.
-/

namespace AssetRegistry

open Validation

/-! ### Valid rows -/

/-- A stored database has an id and a description as they may be. -/
structure Database.IsValid (d : Database) : Prop where
  databaseId : IsDatabaseId d.databaseId
  description : d.description.length ≤ 256

/-- Assets are stored under databases other than the reserved one. -/
structure Asset.IsValid (a : Asset) : Prop where
  databaseId : IsIdentifier a.databaseId
  assetId : IsAssetId a.assetId
  assetName : a.assetName.length ≤ 256
  nameNotBlank : ∃ c ∈ a.assetName.toList, ¬ Text.isBlank c
  description : a.description.length ≤ 256

/-- A stored link has ends, an alias and tags as they may be. -/
structure AssetLink.IsValid (l : AssetLink) : Prop where
  source : IsDatabaseId l.fromDatabaseId ∧ IsAssetId l.fromAssetId
  target : IsDatabaseId l.toDatabaseId ∧ IsAssetId l.toAssetId
  aliasText : ∀ text, l.assetLinkAliasId = some text → text.length ≤ 256
  tags : ∀ tag ∈ l.tags, tag.length ≤ 256

/-- Stored metadata has a key as it may be, and a value of its type. -/
structure LinkMetadata.IsValid (m : LinkMetadata) : Prop where
  metadataKey : 1 ≤ m.metadataKey.length ∧ m.metadataKey.length ≤ 256
  metadataValue : Validation.metadataValue m.metadataValue m.metadataValueType = .ok ()

/-- A pipeline as it is named by its own row and by the steps of workflows. -/
structure PipelineRef.IsValid (ref : PipelineRef) : Prop where
  databaseId : IsDatabaseId ref.databaseId
  pipelineId : IsIdentifier ref.pipelineId

/-- A stored pipeline has a reference, file types and time limits as they may be. -/
structure Pipeline.IsValid (p : Pipeline) : Prop where
  ref : p.ref.IsValid
  description : p.description.length ≤ 256
  fileTypes : IsFileExtension p.assetType ∧ IsFileExtension p.outputType
  timeouts : AreTimeouts p.waitForCallback p.taskTimeoutSeconds p.taskHeartbeatTimeoutSeconds

/-- A stored workflow has a key as it may be, and at least one step. -/
structure Workflow.IsValid (w : Workflow) : Prop where
  databaseId : IsDatabaseId w.databaseId
  workflowId : IsIdentifier w.workflowId
  description : w.description.length ≤ 256
  notEmpty : w.pipelines ≠ []
  steps : ∀ step ∈ w.pipelines, step.IsValid

/-- A stored execution has the keys of a workflow and of an asset as they may be. -/
structure Execution.IsValid (e : Execution) : Prop where
  workflow : IsDatabaseId e.workflowDatabaseId ∧ IsIdentifier e.workflowId
  asset : IsIdentifier e.databaseId ∧ IsAssetId e.assetId

namespace Store

/-- Every row has valid fields. -/
structure IsValid (s : Store) : Prop where
  databases : ∀ d ∈ s.databases, d.IsValid
  assets : ∀ a ∈ s.assets, a.IsValid
  links : ∀ l ∈ s.links, l.IsValid
  metadata : ∀ m ∈ s.metadata, m.IsValid
  pipelines : ∀ p ∈ s.pipelines, p.IsValid
  workflows : ∀ w ∈ s.workflows, w.IsValid
  executions : ∀ e ∈ s.executions, e.IsValid

/-- The reserved database is the only row. -/
theorem IsValid.initial : IsValid .initial where
  databases d member := by
    rw [List.mem_singleton.1 member]
    exact ⟨.inl rfl, by decide +kernel⟩
  assets := by simp [Store.initial]
  links := by simp [Store.initial]
  metadata := by simp [Store.initial]
  pipelines := by simp [Store.initial]
  workflows := by simp [Store.initial]
  executions := by simp [Store.initial]

end Store

/-! ### Checks of whole requests -/

section Checks

variable {databaseId : String}

/-- Tags pass where none is longer than a text may be. -/
theorem Links.checkTags_eq_ok {tags : List String} {u : Unit} :
    checkTags tags = .ok u ↔ ∀ tag ∈ tags, tag.length ≤ 256 := by
  induction tags with
  | nil => simp [checkTags, pure, Except.pure]
  | cons tag tags ih =>
    have parts : checkTags (tag :: tags) = freeText "tags" tag >>= fun _ => checkTags tags := rfl
    simp [parts, bind_eq_ok, freeText_eq_ok, ih]

/-- The alias that a link gets is checked, unless it is blank and not stored at all. -/
theorem Links.isValid_newLink {request : NewAssetLink} (valid : checkRequest request = .ok ())
    (assetLinkId : String) (now : Moment) : (newLink request assetLinkId now).IsValid := by
  simp only [checkRequest, bind_eq_ok] at valid
  obtain ⟨_, sourceDatabase, _, source, _, targetDatabase, _, target, _, aliasChecked, _, tags,
    _⟩ := valid
  refine ⟨⟨databaseId_eq_ok.1 sourceDatabase, assetId_eq_ok.1 source⟩,
    ⟨databaseId_eq_ok.1 targetDatabase, assetId_eq_ok.1 target⟩, ?_, checkTags_eq_ok.1 tags⟩
  intro text named
  have stored : request.alias? = some text := named
  rw [stored] at aliasChecked
  exact freeText_eq_ok.1 aliasChecked

/-- A database whose fields have passed is stored as it may be. -/
theorem Catalog.isValid_newDatabase {request : NewDatabase}
    (identifier : Validation.identifier "databaseId" request.databaseId = .ok ())
    (description : Validation.freeText "description" request.description = .ok ())
    (now : Moment) : (newDatabase request now).IsValid :=
  ⟨.inr (identifier_eq_ok.1 identifier), freeText_eq_ok.1 description⟩

/-- An asset whose fields have passed is stored as it may be. -/
theorem Catalog.isValid_newAsset {request : NewAsset}
    (valid : checkAsset databaseId request = .ok ()) (now : Moment) :
    (newAsset databaseId request now).IsValid := by
  simp only [checkAsset, bind_eq_ok, require_eq_ok] at valid
  obtain ⟨_, database, _, asset, _, name, _, description, notBlank⟩ := valid
  have visible : ∃ c ∈ request.assetName.toList, ¬ Text.isBlank c := by
    simpa [Text.isAllBlank] using notBlank
  exact ⟨identifier_eq_ok.1 database, assetId_eq_ok.1 asset, freeText_eq_ok.1 name, visible,
    freeText_eq_ok.1 description⟩

/-- A pipeline whose fields have passed is stored as it may be. -/
theorem Catalog.isValid_newPipeline {request : NewPipeline}
    (valid : checkPipeline databaseId request = .ok ()) (now : Moment) :
    (newPipeline databaseId request now).IsValid := by
  simp only [checkPipeline, bind_eq_ok] at valid
  obtain ⟨_, database, _, pipeline, _, description, _, assetType, _, outputType, timeouts⟩ := valid
  exact ⟨⟨databaseId_eq_ok.1 database, identifier_eq_ok.1 pipeline⟩, freeText_eq_ok.1 description,
    ⟨fileExtension_eq_ok.1 assetType, fileExtension_eq_ok.1 outputType⟩,
    timeouts_eq_ok.1 timeouts⟩

/-- The steps are those of the request, which have to be valid for another reason. -/
theorem Catalog.isValid_newWorkflow {request : NewWorkflow}
    (valid : checkWorkflow databaseId request = .ok ())
    (steps : ∀ step ∈ request.pipelines, step.IsValid) (now : Moment) :
    (newWorkflow databaseId request now).IsValid := by
  simp only [checkWorkflow, bind_eq_ok, require_eq_ok] at valid
  obtain ⟨_, database, _, workflow, _, description, checked⟩ := valid
  have notEmpty : request.pipelines ≠ [] := by simpa using checked
  exact ⟨databaseId_eq_ok.1 database, identifier_eq_ok.1 workflow, freeText_eq_ok.1 description,
    notEmpty, steps⟩

end Checks

/-! ### Rows after an operation -/

section Origins

variable {r : Registry} (inv : r.store.IsValid)
include inv

/-- A database that was valid stays so, and a new one has passed. -/
theorem Database.Origin.isValid {d : Database} (origin : d.Origin r) : d.IsValid := by
  cases origin with
  | kept there => exact inv.databases d there
  | archived there _ => exact { inv.databases _ there with }
  | created _ identifier description => exact Catalog.isValid_newDatabase identifier description _

/-- An asset that was valid stays so, and a new one has passed. -/
theorem Asset.Origin.isValid {a : Asset} (origin : a.Origin r) : a.IsValid := by
  cases origin with
  | kept there => exact inv.assets a there
  | archived there _ => exact { inv.assets _ there with }
  | created valid _ => exact Catalog.isValid_newAsset valid _

/-- Tags are checked by both operations that write them. -/
theorem AssetLink.Origin.isValid {l : AssetLink} (origin : l.Origin r) : l.IsValid := by
  cases origin with
  | kept there => exact inv.links l there
  | retagged there valid =>
    exact { inv.links _ there with tags := Links.checkTags_eq_ok.1 valid }
  | created accepts => exact Links.isValid_newLink accepts.valid _ _

/-- A key stays as it was checked when its value was first stored. -/
theorem LinkMetadata.Origin.isValid {m : LinkMetadata} (origin : m.Origin r) : m.IsValid := by
  cases origin with
  | kept there => exact inv.metadata m there
  | replaced there valid => exact ⟨(inv.metadata _ there).metadataKey, valid⟩
  | created validKey validValue _ => exact ⟨metadataKey_eq_ok.1 validKey, validValue⟩

/-- A pipeline that was valid stays so, and a new one has passed. -/
theorem Pipeline.Origin.isValid {p : Pipeline} (origin : p.Origin r) : p.IsValid := by
  cases origin with
  | kept there => exact inv.pipelines p there
  | switched there _ => exact { inv.pipelines _ there with }
  | created valid _ => exact Catalog.isValid_newPipeline valid _

/-- No check looks at the ids in the steps of a workflow, but each step was found among
    the stored pipelines. -/
theorem Workflow.Origin.isValid {w : Workflow} (origin : w.Origin r) : w.IsValid := by
  cases origin with
  | kept there => exact inv.workflows w there
  | archived there _ => exact { inv.workflows _ there with }
  | created valid _ steps =>
    refine Catalog.isValid_newWorkflow valid (fun step uses => ?_) _
    obtain ⟨p, there, named⟩ :=
      List.mem_map.1 (Store.mem_pipelineRefs_of_active (steps step uses).2)
    exact named ▸ (inv.pipelines p there).ref

/-- The ids of a new execution are those of its workflow and its asset. -/
theorem Execution.Origin.isValid {e : Execution} (origin : e.Origin r) : e.IsValid := by
  cases origin with
  | kept there => exact inv.executions e there
  | finished there _ _ => exact { inv.executions _ there with }
  | started there visible =>
    have asset := inv.assets _ there
    have workflow := inv.workflows _ visible
    exact ⟨⟨workflow.databaseId, workflow.workflowId⟩, asset.databaseId, asset.assetId⟩

end Origins

/-! ### Runs -/

/-- An operation leaves every row with valid fields. -/
theorem Operation.Step.isValid {operation : Operation} {reply : Reply} {r r' : Registry}
    (step : Step r operation reply r') (inv : r.store.IsValid) : r'.store.IsValid where
  databases d member := (step.database_origin d member).isValid inv
  assets a member := (step.asset_origin a member).isValid inv
  links l member := (step.link_origin l member).isValid inv
  metadata m member := (step.metadata_origin m member).isValid inv
  pipelines p member := (step.pipeline_origin p member).isValid inv
  workflows w member := (step.workflow_origin w member).isValid inv
  executions e member := (step.execution_origin e member).isValid inv

/-- In every registry that operations lead to, the fields of every row have their form:
    ids of databases, pipelines, workflows and assets in whatever table they stand, texts,
    file types, time limits, the steps of workflows, and metadata values under their
    types. -/
theorem stored_fields_valid {linkLimit : Nat} {r : Registry} (reachable : r.Reachable linkLimit) :
    r.store.IsValid :=
  reachable.invariant .initial fun _ _ _ _ step h => step.isValid h

/-- The rows of a plant have valid fields, those in its workflow and its execution
    included. -/
theorem stored_fields_valid_plant :
    Registry.plant.store.workflowKeys = [⟨"plant", "preview"⟩] ∧
      Registry.plant.store.executionKeys = [⟨"plant", "preview", "exec-1"⟩] ∧
      Registry.plant.store.IsValid :=
  ⟨by decide +kernel, by decide +kernel, stored_fields_valid Registry.reachable_plant⟩

end AssetRegistry
