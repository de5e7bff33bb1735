import AssetRegistry.Proofs.OperationStep
import AssetRegistry.Store.Call

/-!
# What operations leave alone

Each statement writes to few tables of the store, and the others have the same rows, in
the same order, after it.  Operations and calls to the store get that from the
statements that they run.
-/

namespace AssetRegistry

/-- The row lists of a store. -/
inductive Table where
  | databases
  | assets
  | links
  | metadata
  | pipelines
  | workflows
  | executions
  deriving DecidableEq, Repr

namespace Store

/-- A store has the rows of another one in all but some tables. -/
structure AgreesBut (tables : List Table) (s s' : Store) : Prop where
  databases : .databases ∉ tables → s'.databases = s.databases
  assets : .assets ∉ tables → s'.assets = s.assets
  links : .links ∉ tables → s'.links = s.links
  metadata : .metadata ∉ tables → s'.metadata = s.metadata
  pipelines : .pipelines ∉ tables → s'.pipelines = s.pipelines
  workflows : .workflows ∉ tables → s'.workflows = s.workflows
  executions : .executions ∉ tables → s'.executions = s.executions

section AgreesBut

variable {tables : List Table} {s s' s'' : Store}

/-- A store agrees with itself. -/
theorem AgreesBut.refl : s.AgreesBut tables s := by
  constructor <;> exact fun _ => rfl

/-- What two changes leave alone, both together leave alone. -/
theorem AgreesBut.trans (first : s.AgreesBut tables s') (second : s'.AgreesBut tables s'') :
    s.AgreesBut tables s'' where
  databases apart := (second.databases apart).trans (first.databases apart)
  assets apart := (second.assets apart).trans (first.assets apart)
  links apart := (second.links apart).trans (first.links apart)
  metadata apart := (second.metadata apart).trans (first.metadata apart)
  pipelines apart := (second.pipelines apart).trans (first.pipelines apart)
  workflows apart := (second.workflows apart).trans (first.workflows apart)
  executions apart := (second.executions apart).trans (first.executions apart)

/-! ### Statements -/

/-- A new database is all that its statement adds. -/
theorem insertDatabase_agreesBut {row d : Database} (ran : insertDatabase row s = .ok (d, s')) :
    s.AgreesBut [.databases] s' := by
  obtain ⟨_, _, rfl⟩ := insertDatabase_eq_ok.1 ran
  constructor <;> simp

/-- Archiving a database leaves what it owns as it is. -/
theorem setDatabaseArchived_agreesBut {databaseId : String} {archived : Bool}
    (ran : setDatabaseArchived databaseId archived s = .ok ((), s')) :
    s.AgreesBut [.databases] s' := by
  obtain ⟨_, rfl⟩ := setDatabaseArchived_eq_ok.1 ran
  constructor <;> simp

/-- A new asset is all that its statement adds. -/
theorem insertAsset_agreesBut {row a : Asset} (ran : insertAsset row s = .ok (a, s')) :
    s.AgreesBut [.assets] s' := by
  obtain ⟨_, _, _, rfl⟩ := insertAsset_eq_ok.1 ran
  constructor <;> simp

/-- Archiving an asset leaves its links as they are. -/
theorem setAssetArchived_agreesBut {key : AssetKey} {archived : Bool}
    (ran : setAssetArchived key archived s = .ok ((), s')) : s.AgreesBut [.assets] s' := by
  obtain ⟨_, rfl⟩ := setAssetArchived_eq_ok.1 ran
  constructor <;> simp

/-- A deleted asset takes links and their metadata with it, but no execution. -/
theorem deleteAssetCascade_agreesBut {key : AssetKey} {number : Nat}
    (ran : deleteAssetCascade key s = .ok (number, s')) :
    s.AgreesBut [.assets, .links, .metadata] s' := by
  obtain ⟨_, _, rfl⟩ := deleteAssetCascade_eq_ok.1 ran
  constructor <;> simp

/-- A new link is all that its statement adds. -/
theorem insertLink_agreesBut {row l : AssetLink} (ran : insertLink row s = .ok (l, s')) :
    s.AgreesBut [.links] s' := by
  obtain ⟨_, _, rfl⟩ := insertLink_eq_ok.1 ran
  constructor <;> simp

/-- Tagging a link leaves its metadata as it is. -/
theorem setLinkTags_agreesBut {assetLinkId : String} {tags : List String}
    (ran : setLinkTags assetLinkId tags s = .ok ((), s')) : s.AgreesBut [.links] s' := by
  obtain ⟨_, rfl⟩ := setLinkTags_eq_ok.1 ran
  constructor <;> simp

/-- A deleted link takes its metadata with it. -/
theorem deleteLinkCascade_agreesBut {assetLinkId : String} {number : Nat}
    (ran : deleteLinkCascade assetLinkId s = .ok (number, s')) :
    s.AgreesBut [.links, .metadata] s' := by
  obtain ⟨_, _, rfl⟩ := deleteLinkCascade_eq_ok.1 ran
  constructor <;> simp

/-- New metadata is all that its statement adds. -/
theorem insertMetadata_agreesBut {row : LinkMetadata}
    (ran : insertMetadata row s = .ok ((), s')) : s.AgreesBut [.metadata] s' := by
  obtain ⟨_, _, rfl⟩ := insertMetadata_eq_ok.1 ran
  constructor <;> simp

/-- Changing metadata leaves the link as it is. -/
theorem setMetadata_agreesBut {row : LinkMetadata} (ran : setMetadata row s = .ok ((), s')) :
    s.AgreesBut [.metadata] s' := by
  obtain ⟨_, rfl⟩ := setMetadata_eq_ok.1 ran
  constructor <;> simp

/-- Deleted metadata leaves the link as it is. -/
theorem deleteMetadata_agreesBut {assetLinkId metadataKey : String}
    (ran : deleteMetadata assetLinkId metadataKey s = .ok ((), s')) :
    s.AgreesBut [.metadata] s' := by
  obtain ⟨_, rfl⟩ := deleteMetadata_eq_ok.1 ran
  constructor <;> simp

/-- A new pipeline is all that its statement adds. -/
theorem insertPipeline_agreesBut {row p : Pipeline} (ran : insertPipeline row s = .ok (p, s')) :
    s.AgreesBut [.pipelines] s' := by
  obtain ⟨_, _, _, rfl⟩ := insertPipeline_eq_ok.1 ran
  constructor <;> simp

/-- Enabling a pipeline leaves the workflows that use it as they are. -/
theorem setPipelineEnabled_agreesBut {ref : PipelineRef} {enabled : Bool}
    (ran : setPipelineEnabled ref enabled s = .ok ((), s')) : s.AgreesBut [.pipelines] s' := by
  obtain ⟨_, rfl⟩ := setPipelineEnabled_eq_ok.1 ran
  constructor <;> simp

/-- A new workflow is all that its statement adds. -/
theorem insertWorkflow_agreesBut {row w : Workflow} (ran : insertWorkflow row s = .ok (w, s')) :
    s.AgreesBut [.workflows] s' := by
  obtain ⟨_, _, _, rfl⟩ := insertWorkflow_eq_ok.1 ran
  constructor <;> simp

/-- Archiving a workflow leaves its executions as they are. -/
theorem setWorkflowArchived_agreesBut {key : WorkflowKey} {archived : Bool}
    (ran : setWorkflowArchived key archived s = .ok ((), s')) : s.AgreesBut [.workflows] s' := by
  obtain ⟨_, rfl⟩ := setWorkflowArchived_eq_ok.1 ran
  constructor <;> simp

/-- A new execution is all that its statement adds. -/
theorem insertExecution_agreesBut {key : ExecutionKey} {asset : AssetKey} {startedAt : Moment}
    {e : Execution} (ran : insertExecution key asset startedAt s = .ok (e, s')) :
    s.AgreesBut [.executions] s' := by
  obtain ⟨_, _, _, rfl⟩ := insertExecution_eq_ok.1 ran
  constructor <;> simp

/-- Ending an execution leaves its workflow and its asset as they are. -/
theorem finishExecution_agreesBut {key : ExecutionKey} {status : ExecutionStatus}
    {stoppedAt : Option Moment} (ran : finishExecution key status stoppedAt s = .ok ((), s')) :
    s.AgreesBut [.executions] s' := by
  obtain ⟨_, rfl⟩ := finishExecution_eq_ok.1 ran
  constructor <;> simp

end AgreesBut

end Store

/-! ### Operations -/

/-- The tables that an operation may write to. -/
def Operation.tables : Operation → List Table
  | .createDatabase .. | .archiveDatabase .. => [.databases]
  | .createAsset .. | .archiveAsset .. | .restoreAsset .. => [.assets]
  | .deleteAsset .. => [.assets, .links, .metadata]
  | .createPipeline .. | .setPipelineEnabled .. => [.pipelines]
  | .createWorkflow .. | .archiveWorkflow .. => [.workflows]
  | .createLink .. | .updateLinkTags .. => [.links]
  | .deleteLink .. => [.links, .metadata]
  | .createMetadata .. | .updateMetadata .. | .deleteMetadata .. => [.metadata]
  | .startExecution .. | .updateExecutionStatus .. => [.executions]
  | _ => []

/-- An operation leaves every table alone that it may not write to. -/
theorem Operation.Step.agreesBut {operation : Operation} {reply : Reply} {r r' : Registry}
    (step : Step r operation reply r') : r.store.AgreesBut operation.tables r'.store := by
  cases step
  case read => exact .refl
  -- A step is one statement that ran, and what it may write to is a fact about the statement.
  case createDatabase ran => exact Store.insertDatabase_agreesBut ran
  case archiveDatabase ran => exact Store.setDatabaseArchived_agreesBut ran
  case createAsset ran => exact Store.insertAsset_agreesBut ran
  case archiveAsset ran => exact Store.setAssetArchived_agreesBut ran
  case restoreAsset ran _ => exact Store.setAssetArchived_agreesBut ran
  case deleteAsset ran => exact Store.deleteAssetCascade_agreesBut ran
  case createPipeline ran => exact Store.insertPipeline_agreesBut ran
  case setPipelineEnabled ran _ => exact Store.setPipelineEnabled_agreesBut ran
  case createWorkflow ran => exact Store.insertWorkflow_agreesBut ran
  case archiveWorkflow ran => exact Store.setWorkflowArchived_agreesBut ran
  case createLink ran => exact Store.insertLink_agreesBut ran
  case updateLinkTags ran _ => exact Store.setLinkTags_agreesBut ran
  case deleteLink ran => exact Store.deleteLinkCascade_agreesBut ran
  case createMetadata ran => exact Store.insertMetadata_agreesBut ran
  case updateMetadata ran => exact Store.setMetadata_agreesBut ran
  case deleteMetadata ran => exact Store.deleteMetadata_agreesBut ran
  case startExecution ran => exact Store.insertExecution_agreesBut ran
  case updateExecutionStatus ran _ => exact Store.finishExecution_agreesBut ran

/-- What is found before a link is stored. -/
structure Links.Accepts (r : Registry) (request : NewAssetLink) : Prop where
  valid : checkRequest request = .ok ()
  source : (r.store.asset? request.source).isSome
  target : (r.store.asset? request.target).isSome
  sourceRoom : r.store.linkCount request.source < r.linkLimit
  targetRoom : r.store.linkCount request.target < r.linkLimit
  admits : Admits r.store request

/-- All that an operation does to links is to take some away, to replace the tags of one or
    to store a new one that is accepted. -/
theorem Operation.Step.links_cases {operation : Operation} {reply : Reply} {r r' : Registry}
    (step : Step r operation reply r') :
    r'.store.links.Sublist r.store.links ∨
    (∃ assetLinkId tags, Store.setLinkTags assetLinkId tags r.store = .ok ((), r'.store)) ∨
    ∃ request row, operation = .createLink request ∧ Links.Accepts r request ∧
      Store.insertLink (Links.newLink request r.nextLinkId r.now) r.store =
        .ok (row, r'.store) := by
  have frame := step.agreesBut
  cases step
  case read => exact .inl (List.Sublist.refl _)
  case createLink valid source target sourceRoom targetRoom admits ran =>
    have accepted : Links.Accepts r _ :=
      ⟨valid, source, target, sourceRoom, targetRoom, admits⟩
    exact .inr (.inr ⟨_, _, rfl, accepted, ran⟩)
  case updateLinkTags ran _ => exact .inr (.inl ⟨_, _, ran⟩)
  case deleteLink ran =>
    obtain ⟨_, _, rfl⟩ := Store.deleteLinkCascade_eq_ok.1 ran
    exact .inl List.filter_sublist
  case deleteAsset ran =>
    obtain ⟨_, _, rfl⟩ := Store.deleteAssetCascade_eq_ok.1 ran
    exact .inl List.filter_sublist
  -- No other operation writes to the links.
  all_goals
    have same := frame.links (by simp [tables])
    exact .inl (same ▸ List.Sublist.refl _)

/-! ### Calls to the store -/

/-- What holds of a store and of whatever a statement makes of it holds after the
    statement was tried. -/
theorem Registry.execute_keeps {motive : Store → Prop} {r : Registry} {statement : Statement α}
    (before : motive r.store) (kept : ∀ {a s}, statement r.store = .ok (a, s) → motive s) :
    motive (r.execute statement).2.store := by
  rcases h : r.execute statement with ⟨e | a, r'⟩
  · rw [Registry.eq_of_execute_eq_error h]
    exact before
  · obtain ⟨_, s, ran, rfl⟩ := Registry.execute_eq_ok.1 h
    exact kept ran

namespace StoreCall

/-- A call reads a store that can be reached. -/
theorem read_eq_ok {r : Registry} {query : Store → α} {reply : α → StoreReply}
    {answer : StoreReply} :
    (read query reply r).1 = .ok answer ↔ r.access = .ready ∧ reply (query r.store) = answer := by
  show (r.query query).map reply = _ ↔ _
  unfold Registry.query
  cases r.access <;> simp [Except.map]

/-- The tables that a call may write to.  Setting up a store is about all of them. -/
def tables : StoreCall → List Table
  | .createDatabase .. | .setDatabaseArchived .. => [.databases]
  | .insertAsset .. => [.assets]
  | .insertLink .. | .insertLinks .. => [.links]
  | .deleteLinkCascade .. => [.links, .metadata]
  | .insertMetadata .. => [.metadata]
  | .insertPipeline .. => [.pipelines]
  | .insertWorkflow .. | .setWorkflowArchived .. => [.workflows]
  | .createExecution .. | .finishExecution .. => [.executions]
  | .prepare =>
    [.databases, .assets, .links, .metadata, .pipelines, .workflows, .executions]
  | .findAsset .. | .linksFrom .. | .linksTo .. | .countLinks .. | .countMetadata ..
  | .countRunning .. => []

/-- Several links, each stored by a statement of its own, are links only. -/
theorem writeLinks_agreesBut (rows : List AssetLink) (r : Registry) :
    r.store.AgreesBut [.links] (writeLinks rows r).2.store := by
  induction rows generalizing r with
  | nil => exact .refl
  | cons row rows ih =>
    -- The first link that is refused ends the row, and those before it stay.
    have first : r.store.AgreesBut [.links] (r.execute (Store.insertLink row)).2.store :=
      Registry.execute_keeps .refl Store.insertLink_agreesBut
    rw [writeLinks]
    split <;> rename_i h <;> rw [h] at first
    · exact first.trans (ih _)
    · exact first

/-- A call leaves every table alone that it may not write to. -/
theorem perform_agreesBut (call : StoreCall) (r : Registry) :
    r.store.AgreesBut call.tables (call.perform r).2.store := by
  cases call
  -- A statement that is refused writes to nothing.
  case insertAsset => exact Registry.execute_keeps .refl Store.insertAsset_agreesBut
  case insertLink => exact Registry.execute_keeps .refl Store.insertLink_agreesBut
  case insertPipeline => exact Registry.execute_keeps .refl Store.insertPipeline_agreesBut
  case insertWorkflow => exact Registry.execute_keeps .refl Store.insertWorkflow_agreesBut
  case insertMetadata => exact Registry.execute_keeps .refl Store.insertMetadata_agreesBut
  case deleteLinkCascade => exact Registry.execute_keeps .refl Store.deleteLinkCascade_agreesBut
  case createDatabase => exact Registry.execute_keeps .refl Store.insertDatabase_agreesBut
  case setDatabaseArchived =>
    exact Registry.execute_keeps .refl Store.setDatabaseArchived_agreesBut
  case setWorkflowArchived =>
    exact Registry.execute_keeps .refl Store.setWorkflowArchived_agreesBut
  case createExecution => exact Registry.execute_keeps .refl Store.insertExecution_agreesBut
  case finishExecution => exact Registry.execute_keeps .refl Store.finishExecution_agreesBut
  case insertLinks rows => exact writeLinks_agreesBut rows r
  case prepare => constructor <;> simp [tables]
  -- What is left are reads.
  all_goals exact .refl

end StoreCall

end AssetRegistry
