import AssetRegistry.Operation
import AssetRegistry.Proofs.Action

/-!
# The parts of operations that only read

Every operation starts with checks, which look at the request and at the store.  For
each check there are two lemmas: that it `Reads`, and what the registry is like where
it succeeds.
-/

namespace AssetRegistry

open AssetRegistry.Action

variable {r r' : Registry}

/-! ### Views of a store -/

namespace Store

/-- The database of an id, where it is not archived. -/
def activeDatabase? (s : Store) (databaseId : String) : Option Database :=
  (s.database? databaseId).filter (!·.archived)

/-- The pipeline of a reference, where it is not archived. -/
def activePipeline? (s : Store) (ref : PipelineRef) : Option Pipeline :=
  (s.pipeline? ref).filter (!·.archived)

/-- The workflow of a key, where it is not archived. -/
def activeWorkflow? (s : Store) (key : WorkflowKey) : Option Workflow :=
  (s.workflow? key).filter (!·.archived)

/-- The workflow that an id stands for in a database: its own one, or else that of the
    reserved database. -/
def visibleWorkflow? (s : Store) (databaseId workflowId : String) : Option Workflow :=
  (s.activeWorkflow? ⟨databaseId, workflowId⟩).or
    (s.activeWorkflow? ⟨globalDatabaseId, workflowId⟩)

variable {s : Store}

/-- An active asset is found under its own key. -/
theorem key_of_activeAsset? {key : AssetKey} {a : Asset} (found : s.activeAsset? key = some a) :
    a.key = key := by
  rw [activeAsset?, Option.filter_eq_some_iff] at found
  simpa using List.find?_some found.1

/-- An active workflow is found under its own key. -/
theorem key_of_activeWorkflow? {key : WorkflowKey} {w : Workflow}
    (found : s.activeWorkflow? key = some w) : w.key = key := by
  rw [activeWorkflow?, Option.filter_eq_some_iff] at found
  simpa using List.find?_some found.1

/-- A visible workflow has the id that was asked for, wherever it is stored. -/
theorem workflowId_of_visibleWorkflow? {databaseId workflowId : String} {w : Workflow}
    (found : s.visibleWorkflow? databaseId workflowId = some w) :
    w.key.workflowId = workflowId := by
  rw [visibleWorkflow?, Option.or_eq_some_iff] at found
  rcases found with own | ⟨_, shared⟩
  · rw [key_of_activeWorkflow? own]
  · rw [key_of_activeWorkflow? shared]

end Store

/-- A check of a field passes where its condition holds. -/
theorem Validation.require_eq_ok {holds : Bool} {field : String} {rule : FieldRule} {u : Unit} :
    require holds field rule = .ok u ↔ holds = true := by
  cases holds <;> simp [require]

/-- Checks in a row pass where each passes. -/
theorem Validation.bind_eq_ok {ε : Type} {x : Except ε α} {f : α → Except ε β} {b : β} :
    (x >>= f) = .ok b ↔ ∃ a, x = .ok a ∧ f a = .ok b := by
  cases x <;> simp [bind, Except.bind]

/-- Every id but that of the reserved database passes. -/
theorem Catalog.requireUnreserved_eq_ok {databaseId : String} {u : Unit} :
    requireUnreserved databaseId = .ok u ↔ databaseId ≠ globalDatabaseId := by
  by_cases reserved : databaseId = globalDatabaseId <;> simp [requireUnreserved, reserved]

/-! ### The catalog -/

namespace Catalog

/-- Looking a database up changes nothing. -/
theorem reads_getDatabase (databaseId : String) : Reads (getDatabase databaseId) :=
  Reads.lookup _ _

/-- A database is found where one is stored under the id, archived or not. -/
theorem getDatabase_eq_ok {databaseId : String} {d : Database} :
    (getDatabase databaseId).perform r = (.ok d, r') ↔
      r.access = .ready ∧ r.store.database? databaseId = some d ∧ r = r' := by
  simp [getDatabase, bind_eq_ok, query_eq_ok, orElse_eq_ok, and_assoc]

/-- Looking an active database up changes nothing. -/
theorem reads_activeDatabase (databaseId : String) : Reads (activeDatabase databaseId) := by
  apply Reads.bind (reads_getDatabase databaseId)
  intro database
  exact Reads.ite_throw_bind (Reads.pure database)

/-- A database can be added to where one is stored under the id that is not archived. -/
theorem activeDatabase_eq_ok {databaseId : String} {d : Database} :
    (activeDatabase databaseId).perform r = (.ok d, r') ↔
      r.access = .ready ∧ r.store.activeDatabase? databaseId = some d ∧ r = r' := by
  simp only [activeDatabase, bind_eq_ok, getDatabase_eq_ok, Store.activeDatabase?,
    Option.filter_eq_some_iff]
  constructor
  · -- An archived database was found too, and then refused.
    rintro ⟨d', _, ⟨ready, found, rfl⟩, h⟩
    cases archived : d'.archived
    · obtain ⟨rfl, rfl⟩ := pure_eq_ok.1 (by simpa [archived] using h)
      exact ⟨ready, ⟨found, by simp [archived]⟩, rfl⟩
    · simp [archived, throw_eq_ok] at h
  · rintro ⟨ready, ⟨found, active⟩, rfl⟩
    exact ⟨d, r, ⟨ready, found, rfl⟩, by simp_all [pure_eq_ok]⟩

/-- Listing assets changes nothing. -/
theorem reads_listAssets (databaseId : String) (includeArchived : Bool) :
    Reads (listAssets databaseId includeArchived) := by
  apply Reads.bind (reads_getDatabase databaseId)
  intro _
  exact Reads.query _

/-- Looking an asset up changes nothing. -/
theorem reads_getAsset (key : AssetKey) : Reads (getAsset key) :=
  Reads.lookup _ _

/-- An asset is found where one is stored under the key, archived or not. -/
theorem getAsset_eq_ok {key : AssetKey} {a : Asset} :
    (getAsset key).perform r = (.ok a, r') ↔
      r.access = .ready ∧ r.store.asset? key = some a ∧ r = r' := by
  simp [getAsset, bind_eq_ok, query_eq_ok, orElse_eq_ok, and_assoc]

/-- A pipeline is looked for wherever the store can be reached. -/
theorem findPipeline_eq_ok {ref : PipelineRef} {found : Option Pipeline} :
    (findPipeline ref).perform r = (.ok found, r') ↔
      r.access = .ready ∧ r.store.pipeline? ref = found ∧ r = r' :=
  query_eq_ok

/-- Listing pipelines changes nothing. -/
theorem reads_listPipelines (databaseId : String) (includeArchived : Bool) :
    Reads (listPipelines databaseId includeArchived) := by
  apply Reads.bind (reads_getDatabase databaseId)
  intro _
  apply Reads.bind (Reads.query _)
  intro listed
  apply Reads.ite (Reads.pure listed)
  apply Reads.bind (Reads.query _)
  intro shared
  exact Reads.pure _

/-- What is shown of a database: what is listed for it, and after that what is listed for the
    reserved one. -/
def shown {κ : Type} [BEq κ] (key : ρ → κ) (databaseId : String) (listed : String → List ρ) :
    List ρ :=
  if databaseId = globalDatabaseId then listed databaseId
  else mergeWithGlobal key (listed databaseId) (listed globalDatabaseId)

/-- The pipelines of a stored database are listed before those of the reserved one. -/
theorem perform_listPipelines_of_stored {databaseId : String} (ready : r.access = .ready)
    (there : (r.store.database? databaseId).isSome) (includeArchived : Bool) :
    (listPipelines databaseId includeArchived).perform r =
      (.ok (shown Pipeline.ref databaseId (r.store.listPipelines · includeArchived)), r) := by
  obtain ⟨d, found⟩ := Option.isSome_iff_exists.1 there
  rw [listPipelines, perform_bind_of_ok (getDatabase_eq_ok.2 ⟨ready, found, rfl⟩),
    perform_query_bind ready, shown]
  split
  · rfl
  · rw [perform_query_bind ready]
    rfl

/-- Checking a step changes nothing. -/
theorem reads_checkStep (databaseId : String) (step : PipelineRef) :
    Reads (checkStep databaseId step) := by
  apply Reads.bind (Reads.check _)
  intro _
  apply Reads.bind (Reads.query _)
  intro pipeline?
  apply Reads.bind (Reads.orElse _ _)
  intro _
  exact Reads.pure ()

/-- A step passes if its database may use the pipeline and the pipeline is active. -/
theorem checkStep_eq_ok {databaseId : String} {step : PipelineRef} {u : Unit} :
    (checkStep databaseId step).perform r = (.ok u, r') ↔
      mayUse databaseId step ∧ r.access = .ready ∧ (r.store.activePipeline? step).isSome ∧
        r = r' := by
  simp only [checkStep, bind_eq_ok, check_eq_ok, Validation.require_eq_ok, findPipeline_eq_ok,
    orElse_eq_ok, pure_eq_ok, Store.activePipeline?, Option.isSome_iff_exists]
  constructor
  · rintro ⟨_, _, ⟨allowed, rfl⟩, _, _, ⟨ready, rfl, rfl⟩, p, _, ⟨found, rfl⟩, _, rfl⟩
    exact ⟨allowed, ready, ⟨p, found⟩, rfl⟩
  · rintro ⟨allowed, ready, ⟨p, found⟩, rfl⟩
    exact ⟨(), r, ⟨allowed, rfl⟩, _, r, ⟨ready, rfl, rfl⟩, p, r, ⟨found, rfl⟩, trivial, rfl⟩

/-- Checking all steps changes nothing. -/
theorem reads_checkSteps (databaseId : String) (steps : List PipelineRef) :
    Reads (checkSteps databaseId steps) := by
  induction steps with
  | nil => exact Reads.pure ()
  | cons step steps ih =>
    apply Reads.bind (reads_checkStep databaseId step)
    intro _
    exact ih

/-- The steps of a new workflow are active pipelines that its database may use. -/
theorem checkSteps_eq_ok {databaseId : String} {steps : List PipelineRef} {u : Unit}
    (h : (checkSteps databaseId steps).perform r = (.ok u, r')) :
    ∀ step ∈ steps, mayUse databaseId step ∧ (r.store.activePipeline? step).isSome := by
  induction steps with
  | nil => exact fun _ member => nomatch member
  | cons step steps ih =>
    obtain ⟨_, _, first, rest⟩ := bind_eq_ok.1 h
    obtain ⟨allowed, _, active, rfl⟩ := checkStep_eq_ok.1 first
    intro step' member
    cases member with
    | head => exact ⟨allowed, active⟩
    | tail _ member => exact ih rest step' member

/-- Looking a workflow up changes nothing. -/
theorem reads_getWorkflow (databaseId workflowId : String) :
    Reads (getWorkflow databaseId workflowId) := by
  apply Reads.bind (Reads.query _)
  intro own
  split
  · exact Reads.pure _
  -- Where the database has none of its own, the reserved one is asked.
  · refine Reads.ite ?_ (Reads.throw _)
    apply Reads.bind (Reads.query _)
    intro shared
    split
    · exact Reads.pure _
    · exact Reads.throw _

/-- A lookup of a workflow answers with the visible one. -/
theorem perform_getWorkflow (ready : r.access = .ready) (databaseId workflowId : String) :
    (getWorkflow databaseId workflowId).perform r =
      (match r.store.visibleWorkflow? databaseId workflowId with
        | some w => .ok w
        | none => .error (.notFound (.visibleWorkflow workflowId)), r) := by
  rw [getWorkflow, perform_query_bind ready, Store.visibleWorkflow?]
  cases own : r.store.activeWorkflow? ⟨databaseId, workflowId⟩ with
  | some w =>
    rw [Store.activeWorkflow?] at own
    rw [own]
    rfl
  | none =>
    -- The reserved database is asked only if it was not the one that was asked already.
    rw [Option.none_or]
    have own' := own
    rw [Store.activeWorkflow?] at own
    simp only [own]
    by_cases reserved : databaseId = globalDatabaseId
    · rw [if_neg (by simpa using reserved), ← reserved, own']
      rfl
    · rw [if_pos (by simpa using reserved), perform_query_bind ready, ← Store.activeWorkflow?]
      cases r.store.activeWorkflow? ⟨globalDatabaseId, workflowId⟩ <;> rfl

/-- A workflow is found where one is visible under the id. -/
theorem getWorkflow_eq_ok {databaseId workflowId : String} {w : Workflow} :
    (getWorkflow databaseId workflowId).perform r = (.ok w, r') ↔
      r.access = .ready ∧ r.store.visibleWorkflow? databaseId workflowId = some w ∧ r = r' := by
  by_cases ready : r.access = .ready
  · rw [perform_getWorkflow ready]
    cases r.store.visibleWorkflow? databaseId workflowId <;> simp [ready]
  · simp [getWorkflow, bind_eq_ok, query_eq_ok, ready]

/-- Listing workflows changes nothing. -/
theorem reads_listWorkflows (databaseId : String) (includeArchived : Bool) :
    Reads (listWorkflows databaseId includeArchived) := by
  apply Reads.bind (reads_getDatabase databaseId)
  intro _
  apply Reads.bind (Reads.query _)
  intro listed
  apply Reads.ite (Reads.pure listed)
  apply Reads.bind (Reads.query _)
  intro shared
  exact Reads.pure _

/-- The workflows of a stored database are listed before those of the reserved one. -/
theorem perform_listWorkflows_of_stored {databaseId : String} (ready : r.access = .ready)
    (there : (r.store.database? databaseId).isSome) (includeArchived : Bool) :
    (listWorkflows databaseId includeArchived).perform r =
      (.ok (shown Workflow.key databaseId (r.store.listWorkflows · includeArchived)), r) := by
  obtain ⟨d, found⟩ := Option.isSome_iff_exists.1 there
  rw [listWorkflows, perform_bind_of_ok (getDatabase_eq_ok.2 ⟨ready, found, rfl⟩),
    perform_query_bind ready, shown]
  split
  · rfl
  · rw [perform_query_bind ready]
    rfl

end Catalog

/-! ### Links -/

namespace Links

/-- Looking for an end of a link changes nothing. -/
theorem reads_requireEnd (side : Side) (key : AssetKey) : Reads (requireEnd side key) :=
  Reads.require _ _

/-- An asset may be the end of a link if it is stored, archived or not. -/
theorem requireEnd_eq_ok {side : Side} {key : AssetKey} {u : Unit} :
    (requireEnd side key).perform r = (.ok u, r') ↔
      r.access = .ready ∧ (r.store.asset? key).isSome ∧ r = r' := by
  simp [requireEnd, bind_eq_ok, map_eq_ok, query_eq_ok, orElse_eq_ok, and_assoc,
    Option.isSome_iff_exists]

/-- Counting the links of an asset changes nothing. -/
theorem reads_requireCapacity (key : AssetKey) : Reads (requireCapacity key) := by
  apply Reads.bind (Reads.get _)
  intro limit
  apply Reads.bind (Reads.query _)
  intro count
  exact Reads.ite_throw

/-- An asset may get another link while it has fewer than the limit. -/
theorem requireCapacity_eq_ok {key : AssetKey} {u : Unit} :
    (requireCapacity key).perform r = (.ok u, r') ↔
      r.access = .ready ∧ r.store.linkCount key < r.linkLimit ∧ r = r' := by
  simp [requireCapacity, bind_eq_ok, get_eq_ok, query_eq_ok, ite_throw_eq_ok, pure_eq_ok,
    and_assoc]

/-- What the links between two assets have to be like for a new one. -/
structure Admits (s : Store) (request : NewAssetLink) : Prop where
  /-- Neither direction has a related link yet. -/
  unrelated : request.relationshipType = .related →
    s.linksBetween request.source request.target .related = [] ∧
      s.linksBetween request.target request.source .related = []
  /-- No link to the child has the alias yet. -/
  newAlias : request.relationshipType = .parentChild →
    ∀ l ∈ s.linksBetween request.source request.target .parentChild,
      l.assetLinkAliasId ≠ request.alias?
  /-- The child is no parent of its parent. -/
  notReversed : request.relationshipType = .parentChild →
    s.linksBetween request.target request.source .parentChild = []
  /-- The child is no ancestor of its parent. -/
  acyclic : request.relationshipType = .parentChild →
    isAncestorOrSelf s request.target request.source = false

/-- Looking a link up changes nothing. -/
theorem reads_getLink (assetLinkId : String) : Reads (getLink assetLinkId) :=
  Reads.lookup _ _

/-- A link is found where one is stored under the id. -/
theorem getLink_eq_ok {assetLinkId : String} {l : AssetLink} :
    (getLink assetLinkId).perform r = (.ok l, r') ↔
      r.access = .ready ∧ r.store.link? assetLinkId = some l ∧ r = r' := by
  simp [getLink, bind_eq_ok, query_eq_ok, orElse_eq_ok, and_assoc]

/-- Looking for the asset of a listing changes nothing. -/
theorem reads_requireListed (key : AssetKey) : Reads (requireListed key) :=
  Reads.require _ _

/-- Listing links changes nothing. -/
theorem reads_listLinks (key : AssetKey) (childTreeView : Bool) :
    Reads (listLinks key childTreeView) := by
  apply Reads.bind (reads_requireListed key)
  intro _
  exact Reads.query _

/-- Listing metadata changes nothing. -/
theorem reads_listMetadata (assetLinkId : String) : Reads (listMetadata assetLinkId) := by
  apply Reads.bind (reads_getLink assetLinkId)
  intro _
  exact Reads.query _

/-- Looking for related links changes nothing. -/
theorem reads_requireUnrelated (source target : AssetKey) :
    Reads (requireUnrelated source target) := by
  apply Reads.bind (Reads.query _)
  intro forward
  apply Reads.bind (Reads.query _)
  intro backward
  exact Reads.ite_throw

/-- Two assets may be related if no related link joins them in either direction. -/
theorem requireUnrelated_eq_ok {source target : AssetKey} {u : Unit} :
    (requireUnrelated source target).perform r = (.ok u, r') ↔
      r.access = .ready ∧ r.store.linksBetween source target .related = [] ∧
        r.store.linksBetween target source .related = [] ∧ r = r' := by
  simp [requireUnrelated, bind_eq_ok, query_eq_ok, ite_throw_eq_ok, pure_eq_ok, and_assoc]

/-- Looking for links between a parent and its new child changes nothing. -/
theorem reads_requireNewChild (source target : AssetKey) (alias? : Option String) :
    Reads (requireNewChild source target alias?) := by
  have readsReverse : Reads (do
      let reverse ← query (·.linksBetween target source .parentChild)
      if !reverse.isEmpty then
        throw (.duplicateLink .reversed)) := by
    apply Reads.bind (Reads.query _)
    intro reverse
    exact Reads.ite_throw
  apply Reads.bind (Reads.query _)
  intro links
  exact Reads.ite_throw_bind readsReverse

/-- A child is new under an alias if no link to it has the alias and none leads back. -/
theorem requireNewChild_eq_ok {source target : AssetKey} {alias? : Option String} {u : Unit} :
    (requireNewChild source target alias?).perform r = (.ok u, r') ↔
      r.access = .ready ∧
        (∀ l ∈ r.store.linksBetween source target .parentChild, l.assetLinkAliasId ≠ alias?) ∧
        r.store.linksBetween target source .parentChild = [] ∧ r = r' := by
  simp +contextual [requireNewChild, bind_eq_ok, query_eq_ok, ite_throw_eq_ok,
    ite_else_throw_eq_ok, pure_eq_ok, and_assoc]

/-- Searching the ancestors of a parent changes nothing. -/
theorem reads_requireAcyclic (source target : AssetKey) :
    Reads (requireAcyclic source target) := by
  apply Reads.bind (Reads.query _)
  intro found
  exact Reads.ite_throw

/-- A child may be added if it is not found among the ancestors of its parent. -/
theorem requireAcyclic_eq_ok {source target : AssetKey} {u : Unit} :
    (requireAcyclic source target).perform r = (.ok u, r') ↔
      r.access = .ready ∧ isAncestorOrSelf r.store target source = false ∧ r = r' := by
  simp [requireAcyclic, bind_eq_ok, query_eq_ok, ite_throw_eq_ok, pure_eq_ok, and_assoc]

/-- Checking a new link against the stored ones changes nothing. -/
theorem reads_requireAdmissible (request : NewAssetLink) : Reads (requireAdmissible request) := by
  unfold requireAdmissible
  split
  · exact reads_requireUnrelated _ _
  · apply Reads.bind (reads_requireNewChild _ _ _)
    intro _
    exact reads_requireAcyclic _ _

/-- A new link is let through where the links between its ends admit it. -/
theorem requireAdmissible_eq_ok {request : NewAssetLink} {u : Unit} :
    (requireAdmissible request).perform r = (.ok u, r') ↔
      r.access = .ready ∧ Admits r.store request ∧ r = r' := by
  unfold requireAdmissible
  cases type : request.relationshipType with
  | related =>
    rw [requireUnrelated_eq_ok]
    constructor
    · rintro ⟨ready, forward, backward, rfl⟩
      have admits : Admits r.store request :=
        { unrelated := fun _ => ⟨forward, backward⟩
          newAlias := by simp [type]
          notReversed := by simp [type]
          acyclic := by simp [type] }
      exact ⟨ready, admits, rfl⟩
    · rintro ⟨ready, admits, rfl⟩
      exact ⟨ready, (admits.unrelated type).1, (admits.unrelated type).2, rfl⟩
  | parentChild =>
    simp only [bind_eq_ok, requireNewChild_eq_ok, requireAcyclic_eq_ok]
    constructor
    · rintro ⟨_, _, ⟨ready, newAlias, notReversed, rfl⟩, _, acyclic, rfl⟩
      have admits : Admits r.store request :=
        { unrelated := by simp [type]
          newAlias := fun _ => newAlias
          notReversed := fun _ => notReversed
          acyclic := fun _ => acyclic }
      exact ⟨ready, admits, rfl⟩
    · rintro ⟨ready, admits, rfl⟩
      exact ⟨(), r, ⟨ready, admits.newAlias type, admits.notReversed type, rfl⟩, ready,
        admits.acyclic type, rfl⟩

end Links

/-! ### Executions -/

namespace Executions

/-- Looking an active asset up changes nothing. -/
theorem reads_activeAsset (key : AssetKey) : Reads (activeAsset key) :=
  Reads.lookup _ _

/-- An asset can be worked on where one is stored under the key that is not archived. -/
theorem activeAsset_eq_ok {key : AssetKey} {a : Asset} :
    (activeAsset key).perform r = (.ok a, r') ↔
      r.access = .ready ∧ r.store.activeAsset? key = some a ∧ r = r' := by
  simp [activeAsset, bind_eq_ok, query_eq_ok, orElse_eq_ok, and_assoc]

/-- Looking at the pipeline of a step changes nothing. -/
theorem reads_requireEnabled (step : PipelineRef) : Reads (requireEnabled step) := by
  apply Reads.bind (Reads.query _)
  intro pipeline?
  exact Reads.ite_throw

/-- A step can be run if its pipeline is active and enabled. -/
theorem requireEnabled_eq_ok {step : PipelineRef} {u : Unit} :
    (requireEnabled step).perform r = (.ok u, r') ↔
      r.access = .ready ∧ (∃ p, r.store.activePipeline? step = some p ∧ p.enabled) ∧ r = r' := by
  simp [requireEnabled, bind_eq_ok, Catalog.findPipeline_eq_ok, ite_throw_eq_ok, pure_eq_ok,
    Store.activePipeline?, Option.any_eq_true, and_assoc, and_comm, and_left_comm]

/-- Counting the running executions changes nothing. -/
theorem reads_requireIdle (asset : AssetKey) (workflowId : String) :
    Reads (requireIdle asset workflowId) := by
  apply Reads.bind (Reads.query _)
  intro running
  exact Reads.ite_throw

/-- A workflow can be started on an asset if the asset runs none of its id. -/
theorem requireIdle_eq_ok {asset : AssetKey} {workflowId : String} {u : Unit} :
    (requireIdle asset workflowId).perform r = (.ok u, r') ↔
      r.access = .ready ∧ r.store.runningCount asset workflowId = 0 ∧ r = r' := by
  simp [requireIdle, bind_eq_ok, query_eq_ok, ite_throw_eq_ok, pure_eq_ok, and_assoc]

/-- Looking an execution up changes nothing. -/
theorem reads_getExecution (key : ExecutionKey) : Reads (getExecution key) :=
  Reads.lookup _ _

/-- An execution is found where one is stored under the key. -/
theorem getExecution_eq_ok {key : ExecutionKey} {e : Execution} :
    (getExecution key).perform r = (.ok e, r') ↔
      r.access = .ready ∧ r.store.execution? key = some e ∧ r = r' := by
  simp [getExecution, bind_eq_ok, query_eq_ok, orElse_eq_ok, and_assoc]

/-- Finding out why a status is refused changes nothing. -/
theorem reads_refuseStatus (key : ExecutionKey) (status : ExecutionStatus) :
    Reads (refuseStatus key status) := by
  apply Reads.bind (reads_getExecution key)
  intro execution
  exact Reads.throw _

/-- A refusal of a status is one, whether the execution is there or not. -/
theorem refuseStatus_eq_ok {key : ExecutionKey} {status : ExecutionStatus} {e : Execution} :
    (refuseStatus key status).perform r = (.ok e, r') ↔ False := by
  simp [refuseStatus, bind_eq_ok, throw_eq_ok]

/-- Listing the executions of a workflow changes nothing. -/
theorem reads_listExecutions (asset : AssetKey) (workflowId : String) :
    Reads (listExecutions asset workflowId) := by
  apply Reads.bind (Reads.query _)
  intro found
  apply Reads.bind (Reads.orElse _ found)
  intro _
  exact Reads.query _

/-- Choosing the workflows of a watch changes nothing. -/
theorem reads_watchedWorkflows (target : WatchTarget) : Reads (watchedWorkflows target) := by
  unfold watchedWorkflows
  split
  · exact Reads.pure _
  · apply Reads.bind (Catalog.reads_listWorkflows _ _)
    intro workflows
    exact Reads.pure _

/-- What a watch shows is put together without a change. -/
theorem reads_fetchExecutions (target : WatchTarget) : Reads (fetchExecutions target) := by
  apply Reads.bind (reads_watchedWorkflows target)
  intro workflows
  apply Reads.bind (Reads.mapM (reads_listExecutions _) workflows)
  intro executions
  exact Reads.pure _

end Executions

end AssetRegistry
