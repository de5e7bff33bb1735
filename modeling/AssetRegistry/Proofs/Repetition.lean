import AssetRegistry.Proofs.Reachable
import AssetRegistry.Proofs.ExecutionLife
import AssetRegistry.Proofs.ExecutionSlot
import AssetRegistry.Proofs.OperationAtomic
import AssetRegistry.Proofs.StatementRefusal

/-!
# Operations that come again

An operation that has just succeeded is performed once more, with nothing in between.  What
creates, deletes or ends something is refused then: all its checks of the request and of
what it refers to pass again, and it comes upon what the first one has left.  What sets
something to a value sets it to the value that it has.
-/

namespace AssetRegistry

open AssetRegistry.Action

namespace Action

variable {r r' : Registry} {x : Action α} {a : α}

/-- What follows on a check that passes runs on the same registry. -/
theorem perform_check_bind {outcome : Except RegistryError α} (passed : outcome = .ok a)
    (f : α → Action β) (r : Registry) : (check outcome >>= f).perform r = (f a).perform r :=
  perform_bind_of_ok (check_eq_ok.2 ⟨passed, rfl⟩) f

/-- Checks of several things that pass one by one pass together. -/
theorem perform_forM_of_ok {g : γ → Action PUnit} {cs : List γ}
    (passed : ∀ c ∈ cs, (g c).perform r = (.ok (), r)) : (cs.forM g).perform r = (.ok (), r) := by
  induction cs with
  | nil => rfl
  | cons c cs ih =>
    have first : (g c).perform r = (.ok (), r) := passed c (List.mem_cons_self ..)
    have rest := ih fun c' member => passed c' (List.mem_cons_of_mem _ member)
    show (g c >>= fun _ => cs.forM g).perform r = _
    rw [perform_bind_of_ok first, rest]

/-- An action that succeeds only on a registry whose store can be reached. -/
def NeedsStore (x : Action α) : Prop :=
  ∀ r a r', x.perform r = (.ok a, r') → r.access = .ready

namespace NeedsStore

variable {f : α → Action β}

/-- A query is answered by a store that can be reached. -/
theorem query (read : Store → α) : NeedsStore (query read) :=
  fun _ _ _ h => (query_eq_ok.1 h).1

/-- A statement is run by a store that can be reached. -/
theorem execute (statement : Statement α) (failure : StoreError → RegistryError) :
    NeedsStore (execute statement failure) :=
  fun _ _ _ h => (execute_eq_ok.1 h).1

/-- What comes to the store first needs it, whatever follows. -/
theorem bind (needs : NeedsStore x) : NeedsStore (x >>= f) := by
  intro r b r' h
  obtain ⟨a, r₁, first, _⟩ := bind_eq_ok.1 h
  exact needs r a r₁ first

/-- What comes to the store after reading needs it. -/
theorem bind_reads (reads : Reads x) (needs : ∀ a, NeedsStore (f a)) : NeedsStore (x >>= f) := by
  intro r b r' h
  obtain ⟨a, r₁, first, second⟩ := bind_eq_ok.1 h
  rw [reads.eq first] at second
  exact needs a r b r' second

/-- What is looked up is looked up in the store. -/
theorem lookup (read : Store → Option α) (e : RegistryError) :
    NeedsStore (Action.query read >>= Action.orElse e) :=
  (query read).bind

/-- What has to be there is looked up in the store. -/
theorem require (read : Store → Option α) (e : RegistryError) :
    NeedsStore (Action.query read >>= fun found =>
      Action.orElse e found >>= fun _ => Pure.pure PUnit.unit) :=
  (query read).bind

/-- A change of the answer needs the store as the answer does. -/
theorem map (needs : NeedsStore x) (g : α → β) : NeedsStore (g <$> x) := by
  rw [map_eq_pure_bind]
  exact needs.bind

end NeedsStore

end Action

/-- An operation that is not only a read succeeds only where the store can be reached. -/
theorem Operation.needsStore_run {operation : Operation} (writes : operation.isRead = false) :
    NeedsStore operation.run := by
  have activeDatabase_bind {β : Type} (databaseId : String) (rest : Database → Action β) :
      NeedsStore (Catalog.activeDatabase databaseId >>= rest) := by
    apply NeedsStore.bind
    apply NeedsStore.bind
    exact NeedsStore.lookup _ _
  cases operation <;> simp only [isRead, Bool.true_eq_false] at writes
  all_goals apply NeedsStore.map
  -- Some go to the store at once.
  case archiveAsset => exact NeedsStore.execute _ _
  case restoreAsset => exact (NeedsStore.execute _ _).bind
  case deleteAsset => exact NeedsStore.execute _ _
  case setPipelineEnabled => exact (NeedsStore.execute _ _).bind
  case archiveWorkflow => exact NeedsStore.execute _ _
  case deleteLink => exact (NeedsStore.execute _ _).bind
  case deleteMetadata => exact NeedsStore.execute _ _
  case createMetadata => exact (NeedsStore.lookup _ _).bind
  case startExecution => exact (NeedsStore.lookup _ _).bind
  case updateExecutionStatus key status =>
    -- Without the store an update fails in either of its ways.
    intro r row r' h
    cases terminal : status.isTerminal with
    | false =>
      rw [Executions.perform_updateStatus_of_not_terminal terminal,
        Executions.refuseStatus_eq_ok] at h
      exact h.elim
    | true =>
      by_contra closed
      rw [Executions.perform_updateStatus terminal, Registry.execute_of_not_ready closed] at h
      cases h
  -- The others look at the request first.
  all_goals
    apply NeedsStore.bind_reads (Reads.check _)
    intro _
  case createDatabase =>
    apply NeedsStore.bind_reads (Reads.get _)
    intro now
    exact NeedsStore.execute _ _
  case archiveDatabase => exact NeedsStore.execute _ _
  case createAsset => exact activeDatabase_bind _ _
  case createPipeline => exact activeDatabase_bind _ _
  case createWorkflow => exact activeDatabase_bind _ _
  case createLink => exact (NeedsStore.require _ _).bind
  case updateLinkTags => exact (NeedsStore.execute _ _).bind
  case updateMetadata => exact (NeedsStore.execute _ _).bind

/-! ### Statements that come again -/

namespace Store

variable {s s' : Store}

/-- A database is refused as a repetition where its id is taken. -/
theorem insertDatabase_eq_uniqueViolation {row : Database} :
    insertDatabase row s = .error .uniqueViolation ↔ (s.database? row.databaseId).isSome := by
  simp [insertDatabase, map_insertRow_eq_uniqueViolation]

/-- An asset is refused as a repetition where its key is taken. -/
theorem insertAsset_eq_uniqueViolation {row : Asset} :
    insertAsset row s = .error .uniqueViolation ↔ (s.asset? row.key).isSome := by
  simp [insertAsset, map_insertRow_eq_uniqueViolation]

/-- Metadata is refused as a repetition where its link has the key. -/
theorem insertMetadata_eq_uniqueViolation {row : LinkMetadata} :
    insertMetadata row s = .error .uniqueViolation ↔
      (s.metadata? row.assetLinkId row.metadataKey).isSome := by
  simp [insertMetadata, map_insertRow_eq_uniqueViolation]

/-- A pipeline is refused as a repetition where its reference is taken. -/
theorem insertPipeline_eq_uniqueViolation {row : Pipeline} :
    insertPipeline row s = .error .uniqueViolation ↔ (s.pipeline? row.ref).isSome := by
  simp [insertPipeline, map_insertRow_eq_uniqueViolation]

/-- A workflow is refused as a repetition where its key is taken. -/
theorem insertWorkflow_eq_uniqueViolation {row : Workflow} :
    insertWorkflow row s = .error .uniqueViolation ↔ (s.workflow? row.key).isSome := by
  simp [insertWorkflow, map_insertRow_eq_uniqueViolation]

/-- What is not there is not deleted. -/
theorem deleteAssetCascade_eq_notFound {key : AssetKey} :
    deleteAssetCascade key s = .error .notFound ↔ s.asset? key = none := by
  unfold deleteAssetCascade
  cases s.asset? key <;> simp

/-- A link is not deleted where there is none of its id. -/
theorem deleteLinkCascade_eq_notFound {assetLinkId : String} :
    deleteLinkCascade assetLinkId s = .error .notFound ↔ s.link? assetLinkId = none := by
  unfold deleteLinkCascade
  cases s.link? assetLinkId <;> simp

/-- Metadata is not deleted where its link does not have the key. -/
theorem deleteMetadata_eq_notFound {assetLinkId metadataKey : String} :
    deleteMetadata assetLinkId metadataKey s = .error .notFound ↔
      s.metadata? assetLinkId metadataKey = none := by
  unfold deleteMetadata
  cases s.metadata? assetLinkId metadataKey <;> simp

section Rows

variable {rows : List ρ} {row : ρ} {chosen : ρ → Bool} {change : ρ → ρ} {p : ρ → Bool}

/-- A new row is found by what it is found by alone. -/
theorem isSome_find?_append_singleton (found : p row) : ((rows ++ [row]).find? p).isSome :=
  List.find?_isSome.2 ⟨row, List.mem_append_right _ (List.mem_singleton.2 rfl), found⟩

/-- A change that settles a row settles all rows. -/
theorem changeRows_changeRows (settles : ∀ row, change (change row) = change row) :
    changeRows (changeRows rows chosen change) chosen change = changeRows rows chosen change := by
  rw [changeRows, changeRows, List.map_map]
  apply List.map_congr_left
  intro row _
  by_cases h : chosen row <;> simp [h, settles]

/-- A row that was there to be changed is still there to be changed. -/
theorem exists_mem_changeRows {P : ρ → Prop} (keeps : ∀ row, P row → P (change row))
    (there : ∃ row ∈ rows, P row) : ∃ row ∈ changeRows rows chosen change, P row := by
  obtain ⟨row, member, h⟩ := there
  refine ⟨_, mem_changeRows.2 ⟨row, member, rfl⟩, ?_⟩
  split
  · exact keeps row h
  · exact h

end Rows

/-! ### What was set is set -/

/-- A database that was archived or brought back is so when it is once more. -/
theorem setDatabaseArchived_again {databaseId : String} {archived : Bool}
    (ran : setDatabaseArchived databaseId archived s = .ok ((), s')) :
    setDatabaseArchived databaseId archived s' = .ok ((), s') := by
  obtain ⟨there, rfl⟩ := setDatabaseArchived_eq_ok.1 ran
  refine setDatabaseArchived_eq_ok.2 ⟨exists_mem_changeRows (fun _ h => h) there, ?_⟩
  rw [changeRows_changeRows]
  exact fun _ => rfl

/-- An asset that was archived or restored is so when it is once more. -/
theorem setAssetArchived_again {key : AssetKey} {archived : Bool}
    (ran : setAssetArchived key archived s = .ok ((), s')) :
    setAssetArchived key archived s' = .ok ((), s') := by
  obtain ⟨there, rfl⟩ := setAssetArchived_eq_ok.1 ran
  refine setAssetArchived_eq_ok.2 ⟨exists_mem_changeRows (fun _ h => h) there, ?_⟩
  rw [changeRows_changeRows]
  exact fun _ => rfl

/-- A link that has tags keeps them when it gets the same ones. -/
theorem setLinkTags_again {assetLinkId : String} {tags : List String}
    (ran : setLinkTags assetLinkId tags s = .ok ((), s')) :
    setLinkTags assetLinkId tags s' = .ok ((), s') := by
  obtain ⟨there, rfl⟩ := setLinkTags_eq_ok.1 ran
  refine setLinkTags_eq_ok.2 ⟨exists_mem_changeRows (fun _ h => h) there, ?_⟩
  rw [changeRows_changeRows]
  exact fun _ => rfl

/-- Metadata that has a value keeps it when it gets the same one. -/
theorem setMetadata_again {row : LinkMetadata} (ran : setMetadata row s = .ok ((), s')) :
    setMetadata row s' = .ok ((), s') := by
  obtain ⟨there, rfl⟩ := setMetadata_eq_ok.1 ran
  refine setMetadata_eq_ok.2 ⟨exists_mem_changeRows (fun _ h => h) there, ?_⟩
  rw [changeRows_changeRows]
  exact fun _ => rfl

/-- A pipeline that was enabled or disabled is so when it is once more. -/
theorem setPipelineEnabled_again {ref : PipelineRef} {enabled : Bool}
    (ran : setPipelineEnabled ref enabled s = .ok ((), s')) :
    setPipelineEnabled ref enabled s' = .ok ((), s') := by
  obtain ⟨there, rfl⟩ := setPipelineEnabled_eq_ok.1 ran
  refine setPipelineEnabled_eq_ok.2 ⟨exists_mem_changeRows (fun _ h => h) there, ?_⟩
  rw [changeRows_changeRows]
  exact fun _ => rfl

/-- A workflow that was archived or brought back is so when it is once more. -/
theorem setWorkflowArchived_again {key : WorkflowKey} {archived : Bool}
    (ran : setWorkflowArchived key archived s = .ok ((), s')) :
    setWorkflowArchived key archived s' = .ok ((), s') := by
  obtain ⟨there, rfl⟩ := setWorkflowArchived_eq_ok.1 ran
  refine setWorkflowArchived_eq_ok.2 ⟨exists_mem_changeRows (fun _ h => h) there, ?_⟩
  rw [changeRows_changeRows]
  exact fun _ => rfl

/-! ### What was stored is there -/

/-- A database that was stored is found. -/
theorem isSome_database?_of_insertDatabase {row d : Database}
    (ran : insertDatabase row s = .ok (d, s')) : (s'.database? row.databaseId).isSome := by
  obtain ⟨_, _, rfl⟩ := insertDatabase_eq_ok.1 ran
  exact isSome_find?_append_singleton (by simp)

/-- An asset that was stored is found. -/
theorem isSome_asset?_of_insertAsset {row a : Asset} (ran : insertAsset row s = .ok (a, s')) :
    (s'.asset? row.key).isSome := by
  obtain ⟨_, _, _, rfl⟩ := insertAsset_eq_ok.1 ran
  exact isSome_find?_append_singleton (by simp)

/-- A pipeline that was stored is found. -/
theorem isSome_pipeline?_of_insertPipeline {row p : Pipeline}
    (ran : insertPipeline row s = .ok (p, s')) : (s'.pipeline? row.ref).isSome := by
  obtain ⟨_, _, _, rfl⟩ := insertPipeline_eq_ok.1 ran
  exact isSome_find?_append_singleton (by simp)

/-- A workflow that was stored is found. -/
theorem isSome_workflow?_of_insertWorkflow {row w : Workflow}
    (ran : insertWorkflow row s = .ok (w, s')) : (s'.workflow? row.key).isSome := by
  obtain ⟨_, _, _, rfl⟩ := insertWorkflow_eq_ok.1 ran
  exact isSome_find?_append_singleton (by simp)

/-- Metadata that was stored is found. -/
theorem isSome_metadata?_of_insertMetadata {row : LinkMetadata}
    (ran : insertMetadata row s = .ok ((), s')) :
    (s'.metadata? row.assetLinkId row.metadataKey).isSome := by
  obtain ⟨_, _, rfl⟩ := insertMetadata_eq_ok.1 ran
  exact isSome_find?_append_singleton (by simp)

/-- A link that was stored is found between its ends. -/
theorem mem_linksBetween_of_insertLink {row l : AssetLink}
    (ran : insertLink row s = .ok (l, s')) :
    row ∈ s'.linksBetween row.source row.target row.relationshipType := by
  obtain ⟨_, _, rfl⟩ := insertLink_eq_ok.1 ran
  simp [linksBetween]

/-- A new execution runs. -/
theorem runningCount_pos_of_insertExecution {key : ExecutionKey} {asset : AssetKey}
    {startedAt : Moment} {e : Execution}
    (ran : insertExecution key asset startedAt s = .ok (e, s')) :
    0 < s'.runningCount asset key.workflowId := by
  obtain ⟨_, _, _, rfl⟩ := insertExecution_eq_ok.1 ran
  have member : newExecution key asset startedAt ∈
      s.executions ++ [newExecution key asset startedAt] := by simp
  have here : (newExecution key asset startedAt).isOn asset key.workflowId :=
    isOn_newExecution.2 ⟨rfl, rfl⟩
  have running : (newExecution key asset startedAt).status = .running := rfl
  exact List.countP_pos_iff.2 ⟨_, member, by simp [here, running]⟩

/-- No execution of a key runs after one has got a terminal status. -/
theorem not_running_of_finishExecution {key : ExecutionKey} {status : ExecutionStatus}
    {stoppedAt : Option Moment} (terminal : status.isTerminal)
    (ran : finishExecution key status stoppedAt s = .ok ((), s')) :
    ∀ e ∈ s'.executions, e.key = key → e.status ≠ .running := by
  obtain ⟨_, rfl⟩ := finishExecution_eq_ok.1 ran
  intro e member named
  obtain ⟨old, _, rfl⟩ := mem_changeRows.1 member
  -- A row of the key that was running has the status now, and others were not running.
  by_cases chosen : old.key = key ∧ old.status = .running
  · simpa [chosen] using ExecutionStatus.isTerminal_iff.1 terminal
  · rw [if_neg (by simpa using chosen)] at named ⊢
    exact fun running => chosen ⟨named, running⟩

/-- An asset that was deleted is not found. -/
theorem asset?_of_deleteAssetCascade {key : AssetKey} {number : Nat}
    (ran : deleteAssetCascade key s = .ok (number, s')) : s'.asset? key = none := by
  obtain ⟨_, _, rfl⟩ := deleteAssetCascade_eq_ok.1 ran
  simp [asset?, List.find?_eq_none]

/-- A link that was deleted is not found. -/
theorem link?_of_deleteLinkCascade {assetLinkId : String} {number : Nat}
    (ran : deleteLinkCascade assetLinkId s = .ok (number, s')) : s'.link? assetLinkId = none := by
  obtain ⟨_, _, rfl⟩ := deleteLinkCascade_eq_ok.1 ran
  simp [link?, List.find?_eq_none]

/-- Metadata that was deleted is not found. -/
theorem metadata?_of_deleteMetadata {assetLinkId metadataKey : String}
    (ran : deleteMetadata assetLinkId metadataKey s = .ok ((), s')) :
    s'.metadata? assetLinkId metadataKey = none := by
  obtain ⟨_, rfl⟩ := deleteMetadata_eq_ok.1 ran
  simp [metadata?, List.find?_eq_none]
  grind

end Store

/-! ### Operations that come upon what is there -/

namespace Catalog

variable {r : Registry}

/-- What a creation of a database does when its checks have passed. -/
def storeDatabase (request : NewDatabase) : Action Database := do
  let now ← Action.get Registry.now
  Action.execute (Store.insertDatabase (newDatabase request now))
    (Action.conflict (.database request.databaseId))

/-- A second database of an id is refused by the store. -/
theorem perform_storeDatabase_of_taken (ready : r.access = .ready) {request : NewDatabase}
    (taken : (r.store.database? request.databaseId).isSome) :
    (storeDatabase request).perform r =
      (.error (.alreadyExists (.database request.databaseId)), r) := by
  rw [storeDatabase, perform_get_bind]
  exact perform_execute_of_error ready (Store.insertDatabase_eq_uniqueViolation.2 taken)

/-- A second database of an id is refused after its fields have passed. -/
theorem perform_createDatabase_of_taken (ready : r.access = .ready) {request : NewDatabase}
    (unreserved : request.databaseId ≠ globalDatabaseId)
    (identifier : Validation.identifier "databaseId" request.databaseId = .ok ())
    (description : Validation.freeText "description" request.description = .ok ())
    (taken : (r.store.database? request.databaseId).isSome) :
    (createDatabase request).perform r =
      (.error (.alreadyExists (.database request.databaseId)), r) := by
  have valid : (do
      requireUnreserved request.databaseId
      Validation.identifier "databaseId" request.databaseId
      Validation.freeText "description" request.description) = .ok () := by
    rw [requireUnreserved_eq_ok (u := ()) |>.2 unreserved, identifier, description]
    rfl
  rw [createDatabase, perform_check_bind valid]
  exact perform_storeDatabase_of_taken ready taken

/-- What follows on the lookup of an active database follows without it where the database
    is active. -/
theorem perform_activeDatabase_bind (ready : r.access = .ready) {databaseId : String}
    (active : (r.store.activeDatabase? databaseId).isSome) (rest : Action α) :
    (activeDatabase databaseId >>= fun _ => rest).perform r = rest.perform r := by
  obtain ⟨d, found⟩ := Option.isSome_iff_exists.1 active
  exact perform_bind_of_ok (activeDatabase_eq_ok.2 ⟨ready, found, rfl⟩) _

/-- What a creation of an asset does when its checks have passed. -/
def storeAsset (databaseId : String) (request : NewAsset) : Action Asset := do
  let now ← Action.get Registry.now
  let row := newAsset databaseId request now
  Action.execute (Store.insertAsset row) (Action.conflict (.asset row.key))

/-- A second asset of a key is refused by the store. -/
theorem perform_storeAsset_of_taken (ready : r.access = .ready) {databaseId : String}
    {request : NewAsset} (taken : (r.store.asset? ⟨databaseId, request.assetId⟩).isSome) :
    (storeAsset databaseId request).perform r =
      (.error (.alreadyExists (.asset ⟨databaseId, request.assetId⟩)), r) := by
  rw [storeAsset, perform_get_bind]
  have refused : Store.insertAsset (newAsset databaseId request r.now) r.store =
      .error .uniqueViolation :=
    Store.insertAsset_eq_uniqueViolation.2 taken
  exact perform_execute_of_error ready refused

/-- A second asset of a key is refused after its fields and its database have passed. -/
theorem perform_createAsset_of_taken (ready : r.access = .ready) {databaseId : String}
    {request : NewAsset} (valid : checkAsset databaseId request = .ok ())
    (active : (r.store.activeDatabase? databaseId).isSome)
    (taken : (r.store.asset? ⟨databaseId, request.assetId⟩).isSome) :
    (createAsset databaseId request).perform r =
      (.error (.alreadyExists (.asset ⟨databaseId, request.assetId⟩)), r) := by
  rw [createAsset, perform_check_bind valid, perform_activeDatabase_bind ready active]
  exact perform_storeAsset_of_taken ready taken

/-- What a creation of a pipeline does when its checks have passed. -/
def storePipeline (databaseId : String) (request : NewPipeline) : Action Pipeline := do
  let now ← Action.get Registry.now
  let row := newPipeline databaseId request now
  Action.execute (Store.insertPipeline row) (Action.conflict (.pipeline row.ref))

/-- A second pipeline of a reference is refused by the store. -/
theorem perform_storePipeline_of_taken (ready : r.access = .ready) {databaseId : String}
    {request : NewPipeline} (taken : (r.store.pipeline? ⟨databaseId, request.pipelineId⟩).isSome) :
    (storePipeline databaseId request).perform r =
      (.error (.alreadyExists (.pipeline ⟨databaseId, request.pipelineId⟩)), r) := by
  rw [storePipeline, perform_get_bind]
  have refused : Store.insertPipeline (newPipeline databaseId request r.now) r.store =
      .error .uniqueViolation :=
    Store.insertPipeline_eq_uniqueViolation.2 taken
  exact perform_execute_of_error ready refused

/-- A second pipeline of a reference is refused after its fields and its database have passed. -/
theorem perform_createPipeline_of_taken (ready : r.access = .ready) {databaseId : String}
    {request : NewPipeline} (valid : checkPipeline databaseId request = .ok ())
    (active : (r.store.activeDatabase? databaseId).isSome)
    (taken : (r.store.pipeline? ⟨databaseId, request.pipelineId⟩).isSome) :
    (createPipeline databaseId request).perform r =
      (.error (.alreadyExists (.pipeline ⟨databaseId, request.pipelineId⟩)), r) := by
  rw [createPipeline, perform_check_bind valid, perform_activeDatabase_bind ready active]
  exact perform_storePipeline_of_taken ready taken

/-- Steps pass where each may be used and is active. -/
theorem perform_checkSteps_of_ok (ready : r.access = .ready) {databaseId : String}
    {steps : List PipelineRef}
    (usable : ∀ step ∈ steps, mayUse databaseId step ∧ (r.store.activePipeline? step).isSome) :
    (checkSteps databaseId steps).perform r = (.ok (), r) := by
  induction steps with
  | nil => rfl
  | cons step steps ih =>
    obtain ⟨allowed, active⟩ := usable step (List.mem_cons_self ..)
    have first : (checkStep databaseId step).perform r = (.ok (), r) :=
      checkStep_eq_ok.2 ⟨allowed, ready, active, rfl⟩
    rw [checkSteps, perform_bind_of_ok first]
    exact ih fun step' member => usable step' (List.mem_cons_of_mem _ member)

/-- What a creation of a workflow does when its checks have passed. -/
def storeWorkflow (databaseId : String) (request : NewWorkflow) : Action Workflow := do
  let now ← Action.get Registry.now
  let row := newWorkflow databaseId request now
  Action.execute (Store.insertWorkflow row) (Action.conflict (.workflow row.key))

/-- A second workflow of a key is refused by the store. -/
theorem perform_storeWorkflow_of_taken (ready : r.access = .ready) {databaseId : String}
    {request : NewWorkflow} (taken : (r.store.workflow? ⟨databaseId, request.workflowId⟩).isSome) :
    (storeWorkflow databaseId request).perform r =
      (.error (.alreadyExists (.workflow ⟨databaseId, request.workflowId⟩)), r) := by
  rw [storeWorkflow, perform_get_bind]
  have refused : Store.insertWorkflow (newWorkflow databaseId request r.now) r.store =
      .error .uniqueViolation :=
    Store.insertWorkflow_eq_uniqueViolation.2 taken
  exact perform_execute_of_error ready refused

/-- A second workflow of a key is refused after its fields, its database and its steps have
    passed. -/
theorem perform_createWorkflow_of_taken (ready : r.access = .ready) {databaseId : String}
    {request : NewWorkflow} (valid : checkWorkflow databaseId request = .ok ())
    (active : (r.store.activeDatabase? databaseId).isSome)
    (usable : ∀ step ∈ request.pipelines,
      mayUse databaseId step ∧ (r.store.activePipeline? step).isSome)
    (taken : (r.store.workflow? ⟨databaseId, request.workflowId⟩).isSome) :
    (createWorkflow databaseId request).perform r =
      (.error (.alreadyExists (.workflow ⟨databaseId, request.workflowId⟩)), r) := by
  rw [createWorkflow, perform_check_bind valid, perform_activeDatabase_bind ready active,
    perform_bind_of_ok (perform_checkSteps_of_ok ready usable)]
  exact perform_storeWorkflow_of_taken ready taken

/-- An asset that is gone is not deleted again. -/
theorem perform_deleteAsset_of_missing (ready : r.access = .ready) {key : AssetKey}
    (missing : r.store.asset? key = none) :
    (deleteAsset key).perform r = (.error (.notFound (.asset key)), r) :=
  perform_execute_of_error ready (Store.deleteAssetCascade_eq_notFound.2 missing)

end Catalog

namespace Links

variable {r : Registry} {request : NewAssetLink}

/-- What an attachment of a value does when its checks have passed. -/
def storeMetadata (row : LinkMetadata) : Action LinkMetadata := do
  Action.execute (Store.insertMetadata row) (takenKey row.metadataKey)
  return row

/-- A second value of a key is refused by the store. -/
theorem perform_storeMetadata_of_taken (ready : r.access = .ready) {row : LinkMetadata}
    (taken : (r.store.metadata? row.assetLinkId row.metadataKey).isSome) :
    (storeMetadata row).perform r = (.error (.duplicateMetadataKey row.metadataKey), r) :=
  perform_bind_of_error (perform_execute_of_error ready
    (Store.insertMetadata_eq_uniqueViolation.2 taken)) _

/-- The checks of a new value pass together. -/
theorem checkMetadata_of_valid {row : LinkMetadata}
    (validKey : Validation.metadataKey row.metadataKey = .ok ())
    (validValue : Validation.metadataValue row.metadataValue row.metadataValueType = .ok ()) :
    (do
      Validation.metadataKey row.metadataKey
      Validation.metadataValue row.metadataValue row.metadataValueType) = .ok () := by
  rw [validKey, validValue]
  rfl

/-- A second value of a key is refused after its link was found and it has passed. -/
theorem perform_createMetadata_of_taken (ready : r.access = .ready) {row : LinkMetadata}
    (link : (r.store.link? row.assetLinkId).isSome)
    (validKey : Validation.metadataKey row.metadataKey = .ok ())
    (validValue : Validation.metadataValue row.metadataValue row.metadataValueType = .ok ())
    (taken : (r.store.metadata? row.assetLinkId row.metadataKey).isSome) :
    (createMetadata row).perform r = (.error (.duplicateMetadataKey row.metadataKey), r) := by
  obtain ⟨l, found⟩ := Option.isSome_iff_exists.1 link
  rw [createMetadata, perform_bind_of_ok (getLink_eq_ok.2 ⟨ready, found, rfl⟩),
    perform_check_bind (checkMetadata_of_valid validKey validValue)]
  exact perform_storeMetadata_of_taken ready taken

/-- An asset with as many links as the limit has no room. -/
theorem perform_requireCapacity_of_full (ready : r.access = .ready) {key : AssetKey}
    (full : r.linkLimit ≤ r.store.linkCount key) :
    (requireCapacity key).perform r = (.error (.linkLimitExceeded key r.linkLimit), r) := by
  rw [requireCapacity, perform_get_bind, perform_query_bind ready, if_pos full]
  rfl

/-- How a link is refused that repeats a stored one in every respect. -/
def repeatedLink : RelationshipType → Duplication
  | .related => .related
  | .parentChild => .sameAlias

/-- A link that is asked for as it is stored is refused as its repetition. -/
theorem perform_requireAdmissible_of_stored (ready : r.access = .ready) {l : AssetLink}
    (stored : l ∈ r.store.linksBetween request.source request.target request.relationshipType)
    (sameAlias : l.assetLinkAliasId = request.alias?) :
    (requireAdmissible request).perform r =
      (.error (.duplicateLink (repeatedLink request.relationshipType)), r) := by
  unfold requireAdmissible
  cases type : request.relationshipType with
  -- A related link repeats one in either direction.
  | related =>
    rw [type] at stored
    have some : (r.store.linksBetween request.source request.target .related).isEmpty = false :=
      List.isEmpty_eq_false_iff.2 (List.ne_nil_of_mem stored)
    show (requireUnrelated _ _).perform r = _
    rw [requireUnrelated, perform_query_bind ready, perform_query_bind ready,
      if_pos (by simp [some])]
    rfl
  -- A parent-child link repeats one of the same alias.
  | parentChild =>
    rw [type] at stored
    have twin : (r.store.linksBetween request.source request.target .parentChild).any
        (·.assetLinkAliasId = request.alias?) :=
      List.any_eq_true.2 ⟨l, stored, by simpa using sameAlias⟩
    refine perform_bind_of_error ?_ _
    rw [requireNewChild, perform_query_bind ready, if_pos twin]
    rfl

/-- Why a link is refused that is asked for once more.  The limit is looked at first. -/
def refusalAgain (request : NewAssetLink) (r : Registry) : RegistryError :=
  if r.linkLimit ≤ r.store.linkCount request.source then
    .linkLimitExceeded request.source r.linkLimit
  else if r.linkLimit ≤ r.store.linkCount request.target then
    .linkLimitExceeded request.target r.linkLimit
  else .duplicateLink (repeatedLink request.relationshipType)

/-- What a creation of a link does from its counts on, where it is the only one. -/
def storeAdmitted (request : NewAssetLink) : Action AssetLink := do
  requireCapacity request.source
  requireCapacity request.target
  requireAdmissible request
  storeLink request

/-- From its counts on, a link that repeats a stored one is refused: for the limit, or as its
    repetition. -/
theorem perform_storeAdmitted_of_stored (ready : r.access = .ready) {l : AssetLink}
    (stored : l ∈ r.store.linksBetween request.source request.target request.relationshipType)
    (sameAlias : l.assetLinkAliasId = request.alias?) :
    (storeAdmitted request).perform r = (.error (refusalAgain request r), r) := by
  rw [storeAdmitted, refusalAgain]
  -- The stored link is counted at both ends, so that a limit may be met before its repetition is.
  by_cases sourceFull : r.linkLimit ≤ r.store.linkCount request.source
  · rw [if_pos sourceFull]
    exact perform_bind_of_error (perform_requireCapacity_of_full ready sourceFull) _
  have sourceRoom : (requireCapacity request.source).perform r = (.ok (), r) :=
    requireCapacity_eq_ok.2 ⟨ready, Nat.lt_of_not_le sourceFull, rfl⟩
  rw [if_neg sourceFull, perform_bind_of_ok sourceRoom]
  by_cases targetFull : r.linkLimit ≤ r.store.linkCount request.target
  · rw [if_pos targetFull]
    exact perform_bind_of_error (perform_requireCapacity_of_full ready targetFull) _
  have targetRoom : (requireCapacity request.target).perform r = (.ok (), r) :=
    requireCapacity_eq_ok.2 ⟨ready, Nat.lt_of_not_le targetFull, rfl⟩
  rw [if_neg targetFull, perform_bind_of_ok targetRoom]
  exact perform_bind_of_error (perform_requireAdmissible_of_stored ready stored sameAlias) _

/-- A link that repeats a stored one is refused after its fields and its ends have passed. -/
theorem perform_createLink_of_stored (ready : r.access = .ready)
    (valid : checkRequest request = .ok ()) (source : (r.store.asset? request.source).isSome)
    (target : (r.store.asset? request.target).isSome) {l : AssetLink}
    (stored : l ∈ r.store.linksBetween request.source request.target request.relationshipType)
    (sameAlias : l.assetLinkAliasId = request.alias?) :
    (createLink request).perform r = (.error (refusalAgain request r), r) := by
  have sourcePassed : (requireEnd .source request.source).perform r = (.ok (), r) :=
    requireEnd_eq_ok.2 ⟨ready, source, rfl⟩
  have targetPassed : (requireEnd .target request.target).perform r = (.ok (), r) :=
    requireEnd_eq_ok.2 ⟨ready, target, rfl⟩
  rw [createLink, perform_check_bind valid, perform_bind_of_ok sourcePassed,
    perform_bind_of_ok targetPassed]
  exact perform_storeAdmitted_of_stored ready stored sameAlias

/-- A link that is gone is not deleted again. -/
theorem perform_deleteLink_of_missing (ready : r.access = .ready) {assetLinkId : String}
    (missing : r.store.link? assetLinkId = none) :
    (deleteLink assetLinkId).perform r = (.error (.notFound (.assetLink assetLinkId)), r) :=
  perform_bind_of_error
    (perform_execute_of_error ready (Store.deleteLinkCascade_eq_notFound.2 missing)) _

/-- Metadata that is gone is not deleted again. -/
theorem perform_deleteMetadata_of_missing (ready : r.access = .ready)
    {assetLinkId metadataKey : String}
    (missing : r.store.metadata? assetLinkId metadataKey = none) :
    (deleteMetadata assetLinkId metadataKey).perform r =
      (.error (.notFound (.metadata assetLinkId metadataKey)), r) :=
  perform_execute_of_error ready (Store.deleteMetadata_eq_notFound.2 missing)

end Links

namespace Executions

variable {r : Registry}

/-- A workflow that runs on an asset is not started there again, though everything else passes. -/
theorem perform_startExecution_of_running (ready : r.access = .ready) {request : StartExecution}
    {asset : Asset} {workflow : Workflow}
    (there : r.store.activeAsset? ⟨request.databaseId, request.assetId⟩ = some asset)
    (visible : r.store.visibleWorkflow?
      (request.workflowDatabaseId.getD asset.databaseId) request.workflowId = some workflow)
    (enabled : ∀ step ∈ workflow.pipelines,
      ∃ p, r.store.activePipeline? step = some p ∧ p.enabled)
    (running : 0 < r.store.runningCount asset.key workflow.workflowId) :
    (startExecution request).perform r = (.error .executionAlreadyRunning, r) := by
  have allEnabled : (workflow.pipelines.forM requireEnabled).perform r = (.ok (), r) :=
    perform_forM_of_ok fun step member => requireEnabled_eq_ok.2 ⟨ready, enabled step member, rfl⟩
  rw [startExecution, perform_bind_of_ok (activeAsset_eq_ok.2 ⟨ready, there, rfl⟩),
    perform_bind_of_ok (Catalog.getWorkflow_eq_ok.2 ⟨ready, visible, rfl⟩),
    perform_bind_of_ok allEnabled]
  refine perform_bind_of_error ?_ _
  rw [perform_requireIdle ready, if_pos running]

/-- Where an execution is running, no other one is stored beside it. -/
theorem perform_storeExecution_of_running (ready : r.access = .ready) {workflow : WorkflowKey}
    {asset : AssetKey} (running : 0 < r.store.runningCount asset workflow.workflowId) :
    (storeExecution workflow asset).perform r = (.error .executionAlreadyRunning, r) := by
  have refused : Store.insertExecution (r.nextExecutionKey workflow) asset r.now r.store =
      .error .uniqueViolation :=
    Store.insertExecution_eq_uniqueViolation.2 (.inr running)
  rw [perform_storeExecution, Registry.execute_of_ready ready, refused]
  rfl

/-- An execution that has just got a status has it. -/
theorem perform_updateStatus_again {key : ExecutionKey} {status : ExecutionStatus}
    {stoppedAt : Option Moment} {s : Store} (ready : r.access = .ready)
    (distinct : s.executionKeys.Nodup) (terminal : status.isTerminal)
    (ran : Store.finishExecution key status stoppedAt s = .ok ((), r.store)) :
    (updateStatus key status).perform r = (.error (.invalidTransition status status), r) := by
  obtain ⟨⟨e, member, rfl, running⟩, _⟩ := Store.finishExecution_eq_ok.1 ran
  have before : s.execution? e.key = some e := Store.find?_eq_some_of_mem distinct member
  have found : r.store.execution? e.key = some { e with status, stoppedAt } :=
    Store.execution?_of_finishExecution_running before running ran
  have settled := Store.not_running_of_finishExecution terminal ran
  rw [perform_updateStatus_of_not_running ready settled, perform_refuseStatus ready, found]

end Executions

/-! ### Keys of executions

The status of an execution can be looked up because its key is that of no other one.  The
store sees to that, whoever writes to it. -/

section ExecutionKeys

/-- A new execution has a key that was free. -/
theorem Store.nodup_executionKeys_of_insertExecution {s s' : Store} {key : ExecutionKey}
    {asset : AssetKey} {startedAt : Moment} {e : Execution} (distinct : s.executionKeys.Nodup)
    (ran : Store.insertExecution key asset startedAt s = .ok (e, s')) :
    s'.executionKeys.Nodup := by
  obtain ⟨free, _, _, rfl⟩ := Store.insertExecution_eq_ok.1 ran
  have fresh : (Store.newExecution key asset startedAt).key ∉ s.executionKeys :=
    Store.find?_eq_none_iff_notMem_keys.1 free
  exact Store.nodup_keys_append distinct fresh

/-- An execution that ends keeps its key. -/
theorem Store.nodup_executionKeys_of_finishExecution {s s' : Store} {key : ExecutionKey}
    {status : ExecutionStatus} {stoppedAt : Option Moment} (distinct : s.executionKeys.Nodup)
    (ran : Store.finishExecution key status stoppedAt s = .ok ((), s')) :
    s'.executionKeys.Nodup := by
  obtain ⟨_, rfl⟩ := Store.finishExecution_eq_ok.1 ran
  exact Store.nodup_keys_changeRows (fun _ => rfl) distinct

/-- No step of an operation repeats the key of an execution. -/
theorem Operation.Step.nodup_executionKeys {operation : Operation} {reply : Reply}
    {r r' : Registry} (step : Step r operation reply r') (distinct : r.store.executionKeys.Nodup) :
    r'.store.executionKeys.Nodup := by
  have frame := step.agreesBut
  cases step
  case read => exact distinct
  case startExecution ran => exact Store.nodup_executionKeys_of_insertExecution distinct ran
  case updateExecutionStatus ran _ =>
    exact Store.nodup_executionKeys_of_finishExecution distinct ran
  all_goals
    have same : _ = r.store.executions := frame.executions (by simp [tables])
    rwa [Store.executionKeys, same]

/-- No call to the store repeats the key of an execution. -/
theorem StoreCall.nodup_executionKeys (call : StoreCall) {r : Registry}
    (distinct : r.store.executionKeys.Nodup) : (call.perform r).2.store.executionKeys.Nodup := by
  have frame := call.perform_agreesBut r
  cases call
  -- Two calls write executions, and one may begin with a new store.
  case createExecution =>
    exact Registry.execute_keeps distinct fun ran =>
      Store.nodup_executionKeys_of_insertExecution distinct ran
  case finishExecution =>
    exact Registry.execute_keeps distinct fun ran =>
      Store.nodup_executionKeys_of_finishExecution distinct ran
  case prepare =>
    show r.prepare.2.store.executionKeys.Nodup
    unfold Registry.prepare
    cases r.access with
    | blank => exact List.nodup_nil
    | ready => exact distinct
    | closed => exact distinct
  all_goals
    have same : _ = r.store.executions := frame.executions (by simp [tables])
    rwa [Store.executionKeys, same]

/-- The keys of executions are distinct in every store that operations and calls lead to. -/
theorem Registry.SharedReachable.nodup_executionKeys {linkLimit : Nat} {r : Registry}
    (reachable : SharedReachable linkLimit r) : r.store.executionKeys.Nodup := by
  induction reachable with
  | refl => exact List.nodup_nil
  | @tail r _ _ next distinct =>
    cases next with
    | perform operation =>
      rcases operation.perform_eq_or_step r with unchanged | ⟨_, step⟩
      · rw [unchanged]
        exact distinct
      · exact step.nodup_executionKeys distinct
    | call call => exact call.nodup_executionKeys distinct
    | elsewhere same => rwa [same]

end ExecutionKeys

/-! ### Any operation -/

/-- The registry when the clock shows a time. -/
def Registry.atTime (r : Registry) (operation : Nat) : Registry :=
  { r with operation }

namespace Operation

/-- Why an operation that creates, deletes or ends something is refused when it comes again.
    The registry is the one that it left. -/
def refusal? (r : Registry) : Operation → Option RegistryError
  | .createDatabase request => some (.alreadyExists (.database request.databaseId))
  | .createAsset databaseId request =>
    some (.alreadyExists (.asset ⟨databaseId, request.assetId⟩))
  | .createPipeline databaseId request =>
    some (.alreadyExists (.pipeline ⟨databaseId, request.pipelineId⟩))
  | .createWorkflow databaseId request =>
    some (.alreadyExists (.workflow ⟨databaseId, request.workflowId⟩))
  | .createMetadata row => some (.duplicateMetadataKey row.metadataKey)
  | .createLink request => some (Links.refusalAgain request r)
  | .startExecution _ => some .executionAlreadyRunning
  | .updateExecutionStatus _ status => some (.invalidTransition status status)
  | .deleteLink assetLinkId => some (.notFound (.assetLink assetLinkId))
  | .deleteAsset key => some (.notFound (.asset key))
  | .deleteMetadata assetLinkId metadataKey => some (.notFound (.metadata assetLinkId metadataKey))
  | _ => none

/-- The operations that set something to a value. -/
def isSetting : Operation → Bool
  | .archiveDatabase .. | .archiveAsset .. | .restoreAsset .. | .archiveWorkflow ..
  | .setPipelineEnabled .. | .updateLinkTags .. | .updateMetadata .. => true
  | _ => false

variable {operation : Operation} {reply : Reply} {r r' : Registry}

/-- What writes and succeeds has made a step, and the store can be reached after it, at
    whatever time. -/
theorem ready_and_step_of_perform (writes : operation.isRead = false)
    (h : operation.perform r = (.ok reply, r')) (time : Nat) :
    (r'.atTime time).access = .ready ∧ Step r operation reply r' := by
  have step := step_of_perform h
  have ready : r.access = .ready := needsStore_run writes r reply r' h
  exact ⟨step.access_eq.trans ready, step⟩

/-- What creates, deletes or ends something is refused when it comes again, and the registry
    stays as it is. -/
theorem refused_again (distinct : r.store.executionKeys.Nodup)
    (h : operation.perform r = (.ok reply, r')) {e : RegistryError}
    (refusal : operation.refusal? r' = some e) (time : Nat) :
    operation.perform (r'.atTime time) = (.error e, r'.atTime time) := by
  have writes : operation.isRead = false := by
    cases operation <;> first | rfl | exact nomatch refusal
  obtain ⟨ready, step⟩ := ready_and_step_of_perform writes h time
  cases step
  case read reads =>
    rw [writes] at reads
    exact nomatch reads
  -- What the first call has passed it passes again, and then it comes upon what it has left.
  all_goals cases refusal
  case createDatabase unreserved identifier description ran =>
    have taken := Store.isSome_database?_of_insertDatabase ran
    exact perform_map_of_error
      (Catalog.perform_createDatabase_of_taken ready unreserved identifier description taken) _
  case createAsset valid active ran =>
    have taken := Store.isSome_asset?_of_insertAsset ran
    obtain ⟨_, _, _, rfl⟩ := Store.insertAsset_eq_ok.1 ran
    exact perform_map_of_error (Catalog.perform_createAsset_of_taken ready valid active taken) _
  case createPipeline valid active ran =>
    have taken := Store.isSome_pipeline?_of_insertPipeline ran
    obtain ⟨_, _, _, rfl⟩ := Store.insertPipeline_eq_ok.1 ran
    exact perform_map_of_error (Catalog.perform_createPipeline_of_taken ready valid active taken) _
  case createWorkflow valid active usable ran =>
    have taken := Store.isSome_workflow?_of_insertWorkflow ran
    obtain ⟨_, _, _, rfl⟩ := Store.insertWorkflow_eq_ok.1 ran
    exact perform_map_of_error
      (Catalog.perform_createWorkflow_of_taken ready valid active usable taken) _
  case createMetadata validKey validValue ran =>
    have taken := Store.isSome_metadata?_of_insertMetadata ran
    obtain ⟨_, link, rfl⟩ := Store.insertMetadata_eq_ok.1 ran
    exact perform_map_of_error
      (Links.perform_createMetadata_of_taken ready link validKey validValue taken) _
  case createLink request _ _ valid source target _ _ _ ran =>
    have stored := Store.mem_linksBetween_of_insertLink ran
    obtain ⟨_, _, rfl⟩ := Store.insertLink_eq_ok.1 ran
    exact perform_map_of_error
      (Links.perform_createLink_of_stored ready valid source target stored rfl) _
  case startExecution there visible enabled _ ran =>
    have running := Store.runningCount_pos_of_insertExecution ran
    obtain ⟨_, _, _, rfl⟩ := Store.insertExecution_eq_ok.1 ran
    exact perform_map_of_error
      (Executions.perform_startExecution_of_running ready there visible enabled running) _
  case updateExecutionStatus terminal ran _ =>
    exact perform_map_of_error (Executions.perform_updateStatus_again ready distinct terminal ran) _
  case deleteLink ran =>
    have missing := Store.link?_of_deleteLinkCascade ran
    exact perform_map_of_error (Links.perform_deleteLink_of_missing ready missing) _
  case deleteAsset ran =>
    have missing := Store.asset?_of_deleteAssetCascade ran
    exact perform_map_of_error (Catalog.perform_deleteAsset_of_missing ready missing) _
  case deleteMetadata ran =>
    have missing := Store.metadata?_of_deleteMetadata ran
    exact perform_map_of_error (Links.perform_deleteMetadata_of_missing ready missing) _

/-- What sets something to a value has the same answer when it comes again, and the store
    stays as it is. -/
theorem set_again (h : operation.perform r = (.ok reply, r')) (setting : operation.isSetting)
    (time : Nat) :
    ∃ r'', operation.perform (r'.atTime time) = (.ok reply, r'') ∧
      r''.store = r'.store := by
  have writes : operation.isRead = false := by
    cases operation <;> first | rfl | cases setting
  obtain ⟨ready, step⟩ := ready_and_step_of_perform writes h time
  cases step
  case read reads =>
    rw [writes] at reads
    cases reads
  -- The statement runs once more and leaves the store that it has found.
  case archiveDatabase s unreserved ran =>
    have again := Store.setDatabaseArchived_again ran
    have allowed : Catalog.requireUnreserved _ = .ok () :=
      Catalog.requireUnreserved_eq_ok.2 unreserved
    refine ⟨((r.wrote s).atTime time).wrote s, perform_map_of_ok (a := ()) ?_ _, rfl⟩
    rw [Catalog.archiveDatabase, perform_check_bind allowed]
    exact perform_execute_of_ok ready again
  case archiveAsset s ran =>
    have again := Store.setAssetArchived_again ran
    refine ⟨((r.wrote s).atTime time).wrote s, perform_map_of_ok (a := ()) ?_ _, rfl⟩
    exact perform_execute_of_ok ready again
  case restoreAsset row s ran found =>
    have again := Store.setAssetArchived_again ran
    refine ⟨((r.wrote s).atTime time).wrote s, perform_map_of_ok ?_ _, rfl⟩
    rw [Catalog.restoreAsset, perform_bind_of_ok (perform_execute_of_ok ready again)]
    exact Catalog.getAsset_eq_ok.2 ⟨ready, found, rfl⟩
  case archiveWorkflow s ran =>
    have again := Store.setWorkflowArchived_again ran
    refine ⟨((r.wrote s).atTime time).wrote s, perform_map_of_ok (a := ()) ?_ _, rfl⟩
    exact perform_execute_of_ok ready again
  case setPipelineEnabled row s ran found =>
    have again := Store.setPipelineEnabled_again ran
    have readable : (((r.wrote s).atTime time).wrote s).access = .ready := ready
    refine ⟨((r.wrote s).atTime time).wrote s, perform_map_of_ok ?_ _, rfl⟩
    rw [Catalog.setPipelineEnabled, perform_bind_of_ok (perform_execute_of_ok ready again),
      Catalog.findPipeline, perform_query_bind readable]
    exact orElse_eq_ok.2 ⟨found, rfl⟩
  case updateLinkTags row s valid ran found =>
    have again := Store.setLinkTags_again ran
    refine ⟨((r.wrote s).atTime time).wrote s, perform_map_of_ok ?_ _, rfl⟩
    rw [Links.updateTags, perform_check_bind valid,
      perform_bind_of_ok (perform_execute_of_ok ready again)]
    exact Links.getLink_eq_ok.2 ⟨ready, found, rfl⟩
  case updateMetadata row s valid ran =>
    have again := Store.setMetadata_again ran
    refine ⟨((r.wrote s).atTime time).wrote s, perform_map_of_ok ?_ _, rfl⟩
    rw [Links.updateMetadata, perform_check_bind valid,
      perform_bind_of_ok (perform_execute_of_ok ready again)]
    rfl
  all_goals cases setting

end Operation

end AssetRegistry
