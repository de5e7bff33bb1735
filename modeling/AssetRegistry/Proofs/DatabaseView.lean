import AssetRegistry.Proofs.Reachable

/-!
# What is seen from a database

The answers about a database are taken from few rows: its own ones, and the pipelines and
workflows of the reserved database (`Store.seenFrom`).  A question about a database has the
same answer on two registries that look alike from there, and an operation in another
database, unless that is the reserved one, leaves a registry that looks as it did.
-/

namespace AssetRegistry

open AssetRegistry.Action

/-! ### Views -/

/-- Whether the pipelines and workflows of a database are listed with those of another
    one. -/
def isSharedWith (databaseId owner : String) : Bool :=
  owner = databaseId || owner = globalDatabaseId

namespace Store

variable {s : Store} {databaseId : String}

/-- The rows that the answers about a database are taken from. -/
def seenFrom (s : Store) (databaseId : String) : Store where
  databases := s.databases.filter (·.databaseId = databaseId)
  assets := s.assets.filter (·.databaseId = databaseId)
  links := []
  metadata := []
  pipelines := s.pipelines.filter (isSharedWith databaseId ·.databaseId)
  workflows := s.workflows.filter (isSharedWith databaseId ·.databaseId)
  executions := s.executions.filter (·.databaseId = databaseId)

/-- Stores with the same rows to be seen look alike. -/
theorem seenFrom_congr {s' : Store}
    (databases : s'.databases.filter (·.databaseId = databaseId) =
      s.databases.filter (·.databaseId = databaseId))
    (assets : s'.assets.filter (·.databaseId = databaseId) =
      s.assets.filter (·.databaseId = databaseId))
    (pipelines : s'.pipelines.filter (isSharedWith databaseId ·.databaseId) =
      s.pipelines.filter (isSharedWith databaseId ·.databaseId))
    (workflows : s'.workflows.filter (isSharedWith databaseId ·.databaseId) =
      s.workflows.filter (isSharedWith databaseId ·.databaseId))
    (executions : s'.executions.filter (·.databaseId = databaseId) =
      s.executions.filter (·.databaseId = databaseId)) :
    s'.seenFrom databaseId = s.seenFrom databaseId := by
  simp only [seenFrom, databases, assets, pipelines, workflows, executions]

/-! ### What can be told from a view -/

/-- The database itself is seen. -/
theorem database?_seenFrom :
    (s.seenFrom databaseId).database? databaseId = s.database? databaseId :=
  find?_filter_of_kept fun _ _ found => found

/-- Each of its assets is seen. -/
theorem asset?_seenFrom {key : AssetKey} (own : key.databaseId = databaseId) :
    (s.seenFrom databaseId).asset? key = s.asset? key := by
  apply find?_filter_of_kept
  intro a _ found
  obtain rfl := of_decide_eq_true found
  exact decide_eq_true own

/-- All of its assets are seen, in their order. -/
theorem listAssets_seenFrom {includeArchived : Bool} :
    (s.seenFrom databaseId).listAssets databaseId includeArchived =
      s.listAssets databaseId includeArchived := by
  rw [listAssets, listAssets, seenFrom, filter_filter_of_kept]
  intro a listed
  exact (Bool.and_eq_true_iff.1 listed).1

/-- Each of its pipelines is seen. -/
theorem pipeline?_seenFrom {ref : PipelineRef} (own : ref.databaseId = databaseId) :
    (s.seenFrom databaseId).pipeline? ref = s.pipeline? ref := by
  apply find?_filter_of_kept
  intro p _ found
  obtain rfl := of_decide_eq_true found
  simp [isSharedWith, ← own, Pipeline.ref]

/-- All pipelines of a database that shares with it are seen, in their order. -/
theorem listPipelines_seenFrom {owner : String} (shared : isSharedWith databaseId owner)
    {includeArchived : Bool} :
    (s.seenFrom databaseId).listPipelines owner includeArchived =
      s.listPipelines owner includeArchived := by
  rw [listPipelines, listPipelines, seenFrom, filter_filter_of_kept]
  intro p listed
  obtain rfl := of_decide_eq_true (Bool.and_eq_true_iff.1 listed).1
  exact shared

/-- Each workflow of a database that shares with it is seen. -/
theorem workflow?_seenFrom {key : WorkflowKey} (shared : isSharedWith databaseId key.databaseId) :
    (s.seenFrom databaseId).workflow? key = s.workflow? key := by
  apply find?_filter_of_kept
  intro w _ found
  obtain rfl := of_decide_eq_true found
  exact shared

/-- All workflows of a database that shares with it are seen, in their order. -/
theorem listWorkflows_seenFrom {owner : String} (shared : isSharedWith databaseId owner)
    {includeArchived : Bool} :
    (s.seenFrom databaseId).listWorkflows owner includeArchived =
      s.listWorkflows owner includeArchived := by
  rw [listWorkflows, listWorkflows, seenFrom, filter_filter_of_kept]
  intro w listed
  obtain rfl := of_decide_eq_true (Bool.and_eq_true_iff.1 listed).1
  exact shared

/-- What runs on its assets is seen, in the order of its listing. -/
theorem listExecutions_seenFrom {asset : AssetKey} (own : asset.databaseId = databaseId)
    {workflowId : String} :
    (s.seenFrom databaseId).listExecutions asset workflowId =
      s.listExecutions asset workflowId := by
  rw [listExecutions, listExecutions, seenFrom, filter_filter_of_kept]
  intro e onAsset
  have sameDatabase : e.databaseId = asset.databaseId := by
    simp only [Execution.isOn, Bool.and_eq_true, decide_eq_true_eq] at onAsset
    exact onAsset.1.1
  exact decide_eq_true (sameDatabase.trans own)

end Store

/-! ### Registries that look alike -/

/-- Two registries look alike from a database. -/
structure Registry.LooksAlike (databaseId : String) (r r' : Registry) : Prop where
  access : r'.access = r.access
  store : r'.store.seenFrom databaseId = r.store.seenFrom databaseId

/-- What looks as it did, and then again as it did, looks as it did at first. -/
theorem Registry.LooksAlike.trans {databaseId : String} {r r' r'' : Registry}
    (first : r.LooksAlike databaseId r') (second : r'.LooksAlike databaseId r'') :
    r.LooksAlike databaseId r'' :=
  ⟨second.access.trans first.access, second.store.trans first.store⟩

namespace Action

variable {databaseId : String} {x : Action α} {f : α → Action β}

/-- An action that only reads, and answers alike on registries that look alike from a
    database. -/
structure Sees (databaseId : String) (x : Action α) : Prop where
  reads : Reads x
  alike : ∀ {r r' : Registry}, r.LooksAlike databaseId r' → (x.perform r').1 = (x.perform r).1

namespace Sees

/-- An answer that is there already sees nothing. -/
theorem pure (a : α) : Sees databaseId (pure a) :=
  ⟨Reads.pure a, fun _ => rfl⟩

/-- A refusal sees nothing. -/
theorem throw (e : RegistryError) : Sees databaseId (throw e : Action α) :=
  ⟨Reads.throw e, fun _ => rfl⟩

/-- Two parts that see a database see it together. -/
theorem bind (sees : Sees databaseId x) (seesAfter : ∀ a, Sees databaseId (f a)) :
    Sees databaseId (x >>= f) := by
  refine ⟨sees.reads.bind fun a => (seesAfter a).reads, ?_⟩
  intro r r' same
  -- The first part leaves both registries as they are, so the second part runs on the same two.
  rw [perform_bind_of_unchanged (sees.reads r'), perform_bind_of_unchanged (sees.reads r),
    sees.alike same]
  cases (x.perform r).1 with
  | error e => rfl
  | ok a => exact (seesAfter a).alike same

/-- A change of the answer sees no more. -/
theorem map (sees : Sees databaseId x) (g : α → β) : Sees databaseId (g <$> x) := by
  rw [map_eq_pure_bind]
  exact sees.bind fun a => pure (g a)

/-- A refusal of what is missing sees no more. -/
theorem orElse (e : RegistryError) (found : Option α) : Sees databaseId (orElse e found) := by
  cases found
  · exact throw _
  · exact pure _

/-- What can be told from the view of a store is seen. -/
theorem query {read : Store → α} (told : ∀ s : Store, read (s.seenFrom databaseId) = read s) :
    Sees databaseId (query read) := by
  refine ⟨Reads.query read, fun {r r'} same => ?_⟩
  have alike : read r'.store = read r.store := by
    rw [← told r'.store, same.store, told]
  rw [perform_query, perform_query, Registry.query, Registry.query, same.access, alike]

/-- Of a choice, both ways may be taken. -/
theorem ite {c : Prop} [Decidable c] {y : Action α} (sees : Sees databaseId x)
    (seesElse : Sees databaseId y) : Sees databaseId (if c then x else y) := by
  split
  · exact sees
  · exact seesElse

/-- Several things are read that are all seen. -/
theorem mapM {g : γ → Action β} (sees : ∀ c, Sees databaseId (g c)) (cs : List γ) :
    Sees databaseId (cs.mapM g) := by
  induction cs with
  | nil => exact pure []
  | cons c cs ih =>
    rw [List.mapM_cons]
    apply (sees c).bind
    intro b
    apply ih.bind
    intro bs
    exact pure (b :: bs)

end Sees

end Action

/-! ### Questions about a database -/

/-- A database shows its own rows. -/
theorem isSharedWith_self (databaseId : String) : isSharedWith databaseId databaseId := by
  simp [isSharedWith]

/-- Every database shows the rows of the reserved one. -/
theorem isSharedWith_global (databaseId : String) : isSharedWith databaseId globalDatabaseId := by
  simp [isSharedWith]

namespace Catalog

variable (databaseId : String)

/-- Looking a database up sees the database alone. -/
theorem sees_getDatabase : Sees databaseId (getDatabase databaseId) := by
  apply Sees.bind (Sees.query fun s => s.database?_seenFrom)
  intro found
  exact Sees.orElse _ found

/-- Listing assets sees the assets of the database alone. -/
theorem sees_listAssets (includeArchived : Bool) :
    Sees databaseId (listAssets databaseId includeArchived) := by
  apply Sees.bind (sees_getDatabase databaseId)
  intro _
  exact Sees.query fun s => s.listAssets_seenFrom

/-- Looking an asset up sees the assets of its database alone. -/
theorem sees_getAsset (key : AssetKey) : Sees key.databaseId (getAsset key) := by
  apply Sees.bind (Sees.query fun s => s.asset?_seenFrom rfl)
  intro found
  exact Sees.orElse _ found

/-- Looking a pipeline up sees the pipelines of its database. -/
theorem sees_findPipeline (ref : PipelineRef) : Sees ref.databaseId (findPipeline ref) :=
  Sees.query fun s => s.pipeline?_seenFrom rfl

/-- Listing pipelines sees those of the database and the shared ones. -/
theorem sees_listPipelines (includeArchived : Bool) :
    Sees databaseId (listPipelines databaseId includeArchived) := by
  apply Sees.bind (sees_getDatabase databaseId)
  intro _
  apply Sees.bind (Sees.query fun s => s.listPipelines_seenFrom (isSharedWith_self _))
  intro own
  apply Sees.ite (Sees.pure own)
  apply Sees.bind (Sees.query fun s => s.listPipelines_seenFrom (isSharedWith_global _))
  intro shared
  exact Sees.pure _

/-- Listing workflows sees those of the database and the shared ones. -/
theorem sees_listWorkflows (includeArchived : Bool) :
    Sees databaseId (listWorkflows databaseId includeArchived) := by
  apply Sees.bind (sees_getDatabase databaseId)
  intro _
  apply Sees.bind (Sees.query fun s => s.listWorkflows_seenFrom (isSharedWith_self _))
  intro own
  apply Sees.ite (Sees.pure own)
  apply Sees.bind (Sees.query fun s => s.listWorkflows_seenFrom (isSharedWith_global _))
  intro shared
  exact Sees.pure _

/-- Looking a workflow up sees those of the database and the shared ones. -/
theorem sees_getWorkflow (workflowId : String) :
    Sees databaseId (getWorkflow databaseId workflowId) := by
  apply Sees.bind (Sees.query fun s => s.workflow?_seenFrom (isSharedWith_self _))
  intro own
  split
  · exact Sees.pure _
  · refine Sees.ite ?_ (Sees.throw _)
    apply Sees.bind (Sees.query fun s => s.workflow?_seenFrom (isSharedWith_global _))
    intro shared
    split
    · exact Sees.pure _
    · exact Sees.throw _

end Catalog

namespace Executions

/-- Listing executions sees the asset and what runs on it. -/
theorem sees_listExecutions (asset : AssetKey) (workflowId : String) :
    Sees asset.databaseId (listExecutions asset workflowId) := by
  apply Sees.bind (Sees.query fun s => s.asset?_seenFrom rfl)
  intro found
  apply Sees.bind (Sees.orElse _ found)
  intro _
  exact Sees.query fun s => s.listExecutions_seenFrom rfl

/-- What a watch shows is seen from the database of its asset. -/
theorem sees_fetchExecutions (target : WatchTarget) :
    Sees target.databaseId (fetchExecutions target) := by
  have watched : Sees target.databaseId (watchedWorkflows target) := by
    unfold watchedWorkflows
    split
    · exact Sees.pure _
    · apply Sees.bind (Catalog.sees_listWorkflows _ _)
      intro workflows
      exact Sees.pure _
  -- The ids are asked for in the database, and then each one of them.
  apply Sees.bind watched
  intro workflowIds
  have listed := Sees.mapM (sees_listExecutions ⟨target.databaseId, target.assetId⟩) workflowIds
  apply Sees.bind listed
  intro executions
  exact Sees.pure _

end Executions

/-- The database that an operation asks about, alone or with what the reserved database
    shares with it. -/
def Operation.asksAbout? : Operation → Option String
  | .getDatabase databaseId | .listAssets databaseId _ | .listPipelines databaseId _
  | .listWorkflows databaseId _ | .getWorkflow databaseId _ => some databaseId
  | .getAsset key | .listExecutions key _ => some key.databaseId
  | .findPipeline ref => some ref.databaseId
  | .fetchExecutions target => some target.databaseId
  | _ => none

/-- A question about a database sees nothing else. -/
theorem Operation.sees_run {question : Operation} {databaseId : String}
    (asks : question.asksAbout? = some databaseId) : Sees databaseId question.run := by
  cases question <;> simp only [asksAbout?, Option.some.injEq, reduceCtorEq] at asks <;> subst asks
  case getDatabase => exact (Catalog.sees_getDatabase _).map _
  case getAsset => exact (Catalog.sees_getAsset _).map _
  case listAssets => exact (Catalog.sees_listAssets _ _).map _
  case findPipeline => exact (Catalog.sees_findPipeline _).map _
  case listPipelines => exact (Catalog.sees_listPipelines _ _).map _
  case getWorkflow => exact (Catalog.sees_getWorkflow _ _).map _
  case listWorkflows => exact (Catalog.sees_listWorkflows _ _).map _
  case listExecutions => exact (Executions.sees_listExecutions _ _).map _
  case fetchExecutions => exact (Executions.sees_fetchExecutions _).map _

/-! ### Operations in another database -/

/-- The database that an operation creates, or that it changes something in: an asset, a
    pipeline, a workflow or what runs on an asset. -/
def Operation.worksIn? : Operation → Option String
  | .createDatabase request => some request.databaseId
  | .archiveDatabase databaseId => some databaseId
  | .createAsset databaseId _ => some databaseId
  | .archiveAsset key | .restoreAsset key | .deleteAsset key => some key.databaseId
  | .createPipeline databaseId _ => some databaseId
  | .setPipelineEnabled ref _ => some ref.databaseId
  | .createWorkflow databaseId _ => some databaseId
  | .archiveWorkflow key => some key.databaseId
  | .startExecution request => some request.databaseId
  | _ => none

/-- A new row that is not chosen is not seen. -/
theorem filter_append_of_not {rows : List ρ} {row : ρ} {keep : ρ → Bool}
    (apart : keep row = false) : (rows ++ [row]).filter keep = rows.filter keep := by
  simp [apart]

/-- A change of rows that are not chosen is not seen. -/
theorem filter_changeRows_of_not {rows : List ρ} {chosen keep : ρ → Bool} {change : ρ → ρ}
    (keeps : ∀ row, keep (change row) = keep row)
    (apart : ∀ row, chosen row → keep row = false) :
    (Store.changeRows rows chosen change).filter keep = rows.filter keep := by
  induction rows with
  | nil => rfl
  | cons row rows ih =>
    rw [Store.changeRows, List.map_cons, List.filter_cons, List.filter_cons]
    rw [Store.changeRows] at ih
    by_cases h : chosen row
    · simp [h, keeps, apart row h, ih]
    · simp [h, ih]

/-- Archiving or restoring an asset of another database is not seen. -/
theorem filter_setArchived_of_not {assets : List Asset} {key : AssetKey} {archived : Bool}
    {databaseId : String} (apart : key.databaseId ≠ databaseId) :
    (Store.changeRows assets (·.key = key) ({ · with archived })).filter (·.databaseId = databaseId)
      = assets.filter (·.databaseId = databaseId) := by
  refine filter_changeRows_of_not (fun _ => rfl) ?_
  intro a named
  obtain rfl := of_decide_eq_true named
  exact decide_eq_false apart

/-- No other database shows its rows. -/
theorem isSharedWith_eq_false {databaseId other : String} (apart : other ≠ databaseId)
    (unreserved : other ≠ globalDatabaseId) : isSharedWith databaseId other = false := by
  simp [isSharedWith, apart, unreserved]

/-- What an operation changes in a database is not seen from another one. -/
theorem Operation.Step.seenFrom_eq {operation : Operation} {reply : Reply} {r r' : Registry}
    (step : Step r operation reply r') {databaseId other : String}
    (works : operation.worksIn? = some other) (apart : other ≠ databaseId)
    (unreserved : other ≠ globalDatabaseId) :
    r'.store.seenFrom databaseId = r.store.seenFrom databaseId := by
  have unseen := isSharedWith_eq_false apart unreserved
  cases step <;> simp only [worksIn?, Option.some.injEq, reduceCtorEq] at works
  case read => rfl
  -- Each of the others writes to one table, and only rows of the database it works in.
  all_goals subst works
  case createDatabase ran =>
    obtain ⟨_, _, rfl⟩ := Store.insertDatabase_eq_ok.1 ran
    exact Store.seenFrom_congr (filter_append_of_not (decide_eq_false apart)) rfl rfl rfl rfl
  case archiveDatabase ran =>
    obtain ⟨_, rfl⟩ := Store.setDatabaseArchived_eq_ok.1 ran
    refine Store.seenFrom_congr (filter_changeRows_of_not (fun _ => rfl) ?_) rfl rfl rfl rfl
    intro d named
    obtain rfl := of_decide_eq_true named
    exact decide_eq_false apart
  case createAsset ran =>
    obtain ⟨_, _, _, rfl⟩ := Store.insertAsset_eq_ok.1 ran
    exact Store.seenFrom_congr rfl (filter_append_of_not (decide_eq_false apart)) rfl rfl rfl
  case archiveAsset ran =>
    obtain ⟨_, rfl⟩ := Store.setAssetArchived_eq_ok.1 ran
    exact Store.seenFrom_congr rfl (filter_setArchived_of_not apart) rfl rfl rfl
  case restoreAsset ran _ =>
    obtain ⟨_, rfl⟩ := Store.setAssetArchived_eq_ok.1 ran
    exact Store.seenFrom_congr rfl (filter_setArchived_of_not apart) rfl rfl rfl
  case deleteAsset ran =>
    -- Links of the asset to other databases go too, but no view has links.
    obtain ⟨_, _, rfl⟩ := Store.deleteAssetCascade_eq_ok.1 ran
    refine Store.seenFrom_congr rfl (Store.filter_filter_of_kept ?_) rfl rfl rfl
    intro a own
    obtain rfl := of_decide_eq_true own
    simpa using fun named : a.key = _ => apart (congrArg AssetKey.databaseId named).symm
  case createPipeline ran =>
    obtain ⟨_, _, _, rfl⟩ := Store.insertPipeline_eq_ok.1 ran
    exact Store.seenFrom_congr rfl rfl (filter_append_of_not unseen) rfl rfl
  case setPipelineEnabled ran _ =>
    obtain ⟨_, rfl⟩ := Store.setPipelineEnabled_eq_ok.1 ran
    refine Store.seenFrom_congr rfl rfl (filter_changeRows_of_not (fun _ => rfl) ?_) rfl rfl
    intro p named
    obtain rfl := of_decide_eq_true named
    exact unseen
  case createWorkflow ran =>
    obtain ⟨_, _, _, rfl⟩ := Store.insertWorkflow_eq_ok.1 ran
    exact Store.seenFrom_congr rfl rfl rfl (filter_append_of_not unseen) rfl
  case archiveWorkflow ran =>
    obtain ⟨_, rfl⟩ := Store.setWorkflowArchived_eq_ok.1 ran
    refine Store.seenFrom_congr rfl rfl rfl (filter_changeRows_of_not (fun _ => rfl) ?_) rfl
    intro w named
    obtain rfl := of_decide_eq_true named
    exact unseen
  case startExecution there _ _ _ ran =>
    obtain ⟨_, _, _, rfl⟩ := Store.insertExecution_eq_ok.1 ran
    have own := Store.key_of_activeAsset? there
    refine Store.seenFrom_congr rfl rfl rfl rfl (filter_append_of_not ?_)
    simpa [Store.newExecution, own] using apart

/-! ### Databases do not interfere -/

section Apart

variable {databaseId other : String} {r r' : Registry} {write question : Operation}

/-- An operation in another database leaves a registry that looks as it did, whether the
    operation succeeds or not. -/
theorem Operation.looksAlike_perform (works : write.worksIn? = some other)
    (apart : other ≠ databaseId) (unreserved : other ≠ globalDatabaseId) :
    r.LooksAlike databaseId (write.perform r).2 := by
  rcases write.perform_eq_or_step r with unchanged | ⟨reply, step⟩
  · rw [unchanged]
    exact ⟨rfl, rfl⟩
  · exact ⟨step.access_eq, step.seenFrom_eq works apart unreserved⟩

/-- An operation that works in a database other than one that is asked about, and other than
    the reserved one. -/
def Operation.WorksApartFrom (databaseId : String) (write : Operation) : Prop :=
  ∃ other, write.worksIn? = some other ∧ other ≠ databaseId ∧ other ≠ globalDatabaseId

/-- Any number of operations in other databases leave a registry that looks as it did. -/
theorem Registry.Runs.looksAlike {writes : List Operation} (runs : Runs writes r r')
    (apart : ∀ write ∈ writes, write.WorksApartFrom databaseId) : r.LooksAlike databaseId r' := by
  induction runs with
  | done => exact ⟨rfl, rfl⟩
  | perform write _ ih =>
    obtain ⟨other, works, distinct, unreserved⟩ := apart write List.mem_cons_self
    have rest := ih fun write inRest => apart write (List.mem_cons_of_mem _ inRest)
    exact (Operation.looksAlike_perform works distinct unreserved).trans rest
  | tick _ ih =>
    have rest := ih apart
    exact ⟨rest.access, rest.store⟩

/-- A question about a database has the answer that it had before any number of operations
    in other databases. -/
theorem Registry.Runs.answer_eq {writes : List Operation} (runs : Runs writes r r')
    (apart : ∀ write ∈ writes, write.WorksApartFrom databaseId)
    (asks : question.asksAbout? = some databaseId) :
    (question.perform r').1 = (question.perform r).1 :=
  (Operation.sees_run asks).alike (runs.looksAlike apart)

/-- Databases do not interfere: an operation in a database other than the reserved one,
    whether it succeeds or not, changes no answer about another database. -/
theorem databases_do_not_interfere (works : write.worksIn? = some other)
    (asks : question.asksAbout? = some databaseId) (apart : other ≠ databaseId)
    (unreserved : other ≠ globalDatabaseId) (r : Registry) :
    (question.perform (write.perform r).2).1 = (question.perform r).1 :=
  (Operation.sees_run asks).alike (Operation.looksAlike_perform works apart unreserved)

/-- The hall of the plant is deleted with its links and its execution, and a depot beside it
    lists the shared pipelines as before. -/
theorem databases_do_not_interfere_plant :
    "plant" ≠ "depot" ∧ "plant" ≠ globalDatabaseId ∧
      ((Operation.listPipelines "depot" true).perform
          ((Operation.deleteAsset ⟨"plant", "hall"⟩).perform
            ((Operation.createDatabase ⟨"depot", ""⟩).perform Registry.plant).2).2).1 =
        ((Operation.listPipelines "depot" true).perform
          ((Operation.createDatabase ⟨"depot", ""⟩).perform Registry.plant).2).1 :=
  ⟨by decide, by decide,
    @databases_do_not_interfere "depot" "plant" (.deleteAsset ⟨"plant", "hall"⟩)
      (.listPipelines "depot" true) rfl rfl (by decide) (by decide) _⟩

end Apart

end AssetRegistry
