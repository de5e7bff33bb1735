import AssetRegistry.Proofs.Repetition

/-!
# Many requests for one thing

Any number of requests for the same creation, deletion or ending are under way at the same
time.  Their checks only read, so it does not matter what they find and when: a request
comes to a success only through the one call by which it takes effect, and once that call
has succeeded it is refused to all others (`Operation.Spent`).
-/

namespace AssetRegistry

open AssetRegistry.Action Relation

/-! ### The calls that take effect -/

/-- The calls by which an operation may take effect after its checks.  A workflow may be
    stored in more than one database, so there are several for its start. -/
inductive Operation.Effect : Operation → Action Reply → Prop where
  | createDatabase (request : NewDatabase) :
    Effect (.createDatabase request) (.database <$> Catalog.storeDatabase request)
  | createAsset (databaseId : String) (request : NewAsset) :
    Effect (.createAsset databaseId request) (.asset <$> Catalog.storeAsset databaseId request)
  | createPipeline (databaseId : String) (request : NewPipeline) :
    Effect (.createPipeline databaseId request)
      (.pipeline <$> Catalog.storePipeline databaseId request)
  | createWorkflow (databaseId : String) (request : NewWorkflow) :
    Effect (.createWorkflow databaseId request)
      (.workflow <$> Catalog.storeWorkflow databaseId request)
  | createMetadata (row : LinkMetadata) :
    Effect (.createMetadata row) (.metadata <$> Links.storeMetadata row)
  | createLink (request : NewAssetLink) :
    Effect (.createLink request) (.link <$> Links.storeAdmitted request)
  | startExecution (request : StartExecution) {workflow : WorkflowKey}
      (named : workflow.workflowId = request.workflowId) :
    Effect (.startExecution request)
      (.execution <$> Executions.storeExecution workflow ⟨request.databaseId, request.assetId⟩)
  | updateExecutionStatus (key : ExecutionKey) (status : ExecutionStatus) :
    Effect (.updateExecutionStatus key status) (.execution <$> Executions.updateStatus key status)
  | deleteLink (assetLinkId : String) :
    Effect (.deleteLink assetLinkId) ((fun _ => .done) <$> Links.deleteLink assetLinkId)
  | deleteAsset (key : AssetKey) : Effect (.deleteAsset key) (.count <$> Catalog.deleteAsset key)
  | deleteMetadata (assetLinkId metadataKey : String) :
    Effect (.deleteMetadata assetLinkId metadataKey)
      ((fun _ => .done) <$> Links.deleteMetadata assetLinkId metadataKey)

namespace Operation

variable {operation : Operation} {effect : Action Reply} {reply : Reply} {r r' : Registry}

/-- Without other requests, a success is the success of such a call on the same registry. -/
theorem exists_effect (h : operation.perform r = (.ok reply, r'))
    (once : (operation.refusal? r').isSome) :
    ∃ effect, operation.Effect effect ∧ effect.perform r = (.ok reply, r') := by
  cases operation <;> simp only [refusal?, Option.isSome_none, Option.isSome_some,
    Bool.false_eq_true] at once
  all_goals obtain ⟨answer, done, rfl⟩ := map_eq_ok.1 h
  -- Each check that was passed has left the registry as it was.
  case createDatabase request =>
    obtain ⟨_, _, passed, stored⟩ := bind_eq_ok.1 done
    obtain ⟨_, rfl⟩ := check_eq_ok.1 passed
    exact ⟨_, .createDatabase request, map_eq_ok.2 ⟨answer, stored, rfl⟩⟩
  case createAsset databaseId request =>
    obtain ⟨_, _, passed, lookup⟩ := bind_eq_ok.1 done
    obtain ⟨_, rfl⟩ := check_eq_ok.1 passed
    obtain ⟨_, _, found, stored⟩ := bind_eq_ok.1 lookup
    obtain ⟨_, _, rfl⟩ := Catalog.activeDatabase_eq_ok.1 found
    exact ⟨_, .createAsset databaseId request, map_eq_ok.2 ⟨answer, stored, rfl⟩⟩
  case createPipeline databaseId request =>
    obtain ⟨_, _, passed, lookup⟩ := bind_eq_ok.1 done
    obtain ⟨_, rfl⟩ := check_eq_ok.1 passed
    obtain ⟨_, _, found, stored⟩ := bind_eq_ok.1 lookup
    obtain ⟨_, _, rfl⟩ := Catalog.activeDatabase_eq_ok.1 found
    exact ⟨_, .createPipeline databaseId request, map_eq_ok.2 ⟨answer, stored, rfl⟩⟩
  case createWorkflow databaseId request =>
    obtain ⟨_, _, passed, lookup⟩ := bind_eq_ok.1 done
    obtain ⟨_, rfl⟩ := check_eq_ok.1 passed
    obtain ⟨_, _, found, steps⟩ := bind_eq_ok.1 lookup
    obtain ⟨_, _, rfl⟩ := Catalog.activeDatabase_eq_ok.1 found
    obtain ⟨_, _, checked, stored⟩ := bind_eq_ok.1 steps
    obtain rfl := (Catalog.reads_checkSteps _ _).eq checked
    exact ⟨_, .createWorkflow databaseId request, map_eq_ok.2 ⟨answer, stored, rfl⟩⟩
  case createMetadata row =>
    obtain ⟨_, _, found, fields⟩ := bind_eq_ok.1 done
    obtain ⟨_, _, rfl⟩ := Links.getLink_eq_ok.1 found
    obtain ⟨_, _, passed, stored⟩ := bind_eq_ok.1 fields
    obtain ⟨_, rfl⟩ := check_eq_ok.1 passed
    exact ⟨_, .createMetadata row, map_eq_ok.2 ⟨answer, stored, rfl⟩⟩
  case createLink request =>
    obtain ⟨_, _, passed, ends⟩ := bind_eq_ok.1 done
    obtain ⟨_, rfl⟩ := check_eq_ok.1 passed
    obtain ⟨_, _, source, otherEnd⟩ := bind_eq_ok.1 ends
    obtain ⟨_, _, rfl⟩ := Links.requireEnd_eq_ok.1 source
    obtain ⟨_, _, target, stored⟩ := bind_eq_ok.1 otherEnd
    obtain ⟨_, _, rfl⟩ := Links.requireEnd_eq_ok.1 target
    exact ⟨_, .createLink request, map_eq_ok.2 ⟨answer, stored, rfl⟩⟩
  case startExecution request =>
    obtain ⟨asset, _, found, lookup⟩ := bind_eq_ok.1 done
    obtain ⟨_, there, rfl⟩ := Executions.activeAsset_eq_ok.1 found
    obtain ⟨workflow, _, resolved, steps⟩ := bind_eq_ok.1 lookup
    obtain ⟨_, visible, rfl⟩ := Catalog.getWorkflow_eq_ok.1 resolved
    obtain ⟨_, _, checked, count⟩ := bind_eq_ok.1 steps
    obtain rfl := (Reads.forM Executions.reads_requireEnabled _).eq checked
    obtain ⟨_, _, counted, stored⟩ := bind_eq_ok.1 count
    obtain ⟨_, _, rfl⟩ := Executions.requireIdle_eq_ok.1 counted
    rw [Store.key_of_activeAsset? there] at stored
    have named := Store.workflowId_of_visibleWorkflow? visible
    exact ⟨_, .startExecution request named, map_eq_ok.2 ⟨answer, stored, rfl⟩⟩
  case updateExecutionStatus key status => exact ⟨_, .updateExecutionStatus key status, h⟩
  case deleteLink assetLinkId => exact ⟨_, .deleteLink assetLinkId, h⟩
  case deleteAsset key => exact ⟨_, .deleteAsset key, h⟩
  case deleteMetadata assetLinkId metadataKey =>
    exact ⟨_, .deleteMetadata assetLinkId metadataKey, h⟩

/-- A registry on which no request for an operation can take effect any more. -/
def Spent (operation : Operation) (r : Registry) : Prop :=
  ∀ effect, operation.Effect effect → ∀ time,
    ∃ e, effect.perform (r.atTime time) = (.error e, r.atTime time)

end Operation

/-! ### A call that has taken effect is refused -/

section Again

variable {r r' : Registry}

/-- After a database was stored, a second one is refused by the store. -/
theorem Catalog.storeDatabase_again {request : NewDatabase} {row : Database}
    (h : (storeDatabase request).perform r = (.ok row, r')) (time : Nat) :
    (storeDatabase request).perform (r'.atTime time) =
      (.error (.alreadyExists (.database request.databaseId)), r'.atTime time) := by
  simp only [storeDatabase, bind_eq_ok, get_eq_ok, execute_eq_ok] at h
  obtain ⟨_, _, ⟨rfl, rfl⟩, ready, s, ran, rfl⟩ := h
  have ready' : ((r.wrote s).atTime time).access = .ready := ready
  exact perform_storeDatabase_of_taken ready' (Store.isSome_database?_of_insertDatabase ran)

/-- After an asset was stored, a second one is refused by the store. -/
theorem Catalog.storeAsset_again {databaseId : String} {request : NewAsset} {row : Asset}
    (h : (storeAsset databaseId request).perform r = (.ok row, r')) (time : Nat) :
    (storeAsset databaseId request).perform (r'.atTime time) =
      (.error (.alreadyExists (.asset ⟨databaseId, request.assetId⟩)), r'.atTime time) := by
  simp only [storeAsset, bind_eq_ok, get_eq_ok, execute_eq_ok] at h
  obtain ⟨_, _, ⟨rfl, rfl⟩, ready, s, ran, rfl⟩ := h
  have ready' : ((r.wrote s).atTime time).access = .ready := ready
  exact perform_storeAsset_of_taken ready' (Store.isSome_asset?_of_insertAsset ran)

/-- After a pipeline was stored, a second one is refused by the store. -/
theorem Catalog.storePipeline_again {databaseId : String} {request : NewPipeline} {row : Pipeline}
    (h : (storePipeline databaseId request).perform r = (.ok row, r')) (time : Nat) :
    (storePipeline databaseId request).perform (r'.atTime time) =
      (.error (.alreadyExists (.pipeline ⟨databaseId, request.pipelineId⟩)), r'.atTime time) := by
  simp only [storePipeline, bind_eq_ok, get_eq_ok, execute_eq_ok] at h
  obtain ⟨_, _, ⟨rfl, rfl⟩, ready, s, ran, rfl⟩ := h
  have ready' : ((r.wrote s).atTime time).access = .ready := ready
  exact perform_storePipeline_of_taken ready' (Store.isSome_pipeline?_of_insertPipeline ran)

/-- After a workflow was stored, a second one is refused by the store. -/
theorem Catalog.storeWorkflow_again {databaseId : String} {request : NewWorkflow} {row : Workflow}
    (h : (storeWorkflow databaseId request).perform r = (.ok row, r')) (time : Nat) :
    (storeWorkflow databaseId request).perform (r'.atTime time) =
      (.error (.alreadyExists (.workflow ⟨databaseId, request.workflowId⟩)), r'.atTime time) := by
  simp only [storeWorkflow, bind_eq_ok, get_eq_ok, execute_eq_ok] at h
  obtain ⟨_, _, ⟨rfl, rfl⟩, ready, s, ran, rfl⟩ := h
  have ready' : ((r.wrote s).atTime time).access = .ready := ready
  exact perform_storeWorkflow_of_taken ready' (Store.isSome_workflow?_of_insertWorkflow ran)

/-- After metadata was stored, a second value is refused by the store. -/
theorem Links.storeMetadata_again {row row' : LinkMetadata}
    (h : (storeMetadata row).perform r = (.ok row', r')) (time : Nat) :
    (storeMetadata row).perform (r'.atTime time) =
      (.error (.duplicateMetadataKey row.metadataKey), r'.atTime time) := by
  simp only [storeMetadata, bind_eq_ok, execute_eq_ok, pure_eq_ok] at h
  obtain ⟨_, _, ⟨ready, s, ran, rfl⟩, rfl, rfl⟩ := h
  have ready' : ((r.wrote s).atTime time).access = .ready := ready
  exact perform_storeMetadata_of_taken ready' (Store.isSome_metadata?_of_insertMetadata ran)

/-- After a link was stored, its repetition is refused by the checks from the counts on. -/
theorem Links.storeAdmitted_again {request : NewAssetLink} {l : AssetLink}
    (h : (storeAdmitted request).perform r = (.ok l, r')) (time : Nat) :
    (storeAdmitted request).perform (r'.atTime time) =
      (.error (refusalAgain request (r'.atTime time)), r'.atTime time) := by
  simp only [storeAdmitted, storeLink, bind_eq_ok, requireCapacity_eq_ok, requireAdmissible_eq_ok,
    get_eq_ok, execute_eq_ok, modify_eq_ok, pure_eq_ok] at h
  obtain ⟨_, _, ⟨ready, _, rfl⟩, _, _, ⟨_, _, rfl⟩, _, _, ⟨_, _, rfl⟩, _, _, ⟨rfl, rfl⟩, _, _,
    ⟨_, s, ran, rfl⟩, _, _, rfl, rfl, rfl⟩ := h
  refine perform_storeAdmitted_of_stored ?_ (Store.mem_linksBetween_of_insertLink ran) rfl
  exact ready

/-- After an asset was deleted, it is not found. -/
theorem Catalog.deleteAsset_again {key : AssetKey} {number : Nat}
    (h : (deleteAsset key).perform r = (.ok number, r')) (time : Nat) :
    (deleteAsset key).perform (r'.atTime time) =
      (.error (.notFound (.asset key)), r'.atTime time) := by
  obtain ⟨ready, s, ran, rfl⟩ := execute_eq_ok.1 h
  have ready' : ((r.wrote s).atTime time).access = .ready := ready
  exact perform_deleteAsset_of_missing ready' (Store.asset?_of_deleteAssetCascade ran)

/-- After a link was deleted, it is not found. -/
theorem Links.deleteLink_again {assetLinkId : String} {u : Unit}
    (h : (deleteLink assetLinkId).perform r = (.ok u, r')) (time : Nat) :
    (deleteLink assetLinkId).perform (r'.atTime time) =
      (.error (.notFound (.assetLink assetLinkId)), r'.atTime time) := by
  simp only [deleteLink, bind_eq_ok, execute_eq_ok, pure_eq_ok] at h
  obtain ⟨_, _, ⟨ready, s, ran, rfl⟩, _, rfl⟩ := h
  have ready' : ((r.wrote s).atTime time).access = .ready := ready
  exact perform_deleteLink_of_missing ready' (Store.link?_of_deleteLinkCascade ran)

/-- After metadata was deleted, it is not found. -/
theorem Links.deleteMetadata_again {assetLinkId metadataKey : String} {u : Unit}
    (h : (deleteMetadata assetLinkId metadataKey).perform r = (.ok u, r')) (time : Nat) :
    (deleteMetadata assetLinkId metadataKey).perform (r'.atTime time) =
      (.error (.notFound (.metadata assetLinkId metadataKey)), r'.atTime time) := by
  obtain ⟨ready, s, ran, rfl⟩ := execute_eq_ok.1 h
  have ready' : ((r.wrote s).atTime time).access = .ready := ready
  exact perform_deleteMetadata_of_missing ready' (Store.metadata?_of_deleteMetadata ran)

/-- The id of the workflow decides, wherever it is stored. -/
theorem Executions.storeExecution_again {workflow workflow' : WorkflowKey} {asset : AssetKey}
    {row : Execution} (h : (storeExecution workflow asset).perform r = (.ok row, r'))
    (named : workflow'.workflowId = workflow.workflowId) (time : Nat) :
    (storeExecution workflow' asset).perform (r'.atTime time) =
      (.error .executionAlreadyRunning, r'.atTime time) := by
  simp only [storeExecution, bind_eq_ok, get_eq_ok, execute_eq_ok, modify_eq_ok, pure_eq_ok] at h
  obtain ⟨_, _, ⟨rfl, rfl⟩, _, _, ⟨rfl, rfl⟩, _, _, ⟨ready, s, ran, rfl⟩, _, _, rfl, rfl, rfl⟩ := h
  have running := Store.runningCount_pos_of_insertExecution ran
  refine perform_storeExecution_of_running ?_ ?_
  · exact ready
  · rw [named]
    exact running

/-- After an execution has ended, another end of it is refused. -/
theorem Executions.exists_updateStatus_again {key : ExecutionKey} {status : ExecutionStatus}
    {reply : Reply}
    (h : (Operation.updateExecutionStatus key status).perform r = (.ok reply, r')) (time : Nat) :
    ∃ e, (updateStatus key status).perform (r'.atTime time) = (.error e, r'.atTime time) := by
  obtain ⟨ready, step⟩ := Operation.ready_and_step_of_perform rfl h time
  cases step
  case updateExecutionStatus _ terminal ran =>
    have settled := Store.not_running_of_finishExecution terminal ran
    rw [perform_updateStatus_of_not_running ready settled, perform_refuseStatus ready]
    split
    · exact ⟨_, rfl⟩
    · exact ⟨_, rfl⟩
  case read reads => exact nomatch reads

end Again

namespace Operation

variable {operation : Operation} {effect : Action Reply} {reply : Reply} {r r' : Registry}

/-- A registry on which an operation has taken effect is spent for it. -/
theorem Effect.spent (takes : operation.Effect effect) (h : effect.perform r = (.ok reply, r')) :
    operation.Spent r' := by
  intro effect' takes' time
  -- The other request may take effect through another call only if it starts an execution.
  cases takes with
  | createDatabase =>
    cases takes'
    obtain ⟨_, done, _⟩ := map_eq_ok.1 h
    exact ⟨_, perform_map_of_error (Catalog.storeDatabase_again done time) _⟩
  | createAsset =>
    cases takes'
    obtain ⟨_, done, _⟩ := map_eq_ok.1 h
    exact ⟨_, perform_map_of_error (Catalog.storeAsset_again done time) _⟩
  | createPipeline =>
    cases takes'
    obtain ⟨_, done, _⟩ := map_eq_ok.1 h
    exact ⟨_, perform_map_of_error (Catalog.storePipeline_again done time) _⟩
  | createWorkflow =>
    cases takes'
    obtain ⟨_, done, _⟩ := map_eq_ok.1 h
    exact ⟨_, perform_map_of_error (Catalog.storeWorkflow_again done time) _⟩
  | createMetadata =>
    cases takes'
    obtain ⟨_, done, _⟩ := map_eq_ok.1 h
    exact ⟨_, perform_map_of_error (Links.storeMetadata_again done time) _⟩
  | createLink =>
    cases takes'
    obtain ⟨_, done, _⟩ := map_eq_ok.1 h
    exact ⟨_, perform_map_of_error (Links.storeAdmitted_again done time) _⟩
  | startExecution _ named =>
    cases takes'
    case startExecution named' =>
    obtain ⟨_, done, _⟩ := map_eq_ok.1 h
    have sameId := named'.trans named.symm
    exact ⟨_, perform_map_of_error (Executions.storeExecution_again done sameId time) _⟩
  | updateExecutionStatus =>
    cases takes'
    obtain ⟨e, refused⟩ := Executions.exists_updateStatus_again h time
    exact ⟨e, perform_map_of_error refused _⟩
  | deleteLink =>
    cases takes'
    obtain ⟨_, done, _⟩ := map_eq_ok.1 h
    exact ⟨_, perform_map_of_error (Links.deleteLink_again done time) _⟩
  | deleteAsset =>
    cases takes'
    obtain ⟨_, done, _⟩ := map_eq_ok.1 h
    exact ⟨_, perform_map_of_error (Catalog.deleteAsset_again done time) _⟩
  | deleteMetadata =>
    cases takes'
    obtain ⟨_, done, _⟩ := map_eq_ok.1 h
    exact ⟨_, perform_map_of_error (Links.deleteMetadata_again done time) _⟩

end Operation

/-! ### Crowds -/

/-- A registry with requests for one operation: how many of them have no answer yet, and the
    answers that were given. -/
structure Crowd where
  registry : Registry
  pending : Nat
  answers : List (Except RegistryError Reply)

namespace Crowd

/-- What can happen next: the checks of a request refuse it, for whatever reason, or a
    request takes effect or fails to, or the clock goes on.  That a request passes its checks
    changes nothing. -/
inductive Next (operation : Operation) : Crowd → Crowd → Prop where
  | refuse {r : Registry} {pending : Nat} {answers : List (Except RegistryError Reply)}
      (e : RegistryError) :
    Next operation ⟨r, pending + 1, answers⟩ ⟨r, pending, .error e :: answers⟩
  | act {r : Registry} {pending : Nat} {answers : List (Except RegistryError Reply)}
      {effect : Action Reply} (takes : operation.Effect effect) :
    Next operation ⟨r, pending + 1, answers⟩
      ⟨(effect.perform r).2, pending, (effect.perform r).1 :: answers⟩
  | tick {r : Registry} {pending : Nat} {answers : List (Except RegistryError Reply)} :
    Next operation ⟨r, pending, answers⟩ ⟨r.tick, pending, answers⟩

/-- A crowd comes to another one by any number of events. -/
def LeadsTo (operation : Operation) : Crowd → Crowd → Prop :=
  ReflTransGen (Next operation)

variable {operation : Operation} {c c' : Crowd}

/-- A request that would succeed alone succeeds in a crowd if it is the first to take
    effect. -/
theorem leadsTo_winner {reply : Reply} {r r' : Registry}
    (h : operation.perform r = (.ok reply, r')) (once : (operation.refusal? r').isSome)
    (n : Nat) : LeadsTo operation ⟨r, n + 1, []⟩ ⟨r', n, [.ok reply]⟩ := by
  obtain ⟨effect, takes, done⟩ := Operation.exists_effect h once
  have first : Next operation ⟨r, n + 1, []⟩ ⟨(effect.perform r).2, n, [(effect.perform r).1]⟩ :=
    .act takes
  rw [done] at first
  exact .single first

/-- No request has succeeded, or one has and no other one can. -/
def HasOneWinner (operation : Operation) (c : Crowd) : Prop :=
  Batch.successes c.answers = 0 ∨
    (Batch.successes c.answers = 1 ∧ operation.Spent c.registry)

/-- Whichever copy goes on, there is no second winner. -/
theorem HasOneWinner.next (inv : c.HasOneWinner operation) (next : Next operation c c') :
    c'.HasOneWinner operation := by
  cases next with
  | refuse e =>
    -- One more failure is counted nowhere.
    simpa [HasOneWinner, Batch.successes, Except.isOk, Except.toBool] using inv
  | tick =>
    -- What is refused at every time is refused later, too.
    rcases inv with none | ⟨one, spent⟩
    · exact .inl none
    · exact .inr ⟨one, spent⟩
  | @act r pending answers effect takes =>
    rcases inv with none | ⟨one, spent⟩
    · rcases h : effect.perform r with ⟨e | reply, r'⟩
      · left
        simpa [Batch.successes, Except.isOk, Except.toBool] using none
      · -- The first success spends the registry.
        right
        refine ⟨?_, takes.spent h⟩
        simpa [Batch.successes, Except.isOk, Except.toBool] using none
    · obtain ⟨e, refused⟩ := spent effect takes r.operation
      have refused' : effect.perform r = (.error e, r) := refused
      right
      rw [refused']
      exact ⟨by simpa [Batch.successes, Except.isOk, Except.toBool] using one, spent⟩

/-- However the requests of a crowd run into each other, there is one success at most. -/
theorem LeadsTo.hasOneWinner (leads : LeadsTo operation c c')
    (start : c.HasOneWinner operation) : c'.HasOneWinner operation := by
  induction leads with
  | refl => exact start
  | tail _ next ih => exact ih.next next

end Crowd

/-! ### Batches -/

namespace Batch

variable {operation : Operation} {r : Registry}

/-- What is refused without an effect is refused as often as it comes. -/
theorem performAll_replicate_of_error {e : RegistryError}
    (refused : operation.perform r = (.error e, r)) (n : Nat) :
    performAll (List.replicate n operation) r = (List.replicate n (.error e), r) := by
  induction n with
  | zero => rfl
  | succ n ih =>
    rw [List.replicate_succ, performAll, refused]
    show (_ :: (performAll _ r).1, (performAll _ r).2) = _
    rw [ih, List.replicate_succ]

end Batch

/-- An operation that has just succeeded comes again, at whatever time.  One that creates,
    deletes or ends something is refused for the reason that is given for it
    (`Operation.refusal?`), and the registry stays as it is; so of any number that come in
    turn the first one succeeds and no other does, and of any number that are under way at the
    same time exactly one does, once any of them has.  One that sets something to a value has
    the same answer, and the store stays as it is.  The keys of executions are distinct in
    every store (`Registry.SharedReachable.nodup_executionKeys`). -/
theorem operation_repeated {operation : Operation} {reply : Reply} {r r' : Registry}
    (distinct : r.store.executionKeys.Nodup) (h : operation.perform r = (.ok reply, r')) :
    (∀ e, operation.refusal? r' = some e →
      (∀ time, operation.perform (r'.atTime time) = (.error e, r'.atTime time)) ∧
      (∀ n, Batch.performAll (List.replicate (n + 1) operation) r =
        (.ok reply :: List.replicate n (.error e), r')) ∧
      (∀ n, Crowd.LeadsTo operation ⟨r, n + 1, []⟩ ⟨r', n, [.ok reply]⟩) ∧
      ∀ n crowd, Crowd.LeadsTo operation ⟨r, n, []⟩ crowd →
        (∃ answer, .ok answer ∈ crowd.answers) → Batch.successes crowd.answers = 1) ∧
    (operation.isSetting → ∀ time, ∃ r'',
      operation.perform (r'.atTime time) = (.ok reply, r'') ∧ r''.store = r'.store) := by
  refine ⟨?_, Operation.set_again h⟩
  intro e refusal
  have winner := Crowd.leadsTo_winner h (Option.isSome_of_eq_some refusal)
  refine ⟨Operation.refused_again distinct h refusal, ?_, winner, ?_⟩
  · -- In turn: each one after the first meets the registry that the first has left.
    intro n
    have refused : operation.perform r' = (.error e, r') :=
      Operation.refused_again distinct h refusal r'.operation
    rw [List.replicate_succ, Batch.performAll, h]
    show (_ :: (Batch.performAll _ r').1, (Batch.performAll _ r').2) = _
    rw [Batch.performAll_replicate_of_error refused]
  · -- At the same time: the invariant allows one winner, and there is one.
    rintro n crowd leads ⟨answer, member⟩
    have some : 0 < Batch.successes crowd.answers := List.countP_pos_iff.2 ⟨_, member, rfl⟩
    rcases leads.hasOneWinner (.inl rfl) with none | ⟨one, _⟩
    · rw [none] at some
      exact absurd some (Nat.lt_irrefl 0)
    · exact one

namespace Registry

/-- A link that fills up the hall of a plant. -/
def fillingLink : Operation :=
  .createLink ⟨"plant", "hall", "plant", "motor", .related, none, []⟩

/-- The plant with its hall filled up. -/
def fullPlant : Registry :=
  (fillingLink.perform plant).2

end Registry

/-- Of any number of requests for the link that fills up the hall the first one succeeds. -/
theorem operation_repeated_plant :
    ∃ reply, ∀ n,
      Batch.performAll (List.replicate (n + 1) Registry.fillingLink) Registry.plant =
        (.ok reply :: List.replicate n (.error (.linkLimitExceeded ⟨"plant", "hall"⟩ 3)),
          Registry.fullPlant) := by
  have created : (Registry.fillingLink.perform Registry.plant).1.isOk := by decide +kernel
  cases outcome : (Registry.fillingLink.perform Registry.plant).1 with
  | error e =>
    rw [outcome] at created
    exact nomatch created
  | ok reply =>
    have h : Registry.fillingLink.perform Registry.plant = (.ok reply, Registry.fullPlant) :=
      Prod.ext outcome rfl
    have refusal : Registry.fillingLink.refusal? Registry.fullPlant =
        some (.linkLimitExceeded ⟨"plant", "hall"⟩ 3) := by
      decide +kernel
    have distinct : Registry.plant.store.executionKeys.Nodup :=
      Registry.reachable_plant.shared.nodup_executionKeys
    exact ⟨reply, ((operation_repeated distinct h).1 _ refusal).2.1⟩

end AssetRegistry
