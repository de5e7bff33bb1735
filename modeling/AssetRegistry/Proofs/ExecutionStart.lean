import AssetRegistry.Proofs.Refusals
import AssetRegistry.Proofs.Repetition
import AssetRegistry.Proofs.StoreFailure

/-!
# Why an execution is not started

A request to run a workflow is refused for the first condition of `StartExecution.refusals`
that holds.  The conditions speak of one workflow, the one that the request means, which is
looked up under two databases.  Where none of them holds, one running execution of it is
stored, under an id that no execution of the run has had.
-/

namespace AssetRegistry

open AssetRegistry.Action

/-! ### The conditions -/

namespace StartExecution

variable (request : StartExecution)

/-- The asset to run a workflow on. -/
def asset : AssetKey :=
  ⟨request.databaseId, request.assetId⟩

/-- The workflow that a request means: the one that is not archived under the named database,
    or under that of the asset if none is named, or else the one under the reserved
    database. -/
def workflow? (s : Store) : Option Workflow :=
  s.visibleWorkflow? (request.workflowDatabaseId.getD request.databaseId) request.workflowId

/-- A step is refused where its pipeline is missing, disabled or archived. -/
def stepRefusal (s : Store) (step : PipelineRef) : Refusal where
  holds := ∀ p, s.pipeline? step = some p → p.enabled = false ∨ p.archived = true
  error := .pipelineDisabled step

/-- Why a request is refused, in the order in which it counts.  Wherever the workflow of a
    running execution is stored, it is the id of the workflow that counts. -/
def refusals (s : Store) : List Refusal :=
  [⟨∀ a, s.asset? request.asset = some a → a.archived = true, .notFound (.asset request.asset)⟩,
    ⟨request.workflow? s = none, .notFound (.visibleWorkflow request.workflowId)⟩] ++
  ((request.workflow? s).elim [] (·.pipelines)).map (stepRefusal s) ++
  [⟨∃ e ∈ s.executions, e.status = .running ∧ e.databaseId = request.databaseId ∧
      e.assetId = request.assetId ∧ e.workflowId = request.workflowId, .executionAlreadyRunning⟩]

end StartExecution

/-- An execution is counted as running on an asset by the id of its workflow alone. -/
theorem Store.runningCount_pos_iff {s : Store} {asset : AssetKey} {workflowId : String} :
    0 < s.runningCount asset workflowId ↔ ∃ e ∈ s.executions, e.status = .running ∧
      e.databaseId = asset.databaseId ∧ e.assetId = asset.assetId ∧ e.workflowId = workflowId := by
  simp only [runningCount, List.countP_pos_iff, Execution.isOn, Bool.and_eq_true,
    decide_eq_true_eq]
  apply exists_congr
  intro e
  apply and_congr_right
  intro _
  rw [and_comm, and_assoc]

namespace Executions

variable {r : Registry} {request : StartExecution}

/-- An asset is refused if it is not stored, or archived. -/
theorem checks_activeAsset (ready : r.access = .ready) (key : AssetKey) :
    Checks [⟨∀ a, r.store.asset? key = some a → a.archived = true, .notFound (.asset key)⟩]
      (activeAsset key) r := by
  have performed : (activeAsset key).perform r =
      (match r.store.activeAsset? key with
        | some a => .ok a
        | none => .error (.notFound (.asset key)), r) := by
    rw [activeAsset, perform_query_bind ready]
    cases r.store.activeAsset? key <;> rfl
  refine .of_perform performed ⟨?_, ?_⟩
  · intro absent
    have none : r.store.activeAsset? key = none := by
      simpa [Store.activeAsset?, Option.filter_eq_none_iff] using absent
    rw [none]
  · intro present
    cases found : r.store.activeAsset? key with
    | some a => exact ⟨a, rfl⟩
    | none =>
      refine absurd ?_ present
      simpa [Store.activeAsset?, Option.filter_eq_none_iff] using found

/-- A workflow is refused if none of its id is visible from the database. -/
theorem checks_getWorkflow (ready : r.access = .ready) (databaseId workflowId : String) :
    Checks [⟨r.store.visibleWorkflow? databaseId workflowId = none,
        .notFound (.visibleWorkflow workflowId)⟩]
      (Catalog.getWorkflow databaseId workflowId) r := by
  refine .of_perform (Catalog.perform_getWorkflow ready _ _) ⟨?_, ?_⟩
  · intro none
    rw [none]
  · intro some
    obtain ⟨w, found⟩ := Option.ne_none_iff_exists'.1 some
    exact ⟨w, by rw [found]⟩

/-- A step is refused if its pipeline is not active, or not enabled. -/
theorem checks_requireEnabled (ready : r.access = .ready) (step : PipelineRef) :
    Checks [StartExecution.stepRefusal r.store step] (requireEnabled step) r := by
  refine .query_ite ready ?_
  simp only [Bool.not_eq_true', Option.any_eq_false, Bool.and_eq_false_iff, Bool.not_eq_false']

/-- A start is refused if the asset runs a workflow of the same id. -/
theorem checks_requireIdle (ready : r.access = .ready) (asset : AssetKey) (workflowId : String) :
    Checks [⟨∃ e ∈ r.store.executions, e.status = .running ∧ e.databaseId = asset.databaseId ∧
        e.assetId = asset.assetId ∧ e.workflowId = workflowId, .executionAlreadyRunning⟩]
      (requireIdle asset workflowId) r :=
  .query_ite ready Store.runningCount_pos_iff

/-- What a start checks before it stores an execution, with the asset and the workflow that it
    finds. -/
def admission (request : StartExecution) : Action (Asset × Workflow) := do
  let asset ← activeAsset ⟨request.databaseId, request.assetId⟩
  let workflow ← Catalog.getWorkflow (request.workflowDatabaseId.getD asset.databaseId)
    request.workflowId
  workflow.pipelines.forM requireEnabled
  requireIdle asset.key workflow.workflowId
  return (asset, workflow)

/-- An execution is started by being admitted and then stored. -/
theorem startExecution_eq (request : StartExecution) :
    startExecution request =
      admission request >>= fun (asset, workflow) => storeExecution workflow.key asset.key := by
  simp only [startExecution, admission, bind_assoc, pure_bind]

/-- A start is admitted where none of the refusals holds. -/
theorem checks_admission (ready : r.access = .ready) :
    Checks (request.refusals r.store) (admission request) r := by
  show Checks ([_] ++ ([_] ++ (_ ++ [_]))) _ r
  apply (checks_activeAsset ready request.asset).bind
  intro a found
  have same : a.key = request.asset :=
    Store.key_of_activeAsset? (activeAsset_eq_ok.1 found).2.1
  have database : a.databaseId = request.databaseId := congrArg AssetKey.databaseId same
  rw [database]
  apply (checks_getWorkflow ready _ _).bind
  intro w visible
  -- The conditions on the steps are about the workflow that was found.
  have workflow : request.workflow? r.store = some w := (Catalog.getWorkflow_eq_ok.1 visible).2.1
  have named : w.workflowId = request.workflowId := Store.workflowId_of_visibleWorkflow? workflow
  rw [workflow, same, named]
  have checksSteps := Checks.forM fun step (_ : step ∈ w.pipelines) =>
    checks_requireEnabled ready step
  apply checksSteps.bind
  intro _ _
  apply (checks_requireIdle ready request.asset request.workflowId).bind
  intro _ _
  exact ⟨rfl, _, rfl⟩

/-- The asset and the workflow that were found are those of the request, and the workflow id is
    idle on the asset. -/
theorem admission_eq_ok {a : Asset} {w : Workflow} {r' : Registry}
    (h : (admission request).perform r = (.ok (a, w), r')) :
    a.key = request.asset ∧ request.workflow? r.store = some w ∧
      r.store.runningCount a.key w.workflowId = 0 := by
  simp only [admission, bind_eq_ok, activeAsset_eq_ok, Catalog.getWorkflow_eq_ok,
    requireIdle_eq_ok, pure_eq_ok, Prod.mk.injEq] at h
  obtain ⟨asset, _, ⟨_, there, rfl⟩, workflow, _, ⟨_, visible, rfl⟩, _, _, checked, _, _,
    ⟨_, idle, rfl⟩, ⟨rfl, rfl⟩, _⟩ := h
  -- The steps were looked up in the registry that the executions were then counted in.
  have unchanged := (Reads.forM reads_requireEnabled _).eq checked
  subst unchanged
  have same := Store.key_of_activeAsset? there
  have database : asset.databaseId = request.databaseId := congrArg AssetKey.databaseId same
  rw [database] at visible
  exact ⟨same, visible, idle⟩

/-- What a start stores. -/
theorem perform_storeExecution_of_free (ready : r.access = .ready) {workflow : WorkflowKey}
    {asset : AssetKey} (free : r.store.execution? (r.nextExecutionKey workflow) = none)
    (idle : r.store.runningCount asset workflow.workflowId = 0) :
    (storeExecution workflow asset).perform r =
      (.ok (Store.newExecution (r.nextExecutionKey workflow) asset r.now),
        { r.wrote { r.store with
            executions := r.store.executions ++
              [Store.newExecution (r.nextExecutionKey workflow) asset r.now] } with
          executionsMade := r.executionsMade + 1 }) := by
  have ran : r.execute (Store.insertExecution (r.nextExecutionKey workflow) asset r.now) = _ :=
    Registry.execute_eq_ok.2 ⟨ready, _, Store.insertExecution_eq_ok.2 ⟨free, idle, rfl, rfl⟩, rfl⟩
  rw [perform_storeExecution, ran]
  rfl

end Executions

/-! ### The ids of executions -/

namespace Registry

/-- The id of the execution of a number. -/
def executionId (n : Nat) : String :=
  "exec-" ++ toString n

/-- The executions that are stored have got the numbers that were given out. -/
def NumbersExecutions (r : Registry) : Prop :=
  ∀ e ∈ r.store.executions, ∃ n ≤ r.executionsMade, e.executionId = executionId n

/-- The next number is larger than that of every stored execution. -/
theorem NumbersExecutions.ne_nextExecutionId {r : Registry} (numbers : r.NumbersExecutions) :
    ∀ e ∈ r.store.executions, e.executionId ≠ r.nextExecutionId := by
  intro e member same
  obtain ⟨n, le, named⟩ := numbers e member
  have next : n = r.executionsMade + 1 := append_toString_injective (named ▸ same)
  omega

end Registry

namespace Operation.Step

variable {operation : Operation} {reply : Reply} {r r' : Registry}

/-- No number is taken back. -/
theorem executionsMade_le (step : Step r operation reply r') :
    r.executionsMade ≤ r'.executionsMade := by
  cases step <;> simp [Registry.wrote]

/-- A new execution gets the next number, and no number is given out again. -/
theorem numbersExecutions (step : Step r operation reply r') (numbers : r.NumbersExecutions) :
    r'.NumbersExecutions := by
  have frame := step.agreesBut
  have grows := step.executionsMade_le
  have kept : ∀ e ∈ r.store.executions,
      ∃ n ≤ r'.executionsMade, e.executionId = Registry.executionId n := by
    intro e there
    obtain ⟨n, le, named⟩ := numbers e there
    exact ⟨n, by omega, named⟩
  unfold Registry.NumbersExecutions
  cases step
  case read => exact numbers
  case startExecution ran =>
    obtain ⟨_, _, _, rfl⟩ := Store.insertExecution_eq_ok.1 ran
    exact Store.forall_mem_append_singleton kept ⟨r.executionsMade + 1, Nat.le_refl _, rfl⟩
  case updateExecutionStatus ran _ =>
    -- The status of an execution changes, and its id does not.
    obtain ⟨_, rfl⟩ := Store.finishExecution_eq_ok.1 ran
    exact Store.forall_mem_changeRows (fun _ h => h) kept
  all_goals
    rw [frame.executions (by simp [tables])]
    exact kept

end Operation.Step

/-- The ids of executions are numbers that were given out. -/
theorem Registry.Reachable.numbersExecutions {linkLimit : Nat} {r : Registry}
    (reachable : r.Reachable linkLimit) : r.NumbersExecutions := by
  apply LeadsTo.invariant (motive := NumbersExecutions) reachable
  · intro e member
    exact nomatch member
  · intro r inv
    exact inv
  · intro r operation reply r' step inv
    exact step.numbersExecutions inv

/-! ### Starts -/

/-- On any store, a request to run a workflow fails with the error of the first condition of
    `StartExecution.refusals` that holds: the asset is missing or archived, the workflow is
    neither under its database nor under the reserved one without being archived, the pipeline
    of a step, the first one in order, is missing, disabled or archived, or an execution of the
    workflow id is running on the asset.  Nothing changes then.  Where no condition holds and
    the next name is free, a running execution of that workflow on the asset is stored at the
    end, under the next name, and nothing else changes.  In a run the next name is the id of no
    execution. -/
theorem execution_refused_for_first_reason {r : Registry} (ready : r.access = .ready)
    (request : StartExecution) :
    (∀ e, Refusal.IsFirst (request.refusals r.store) e →
      (Operation.startExecution request).perform r = (.error e, r)) ∧
    ((∀ refusal ∈ request.refusals r.store, ¬ refusal.holds) →
      ∃ workflow, request.workflow? r.store = some workflow ∧
        (r.store.execution? (r.nextExecutionKey workflow.key) = none →
          let row : Execution :=
            { workflowDatabaseId := workflow.databaseId
              workflowId := workflow.workflowId
              executionId := r.nextExecutionId
              databaseId := request.databaseId
              assetId := request.assetId
              status := .running
              startedAt := r.now
              stoppedAt := none }
          (Operation.startExecution request).perform r =
            (.ok (.execution row),
              { r.wrote { r.store with executions := r.store.executions ++ [row] } with
                executionsMade := r.executionsMade + 1 }))) ∧
    ∀ linkLimit, r.Reachable linkLimit → ∀ e ∈ r.store.executions,
      e.executionId ≠ r.nextExecutionId := by
  have checks := @Executions.checks_admission r request ready
  refine ⟨?_, ?_, ?_⟩
  · -- The checks come first, and what fails them stores nothing.
    intro e first
    have refused := checks.perform_bind_of_isFirst first
      fun (asset, workflow) => Executions.storeExecution workflow.key asset.key
    rw [← Executions.startExecution_eq] at refused
    exact perform_map_of_error refused _
  · intro passed
    obtain ⟨⟨asset, workflow⟩, admitted⟩ := checks.exists_perform passed
    obtain ⟨same, meant, idle⟩ := Executions.admission_eq_ok admitted
    refine ⟨workflow, meant, ?_⟩
    intro free
    have stored := (perform_bind_of_ok admitted
      fun (asset, workflow) => Executions.storeExecution workflow.key asset.key).trans
        (Executions.perform_storeExecution_of_free ready free idle)
    rw [← Executions.startExecution_eq, same] at stored
    exact map_eq_ok.2 ⟨_, stored, rfl⟩
  · intro linkLimit reachable
    exact reachable.numbersExecutions.ne_nextExecutionId

namespace Registry

/-- A plant whose workflow is archived, with another one of the same id under the reserved
    database. -/
def sharedPlant : Registry :=
  (Batch.performAll
    [ .archiveWorkflow ⟨"plant", "preview"⟩,
      .createWorkflow globalDatabaseId
        { workflowId := "preview", pipelines := [⟨globalDatabaseId, "convert"⟩] } ] plant).2

/-- The plant with a shared workflow is come to by operations. -/
theorem reachable_sharedPlant : sharedPlant.Reachable 3 :=
  reachable_plant.trans (LeadsTo.performAll _ _)

/-- The workflow under the reserved database. -/
def sharedWorkflow : Workflow :=
  Catalog.newWorkflow globalDatabaseId
    { workflowId := "preview", pipelines := [⟨globalDatabaseId, "convert"⟩] } (.reading 0 13)

/-- The press is idle, and the pipeline of the workflow is enabled. -/
theorem not_holds_refusals_press :
    ∀ refusal ∈ StartExecution.refusals ⟨"plant", "press", "preview", none⟩ sharedPlant.store,
      ¬ refusal.holds := by
  have checks := @Executions.checks_admission sharedPlant
    ⟨"plant", "press", "preview", none⟩ reachable_sharedPlant.ready
  have admitted : ((Executions.admission ⟨"plant", "press", "preview", none⟩).perform
      sharedPlant).1 = .ok (Catalog.newAsset "plant"
        { assetId := "press", assetName := "Press" } (.reading 0 2), sharedWorkflow) := by
    decide +kernel
  exact checks.settle.exists_eq_ok_iff.1 ⟨_, admitted⟩

end Registry

open Registry in
/-- The first workflow is still running on the hall of the plant, so the other one of its id is
    refused there.  On the press it is started under an id that no execution has. -/
theorem execution_refused_for_first_reason_sharedPlant :
    Refusal.IsFirst (StartExecution.refusals ⟨"plant", "hall", "preview", none⟩ sharedPlant.store)
        .executionAlreadyRunning ∧
      (Operation.startExecution ⟨"plant", "hall", "preview", none⟩).perform sharedPlant =
        (.error .executionAlreadyRunning, sharedPlant) ∧
      ∃ row r, (Operation.startExecution ⟨"plant", "press", "preview", none⟩).perform
          sharedPlant = (.ok (.execution row), r) ∧
        row.key = ⟨globalDatabaseId, "preview", "exec-2"⟩ ∧ row.stoppedAt = none ∧
        r.store.executions = sharedPlant.store.executions ++ [row] ∧
        ∀ e ∈ sharedPlant.store.executions, e.executionId ≠ row.executionId := by
  have ready : sharedPlant.access = .ready := reachable_sharedPlant.ready
  have checks := @Executions.checks_admission sharedPlant ⟨"plant", "hall", "preview", none⟩ ready
  have first := checks.settle.isFirst_of_eq_error (e := .executionAlreadyRunning)
    (by decide +kernel)
  refine ⟨first, (execution_refused_for_first_reason ready _).1 _ first, ?_⟩
  obtain ⟨-, starts, fresh⟩ :=
    execution_refused_for_first_reason ready ⟨"plant", "press", "preview", none⟩
  obtain ⟨workflow, meant, started⟩ := starts not_holds_refusals_press
  have shared : StartExecution.workflow? ⟨"plant", "press", "preview", none⟩ sharedPlant.store =
      some sharedWorkflow := by
    decide +kernel
  obtain rfl := Option.some.inj (shared.symm.trans meant)
  exact ⟨_, _, started (by decide +kernel), by decide +kernel, rfl, rfl,
    fresh 3 reachable_sharedPlant⟩

end AssetRegistry
