import AssetRegistry.Proofs.Frame
import AssetRegistry.Proofs.Reachable
import AssetRegistry.Store.Call

/-!
# One running execution

Of the executions of a workflow id on an asset at most one is running.  It is the
unique index of running executions which sees to that whenever an execution is stored, so
it does not matter who runs the statement or what happened since somebody counted.  The
count that an operation makes first is of the rows in the index
(`Store.runningSlotIsTaken_newExecution`) and only comes to the same answer earlier.
-/

namespace AssetRegistry

/-! ### The place of the running execution -/

/-- A new execution is on the asset and of the workflow id that it was made for. -/
theorem Store.isOn_newExecution {key : ExecutionKey} {asset other : AssetKey}
    {startedAt : Moment} {workflowId : String} :
    (newExecution key asset startedAt).isOn other workflowId ↔
      asset = other ∧ key.workflowId = workflowId := by
  rw [Execution.isOn]
  simp only [Bool.and_eq_true, decide_eq_true_eq]
  cases asset
  cases other
  simp [newExecution]

namespace Store

variable {s s' : Store}

/-- Of the executions of a workflow id on an asset at most one is running. -/
def RunsAtMostOne (s : Store) : Prop :=
  ∀ asset workflowId, s.runningCount asset workflowId ≤ 1

/-- What leaves the executions alone leaves at most one running. -/
theorem RunsAtMostOne.of_executions_eq (single : s.RunsAtMostOne)
    (same : s'.executions = s.executions) : s'.RunsAtMostOne := by
  intro asset workflowId
  rw [runningCount, same]
  exact single asset workflowId

/-- A new execution is stored only where none is running. -/
theorem RunsAtMostOne.insertExecution (single : s.RunsAtMostOne) {key : ExecutionKey}
    {asset : AssetKey} {startedAt : Moment} {e : Execution}
    (ran : Store.insertExecution key asset startedAt s = .ok (e, s')) : s'.RunsAtMostOne := by
  obtain ⟨_, idle, _, rfl⟩ := insertExecution_eq_ok.1 ran
  intro other workflowId
  show (s.executions ++ [newExecution key asset startedAt]).countP
    (fun e => e.isOn other workflowId && e.status = .running) ≤ 1
  rw [List.countP_append, List.countP_singleton]
  by_cases here : (newExecution key asset startedAt).isOn other workflowId
  · -- The place of the new execution was free.
    obtain ⟨rfl, rfl⟩ := isOn_newExecution.1 here
    rw [runningCount] at idle
    rw [idle]
    split <;> omega
  · -- Every other place is as it was.
    have before := single other workflowId
    rw [runningCount] at before
    simpa [here] using before

/-- An execution that gets a status was running, so that no new one runs after it. -/
theorem RunsAtMostOne.finishExecution (single : s.RunsAtMostOne) {key : ExecutionKey}
    {status : ExecutionStatus} {stoppedAt : Option Moment}
    (ran : Store.finishExecution key status stoppedAt s = .ok ((), s')) : s'.RunsAtMostOne := by
  obtain ⟨_, rfl⟩ := finishExecution_eq_ok.1 ran
  intro asset workflowId
  refine Nat.le_trans ?_ (single asset workflowId)
  show (changeRows s.executions _ _).countP _ ≤ s.executions.countP _
  rw [changeRows, List.countP_map]
  -- What counts after the change counted before it: only running executions are changed.
  apply List.countP_mono_left
  intro e _ counted
  simp only [Function.comp_apply, Bool.and_eq_true, decide_eq_true_eq] at counted ⊢
  split at counted
  next chosen => exact ⟨counted.1, chosen.2⟩
  next => exact counted

end Store

/-! ### Runs -/

/-- An operation keeps to one running execution. -/
theorem Operation.Step.runsAtMostOne {operation : Operation} {reply : Reply} {r r' : Registry}
    (step : Step r operation reply r') (single : r.store.RunsAtMostOne) :
    r'.store.RunsAtMostOne := by
  have frame := step.agreesBut
  cases step
  case read => exact single
  case startExecution ran => exact single.insertExecution ran
  case updateExecutionStatus ran _ => exact single.finishExecution ran
  all_goals exact single.of_executions_eq (frame.executions (by simp [tables]))

/-- No call to the store itself gets past one running execution. -/
theorem StoreCall.runsAtMostOne (call : StoreCall) {r : Registry}
    (single : r.store.RunsAtMostOne) : (call.perform r).2.store.RunsAtMostOne := by
  have frame := call.perform_agreesBut r
  cases call
  case createExecution => exact Registry.execute_keeps single fun ran => single.insertExecution ran
  case finishExecution => exact Registry.execute_keeps single fun ran => single.finishExecution ran
  case prepare =>
    -- A store that is set up has no executions.
    show r.prepare.2.store.RunsAtMostOne
    unfold Registry.prepare
    cases r.access with
    | blank => exact fun _ _ => Nat.zero_le 1
    | ready => exact single
    | closed => exact single
  all_goals exact single.of_executions_eq (frame.executions (by simp [tables]))

namespace Registry

/-- What can happen next to a registry whose store is also used directly.  The statements
    of operations that run at the same time are calls here, in whatever order they come;
    what else there is to a registry may become anything in between. -/
inductive SharedNext (r : Registry) : Registry → Prop where
  | perform (operation : Operation) : SharedNext r (operation.perform r).2
  | call (call : StoreCall) : SharedNext r (call.perform r).2
  | elsewhere {r' : Registry} (same : r'.store = r.store) : SharedNext r r'

/-- A registry that a run with direct calls to its store comes to. -/
def SharedReachable (linkLimit : Nat) : Registry → Prop :=
  Relation.ReflTransGen SharedNext (fresh linkLimit)

/-- A run without direct calls is such a run as well. -/
theorem Reachable.shared {linkLimit : Nat} {r : Registry} (reachable : Reachable linkLimit r) :
    SharedReachable linkLimit r := by
  refine Relation.ReflTransGen.mono (fun _ _ next => ?_) _ _ reachable
  cases next with
  | perform operation => exact .perform operation
  | tick => exact .elsewhere rfl

/-- No run leaves two executions of a workflow id running on an asset. -/
theorem SharedReachable.runsAtMostOne {linkLimit : Nat} {r : Registry}
    (reachable : SharedReachable linkLimit r) : r.store.RunsAtMostOne := by
  induction reachable with
  | refl => exact fun _ _ => Nat.zero_le 1
  | tail _ next ih =>
    cases next with
    | perform operation =>
      rcases operation.perform_eq_or_step _ with unchanged | ⟨reply, step⟩
      · rw [unchanged]
        exact ih
      · exact step.runsAtMostOne ih
    | call call => exact call.runsAtMostOne ih
    | elsewhere same => exact ih.of_executions_eq (congrArg Store.executions same)

end Registry

/-! ### Counting first -/

/-- A statement is refused as the store refuses it, if the store can be reached. -/
theorem Registry.execute_eq_uniqueViolation {r : Registry} {statement : Statement α} :
    (r.execute statement).1 = .error .uniqueViolation ↔
      r.access = .ready ∧ statement r.store = .error .uniqueViolation := by
  unfold execute query
  cases r.access <;> try simp
  cases statement r.store <;> simp

namespace StoreCall

variable {r : Registry} {reply : α → StoreReply}

/-- A call passes on the refusal of its statement. -/
theorem write_eq_error {statement : Statement α} {e : StoreError} :
    (write statement reply r).1 = .error e ↔ (r.execute statement).1 = .error e := by
  show (r.execute statement).1.map reply = _ ↔ _
  cases (r.execute statement).1 <;> simp [Except.map]

/-- Under a free key the statement finds the place taken exactly where the count is
    positive. -/
theorem createExecution_refused_iff {key : ExecutionKey} {asset : AssetKey}
    (free : r.store.execution? key = none) :
    ((createExecution key asset).perform r).1 = .error .uniqueViolation ↔
      ∃ running, ((countRunning asset key.workflowId).perform r).1 = .ok (.count running) ∧
        0 < running := by
  simp only [perform, write_eq_error, read_eq_ok, Registry.execute_eq_uniqueViolation,
    Store.insertExecution_eq_uniqueViolation, StoreReply.count.injEq]
  constructor
  · rintro ⟨ready, taken | running⟩
    · simp [free] at taken
    · exact ⟨_, ⟨ready, rfl⟩, running⟩
  · rintro ⟨_, ⟨ready, rfl⟩, running⟩
    exact ⟨ready, .inr running⟩

end StoreCall

namespace Executions

/-- A start is refused where the asset runs a workflow of the same id. -/
theorem perform_requireIdle {r : Registry} (ready : r.access = .ready) (asset : AssetKey)
    (workflowId : String) :
    (requireIdle asset workflowId).perform r =
      (if 0 < r.store.runningCount asset workflowId then .error .executionAlreadyRunning
        else .ok (), r) := by
  rw [requireIdle, Action.perform_query_bind ready]
  split <;> rfl

/-- The statement alone decides about an execution, and a stored one is counted. -/
theorem perform_storeExecution (workflow : WorkflowKey) (asset : AssetKey) (r : Registry) :
    (storeExecution workflow asset).perform r =
      match r.execute (Store.insertExecution (r.nextExecutionKey workflow) asset r.now) with
      | (.ok e, r₁) => (.ok e, { r₁ with executionsMade := r₁.executionsMade + 1 })
      | (.error e, r₁) => (.error (alreadyRunning e), r₁) := by
  -- The name and the time are those of the registry that the action starts on.
  rw [storeExecution, Action.perform_get_bind, Action.perform_get_bind, Action.perform_bind,
    Action.perform_execute, Registry.nextExecutionKey]
  rcases r.execute _ with ⟨e | stored, r₁⟩
  · rfl
  · rfl

/-- Whoever leaves out the count gets the same answer from the statement, and leaves the
    same registry. -/
theorem perform_requireIdle_bind_storeExecution (workflow : WorkflowKey) (asset : AssetKey)
    (r : Registry) :
    (requireIdle asset workflow.workflowId >>= fun _ => storeExecution workflow asset).perform r =
      (storeExecution workflow asset).perform r := by
  rw [Action.perform_bind]
  by_cases ready : r.access = .ready
  · rw [perform_requireIdle ready]
    by_cases taken : 0 < r.store.runningCount asset workflow.workflowId
    · -- Both the count and the statement come upon the running execution.
      have refused :
          (r.execute (Store.insertExecution (r.nextExecutionKey workflow) asset r.now)).1 =
            .error .uniqueViolation :=
        Registry.execute_eq_uniqueViolation.2
          ⟨ready, Store.insertExecution_eq_uniqueViolation.2 (.inr taken)⟩
      rw [if_pos taken, perform_storeExecution]
      rcases h : r.execute (Store.insertExecution (r.nextExecutionKey workflow) asset r.now) with
        ⟨outcome, r₁⟩
      rw [h] at refused
      subst refused
      rw [Registry.eq_of_execute_eq_error h]
      rfl
    · rw [if_neg taken]
  · -- Neither of them gets at the store.
    rw [perform_storeExecution, Registry.execute_of_not_ready ready, requireIdle,
      Action.perform_bind, Action.perform_query, Registry.query_of_not_ready ready]
    rfl

end Executions

/-! ### What holds of every run -/

/-- Operations and calls to the store, in any order and at any limit of links, leave at most
    one execution of a workflow id running on an asset.  Counting the running ones first
    changes no answer: a call is refused exactly where the count is positive, and an
    operation without the count answers as the one with it. -/
theorem one_running_execution (linkLimit : Nat) :
    (∀ r : Registry, r.SharedReachable linkLimit → ∀ asset workflowId,
      r.store.runningCount asset workflowId ≤ 1) ∧
    (∀ (r : Registry) (key : ExecutionKey) (asset : AssetKey), r.store.execution? key = none →
      (((StoreCall.createExecution key asset).perform r).1 = .error .uniqueViolation ↔
        ∃ running, ((StoreCall.countRunning asset key.workflowId).perform r).1 =
          .ok (.count running) ∧ 0 < running)) ∧
    (∀ (r : Registry) (workflow : WorkflowKey) (asset : AssetKey),
      (Executions.requireIdle asset workflow.workflowId >>= fun _ =>
          Executions.storeExecution workflow asset).perform r =
        (Executions.storeExecution workflow asset).perform r) := by
  refine ⟨?_, ?_, ?_⟩
  · intro r reachable asset workflowId
    exact reachable.runsAtMostOne asset workflowId
  · intro r key asset free
    exact StoreCall.createExecution_refused_iff free
  · intro r workflow asset
    exact Executions.perform_requireIdle_bind_storeExecution workflow asset r

/-- In a plant, the hall is taken for the shared workflow that has the same id as its own
    one. -/
theorem one_running_execution_plant :
    Registry.plant.store.runningCount ⟨"plant", "hall"⟩ "preview" ≤ 1 ∧
      ((StoreCall.createExecution ⟨globalDatabaseId, "preview", "exec-2"⟩
        ⟨"plant", "hall"⟩).perform Registry.plant).1 = .error .uniqueViolation := by
  obtain ⟨single, refused_iff, _⟩ := one_running_execution 3
  have free : Registry.plant.store.execution? ⟨globalDatabaseId, "preview", "exec-2"⟩ = none := by
    decide +kernel
  have counted : ((StoreCall.countRunning ⟨"plant", "hall"⟩ "preview").perform Registry.plant).1 =
      .ok (.count 1) :=
    StoreCall.read_eq_ok.2
      ⟨Registry.reachable_plant.ready, congrArg StoreReply.count (by decide +kernel)⟩
  exact ⟨single _ Registry.reachable_plant.shared _ _,
    (refused_iff _ _ _ free).2 ⟨1, counted, Nat.one_pos⟩⟩

end AssetRegistry
