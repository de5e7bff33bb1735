import AssetRegistry.Proofs.Frame
import AssetRegistry.Proofs.StoreConsistent

/-!
# The life of an execution

An execution is stored as running and stays where it is.  The one thing that can become
of it is that it gets a terminal status together with the time at which it stopped, and
then it is as it will always be.  Who asks for a status is told apart by what is stored
under the key: nothing, an execution that has ended, or one that runs.
-/

namespace AssetRegistry

/-- Every status but one is terminal. -/
theorem ExecutionStatus.isTerminal_iff {status : ExecutionStatus} :
    status.isTerminal ↔ status ≠ .running := by
  simp [isTerminal]

namespace Execution

/-- What can become of an execution in the course of a run. -/
inductive Becomes (e : Execution) : Execution → Prop where
  | unchanged : Becomes e e
  | finished {status : ExecutionStatus} {stoppedAt : Moment} (running : e.status = .running)
      (terminal : status.isTerminal) : Becomes e { e with status, stoppedAt := some stoppedAt }

variable {e e' e'' : Execution}

/-- An execution keeps its key. -/
theorem Becomes.key_eq (becomes : e.Becomes e') : e'.key = e.key := by
  cases becomes <;> rfl

/-- What has ended cannot end again. -/
theorem Becomes.trans (first : e.Becomes e') (second : e'.Becomes e'') : e.Becomes e'' := by
  cases first with
  | unchanged => exact second
  | finished running terminal =>
    cases second with
    | unchanged => exact .finished running terminal
    | finished again _ => exact absurd again (ExecutionStatus.isTerminal_iff.1 terminal)

/-- What has ended stays as it is. -/
theorem Becomes.eq_of_terminal (becomes : e.Becomes e') (terminal : e.status.isTerminal) :
    e' = e := by
  cases becomes with
  | unchanged => rfl
  | finished running _ => exact absurd running (ExecutionStatus.isTerminal_iff.1 terminal)

/-- The time at which an execution stopped is known where it does not run. -/
def IsTimed (e : Execution) : Prop :=
  e.status = .running ↔ e.stoppedAt = none

end Execution

/-! ### Steps -/

namespace Store

variable {s s' : Store} {key : ExecutionKey} {status : ExecutionStatus} {stoppedAt : Moment}

/-- A status changes the running execution of its key, and no other one. -/
theorem exists_becomes_of_finishExecution (terminal : status.isTerminal)
    (ran : finishExecution key status (some stoppedAt) s = .ok ((), s')) {e : Execution}
    (member : e ∈ s.executions) : ∃ e' ∈ s'.executions, e.Becomes e' := by
  obtain ⟨_, rfl⟩ := finishExecution_eq_ok.1 ran
  refine ⟨_, mem_changeRows.2 ⟨e, member, rfl⟩, ?_⟩
  split
  next chosen =>
    simp only [Bool.and_eq_true, decide_eq_true_eq] at chosen
    exact .finished chosen.2 terminal
  next => exact .unchanged

/-- The running execution of the key is found with its status. -/
theorem execution?_of_finishExecution_running {e : Execution} {time : Option Moment}
    (found : s.execution? key = some e) (running : e.status = .running)
    (ran : finishExecution key status time s = .ok ((), s')) :
    s'.execution? key = some { e with status, stoppedAt := time } := by
  obtain ⟨_, rfl⟩ := finishExecution_eq_ok.1 ran
  have named : e.key = key := by simpa using List.find?_some found
  show (changeRows s.executions _ _).find? _ = _
  rw [find?_changeRows]
  · show (s.execution? key).map _ = _
    rw [found]
    simp [named, running]
  · exact fun _ => rfl

/-- A new execution runs and has not stopped. -/
theorem isTimed_of_insertExecution {asset : AssetKey} {row : Execution}
    (timed : ∀ e ∈ s.executions, e.IsTimed)
    (ran : insertExecution key asset stoppedAt s = .ok (row, s')) :
    ∀ e ∈ s'.executions, e.IsTimed := by
  obtain ⟨_, _, _, rfl⟩ := insertExecution_eq_ok.1 ran
  have new : (newExecution key asset stoppedAt).IsTimed := by
    constructor
    · intro _
      rfl
    · intro _
      rfl
  exact forall_mem_append_singleton timed new

/-- An execution that has ended has stopped. -/
theorem isTimed_of_finishExecution (terminal : status.isTerminal)
    (timed : ∀ e ∈ s.executions, e.IsTimed)
    (ran : finishExecution key status (some stoppedAt) s = .ok ((), s')) :
    ∀ e ∈ s'.executions, e.IsTimed := by
  obtain ⟨_, rfl⟩ := finishExecution_eq_ok.1 ran
  have ended : status ≠ .running := ExecutionStatus.isTerminal_iff.1 terminal
  refine forall_mem_changeRows ?_ timed
  intro e _
  constructor
  · intro running
    exact absurd running ended
  · intro untimed
    exact nomatch untimed

end Store

/-- No operation takes an execution away, and each leaves it as it was or ends it. -/
theorem Operation.Step.exists_becomes {operation : Operation} {reply : Reply} {r r' : Registry}
    (step : Step r operation reply r') {e : Execution} (member : e ∈ r.store.executions) :
    ∃ e' ∈ r'.store.executions, e.Becomes e' := by
  have frame := step.agreesBut
  cases step
  case read => exact ⟨e, member, .unchanged⟩
  case startExecution ran =>
    obtain ⟨_, _, _, rfl⟩ := Store.insertExecution_eq_ok.1 ran
    exact ⟨e, List.mem_append_left _ member, .unchanged⟩
  case updateExecutionStatus terminal ran _ =>
    exact Store.exists_becomes_of_finishExecution terminal ran member
  all_goals exact ⟨e, (frame.executions (by simp [tables])).symm ▸ member, .unchanged⟩

/-- Operations give an execution its time with its terminal status. -/
theorem Operation.Step.isTimed {operation : Operation} {reply : Reply} {r r' : Registry}
    (step : Step r operation reply r') (timed : ∀ e ∈ r.store.executions, e.IsTimed) :
    ∀ e ∈ r'.store.executions, e.IsTimed := by
  have frame := step.agreesBut
  cases step
  case read => exact timed
  case startExecution ran => exact Store.isTimed_of_insertExecution timed ran
  case updateExecutionStatus terminal ran _ =>
    exact Store.isTimed_of_finishExecution terminal timed ran
  all_goals exact (frame.executions (by simp [tables])).symm ▸ timed

/-! ### Runs -/

namespace Registry

variable {linkLimit : Nat} {r r' : Registry}

/-- In every registry, what runs has not stopped, and nothing else. -/
theorem Reachable.isTimed (reachable : Reachable linkLimit r) :
    ∀ e ∈ r.store.executions, e.IsTimed := by
  apply reachable.invariant (motive := fun s => ∀ e ∈ s.executions, e.IsTimed)
  · intro e member
    exact nomatch member
  · intro r operation reply r' step timed
    exact step.isTimed timed

/-- Over any run an execution stays stored, and what it becomes is told from what it was. -/
theorem LeadsTo.exists_becomes (leads : LeadsTo r r') {e : Execution}
    (member : e ∈ r.store.executions) : ∃ e' ∈ r'.store.executions, e.Becomes e' := by
  apply leads.invariant (motive := fun r => ∃ e' ∈ r.store.executions, e.Becomes e')
  · exact ⟨e, member, .unchanged⟩
  · intro r so
    exact so
  · rintro r operation reply r' step ⟨e', member', soFar⟩
    obtain ⟨e'', member'', onwards⟩ := step.exists_becomes member'
    exact ⟨e'', member'', soFar.trans onwards⟩

/-- Keys are distinct, so an execution is what has become of the one that had its key. -/
theorem LeadsTo.becomes (leads : LeadsTo r r') (inv : r.store.Consistent) {e e' : Execution}
    (member : e ∈ r.store.executions) (member' : e' ∈ r'.store.executions)
    (same : e'.key = e.key) : e.Becomes e' := by
  have inv' := leads.consistent inv
  obtain ⟨e'', member'', becomes⟩ := leads.exists_becomes member
  -- Both executions are found under the key, so they are the same.
  have found' := inv'.execution?_eq_some member'
  have found'' := inv'.execution?_eq_some member''
  rw [becomes.key_eq, ← same, found'] at found''
  rw [Option.some.inj found'']
  exact becomes

end Registry

/-! ### Who asks for a status -/

namespace Executions

variable {r : Registry} {key : ExecutionKey} {status : ExecutionStatus}

/-- A refusal names the missing execution, or the status that the execution has. -/
theorem perform_refuseStatus (ready : r.access = .ready) (key : ExecutionKey)
    (status : ExecutionStatus) :
    (refuseStatus key status).perform r =
      (match r.store.execution? key with
        | some e => .error (.invalidTransition e.status status)
        | none => .error (.notFound (.execution key)), r) := by
  rw [refuseStatus, Action.perform_bind, getExecution, Action.perform_query_bind ready]
  cases r.store.execution? key <;> rfl

/-- No execution of the key is running, so that the statement is refused. -/
theorem perform_updateStatus_of_not_running (ready : r.access = .ready)
    (settled : ∀ e ∈ r.store.executions, e.key = key → e.status ≠ .running) :
    (updateStatus key status).perform r = (refuseStatus key status).perform r := by
  cases terminal : status.isTerminal with
  | false => exact perform_updateStatus_of_not_terminal terminal r
  | true =>
    have refused : r.execute (Store.finishExecution key status (some r.now)) =
        (.error .notFound, r) := by
      unfold Registry.execute Registry.query
      rw [ready, Store.finishExecution_eq_error.2 ⟨settled, rfl⟩]
    rw [perform_updateStatus terminal, refused]

/-- A key without an execution is reported as missing. -/
theorem perform_updateStatus_of_missing (ready : r.access = .ready)
    (unnamed : ∀ e ∈ r.store.executions, e.key ≠ key) :
    (updateStatus key status).perform r = (.error (.notFound (.execution key)), r) := by
  have missing : r.store.execution? key = none :=
    List.find?_eq_none.2 fun e member => by simpa using unnamed e member
  rw [perform_updateStatus_of_not_running ready fun e member named =>
    absurd named (unnamed e member), perform_refuseStatus ready, missing]

/-- An execution that has ended, or was asked to run, is reported with its status. -/
theorem perform_updateStatus_of_refused (ready : r.access = .ready) (inv : r.store.Consistent)
    {e : Execution} (member : e ∈ r.store.executions)
    (refused : ¬(e.status = .running ∧ status.isTerminal)) :
    (updateStatus e.key status).perform r = (.error (.invalidTransition e.status status), r) := by
  have found := inv.execution?_eq_some member
  have asRefusal : (updateStatus e.key status).perform r =
      (refuseStatus e.key status).perform r := by
    cases terminal : status.isTerminal with
    | false => exact perform_updateStatus_of_not_terminal terminal r
    | true =>
      apply perform_updateStatus_of_not_running ready
      intro e' member' same running
      -- The execution of the key that runs would be the one that does not.
      have found' := inv.execution?_eq_some member'
      rw [same, found] at found'
      rw [← Option.some.inj found'] at running
      exact refused ⟨running, terminal⟩
  rw [asRefusal, perform_refuseStatus ready, found]

/-- A running execution gets its status and the time.  That is what the answer shows, and
    what is stored from then on. -/
theorem perform_updateStatus_of_running (ready : r.access = .ready) (inv : r.store.Consistent)
    {e : Execution} (member : e ∈ r.store.executions) (running : e.status = .running)
    (terminal : status.isTerminal) :
    ∃ r', (updateStatus e.key status).perform r =
        (.ok { e with status, stoppedAt := some r.now }, r') ∧
      r'.store.execution? e.key = some { e with status, stoppedAt := some r.now } := by
  obtain ⟨s', ran⟩ :
      ∃ s', Store.finishExecution e.key status (some r.now) r.store = .ok ((), s') :=
    ⟨_, Store.finishExecution_eq_ok.2 ⟨⟨e, member, rfl, running⟩, rfl⟩⟩
  -- The row that the statement leaves is the one that is read again for the answer.
  have found : s'.execution? e.key = some { e with status, stoppedAt := some r.now } :=
    Store.execution?_of_finishExecution_running (inv.execution?_eq_some member) running ran
  have executed : r.execute (Store.finishExecution e.key status (some r.now)) =
      (.ok (), r.wrote s') :=
    Registry.execute_eq_ok.2 ⟨ready, s', ran, rfl⟩
  have answered : (getExecution e.key).perform (r.wrote s') =
      (.ok { e with status, stoppedAt := some r.now }, r.wrote s') :=
    getExecution_eq_ok.2 ⟨ready, found, rfl⟩
  refine ⟨r.wrote s', ?_, found⟩
  rw [perform_updateStatus terminal, executed]
  exact answered

/-- A status is recorded where it is terminal and the execution of the key runs. -/
theorem updateStatus_eq_ok_iff (ready : r.access = .ready) (inv : r.store.Consistent) :
    (∃ row r', (updateStatus key status).perform r = (.ok row, r')) ↔
      ∃ e ∈ r.store.executions, e.key = key ∧ e.status = .running ∧ status.isTerminal := by
  constructor
  · rintro ⟨row, r', answered⟩
    -- What is not named by the key, does not run or is not terminal is refused, so the answer was
    -- no success.
    by_cases named : ∃ e ∈ r.store.executions, e.key = key
    · obtain ⟨e, member, rfl⟩ := named
      by_cases runs : e.status = .running ∧ status.isTerminal
      · exact ⟨e, member, rfl, runs⟩
      · rw [perform_updateStatus_of_refused ready inv member runs] at answered
        exact nomatch answered
    · have unnamed : ∀ e ∈ r.store.executions, e.key ≠ key :=
        fun e member same => named ⟨e, member, same⟩
      rw [perform_updateStatus_of_missing ready unnamed] at answered
      exact nomatch answered
  · rintro ⟨e, member, rfl, running, terminal⟩
    obtain ⟨r', answered, _⟩ :=
      perform_updateStatus_of_running ready inv member running terminal
    exact ⟨_, r', answered⟩

end Executions

/-! ### What holds of every run -/

/-- In every registry that operations lead to, just the running executions have no time at
    which they stopped.  Wherever operations lead from there, each execution is still found
    under its key as it was, or it ran and has ended since; one that had ended is as it was.
    A status is recorded, with the time, where it is terminal and the execution of the key
    runs; else a missing execution is reported as such, and any other one with the status
    that it has and the one that was asked for, and nothing changes. -/
theorem execution_life {linkLimit : Nat} {r : Registry} (reachable : r.Reachable linkLimit) :
    (∀ e ∈ r.store.executions, e.status = .running ↔ e.stoppedAt = none) ∧
    (∀ r' : Registry, r.LeadsTo r' → ∀ e ∈ r.store.executions,
      (∃ e' ∈ r'.store.executions, e'.key = e.key) ∧
      ∀ e' ∈ r'.store.executions, e'.key = e.key →
        e.Becomes e' ∧ (e.status.isTerminal → e' = e)) ∧
    (∀ (key : ExecutionKey) (status : ExecutionStatus),
      ((∃ row r', (Executions.updateStatus key status).perform r = (.ok row, r')) ↔
        ∃ e ∈ r.store.executions, e.key = key ∧ e.status = .running ∧ status.isTerminal) ∧
      (∀ e ∈ r.store.executions, e.key = key → e.status = .running → status.isTerminal →
        ∃ r', (Executions.updateStatus key status).perform r =
            (.ok { e with status, stoppedAt := some r.now }, r') ∧
          r'.store.execution? key = some { e with status, stoppedAt := some r.now }) ∧
      ((∀ e ∈ r.store.executions, e.key ≠ key) →
        (Executions.updateStatus key status).perform r =
          (.error (.notFound (.execution key)), r)) ∧
      ∀ e ∈ r.store.executions, e.key = key → ¬(e.status = .running ∧ status.isTerminal) →
        (Executions.updateStatus key status).perform r =
          (.error (.invalidTransition e.status status), r)) := by
  have ready := reachable.ready
  have inv : r.store.Consistent := Registry.LeadsTo.consistent reachable .initial
  refine ⟨reachable.isTimed, ?_, ?_⟩
  · intro r' leads e member
    constructor
    · obtain ⟨e', member', becomes⟩ := leads.exists_becomes member
      exact ⟨e', member', becomes.key_eq⟩
    · -- Whatever has the key later on is what has become of the execution.
      intro e' member' same
      have becomes := leads.becomes inv member member' same
      exact ⟨becomes, becomes.eq_of_terminal⟩
  · intro key status
    refine ⟨Executions.updateStatus_eq_ok_iff ready inv, ?_, ?_, ?_⟩
    · rintro e member rfl running terminal
      exact Executions.perform_updateStatus_of_running ready inv member running terminal
    · exact Executions.perform_updateStatus_of_missing ready
    · rintro e member rfl refused
      exact Executions.perform_updateStatus_of_refused ready inv member refused

/-- The execution in a plant is still there after it has ended and its asset is deleted, and
    no status is recorded for another one. -/
theorem execution_life_plant :
    (∃ e ∈ (Batch.performAll
        [ .updateExecutionStatus ⟨"plant", "preview", "exec-1"⟩ .succeeded,
          .deleteAsset ⟨"plant", "hall"⟩ ] Registry.plant).2.store.executions,
      e.key = ⟨"plant", "preview", "exec-1"⟩) ∧
    (Executions.updateStatus ⟨"plant", "preview", "exec-2"⟩ .failed).perform Registry.plant =
      (.error (.notFound (.execution ⟨"plant", "preview", "exec-2"⟩)), Registry.plant) := by
  obtain ⟨_, stays, asked⟩ := execution_life Registry.reachable_plant
  have started : ∃ e ∈ Registry.plant.store.executions,
      e.key = ⟨"plant", "preview", "exec-1"⟩ := by
    decide +kernel
  obtain ⟨e, member, named⟩ := started
  refine ⟨?_, (asked _ _).2.2.1 (by decide +kernel)⟩
  rw [← named]
  exact (stays _ (Registry.LeadsTo.performAll _ _) e member).1

end AssetRegistry
