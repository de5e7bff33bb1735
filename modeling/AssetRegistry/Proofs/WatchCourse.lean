import AssetRegistry.Watch
import Mathlib.Data.List.Basic

/-!
# The course of a watch

A watch of a script makes one fetch at each tick, up to the first one that fails or whose
snapshot has no running execution (`IsLast`).  A script that is used up fails, so there is
always such a fetch.  `Course.ofScript` is the course in closed form, and one induction along
the script shows that the loop comes to it.

The times are told by the timer alone.  `Timer.step` is the timer after a tick and a fetch.
While the timer is in step, the next tick is an interval after the last one, or comes when the
fetch is over if that is later.  It stays in step unless a fetch is late by less than a timer
notices.
-/

namespace AssetRegistry.Watch

/-! ### Scripts -/

/-- How long a fetch takes.  No wait is longer than the horizon. -/
def Fetch.took (fetch : Fetch) : Nat :=
  min fetch.duration horizon

/-- A fetch ends a watch if it fails, or if nothing is running in its snapshot. -/
def Fetch.Ends (fetch : Fetch) : Prop :=
  ∀ snapshot, fetch.outcome = .ok snapshot → ∀ e ∈ snapshot, e.status ≠ .running

/-- What a fetch comes to when a script has none left. -/
def Fetch.beyondScript : Fetch where
  duration := 0
  outcome := .error (.notFound (.named "script step"))

/-- The fetch at a place of a script. -/
def fetchAt (script : List Fetch) (i : Nat) : Fetch :=
  script[i]?.getD .beyondScript

/-- The place of the first fetch of a script that ends a watch. -/
structure IsLast (script : List Fetch) (k : Nat) : Prop where
  ends : (fetchAt script k).Ends
  before : ∀ i < k, ¬ (fetchAt script i).Ends

variable {interval k : Nat} {fetch : Fetch} {script : List Fetch}

/-- A snapshot is settled if nothing in it runs. -/
theorem isSettled_iff {snapshot : List Execution} :
    isSettled snapshot = true ↔ ∀ e ∈ snapshot, e.status ≠ .running := by
  simp [isSettled, ExecutionStatus.isTerminal]

/-- What comes after the script ends a watch. -/
theorem Fetch.ends_beyondScript : beyondScript.Ends := by
  intro snapshot succeeded
  exact nomatch succeeded

/-- A fetch that does not end a watch has a snapshot that is not settled. -/
theorem Fetch.exists_of_not_ends (goesOn : ¬ fetch.Ends) :
    ∃ snapshot, fetch.outcome = .ok snapshot ∧ isSettled snapshot = false := by
  simp only [Ends, not_forall] at goesOn
  obtain ⟨snapshot, succeeded, running⟩ := goesOn
  refine ⟨snapshot, succeeded, ?_⟩
  rw [← Bool.not_eq_true, isSettled_iff]
  simpa using running

/-- After the script comes the fetch that ends a watch. -/
@[simp] theorem fetchAt_nil (i : Nat) : fetchAt [] i = .beyondScript := rfl

/-- The first fetch is the head of the script. -/
@[simp] theorem fetchAt_cons_zero : fetchAt (fetch :: script) 0 = fetch := rfl

/-- The others are those of its tail. -/
@[simp] theorem fetchAt_cons_succ (i : Nat) :
    fetchAt (fetch :: script) (i + 1) = fetchAt script i := by
  simp [fetchAt]

/-- The first fetch is the last one if it ends the watch. -/
theorem isLast_zero : IsLast script 0 ↔ (fetchAt script 0).Ends :=
  ⟨IsLast.ends, fun ends => ⟨ends, by simp⟩⟩

/-- A later fetch is the last one if the first does not end the watch. -/
theorem isLast_cons_succ : IsLast (fetch :: script) (k + 1) ↔ ¬ fetch.Ends ∧ IsLast script k := by
  constructor
  · intro last
    refine ⟨last.before 0 (Nat.succ_pos k), by simpa using last.ends, fun i below => ?_⟩
    simpa using last.before (i + 1) (Nat.succ_lt_succ below)
  · rintro ⟨goesOn, last⟩
    refine ⟨by simpa using last.ends, fun i below => ?_⟩
    cases i with
    | zero => exact goesOn
    | succ i => simpa using last.before i (Nat.lt_of_succ_lt_succ below)

/-- Every script comes to a fetch that ends a watch, at its end at the latest. -/
theorem exists_isLast (script : List Fetch) : ∃ k, IsLast script k := by
  induction script with
  | nil => exact ⟨0, isLast_zero.2 Fetch.ends_beyondScript⟩
  | cons fetch script ih =>
    by_cases ends : fetch.Ends
    · exact ⟨0, isLast_zero.2 ends⟩
    · obtain ⟨k, last⟩ := ih
      exact ⟨k + 1, isLast_cons_succ.2 ⟨ends, last⟩⟩

/-- The fetches before the last one are in the script. -/
theorem IsLast.lt_length (last : IsLast script k) {i : Nat} (below : i < k) :
    i < script.length := by
  by_contra beyond
  have missing : fetchAt script i = .beyondScript := by
    simp [fetchAt, List.getElem?_eq_none (Nat.le_of_not_lt beyond)]
  exact last.before i below (missing ▸ Fetch.ends_beyondScript)

/-! ### The timer -/

namespace Timer

variable {timer : Timer}

/-- The timer after a tick and a fetch. -/
def step (interval : Nat) (timer : Timer) (fetch : Fetch) : Timer :=
  (timer.tick interval).advance fetch.duration

/-- The timer after some fetches. -/
def after (interval : Nat) (timer : Timer) (fetches : List Fetch) : Timer :=
  fetches.foldl (step interval) timer

/-- A timer is in step where its next tick is on time, or so late that the timer notices. -/
def InStep (timer : Timer) : Prop :=
  timer.now ≤ timer.due ∨ timer.due + tolerance < timer.now

/-- A fetch is over at the next tick, or so late that a timer notices. -/
def Keeps (interval : Nat) (fetch : Fetch) : Prop :=
  fetch.took ≤ interval ∨ interval + tolerance < fetch.took

/-- A tick comes when it is due, or at once if that has passed. -/
theorem now_tick : (timer.tick interval).now = max timer.now timer.due := rfl

/-- A fetch takes the time that it takes. -/
theorem now_step : (timer.step interval fetch).now = (timer.tick interval).now + fetch.took := rfl

/-- A fetch does not put off the next tick. -/
theorem due_step : (timer.step interval fetch).due = (timer.tick interval).due := rfl

/-- A timer in step sets its next tick an interval after the one that fires. -/
theorem InStep.due_tick (inStep : timer.InStep) (interval : Nat) :
    (timer.tick interval).due = (timer.tick interval).now + min interval horizon := by
  rcases inStep with onTime | late
  · -- The tick fires when it is due, so the beat goes on from there.
    have fires : max timer.now timer.due = timer.due := Nat.max_eq_right onTime
    have punctual : ¬ timer.due + tolerance < timer.due := by omega
    simp only [tick, fires, if_neg punctual]
    omega
  · -- The tick fires late, and the beat starts anew.
    have fires : max timer.now timer.due = timer.now := Nat.max_eq_left (by omega)
    simp only [tick, fires, if_pos late]
    omega

/-- A timer is in step after a fetch that keeps to the interval. -/
theorem InStep.step (inStep : timer.InStep) (keeps : Keeps interval fetch) :
    (timer.step interval fetch).InStep := by
  have due := inStep.due_tick interval
  have short : fetch.took ≤ horizon := Nat.min_le_right _ _
  rw [InStep, now_step, due_step, due]
  rcases keeps with inTime | late
  · exact .inl (by omega)
  · exact .inr (by omega)

/-- From a timer in step, the next fetch starts after the interval, or after the fetch if that
    takes longer. -/
theorem InStep.now_tick_step (inStep : timer.InStep) :
    ((timer.step interval fetch).tick interval).now =
      (timer.tick interval).now + max (min interval horizon) fetch.took := by
  have due := inStep.due_tick interval
  rw [now_tick, now_step, due_step, due]
  omega

/-- A timer is in step after any number of such fetches. -/
theorem InStep.after {fetches : List Fetch} (inStep : timer.InStep)
    (keeps : ∀ fetch ∈ fetches, Keeps interval fetch) : (timer.after interval fetches).InStep := by
  induction fetches generalizing timer with
  | nil => exact inStep
  | cons fetch fetches ih =>
    rw [List.forall_mem_cons] at keeps
    exact ih (inStep.step keeps.1) keeps.2

/-- A timer is in step before its first tick. -/
theorem inStep_start : start.InStep :=
  .inl (Nat.le_refl 0)

/-- The timer after one fetch more of a script. -/
theorem after_take_succ {i : Nat} (inScript : i < script.length) :
    timer.after interval (script.take (i + 1)) =
      (timer.after interval (script.take i)).step interval (fetchAt script i) := by
  have here : script[i]? = some (fetchAt script i) := by
    simp [fetchAt, List.getElem?_eq_getElem inScript]
  rw [after, after, List.take_add_one, here, List.foldl_append]
  rfl

end Timer

/-! ### The loop -/

/-- When a fetch of a script starts, if a timer is set before the first one. -/
def startOf (interval : Nat) (timer : Timer) (script : List Fetch) (i : Nat) : Nat :=
  ((timer.after interval (script.take i)).tick interval).now

/-- The course of a watch of a script, if a fetch is the last one. -/
def Course.ofScript (interval : Nat) (timer : Timer) (script : List Fetch) (k : Nat) : Course where
  updates := (List.range (k + 1)).filterMap fun i => (fetchAt script i).outcome.toOption
  fetchedAt := (List.range (k + 1)).map (startOf interval timer script)
  finishedAt := startOf interval timer script k + (fetchAt script k).took
  result := (fetchAt script k).outcome

variable {timer : Timer} {target : WatchTarget} {asked : List WatchTarget}

/-- Later fetches start as those of the tail after the first. -/
theorem startOf_cons_succ (i : Nat) :
    startOf interval timer (fetch :: script) (i + 1) =
      startOf interval (timer.step interval fetch) script i := rfl

/-- A watch whose first fetch ends it has that fetch alone. -/
theorem Course.ofScript_zero :
    ofScript interval timer script 0 =
      .ofLast (timer.tick interval).now ((timer.tick interval).now + (fetchAt script 0).took)
        (fetchAt script 0).outcome := by
  cases outcome : (fetchAt script 0).outcome <;>
    simp [ofScript, ofLast, startOf, Timer.after, outcome, Except.toOption]

/-- The course of a longer script begins with its first fetch. -/
theorem Course.ofScript_cons_succ {snapshot : List Execution}
    (succeeded : fetch.outcome = .ok snapshot) :
    ofScript interval timer (fetch :: script) (k + 1) =
      (ofScript interval (timer.step interval fetch) script k).after (timer.tick interval).now
        snapshot := by
  have first : fetch.outcome.toOption = some snapshot := by rw [succeeded]; rfl
  have start : startOf interval timer (fetch :: script) 0 = (timer.tick interval).now := rfl
  simp only [ofScript, Course.after, List.range_succ_eq_map (n := k + 1), List.map_cons,
    List.filterMap_cons, List.map_map, List.filterMap_map, fetchAt_cons_zero, first, start,
    startOf_cons_succ, fetchAt_cons_succ, Function.comp_def, Nat.succ_eq_add_one]

/-- One turn of the loop asks for the target, and goes on only where the watch does. -/
theorem run_follow_cons {exhausted : WatchTarget → StateM (List WatchTarget) RegistryError}
    {fetches : List (WatchTarget → StateM (List WatchTarget) Fetch)} :
    (follow interval target exhausted (replay fetch :: fetches) timer).run asked =
      match fetch.outcome with
      | .error e =>
        (.ofLast (timer.tick interval).now ((timer.tick interval).now + fetch.took) (.error e),
          asked ++ [target])
      | .ok snapshot =>
        if isSettled snapshot then
          (.ofLast (timer.tick interval).now ((timer.tick interval).now + fetch.took)
            (.ok snapshot), asked ++ [target])
        else
          let (later, asked) := (follow interval target exhausted fetches
            (timer.step interval fetch)).run (asked ++ [target])
          (later.after (timer.tick interval).now snapshot, asked) := by
  obtain ⟨duration, outcome⟩ := fetch
  cases outcome with
  | error e => rfl
  | ok snapshot =>
    simp only [follow]
    cases settled : isSettled snapshot with
    | true => simp [replay, settled]; rfl
    | false => simp [replay, settled]; rfl

/-- The loop over a script comes to the course that its last fetch ends, and asks for the target
    at every fetch. -/
theorem run_follow_script (last : IsLast script k) :
    (follow interval target (replay (.notFound (.named "script step"))) (script.map replay)
      timer).run asked =
      (.ofScript interval timer script k, asked ++ List.replicate (k + 1) target) := by
  induction script generalizing k timer asked with
  | nil =>
    -- The first fetch is beyond the script already.
    cases k with
    | zero =>
      rw [Course.ofScript_zero]
      rfl
    | succ k => exact absurd Fetch.ends_beyondScript (last.before 0 (Nat.succ_pos k))
  | cons fetch script ih =>
    rw [List.map_cons, run_follow_cons]
    cases k with
    | zero =>
      have ends : fetch.Ends := isLast_zero.1 last
      rw [Course.ofScript_zero, fetchAt_cons_zero]
      cases outcome : fetch.outcome with
      | error e => rfl
      | ok snapshot =>
        have settled : isSettled snapshot = true := isSettled_iff.2 (ends snapshot outcome)
        simp only [settled, if_true]
        rfl
    | succ k =>
      obtain ⟨goesOn, later⟩ := isLast_cons_succ.1 last
      obtain ⟨snapshot, outcome, running⟩ := Fetch.exists_of_not_ends goesOn
      simp only [outcome, running, ih later, Course.ofScript_cons_succ outcome,
        Bool.false_eq_true, if_false]
      rw [List.replicate_succ (n := k + 1), List.append_assoc]
      rfl

/-! ### The times of fetches -/

/-- No fetch starts before the one before it is over. -/
theorem startOf_add_took_le {i : Nat} (inScript : i < script.length) :
    startOf interval timer script i + (fetchAt script i).took ≤
      startOf interval timer script (i + 1) := by
  rw [startOf, startOf, Timer.after_take_succ inScript, ← Timer.now_step]
  exact Nat.le_max_left _ _

/-- While fetches keep a timer in step, the next one starts after the interval, or when the last
    one is over if that takes longer. -/
theorem startOf_succ {i : Nat} (inStep : timer.InStep) (inScript : i < script.length)
    (keeps : ∀ j < i, Timer.Keeps interval (fetchAt script j)) :
    startOf interval timer script (i + 1) =
      startOf interval timer script i + max (min interval horizon) (fetchAt script i).took := by
  have before : (timer.after interval (script.take i)).InStep := by
    apply inStep.after
    intro fetch member
    obtain ⟨j, there, rfl⟩ := List.mem_iff_getElem.1 member
    have below : j < i ∧ j < script.length := Nat.lt_min.1 (by simpa using there)
    simpa [fetchAt, below.2] using keeps j below.1
  rw [startOf, Timer.after_take_succ inScript, before.now_tick_step, startOf]

/-! ### What a watch does -/

/-- What is to be said of a course that the fetch at a place of a script ends. -/
structure Course.IsWatchOf (course : Course) (interval : Nat) (script : List Fetch) (k : Nat) :
    Prop where
  updates : course.updates =
    (List.range (k + 1)).filterMap fun i => (fetchAt script i).outcome.toOption
  result : course.result = (fetchAt script k).outcome
  fetches : course.fetchedAt.length = k + 1
  first : course.fetchedAt[0]? = some 0
  finished : ∃ start, course.fetchedAt[k]? = some start ∧
    course.finishedAt = start + (fetchAt script k).took
  inTurn : ∀ i < k, ∃ start next, course.fetchedAt[i]? = some start ∧
    course.fetchedAt[i + 1]? = some next ∧ start + (fetchAt script i).took ≤ next
  paced : (∀ i < k, Timer.Keeps interval (fetchAt script i)) →
    ∀ i < k, ∃ start, course.fetchedAt[i]? = some start ∧
      course.fetchedAt[i + 1]? =
        some (start + max (min interval horizon) (fetchAt script i).took)

/-- The starts of the fetches up to the last one are in the course. -/
theorem Course.fetchedAt_ofScript {i : Nat} (upTo : i ≤ k) :
    (ofScript interval timer script k).fetchedAt[i]? = some (startOf interval timer script i) := by
  have inRange : i < k + 1 := Nat.lt_succ_of_le upTo
  simp [ofScript, inRange]

/-- The course that is made of a script is a watch of it. -/
theorem Course.isWatchOf_ofScript (last : IsLast script k) :
    (ofScript interval .start script k).IsWatchOf interval script k where
  updates := rfl
  result := rfl
  fetches := by simp [ofScript]
  first := fetchedAt_ofScript (Nat.zero_le k)
  finished := ⟨_, fetchedAt_ofScript (Nat.le_refl k), rfl⟩
  inTurn i below :=
    ⟨_, _, fetchedAt_ofScript (Nat.le_of_lt below), fetchedAt_ofScript below,
      startOf_add_took_le (last.lt_length below)⟩
  paced keeps i below := by
    have keptBefore : ∀ j < i, Timer.Keeps interval (fetchAt script j) :=
      fun j earlier => keeps j (Nat.lt_trans earlier below)
    refine ⟨_, fetchedAt_ofScript (Nat.le_of_lt below), ?_⟩
    rw [fetchedAt_ofScript below,
      startOf_succ Timer.inStep_start (last.lt_length below) keptBefore]

/-- A watch makes one fetch after the other, each for the target, up to the first one that ends
    it.  While no fetch is late by less than the timer notices, the next one starts after the
    interval, or when the last one is over if that takes longer.  No interval is longer than the
    horizon. -/
theorem watch_runs_to_last_fetch (interval : Nat) (target : WatchTarget) (script : List Fetch) :
    ∃ k, IsLast script k ∧
      (runScript interval target script).2 = List.replicate (k + 1) target ∧
      (runScript interval target script).1.IsWatchOf interval script k := by
  obtain ⟨k, last⟩ := exists_isLast script
  have ran : runScript interval target script =
      (.ofScript interval .start script k, List.replicate (k + 1) target) :=
    run_follow_script last
  rw [ran]
  exact ⟨k, last, rfl, Course.isWatchOf_ofScript last⟩

/-- An execution of a watched workflow, for scripts. -/
def watchedRun (status : ExecutionStatus) : Execution where
  workflowDatabaseId := "plant"
  workflowId := "convert"
  executionId := "run-1"
  databaseId := "plant"
  assetId := "press"
  status
  startedAt := .epoch
  stoppedAt := none

/-- A fetch that takes longer than the interval puts the next one off, and the beat goes on from
    there. -/
example : (runScript 10 ⟨"plant", "press", none⟩
    [⟨0, .ok [watchedRun .running]⟩, ⟨25, .ok [watchedRun .running]⟩,
      ⟨0, .ok [watchedRun .running]⟩, ⟨0, .ok []⟩]).1.fetchedAt = [0, 10, 35, 45] := rfl

/-- A script in which a snapshot with a running execution comes before a settled one, and both
    come at once. -/
def promptScript : List Fetch :=
  [⟨0, .ok [watchedRun .running]⟩, ⟨0, .ok [watchedRun .failed]⟩]

/-- An interval beyond the horizon is cut short, so the second fetch comes before the interval is
    over. -/
theorem interval_not_always_kept :
    ¬ ∀ (interval : Nat) (target : WatchTarget) (script : List Fetch) (k : Nat),
      0 < interval → IsLast script k → (∀ i < k, Timer.Keeps interval (fetchAt script i)) →
      ∀ i < k, ∃ start,
        (runScript interval target script).1.fetchedAt[i]? = some start ∧
        (runScript interval target script).1.fetchedAt[i + 1]? =
          some (start + max interval (fetchAt script i).took) := by
  intro kept
  have last : IsLast promptScript 1 := by
    refine isLast_cons_succ.2 ⟨fun ends => ?_, isLast_zero.2 fun snapshot outcome => ?_⟩
    · exact ends _ rfl _ (List.mem_singleton.2 rfl) rfl
    · cases outcome
      decide
  have inTime : ∀ i < 1, Timer.Keeps (horizon + 1) (fetchAt promptScript i) :=
    fun i _ => .inl (Nat.le_succ_of_le (Nat.min_le_right _ _))
  obtain ⟨start, first, second⟩ :=
    kept (horizon + 1) ⟨"plant", "press", none⟩ promptScript 1 (Nat.succ_pos _) last inTime 0
      (Nat.succ_pos 0)
  -- The fetches of the run, of which the second one comes too early.
  have starts : (runScript (horizon + 1) ⟨"plant", "press", none⟩ promptScript).1.fetchedAt =
      [0, horizon] := rfl
  rw [starts] at first second
  cases first
  have early : horizon = 0 + max (horizon + 1) 0 := Option.some.inj second
  omega

end AssetRegistry.Watch
