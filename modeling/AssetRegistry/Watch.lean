import AssetRegistry.RegistryError

/-! # Watching executions

A watcher fetches snapshots of executions at an interval until one is settled, or until
a fetch fails.  Times are milliseconds after the start.

The ticks of the timer come at the interval.  A tick that is late fires at once.  If it
is late by more than the tolerance, the next tick comes an interval after it.  No wait is
longer than the horizon. -/

namespace AssetRegistry.Watch

/-- The interval between fetches in seconds, unless another one is set. -/
def defaultIntervalSeconds : Nat :=
  10

/-- How late a tick may be and still count as on time. -/
def tolerance : Nat :=
  5

/-- The longest wait: thirty years of 365 days. -/
def horizon : Nat :=
  30 * 365 * 24 * 60 * 60 * 1000

/-- A timer: the time, and when the next tick is due. -/
structure Timer where
  now : Nat
  due : Nat
  deriving DecidableEq, Repr

/-- The timer of a watch that starts.  Its first tick is due at once. -/
def Timer.start : Timer where
  now := 0
  due := 0

/-- The timer when it has ticked. -/
def Timer.tick (interval : Nat) (t : Timer) : Timer :=
  let now := max t.now t.due
  -- A tick that is nearly on time keeps the beat; one that is late starts it anew.
  let due := if t.due + tolerance < now then now + interval else t.due + interval
  { now, due := min due (now + horizon) }

/-- The timer when something that takes a time has been waited for. -/
def Timer.advance (duration : Nat) (t : Timer) : Timer :=
  { t with now := t.now + min duration horizon }

/-- What a fetch came to, and how long it took. -/
structure Fetch where
  duration : Nat
  outcome : Except RegistryError (List Execution)
  deriving Repr

/-- The course of a watch: the snapshots that the caller saw, when each fetch started,
    when the watch ended, and with what. -/
structure Course where
  updates : List (List Execution)
  fetchedAt : List Nat
  finishedAt : Nat
  result : Except RegistryError (List Execution)
  deriving Repr

/-- The course with a snapshot before it that was not settled. -/
def Course.after (fetchedAt : Nat) (snapshot : List Execution) (later : Course) : Course :=
  { later with
    updates := snapshot :: later.updates
    fetchedAt := fetchedAt :: later.fetchedAt }

/-- The course of a watch that one fetch ends. -/
def Course.ofLast (fetchedAt finishedAt : Nat) (outcome : Except RegistryError (List Execution)) :
    Course where
  updates := outcome.toOption.toList
  fetchedAt := [fetchedAt]
  finishedAt
  result := outcome

/-- A source of snapshots: for every fetch in turn, what it does when it is asked for a
    target.  When there is none left, it fails at once. -/
structure Source (m : Type → Type) where
  fetches : List (WatchTarget → m Fetch)
  exhausted : WatchTarget → m RegistryError

/-- Watches from a tick of the timer on. -/
def follow [Monad m] (interval : Nat) (target : WatchTarget)
    (exhausted : WatchTarget → m RegistryError) :
    List (WatchTarget → m Fetch) → Timer → m Course
  | [], timer => do
    let ticked := timer.tick interval
    return .ofLast ticked.now ticked.now (.error (← exhausted target))
  | fetch :: fetches, timer => do
    let ticked := timer.tick interval
    let fetched ← fetch target
    let timer := ticked.advance fetched.duration
    match fetched.outcome with
    | .error e => return .ofLast ticked.now timer.now (.error e)
    | .ok snapshot =>
      if isSettled snapshot then
        return .ofLast ticked.now timer.now (.ok snapshot)
      else
        return (← follow interval target exhausted fetches timer).after ticked.now snapshot

/-- Watches a target. -/
def run [Monad m] (interval : Nat) (target : WatchTarget) (source : Source m) : m Course :=
  follow interval target source.exhausted source.fetches .start

/-- Answers, and takes down what was asked for. -/
def replay (answer : α) (asked : WatchTarget) : StateM (List WatchTarget) α := do
  modify (· ++ [asked])
  return answer

/-- A source that plays a script of what the fetches come to. -/
def Source.ofScript (script : List Fetch) : Source (StateM (List WatchTarget)) where
  fetches := script.map replay
  exhausted := replay (.notFound (.named "script step"))

/-- Watches a target with a script of what the fetches come to.  The second part of the
    answer is what the fetches were asked for. -/
def runScript (interval : Nat) (target : WatchTarget) (script : List Fetch) :
    Course × List WatchTarget :=
  (run interval target (.ofScript script)).run []

end AssetRegistry.Watch
