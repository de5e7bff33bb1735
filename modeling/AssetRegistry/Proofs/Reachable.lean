import AssetRegistry.Proofs.OperationAtomic
import Mathlib.Logic.Relation

/-!
# Runs of a registry

A run starts with a registry that was just set up, performs operations in any order
and lets the clock go on between them.  An invariant holds in every registry that is
`Reachable` if it holds at the start and every `Operation.Step` keeps it.
-/

namespace AssetRegistry

namespace Registry

/-- A registry that was just set up. -/
def fresh (linkLimit : Nat) : Registry :=
  { linkLimit }

/-- The registry when the clock has gone on. -/
def tick (r : Registry) : Registry :=
  { r with operation := r.operation + 1 }

/-- What can happen to a registry next.  Operations that fail happen too. -/
inductive Next (r : Registry) : Registry → Prop where
  | perform (operation : Operation) : Next r (operation.perform r).2
  | tick : Next r r.tick

/-- A registry comes to another one by any number of operations. -/
def LeadsTo : Registry → Registry → Prop :=
  Relation.ReflTransGen Next

/-- A registry that a run with a limit of links comes to. -/
def Reachable (linkLimit : Nat) (r : Registry) : Prop :=
  LeadsTo (fresh linkLimit) r

/-- Operations in turn lead from a registry to another one, and the clock may go on between
    them. -/
inductive Runs : List Operation → Registry → Registry → Prop where
  | done (r : Registry) : Runs [] r r
  | perform (operation : Operation) {operations : List Operation} {r r' : Registry}
      (rest : Runs operations (operation.perform r).2 r') : Runs (operation :: operations) r r'
  | tick {operations : List Operation} {r r' : Registry} (rest : Runs operations r.tick r') :
    Runs operations r r'

variable {linkLimit : Nat} {r r' : Registry}

/-- A run may go on where another one ended. -/
theorem Runs.append {before after : List Operation} {r'' : Registry} (first : Runs before r r')
    (second : Runs after r' r'') : Runs (before ++ after) r r'' := by
  induction first with
  | done => exact second
  | perform operation _ ih => exact .perform operation (ih second)
  | tick _ ih => exact .tick (ih second)

/-- A batch is a run of its operations. -/
theorem Runs.performAll (operations : List Operation) (r : Registry) :
    Runs operations r (Batch.performAll operations r).2 := by
  induction operations generalizing r with
  | nil => exact .done r
  | cons operation operations ih => exact .perform operation (ih _)

/-- An operation that fails changes nothing, so that only steps are of interest. -/
theorem Next.cases {motive : Registry → Prop} (next : Next r r') (same : motive r)
    (tick : motive r.tick)
    (step : ∀ operation reply r', Operation.Step r operation reply r' → motive r') :
    motive r' := by
  cases next with
  | perform operation =>
    rcases operation.perform_eq_or_step r with unchanged | ⟨reply, h⟩
    · rw [unchanged]
      exact same
    · exact step operation reply _ h
  | tick => exact tick

/-- What every step keeps holds wherever a registry leads to. -/
theorem LeadsTo.invariant {motive : Registry → Prop} (leads : LeadsTo r r') (start : motive r)
    (tick : ∀ r, motive r → motive r.tick)
    (step : ∀ r operation reply r', Operation.Step r operation reply r' → motive r →
      motive r') : motive r' := by
  induction leads with
  | refl => exact start
  | tail _ next ih => exact next.cases ih (tick _ ih) fun _ _ _ h => step _ _ _ _ h ih

/-- What the store of a fresh registry satisfies and every step keeps holds in every
    store that is reached. -/
theorem Reachable.invariant {motive : Store → Prop} (reachable : Reachable linkLimit r)
    (start : motive .initial)
    (step : ∀ r operation reply r', Operation.Step r operation reply r' → motive r.store →
      motive r'.store) : motive r.store :=
  LeadsTo.invariant (motive := fun r => motive r.store) reachable start (fun _ h => h) step

/-- A batch is a part of a run. -/
theorem LeadsTo.performAll (operations : List Operation) (r : Registry) :
    LeadsTo r (Batch.performAll operations r).2 := by
  induction operations generalizing r with
  | nil => exact .refl
  | cons operation operations ih => exact .head (.perform operation) (ih _)

end Registry

/-- No operation closes a store. -/
theorem Operation.Step.access_eq {operation : Operation} {reply : Reply} {r r' : Registry}
    (step : Step r operation reply r') : r'.access = r.access := by
  cases step <;> rfl

/-- The store of a registry in use can be reached. -/
theorem Registry.Reachable.ready {linkLimit : Nat} {r : Registry}
    (reachable : r.Reachable linkLimit) : r.access = .ready := by
  apply LeadsTo.invariant (motive := fun r => r.access = .ready) reachable rfl
  · intro r ready
    exact ready
  · intro r operation reply r' step ready
    exact step.access_eq.trans ready

/-! ### A plant

A small run that writes to every table.  The last link would close a cycle and the
second execution finds the first one running, so both are refused. -/

namespace Registry

/-- A hall with a press and a motor, and a workflow that runs on the hall. -/
def plantRun : List Operation :=
  [ .createDatabase { databaseId := "plant" },
    .createAsset "plant" { assetId := "hall", assetName := "Hall" },
    .createAsset "plant" { assetId := "press", assetName := "Press" },
    .createAsset "plant" { assetId := "motor", assetName := "Motor" },
    .createLink ⟨"plant", "hall", "plant", "press", .parentChild, none, []⟩,
    .createLink ⟨"plant", "hall", "plant", "press", .parentChild, some "spare", []⟩,
    .createLink ⟨"plant", "press", "plant", "motor", .parentChild, none, []⟩,
    .createLink ⟨"plant", "motor", "plant", "hall", .parentChild, none, []⟩,
    .createMetadata ⟨"link-1", "weight", "12", .number⟩,
    .createPipeline globalDatabaseId
      { pipelineId := "convert"
        assetType := ".step"
        outputType := ".gltf"
        executionType := .lambda },
    .setPipelineEnabled ⟨globalDatabaseId, "convert"⟩ true,
    .createWorkflow "plant"
      { workflowId := "preview", pipelines := [⟨globalDatabaseId, "convert"⟩] },
    .startExecution ⟨"plant", "hall", "preview", none⟩,
    .startExecution ⟨"plant", "hall", "preview", none⟩ ]

/-- The registry that the run leaves where an asset may have three links. -/
def plant : Registry :=
  (Batch.performAll plantRun (fresh 3)).2

/-- The plant is come to by operations. -/
theorem reachable_plant : plant.Reachable 3 :=
  LeadsTo.performAll plantRun (fresh 3)

end Registry

end AssetRegistry
