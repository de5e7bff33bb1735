import AssetRegistry.Proofs.Reading
import AssetRegistry.Proofs.StatementRefusal

/-!
# Actions that do not fail through the store

An outcome is `Faultless` if it is no failure of the store, and an action `Survives` on a
registry if its outcome there is.  No check of a request reports a failure of the store.
Queries survive while the store can be reached, statements where their refusals have a
word, and whatever is made of such parts survives too.

An action is gone through from its first line on: the lemmas on binds take a line away that
survives, and leave what follows on it, with what is known where the line passed.
-/

namespace AssetRegistry

/-- An outcome other than a failure of the store. -/
def Faultless (outcome : Except RegistryError α) : Prop :=
  outcome ≠ .error .database

namespace Faultless

/-- A success is no failure. -/
theorem ok (a : α) : Faultless (.ok a) :=
  fun h => nomatch h

/-- A failure with another error is none of the store. -/
theorem error {e : RegistryError} (other : e ≠ .database) : Faultless (.error e : Except _ α) :=
  fun h => other (Except.error.inj h)

/-- Of two steps in a row neither may fail through the store. -/
theorem bind {x : Except RegistryError α} {f : α → Except RegistryError β} (first : Faultless x)
    (rest : ∀ a, Faultless (f a)) : Faultless (x >>= f) := by
  cases x with
  | error e => exact error fun h => first (h ▸ rfl)
  | ok a => exact rest a

/-- A check is followed by another one that does not use its answer. -/
theorem andThen {x : Except RegistryError α} {y : Except RegistryError β} (first : Faultless x)
    (rest : Faultless y) : Faultless (x >>= fun _ => y) :=
  first.bind fun _ => rest

/-- One check of several items, made item by item. -/
theorem forM {check : α → Except RegistryError PUnit} (each : ∀ a, Faultless (check a))
    (items : List α) : Faultless (items.forM check) := by
  induction items with
  | nil => exact ok _
  | cons a items ih => exact (each a).andThen ih

end Faultless

/-! ### Checks of requests -/

namespace Validation

/-- A field that breaks a rule is an invalid field. -/
theorem faultless_require (holds : Bool) (field : String) (rule : FieldRule) :
    Faultless (require holds field rule) := by
  cases holds
  · exact .error (by simp)
  · exact .ok ()

/-- The reserved database passes, and any other id is an identifier or an invalid field. -/
theorem faultless_databaseId (field value : String) : Faultless (databaseId field value) := by
  unfold databaseId
  split
  · exact .ok ()
  · exact faultless_require _ _ _

/-- An asset id is refused for its length, its start or its characters. -/
theorem faultless_assetId (field value : String) : Faultless (assetId field value) := by
  unfold assetId
  refine Faultless.andThen (faultless_require _ _ _) ?_
  refine Faultless.andThen (faultless_require _ _ _) ?_
  exact faultless_require _ _ _

/-- Time limits are refused as invalid fields only, whichever of them are given. -/
theorem faultless_timeouts (request : NewPipeline) : Faultless (timeouts request) := by
  -- Both limits may be left out, and the heartbeat is checked last in either case.
  have faultless_heartbeat (heartbeat : Int) (timeout? : Option Int) : Faultless (do
      require request.waitForCallback "taskHeartbeatTimeoutSeconds" .needsCallback
      require (0 < heartbeat) "taskHeartbeatTimeoutSeconds" .positive
      require (timeout?.all (heartbeat < ·)) "taskHeartbeatTimeoutSeconds" .belowTimeout) := by
    refine Faultless.andThen (faultless_require _ _ _) ?_
    refine Faultless.andThen (faultless_require _ _ _) ?_
    exact faultless_require _ _ _
  unfold timeouts
  cases request.taskTimeoutSeconds <;> cases request.taskHeartbeatTimeoutSeconds
  · exact .ok ()
  · exact faultless_heartbeat _ none
  · exact (faultless_require _ _ _).andThen (.ok ())
  · exact (faultless_require _ _ _).andThen (faultless_heartbeat _ (some _))

/-- A metadata value is refused with what is wrong with it. -/
theorem faultless_metadataValue (value : String) (type : ValueType) :
    Faultless (metadataValue value type) := by
  unfold metadataValue
  split
  · exact .ok ()
  · split
    · exact .ok ()
    · exact .error (by simp)

end Validation

namespace Catalog

open Validation

/-- The reserved database is refused under its own error. -/
theorem faultless_requireUnreserved (databaseId : String) :
    Faultless (requireUnreserved databaseId) := by
  unfold requireUnreserved
  split
  · exact .error (by simp)
  · exact .ok ()

/-- A request for an asset is refused for one of its fields. -/
theorem faultless_checkAsset (databaseId : String) (request : NewAsset) :
    Faultless (checkAsset databaseId request) := by
  unfold checkAsset
  refine Faultless.andThen (faultless_require _ _ _) ?_
  refine Faultless.andThen (faultless_assetId _ _) ?_
  -- What is left are the texts.
  refine Faultless.andThen (faultless_require _ _ _) ?_
  refine Faultless.andThen (faultless_require _ _ _) ?_
  exact faultless_require _ _ _

/-- A request for a pipeline is refused for one of its fields. -/
theorem faultless_checkPipeline (databaseId : String) (request : NewPipeline) :
    Faultless (checkPipeline databaseId request) := by
  unfold checkPipeline
  refine Faultless.andThen (faultless_databaseId _ _) ?_
  refine Faultless.andThen (faultless_require _ _ _) ?_
  refine Faultless.andThen (faultless_require _ _ _) ?_
  -- The two extensions come before the time limits.
  refine Faultless.andThen (faultless_require _ _ _) ?_
  refine Faultless.andThen (faultless_require _ _ _) ?_
  exact faultless_timeouts request

/-- A request for a workflow is refused for one of its fields, or for having no step. -/
theorem faultless_checkWorkflow (databaseId : String) (request : NewWorkflow) :
    Faultless (checkWorkflow databaseId request) := by
  unfold checkWorkflow
  refine Faultless.andThen (faultless_databaseId _ _) ?_
  refine Faultless.andThen (faultless_require _ _ _) ?_
  refine Faultless.andThen (faultless_require _ _ _) ?_
  exact faultless_require _ _ _

end Catalog

namespace Links

open Validation

/-- A tag is refused for its length. -/
theorem faultless_checkTags (tags : List String) : Faultless (checkTags tags) :=
  .forM (fun _ => faultless_require _ _ _) tags

/-- A request for a link is refused for one of its fields, or for joining an asset to
    itself. -/
theorem faultless_checkRequest (request : NewAssetLink) : Faultless (checkRequest request) := by
  have faultless_alias (alias? : Option String) :
      Faultless (alias?.forM (freeText "assetLinkAliasId")) := by
    cases alias? with
    | none => exact .ok _
    | some text => exact faultless_require _ _ _
  unfold checkRequest
  refine Faultless.andThen (faultless_databaseId _ _) ?_
  refine Faultless.andThen (faultless_assetId _ _) ?_
  refine Faultless.andThen (faultless_databaseId _ _) ?_
  refine Faultless.andThen (faultless_assetId _ _) ?_
  -- Both ends are right, and what describes the link comes next.
  refine Faultless.andThen (faultless_alias _) ?_
  refine Faultless.andThen (faultless_checkTags _) ?_
  split
  · exact .error (by simp)
  · exact .ok _

end Links

/-! ### Actions -/

namespace Action

variable {r : Registry} {x : Action α} {f : α → Action β} {e : RegistryError}

/-- An action that does not fail through the store of a registry. -/
def Survives (x : Action α) (r : Registry) : Prop :=
  Faultless (x.perform r).1

namespace Survives

/-- An answer that is there already. -/
theorem pure (a : α) : Survives (Pure.pure a) r :=
  Faultless.ok a

/-- A refusal with an error of its own. -/
theorem throw (other : e ≠ .database) : Survives (MonadExcept.throw e : Action α) r :=
  Faultless.error other

/-- What follows runs on the registry that the first part leaves. -/
theorem bind (first : Survives x r)
    (rest : ∀ a r₁, x.perform r = (.ok a, r₁) → Survives (f a) r₁) : Survives (x >>= f) r := by
  unfold Survives at *
  rw [perform_bind]
  rcases h : x.perform r with ⟨error | a, r₁⟩
  · rw [h] at first
    exact Faultless.error fun same => first (same ▸ rfl)
  · exact rest a r₁ h

/-- What follows on reading runs on the registry that was read. -/
theorem bind_reads (reads : Reads x) (first : Survives x r)
    (rest : ∀ a, x.perform r = (.ok a, r) → Survives (f a) r) : Survives (x >>= f) r := by
  apply first.bind
  intro a r₁ h
  obtain rfl := reads.eq h
  exact rest a h

/-- A change of the answer makes no failure. -/
theorem map (survives : Survives x r) (g : α → β) : Survives (g <$> x) r := by
  rw [map_eq_pure_bind]
  exact survives.bind fun a _ _ => pure (g a)

/-- An outcome that is passed on. -/
theorem check {outcome : Except RegistryError α} (faultless : Faultless outcome) :
    Survives (Action.check outcome) r := by
  cases outcome with
  | error e => exact throw fun h => faultless (h ▸ rfl)
  | ok a => exact pure a

/-- What is missing is refused under an error of its own. -/
theorem orElse (other : e ≠ .database) (found : Option α) : Survives (Action.orElse e found) r := by
  cases found with
  | none => exact throw other
  | some a => exact pure a

/-- A store that can be reached is read. -/
theorem query (ready : r.access = .ready) (read : Store → α) : Survives (Action.query read) r := by
  rw [Survives, perform_query, Registry.query_eq_ok.2 ⟨ready, rfl⟩]
  exact Faultless.ok (read r.store)

/-- Both ways of a choice have to survive. -/
theorem ite {c : Prop} [Decidable c] {y : Action α} (survives : Survives x r)
    (survivesElse : Survives y r) : Survives (if c then x else y) r := by
  split
  · exact survives
  · exact survivesElse

/-- A condition on what was read is refused under an error of its own. -/
theorem ite_throw {c : Prop} [Decidable c] (other : e ≠ .database) :
    Survives (if c then MonadExcept.throw e else Pure.pure PUnit.unit) r :=
  (throw other).ite (pure _)

/-- Several things are looked at one after another, all on one registry. -/
theorem forM {g : γ → Action PUnit} (reads : ∀ c, Reads (g c)) (survives : ∀ c, Survives (g c) r)
    (cs : List γ) : Survives (cs.forM g) r := by
  induction cs with
  | nil => exact pure _
  | cons c cs ih => exact bind_reads (reads c) (survives c) fun _ _ => ih

/-- Several things are read one after another, all from one registry. -/
theorem mapM {g : γ → Action β} (reads : ∀ c, Reads (g c)) (survives : ∀ c, Survives (g c) r)
    (cs : List γ) : Survives (cs.mapM g) r := by
  induction cs with
  | nil => exact pure _
  | cons c cs ih =>
    rw [List.mapM_cons]
    apply bind_reads (reads c) (survives c)
    intro b _
    apply bind_reads (Reads.mapM reads cs) ih
    intro bs _
    exact pure (b :: bs)

/-- A statement is refused for a reason that has a word. -/
theorem execute {statement : Statement α} {failure : StoreError → RegistryError}
    (ready : r.access = .ready)
    (worded : ∀ e, statement r.store = .error e → failure e ≠ .database) :
    Survives (Action.execute statement failure) r := by
  rw [Survives, perform_execute, Registry.execute_of_ready ready]
  cases outcome : statement r.store with
  | error e => exact Faultless.error (worded e outcome)
  | ok answer => exact Faultless.ok answer.1

/-- It is enough that the only reason has a word. -/
theorem execute_refusesOnly {statement : Statement α} {reason : StoreError}
    {failure : StoreError → RegistryError} (ready : r.access = .ready)
    (only : Store.RefusesOnly reason statement r.store) (worded : failure reason ≠ .database) :
    Survives (Action.execute statement failure) r := by
  apply execute ready
  intro e refused
  rw [only e refused]
  exact worded

end Survives

/-! ### The first line of an action -/

/-- What follows on a query gets what it reads. -/
theorem survives_query_bind (ready : r.access = .ready) (read : Store → α) (f : α → Action β) :
    Survives (query read >>= f) r ↔ Survives (f (read r.store)) r := by
  rw [Survives, Survives, perform_query_bind ready]

/-- What follows on a part of the registry's state gets it. -/
theorem survives_get_bind (part : Registry → α) (f : α → Action β) :
    Survives (get part >>= f) r ↔ Survives (f (part r)) r := by
  rw [Survives, Survives, perform_get_bind]

/-- What follows on a check may rely on its success. -/
theorem Survives.check_bind {outcome : Except RegistryError α} (faultless : Faultless outcome)
    (rest : ∀ a, outcome = .ok a → Survives (f a) r) : Survives (Action.check outcome >>= f) r := by
  apply bind_reads (Reads.check outcome) (check faultless)
  intro a passed
  exact rest a (check_eq_ok.1 passed).1

/-- What follows on a lookup may rely on what was found. -/
theorem Survives.orElse_bind {found : Option α} (other : e ≠ .database)
    (rest : ∀ a, found = some a → Survives (f a) r) : Survives (Action.orElse e found >>= f) r := by
  apply bind_reads (Reads.orElse e found) (orElse other found)
  intro a passed
  exact rest a (orElse_eq_ok.1 passed).1

/-- Nothing follows on a refusal. -/
theorem Survives.throw_bind {f : PUnit → Action β} (other : e ≠ .database) :
    Survives (MonadExcept.throw e >>= f) r := by
  apply bind (throw other)
  intro _ _ thrown
  exact (throw_eq_ok.1 thrown).elim

/-- A registry that ran a statement can be read after it. -/
theorem ready_of_execute {r' : Registry} {statement : Statement α}
    {failure : StoreError → RegistryError} {a : α}
    (ran : (execute statement failure).perform r = (.ok a, r')) : r'.access = .ready := by
  obtain ⟨ready, _, _, rfl⟩ := execute_eq_ok.1 ran
  exact ready

end Action

end AssetRegistry
