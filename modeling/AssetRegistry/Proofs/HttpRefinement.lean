import AssetRegistry.Proofs.Reachable
import AssetRegistry.Proofs.Routes

/-!
# Requests refine operations

Whatever a request does to a registry is what the operation does that it asks for, and the
status of the response tells how the operation ended.  A request that asks for none, or is
answered with a status of an error at any stage, does nothing.  So a server comes to no
store that operations do not come to.
-/

namespace AssetRegistry

/-- Something that is stored already stands in the way. -/
def RegistryError.IsConflict : RegistryError → Prop
  | .duplicateLink _ | .duplicateMetadataKey _ | .alreadyExists _ | .executionAlreadyRunning
  | .invalidTransition .. => True
  | _ => False

namespace Http

/-! ### Statuses of operations -/

/-- The status of a response tells how an operation ended. -/
structure StatusTells (status : Nat) (outcome : Except RegistryError Reply) : Prop where
  success : 200 ≤ status ∧ status < 300 ↔ ∃ reply, outcome = .ok reply
  missing : status = 404 ↔ ∃ subject, outcome = .error (.notFound subject)
  conflict : status = 409 ↔ ∃ e, outcome = .error e ∧ e.IsConflict
  /-- Every other reason, except that the store failed. -/
  refused : status = 400 ↔
    ∃ e, outcome = .error e ∧ (∀ subject, e ≠ .notFound subject) ∧ ¬e.IsConflict ∧ e ≠ .database
  failed : status = 500 ↔ outcome = .error .database

/-- A status of success tells of success. -/
theorem statusTells_ok {status : Nat} (reply : Reply) (success : status ∈ successStatuses) :
    StatusTells status (.ok reply) := by
  have known : status = 200 ∨ status = 201 ∨ status = 204 := by
    simpa [successStatuses] using success
  rcases known with rfl | rfl | rfl <;> constructor <;> simp

/-- The status of an error tells what kind of error it was. -/
theorem statusTells_error (e : RegistryError) :
    StatusTells (Response.errorStatus e) (.error e) := by
  cases e <;> constructor <;> simp [Response.errorStatus, RegistryError.IsConflict]

variable {request : Request} {r : Registry} {operation : Operation}

/-! ### One request -/

/-- A request that asks for an operation is answered by running it. -/
theorem handle_of_asks (asks : request.Asks operation) :
    (handle request r).2 = (operation.perform r).2 ∧
      StatusTells (handle request r).1.status (operation.perform r).1 := by
  -- The request is read as a call of the operation, and the call runs it.
  obtain ⟨success, read⟩ := exists_interpret_of_asks asks
  have expected := expects_interpret request
  rw [read] at expected
  unfold handle
  rw [read]
  rcases ran : operation.perform r with ⟨e | reply, r'⟩
  · simp only [Call.perform, ran, status_sentTo]
    exact ⟨trivial, statusTells_error e⟩
  · have answered : (Call.response ⟨operation, success⟩ reply).status = success := by
      unfold Call.response
      split
      · rename_i empty
        exact empty.symm
      · rfl
    simpa [Call.perform, ran, status_sentTo, answered] using statusTells_ok reply expected

/-- A request that asks for nothing does nothing. -/
theorem handle_of_asks_nothing (asks : ∀ operation, ¬request.Asks operation) :
    (handle request r).2 = r := by
  unfold handle
  cases read : interpret request with
  | error response => rfl
  | ok call => exact absurd (asks_of_interpret read) (asks _)

/-- A request that is answered with the status of an error does nothing. -/
theorem handle_of_error (status : 400 ≤ (handle request r).1.status) :
    (handle request r).2 = r := by
  by_cases asks : ∃ operation, request.Asks operation
  · obtain ⟨operation, asks⟩ := asks
    obtain ⟨after, tells⟩ := handle_of_asks (r := r) asks
    rw [after]
    rcases ran : operation.perform r with ⟨e | reply, r'⟩
    · -- The operation was reached and failed, and what fails has written nothing.
      exact operation.atomic_run r e r' ran
    · -- Success has a lower status.
      have low := (tells.success.2 ⟨reply, by rw [ran]⟩).2
      omega
  · exact handle_of_asks_nothing fun operation asked => asks ⟨operation, asked⟩

/-! ### Servers -/

/-- What can happen to a registry that is reached through requests only. -/
inductive Serves (r : Registry) : Registry → Prop where
  | handle (request : Request) : Serves r (handle request r).2
  | tick : Serves r r.tick

/-- A registry that a server comes to that starts with a registry that was just set up. -/
def Served (linkLimit : Nat) (r : Registry) : Prop :=
  Relation.ReflTransGen Serves (Registry.fresh linkLimit) r

/-- A request does nothing or performs an operation. -/
theorem Serves.leadsTo {r r' : Registry} (serves : Serves r r') : r.LeadsTo r' := by
  cases serves with
  | handle request =>
    by_cases asks : ∃ operation, request.Asks operation
    · obtain ⟨operation, asks⟩ := asks
      rw [(handle_of_asks asks).1]
      exact .single (.perform operation)
    · rw [handle_of_asks_nothing fun operation asked => asks ⟨operation, asked⟩]
      exact .refl
  | tick => exact .single .tick

/-- A server comes to no other registries than operations do. -/
theorem Served.reachable {linkLimit : Nat} {r : Registry} (served : Served linkLimit r) :
    r.Reachable linkLimit := by
  induction served with
  | refl => exact .refl
  | tail _ serves ih => exact ih.trans serves.leadsTo

/-- Requests refine operations.  A request asks for one operation at most.  If it asks for
    one, the registry is left as by that operation, and the status tells its outcome; if it
    asks for none, nothing is written.  A status of 400 or more leaves the registry as it
    was, whatever it is for.  A server comes only to what operations come to. -/
theorem requests_refine_operations (request : Request) (r : Registry) :
    (∀ operation operation', request.Asks operation → request.Asks operation' →
      operation = operation') ∧
    (∀ operation, request.Asks operation →
      (handle request r).2 = (operation.perform r).2 ∧
        StatusTells (handle request r).1.status (operation.perform r).1) ∧
    ((∀ operation, ¬request.Asks operation) → (handle request r).2 = r) ∧
    (400 ≤ (handle request r).1.status → (handle request r).2 = r) ∧
    ∀ linkLimit, Served linkLimit r → r.Reachable linkLimit :=
  ⟨fun _ _ => Request.Asks.unique, fun _ => handle_of_asks, handle_of_asks_nothing,
    handle_of_error, fun _ => Served.reachable⟩

/-- A deletion for good of the hall of a plant, which is named with an escape. -/
def hallDeletion : Request :=
  ⟨"DELETE", "/databases/plant/assets/h%61ll?permanent=true", none, []⟩

/-- A link with a body that is not marked as JSON. -/
def unmarkedLink : Request :=
  ⟨"POST", "/asset-links", some "text/plain", Text.Utf8.encode ['\x7b', '\x7d']⟩

/-- The hall of the plant is deleted as by the operation.  A body that is not marked as JSON
    does nothing. -/
theorem requests_refine_operations_plant :
    hallDeletion.Asks (.deleteAsset ⟨"plant", "hall"⟩) ∧
      (handle hallDeletion Registry.plant).2 =
        ((Operation.deleteAsset ⟨"plant", "hall"⟩).perform Registry.plant).2 ∧
      400 ≤ (handle unmarkedLink Registry.plant).1.status ∧
      (handle unmarkedLink Registry.plant).2 = Registry.plant := by
  have segments : hallDeletion.segments? = some ["databases", "plant", "assets", "h%61ll"] := by
    decide +kernel
  have written : List.Forall₂ PathPart.IsWritten
      [.fixed "databases", .given "plant", .fixed "assets", .given "hall"]
      ["databases", "plant", "assets", "h%61ll"] :=
    .cons rfl (.cons (by decide +kernel) (.cons rfl (.cons (by decide +kernel) .nil)))
  have flag : hallDeletion.Flags "permanent" true := by decide +kernel
  -- The path is written with an escape, which stands for a letter of the name.
  have asks : hallDeletion.Asks (.deleteAsset ⟨"plant", "hall"⟩) :=
    .deleteAsset rfl ⟨_, segments, by decide, written⟩ flag
  have refused : 400 ≤ (handle unmarkedLink Registry.plant).1.status := by decide +kernel
  exact ⟨asks, ((requests_refine_operations _ _).2.1 _ asks).1, refused,
    (requests_refine_operations _ _).2.2.2.1 refused⟩

end Http

end AssetRegistry
