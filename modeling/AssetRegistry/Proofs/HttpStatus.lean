import AssetRegistry.Http.Server

/-!
# The statuses of responses

Reading a request ends with a response of one of a few statuses, or with a call whose
success has one of three.  This is proved along the table of endpoints: `Expects` passes
through the parts of a request that an endpoint reads, each of which is refused with a
status of its own.  What a response says beyond these statuses comes from the operation.
-/

namespace AssetRegistry.Http

/-- The statuses of requests that come to no operation: there is nothing to do, the
    request cannot be read or is too large, there is no endpoint. -/
def unreadStatuses : List Nat :=
  [200, 400, 404, 405, 413, 415, 422]

/-- The statuses of operations that succeed. -/
def successStatuses : List Nat :=
  [200, 201, 204]

/-- A reading comes to a value with a property, or to one of the responses without an
    operation. -/
def Expects (reading : Reading α) (P : α → Prop) : Prop :=
  match reading with
  | .ok a => P a
  | .error response => response.status ∈ unreadStatuses

section Expects

variable {reading : Reading α} {P : α → Prop} {request : Request}

/-- What is read already meets what is expected of it. -/
@[simp]
theorem expects_pure {a : α} : Expects (pure a) P ↔ P a :=
  Iff.rfl

/-- A refusal is expected if its status is one of those of requests that are not read. -/
@[simp]
theorem expects_error {response : Response} :
    Expects (.error response) P ↔ response.status ∈ unreadStatuses :=
  Iff.rfl

/-- Of two parts that are read in a row, the second is expected to end as the whole. -/
@[simp]
theorem expects_bind {f : α → Reading β} {Q : β → Prop} :
    Expects (reading >>= f) Q ↔ Expects reading fun a => Expects (f a) Q := by
  cases reading <;> rfl

/-- A change of what was read is seen through. -/
@[simp]
theorem expects_map {f : α → β} {Q : β → Prop} :
    Expects (f <$> reading) Q ↔ Expects reading fun a => Q (f a) := by
  cases reading <;> rfl

/-- A part that is refused with statuses of the list only leaves the property to what it
    is read as. -/
theorem expects_iff (refused : Expects reading fun _ => True) :
    Expects reading P ↔ ∀ a, reading = .ok a → P a := by
  cases reading with
  | ok a => simp [Expects]
  | error response => simpa using refused

/-! ### Parts of requests -/

/-- A segment of the path is refused with one of the statuses, if at all. -/
@[simp]
theorem expects_parameter {segment : String} {P : String → Prop} :
    Expects (parameter segment) P ↔ ∀ a, parameter segment = .ok a → P a := by
  refine expects_iff ?_
  unfold parameter
  split <;> simp [Expects, Response.unreadable, unreadStatuses]

/-- A flag is refused with one of the statuses, if at all. -/
@[simp]
theorem expects_flag {name : String} {P : Bool → Prop} :
    Expects (flag name request) P ↔ ∀ a, flag name request = .ok a → P a := by
  refine expects_iff ?_
  unfold flag
  split <;> simp [Expects, Response.unreadable, unreadStatuses]

/-- A text of the query is refused with one of the statuses, if at all. -/
@[simp]
theorem expects_optionalText {name : String} {P : Option String → Prop} :
    Expects (optionalText name request) P ↔ ∀ a, optionalText name request = .ok a → P a := by
  refine expects_iff ?_
  unfold optionalText
  split <;> simp [Expects, Response.unreadable, unreadStatuses]

/-- A body is refused for its media type, for its size, for its text or for the value in
    it. -/
@[simp]
theorem expects_body {codec : Json.Codec α} :
    Expects (body codec request) P ↔ ∀ a, body codec request = .ok a → P a := by
  refine expects_iff ?_
  unfold body
  split
  · -- The media type is another one.
    simp [Response.unreadable, unreadStatuses]
  · split
    · -- There are too many bytes.
      simp [Response.unreadable, unreadStatuses]
    · split <;> simp [Expects, Response.unreadable, unreadStatuses]

/-- A name that is none is refused with one of the statuses. -/
@[simp]
theorem expects_named {outcome : Except String α} :
    Expects (named outcome) P ↔ ∀ a, named outcome = .ok a → P a := by
  refine expects_iff ?_
  cases outcome <;> simp [named, Expects, Response.message, unreadStatuses]

end Expects

/-! ### The table of endpoints -/

/-- An endpoint reads every request as a call with a status of success, or refuses it. -/
def Endpoint.Expected (endpoint : Endpoint) : Prop :=
  ∀ request, Expects (endpoint.read request) fun call => call.success ∈ successStatuses

variable {segments : List String} {found : List Endpoint}

/-- The endpoints of databases, assets and workflows are expected ones. -/
theorem catalogEndpoints_expected (h : catalogEndpoints segments = some found) :
    ∀ endpoint ∈ found, endpoint.Expected := by
  unfold catalogEndpoints at h
  split at h <;> simp only [Option.some.injEq, reduceCtorEq] at h <;> subst h <;>
    simp [Endpoint.Expected, assetParameter, includeArchived, successStatuses]

/-- The endpoints of links and their metadata are expected ones. -/
theorem linkEndpoints_expected (h : linkEndpoints segments = some found) :
    ∀ endpoint ∈ found, endpoint.Expected := by
  unfold linkEndpoints at h
  split at h <;> simp only [Option.some.injEq, reduceCtorEq] at h <;> subst h <;>
    simp [Endpoint.Expected, assetParameter, successStatuses]

/-- The endpoints of pipelines are expected ones. -/
theorem pipelineEndpoints_expected (h : pipelineEndpoints segments = some found) :
    ∀ endpoint ∈ found, endpoint.Expected := by
  unfold pipelineEndpoints at h
  split at h <;> simp only [Option.some.injEq, reduceCtorEq] at h <;> subst h <;>
    simp [Endpoint.Expected, includeArchived, successStatuses]

/-- The endpoints of executions are expected ones. -/
theorem executionEndpoints_expected (h : executionEndpoints segments = some found) :
    ∀ endpoint ∈ found, endpoint.Expected := by
  unfold executionEndpoints at h
  split at h <;> simp only [Option.some.injEq, reduceCtorEq] at h <;> subst h <;>
    simp [Endpoint.Expected, assetParameter, successStatuses]

/-- The endpoint of the health check is an expected one. -/
theorem healthEndpoints_expected (h : healthEndpoints segments = some found) :
    ∀ endpoint ∈ found, endpoint.Expected := by
  unfold healthEndpoints at h
  split at h <;> simp only [Option.some.injEq, reduceCtorEq] at h
  subst h
  simp [Endpoint.Expected, unreadStatuses]

/-- Whatever the path, its endpoints are expected ones. -/
theorem endpoints_expected (h : endpoints segments = some found) :
    ∀ endpoint ∈ found, endpoint.Expected := by
  unfold endpoints at h
  split at h
  · exact nomatch h
  · -- The first part of the table that has the path decides.
    simp only [Option.orElse_eq_orElse, Option.orElse_eq_or, Option.or_eq_some_iff] at h
    rcases h with health | ⟨_, catalog | ⟨_, link | ⟨_, pipeline | ⟨_, execution⟩⟩⟩⟩
    · exact healthEndpoints_expected health
    · exact catalogEndpoints_expected catalog
    · exact linkEndpoints_expected link
    · exact pipelineEndpoints_expected pipeline
    · exact executionEndpoints_expected execution

/-! ### Requests -/

/-- A request comes to a call with a status of success, or to a response without one. -/
theorem expects_interpret (request : Request) :
    Expects (interpret request) fun call => call.success ∈ successStatuses := by
  unfold interpret
  split
  · simp [Response.bare, unreadStatuses]
  · split
    · simp [Response.bare, unreadStatuses]
    · rename_i path
      obtain ⟨segments, _, table⟩ := Option.bind_eq_some_iff.1 path
      split
      · simp [Response.bare, unreadStatuses]
      · rename_i endpoint answering
        exact endpoints_expected table endpoint (List.mem_of_find?_eq_some answering) request

/-- A failed operation is answered with status 500 only if it failed through the store. -/
theorem errorStatus_eq_500_iff {e : RegistryError} :
    Response.errorStatus e = 500 ↔ e = .database := by
  cases e <;> simp [Response.errorStatus]

/-- What is sent has the status of the answer, also where the body is left out. -/
theorem status_sentTo (request : Request) (response : Response) :
    (response.sentTo request).status = response.status := by
  unfold Response.sentTo
  split <;> rfl

/-- A status of 500 tells that the request came to an operation which failed through the
    store. -/
theorem exists_of_status_eq_500 {request : Request} {r : Registry}
    (status : (handle request r).1.status = 500) :
    ∃ call r', interpret request = .ok call ∧
      call.operation.perform r = (.error .database, r') := by
  have expected := expects_interpret request
  unfold handle at status
  cases read : interpret request with
  | error response =>
    rw [read] at expected status
    simp only [status_sentTo] at status
    simp [status, unreadStatuses] at expected
  | ok call =>
    rw [read] at expected status
    rcases ran : call.operation.perform r with ⟨e | reply, r'⟩
    · have failed : Response.errorStatus e = 500 := by
        simpa [Call.perform, ran, status_sentTo, Response.ofError, Response.message] using status
      exact ⟨call, r', rfl, by rw [ran, errorStatus_eq_500_iff.1 failed]⟩
    · -- No status of success is 500.
      have succeeded : (call.response reply).status = 500 := by
        simpa [Call.perform, ran, status_sentTo] using status
      unfold Call.response at succeeded
      split at succeeded
      · simp [Response.bare] at succeeded
      · simp only at succeeded
        simp [Expects, succeeded, successStatuses] at expected

end AssetRegistry.Http
