import AssetRegistry.Proofs.BodyText
import AssetRegistry.Proofs.HttpStatus
import Mathlib.Data.List.Forall2

/-!
# What requests ask for

`Request.Asks` lists once which operation a method, a path, a query and a body name.  It
does not know of the table of endpoints, of the order in which the parts of a request are
read, or of what is answered to a request that cannot be read.  A request is read as a call
of an operation exactly where it asks for that operation (`exists_interpret_eq_iff_asks`),
and so it asks for one operation at most.
-/

namespace AssetRegistry.Http

/-! ### Parts of requests -/

/-- A part of a path: a text that has to stand there, or a value that is given there. -/
inductive PathPart where
  | fixed (text : String)
  | given (value : String)

/-- What a part of a path is written as.  A value may be written with escapes. -/
def PathPart.IsWritten : PathPart → String → Prop
  | fixed text, segment => segment = text
  | given value, segment => Percent.decodePath? segment.toList = some value

instance : (part : PathPart) → (segment : String) → Decidable (part.IsWritten segment)
  | .fixed text, segment => inferInstanceAs (Decidable (segment = text))
  | .given value, segment =>
    inferInstanceAs (Decidable (Percent.decodePath? segment.toList = some value))

namespace Request

variable (request : Request)

/-- The path of a request consists of some parts, the last of which is not empty. -/
def Follows (parts : List PathPart) : Prop :=
  ∃ segments, request.segments? = some segments ∧ segments.getLast? ≠ some "" ∧
    List.Forall₂ PathPart.IsWritten parts segments

/-- A request reads.  `HEAD` asks for what `GET` asks for. -/
def Gets : Prop :=
  request.method = "GET" ∨ request.method = "HEAD"

/-- The query of a request sets a name to a truth value, or does not have it, which is
    false. -/
def Flags (name : String) (value : Bool) : Prop :=
  Query.flag name request.query = .ok value

instance (name : String) (value : Bool) : Decidable (request.Flags name value) :=
  inferInstanceAs (Decidable (Query.flag name request.query = .ok value))

/-- The query of a request has a text under a name, or does not have the name. -/
def Names (name : String) (text? : Option String) : Prop :=
  Query.text name request.query = .ok text?

/-- The body of a request is marked as JSON, is no larger than bodies may be, and starts
    with a value. -/
def Carries (codec : Json.Codec α) (value : α) : Prop :=
  request.contentType.any MediaType.isJson ∧ request.body.length ≤ maxBodyBytes ∧
    Json.decodeFront codec.decode request.body = .ok value

variable {request} in
/-- A request whose body is a text in UTF-8 carries what the text is read as. -/
theorem carries_of_ofText {codec : Json.Codec α} {text : String} {value : α}
    (marked : request.contentType.any MediaType.isJson) (small : request.body.length ≤ maxBodyBytes)
    (encoded : request.body = Text.Utf8.encode text.toList) (read : codec.ofText text = .ok value) :
    request.Carries codec value := by
  refine ⟨marked, small, ?_⟩
  rw [encoded]
  exact Json.Codec.decodeFront_of_ofText read

/-! ### The routes -/

/-- The operation that a request asks for, with its arguments. -/
inductive Asks : Operation → Prop where
  | listDatabases {includeArchived : Bool} (method : request.Gets)
      (path : request.Follows [.fixed "databases"])
      (flag : request.Flags "includeArchived" includeArchived) :
    Asks (.listDatabases includeArchived)
  | createDatabase {new : NewDatabase} (method : request.method = "POST")
      (path : request.Follows [.fixed "databases"])
      (body : request.Carries NewDatabase.codec new) :
    Asks (.createDatabase new)
  | getDatabase {databaseId : String} (method : request.Gets)
      (path : request.Follows [.fixed "databases", .given databaseId]) :
    Asks (.getDatabase databaseId)
  | archiveDatabase {databaseId : String} (method : request.method = "DELETE")
      (path : request.Follows [.fixed "databases", .given databaseId]) :
    Asks (.archiveDatabase databaseId)
  | listAssets {databaseId : String} {includeArchived : Bool} (method : request.Gets)
      (path : request.Follows [.fixed "databases", .given databaseId, .fixed "assets"])
      (flag : request.Flags "includeArchived" includeArchived) :
    Asks (.listAssets databaseId includeArchived)
  | createAsset {databaseId : String} {new : NewAsset} (method : request.method = "POST")
      (path : request.Follows [.fixed "databases", .given databaseId, .fixed "assets"])
      (body : request.Carries NewAsset.codec new) :
    Asks (.createAsset databaseId new)
  | getAsset {key : AssetKey} (method : request.Gets)
      (path : request.Follows
        [.fixed "databases", .given key.databaseId, .fixed "assets", .given key.assetId]) :
    Asks (.getAsset key)
  | archiveAsset {key : AssetKey} (method : request.method = "DELETE")
      (path : request.Follows
        [.fixed "databases", .given key.databaseId, .fixed "assets", .given key.assetId])
      (flag : request.Flags "permanent" false) :
    Asks (.archiveAsset key)
  | deleteAsset {key : AssetKey} (method : request.method = "DELETE")
      (path : request.Follows
        [.fixed "databases", .given key.databaseId, .fixed "assets", .given key.assetId])
      (flag : request.Flags "permanent" true) :
    Asks (.deleteAsset key)
  | restoreAsset {key : AssetKey} (method : request.method = "POST")
      (path : request.Follows
        [.fixed "databases", .given key.databaseId, .fixed "assets", .given key.assetId,
          .fixed "restore"]) :
    Asks (.restoreAsset key)
  | listLinks {key : AssetKey} {childTreeView : Bool} (method : request.Gets)
      (path : request.Follows
        [.fixed "databases", .given key.databaseId, .fixed "assets", .given key.assetId,
          .fixed "asset-links"])
      (flag : request.Flags "childTreeView" childTreeView) :
    Asks (.listLinks key childTreeView)
  | createLink {new : NewAssetLink} (method : request.method = "POST")
      (path : request.Follows [.fixed "asset-links"])
      (body : request.Carries NewAssetLink.codec new) :
    Asks (.createLink new)
  | getLink {assetLinkId : String} (method : request.Gets)
      (path : request.Follows [.fixed "asset-links", .given assetLinkId]) :
    Asks (.getLink assetLinkId)
  | updateLinkTags {assetLinkId : String} {update : TagUpdate} (method : request.method = "PUT")
      (path : request.Follows [.fixed "asset-links", .given assetLinkId])
      (body : request.Carries TagUpdate.codec update) :
    Asks (.updateLinkTags assetLinkId update.tags)
  | deleteLink {assetLinkId : String} (method : request.method = "DELETE")
      (path : request.Follows [.fixed "asset-links", .given assetLinkId]) :
    Asks (.deleteLink assetLinkId)
  | listMetadata {assetLinkId : String} (method : request.Gets)
      (path : request.Follows [.fixed "asset-links", .given assetLinkId, .fixed "metadata"]) :
    Asks (.listMetadata assetLinkId)
  | createMetadata {assetLinkId : String} {new : NewMetadata} {type : ValueType}
      (method : request.method = "POST")
      (path : request.Follows [.fixed "asset-links", .given assetLinkId, .fixed "metadata"])
      (body : request.Carries NewMetadata.codec new)
      (known : ValueType.parse new.metadataValueType = .ok type) :
    Asks (.createMetadata ⟨assetLinkId, new.metadataKey, new.metadataValue, type⟩)
  | updateMetadata {assetLinkId metadataKey : String} {update : MetadataUpdate}
      {type : ValueType} (method : request.method = "PUT")
      (path : request.Follows
        [.fixed "asset-links", .given assetLinkId, .fixed "metadata", .given metadataKey])
      (body : request.Carries MetadataUpdate.codec update)
      (known : ValueType.parse update.metadataValueType = .ok type) :
    Asks (.updateMetadata ⟨assetLinkId, metadataKey, update.metadataValue, type⟩)
  | deleteMetadata {assetLinkId metadataKey : String} (method : request.method = "DELETE")
      (path : request.Follows
        [.fixed "asset-links", .given assetLinkId, .fixed "metadata", .given metadataKey]) :
    Asks (.deleteMetadata assetLinkId metadataKey)
  | listPipelines {databaseId : String} {includeArchived : Bool} (method : request.Gets)
      (path : request.Follows [.fixed "databases", .given databaseId, .fixed "pipelines"])
      (flag : request.Flags "includeArchived" includeArchived) :
    Asks (.listPipelines databaseId includeArchived)
  | createPipeline {databaseId : String} {new : NewPipeline} (method : request.method = "POST")
      (path : request.Follows [.fixed "databases", .given databaseId, .fixed "pipelines"])
      (body : request.Carries NewPipeline.codec new) :
    Asks (.createPipeline databaseId new)
  | setPipelineEnabled {ref : PipelineRef} {update : EnabledUpdate}
      (method : request.method = "PUT")
      (path : request.Follows
        [.fixed "databases", .given ref.databaseId, .fixed "pipelines", .given ref.pipelineId,
          .fixed "enabled"])
      (body : request.Carries EnabledUpdate.codec update) :
    Asks (.setPipelineEnabled ref update.enabled)
  | listWorkflows {databaseId : String} {includeArchived : Bool} (method : request.Gets)
      (path : request.Follows [.fixed "databases", .given databaseId, .fixed "workflows"])
      (flag : request.Flags "includeArchived" includeArchived) :
    Asks (.listWorkflows databaseId includeArchived)
  | createWorkflow {databaseId : String} {new : NewWorkflow} (method : request.method = "POST")
      (path : request.Follows [.fixed "databases", .given databaseId, .fixed "workflows"])
      (body : request.Carries NewWorkflow.codec new) :
    Asks (.createWorkflow databaseId new)
  | archiveWorkflow {key : WorkflowKey} (method : request.method = "DELETE")
      (path : request.Follows
        [.fixed "databases", .given key.databaseId, .fixed "workflows", .given key.workflowId]) :
    Asks (.archiveWorkflow key)
  | startExecution {start : StartExecution} (method : request.method = "POST")
      (path : request.Follows
        [.fixed "databases", .given start.databaseId, .fixed "assets", .given start.assetId,
          .fixed "workflows", .given start.workflowId])
      (home : request.Names "workflowDatabaseId" start.workflowDatabaseId) :
    Asks (.startExecution start)
  | listExecutions {key : AssetKey} {workflowId : String} (method : request.Gets)
      (path : request.Follows
        [.fixed "databases", .given key.databaseId, .fixed "assets", .given key.assetId,
          .fixed "workflows", .given workflowId, .fixed "executions"]) :
    Asks (.listExecutions key workflowId)
  | updateExecutionStatus {key : ExecutionKey} {update : StatusUpdate} {status : ExecutionStatus}
      (method : request.method = "PUT")
      (path : request.Follows
        [.fixed "workflows", .given key.workflowDatabaseId, .given key.workflowId,
          .fixed "executions", .given key.executionId, .fixed "status"])
      (body : request.Carries StatusUpdate.codec update)
      (known : ExecutionStatus.parse update.status = .ok status) :
    Asks (.updateExecutionStatus key status)

end Request

/-! ### Readings that succeed -/

section Readings

variable {request : Request}

/-- Two parts are read where the first is, and then the second. -/
theorem bind_eq_ok {reading : Reading α} {f : α → Reading β} {b : β} :
    (reading >>= f) = .ok b ↔ ∃ a, reading = .ok a ∧ f a = .ok b := by
  cases reading <;> simp [bind, Except.bind]

/-- What is there already is read as it is. -/
theorem pure_eq_ok {a a' : α} : (pure a : Reading α) = .ok a' ↔ a = a' :=
  Except.ok.injEq a a' ▸ Iff.rfl

/-- What follows on a part that was read gets it. -/
@[simp]
theorem ok_bind {f : α → Reading β} {a : α} : (Except.ok a >>= f : Reading β) = f a :=
  rfl

/-- A parameter is the segment without its escapes. -/
theorem parameter_eq_ok {segment value : String} :
    parameter segment = .ok value ↔ Percent.decodePath? segment.toList = some value := by
  unfold parameter
  cases Percent.decodePath? segment.toList <;> simp

/-- An asset is named by two segments without their escapes. -/
theorem assetParameter_eq_ok {databaseId assetId : String} {key : AssetKey} :
    assetParameter databaseId assetId = .ok key ↔
      Percent.decodePath? databaseId.toList = some key.databaseId ∧
        Percent.decodePath? assetId.toList = some key.assetId := by
  simp only [assetParameter, bind_eq_ok, parameter_eq_ok, pure_eq_ok]
  constructor
  · rintro ⟨_, database, _, asset, rfl⟩
    exact ⟨database, asset⟩
  · rintro ⟨database, asset⟩
    exact ⟨_, database, _, asset, rfl⟩

/-- A flag is read as the query sets it. -/
theorem flag_eq_ok {name : String} {value : Bool} :
    flag name request = .ok value ↔ request.Flags name value := by
  unfold flag Request.Flags
  cases Query.flag name request.query <;> simp

/-- A text is read as the query gives it. -/
theorem optionalText_eq_ok {name : String} {text? : Option String} :
    optionalText name request = .ok text? ↔ request.Names name text? := by
  unfold optionalText Request.Names
  cases Query.text name request.query <;> simp

/-- A body is read where the request carries a value. -/
theorem body_eq_ok {codec : Json.Codec α} {value : α} :
    body codec request = .ok value ↔ request.Carries codec value := by
  unfold body Request.Carries
  cases request.contentType.any MediaType.isJson with
  | false => simp
  | true =>
    by_cases large : maxBodyBytes < request.body.length
    · simp [large, Nat.not_le.2 large]
    · rcases Json.decodeFront codec.decode request.body with (_ | _) | _ <;>
        simp [large, Nat.not_lt.1 large]

/-- A name is read where it is one. -/
theorem named_eq_ok {outcome : Except String α} {value : α} :
    named outcome = .ok value ↔ outcome = .ok value := by
  cases outcome <;> simp [named]

end Readings

/-! ### Methods -/

/-- What answers a question also answers when only the head of the answer is wanted. -/
theorem answeringMethod_eq_get {method : String} :
    answeringMethod method = "GET" ↔ method = "GET" ∨ method = "HEAD" := by
  unfold answeringMethod
  split <;> simp_all

/-- Only a reading is answered under another method than its own. -/
theorem answeringMethod_eq {method other : String} (writes : other ≠ "GET")
    (known : other ≠ "HEAD") : answeringMethod method = other ↔ method = other := by
  unfold answeringMethod
  split
  · rename_i head
    simp [head, Ne.symm writes, Ne.symm known]
  · rfl

/-! ### What endpoints read is asked for -/

/-- Whatever an endpoint reads a request as, where it answers the method, is what the
    request asks for. -/
def Endpoint.Serves (endpoint : Endpoint) (request : Request) : Prop :=
  answeringMethod request.method = endpoint.method → ∀ call, endpoint.read request = .ok call →
    request.Asks call.operation

section Serves

variable {request : Request} {segments : List String} {found : List Endpoint}

/-- The endpoints of databases, assets and workflows serve what the paths ask for. -/
theorem catalogEndpoints_serve (path : request.segments? = some segments)
    (ending : segments.getLast? ≠ some "") (table : catalogEndpoints segments = some found) :
    ∀ endpoint ∈ found, endpoint.Serves request := by
  have follows {parts : List PathPart} (h : List.Forall₂ PathPart.IsWritten parts segments) :
      request.Follows parts := ⟨segments, path, ending, h⟩
  unfold catalogEndpoints at table
  -- One goal for each path of the table, with what its endpoints read taken apart.
  split at table <;> simp only [Option.some.injEq, reduceCtorEq] at table <;> subst table <;>
    simp only [List.forall_mem_cons, List.not_mem_nil, false_implies, implies_true, and_true,
      Endpoint.Serves, answeringMethod_eq_get, ne_eq, String.reduceEq, not_false_eq_true,
      answeringMethod_eq, includeArchived, bind_eq_ok, parameter_eq_ok, assetParameter_eq_ok,
      flag_eq_ok, body_eq_ok, pure_eq_ok]
  · -- databases
    constructor
    · rintro method _ ⟨_, flag, rfl⟩
      exact .listDatabases method (follows (.cons rfl .nil)) flag
    · rintro method _ ⟨_, body, rfl⟩
      exact .createDatabase method (follows (.cons rfl .nil)) body
  · -- one database
    constructor
    · rintro method _ ⟨_, database, rfl⟩
      exact .getDatabase method (follows (.cons rfl (.cons database .nil)))
    · rintro method _ ⟨_, database, rfl⟩
      exact .archiveDatabase method (follows (.cons rfl (.cons database .nil)))
  · -- its assets
    constructor
    · rintro method _ ⟨_, database, _, flag, rfl⟩
      exact .listAssets method (follows (.cons rfl (.cons database (.cons rfl .nil)))) flag
    · rintro method _ ⟨_, database, _, body, rfl⟩
      exact .createAsset method (follows (.cons rfl (.cons database (.cons rfl .nil)))) body
  · -- one asset
    have key {a : AssetKey} {databaseId assetId : String}
        (database : Percent.decodePath? databaseId.toList = some a.databaseId)
        (asset : Percent.decodePath? assetId.toList = some a.assetId) :
        List.Forall₂ PathPart.IsWritten
          [.fixed "databases", .given a.databaseId, .fixed "assets", .given a.assetId]
          ["databases", databaseId, "assets", assetId] :=
      .cons rfl (.cons database (.cons rfl (.cons asset .nil)))
    constructor
    · rintro method _ ⟨_, ⟨database, asset⟩, rfl⟩
      exact .getAsset method (follows (key database asset))
    · rintro method _ ⟨_, ⟨database, asset⟩, permanent, flag, rfl⟩
      cases permanent with
      | false => exact .archiveAsset method (follows (key database asset)) flag
      | true => exact .deleteAsset method (follows (key database asset)) flag
  · -- its return from the archive
    rintro method _ ⟨_, ⟨database, asset⟩, rfl⟩
    exact .restoreAsset method
      (follows (.cons rfl (.cons database (.cons rfl (.cons asset (.cons rfl .nil))))))

/-- The endpoints of links and their metadata serve what the paths ask for. -/
theorem linkEndpoints_serve (path : request.segments? = some segments)
    (ending : segments.getLast? ≠ some "") (table : linkEndpoints segments = some found) :
    ∀ endpoint ∈ found, endpoint.Serves request := by
  have follows {parts : List PathPart} (h : List.Forall₂ PathPart.IsWritten parts segments) :
      request.Follows parts := ⟨segments, path, ending, h⟩
  unfold linkEndpoints at table
  split at table <;> simp only [Option.some.injEq, reduceCtorEq] at table <;> subst table <;>
    simp only [List.forall_mem_cons, List.not_mem_nil, false_implies, implies_true, and_true,
      Endpoint.Serves, answeringMethod_eq_get, ne_eq, String.reduceEq, not_false_eq_true,
      answeringMethod_eq, bind_eq_ok, parameter_eq_ok, assetParameter_eq_ok, flag_eq_ok,
      body_eq_ok, named_eq_ok, pure_eq_ok]
  · -- the links of an asset
    rintro method _ ⟨_, ⟨database, asset⟩, _, flag, rfl⟩
    exact .listLinks method
      (follows (.cons rfl (.cons database (.cons rfl (.cons asset (.cons rfl .nil)))))) flag
  · -- all links
    rintro method _ ⟨_, body, rfl⟩
    exact .createLink method (follows (.cons rfl .nil)) body
  · -- one link
    refine ⟨?_, ?_, ?_⟩
    · rintro method _ ⟨_, link, rfl⟩
      exact .getLink method (follows (.cons rfl (.cons link .nil)))
    · rintro method _ ⟨_, link, _, body, rfl⟩
      exact .updateLinkTags method (follows (.cons rfl (.cons link .nil))) body
    · rintro method _ ⟨_, link, rfl⟩
      exact .deleteLink method (follows (.cons rfl (.cons link .nil)))
  · -- its metadata
    constructor
    · rintro method _ ⟨_, link, rfl⟩
      exact .listMetadata method (follows (.cons rfl (.cons link (.cons rfl .nil))))
    · rintro method _ ⟨_, link, _, body, _, known, rfl⟩
      exact .createMetadata method (follows (.cons rfl (.cons link (.cons rfl .nil)))) body known
  · -- one value of it
    constructor
    · rintro method _ ⟨_, link, _, key, _, body, _, known, rfl⟩
      exact .updateMetadata method
        (follows (.cons rfl (.cons link (.cons rfl (.cons key .nil))))) body known
    · rintro method _ ⟨_, link, _, key, rfl⟩
      exact .deleteMetadata method (follows (.cons rfl (.cons link (.cons rfl (.cons key .nil)))))

/-- The endpoints of pipelines serve what the paths ask for. -/
theorem pipelineEndpoints_serve (path : request.segments? = some segments)
    (ending : segments.getLast? ≠ some "") (table : pipelineEndpoints segments = some found) :
    ∀ endpoint ∈ found, endpoint.Serves request := by
  have follows {parts : List PathPart} (h : List.Forall₂ PathPart.IsWritten parts segments) :
      request.Follows parts := ⟨segments, path, ending, h⟩
  unfold pipelineEndpoints at table
  split at table <;> simp only [Option.some.injEq, reduceCtorEq] at table <;> subst table <;>
    simp only [List.forall_mem_cons, List.not_mem_nil, false_implies, implies_true, and_true,
      Endpoint.Serves, answeringMethod_eq_get, ne_eq, String.reduceEq, not_false_eq_true,
      answeringMethod_eq, includeArchived, bind_eq_ok, parameter_eq_ok, flag_eq_ok, body_eq_ok,
      pure_eq_ok]
  · -- the pipelines of a database
    constructor
    · rintro method _ ⟨_, database, _, flag, rfl⟩
      exact .listPipelines method (follows (.cons rfl (.cons database (.cons rfl .nil)))) flag
    · rintro method _ ⟨_, database, _, body, rfl⟩
      exact .createPipeline method (follows (.cons rfl (.cons database (.cons rfl .nil)))) body
  · -- one pipeline
    rintro method _ ⟨databaseId, database, pipelineId, pipeline, _, body, rfl⟩
    exact @Request.Asks.setPipelineEnabled _ ⟨databaseId, pipelineId⟩ _ method
      (follows (.cons rfl (.cons database (.cons rfl (.cons pipeline (.cons rfl .nil)))))) body
  · -- the workflows of a database
    constructor
    · rintro method _ ⟨_, database, _, flag, rfl⟩
      exact .listWorkflows method (follows (.cons rfl (.cons database (.cons rfl .nil)))) flag
    · rintro method _ ⟨_, database, _, body, rfl⟩
      exact .createWorkflow method (follows (.cons rfl (.cons database (.cons rfl .nil)))) body
  · -- one workflow
    rintro method _ ⟨databaseId, database, workflowId, workflow, rfl⟩
    exact @Request.Asks.archiveWorkflow _ ⟨databaseId, workflowId⟩ method
      (follows (.cons rfl (.cons database (.cons rfl (.cons workflow .nil)))))

/-- The endpoints of executions serve what the paths ask for. -/
theorem executionEndpoints_serve (path : request.segments? = some segments)
    (ending : segments.getLast? ≠ some "") (table : executionEndpoints segments = some found) :
    ∀ endpoint ∈ found, endpoint.Serves request := by
  have follows {parts : List PathPart} (h : List.Forall₂ PathPart.IsWritten parts segments) :
      request.Follows parts := ⟨segments, path, ending, h⟩
  unfold executionEndpoints at table
  split at table <;> simp only [Option.some.injEq, reduceCtorEq] at table <;> subst table <;>
    simp only [List.forall_mem_cons, List.not_mem_nil, false_implies, implies_true, and_true,
      Endpoint.Serves, answeringMethod_eq_get, ne_eq, String.reduceEq, not_false_eq_true,
      answeringMethod_eq, bind_eq_ok, parameter_eq_ok, assetParameter_eq_ok, optionalText_eq_ok,
      body_eq_ok, named_eq_ok, pure_eq_ok]
  · -- a workflow on an asset
    rintro method _ ⟨key, ⟨database, asset⟩, workflowId, workflow, _, home, rfl⟩
    exact @Request.Asks.startExecution _ ⟨key.databaseId, key.assetId, workflowId, _⟩ method
      (follows (.cons rfl (.cons database (.cons rfl (.cons asset (.cons rfl
        (.cons workflow .nil))))))) home
  · -- its executions
    rintro method _ ⟨_, ⟨database, asset⟩, _, workflow, rfl⟩
    exact .listExecutions method
      (follows (.cons rfl (.cons database (.cons rfl (.cons asset (.cons rfl
        (.cons workflow (.cons rfl .nil))))))))
  · -- the status of one
    rintro method _ ⟨databaseId, database, workflowId, workflow, executionId, execution, _, body, _,
      known, rfl⟩
    exact @Request.Asks.updateExecutionStatus _ ⟨databaseId, workflowId, executionId⟩ _ _ method
      (follows (.cons rfl (.cons database (.cons workflow (.cons rfl (.cons execution
        (.cons rfl .nil))))))) body known

/-- The endpoint of the health check serves no operation. -/
theorem healthEndpoints_serve (table : healthEndpoints segments = some found) :
    ∀ endpoint ∈ found, endpoint.Serves request := by
  unfold healthEndpoints at table
  split at table <;> simp only [Option.some.injEq, reduceCtorEq] at table
  subst table
  simp [Endpoint.Serves]

/-- Whatever the path, its endpoints serve what it asks for. -/
theorem endpoints_serve (path : request.segments? = some segments)
    (table : endpoints segments = some found) : ∀ endpoint ∈ found, endpoint.Serves request := by
  unfold endpoints at table
  split at table
  · exact nomatch table
  · rename_i ending
    simp only [Option.orElse_eq_orElse, Option.orElse_eq_or, Option.or_eq_some_iff] at table
    -- The tables are asked one after another, and the first one that knows the path answers.
    rcases table with health | ⟨_, catalog | ⟨_, link | ⟨_, pipeline | ⟨_, execution⟩⟩⟩⟩
    · exact healthEndpoints_serve health
    · exact catalogEndpoints_serve path ending catalog
    · exact linkEndpoints_serve path ending link
    · exact pipelineEndpoints_serve path ending pipeline
    · exact executionEndpoints_serve path ending execution

end Serves

/-- A request that is read as a call asks for the operation of the call. -/
theorem asks_of_interpret {request : Request} {call : Call}
    (read : interpret request = .ok call) : request.Asks call.operation := by
  unfold interpret at read
  split at read
  · exact nomatch read
  · split at read
    · exact nomatch read
    · -- The path is known, so the endpoint that answers is in its table.
      rename_i path
      obtain ⟨segments, path, table⟩ := Option.bind_eq_some_iff.1 path
      split at read
      · exact nomatch read
      · rename_i endpoint answering
        have method := List.find?_some answering
        exact endpoints_serve path table endpoint (List.mem_of_find?_eq_some answering)
          (of_decide_eq_true method).symm call read

/-! ### What is asked for is read -/

/-- What the endpoints of a path read a request as that is answered under a method. -/
def readAlong (segments : List String) (method : String) (request : Request) : Reading Call :=
  match healthEndpoints segments <|> catalogEndpoints segments <|> linkEndpoints segments <|>
      pipelineEndpoints segments <|> executionEndpoints segments with
  | none => .error (.bare 404)
  | some found =>
    match found.find? (·.method = method) with
    | none => .error (.bare 405)
    | some endpoint => endpoint.read request

section Path

variable {request : Request} {segments : List String} {method : String}

/-- A path that does not end in a slash is read along its segments. -/
theorem interpret_of_path (path : request.segments? = some segments)
    (ending : segments.getLast? ≠ some "") (answered : answeringMethod request.method = method)
    (other : method ≠ "OPTIONS") : interpret request = readAlong segments method request := by
  have notOptions : request.method ≠ "OPTIONS" := by
    intro options
    rw [options] at answered
    exact other answered.symm
  rw [interpret, if_neg notOptions, path, answered, Option.bind_some, endpoints, if_neg ending]
  rfl

/-- A question is read along the path, with or without a body of its answer. -/
theorem interpret_of_gets (path : request.segments? = some segments)
    (ending : segments.getLast? ≠ some "") (gets : request.Gets) :
    interpret request = readAlong segments "GET" request :=
  interpret_of_path path ending (answeringMethod_eq_get.2 gets) (by decide)

/-- A request with a method that writes is read along the path. -/
theorem interpret_of_writes (path : request.segments? = some segments)
    (ending : segments.getLast? ≠ some "") (writes : request.method = method)
    (known : method ∈ ["POST", "PUT", "DELETE"]) :
    interpret request = readAlong segments method request := by
  have others : method ≠ "GET" ∧ method ≠ "HEAD" ∧ method ≠ "OPTIONS" := by
    refine ⟨?_, ?_, ?_⟩ <;> rintro rfl <;> simp at known
  exact interpret_of_path path ending ((answeringMethod_eq others.1 others.2.1).2 writes)
    others.2.2

end Path

section Tables

attribute [local simp] readAlong healthEndpoints catalogEndpoints linkEndpoints pipelineEndpoints
  executionEndpoints includeArchived

/-- A request that asks for an operation is read as a call of it. -/
theorem exists_interpret_of_asks {request : Request} {operation : Operation}
    (asks : request.Asks operation) :
    ∃ success, interpret request = .ok ⟨operation, success⟩ := by
  -- In each case the segments of the path are written out first.  They and the method choose
  -- the endpoint, whose parts are then read one by one.
  cases asks with
  | listDatabases method path flag =>
    obtain ⟨_, path, ending, _ | ⟨rfl, ⟨⟩⟩⟩ := path
    refine ⟨200, ?_⟩
    rw [interpret_of_gets path ending method]
    simp [flag_eq_ok.2 flag]
  | createDatabase method path body =>
    obtain ⟨_, path, ending, _ | ⟨rfl, ⟨⟩⟩⟩ := path
    refine ⟨201, ?_⟩
    rw [interpret_of_writes path ending method (by decide)]
    simp [body_eq_ok.2 body]
  | getDatabase method path =>
    obtain ⟨_, path, ending, _ | ⟨rfl, _ | ⟨database, ⟨⟩⟩⟩⟩ := path
    refine ⟨200, ?_⟩
    rw [interpret_of_gets path ending method]
    simp [parameter_eq_ok.2 database]
  | archiveDatabase method path =>
    obtain ⟨_, path, ending, _ | ⟨rfl, _ | ⟨database, ⟨⟩⟩⟩⟩ := path
    refine ⟨204, ?_⟩
    rw [interpret_of_writes path ending method (by decide)]
    simp [parameter_eq_ok.2 database]
  | listAssets method path flag =>
    obtain ⟨_, path, ending, _ | ⟨rfl, _ | ⟨database, _ | ⟨rfl, ⟨⟩⟩⟩⟩⟩ := path
    refine ⟨200, ?_⟩
    rw [interpret_of_gets path ending method]
    simp [parameter_eq_ok.2 database, flag_eq_ok.2 flag]
  | createAsset method path body =>
    obtain ⟨_, path, ending, _ | ⟨rfl, _ | ⟨database, _ | ⟨rfl, ⟨⟩⟩⟩⟩⟩ := path
    refine ⟨201, ?_⟩
    rw [interpret_of_writes path ending method (by decide)]
    simp [parameter_eq_ok.2 database, body_eq_ok.2 body]
  | getAsset method path =>
    obtain ⟨_, path, ending, _ | ⟨rfl, _ | ⟨database, _ | ⟨rfl, _ | ⟨asset, ⟨⟩⟩⟩⟩⟩⟩ := path
    refine ⟨200, ?_⟩
    rw [interpret_of_gets path ending method]
    simp [assetParameter_eq_ok.2 ⟨database, asset⟩]
  | archiveAsset method path flag =>
    obtain ⟨_, path, ending, _ | ⟨rfl, _ | ⟨database, _ | ⟨rfl, _ | ⟨asset, ⟨⟩⟩⟩⟩⟩⟩ := path
    refine ⟨204, ?_⟩
    rw [interpret_of_writes path ending method (by decide)]
    simp [assetParameter_eq_ok.2 ⟨database, asset⟩, flag_eq_ok.2 flag]
  | deleteAsset method path flag =>
    obtain ⟨_, path, ending, _ | ⟨rfl, _ | ⟨database, _ | ⟨rfl, _ | ⟨asset, ⟨⟩⟩⟩⟩⟩⟩ := path
    refine ⟨204, ?_⟩
    rw [interpret_of_writes path ending method (by decide)]
    simp [assetParameter_eq_ok.2 ⟨database, asset⟩, flag_eq_ok.2 flag]
  | restoreAsset method path =>
    obtain ⟨_, path, ending, _ | ⟨rfl, _ | ⟨database, _ | ⟨rfl, _ | ⟨asset, _ | ⟨rfl, ⟨⟩⟩⟩⟩⟩⟩⟩ :=
      path
    refine ⟨200, ?_⟩
    rw [interpret_of_writes path ending method (by decide)]
    simp [assetParameter_eq_ok.2 ⟨database, asset⟩]
  | listLinks method path flag =>
    obtain ⟨_, path, ending, _ | ⟨rfl, _ | ⟨database, _ | ⟨rfl, _ | ⟨asset, _ | ⟨rfl, ⟨⟩⟩⟩⟩⟩⟩⟩ :=
      path
    refine ⟨200, ?_⟩
    rw [interpret_of_gets path ending method]
    simp [assetParameter_eq_ok.2 ⟨database, asset⟩, flag_eq_ok.2 flag]
  | createLink method path body =>
    obtain ⟨_, path, ending, _ | ⟨rfl, ⟨⟩⟩⟩ := path
    refine ⟨201, ?_⟩
    rw [interpret_of_writes path ending method (by decide)]
    simp [body_eq_ok.2 body]
  | getLink method path =>
    obtain ⟨_, path, ending, _ | ⟨rfl, _ | ⟨link, ⟨⟩⟩⟩⟩ := path
    refine ⟨200, ?_⟩
    rw [interpret_of_gets path ending method]
    simp [parameter_eq_ok.2 link]
  | updateLinkTags method path body =>
    obtain ⟨_, path, ending, _ | ⟨rfl, _ | ⟨link, ⟨⟩⟩⟩⟩ := path
    refine ⟨200, ?_⟩
    rw [interpret_of_writes path ending method (by decide)]
    simp [parameter_eq_ok.2 link, body_eq_ok.2 body]
  | deleteLink method path =>
    obtain ⟨_, path, ending, _ | ⟨rfl, _ | ⟨link, ⟨⟩⟩⟩⟩ := path
    refine ⟨204, ?_⟩
    rw [interpret_of_writes path ending method (by decide)]
    simp [parameter_eq_ok.2 link]
  | listMetadata method path =>
    obtain ⟨_, path, ending, _ | ⟨rfl, _ | ⟨link, _ | ⟨rfl, ⟨⟩⟩⟩⟩⟩ := path
    refine ⟨200, ?_⟩
    rw [interpret_of_gets path ending method]
    simp [parameter_eq_ok.2 link]
  | createMetadata method path body known =>
    obtain ⟨_, path, ending, _ | ⟨rfl, _ | ⟨link, _ | ⟨rfl, ⟨⟩⟩⟩⟩⟩ := path
    refine ⟨201, ?_⟩
    rw [interpret_of_writes path ending method (by decide)]
    simp [parameter_eq_ok.2 link, body_eq_ok.2 body, named_eq_ok.2 known]
  | updateMetadata method path body known =>
    obtain ⟨_, path, ending, _ | ⟨rfl, _ | ⟨link, _ | ⟨rfl, _ | ⟨name, ⟨⟩⟩⟩⟩⟩⟩ := path
    refine ⟨200, ?_⟩
    rw [interpret_of_writes path ending method (by decide)]
    simp [parameter_eq_ok.2 link, parameter_eq_ok.2 name, body_eq_ok.2 body, named_eq_ok.2 known]
  | deleteMetadata method path =>
    obtain ⟨_, path, ending, _ | ⟨rfl, _ | ⟨link, _ | ⟨rfl, _ | ⟨name, ⟨⟩⟩⟩⟩⟩⟩ := path
    refine ⟨204, ?_⟩
    rw [interpret_of_writes path ending method (by decide)]
    simp [parameter_eq_ok.2 link, parameter_eq_ok.2 name]
  | listPipelines method path flag =>
    obtain ⟨_, path, ending, _ | ⟨rfl, _ | ⟨database, _ | ⟨rfl, ⟨⟩⟩⟩⟩⟩ := path
    refine ⟨200, ?_⟩
    rw [interpret_of_gets path ending method]
    simp [parameter_eq_ok.2 database, flag_eq_ok.2 flag]
  | createPipeline method path body =>
    obtain ⟨_, path, ending, _ | ⟨rfl, _ | ⟨database, _ | ⟨rfl, ⟨⟩⟩⟩⟩⟩ := path
    refine ⟨201, ?_⟩
    rw [interpret_of_writes path ending method (by decide)]
    simp [parameter_eq_ok.2 database, body_eq_ok.2 body]
  | setPipelineEnabled method path body =>
    obtain ⟨_, path, ending, _ | ⟨rfl, _ | ⟨database, _ | ⟨rfl, _ | ⟨pipeline,
      _ | ⟨rfl, ⟨⟩⟩⟩⟩⟩⟩⟩ := path
    refine ⟨200, ?_⟩
    rw [interpret_of_writes path ending method (by decide)]
    simp [parameter_eq_ok.2 database, parameter_eq_ok.2 pipeline, body_eq_ok.2 body]
  | listWorkflows method path flag =>
    obtain ⟨_, path, ending, _ | ⟨rfl, _ | ⟨database, _ | ⟨rfl, ⟨⟩⟩⟩⟩⟩ := path
    refine ⟨200, ?_⟩
    rw [interpret_of_gets path ending method]
    simp [parameter_eq_ok.2 database, flag_eq_ok.2 flag]
  | createWorkflow method path body =>
    obtain ⟨_, path, ending, _ | ⟨rfl, _ | ⟨database, _ | ⟨rfl, ⟨⟩⟩⟩⟩⟩ := path
    refine ⟨201, ?_⟩
    rw [interpret_of_writes path ending method (by decide)]
    simp [parameter_eq_ok.2 database, body_eq_ok.2 body]
  | archiveWorkflow method path =>
    obtain ⟨_, path, ending, _ | ⟨rfl, _ | ⟨database, _ | ⟨rfl, _ | ⟨workflow, ⟨⟩⟩⟩⟩⟩⟩ := path
    refine ⟨204, ?_⟩
    rw [interpret_of_writes path ending method (by decide)]
    simp [parameter_eq_ok.2 database, parameter_eq_ok.2 workflow]
  | @startExecution start method path home =>
    obtain ⟨_, path, ending, _ | ⟨rfl, _ | ⟨database, _ | ⟨rfl, _ | ⟨asset, _ | ⟨rfl,
      _ | ⟨workflow, ⟨⟩⟩⟩⟩⟩⟩⟩⟩ := path
    have read := (@assetParameter_eq_ok _ _ ⟨start.databaseId, start.assetId⟩).2 ⟨database, asset⟩
    refine ⟨201, ?_⟩
    rw [interpret_of_writes path ending method (by decide)]
    simp [read, parameter_eq_ok.2 workflow, optionalText_eq_ok.2 home]
  | listExecutions method path =>
    obtain ⟨_, path, ending, _ | ⟨rfl, _ | ⟨database, _ | ⟨rfl, _ | ⟨asset, _ | ⟨rfl,
      _ | ⟨workflow, _ | ⟨rfl, ⟨⟩⟩⟩⟩⟩⟩⟩⟩⟩ := path
    refine ⟨200, ?_⟩
    rw [interpret_of_gets path ending method]
    simp [assetParameter_eq_ok.2 ⟨database, asset⟩, parameter_eq_ok.2 workflow]
  | updateExecutionStatus method path body known =>
    obtain ⟨_, path, ending, _ | ⟨rfl, _ | ⟨database, _ | ⟨workflow, _ | ⟨rfl, _ | ⟨execution, _ |
      ⟨rfl, ⟨⟩⟩⟩⟩⟩⟩⟩⟩ := path
    refine ⟨200, ?_⟩
    rw [interpret_of_writes path ending method (by decide)]
    simp [parameter_eq_ok.2 database, parameter_eq_ok.2 workflow, parameter_eq_ok.2 execution,
      body_eq_ok.2 body, named_eq_ok.2 known]

end Tables

/-- Requests are read as calls of what they ask for. -/
theorem exists_interpret_eq_iff_asks {request : Request} {operation : Operation} :
    (∃ success, interpret request = .ok ⟨operation, success⟩) ↔ request.Asks operation :=
  ⟨fun ⟨_, read⟩ => asks_of_interpret read, exists_interpret_of_asks⟩

/-- A request asks for one operation at most. -/
theorem Request.Asks.unique {request : Request} {operation operation' : Operation}
    (asks : request.Asks operation) (asks' : request.Asks operation') : operation = operation' := by
  obtain ⟨_, read⟩ := exists_interpret_of_asks asks
  obtain ⟨_, read'⟩ := exists_interpret_of_asks asks'
  rw [read] at read'
  exact (Call.mk.inj (Except.ok.inj read')).1

end AssetRegistry.Http
