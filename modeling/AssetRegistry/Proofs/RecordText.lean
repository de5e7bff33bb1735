import AssetRegistry.LinkMetadata
import AssetRegistry.Proofs.InstantText
import AssetRegistry.Proofs.JsonRereading
import AssetRegistry.Proofs.ListingText

/-!
# Texts of rows and requests

Whatever text a row, a key, a request or a part of a listing was read from, the text that it
is written as is read as the same value (`records_reread`).  For a record this is a matter
of its fields.  A node of a tree is no record: its children are read where they stand, and
its asset from all other members.
-/

namespace AssetRegistry

open Json Codec

variable {room : Nat}

/-! ### Parts of records -/

/-- A time that was read is an instant, and is read from its text. -/
theorem Moment.recovers : Moment.codec.Recovers room := by
  apply Recovers.spelled
  intro s m read
  obtain ⟨i, instant, rfl⟩ := Option.map_eq_some_iff.1 read
  obtain ⟨date, time⟩ := Calendar.isReal_of_lenient? instant
  show (Calendar.lenient? i.text.toList).map Moment.instant = some (.instant i)
  rw [Calendar.lenient?_text date time]
  rfl

/-- Each type of a link has a name of its own. -/
theorem RelationshipType.recovers : RelationshipType.codec.Recovers room := by
  apply Recovers.choice
  intro type
  cases type <;> rfl

/-- Each type of a value has a name of its own. -/
theorem ValueType.recovers : ValueType.codec.Recovers room := by
  apply Recovers.choice
  intro type
  cases type <;> rfl

/-- Each way of executing has a name of its own. -/
theorem ExecutionType.recovers : ExecutionType.codec.Recovers room := by
  apply Recovers.choice
  intro type
  cases type <;> rfl

/-- Each status has a name of its own. -/
theorem ExecutionStatus.recovers : ExecutionStatus.codec.Recovers room := by
  apply Recovers.choice
  intro status
  cases status <;> rfl

/-- Texts that may be missing. -/
theorem recovers_optionalText : (Codec.option .string).Recovers room :=
  .option .string fun _ => nofun

/-- Numbers of seconds that may be missing. -/
theorem recovers_optionalSeconds : (Codec.option .int64).Recovers room :=
  .option (.integer _ _) fun _ => nofun

/-- Lists of texts. -/
theorem recovers_texts : (Codec.list .string).Recovers (room + 1) :=
  .list .string

/-! ### Keys and references -/

/-- The key of an asset has two texts. -/
theorem AssetKey.recovers : AssetKey.codec.Recovers (room + 1) := by
  refine .record (by decide) (fun _ => rfl) ?_
  refine .required .string ?_
  refine .required .string ?_
  exact .nil

/-- The reference to a pipeline has two texts. -/
theorem PipelineRef.recovers : PipelineRef.codec.Recovers (room + 1) := by
  refine .record (by decide) (fun _ => rfl) ?_
  refine .required .string ?_
  refine .required .string ?_
  exact .nil

/-- The key of an execution has three texts. -/
theorem ExecutionKey.recovers : ExecutionKey.codec.Recovers (room + 1) := by
  refine .record (by decide) (fun _ => rfl) ?_
  refine .required .string ?_
  refine .required .string ?_
  refine .required .string ?_
  exact .nil

/-- A watch is on an asset and may be on one workflow only. -/
theorem WatchTarget.recovers : WatchTarget.codec.Recovers (room + 1) := by
  refine .record (by decide) (fun _ => rfl) ?_
  refine .required .string ?_
  refine .required .string ?_
  refine .required recovers_optionalText ?_
  exact .nil

/-! ### Rows -/

/-- A database is read again from its text. -/
theorem Database.recovers : Database.codec.Recovers (room + 1) := by
  refine .record (by decide) (fun _ => rfl) ?_
  -- The id and the description are texts.
  refine .required .string ?_
  refine .required .string ?_
  refine .required .bool ?_
  -- The time is an instant.
  refine .required Moment.recovers ?_
  exact .nil

/-- An asset is read again from its text. -/
theorem Asset.recovers : Asset.codec.Recovers (room + 1) := by
  refine .record (by decide) (fun _ => rfl) ?_
  -- The key, the name, the description and the type are texts.
  refine .required .string ?_
  refine .required .string ?_
  refine .required .string ?_
  refine .required .string ?_
  refine .required .string ?_
  refine .required .bool ?_
  -- The version and the locations may be missing.
  refine .required recovers_optionalText ?_
  refine .required recovers_optionalText ?_
  refine .required recovers_optionalText ?_
  refine .required recovers_optionalText ?_
  refine .required .bool ?_
  refine .required Moment.recovers ?_
  exact .nil

/-- A link is read again from its text, its tags one bracket further in. -/
theorem AssetLink.recovers : AssetLink.codec.Recovers (room + 2) := by
  refine .record (by decide) (fun _ => rfl) ?_
  -- The link and its two ends are named by texts.
  refine .required .string ?_
  refine .required .string ?_
  refine .required .string ?_
  refine .required .string ?_
  refine .required .string ?_
  -- What it says of them comes next.
  refine .required RelationshipType.recovers ?_
  refine .required recovers_optionalText ?_
  refine .required recovers_texts ?_
  refine .required Moment.recovers ?_
  exact .nil

/-- Metadata is read again from its text, with its value as it was spelled. -/
theorem LinkMetadata.recovers : LinkMetadata.codec.Recovers (room + 1) := by
  refine .record (by decide) (fun _ => rfl) ?_
  refine .required .string ?_
  refine .required .string ?_
  refine .required .string ?_
  refine .required ValueType.recovers ?_
  exact .nil

/-- A pipeline is read again from its text. -/
theorem Pipeline.recovers : Pipeline.codec.Recovers (room + 1) := by
  refine .record (by decide) (fun _ => rfl) ?_
  -- The reference, the description and the two extensions are texts.
  refine .required .string ?_
  refine .required .string ?_
  refine .required .string ?_
  refine .required .string ?_
  refine .required .string ?_
  -- How it is executed, and for how long at most.
  refine .required ExecutionType.recovers ?_
  refine .required .bool ?_
  refine .required recovers_optionalSeconds ?_
  refine .required recovers_optionalSeconds ?_
  refine .required .bool ?_
  refine .required .bool ?_
  refine .required Moment.recovers ?_
  exact .nil

/-- A workflow is read again from its text. -/
theorem Workflow.recovers : Workflow.codec.Recovers (room + 3) := by
  refine .record (by decide) (fun _ => rfl) ?_
  -- The key and the description are texts.
  refine .required .string ?_
  refine .required .string ?_
  refine .required .string ?_
  -- The steps are references, two brackets further in.
  refine .required (.list PipelineRef.recovers) ?_
  refine .required .bool ?_
  refine .required Moment.recovers ?_
  exact .nil

/-- An execution is read again from its text. -/
theorem Execution.recovers : Execution.codec.Recovers (room + 1) := by
  refine .record (by decide) (fun _ => rfl) ?_
  -- The key of the execution and that of the asset are texts.
  refine .required .string ?_
  refine .required .string ?_
  refine .required .string ?_
  refine .required .string ?_
  refine .required .string ?_
  refine .required ExecutionStatus.recovers ?_
  refine .required Moment.recovers ?_
  -- A running execution has not stopped.
  refine .required (.option Moment.recovers fun _ => nofun) ?_
  exact .nil

/-! ### Requests -/

/-- A request for an asset is read again, with what was left out written out. -/
theorem NewAsset.recovers : NewAsset.codec.Recovers (room + 1) := by
  refine .record (by decide) (fun _ => rfl) ?_
  -- Only the id and the name have to be given.
  refine .required .string ?_
  refine .required .string ?_
  refine .defaulted .string (takes_string _) ?_
  refine .defaulted .string (takes_string _) ?_
  refine .defaulted .bool (fun _ => rfl) ?_
  refine .defaulted recovers_optionalText takes_none ?_
  refine .defaulted recovers_optionalText takes_none ?_
  refine .defaulted recovers_optionalText takes_none ?_
  refine .defaulted recovers_optionalText takes_none ?_
  exact .nil

/-- A request for a link is read again, with what was left out written out. -/
theorem NewAssetLink.recovers : NewAssetLink.codec.Recovers (room + 2) := by
  refine .record (by decide) (fun _ => rfl) ?_
  -- Both ends have to be given.
  refine .required .string ?_
  refine .required .string ?_
  refine .required .string ?_
  refine .required .string ?_
  refine .required RelationshipType.recovers ?_
  -- The alias and the tags may be left out.
  refine .defaulted recovers_optionalText takes_none ?_
  refine .defaulted recovers_texts takes_nil ?_
  exact .nil

/-- A request for a pipeline is read again, with what was left out written out. -/
theorem NewPipeline.recovers : NewPipeline.codec.Recovers (room + 1) := by
  refine .record (by decide) (fun _ => rfl) ?_
  -- A description may be left out.
  refine .required .string ?_
  refine .defaulted .string (takes_string _) ?_
  refine .required .string ?_
  refine .required .string ?_
  refine .required ExecutionType.recovers ?_
  -- Nothing else has to be given.
  refine .defaulted .bool (fun _ => rfl) ?_
  refine .defaulted recovers_optionalSeconds takes_none ?_
  refine .defaulted recovers_optionalSeconds takes_none ?_
  exact .nil

/-- A request for a workflow is read again, with what was left out written out. -/
theorem NewWorkflow.recovers : NewWorkflow.codec.Recovers (room + 3) := by
  refine .record (by decide) (fun _ => rfl) ?_
  refine .required .string ?_
  refine .defaulted .string (takes_string _) ?_
  refine .required (.list PipelineRef.recovers) ?_
  exact .nil

/-- A request for an execution is read again, with what was left out written out. -/
theorem StartExecution.recovers : StartExecution.codec.Recovers (room + 1) := by
  refine .record (by decide) (fun _ => rfl) ?_
  refine .required .string ?_
  refine .required .string ?_
  refine .required .string ?_
  refine .defaulted recovers_optionalText takes_none ?_
  exact .nil

/-! ### Parts of listings -/

/-- An asset in a listing is read again, with or without an alias. -/
theorem LinkedAsset.recovers : LinkedAsset.codec.Recovers (room + 1) := by
  refine .record (by decide) (fun _ => rfl) ?_
  refine .required .string ?_
  refine .required .string ?_
  refine .required .string ?_
  refine .required .string ?_
  refine .required recovers_optionalText ?_
  exact .nil

/-- The counts of what is hidden are read again. -/
theorem HiddenCounts.recovers : HiddenCounts.codec.Recovers (room + 1) := by
  refine .record (by decide) (fun _ => rfl) ?_
  refine .required .count ?_
  refine .required .count ?_
  refine .required .count ?_
  exact .nil

/-- None of the members of an asset is taken for its children. -/
theorem LinkedAsset.fst_ne_children (a : LinkedAsset) :
    ∀ m ∈ (codec.encode a).object?.getD [], m.1 ≠ "children" := by
  have names : ((codec.encode a).object?.getD []).map Prod.fst =
    ["assetLinkId", "assetId", "assetName", "databaseId", "assetLinkAliasId"] := rfl
  intro m member same
  have key : m.1 ∈ ((codec.encode a).object?.getD []).map Prod.fst := List.mem_map_of_mem member
  rw [names, same] at key
  exact absurd key (by decide)

namespace TreeNode

/-- Nodes are written one by one. -/
theorem encodeAll_eq_map (ns : List TreeNode) : encodeAll ns = ns.map encode := by
  induction ns with
  | nil => rfl
  | cons n ns ih => rw [encodeAll, ih, List.map_cons]

/-- The decoder has read all these nodes, one level further in. -/
def ChildrenRead (child : Decoder TreeNode) (room : Nat) (ns : List TreeNode) : Prop :=
  ∃ inner, room = inner + 1 ∧ ∀ n ∈ ns, ∃ ts ts', child inner ts = .ok (n, ts')

section Members

variable {child : Decoder TreeNode}

/-- Members other than the children are kept as they are. -/
theorem passes_others {ms : List (String × Json)} (others : ∀ m ∈ ms, m.1 ≠ "children")
    (fits : ∀ m ∈ ms, Fits room m.2) (found : Partial) :
    Passes (member child) room ms found (found.1, found.2 ++ ms) := by
  induction ms generalizing found with
  | nil =>
    rw [List.append_nil]
    exact .nil
  | cons m ms ih =>
    -- The member is put behind those that were found before it.
    have after := ih (fun m' member => others m' (List.mem_cons_of_mem m member))
      (fun m' member => fits m' (List.mem_cons_of_mem m member)) (found.1, found.2 ++ [m])
    rw [List.append_assoc] at after
    refine .cons ?_ after
    intro rest
    have read := takes_value (fits m List.mem_cons_self) rest
    rw [member, if_neg (others m List.mem_cons_self)]
    simp only [expect, if_true, bind, Except.bind, read]
    rfl

/-- The children are read where they stand. -/
theorem passes_children {children : List TreeNode}
    (taken : ∀ n ∈ children, child.Takes room n.encode n) (ms : List (String × Json)) :
    Passes (member child) (room + 1) [("children", .array (encodeAll children))] (none, ms)
      (some children, ms) := by
  have takes : (Decoder.list child).Takes (room + 1) (.array (encodeAll children)) children := by
    rw [encodeAll_eq_map]
    exact Json.takes_list (List.forall₂_map_left_iff.2 (List.forall₂_same.2 taken))
  refine .cons ?_ .nil
  intro rest
  rw [member, if_pos rfl]
  simp only [expect, if_true, bind, Except.bind, takes rest]
  rfl

/-- Children that were read are nodes that the decoder for a child has read, one level
    further in. -/
theorem childrenRead_of_member {key : String} {found found' : Partial} {ts ts' : List Token}
    (before : ∀ ns ∈ found.1, ChildrenRead child room ns)
    (read : member child key found room ts = .ok (found', ts')) :
    ∀ ns ∈ found'.1, ChildrenRead child room ns := by
  unfold member at read
  split at read
  · split at read
    · cases read
    · -- Any other member leaves the children that were found.
      obtain ⟨ts₁, _, read⟩ := bind_eq_ok.1 read
      obtain ⟨⟨ns, ts₂⟩, listed, read⟩ := bind_eq_ok.1 read
      cases pure_eq_ok.1 read
      rintro _ ⟨⟩
      exact forall_of_list listed
  · obtain ⟨ts₁, _, read⟩ := bind_eq_ok.1 read
    obtain ⟨⟨value, ts₂⟩, _, read⟩ := bind_eq_ok.1 read
    cases pure_eq_ok.1 read
    exact before

end Members

/-- A node is read where its children are. -/
theorem takes_node {steps : Nat} (a : LinkedAsset) {children : List TreeNode}
    (taken : ∀ n ∈ children, (decodeWithin steps).Takes room n.encode n) :
    (decodeWithin (steps + 1)).Takes (room + 2) (node a children).encode (node a children) := by
  intro rest
  have passes := (passes_others a.fst_ne_children (a.fits_members (room + 1)) (none, [])).append
    (passes_children taken _)
  have read := members_memberTokens passes rest
  -- The asset is read from the members that were kept, as a value of its own.
  have asset : LinkedAsset.codec.ofJson (.object ((LinkedAsset.codec.encode a).object?.getD [])) =
    .ok a := Codec.ofJson_eq_ok (a.takes_codec (maxDepth - 1))
  rw [encode, toTokens, List.cons_append, List.append_assoc, List.singleton_append, decodeWithin]
  simp only [enter, bind, Except.bind, read, List.nil_append, ofPartial?, Option.bind, asset]
  rfl

/-- A node that was found has the children that were found. -/
theorem exists_of_ofPartial? {found : Partial} {n : TreeNode} (made : ofPartial? found = some n) :
    ∃ a children, found.1 = some children ∧ n = node a children := by
  obtain ⟨children, there, made⟩ := Option.bind_eq_some_iff.1 made
  obtain ⟨a, _, made⟩ := Option.bind_eq_some_iff.1 made
  cases made
  exact ⟨a, children, there, rfl⟩

/-- A node that was read has an asset, and children that were read through one step less. -/
theorem exists_of_decodeWithin {steps : Nat} {n : TreeNode} {ts ts' : List Token}
    (read : decodeWithin (steps + 1) room ts = .ok (n, ts')) :
    ∃ a children inside, n = node a children ∧ room = inside + 1 ∧
      ChildrenRead (decodeWithin steps) inside children := by
  unfold decodeWithin at read
  split at read
  · cases read
  · rename_i ts₁ same
    cases same
    obtain ⟨inside, entered, inBraces⟩ := bind_eq_ok.1 read
    -- Inside the braces there is one level less for the array of the children.
    cases enter_eq_ok.1 entered
    obtain ⟨⟨found, ts₂⟩, passed, read⟩ := bind_eq_ok.1 inBraces
    -- No children are found before the first member, and every member keeps it so.
    have childrenRead : ∀ ns ∈ found.1, ChildrenRead (decodeWithin steps) inside ns :=
      of_members (fun _ _ _ _ _ => childrenRead_of_member) (by simp) passed
    dsimp only at read
    split at read
    · rename_i made
      obtain ⟨ts₃, _, read⟩ := bind_eq_ok.1 read
      cases pure_eq_ok.1 read
      obtain ⟨a, children, there, rfl⟩ := exists_of_ofPartial? made
      exact ⟨a, children, inside, rfl, rfl, childrenRead children there⟩
    · cases read
  · cases read

/-- A node that was read is read again, through any number of steps that is greater than the
    room for its brackets. -/
theorem takes_of_decodeWithin {steps steps' : Nat} {n : TreeNode} {ts ts' : List Token}
    (read : decodeWithin steps room ts = .ok (n, ts')) (enough : room < steps') :
    (decodeWithin steps').Takes room n.encode n := by
  induction steps generalizing room n ts ts' steps' with
  | zero => cases read
  | succ steps ih =>
    -- The children have two levels less, and were read through one step less.
    obtain ⟨a, children, inside, rfl, rfl, inner, rfl, each⟩ := exists_of_decodeWithin read
    obtain ⟨steps', rfl⟩ := Nat.exists_eq_add_of_le' (Nat.one_le_of_lt enough)
    apply takes_node a
    intro child member
    obtain ⟨ts₁, ts₂, decoded⟩ := each child member
    exact ih decoded (by omega)

/-- A tree is read again to any depth that it was read from. -/
theorem recovers : codec.Recovers room :=
  ⟨fun read => takes_of_decodeWithin read (Nat.lt_succ_self room), nofun⟩

end TreeNode

/-! ### Whole texts -/

/-- What is read from a text as any of the rows, the keys, the requests or the parts of a
    listing is read from the text that it is written as. -/
theorem records_reread :
    Database.codec.Rereads ∧ Asset.codec.Rereads ∧ AssetLink.codec.Rereads ∧
      LinkMetadata.codec.Rereads ∧ Pipeline.codec.Rereads ∧ PipelineRef.codec.Rereads ∧
      Workflow.codec.Rereads ∧ Execution.codec.Rereads ∧ AssetKey.codec.Rereads ∧
      ExecutionKey.codec.Rereads ∧ NewAsset.codec.Rereads ∧ NewAssetLink.codec.Rereads ∧
      NewPipeline.codec.Rereads ∧ NewWorkflow.codec.Rereads ∧ StartExecution.codec.Rereads ∧
      WatchTarget.codec.Rereads ∧ LinkedAsset.codec.Rereads ∧ TreeNode.codec.Rereads ∧
      HiddenCounts.codec.Rereads :=
  ⟨Database.recovers.rereads, Asset.recovers.rereads, AssetLink.recovers.rereads,
    LinkMetadata.recovers.rereads, Pipeline.recovers.rereads, PipelineRef.recovers.rereads,
    Workflow.recovers.rereads, Execution.recovers.rereads, AssetKey.recovers.rereads,
    ExecutionKey.recovers.rereads, NewAsset.recovers.rereads, NewAssetLink.recovers.rereads,
    NewPipeline.recovers.rereads, NewWorkflow.recovers.rereads,
    StartExecution.recovers.rereads, WatchTarget.recovers.rereads,
    LinkedAsset.recovers.rereads, TreeNode.recovers.rereads, HiddenCounts.recovers.rereads⟩

/-- An execution as an array, with a leap second in a time zone of its own. -/
def Execution.arrayText : String :=
  "[\"d\", \"w\", \"e\", \"d\", \"a\", \"RUNNING\", \" 2024-2-29t23:59:60.5 +01:30 \", null]"

/-- A start of an execution with its fields in another order, an escape, a field that nobody
    knows, and no database for the workflow. -/
def StartExecution.looseText : String :=
  "\x7b\"workflowId\": \"w\", \"by\": [1e3], \"databaseId\": \"\\u0064\", \"assetId\": \"a\"\x7d"

/-- Both are read, and read again. -/
theorem records_reread_loose :
    (∃ e, Execution.codec.ofText Execution.arrayText = .ok e ∧
      Execution.codec.ofText (Execution.codec.text e) = .ok e) ∧
    ∃ start, StartExecution.codec.ofText StartExecution.looseText = .ok start ∧
      StartExecution.codec.ofText (StartExecution.codec.text start) = .ok start := by
  obtain ⟨e, read⟩ : ∃ e, Execution.codec.ofText Execution.arrayText = .ok e :=
    exists_eq_ok_of_isOk (by decide +kernel)
  obtain ⟨start, readStart⟩ :
      ∃ start, StartExecution.codec.ofText StartExecution.looseText = .ok start :=
    exists_eq_ok_of_isOk (by decide +kernel)
  obtain ⟨_, _, _, _, _, _, _, executions, _, _, _, _, _, _, starts, _⟩ := records_reread
  exact ⟨⟨e, read, executions _ e read⟩, start, readStart, starts _ start readStart⟩

end AssetRegistry
