import AssetRegistry.Proofs.FieldForm
import AssetRegistry.Proofs.LinkReach
import AssetRegistry.Proofs.Refusals
import AssetRegistry.Proofs.Repetition

/-!
# Why a link is refused

The conditions under which a request for a link is refused stand in one list, in the order
in which they count, and say nothing of how they are checked.  A creation fails with the
error of the first one that holds, and succeeds where none holds.
-/

namespace AssetRegistry

open AssetRegistry.Action Relation

/-! ### The conditions for links -/

namespace Validation

/-- A field that is not the id of a database. -/
def databaseIdRefusals (field value : String) : List Refusal :=
  [⟨¬ IsDatabaseId value, .invalidField field .identifier⟩]

/-- A field that is not the id of an asset.  The length counts bytes. -/
def assetIdRefusals (field value : String) : List Refusal :=
  [ ⟨¬ (1 ≤ value.utf8ByteSize ∧ value.utf8ByteSize ≤ 256), .invalidField field .assetIdLength⟩,
    ⟨value.toList.head? = some '.' ∨ value.toList.head? = some '-',
      .invalidField field .assetIdStart⟩,
    ⟨∃ c ∈ value.toList, ¬ IsAssetIdCharacter c, .invalidField field .assetIdCharacters⟩ ]

/-- A text of a field that has more than 256 characters. -/
def textRefusals (field : String) (texts : List String) : List Refusal :=
  [⟨∃ text ∈ texts, 256 < text.length, .invalidField field .textLength⟩]

end Validation

namespace NewAssetLink

open Validation

/-- A request gives an alias if it names one that has a character which is not blank. -/
def GivesAlias (request : NewAssetLink) (name : String) : Prop :=
  request.assetLinkAliasId = some name ∧ ∃ c ∈ name.toList, ¬ Text.isBlank c

/-- Why a request for a link is refused by itself. -/
def fieldRefusals (request : NewAssetLink) : List Refusal :=
  databaseIdRefusals "fromDatabaseId" request.fromDatabaseId ++
    (assetIdRefusals "fromAssetId" request.fromAssetId ++
      (databaseIdRefusals "toDatabaseId" request.toDatabaseId ++
        (assetIdRefusals "toAssetId" request.toAssetId ++
          ([⟨∃ name, request.GivesAlias name ∧ 256 < name.length,
              .invalidField "assetLinkAliasId" .textLength⟩] ++
            (textRefusals "tags" request.tags ++
              [⟨request.source = request.target, .selfLink⟩])))))

/-- Why a link is refused for its ends: one is not stored, or has as many links as it may
    have. -/
def endRefusals (request : NewAssetLink) (s : Store) (limit : Nat) : List Refusal :=
  [ ⟨∀ a ∈ s.assets, a.key ≠ request.source, .unknownAssetReference request.source .source⟩,
    ⟨∀ a ∈ s.assets, a.key ≠ request.target, .unknownAssetReference request.target .target⟩,
    ⟨limit ≤ (s.links.filter fun l => l.source = request.source ∨ l.target = request.source).length,
      .linkLimitExceeded request.source limit⟩,
    ⟨limit ≤ (s.links.filter fun l => l.source = request.target ∨ l.target = request.target).length,
      .linkLimitExceeded request.target limit⟩ ]

/-- Why a link is refused for the links between its ends. -/
def linkRefusals (request : NewAssetLink) (s : Store) : List Refusal :=
  [ ⟨request.relationshipType = .related ∧ ∃ l ∈ s.links, l.relationshipType = .related ∧
        (l.source = request.source ∧ l.target = request.target ∨
          l.source = request.target ∧ l.target = request.source),
      .duplicateLink .related⟩,
    ⟨request.relationshipType = .parentChild ∧ ∃ l ∈ s.links, l.relationshipType = .parentChild ∧
        l.source = request.source ∧ l.target = request.target ∧
        ∀ name, l.assetLinkAliasId = some name ↔ request.GivesAlias name,
      .duplicateLink .sameAlias⟩,
    ⟨request.relationshipType = .parentChild ∧ s.IsParentOf request.target request.source,
      .duplicateLink .reversed⟩,
    ⟨request.relationshipType = .parentChild ∧
        TransGen s.IsParentOf request.target request.source,
      .cycleDetected⟩ ]

/-- Why a link is refused, in the order in which it counts. -/
def refusals (request : NewAssetLink) (r : Registry) : List Refusal :=
  request.fieldRefusals ++
    (request.endRefusals r.store r.linkLimit ++ request.linkRefusals r.store)

end NewAssetLink

/-! ### The checks are made in that order -/

namespace NewAssetLink

variable {request : NewAssetLink}

/-- The alias that is checked and stored is the one that the request gives. -/
theorem alias?_eq_some_iff {name : String} :
    request.alias? = some name ↔ request.GivesAlias name := by
  rw [alias?, Option.filter_eq_some_iff, GivesAlias]
  simp [Text.isAllBlank]

/-- A stored alias is compared as the specification says. -/
theorem eq_alias?_iff {stored? : Option String} :
    stored? = request.alias? ↔ ∀ name, stored? = some name ↔ request.GivesAlias name := by
  simp only [← alias?_eq_some_iff]
  constructor
  · rintro rfl name
    exact Iff.rfl
  · exact Option.ext

end NewAssetLink

namespace Validation

variable {field value : String}

/-- A check of a field settles the rule that it is for. -/
theorem settle_require {holds : Bool} {c : Prop} {rule : FieldRule} (same : holds = true ↔ ¬ c) :
    Refusal.Settle [⟨c, .invalidField field rule⟩] (require holds field rule) := by
  have checked : require holds field rule =
      if ¬ holds = true then .error (.invalidField field rule) else .ok () := by
    cases holds <;> rfl
  rw [checked]
  exact .ite (by rw [same, not_not]) ()

/-- The id of a database is refused for its form alone. -/
theorem settle_databaseId :
    Refusal.Settle (databaseIdRefusals field value) (databaseId field value) := by
  unfold databaseId
  split
  · next reserved =>
    have valid : IsDatabaseId value := .inl reserved
    constructor
    · intro invalid
      exact absurd valid invalid
    · intro _
      exact ⟨(), rfl⟩
  · next unreserved =>
    apply settle_require
    rw [not_not, isIdentifier_iff, IsDatabaseId, or_iff_right unreserved]

/-- The id of an asset is refused for its length, then its start, then its characters. -/
theorem settle_assetId : Refusal.Settle (assetIdRefusals field value) (assetId field value) := by
  have length : Refusal.Settle
      [⟨¬ (1 ≤ value.utf8ByteSize ∧ value.utf8ByteSize ≤ 256),
        .invalidField field .assetIdLength⟩]
      (require (1 ≤ value.utf8ByteSize && value.utf8ByteSize ≤ maxTextLength) field
        .assetIdLength) :=
    settle_require (by
      rw [not_not, Bool.and_eq_true, decide_eq_true_eq, decide_eq_true_eq, maxTextLength])
  have start : Refusal.Settle
      [⟨value.toList.head? = some '.' ∨ value.toList.head? = some '-',
        .invalidField field .assetIdStart⟩]
      (require (!(value.toList.head? == some '.' || value.toList.head? == some '-')) field
        .assetIdStart) :=
    settle_require (by simp)
  have characters : Refusal.Settle
      [⟨∃ c ∈ value.toList, ¬ IsAssetIdCharacter c, .invalidField field .assetIdCharacters⟩]
      (require (value.toList.all isAssetIdCharacter) field .assetIdCharacters) :=
    settle_require (by simp [isAssetIdCharacter_iff])
  -- The three checks come one after another, and so do their conditions.
  apply length.bind
  intro _ _
  apply start.bind
  intro _ _
  exact characters

/-- A text is refused for its length alone. -/
theorem settle_freeText :
    Refusal.Settle [⟨256 < value.length, .invalidField field .textLength⟩]
      (freeText field value) :=
  settle_require (by rw [decide_eq_true_eq, maxTextLength, not_lt])

/-- The texts of one field are refused alike. -/
theorem settle_forM_freeText (texts : List String) :
    Refusal.Settle (textRefusals field texts) (texts.forM (freeText field)) := by
  induction texts with
  | nil => exact ⟨by simp, fun _ => ⟨(), rfl⟩⟩
  | cons text texts ih =>
    have split : textRefusals field (text :: texts) =
        [⟨256 < text.length ∨ ∃ later ∈ texts, 256 < later.length,
          .invalidField field .textLength⟩] := by
      simp [textRefusals]
    rw [split]
    exact (settle_freeText.bind fun _ _ => ih).merge

end Validation

namespace Links

open Validation

variable {request : NewAssetLink} {r : Registry}

/-- An alias is checked where the request gives one. -/
theorem settle_alias :
    Refusal.Settle
      [⟨∃ name, request.GivesAlias name ∧ 256 < name.length,
        .invalidField "assetLinkAliasId" .textLength⟩]
      (request.alias?.forM (freeText "assetLinkAliasId")) := by
  simp only [← NewAssetLink.alias?_eq_some_iff]
  cases request.alias? with
  | none =>
    constructor
    · intro given
      simp at given
    · intro _
      exact ⟨(), rfl⟩
  | some name =>
    simp only [Option.some.injEq, exists_eq_left']
    exact settle_freeText

/-- The fields of a request are looked at in the order of the refusals. -/
theorem settle_checkRequest : Refusal.Settle request.fieldRefusals (checkRequest request) := by
  have checksEnds : Refusal.Settle [⟨request.source = request.target, .selfLink⟩]
      (if request.source = request.target then .error .selfLink else .ok ()) := .ite .rfl ()
  -- Both ends are looked at before what describes the link.
  apply settle_databaseId.bind
  intro _ _
  apply settle_assetId.bind
  intro _ _
  apply settle_databaseId.bind
  intro _ _
  apply settle_assetId.bind
  intro _ _
  apply settle_alias.bind
  intro _ _
  apply (settle_forM_freeText request.tags).bind
  intro _ _
  exact checksEnds

/-- An end is refused if no asset of its key is stored. -/
theorem checks_requireEnd (ready : r.access = .ready) (side : Side) (key : AssetKey) :
    Checks [⟨∀ a ∈ r.store.assets, a.key ≠ key, .unknownAssetReference key side⟩]
      (requireEnd side key) r := by
  have performed : (requireEnd side key).perform r =
      (if r.store.asset? key = none then .error (.unknownAssetReference key side) else .ok (),
        r) := by
    rw [requireEnd, perform_query_bind ready]
    cases r.store.asset? key <;> rfl
  exact .of_perform performed (.ite (by simp [Store.asset?]) ())

/-- An end is refused if it has as many links as the limit, in whichever direction. -/
theorem checks_requireCapacity (ready : r.access = .ready) (key : AssetKey) :
    Checks [⟨r.linkLimit ≤ (r.store.links.filter fun l => l.source = key ∨ l.target = key).length,
      .linkLimitExceeded key r.linkLimit⟩] (requireCapacity key) r := by
  have counted : r.store.linkCount key =
      (r.store.links.filter fun l => l.source = key ∨ l.target = key).length := by
    simp [Store.linkCount, List.countP_eq_length_filter, AssetLink.touches]
  have performed : (requireCapacity key).perform r =
      (if r.linkLimit ≤ r.store.linkCount key then .error (.linkLimitExceeded key r.linkLimit)
        else .ok (), r) := by
    rw [requireCapacity, perform_get_bind, perform_query_bind ready]
    split <;> rfl
  exact .of_perform performed (.ite (by rw [counted]) ())

/-- The links between two assets are those of the type that lead from the one to the other. -/
theorem mem_linksBetween {s : Store} {source target : AssetKey} {type : RelationshipType}
    {l : AssetLink} :
    l ∈ s.linksBetween source target type ↔
      l ∈ s.links ∧ l.relationshipType = type ∧ l.source = source ∧ l.target = target := by
  simp only [Store.linksBetween, List.mem_filter, Bool.and_eq_true, decide_eq_true_eq]
  tauto

/-- There are links between two assets if one is stored. -/
theorem not_isEmpty_linksBetween {s : Store} {source target : AssetKey}
    {type : RelationshipType} :
    (!(s.linksBetween source target type).isEmpty) = true ↔
      ∃ l ∈ s.links, l.relationshipType = type ∧ l.source = source ∧ l.target = target := by
  rw [Bool.not_eq_true', List.isEmpty_eq_false_iff_exists_mem]
  exact exists_congr fun l => mem_linksBetween

/-- A related link is refused if one is stored in either direction. -/
theorem checks_requireUnrelated (ready : r.access = .ready) (source target : AssetKey) :
    Checks [⟨∃ l ∈ r.store.links, l.relationshipType = .related ∧
      (l.source = source ∧ l.target = target ∨ l.source = target ∧ l.target = source),
      .duplicateLink .related⟩] (requireUnrelated source target) r := by
  have performed : (requireUnrelated source target).perform r =
      (if !(r.store.linksBetween source target .related).isEmpty ||
          !(r.store.linksBetween target source .related).isEmpty
        then .error (.duplicateLink .related) else .ok (), r) := by
    rw [requireUnrelated, perform_query_bind ready, perform_query_bind ready]
    split <;> rfl
  apply Checks.of_perform performed (.ite _ ())
  rw [Bool.or_eq_true, not_isEmpty_linksBetween, not_isEmpty_linksBetween, ← exists_or]
  apply exists_congr
  intro l
  tauto

/-- A child is refused under an alias that it has, and as the parent of its parent. -/
theorem checks_requireNewChild (ready : r.access = .ready) (source target : AssetKey)
    (alias? : Option String) :
    Checks
      [ ⟨∃ l ∈ r.store.links, l.relationshipType = .parentChild ∧ l.source = source ∧
          l.target = target ∧ l.assetLinkAliasId = alias?, .duplicateLink .sameAlias⟩,
        ⟨r.store.IsParentOf target source, .duplicateLink .reversed⟩ ]
      (requireNewChild source target alias?) r := by
  rw [requireNewChild, bind_ite_throw]
  refine .bind (.query_ite ready ?_) fun _ _ => .query_ite ready not_isEmpty_linksBetween
  rw [List.any_eq_true]
  apply exists_congr
  intro l
  rw [mem_linksBetween, decide_eq_true_eq]
  tauto

/-- A child is refused if a chain of children leads from it to its parent. -/
theorem checks_requireAcyclic (ready : r.access = .ready) {source target : AssetKey}
    (apart : source ≠ target) :
    Checks [⟨TransGen r.store.IsParentOf target source, .cycleDetected⟩]
      (requireAcyclic source target) r := by
  refine .query_ite ready ?_
  -- The search also succeeds where it starts, but the two ends differ.
  rw [isAncestorOrSelf_iff, reflTransGen_iff_eq_or_transGen, or_iff_right apart]

/-- What is refused for the stored links is refused in the order of the refusals. -/
theorem checks_requireAdmissible (ready : r.access = .ready)
    (apart : request.source ≠ request.target) :
    Checks (request.linkRefusals r.store) (requireAdmissible request) r := by
  -- What is said of the other relationship holds for no request.
  unfold requireAdmissible
  cases type : request.relationshipType with
  | related =>
    have unrelated := checks_requireUnrelated ready request.source request.target
    have others : ∀ refusal ∈ (request.linkRefusals r.store).tail, ¬ refusal.holds := by
      simp [NewAssetLink.linkRefusals, type]
    have settle := unrelated.settle.append_of_not others
    refine ⟨unrelated.reads, ?_⟩
    simpa [NewAssetLink.linkRefusals, type] using settle
  | parentChild =>
    have newChild := checks_requireNewChild ready request.source request.target request.alias?
    have checks := newChild.bind fun _ _ => checks_requireAcyclic ready apart
    have others : request.relationshipType ≠ .related := by simp [type]
    refine ⟨checks.reads, ?_, ?_⟩
    · intro holds
      exact absurd holds.1 others
    · intro _
      simpa [type, NewAssetLink.eq_alias?_iff] using checks.settle

/-- What a creation of a link checks before it stores the link. -/
def admission (request : NewAssetLink) : Action Unit := do
  check (checkRequest request)
  requireEnd .source request.source
  requireEnd .target request.target
  requireCapacity request.source
  requireCapacity request.target
  requireAdmissible request

/-- A link is created by being admitted and then stored. -/
theorem createLink_eq (request : NewAssetLink) :
    createLink request = admission request >>= fun _ => storeLink request := by
  simp only [createLink, admission, bind_assoc]

/-- A request is admitted where none of the refusals holds. -/
theorem checks_admission (ready : r.access = .ready) :
    Checks (request.refusals r) (admission request) r := by
  -- A request that is valid by itself joins two assets, on which the search relies.
  apply (Checks.check settle_checkRequest).bind
  intro _ valid
  have apart : request.source ≠ request.target := by
    have passed := settle_checkRequest.exists_eq_ok_iff.1 ⟨_, (check_eq_ok.1 valid).1⟩
    exact passed ⟨request.source = request.target, .selfLink⟩ (by simp [NewAssetLink.fieldRefusals])
  apply (checks_requireEnd ready _ _).bind
  intro _ _
  apply (checks_requireEnd ready _ _).bind
  intro _ _
  apply (checks_requireCapacity ready _).bind
  intro _ _
  apply (checks_requireCapacity ready _).bind
  intro _ _
  exact checks_requireAdmissible ready apart

/-- Under an id that is free a link is stored, and the next id is another one. -/
theorem perform_storeLink (ready : r.access = .ready)
    (free : r.store.link? r.nextLinkId = none) :
    (storeLink request).perform r =
      (.ok (newLink request r.nextLinkId r.now),
        { r.wrote { r.store with
            links := r.store.links ++ [newLink request r.nextLinkId r.now] } with
          linksMade := r.linksMade + 1 }) :=
  storeLink_eq_ok.2 ⟨ready, rfl, _, Store.insertLink_eq_ok.2 ⟨free, rfl, rfl⟩, rfl⟩

end Links

/-! ### Creations of links -/

/-- In every store, with every limit of links, a request for a link fails with the error of the
    first condition of `NewAssetLink.refusals` that holds, and nothing changes.  Where none
    holds and the next name is free, the link is stored. -/
theorem link_refused_for_first_reason {r : Registry} (ready : r.access = .ready)
    (request : NewAssetLink) :
    (∀ e, Refusal.IsFirst (request.refusals r) e →
      (Operation.createLink request).perform r = (.error e, r)) ∧
    ((∀ refusal ∈ request.refusals r, ¬ refusal.holds) → r.store.link? r.nextLinkId = none →
      let row := Links.newLink request r.nextLinkId r.now
      (Operation.createLink request).perform r =
        (.ok (.link row),
          { r.wrote { r.store with links := r.store.links ++ [row] } with
            linksMade := r.linksMade + 1 })) := by
  have checks := @Links.checks_admission request r ready
  -- A creation is an admission, which reads, and then the one statement that stores the link.
  have run : (Operation.createLink request).perform r =
      (Reply.link <$>
        (Links.admission request >>= fun _ => Links.storeLink request)).perform r := by
    rw [← Links.createLink_eq]
    rfl
  constructor
  · intro e first
    have refused : (Links.admission request).perform r = (.error e, r) :=
      Prod.ext (checks.settle.eq_error_of_isFirst first) checks.reads
    rw [run]
    exact perform_map_of_error (perform_bind_of_error refused _) _
  · intro passed free
    obtain ⟨u, admitted⟩ := checks.settle.exists_eq_ok_iff.2 passed
    have admits : (Links.admission request).perform r = (.ok u, r) := Prod.ext admitted checks.reads
    have stored : (Links.admission request >>= fun _ => Links.storeLink request).perform r = _ :=
      (perform_bind_of_ok admits _).trans (Links.perform_storeLink ready free)
    rw [run]
    exact map_eq_ok.2 ⟨_, stored, rfl⟩

namespace Registry

/-- A link that would make the hall of a plant a child of its motor. -/
def loopRequest : NewAssetLink :=
  ⟨"plant", "motor", "plant", "hall", .parentChild, none, []⟩

/-- The motor is below the hall, and nothing else is wrong with the request. -/
theorem isFirst_cycleDetected_loopRequest :
    Refusal.IsFirst (loopRequest.refusals plant) .cycleDetected := by
  have failed : ((Links.admission loopRequest).perform plant).1 = .error .cycleDetected := by
    decide +kernel
  exact (Links.checks_admission reachable_plant.ready).settle.isFirst_of_eq_error failed

/-- A link that the plant has room for. -/
def driveRequest : NewAssetLink :=
  ⟨"plant", "hall", "plant", "motor", .related, some " ", ["drive"]⟩

/-- None of the refusals holds of the drive of the hall. -/
theorem not_holds_refusals_driveRequest :
    ∀ refusal ∈ driveRequest.refusals plant, ¬ refusal.holds := by
  have admitted : ((Links.admission driveRequest).perform plant).1 = .ok () := by decide +kernel
  exact (Links.checks_admission reachable_plant.ready).settle.exists_eq_ok_iff.1 ⟨(), admitted⟩

end Registry

open Registry in
/-- The motor of the plant cannot be made a parent of the hall, and it can be related to it. -/
theorem link_refused_for_first_reason_plant :
    plant.access = .ready ∧ Refusal.IsFirst (loopRequest.refusals plant) .cycleDetected ∧
      (Operation.createLink loopRequest).perform plant = (.error .cycleDetected, plant) ∧
      ∃ r', (Operation.createLink driveRequest).perform plant =
        (.ok (.link (Links.newLink driveRequest "link-4" plant.now)), r') := by
  have ready : plant.access = .ready := reachable_plant.ready
  have first := isFirst_cycleDetected_loopRequest
  have named : plant.nextLinkId = "link-4" ∧ plant.store.link? plant.nextLinkId = none := by
    decide +kernel
  refine ⟨ready, first, (link_refused_for_first_reason ready loopRequest).1 _ first, ?_⟩
  rw [← named.1]
  exact ⟨_, (link_refused_for_first_reason ready driveRequest).2
    not_holds_refusals_driveRequest named.2⟩

end AssetRegistry
