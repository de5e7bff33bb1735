import AssetRegistry.Proofs.LinkRefusals
import Mathlib.Data.List.Perm.Subperm

/-!
# Creations of links where there are fewer links

A request for a link is refused for itself, for ends that are not stored, or for the links that
are there.  With fewer links nothing of the last kind comes up that did not come up before:
there are fewer links to count, fewer that could be repeated, and fewer paths.  What stands
between a check and the creation that relies on it may therefore delete links.
-/

namespace AssetRegistry

open AssetRegistry.Action Relation

/-- The errors of requests that stored links stand in the way of. -/
def RegistryError.IsLinkConflict : RegistryError → Prop
  | .linkLimitExceeded .. | .duplicateLink _ | .cycleDetected => True
  | _ => False

/-- A store with the assets of another one and with no other links than that one has.  No link
    is there more often. -/
structure Store.HasFewerLinks (small large : Store) : Prop where
  assets : ∀ a, a ∈ small.assets ↔ a ∈ large.assets
  links : small.links.Subperm large.links

namespace Store.HasFewerLinks

variable {small large : Store}

/-- With fewer links, parents were parents with all. -/
theorem isParentOf (fewer : small.HasFewerLinks large) {a b : AssetKey}
    (parent : small.IsParentOf a b) : large.IsParentOf a b := by
  obtain ⟨l, member, ends⟩ := parent
  exact ⟨l, fewer.links.subset member, ends⟩

/-- Every path is still there with more links. -/
theorem transGen (fewer : small.HasFewerLinks large) {a b : AssetKey}
    (path : TransGen small.IsParentOf a b) : TransGen large.IsParentOf a b :=
  TransGen.mono (fun _ _ parent => fewer.isParentOf parent) _ _ path

/-- A name that is free among more links is free. -/
theorem link?_eq_none (fewer : small.HasFewerLinks large) {assetLinkId : String}
    (free : large.link? assetLinkId = none) : small.link? assetLinkId = none := by
  rw [link?, List.find?_eq_none] at free ⊢
  exact fun l member => free l (fewer.links.subset member)

end Store.HasFewerLinks

/-- A registry with another store. -/
def Registry.withStore (r : Registry) (s : Store) : Registry :=
  { r with store := s }

/-! ### Conditions that are about links -/

namespace NewAssetLink

variable {request : NewAssetLink} {s small large : Store} {limit : Nat}

/-- Why a link is refused, whatever links there are. -/
def plainRefusals (request : NewAssetLink) (s : Store) : List Refusal :=
  request.fieldRefusals ++
    [ ⟨∀ a ∈ s.assets, a.key ≠ request.source, .unknownAssetReference request.source .source⟩,
      ⟨∀ a ∈ s.assets, a.key ≠ request.target, .unknownAssetReference request.target .target⟩ ]

/-- Why a link is refused for the links that are there. -/
def conflictRefusals (request : NewAssetLink) (s : Store) (limit : Nat) : List Refusal :=
  [ ⟨limit ≤ (s.links.filter fun l => l.source = request.source ∨ l.target = request.source).length,
      .linkLimitExceeded request.source limit⟩,
    ⟨limit ≤ (s.links.filter fun l => l.source = request.target ∨ l.target = request.target).length,
      .linkLimitExceeded request.target limit⟩ ] ++ request.linkRefusals s

/-- A request is refused for itself and what it refers to, and then for the stored links. -/
theorem refusals_eq_append (r : Registry) :
    request.refusals r = request.plainRefusals r.store ++
      request.conflictRefusals r.store r.linkLimit := by
  rw [refusals, plainRefusals, List.append_assoc]
  rfl

/-- No refusal of a field is for the stored links. -/
theorem not_isLinkConflict_of_mem_fieldRefusals {refusal : Refusal}
    (member : refusal ∈ request.fieldRefusals) : ¬ refusal.error.IsLinkConflict := by
  simp only [fieldRefusals, Validation.databaseIdRefusals, Validation.assetIdRefusals,
    Validation.textRefusals, List.mem_append, List.mem_cons, List.not_mem_nil, or_false] at member
  rcases member with rfl | (rfl | rfl | rfl) | rfl | (rfl | rfl | rfl) | rfl | rfl | rfl <;>
    exact not_false

/-- No refusal of an end is for the stored links. -/
theorem not_isLinkConflict_of_mem_plainRefusals {refusal : Refusal}
    (member : refusal ∈ request.plainRefusals s) : ¬ refusal.error.IsLinkConflict := by
  rcases List.mem_append.1 member with field | unknown
  · exact not_isLinkConflict_of_mem_fieldRefusals field
  · simp only [List.mem_cons, List.not_mem_nil, or_false] at unknown
    rcases unknown with rfl | rfl <;> exact not_false

/-- The other refusals are all for the stored links. -/
theorem isLinkConflict_of_mem_conflictRefusals {refusal : Refusal}
    (member : refusal ∈ request.conflictRefusals s limit) : refusal.error.IsLinkConflict := by
  simp only [conflictRefusals, linkRefusals, List.cons_append, List.nil_append, List.mem_cons,
    List.not_mem_nil, or_false] at member
  rcases member with rfl | rfl | rfl | rfl | rfl | rfl <;> trivial

/-- A request is refused for a conflict exactly where nothing else is wrong with it and some
    conflict is there. -/
theorem exists_isFirst_conflict_iff {r : Registry} :
    (∃ e, e.IsLinkConflict ∧ Refusal.IsFirst (request.refusals r) e) ↔
      (∀ refusal ∈ request.plainRefusals r.store, ¬ refusal.holds) ∧
        ∃ refusal ∈ request.conflictRefusals r.store r.linkLimit, refusal.holds := by
  simp only [refusals_eq_append, Refusal.isFirst_append]
  constructor
  · rintro ⟨e, conflict, plain | ⟨passed, first⟩⟩
    · obtain ⟨refusal, member, _, rfl⟩ := plain.exists_mem
      exact absurd conflict (not_isLinkConflict_of_mem_plainRefusals member)
    · obtain ⟨refusal, member, holds, _⟩ := first.exists_mem
      exact ⟨passed, refusal, member, holds⟩
  · rintro ⟨passed, some⟩
    obtain ⟨e, first⟩ := Refusal.exists_isFirst some
    obtain ⟨refusal, member, _, rfl⟩ := first.exists_mem
    exact ⟨_, isLinkConflict_of_mem_conflictRefusals member, .inr ⟨passed, first⟩⟩

/-- What is wrong with a request for other reasons does not depend on the links. -/
theorem plainRefusals_congr (fewer : small.HasFewerLinks large) :
    request.plainRefusals small = request.plainRefusals large := by
  simp only [plainRefusals, fewer.assets]

/-- A conflict with the links of a smaller store is one with those of a larger one. -/
theorem exists_conflict_mono (fewer : small.HasFewerLinks large)
    (some : ∃ refusal ∈ request.conflictRefusals small limit, refusal.holds) :
    ∃ refusal ∈ request.conflictRefusals large limit, refusal.holds := by
  have counted (touches : AssetLink → Bool) :
      (small.links.filter touches).length ≤ (large.links.filter touches).length :=
    (fewer.links.filter touches).length_le
  simp only [conflictRefusals, linkRefusals, List.cons_append, List.nil_append, List.mem_cons,
    List.not_mem_nil, or_false, exists_eq_or_imp, exists_eq_left] at some ⊢
  -- Each condition speaks of links that are there, and those of the smaller store are there.
  rcases some with sourceFull | targetFull | ⟨type, l, member, twice⟩ | ⟨type, l, member, again⟩ |
    ⟨type, reversed⟩ | ⟨type, path⟩
  · exact .inl (sourceFull.trans (counted _))
  · exact .inr (.inl (targetFull.trans (counted _)))
  · exact .inr (.inr (.inl ⟨type, l, fewer.links.subset member, twice⟩))
  · exact .inr (.inr (.inr (.inl ⟨type, l, fewer.links.subset member, again⟩)))
  · exact .inr (.inr (.inr (.inr (.inl ⟨type, fewer.isParentOf reversed⟩))))
  · exact .inr (.inr (.inr (.inr (.inr ⟨type, fewer.transGen path⟩))))

/-- A request that nothing is held against has nothing held against it with fewer links. -/
theorem not_holds_of_fewer_links {r r' : Registry} (fewer : r'.store.HasFewerLinks r.store)
    (sameLimit : r'.linkLimit = r.linkLimit)
    (passed : ∀ refusal ∈ request.refusals r, ¬ refusal.holds) :
    ∀ refusal ∈ request.refusals r', ¬ refusal.holds := by
  rw [refusals_eq_append, List.forall_mem_append] at passed ⊢
  rw [plainRefusals_congr fewer, sameLimit]
  refine ⟨passed.1, fun refusal member holds => ?_⟩
  obtain ⟨larger, memberLarge, holdsLarge⟩ :=
    exists_conflict_mono fewer ⟨refusal, member, holds⟩
  exact passed.2 larger memberLarge holdsLarge

end NewAssetLink

/-! ### What creations come to -/

namespace Links

variable {request : NewAssetLink} {r r' : Registry} {e : RegistryError}

/-- A row is refused only by a store that does not work. -/
theorem eq_database_of_storeLink_failed (failed : ((storeLink request).perform r).1 = .error e) :
    e = .database := by
  rw [storeLink, perform_get_bind, perform_bind, perform_execute] at failed
  cases stored : (r.execute (Store.insertLink (newLink request r.nextLinkId r.now))).1 with
  | error reason =>
    rw [stored] at failed
    exact (Except.error.inj failed).symm
  | ok row =>
    rw [stored] at failed
    have impossible : (Except.ok row : Except RegistryError AssetLink) = .error e := failed
    cases impossible

/-- A link is created where no condition holds against it and its row is stored. -/
theorem createLink_eq_ok (ready : r.access = .ready) {row : AssetLink} :
    (createLink request).perform r = (.ok row, r') ↔
      (∀ refusal ∈ request.refusals r, ¬ refusal.holds) ∧
        (storeLink request).perform r = (.ok row, r') := by
  have checks := @checks_admission request r ready
  rw [createLink_eq, bind_eq_ok]
  constructor
  · rintro ⟨u, r₁, admitted, stored⟩
    have passed := checks.settle.exists_eq_ok_iff.1 ⟨u, congrArg Prod.fst admitted⟩
    have same : r₁ = r := (congrArg Prod.snd admitted).symm.trans checks.reads
    exact ⟨passed, same ▸ stored⟩
  · rintro ⟨passed, stored⟩
    obtain ⟨u, admitted⟩ := checks.exists_perform passed
    exact ⟨u, r, admitted, stored⟩

/-- A store that cannot be reached gives no conflict away. -/
theorem not_isLinkConflict_of_unreached (unreached : r.access ≠ .ready)
    (failed : ((createLink request).perform r).1 = .error e) : ¬ e.IsLinkConflict := by
  have unread : (requireEnd .source request.source).perform r = (.error .database, r) := by
    rw [requireEnd, perform_bind, perform_query, Registry.query_of_not_ready unreached]
    rfl
  cases checked : checkRequest request with
  | error e' =>
    -- The request is refused by itself, before the store is asked.
    have refused : (createLink request).perform r = (.error e', r) := by
      rw [createLink, checked]
      rfl
    obtain rfl : e' = e := by simpa [refused] using failed
    obtain ⟨refusal, member, _, rfl⟩ :=
      (settle_checkRequest.isFirst_of_eq_error checked).exists_mem
    exact NewAssetLink.not_isLinkConflict_of_mem_fieldRefusals member
  | ok =>
    have refused : (createLink request).perform r = (.error .database, r) := by
      rw [createLink, perform_check_bind checked]
      exact perform_bind_of_error unread _
    rw [refused] at failed
    cases failed
    exact not_false

/-- A creation comes upon a conflict exactly where the first condition that holds is one. -/
theorem createLink_conflict_iff (ready : r.access = .ready) (conflict : e.IsLinkConflict) :
    ((createLink request).perform r).1 = .error e ↔ Refusal.IsFirst (request.refusals r) e := by
  have checks := @checks_admission request r ready
  rw [createLink_eq]
  constructor
  · intro failed
    rw [perform_bind_of_unchanged checks.reads] at failed
    cases admitted : ((admission request).perform r).1 with
    | error e' =>
      rw [admitted] at failed
      obtain rfl : e' = e := Except.error.inj failed
      exact checks.settle.isFirst_of_eq_error admitted
    | ok =>
      -- All that may go wrong then is the store.
      rw [admitted] at failed
      rw [eq_database_of_storeLink_failed failed] at conflict
      exact conflict.elim
  · intro first
    rw [checks.perform_bind_of_isFirst first]

/-- What was checked for a new link holds still when a link has been deleted since. -/
theorem admission_after_deleteLink {assetLinkId : String} {reply : Reply}
    (admitted : (admission request).perform r = (.ok (), r))
    (deleted : (Operation.deleteLink assetLinkId).perform r = (.ok reply, r')) :
    (admission request).perform r' = (.ok (), r') := by
  have ready : r.access = .ready := Operation.needsStore_run rfl _ _ _ deleted
  have passed := (checks_admission ready).settle.exists_eq_ok_iff.1
    ⟨(), congrArg Prod.fst admitted⟩
  cases Operation.step_of_perform deleted with
  | read reads => exact nomatch reads
  | deleteLink ran =>
    next s =>
    -- A deletion leaves links in their order and touches no other table that the checks read.
    have fewer : (r.wrote s).store.HasFewerLinks r.store := by
      obtain ⟨_, _, rfl⟩ := Store.deleteLinkCascade_eq_ok.1 ran
      exact ⟨fun _ => .rfl, List.filter_sublist.subperm⟩
    have checks := @checks_admission request (r.wrote s) ready
    obtain ⟨_, admits⟩ :=
      checks.exists_perform (NewAssetLink.not_holds_of_fewer_links fewer rfl passed)
    exact admits

end Links

/-- A request for a link that is accepted is accepted too where there are fewer links.  If it is
    refused for the links that are there, it is refused for such a reason too where there are
    more. -/
theorem fewer_links_refuse_less (r : Registry) {small large : Store}
    (fewer : small.HasFewerLinks large) (request : NewAssetLink) :
    (∀ row r', (Operation.createLink request).perform (r.withStore large) =
        (.ok (.link row), r') →
      ∃ r'', (Operation.createLink request).perform (r.withStore small) =
        (.ok (.link row), r'')) ∧
    ∀ e, e.IsLinkConflict →
      ((Operation.createLink request).perform (r.withStore small)).1 = .error e →
      ∃ e', e'.IsLinkConflict ∧
        (Operation.createLink request).perform (r.withStore large) =
          (.error e', r.withStore large) := by
  constructor
  · intro row r' accepted
    have ready : (r.withStore large).access = .ready :=
      Operation.needsStore_run rfl _ _ _ accepted
    obtain ⟨row, created, ⟨⟩⟩ := map_eq_ok.1 accepted
    obtain ⟨passed, stored⟩ := (Links.createLink_eq_ok ready).1 created
    obtain ⟨_, rfl, _, inserted, _⟩ := Links.storeLink_eq_ok.1 stored
    -- The name that was free is free, and the row is the same.
    have free : (r.withStore small).store.link? (r.withStore small).nextLinkId = none :=
      fewer.link?_eq_none (Store.insertLink_eq_ok.1 inserted).1
    have readySmall : (r.withStore small).access = .ready := ready
    have fewer : (r.withStore small).store.HasFewerLinks (r.withStore large).store := fewer
    have createdSmall := (Links.createLink_eq_ok readySmall).2
      ⟨NewAssetLink.not_holds_of_fewer_links fewer rfl passed,
        Links.perform_storeLink readySmall free⟩
    exact ⟨_, map_eq_ok.2 ⟨_, createdSmall, rfl⟩⟩
  · intro e conflict refused
    have refused := map_failed_iff.1 refused
    have ready : (r.withStore small).access = .ready := by
      by_contra unreached
      exact Links.not_isLinkConflict_of_unreached unreached refused conflict
    have first := (Links.createLink_conflict_iff ready conflict).1 refused
    obtain ⟨plain, some⟩ := NewAssetLink.exists_isFirst_conflict_iff.1 ⟨e, conflict, first⟩
    -- The request comes as far as the conflicts with more links too.
    have plainLarge : ∀ refusal ∈ request.plainRefusals large, ¬ refusal.holds := by
      rw [← NewAssetLink.plainRefusals_congr fewer]
      exact plain
    have someLarge := NewAssetLink.exists_conflict_mono fewer some
    obtain ⟨e', conflict', first'⟩ :=
      (@NewAssetLink.exists_isFirst_conflict_iff request (r.withStore large)).2
        ⟨plainLarge, someLarge⟩
    have readyLarge : (r.withStore large).access = .ready := ready
    refine ⟨e', conflict', perform_map_of_error ?_ _⟩
    rw [Links.createLink_eq]
    exact (Links.checks_admission readyLarge).perform_bind_of_isFirst first' _

namespace Registry

/-- The store of a plant without the second link from its hall to its press. -/
def thinnedStore : Store :=
  { plant.store with links := plant.store.links.filter (·.assetLinkId ≠ "link-2") }

/-- The thinned plant has fewer links than the plant. -/
theorem hasFewerLinks_thinnedStore : thinnedStore.HasFewerLinks plant.store :=
  ⟨fun _ => .rfl, List.filter_sublist.subperm⟩

end Registry

open Registry in
/-- What a plant has room for it has room for without one of its links.  A loop is refused there
    still, and so it is in the plant. -/
theorem fewer_links_refuse_less_plant :
    thinnedStore.HasFewerLinks plant.store ∧
      (∃ row r', (Operation.createLink driveRequest).perform plant = (.ok (.link row), r') ∧
        ∃ r'', (Operation.createLink driveRequest).perform (plant.withStore thinnedStore) =
          (.ok (.link row), r'')) ∧
      ((Operation.createLink loopRequest).perform (plant.withStore thinnedStore)).1 =
        .error .cycleDetected ∧
      ∃ e, e.IsLinkConflict ∧
        (Operation.createLink loopRequest).perform plant = (.error e, plant) := by
  have ready : plant.access = .ready := reachable_plant.ready
  have free : plant.store.link? plant.nextLinkId = none := by decide +kernel
  -- The two stores differ by one link, and each request is answered in both of them.
  have created : (Operation.createLink driveRequest).perform plant = (.ok (.link _), _) :=
    map_eq_ok.2 ⟨_, (Links.createLink_eq_ok ready).2
      ⟨not_holds_refusals_driveRequest, Links.perform_storeLink ready free⟩, rfl⟩
  have readyThinned : (plant.withStore thinnedStore).access = .ready := ready
  have conflict : RegistryError.cycleDetected.IsLinkConflict := trivial
  have first : Refusal.IsFirst (loopRequest.refusals (plant.withStore thinnedStore))
      .cycleDetected := by
    refine (Links.checks_admission readyThinned).settle.isFirst_of_eq_error ?_
    decide +kernel
  have refused : ((Operation.createLink loopRequest).perform (plant.withStore thinnedStore)).1 =
      .error .cycleDetected :=
    map_failed_iff.2 ((Links.createLink_conflict_iff readyThinned conflict).2 first)
  have accepts := (fewer_links_refuse_less plant hasFewerLinks_thinnedStore driveRequest).1
  have refuses := (fewer_links_refuse_less plant hasFewerLinks_thinnedStore loopRequest).2
  exact ⟨hasFewerLinks_thinnedStore, ⟨_, _, created, accepts _ _ created⟩, refused,
    refuses _ conflict refused⟩

end AssetRegistry
