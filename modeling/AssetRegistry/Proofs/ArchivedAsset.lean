import AssetRegistry.Proofs.ExpandedOnce
import AssetRegistry.Proofs.LinkAcyclic
import AssetRegistry.Proofs.ListingPartition

/-!
# Archiving hides an asset until it is restored

When an asset is archived, all that listings can tell is that it is no longer visible
(`Store.activeAsset?_withArchived`).  Whatever a flat listing shows of the asset goes from there
into the count of what is hidden.  In a tree more may change, because a shared descendant may
get another first place, but nothing is new there.  The asset itself sees the same as before: it
is not linked to itself, and as there is no cycle none of its descendants leads back to it.
-/

namespace AssetRegistry

open AssetRegistry.Action Relation

/-! ### The store -/

namespace Store

variable {s : Store} {x key : AssetKey}

/-- A store with an asset archived or taken back. -/
def withArchived (s : Store) (x : AssetKey) (archived : Bool) : Store :=
  { s with assets := changeRows s.assets (·.key = x) ({ · with archived }) }

/-- The asset is found as archived or not, and the others as they are. -/
theorem asset?_withArchived {archived : Bool} :
    (s.withArchived x archived).asset? key =
      (s.asset? key).map fun a => if a.key = x then { a with archived } else a := by
  have looked : (changeRows s.assets (·.key = x) ({ · with archived })).find? (·.key = key) =
      (s.assets.find? (·.key = key)).map fun a =>
        if decide (a.key = x) then { a with archived } else a :=
    find?_changeRows fun _ => rfl
  simp only [decide_eq_true_eq] at looked
  exact looked

/-- The archived asset is not visible, and every other one is as visible as it was. -/
theorem activeAsset?_withArchived :
    (s.withArchived x true).activeAsset? key = if key = x then none else s.activeAsset? key := by
  rw [activeAsset?, activeAsset?, asset?_withArchived]
  cases found : s.asset? key with
  | none => simp
  | some a =>
    have named : a.key = key := by simpa using List.find?_some found
    by_cases same : key = x
    · simp [named, same]
    · simp [named, same]

/-- To take an asset back is to undo that it was archived. -/
theorem withArchived_withArchived (distinct : s.assetKeys.Nodup)
    (active : (s.activeAsset? x).isSome) : (s.withArchived x true).withArchived x false = s := by
  have undone : ∀ a ∈ s.assets, decide (a.key = x) = true →
      { { a with archived := true } with archived := false } = a := by
    intro a member named
    -- It is the asset that is found, which is not archived.
    have found : s.asset? x = some a := by
      rw [← of_decide_eq_true named]
      exact find?_eq_some_of_mem distinct member
    have unarchived : a.archived = false := by simpa [activeAsset?, found] using active
    rw [← unarchived]
  have rows : changeRows (changeRows s.assets (·.key = x) ({ · with archived := true }))
      (·.key = x) ({ · with archived := false }) = s.assets :=
    changeRows_undo (fun _ => rfl) undone
  exact congrArg (fun assets => { s with assets }) rows

end Store

/-! ### What is visible -/

namespace Links

variable {s : Store} {x : AssetKey} {other : AssetLink → AssetKey} {links : List AssetLink}
  {a : LinkedAsset}

/-- What is shown of a link is the asset at the end that is looked at. -/
theorem exists_of_mem_visible (member : a ∈ visible s other links) :
    ∃ l ∈ links, a.key = other l := by
  obtain ⟨l, inLinks, made⟩ := List.mem_filterMap.1 member
  obtain ⟨asset, active, rfl⟩ := Option.map_eq_some_iff.1 made
  exact ⟨l, inLinks, Store.key_of_activeAsset? active⟩

/-- An archived asset is not shown, and the others are as before. -/
theorem visible_withArchived (s : Store) (x : AssetKey) (other : AssetLink → AssetKey)
    (links : List AssetLink) :
    visible (s.withArchived x true) other links =
      (visible s other links).filter (·.key ≠ x) := by
  induction links with
  | nil => rfl
  | cons l links ih =>
    simp only [visible, List.filterMap_cons, Store.activeAsset?_withArchived] at ih ⊢
    cases active : s.activeAsset? (other l) with
    | none => simpa using ih
    | some asset =>
      have named : (linked l asset).key = other l := Store.key_of_activeAsset? active
      by_cases same : other l = x
      · simpa [same, named] using ih
      · simpa [same, named] using ih

/-- What is no longer shown is counted. -/
theorem hiddenCount_withArchived (s : Store) (x : AssetKey) (other : AssetLink → AssetKey)
    (links : List AssetLink) :
    hiddenCount (s.withArchived x true) other links =
      hiddenCount s other links + (visible s other links).countP (·.key = x) := by
  induction links with
  | nil => rfl
  | cons l links ih =>
    simp only [visible, hiddenCount, List.filterMap_cons, List.countP_cons,
      Store.activeAsset?_withArchived] at ih ⊢
    -- Only links with an active other end are counted anew, and only where that end is the asset.
    cases active : s.activeAsset? (other l) with
    | none =>
      simp [ih]
      omega
    | some asset =>
      have named : (linked l asset).key = other l := Store.key_of_activeAsset? active
      by_cases same : other l = x
      · simp [ih, same, named]
        omega
      · simp [ih, same, named]

end Links

/-! ### Flat listings -/

namespace FlatListing

/-- A listing without the entries of an asset, which are counted instead. -/
def without (listing : FlatListing) (x : AssetKey) : FlatListing where
  related := listing.related.filter (·.key ≠ x)
  parents := listing.parents.filter (·.key ≠ x)
  children := listing.children.filter (·.key ≠ x)
  hidden :=
    { related := listing.hidden.related + listing.related.countP (·.key = x)
      parents := listing.hidden.parents + listing.parents.countP (·.key = x)
      children := listing.hidden.children + listing.children.countP (·.key = x) }

variable {s : Store} {x key : AssetKey}

/-- The listing of an asset is the one before without the archived asset. -/
theorem ofStore_withArchived (s : Store) (x key : AssetKey) :
    ofStore (s.withArchived x true) key = (ofStore s key).without x := by
  have outgoing (type : RelationshipType) :
      (s.withArchived x true).outgoing key type = s.outgoing key type := rfl
  have incoming (type : RelationshipType) :
      (s.withArchived x true).incoming key type = s.incoming key type := rfl
  simp only [ofStore, without, outgoing, incoming, Links.visible_withArchived,
    Links.hiddenCount_withArchived, List.filter_append, List.countP_append, FlatListing.mk.injEq,
    HiddenCounts.mk.injEq, true_and, and_true]
  omega

/-- Nothing is hidden from a listing that does not show it. -/
theorem without_eq_self {listing : FlatListing} (related : ∀ a ∈ listing.related, a.key ≠ x)
    (parents : ∀ a ∈ listing.parents, a.key ≠ x) (children : ∀ a ∈ listing.children, a.key ≠ x) :
    listing.without x = listing := by
  have kept {entries : List LinkedAsset} (others : ∀ a ∈ entries, a.key ≠ x) :
      entries.filter (·.key ≠ x) = entries ∧ entries.countP (·.key = x) = 0 := by
    constructor
    · simpa using others
    · simpa [List.countP_eq_zero] using others
  simp only [without, kept related, kept parents, kept children, Nat.add_zero]

/-- An asset that is not linked to itself does not show up in its own listing. -/
theorem without_ofStore_self (apart : ∀ l ∈ s.links, l.source ≠ l.target) :
    (ofStore s x).without x = ofStore s x := by
  -- An asset that is shown is the other end of a link at the asset.
  have leaving (type : RelationshipType) :
      ∀ a ∈ Links.visible s AssetLink.target (s.outgoing x type), a.key ≠ x := by
    intro a member same
    obtain ⟨l, inLinks, shown⟩ := Links.exists_of_mem_visible member
    obtain ⟨stored, source, _⟩ := Store.mem_outgoing.1 inLinks
    exact apart l stored (source.trans (same.symm.trans shown))
  have coming (type : RelationshipType) :
      ∀ a ∈ Links.visible s AssetLink.source (s.incoming x type), a.key ≠ x := by
    intro a member same
    obtain ⟨l, inLinks, shown⟩ := Links.exists_of_mem_visible member
    obtain ⟨stored, target, _⟩ := Store.mem_incoming.1 inLinks
    exact apart l stored (shown.symm.trans (same.trans target.symm))
  refine without_eq_self ?_ (coming _) (leaving _)
  exact List.forall_mem_append.2 ⟨leaving _, coming _⟩

end FlatListing

/-! ### Trees -/

namespace Links

variable {s : Store} {x root : AssetKey}

/-- What is shown below an asset was shown there before. -/
theorem hasVisibleChild_of_withArchived {parent child : AssetKey}
    (shows : (s.withArchived x true).HasVisibleChild parent child) :
    s.HasVisibleChild parent child := by
  obtain ⟨isParent, active⟩ := shows
  refine ⟨isParent, ?_⟩
  rw [Store.activeAsset?_withArchived] at active
  split at active
  · exact nomatch active
  · exact active

/-- Where visible children lead now they have led before. -/
theorem hasDescendant_of_withArchived {key : AssetKey}
    (path : (s.withArchived x true).HasDescendant root key) : s.HasDescendant root key :=
  TransGen.mono (fun _ _ => hasVisibleChild_of_withArchived) _ _ path

/-- No link is new in a tree. -/
theorem ids_descendants_withArchived_subset (s : Store) (x root : AssetKey) :
    (TreeNode.preorderAll (descendants (s.withArchived x true) root)).map
        (·.asset.assetLinkId) ⊆
      (TreeNode.preorderAll (descendants s root)).map (·.asset.assetLinkId) := by
  intro id member
  rw [(isTreeBelow_descendants _ root).mem_ids] at member ⊢
  obtain ⟨l, stored, named, type, leaves, active⟩ := member
  refine ⟨l, stored, named, type, leaves.imp_right hasDescendant_of_withArchived, ?_⟩
  exact (hasVisibleChild_of_withArchived ⟨⟨l, stored, type, rfl, rfl⟩, active⟩).2

/-- An asset that is not a child of another one is not missed there. -/
theorem childrenAmong_withArchived {key : AssetKey} (noChild : ¬ s.IsParentOf key x) :
    childrenAmong (s.withArchived x true) s.links key = childrenAmong s s.links key := by
  rw [childrenAmong, visible_withArchived]
  apply List.filter_eq_self.2
  intro a member
  obtain ⟨l, stored, leaves, type, made⟩ := mem_childrenAmong.1 member
  have other : a.key ≠ x := by
    rintro rfl
    exact noChild ⟨l, stored, type, leaves, made.key_eq.symm⟩
  simpa using other

/-- Where there is no cycle, an archived asset has the tree that it had before. -/
theorem descendants_withArchived_self (acyclic : s.IsAcyclic) :
    descendants (s.withArchived x true) x = descendants s x := by
  -- Nothing that the asset leads to has it as a child.
  have noChild (key : AssetKey) (known : key = x ∨ (s.withArchived x true).HasDescendant x key) :
      ¬ s.IsParentOf key x := by
    intro isParent
    rcases known with rfl | path
    · exact acyclic _ (.single isParent)
    · have links : TransGen s.IsParentOf x key :=
        TransGen.mono (fun _ _ shows => shows.1) _ _ (hasDescendant_of_withArchived path)
      exact acyclic x (links.tail isParent)
  -- So both trees are built from the same children.
  have built := (@builds_iff_of_found s x (childrenAmong s s.links) _ fun _ _ => rfl).2 rfl
  have same (key : AssetKey) (known : key = x ∨ (s.withArchived x true).HasDescendant x key) :=
    (childrenAmong_withArchived (noChild key known)).symm
  exact ((builds_iff_of_found same).1 built).symm

end Links

/-! ### Operations -/

namespace Registry

variable {r : Registry} {x key : AssetKey}

/-- What the listing of an asset answers where the children are a tree. -/
def ListsTree (r : Registry) (key : AssetKey) (listing : FlatListing) (tree : List TreeNode) :
    Prop :=
  (Operation.listLinks key true).perform r =
    (.ok (.links { listing.toAssetLinks with children := .tree tree }), r)

/-- An asset lists its tree with what is beside it. -/
theorem listsTree_descendants (ready : r.access = .ready) (there : (r.store.asset? key).isSome)
    (ordered : r.store.links.Pairwise fun l l' => l.createdAt.before l'.createdAt) :
    r.ListsTree key (.ofStore r.store key) (Links.descendants r.store key) := by
  obtain ⟨a, found⟩ := Option.isSome_iff_exists.1 there
  refine map_eq_ok.2 ⟨_, Links.perform_listLinks ready found true, ?_⟩
  rw [← linksAt_eq_ofStore ordered]
  rfl

end Registry

namespace Operation

variable {r r' : Registry} {x key : AssetKey}

/-- The listing of an asset depends on the store alone. -/
theorem outcome_listLinks_congr (ready : r.access = .ready) (ready' : r'.access = .ready)
    (same : r'.store = r.store) (childTreeView : Bool) :
    ((listLinks key childTreeView).perform r').1 = ((listLinks key childTreeView).perform r).1 := by
  -- The answer is a function of the store where the store can be reached.
  have answered {r : Registry} (ready : r.access = .ready) :
      ((listLinks key childTreeView).perform r).1 =
        match r.store.asset? key with
        | some _ => .ok (.links (Links.linksAt r.store key childTreeView))
        | none => .error (.notFound (.asset key)) := by
    cases found : r.store.asset? key with
    | some a =>
      exact congrArg Prod.fst (map_eq_ok.2 ⟨_, Links.perform_listLinks ready found _, rfl⟩)
    | none =>
      have refused : (Links.requireListed key).perform r = (.error (.notFound (.asset key)), r) := by
        rw [Links.requireListed, perform_query_bind ready, found]
        rfl
      exact map_failed_iff.2 (congrArg Prod.fst (perform_bind_of_error refused _))
  rw [answered ready, answered ready', same]

/-- Archiving a stored asset sets its flag and nothing else. -/
theorem perform_archiveAsset (ready : r.access = .ready) (there : (r.store.asset? x).isSome) :
    (archiveAsset x).perform r = (.ok .done, r.wrote (r.store.withArchived x true)) := by
  have ran : Store.setAssetArchived x true r.store = .ok ((), r.store.withArchived x true) :=
    Store.setAssetArchived_eq_ok.2 ⟨by simpa [Store.asset?] using there, rfl⟩
  exact map_eq_ok.2 ⟨(), execute_eq_ok.2 ⟨ready, _, ran, rfl⟩, rfl⟩

/-- Restoring a stored asset takes its flag back and nothing else. -/
theorem perform_restoreAsset (ready : r.access = .ready) (there : (r.store.asset? x).isSome)
    {a : Asset} (restored : (r.store.withArchived x false).asset? x = some a) :
    (restoreAsset x).perform r = (.ok (.asset a), r.wrote (r.store.withArchived x false)) := by
  have ran : Store.setAssetArchived x false r.store = .ok ((), r.store.withArchived x false) :=
    Store.setAssetArchived_eq_ok.2 ⟨by simpa [Store.asset?] using there, rfl⟩
  have wrote : (Catalog.restoreAsset x).perform r = _ :=
    perform_bind_of_ok (execute_eq_ok.2 ⟨ready, _, ran, rfl⟩) _
  have found : (Catalog.getAsset x).perform (r.wrote (r.store.withArchived x false)) =
      (.ok a, r.wrote (r.store.withArchived x false)) :=
    Catalog.getAsset_eq_ok.2 ⟨ready, restored, rfl⟩
  exact map_eq_ok.2 ⟨a, wrote.trans found, rfl⟩

end Operation

namespace Registry

variable {r archived : Registry} {x y : AssetKey}

/-- What the listings of an asset were and what they are when some asset has been archived: the
    flat one is without that asset, and the tree has no other links than before. -/
def HidesFrom (r archived : Registry) (x y : AssetKey) : Prop :=
  ∃ listing tree treeAfter,
    r.ListsFlat y listing ∧ r.ListsTree y listing tree ∧
    archived.ListsFlat y (listing.without x) ∧ archived.ListsTree y (listing.without x) treeAfter ∧
    (TreeNode.preorderAll treeAfter).map (·.asset.assetLinkId) ⊆
      (TreeNode.preorderAll tree).map (·.asset.assetLinkId) ∧
    (y = x → listing.without x = listing ∧ treeAfter = tree)

/-- Once an asset is archived, it is hidden from every other one. -/
theorem hidesFrom_wrote_withArchived (ready : r.access = .ready)
    (ordered : r.store.links.Pairwise fun l l' => l.createdAt.before l'.createdAt)
    (apart : ∀ l ∈ r.store.links, l.source ≠ l.target) (acyclic : r.store.IsAcyclic)
    (there : (r.store.asset? y).isSome) :
    r.HidesFrom (r.wrote (r.store.withArchived x true)) x y := by
  have readyAfter : (r.wrote (r.store.withArchived x true)).access = .ready := ready
  have thereAfter : ((r.wrote (r.store.withArchived x true)).store.asset? y).isSome := by
    show ((r.store.withArchived x true).asset? y).isSome
    rw [Store.asset?_withArchived, Option.isSome_map]
    exact there
  -- The listings before and after are computed from the two stores.
  have flat := listsFlat_ofStore ready there ordered
  have flatAfter := listsFlat_ofStore readyAfter thereAfter ordered
  have tree := listsTree_descendants ready there ordered
  have treeAfter := listsTree_descendants readyAfter thereAfter ordered
  have without : FlatListing.ofStore (r.wrote (r.store.withArchived x true)).store y =
      (FlatListing.ofStore r.store y).without x := FlatListing.ofStore_withArchived _ _ _
  -- What the archived asset is taken out of is the listing from before.
  rw [without] at flatAfter treeAfter
  refine ⟨_, _, _, flat, tree, flatAfter, treeAfter,
    Links.ids_descendants_withArchived_subset r.store x y, ?_⟩
  rintro rfl
  exact ⟨FlatListing.without_ofStore_self apart, Links.descendants_withArchived_self acyclic⟩

end Registry

/-- In every registry that operations lead to, an asset that is archived goes from the flat
    listings of all other assets, in each of them into the count of what is hidden, and no tree
    shows a link that it did not show before.  Its own listings stay as they are.  When it is
    restored then, the store is the one from before, and so is every listing. -/
theorem archived_asset_hidden_until_restored {linkLimit : Nat} {r : Registry}
    (reachable : r.Reachable linkLimit) {x : AssetKey} (active : (r.store.activeAsset? x).isSome) :
    ∃ archived restored row,
      (Operation.archiveAsset x).perform r = (.ok .done, archived) ∧
      (∀ y, (r.store.asset? y).isSome → r.HidesFrom archived x y) ∧
      (Operation.restoreAsset x).perform archived = (.ok (.asset row), restored) ∧
      r.store.asset? x = some row ∧ restored.store = r.store ∧
      ∀ y childTreeView, ((Operation.listLinks y childTreeView).perform restored).1 =
        ((Operation.listLinks y childTreeView).perform r).1 := by
  have inv : r.store.Consistent := Registry.LeadsTo.consistent reachable .initial
  have ready := reachable.ready
  obtain ⟨row, active⟩ := Option.isSome_iff_exists.1 active
  have found : r.store.asset? x = some row := (Option.filter_eq_some_iff.1 active).1
  have there : (r.store.asset? x).isSome := Option.isSome_of_eq_some found
  -- The asset was active, so that to set its flag back makes the row what it was.
  have back : (r.store.withArchived x true).withArchived x false = r.store :=
    Store.withArchived_withArchived inv.distinctAssets (Option.isSome_of_eq_some active)
  have readyAfter : (r.wrote (r.store.withArchived x true)).access = .ready := ready
  have thereAfter : ((r.store.withArchived x true).asset? x).isSome := by
    rw [Store.asset?_withArchived, Option.isSome_map]
    exact there
  have restored : ((r.wrote (r.store.withArchived x true)).store.withArchived x false).asset? x =
      some row := (congrArg (·.asset? x) back).trans found
  have restores := Operation.perform_restoreAsset readyAfter thereAfter restored
  refine ⟨_, _, row, Operation.perform_archiveAsset ready there, ?_, restores, found, back, ?_⟩
  · intro y stored
    exact Registry.hidesFrom_wrote_withArchived ready reachable.links_ordered
      reachable.hasDistinctLinks.apart reachable.isAcyclic stored
  · -- The store is the one from before, and listings depend on the store alone.
    intro y view
    have readyRestored : ((r.wrote (r.store.withArchived x true)).wrote
        ((r.store.withArchived x true).withArchived x false)).access = .ready := ready
    exact Operation.outcome_listLinks_congr ready readyRestored back view

open Registry in
/-- The hall of a plant no longer shows its two links to the press when that is archived, and
    counts them. -/
theorem archived_asset_hidden_until_restored_plant :
    (plant.store.activeAsset? ⟨"plant", "press"⟩).isSome ∧ ∃ archived listing,
      (Operation.archiveAsset ⟨"plant", "press"⟩).perform plant = (.ok .done, archived) ∧
      plant.ListsFlat ⟨"plant", "hall"⟩ listing ∧
      listing.children.map (·.assetLinkId) = ["link-1", "link-2"] ∧
      archived.ListsFlat ⟨"plant", "hall"⟩ (listing.without ⟨"plant", "press"⟩) ∧
      (listing.without ⟨"plant", "press"⟩).children = [] ∧
      (listing.without ⟨"plant", "press"⟩).hidden = ⟨0, 0, 2⟩ := by
  have active : (plant.store.activeAsset? ⟨"plant", "press"⟩).isSome := by decide +kernel
  have there : (plant.store.asset? ⟨"plant", "hall"⟩).isSome := by decide +kernel
  obtain ⟨archived, _, _, archives, hides, _⟩ :=
    archived_asset_hidden_until_restored reachable_plant active
  obtain ⟨listing, _, _, before, _, after, _⟩ := hides _ there
  obtain rfl := before.unique
    (listsFlat_ofStore reachable_plant.ready there reachable_plant.links_ordered)
  exact ⟨active, archived, _, archives, before, by decide +kernel, after, by decide +kernel,
    by decide +kernel⟩

end AssetRegistry
