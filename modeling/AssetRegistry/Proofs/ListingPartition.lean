import AssetRegistry.Proofs.CreationOrder
import AssetRegistry.Proofs.DescendantTree

/-!
# A flat listing accounts for every link

The links at an asset are those that leave it and those that come to it, and each is of the
one relationship or of the other.  That makes four lists, which share no link since no link
leaves the asset that it comes to, and every entry and every hidden count of a flat listing is
about one of them.  `Links.Accounts` relates links to the part of a listing that is made from
them.  As it says which links are shown, it also tells where a link is found in the listings of
its two assets.
-/

namespace AssetRegistry

/-- The asset at the other end of a link. -/
def AssetLink.otherEnd (l : AssetLink) (key : AssetKey) : AssetKey :=
  if l.source = key then l.target else l.source

namespace Store

/-- The links of one relationship that leave an asset. -/
def outgoing (s : Store) (key : AssetKey) (type : RelationshipType) : List AssetLink :=
  s.links.filter fun l => l.source = key && l.relationshipType = type

/-- The links of one relationship that come to an asset. -/
def incoming (s : Store) (key : AssetKey) (type : RelationshipType) : List AssetLink :=
  s.links.filter fun l => l.target = key && l.relationshipType = type

end Store

namespace Links

/-- How entries and a count account for links at an asset, one link after another.  A link is
    shown with its id and its alias and with the key and the name of the asset at its other
    end, unless that asset is archived.  Then the link counts as hidden. -/
inductive Accounts (s : Store) (key : AssetKey) : List AssetLink → List LinkedAsset → Nat → Prop
  where
  | done : Accounts s key [] [] 0
  | shown {l : AssetLink} {other : Asset} {links : List AssetLink} {entries : List LinkedAsset}
      {hidden : Nat} (there : s.asset? (l.otherEnd key) = some other)
      (active : other.archived = false) (rest : Accounts s key links entries hidden) :
      Accounts s key (l :: links)
        ({ assetLinkId := l.assetLinkId
           assetId := (l.otherEnd key).assetId
           assetName := other.assetName
           databaseId := (l.otherEnd key).databaseId
           assetLinkAliasId := l.assetLinkAliasId } :: entries) hidden
  | hidden {l : AssetLink} {other : Asset} {links : List AssetLink} {entries : List LinkedAsset}
      {hidden : Nat} (there : s.asset? (l.otherEnd key) = some other)
      (archived : other.archived = true) (rest : Accounts s key links entries hidden) :
      Accounts s key (l :: links) entries (hidden + 1)

namespace Accounts

variable {s : Store} {key : AssetKey} {links links' : List AssetLink}
  {entries entries' : List LinkedAsset} {hidden hidden' : Nat}

/-- Two parts of the links account for both. -/
theorem append (first : Accounts s key links entries hidden)
    (second : Accounts s key links' entries' hidden') :
    Accounts s key (links ++ links') (entries ++ entries') (hidden + hidden') := by
  induction first with
  | done => simpa using second
  | shown there active _ ih => exact .shown there active ih
  | hidden there archived _ ih =>
    rw [Nat.add_right_comm]
    exact .hidden there archived ih

/-- The part of a listing that is made from links whose other ends are stored. -/
theorem of_visible {other : AssetLink → AssetKey}
    (ends : ∀ l ∈ links, other l = l.otherEnd key ∧ other l ∈ s.assetKeys) :
    Accounts s key links (visible s other links) (hiddenCount s other links) := by
  induction links with
  | nil => exact .done
  | cons l links ih =>
    have rest := ih fun l' member => ends l' (List.mem_cons_of_mem _ member)
    obtain ⟨same, stored⟩ := ends l List.mem_cons_self
    obtain ⟨a, there⟩ := Option.isSome_iff_exists.1 (Store.isSome_find?_iff_mem_keys.2 stored)
    have key_eq : a.key = other l := by simpa using List.find?_some there
    rw [visible, hiddenCount] at rest ⊢
    -- The other end is stored, so the flag of its asset decides whether the link is shown.
    cases archived : a.archived with
    | false =>
      have active : s.activeAsset? (other l) = some a :=
        Option.filter_eq_some_iff.2 ⟨there, by simp [archived]⟩
      rw [List.filterMap_cons_some (by rw [active]; rfl),
        List.countP_cons_of_neg (by simp [active])]
      have shown := rest.shown (same ▸ there) archived
      rw [← same, ← key_eq] at shown
      exact shown
    | true =>
      have inactive : s.activeAsset? (other l) = none :=
        Option.filter_eq_none_iff.2 fun a' found => by
          obtain rfl := Option.some.inj (there.symm.trans found)
          simp [archived]
      rw [List.filterMap_cons_none (by simp [inactive]),
        List.countP_cons_of_pos (by simp [inactive])]
      exact rest.hidden (same ▸ there) archived

/-- A link to an asset that is not archived is shown where it is accounted for. -/
theorem mem_ids_iff (accounts : Accounts s key links entries hidden) {id : String} :
    id ∈ entries.map (·.assetLinkId) ↔
      ∃ l ∈ links, l.assetLinkId = id ∧ (s.activeAsset? (l.otherEnd key)).isSome := by
  induction accounts with
  | done => simp
  | @shown l other _ _ _ there active _ ih =>
    have shown : (s.activeAsset? (l.otherEnd key)).isSome := by
      simp [Store.activeAsset?, there, active]
    simp only [List.map_cons, List.mem_cons, ih, exists_eq_or_imp, shown, and_true,
      eq_comm (a := id)]
  | @hidden l other _ _ _ there archived _ ih =>
    have notShown : s.activeAsset? (l.otherEnd key) = none := by
      simp [Store.activeAsset?, there, archived]
    simp [ih, notShown]

end Accounts

end Links

/-! ### The four lists of links at an asset -/

namespace Store

variable {s : Store} {key : AssetKey} {l : AssetLink} {type : RelationshipType}

/-- Outgoing links are those of a type that start at the asset. -/
theorem mem_outgoing :
    l ∈ s.outgoing key type ↔ l ∈ s.links ∧ l.source = key ∧ l.relationshipType = type := by
  simp [outgoing]

/-- Incoming links are those of a type that end at the asset. -/
theorem mem_incoming :
    l ∈ s.incoming key type ↔ l ∈ s.links ∧ l.target = key ∧ l.relationshipType = type := by
  simp [incoming]

/-- A link of either direction is stored. -/
theorem mem_links_of_mem_append (among : l ∈ s.outgoing key type ++ s.incoming key type) :
    l ∈ s.links := by
  rcases List.mem_append.1 among with leaves | comes
  · exact (mem_outgoing.1 leaves).1
  · exact (mem_incoming.1 comes).1

/-- Links that are chosen from a table are of the one relationship or of the other. -/
theorem filter_perm_byType (links : List AssetLink) (chosen : AssetLink → Bool) :
    (links.filter chosen).Perm
      (links.filter (fun l => chosen l && l.relationshipType = .related) ++
        links.filter (fun l => chosen l && l.relationshipType = .parentChild)) := by
  have split := (List.filter_append_perm (fun l : AssetLink => l.relationshipType = .related)
    (links.filter chosen)).symm
  rw [List.filter_filter, List.filter_filter] at split
  convert split using 3
  · funext l
    rw [Bool.and_comm]
  · funext l
    cases l.relationshipType <;> simp

/-- Where no link leaves the asset that it comes to, every link at an asset is in one of the
    four lists, and once. -/
theorem filter_touches_perm (apart : ∀ l ∈ s.links, l.source ≠ l.target) (key : AssetKey) :
    ((s.outgoing key .related ++ s.incoming key .related) ++ s.incoming key .parentChild ++
      s.outgoing key .parentChild).Perm (s.links.filter (·.touches key)) := by
  have comes : (s.links.filter fun l => !decide (l.source = key)).filter (·.target = key) =
      s.links.filter (·.target = key) := by
    rw [List.filter_filter]
    apply List.filter_congr
    intro l member
    by_cases target : l.target = key
    · simp [target, target ▸ apart l member]
    · simp [target]
  have leaving := filter_perm_byType s.links fun l => l.source = key
  have coming := filter_perm_byType s.links fun l => l.target = key
  have both := filter_or_perm (fun l : AssetLink => l.source = key) (fun l => l.target = key)
    s.links
  rw [comes] at both
  refine List.Perm.trans ?_ ((leaving.append coming).symm.trans both.symm)
  -- The children are listed last, and stand with the related links that leave the asset.
  show ((s.outgoing key .related ++ s.incoming key .related) ++ s.incoming key .parentChild ++
      s.outgoing key .parentChild).Perm
    ((s.outgoing key .related ++ s.outgoing key .parentChild) ++
      (s.incoming key .related ++ s.incoming key .parentChild))
  simp only [List.append_assoc]
  refine List.Perm.append_left _ ?_
  rw [← List.append_assoc]
  exact List.perm_append_comm

end Store

/-! ### Flat listings -/

/-- A listing in which the children are not a tree. -/
structure FlatListing where
  related : List LinkedAsset
  parents : List LinkedAsset
  children : List LinkedAsset
  hidden : HiddenCounts
  deriving DecidableEq, Repr

namespace FlatListing

/-- The listing as it is answered. -/
def toAssetLinks (listing : FlatListing) : AssetLinks where
  related := listing.related
  parents := listing.parents
  children := .flat listing.children
  hidden := listing.hidden

/-- A flat listing is told by what is answered. -/
theorem toAssetLinks_injective {listing listing' : FlatListing}
    (same : listing.toAssetLinks = listing'.toAssetLinks) : listing = listing' := by
  cases listing
  cases listing'
  simpa [toAssetLinks] using same

/-- The listing of an asset, made of the four lists of links. -/
def ofStore (s : Store) (key : AssetKey) : FlatListing where
  related :=
    Links.visible s AssetLink.target (s.outgoing key .related) ++
      Links.visible s AssetLink.source (s.incoming key .related)
  parents := Links.visible s AssetLink.source (s.incoming key .parentChild)
  children := Links.visible s AssetLink.target (s.outgoing key .parentChild)
  hidden :=
    { related := Links.hiddenCount s AssetLink.target (s.outgoing key .related) +
        Links.hiddenCount s AssetLink.source (s.incoming key .related)
      parents := Links.hiddenCount s AssetLink.source (s.incoming key .parentChild)
      children := Links.hiddenCount s AssetLink.target (s.outgoing key .parentChild) }

/-- A listing accounts for every link at an asset once, in the order of creation. -/
structure Partitions (listing : FlatListing) (s : Store) (key : AssetKey) : Prop where
  related : Links.Accounts s key (s.outgoing key .related ++ s.incoming key .related)
    listing.related listing.hidden.related
  parents : Links.Accounts s key (s.incoming key .parentChild) listing.parents
    listing.hidden.parents
  children : Links.Accounts s key (s.outgoing key .parentChild) listing.children
    listing.hidden.children
  whole : ((s.outgoing key .related ++ s.incoming key .related) ++ s.incoming key .parentChild ++
    s.outgoing key .parentChild).Perm (s.links.filter (·.touches key))
  once : ((s.links.filter (·.touches key)).map (·.assetLinkId)).Nodup
  inOrder : ∀ type,
    (s.outgoing key type).Pairwise (fun l l' => l.createdAt.before l'.createdAt) ∧
      (s.incoming key type).Pairwise (fun l l' => l.createdAt.before l'.createdAt)

variable {s : Store}

/-- The listing of an asset accounts for the links there. -/
theorem ofStore_partitions (inv : s.Consistent) (apart : ∀ l ∈ s.links, l.source ≠ l.target)
    (ordered : s.links.Pairwise fun l l' => l.createdAt.before l'.createdAt) (key : AssetKey) :
    (ofStore s key).Partitions s key := by
  have leaving : ∀ type, Links.Accounts s key (s.outgoing key type)
      (Links.visible s AssetLink.target (s.outgoing key type))
      (Links.hiddenCount s AssetLink.target (s.outgoing key type)) := by
    intro type
    refine .of_visible ?_
    intro l member
    obtain ⟨stored, source, _⟩ := Store.mem_outgoing.1 member
    exact ⟨by rw [AssetLink.otherEnd, if_pos source], (inv.linkEnds l stored).2⟩
  have coming : ∀ type, Links.Accounts s key (s.incoming key type)
      (Links.visible s AssetLink.source (s.incoming key type))
      (Links.hiddenCount s AssetLink.source (s.incoming key type)) := by
    intro type
    refine .of_visible ?_
    intro l member
    obtain ⟨stored, target, _⟩ := Store.mem_incoming.1 member
    -- The link does not leave the asset too, to which it comes.
    have source : l.source ≠ key := fun source => apart l stored (source.trans target.symm)
    exact ⟨by rw [AssetLink.otherEnd, if_neg source], (inv.linkEnds l stored).1⟩
  exact
    { related := (leaving .related).append (coming .related)
      parents := coming .parentChild
      children := leaving .parentChild
      whole := Store.filter_touches_perm apart key
      once := Store.nodup_keys_filter inv.distinctLinks _
      inOrder := fun _ => ⟨ordered.filter _, ordered.filter _⟩ }

end FlatListing

namespace Registry

/-- What the flat listing of an asset answers. -/
def ListsFlat (r : Registry) (key : AssetKey) (listing : FlatListing) : Prop :=
  (Operation.listLinks key false).perform r = (.ok (.links listing.toAssetLinks), r)

variable {r : Registry} {key : AssetKey}

/-- An asset has one flat listing. -/
theorem ListsFlat.unique {listing listing' : FlatListing} (lists : r.ListsFlat key listing)
    (lists' : r.ListsFlat key listing') : listing = listing' := by
  have same := lists.symm.trans lists'
  simp only [Prod.mk.injEq, Except.ok.injEq, Reply.links.injEq, and_true] at same
  exact FlatListing.toAssetLinks_injective same

/-- Where links stand in the order of their creation, a flat listing is made of the four
    lists as they stand in the table. -/
theorem linksAt_eq_ofStore {s : Store}
    (ordered : s.links.Pairwise fun l l' => l.createdAt.before l'.createdAt) :
    Links.linksAt s key false = (FlatListing.ofStore s key).toAssetLinks := by
  -- To sort links by their times does not move them where they stand in that order.
  have leaving : ∀ type, Links.ofType type (s.linksFrom key) = s.outgoing key type := by
    intro type
    rw [Links.ofType, Store.linksFrom, Store.mergeSort_filter_links ordered, List.filter_filter]
    exact List.filter_congr fun l _ => Bool.and_comm _ _
  have coming : ∀ type, Links.ofType type (s.linksTo key) = s.incoming key type := by
    intro type
    rw [Links.ofType, Store.linksTo, Store.mergeSort_filter_links ordered, List.filter_filter]
    exact List.filter_congr fun l _ => Bool.and_comm _ _
  have children : Links.childrenAmong s s.links key =
      Links.visible s AssetLink.target (s.outgoing key .parentChild) := by
    rw [← leaving]
    rfl
  simp only [Links.linksAt, Links.hiddenAt, leaving, coming, children, FlatListing.ofStore,
    FlatListing.toAssetLinks, Bool.false_eq_true, if_false]

/-- A stored asset is answered with the flat listing of the store. -/
theorem listsFlat_ofStore (ready : r.access = .ready) (there : (r.store.asset? key).isSome)
    (ordered : r.store.links.Pairwise fun l l' => l.createdAt.before l'.createdAt) :
    r.ListsFlat key (.ofStore r.store key) := by
  obtain ⟨a, found⟩ := Option.isSome_iff_exists.1 there
  exact Action.map_eq_ok.2
    ⟨_, Links.perform_listLinks ready found false, by rw [linksAt_eq_ofStore ordered]⟩

end Registry

/-! ### The two listings of a link -/

namespace Links.Accounts

variable {s : Store} {key : AssetKey} {links : List AssetLink} {entries : List LinkedAsset}
  {hidden : Nat} {l : AssetLink}

/-- A stored link between assets that are not archived is shown where it is among the links
    that are accounted for. -/
theorem mem_ids_iff_mem (accounts : Accounts s key links entries hidden)
    (distinct : s.linkIds.Nodup) (stored : ∀ l' ∈ links, l' ∈ s.links) (member : l ∈ s.links)
    (active : (s.activeAsset? (l.otherEnd key)).isSome) :
    l.assetLinkId ∈ entries.map (·.assetLinkId) ↔ l ∈ links := by
  rw [accounts.mem_ids_iff]
  constructor
  · rintro ⟨l', among, same, _⟩
    exact List.inj_on_of_nodup_map distinct (stored l' among) member same ▸ among
  · intro among
    exact ⟨l, among, rfl, active⟩

end Links.Accounts

namespace FlatListing.Partitions

variable {s : Store} {l : AssetLink} {listing : FlatListing}

/-- Where a link is found in the listing of the asset that it leaves. -/
theorem mem_of_source (partitions : listing.Partitions s l.source) (inv : s.Consistent)
    (apart : l.source ≠ l.target) (member : l ∈ s.links)
    (active : (s.activeAsset? l.target).isSome) :
    (l.assetLinkId ∈ listing.children.map (·.assetLinkId) ↔ l.relationshipType = .parentChild) ∧
      (l.assetLinkId ∈ listing.related.map (·.assetLinkId) ↔ l.relationshipType = .related) := by
  have other : l.otherEnd l.source = l.target := if_pos rfl
  rw [← other] at active
  have outside : ∀ type, l ∉ s.incoming l.source type := fun type comes =>
    apart (Store.mem_incoming.1 comes).2.1.symm
  constructor
  · rw [partitions.children.mem_ids_iff_mem inv.distinctLinks
      (fun _ among => (Store.mem_outgoing.1 among).1) member active, Store.mem_outgoing]
    simp [member]
  · rw [partitions.related.mem_ids_iff_mem inv.distinctLinks
      (fun _ => Store.mem_links_of_mem_append) member active, List.mem_append, Store.mem_outgoing]
    simp [member, outside]

/-- Where a link is found in the listing of the asset that it comes to. -/
theorem mem_of_target (partitions : listing.Partitions s l.target) (inv : s.Consistent)
    (apart : l.source ≠ l.target) (member : l ∈ s.links)
    (active : (s.activeAsset? l.source).isSome) :
    (l.assetLinkId ∈ listing.parents.map (·.assetLinkId) ↔ l.relationshipType = .parentChild) ∧
      (l.assetLinkId ∈ listing.related.map (·.assetLinkId) ↔ l.relationshipType = .related) := by
  have other : l.otherEnd l.target = l.source := if_neg apart
  rw [← other] at active
  have outside : ∀ type, l ∉ s.outgoing l.target type := fun type leaves =>
    apart (Store.mem_outgoing.1 leaves).2.1
  constructor
  · rw [partitions.parents.mem_ids_iff_mem inv.distinctLinks
      (fun _ among => (Store.mem_incoming.1 among).1) member active, Store.mem_incoming]
    simp [member]
  · rw [partitions.related.mem_ids_iff_mem inv.distinctLinks
      (fun _ => Store.mem_links_of_mem_append) member active, List.mem_append, Store.mem_incoming]
    simp [member, outside]

end FlatListing.Partitions

/-- In every registry that operations lead to, the flat listing of an asset that is stored,
    archived or not, accounts once for each link at it.  Related links are under `related`,
    those that leave the asset before those that come to it; parent-child links are under
    `children` where they leave it and under `parents` where they come to it; each list is in
    the order of creation.  A link is shown by its id, its alias and the key and the current
    name of the asset at its other end, or is counted as hidden if that asset is archived.  So a
    link between two assets that are not archived is among the children of the one exactly if
    it is among the parents of the other, and is related in both listings or in none. -/
theorem flat_listing_partitions_links {linkLimit : Nat} {r : Registry}
    (reachable : r.Reachable linkLimit) :
    (∀ key, (r.store.asset? key).isSome →
      ∃ listing, r.ListsFlat key listing ∧ listing.Partitions r.store key) ∧
    ∀ l ∈ r.store.links, (r.store.activeAsset? l.source).isSome →
      (r.store.activeAsset? l.target).isSome →
      ∀ listing listing', r.ListsFlat l.source listing → r.ListsFlat l.target listing' →
        (l.assetLinkId ∈ listing.children.map (·.assetLinkId) ↔
          l.assetLinkId ∈ listing'.parents.map (·.assetLinkId)) ∧
        (l.assetLinkId ∈ listing.related.map (·.assetLinkId) ↔
          l.assetLinkId ∈ listing'.related.map (·.assetLinkId)) := by
  have inv : r.store.Consistent := Registry.LeadsTo.consistent reachable .initial
  have apart := reachable.hasDistinctLinks.apart
  have ordered := reachable.links_ordered
  have partitions := FlatListing.ofStore_partitions inv apart ordered
  constructor
  · intro key there
    exact ⟨_, Registry.listsFlat_ofStore reachable.ready there ordered, partitions key⟩
  · intro l member source target listing listing' lists lists'
    obtain ⟨sourceThere, targetThere⟩ := inv.linkEnds l member
    -- Both listings are those that are made of the links at the two ends.
    obtain rfl := lists.unique (Registry.listsFlat_ofStore reachable.ready
      (Store.isSome_find?_iff_mem_keys.2 sourceThere) ordered)
    obtain rfl := lists'.unique (Registry.listsFlat_ofStore reachable.ready
      (Store.isSome_find?_iff_mem_keys.2 targetThere) ordered)
    obtain ⟨children, related⟩ := (partitions l.source).mem_of_source inv (apart l member) member
      target
    obtain ⟨parents, related'⟩ := (partitions l.target).mem_of_target inv (apart l member) member
      source
    exact ⟨children.trans parents.symm, related.trans related'.symm⟩

/-- A plant whose motor is related to its hall under an alias, and then archived. -/
def Registry.idlePlant : Registry :=
  (Batch.performAll
    [ .createLink ⟨"plant", "motor", "plant", "hall", .related, some "drive", []⟩,
      .archiveAsset ⟨"plant", "motor"⟩ ] .plant).2

/-- The idle plant is come to by operations. -/
theorem Registry.reachable_idlePlant : idlePlant.Reachable 3 :=
  reachable_plant.trans (LeadsTo.performAll _ _)

/-- The press shows its two links from the hall among its parents and hides the one to the
    motor, and the hall hides the motor among its related assets.  The hall has its first link
    among its children, as the press has it among its parents. -/
theorem flat_listing_partitions_links_idlePlant :
    ∃ press hall : FlatListing,
      Registry.idlePlant.ListsFlat ⟨"plant", "press"⟩ press ∧
      press.Partitions Registry.idlePlant.store ⟨"plant", "press"⟩ ∧
      press.parents.map (·.assetLinkId) = ["link-1", "link-2"] ∧ press.hidden = ⟨0, 0, 1⟩ ∧
      Registry.idlePlant.ListsFlat ⟨"plant", "hall"⟩ hall ∧ hall.hidden = ⟨1, 0, 0⟩ ∧
      ("link-1" ∈ hall.children.map (·.assetLinkId) ↔
        "link-1" ∈ press.parents.map (·.assetLinkId)) := by
  obtain ⟨each, both⟩ := flat_listing_partitions_links Registry.reachable_idlePlant
  have ordered := Registry.reachable_idlePlant.links_ordered
  have pressThere : (Registry.idlePlant.store.asset? ⟨"plant", "press"⟩).isSome := by
    decide +kernel
  have hallThere : (Registry.idlePlant.store.asset? ⟨"plant", "hall"⟩).isSome := by
    decide +kernel
  obtain ⟨press, pressLists, partitions⟩ := each _ pressThere
  obtain ⟨hall, hallLists, _⟩ := each _ hallThere
  obtain ⟨children, _⟩ := both
    ⟨"link-1", "plant", "hall", "plant", "press", .parentChild, none, [], .reading 0 4⟩
    (by decide +kernel) (by decide +kernel) (by decide +kernel) hall press hallLists pressLists
  have ready := Registry.reachable_idlePlant.ready
  obtain rfl := pressLists.unique (Registry.listsFlat_ofStore ready pressThere ordered)
  obtain rfl := hallLists.unique (Registry.listsFlat_ofStore ready hallThere ordered)
  exact ⟨_, _, pressLists, partitions, by decide +kernel, by decide +kernel, hallLists,
    by decide +kernel, children⟩

end AssetRegistry
