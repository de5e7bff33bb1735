import AssetRegistry.LinkListing
import AssetRegistry.Proofs.DescendantTree
import AssetRegistry.Proofs.JsonRecord

/-!
# Listings as texts

A listing is written without a word on which view it is.  A node of a tree is written as
its asset with one more member, and who reads an asset passes over members that it does not
know.  So every text of a tree is also the text of a list of direct children, and since that
reading is tried first, a tree is never read back.  What is read from the text of a listing
is the flat listing of the same asset (`Links.ofText_text_linksAt`).
-/

namespace AssetRegistry

open Json

/-! ### Assets -/

namespace LinkedAsset

/-- An asset is read from its members, and its children are passed over. -/
theorem takes_members (a : LinkedAsset) {room : Nat} {more : List (String × Json)}
    (unknown : ∀ m ∈ more, m.1 = "children") :
    codec.decode.Takes (room + 1) (.object ((codec.encode a).object?.getD [] ++ more)) a := by
  have takesAlias : (Codec.option .string).decode.Takes room
      ((Codec.option .string).encode a.assetLinkAliasId) a.assetLinkAliasId :=
    Codec.takes_option fun s _ => ⟨nofun, Codec.takes_string s⟩
  unfold codec
  refine Codec.takes_record (a := a) ?_ ?_ rfl fun m member => ?_
  · decide
  · exact ⟨Codec.takes_string _, Codec.takes_string _, Codec.takes_string _,
      Codec.takes_string _, takesAlias, trivial⟩
  · rw [unknown m member]
    decide

/-- The members of an asset have no brackets. -/
theorem fits_members (a : LinkedAsset) (room : Nat) :
    ∀ m ∈ (codec.encode a).object?.getD [], Fits room m.2 := by
  intro m member
  obtain ⟨assetLinkId, assetId, assetName, databaseId, assetLinkAliasId⟩ := a
  change m ∈ [_, _, _, _, _] at member
  simp only [List.mem_cons, List.not_mem_nil, or_false] at member
  rcases member with rfl | rfl | rfl | rfl | rfl
  case inr.inr.inr.inr => cases assetLinkAliasId <;> first | exact .null | exact .string
  all_goals exact .string

/-- An asset is written with one pair of brackets. -/
theorem membersDepth_members (a : LinkedAsset) :
    membersDepth ((codec.encode a).object?.getD []) = 0 := by
  obtain ⟨assetLinkId, assetId, assetName, databaseId, assetLinkAliasId⟩ := a
  cases assetLinkAliasId <;> rfl

/-- An asset in a listing has no brackets inside its own. -/
theorem depth_encode (a : LinkedAsset) : (codec.encode a).depth = 1 :=
  congrArg (· + 1) a.membersDepth_members

/-- An asset in a listing is taken as it is. -/
theorem takes_codec (a : LinkedAsset) (room : Nat) :
    codec.decode.Takes (room + 1) (codec.encode a) a := by
  have takes : codec.decode.Takes (room + 1)
      (.object ((codec.encode a).object?.getD [] ++ [])) a :=
    a.takes_members (by simp)
  rwa [List.append_nil] at takes

/-- A list of assets has the brackets of the list and of the assets. -/
theorem depth_encode_list_le (as : List LinkedAsset) :
    ((Codec.list codec).encode as).depth ≤ 2 := by
  refine Nat.succ_le_succ (itemsDepth_le fun j member => ?_)
  obtain ⟨a, _, rfl⟩ := List.mem_map.1 member
  exact Nat.le_of_eq a.depth_encode

/-- A tree fits wherever its brackets do. -/
theorem fits_encode (a : LinkedAsset) {room : Nat} (shallow : (codec.encode a).depth ≤ room) :
    Fits room (codec.encode a) :=
  .object_of_depth_le shallow fun m member room _ => a.fits_members room m member

end LinkedAsset

/-! ### Trees -/

namespace TreeNode

/-- A node is read as its asset. -/
theorem takes_asset (n : TreeNode) (room : Nat) :
    LinkedAsset.codec.decode.Takes (room + 1) n.encode n.asset := by
  cases n with
  | node a children =>
    rw [encode, asset]
    exact a.takes_members (by simp)

/-- Nodes are taken as assets, without what is below them. -/
theorem forall₂_takes_asset (ns : List TreeNode) (room : Nat) :
    List.Forall₂ (LinkedAsset.codec.decode.Takes (room + 1)) (encodeAll ns) (ns.map asset) := by
  induction ns with
  | nil => exact .nil
  | cons n ns ih => exact .cons (n.takes_asset room) ih

/-- A node is two levels deeper than its children. -/
theorem depth_encode (n : TreeNode) :
    n.encode.depth = itemsDepth (encodeAll n.children) + 2 := by
  cases n with
  | node a children =>
    rw [encode, depth, membersDepth_append, a.membersDepth_members, Nat.zero_max, membersDepth,
      membersDepth, depth]
    rfl

mutual

/-- All that a node needs is room for its brackets. -/
theorem fits_encode : ∀ (n : TreeNode) (room : Nat), n.encode.depth ≤ room → Fits room n.encode
  | .node a children, room, shallow => by
    rw [encode] at shallow ⊢
    refine .object_of_depth_le shallow ?_
    intro m member room shallow
    rcases List.mem_append.1 member with own | below
    · exact a.fits_members room m own
    · rw [List.mem_singleton.1 below] at shallow ⊢
      exact .array_of_depth_le shallow (fits_encodeAll children)

/-- Each node of a tree fits wherever its brackets do. -/
theorem fits_encodeAll : ∀ (ns : List TreeNode), ∀ j ∈ encodeAll ns, ∀ room, j.depth ≤ room →
    Fits room j
  | [] => by simp [encodeAll]
  | n :: ns => by
    intro j member
    rw [encodeAll] at member
    rcases List.mem_cons.1 member with rfl | member
    · exact fits_encode n
    · exact fits_encodeAll ns j member

end

end TreeNode

/-! ### Children -/

namespace ChildLinks

/-- The direct children, also of a tree. -/
def direct : ChildLinks → List LinkedAsset
  | flat children => children
  | tree children => children.map TreeNode.asset

/-- Children of either form are written as assets that have more members at most. -/
theorem exists_encode_eq_array (c : ChildLinks) {room : Nat}
    (shallow : (codec.encode c).depth ≤ room) :
    ∃ js, codec.encode c = .array js ∧ Fits room (.array js) ∧
      ∀ room', List.Forall₂ (LinkedAsset.codec.decode.Takes (room' + 1)) js c.direct := by
  cases c with
  -- Assets of the flat form stand alone, and nodes of a tree have their children beside.
  | flat children =>
    refine ⟨_, rfl, .array_of_depth_le shallow fun j member room shallow => ?_, ?_⟩
    · obtain ⟨a, _, rfl⟩ := List.mem_map.1 member
      exact a.fits_encode shallow
    · intro room'
      rw [List.forall₂_map_left_iff]
      exact List.forall₂_same.2 fun a _ => a.takes_codec room'
  | tree children =>
    exact ⟨_, rfl, .array_of_depth_le shallow (TreeNode.fits_encodeAll children),
      TreeNode.forall₂_takes_asset children⟩

/-- Children of either form are read as direct ones. -/
theorem takes_codec (c : ChildLinks) {room : Nat} (shallow : (codec.encode c).depth ≤ room) :
    codec.decode.Takes room (codec.encode c) (flat c.direct) := by
  obtain ⟨js, written, fits, taken⟩ := c.exists_encode_eq_array shallow
  -- The value is read as it is at first, and then once more as a list of assets.
  have again : ofJson? (.array js) = some (flat c.direct) := by
    rw [ofJson?, Codec.ofJson_eq_ok (takes_list (taken (maxDepth - 2)))]
  intro rest
  rw [written]
  simp only [codec, bind, Except.bind, takes_value fits rest, again]
  rfl

end ChildLinks

/-! ### Whole listings -/

namespace HiddenCounts

/-- Each count is a number of 64 bits. -/
structure Small (h : HiddenCounts) : Prop where
  related : h.related < 0x10000000000000000
  parents : h.parents < 0x10000000000000000
  children : h.children < 0x10000000000000000

/-- Counts are taken as they are. -/
theorem takes_codec {h : HiddenCounts} (small : h.Small) (room : Nat) :
    codec.decode.Takes (room + 1) (codec.encode h) h := by
  unfold codec
  refine Codec.takes_record_encode (by decide) ?_ rfl
  exact ⟨Codec.takes_count small.related, Codec.takes_count small.parents,
    Codec.takes_count small.children, trivial⟩

end HiddenCounts

namespace AssetLinks

/-- The listing with its children as direct ones. -/
def flattened (l : AssetLinks) : AssetLinks :=
  { l with children := .flat l.children.direct }

/-- What is not a tree has three levels at most. -/
theorem depth_encode_le (l : AssetLinks) :
    (codec.encode l).depth ≤ max (ChildLinks.codec.encode l.children).depth 2 + 1 := by
  have related := LinkedAsset.depth_encode_list_le l.related
  have parents := LinkedAsset.depth_encode_list_le l.parents
  show max ((Codec.list LinkedAsset.codec).encode l.related).depth
    (max ((Codec.list LinkedAsset.codec).encode l.parents).depth
      (max (ChildLinks.codec.encode l.children).depth (max 1 0))) + 1 ≤ _
  omega

/-- A listing is read as the flat one. -/
theorem takes_codec (l : AssetLinks) (room : Nat) (shallow : (codec.encode l).depth ≤ room + 3)
    (small : l.hidden.Small) : codec.decode.Takes (room + 3) (codec.encode l) l.flattened := by
  have direct : (ChildLinks.codec.encode l.children).depth ≤ room + 2 := by
    refine Nat.le_trans (depth_le_membersDepth (m := ("children", _)) ?_)
      (Nat.le_of_succ_le_succ shallow)
    exact List.mem_cons_of_mem _ (List.mem_cons_of_mem _ List.mem_cons_self)
  have takesAll (as : List LinkedAsset) :
      (Codec.list LinkedAsset.codec).decode.Takes (room + 2)
        ((Codec.list LinkedAsset.codec).encode as) as :=
    Codec.takes_list (List.forall₂_same.2 fun a _ => a.takes_codec room)
  unfold codec
  refine Codec.takes_record_encode (by decide) ?_ rfl
  exact ⟨takesAll _, takesAll _, l.children.takes_codec direct,
    HiddenCounts.takes_codec small (room + 1), trivial⟩

end AssetLinks

/-! ### Listings of an asset -/

namespace Links

/-- The tree of an asset and its flat listing show the same children. -/
theorem flattened_linksAt (s : Store) (key : AssetKey) (childTreeView : Bool) :
    (linksAt s key childTreeView).flattened = linksAt s key false := by
  cases childTreeView with
  | false => rfl
  | true =>
    show { linksAt s key false with
      children := .flat ((descendants s key).map TreeNode.asset) : AssetLinks } = _
    rw [map_asset_descendants]
    rfl

/-- Every level of a tree uses up a link. -/
theorem itemsDepth_expand_le (s : Store) (children : List LinkedAsset) (links : List AssetLink) :
    itemsDepth (TreeNode.encodeAll (expand s children links).1) ≤
      2 * (links.length + min children.length 1) := by
  cases children with
  | nil =>
    rw [expand]
    exact Nat.zero_le _
  | cons child siblings =>
    -- Below the first child there are fewer links, for its own ones are used up; beside it there
    -- are no more than are left then.
    have shrinks := length_withoutLinksFrom_add_length_childrenAmong_le s links child.key
    have below := itemsDepth_expand_le s (childrenAmong s links child.key)
      (withoutLinksFrom links child.key)
    have left := (expand s (childrenAmong s links child.key)
      (withoutLinksFrom links child.key)).2.2
    have beside := itemsDepth_expand_le s siblings
      (expand s (childrenAmong s links child.key) (withoutLinksFrom links child.key)).2.1
    rw [expand]
    show max (TreeNode.encode (.node child _)).depth (itemsDepth _) ≤ _
    rw [TreeNode.depth_encode, TreeNode.children]
    simp only [List.length_cons] at beside ⊢
    omega
termination_by links.length + children.length
decreasing_by
  all_goals
    simp only [List.length_cons]
    omega

/-- Brackets are nested too deep only in stores that have many links. -/
theorem depth_linksAt_le (s : Store) (key : AssetKey) (childTreeView : Bool) :
    (AssetLinks.codec.encode (linksAt s key childTreeView)).depth ≤ 2 * s.links.length + 3 := by
  have fields := (linksAt s key childTreeView).depth_encode_le
  cases childTreeView with
  -- A flat listing has three levels, and each level of a tree adds two for one link.
  | false =>
    have direct := LinkedAsset.depth_encode_list_le (childrenAmong s s.links key)
    change _ ≤ max ((Codec.list LinkedAsset.codec).encode _).depth 2 + 1 at fields
    omega
  | true =>
    have levels := itemsDepth_expand_le s (childrenAmong s s.links key)
      (withoutLinksFrom s.links key)
    have shrinks := length_withoutLinksFrom_add_length_childrenAmong_le s s.links key
    change _ ≤ max (itemsDepth (TreeNode.encodeAll (descendants s key)) + 1) 2 + 1 at fields
    rw [descendants] at fields
    omega

/-- No more links are hidden than an asset may have. -/
theorem hiddenAt_small {linkLimit : Nat} {r : Registry} (reachable : r.Reachable linkLimit)
    (small : linkLimit < 0x10000000000000000) (key : AssetKey) : (hiddenAt r.store key).Small := by
  have counted := reachable.length_linksAt_eq_linkCount key
  have kept := reachable.linkLimit_eq_and_keepsLimit.2 key
  constructor <;> omega

/-- What is read from the text of a listing, if brackets are not nested too deep in it. -/
theorem ofText_text_linksAt {linkLimit : Nat} {r : Registry} (reachable : r.Reachable linkLimit)
    (small : linkLimit < 0x10000000000000000) (key : AssetKey) (childTreeView : Bool)
    (shallow : (AssetLinks.codec.encode (linksAt r.store key childTreeView)).depth ≤ maxDepth) :
    AssetLinks.codec.ofText (AssetLinks.codec.text (linksAt r.store key childTreeView)) =
      .ok (linksAt r.store key false) := by
  have takes := (linksAt r.store key childTreeView).takes_codec (maxDepth - 3) shallow
    (hiddenAt_small reachable small key)
  rw [flattened_linksAt] at takes
  exact Codec.ofText_text takes

/-- The two views differ, also where there are no children. -/
theorem linksAt_false_eq_iff (s : Store) (key : AssetKey) (childTreeView : Bool) :
    linksAt s key false = linksAt s key childTreeView ↔ childTreeView = false := by
  cases childTreeView with
  | false => simp
  | true => simp [linksAt]

end Links

namespace Registry

/-- The hall of a plant. -/
def hall : AssetKey :=
  ⟨"plant", "hall"⟩

/-- The hall of the plant is stored. -/
theorem exists_asset?_hall : ∃ a, plant.store.asset? hall = some a :=
  Option.isSome_iff_exists.1 (by decide +kernel)

/-- Brackets are not nested too deep in the tree of the hall. -/
theorem depth_hall_le :
    (AssetLinks.codec.encode (Links.linksAt plant.store hall true)).depth ≤ maxDepth := by
  have few : plant.store.links.length = 3 := by decide +kernel
  have levels := Links.depth_linksAt_le plant.store hall true
  rw [few] at levels
  exact Nat.le_trans levels (by decide)

end Registry

/-- In every registry that operations lead to, where the limit of links is a number of 64
    bits, the text of a listing of an asset that is stored is read as the flat listing of that
    asset, unless its brackets are nested too deep to be read.  So the flat listing is all
    that is read back as it was, and no tree is. -/
theorem flat_listing_read_back {linkLimit : Nat} {r : Registry} (reachable : r.Reachable linkLimit)
    (small : linkLimit < 0x10000000000000000) {key : AssetKey} {a : Asset}
    (there : r.store.asset? key = some a) (childTreeView : Bool) :
    ∃ listing flat, (Links.listLinks key childTreeView).perform r = (.ok listing, r) ∧
      (Links.listLinks key false).perform r = (.ok flat, r) ∧
      ((AssetLinks.codec.encode listing).depth ≤ maxDepth →
        AssetLinks.codec.ofText (AssetLinks.codec.text listing) = .ok flat) ∧
      (flat = listing ↔ childTreeView = false) :=
  ⟨_, _, Links.perform_listLinks reachable.ready there childTreeView,
    Links.perform_listLinks reachable.ready there false,
    Links.ofText_text_linksAt reachable small key childTreeView,
    Links.linksAt_false_eq_iff r.store key childTreeView⟩

open Registry in
/-- The tree of the hall is read back as another listing. -/
theorem flat_listing_read_back_plant :
    ∃ listing flat, (Links.listLinks hall true).perform plant = (.ok listing, plant) ∧
      AssetLinks.codec.ofText (AssetLinks.codec.text listing) = .ok flat ∧ flat ≠ listing := by
  obtain ⟨a, there⟩ := exists_asset?_hall
  obtain ⟨listing, flat, listed, _, readBack, same⟩ :=
    flat_listing_read_back reachable_plant (by decide) there true
  have known : listing = Links.linksAt plant.store hall true := by
    rw [Links.perform_listLinks reachable_plant.ready there true] at listed
    exact (Except.ok.inj (Prod.mk.inj listed).1).symm
  refine ⟨listing, flat, listed, readBack ?_, fun equal => Bool.noConfusion (same.1 equal)⟩
  rw [known]
  exact depth_hall_le

open Registry in
/-- Listings are not promised to be read back as they were. -/
theorem listing_not_always_read_back :
    ¬ ∀ linkLimit r key childTreeView listing, Reachable linkLimit r →
      (Links.listLinks key childTreeView).perform r = (.ok listing, r) →
      (AssetLinks.codec.encode listing).depth ≤ maxDepth →
      AssetLinks.codec.ofText (AssetLinks.codec.text listing) = .ok listing := by
  intro promised
  obtain ⟨a, there⟩ := exists_asset?_hall
  have readBack := promised 3 plant hall true _ reachable_plant
    (Links.perform_listLinks reachable_plant.ready there true) depth_hall_le
  rw [Links.ofText_text_linksAt reachable_plant (by decide) hall true depth_hall_le] at readBack
  exact Bool.noConfusion ((Links.linksAt_false_eq_iff _ _ true).1 (Except.ok.inj readBack))

end AssetRegistry
