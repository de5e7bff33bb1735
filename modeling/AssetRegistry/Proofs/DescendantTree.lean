import AssetRegistry.Proofs.CreationOrder
import AssetRegistry.Proofs.LinkLimit
import AssetRegistry.Proofs.LinkReach

/-!
# The tree of descendants is exact

`expand` goes through the links once, and uses up those of every asset at its first place.
`Expands` is its big-step form, by which the facts about it are shown.  What is in a tree is
then told without the order of a traversal: the assets are those that visible children lead
to (`Store.HasDescendant`), every link from one of them to a visible asset is there, and the
children of an asset are at its first place (`Links.IsTreeBelow`).
-/

namespace AssetRegistry

open Relation

/-! ### The nodes of a tree -/

namespace TreeNode

/-- The key of the asset of a node. -/
def key (n : TreeNode) : AssetKey :=
  n.asset.key

mutual

/-- A node with the nodes below it, each one before those below it. -/
def preorder : TreeNode → List TreeNode
  | node asset children => node asset children :: preorderAll children

/-- The nodes of a tree, those below one before its next sibling. -/
def preorderAll : List TreeNode → List TreeNode
  | [] => []
  | first :: rest => first.preorder ++ preorderAll rest

end

/-- The nodes of a tree are the first one, those below it and those beside it. -/
theorem preorderAll_cons (asset : LinkedAsset) (below beside : List TreeNode) :
    preorderAll (node asset below :: beside) =
      node asset below :: (preorderAll below ++ preorderAll beside) := by
  rw [preorderAll, preorder, List.cons_append]

/-- The keys in a tree, in the order of the nodes. -/
def keys (nodes : List TreeNode) : List AssetKey :=
  (preorderAll nodes).map key

/-- The keys of a tree are the first one, those below it and those beside it. -/
theorem keys_cons (asset : LinkedAsset) (below beside : List TreeNode) :
    keys (node asset below :: beside) = asset.key :: (keys below ++ keys beside) := by
  rw [keys, preorderAll_cons, List.map_cons, List.map_append]
  rfl

end TreeNode

/-! ### Visible children -/

namespace Store

/-- The second asset is a visible child of the first one. -/
def HasVisibleChild (s : Store) (parent child : AssetKey) : Prop :=
  s.IsParentOf parent child ∧ (s.activeAsset? child).isSome

instance (s : Store) (parent child : AssetKey) : Decidable (s.HasVisibleChild parent child) :=
  inferInstanceAs (Decidable (s.IsParentOf parent child ∧ _))

/-- Visible children lead from the first asset to the second one. -/
def HasDescendant (s : Store) : AssetKey → AssetKey → Prop :=
  TransGen s.HasVisibleChild

/-- A link to a visible child. -/
def showsChild (s : Store) (link : AssetLink) : Bool :=
  link.relationshipType = .parentChild && (s.activeAsset? link.target).isSome

/-- How a link to a visible child is shown. -/
def ShownAs (s : Store) (link : AssetLink) (shown : LinkedAsset) : Prop :=
  ∃ other, s.activeAsset? link.target = some other ∧ shown = Links.linked link other

variable {s : Store} {l : AssetLink} {a : LinkedAsset}

/-- The asset that a link is shown as is the one that the link goes to. -/
theorem ShownAs.key_eq (made : s.ShownAs l a) : a.key = l.target := by
  obtain ⟨other, active, rfl⟩ := made
  exact key_of_activeAsset? active

/-- What is shown is the asset of a link, and it is active. -/
theorem ShownAs.isSome (made : s.ShownAs l a) : (s.activeAsset? l.target).isSome := by
  obtain ⟨other, active, rfl⟩ := made
  rw [active]
  rfl

end Store

/-! ### Lists -/

/-- An element of two lists in a row is in the first one or in the second one. -/
theorem cons_in_append {first second before after : List ρ} {row : ρ}
    (split : first ++ second = before ++ row :: after) :
    (∃ after', first = before ++ row :: after') ∨
      ∃ before', before = first ++ before' ∧ second = before' ++ row :: after := by
  rcases List.append_eq_append_iff.1 split with ⟨before', rfl, rest⟩ | ⟨after', rfl, rest⟩
  · exact .inr ⟨before', rfl, rest⟩
  · cases after' with
    | nil => exact .inr ⟨[], by simp, by simpa using rest.symm⟩
    | cons row' after' =>
      obtain ⟨rfl, -⟩ := List.cons.inj rest
      exact .inl ⟨after', rfl⟩

/-- Rows chosen in one of two ways: those chosen in the first way, and of the other ones
    those chosen in the second way. -/
theorem filter_or_perm (chosen chosen' : ρ → Bool) (rows : List ρ) :
    (rows.filter fun row => chosen row || chosen' row).Perm
      (rows.filter chosen ++ (rows.filter (!chosen ·)).filter chosen') := by
  have split := (List.filter_append_perm chosen
    (rows.filter fun row => chosen row || chosen' row)).symm
  rw [List.filter_filter, List.filter_filter] at split
  rw [List.filter_filter]
  convert split using 3
  · funext row
    cases chosen row <;> simp
  · funext row
    cases chosen row <;> simp

namespace Links

variable {s : Store} {links left : List AssetLink} {children : List LinkedAsset}
  {nodes : List TreeNode} {key : AssetKey}

/-- The visible children by some links, in the order of the links. -/
def shown (s : Store) (links : List AssetLink) : List LinkedAsset :=
  visible s AssetLink.target (ofType .parentChild links)

/-- What is shown of links in a row is shown in a row. -/
theorem shown_append (links links' : List AssetLink) :
    shown s (links ++ links') = shown s links ++ shown s links' := by
  simp [shown, visible, ofType]

/-- What is shown does not depend on the order of the links, but for its own order. -/
theorem shown_perm {links' : List AssetLink} (same : links.Perm links') :
    (shown s links).Perm (shown s links') :=
  (same.filter _).filterMap _

/-- The children of an asset are shown for the links that start at it. -/
theorem childrenAmong_perm :
    (childrenAmong s links key).Perm (shown s (links.filter (·.source = key))) :=
  shown_perm (List.mergeSort_perm _ _)

/-- Links that come from an asset are told by what they are among. -/
theorem childrenAmong_filter {keep : AssetLink → Bool}
    (kept : ∀ l : AssetLink, l.source = key → keep l) :
    childrenAmong s (links.filter keep) key = childrenAmong s links key := by
  rw [childrenAmong, childrenAmong, Store.filter_filter_of_kept]
  intro l leaves
  exact kept l (of_decide_eq_true leaves)

/-- An asset has no children by links that come from other ones. -/
theorem childrenAmong_eq_nil (none : ∀ l ∈ links, l.source ≠ key) :
    childrenAmong s links key = [] := by
  have nothing : shown s (links.filter (·.source = key)) = [] := by
    rw [List.filter_eq_nil_iff.2 (by simpa using none)]
    rfl
  exact (nothing ▸ childrenAmong_perm).eq_nil

/-- Shown are the children at the ends of links, if they are active. -/
theorem mem_shown {a : LinkedAsset} :
    a ∈ shown s links ↔ ∃ l ∈ links, l.relationshipType = .parentChild ∧ s.ShownAs l a := by
  simp only [shown, visible, ofType, List.mem_filterMap, List.mem_filter, decide_eq_true_eq,
    Option.map_eq_some_iff, Store.ShownAs]
  constructor
  · rintro ⟨l, ⟨member, type⟩, other, active, made⟩
    exact ⟨l, member, type, other, active, made.symm⟩
  · rintro ⟨l, member, type, other, active, made⟩
    exact ⟨l, ⟨member, type⟩, other, active, made.symm⟩

/-- Children of an asset are shown if a link leads to them. -/
theorem mem_childrenAmong {a : LinkedAsset} :
    a ∈ childrenAmong s links key ↔
      ∃ l ∈ links, l.source = key ∧ l.relationshipType = .parentChild ∧ s.ShownAs l a := by
  rw [childrenAmong_perm.mem_iff, mem_shown]
  simp [and_assoc]

/-- Links are shown one by one, those to visible children. -/
theorem forall₂_shown (links : List AssetLink) :
    List.Forall₂ s.ShownAs (links.filter s.showsChild) (shown s links) := by
  induction links with
  | nil => exact .nil
  | cons l links ih =>
    simp only [shown, visible, ofType] at ih ⊢
    by_cases type : l.relationshipType = .parentChild
    · cases active : s.activeAsset? l.target with
      | none => simpa [Store.showsChild, type, active] using ih
      | some other =>
        have first : s.ShownAs l (linked l other) := ⟨other, active, rfl⟩
        simpa [Store.showsChild, type, active] using ⟨first, ih⟩
    · simpa [Store.showsChild, type] using ih

/-- What is shown for links has their ids, in their order. -/
theorem map_assetLinkId_of_shownAs {shown : List LinkedAsset}
    (made : List.Forall₂ s.ShownAs links shown) :
    shown.map (·.assetLinkId) = links.map (·.assetLinkId) := by
  induction made with
  | nil => rfl
  | cons first _ ih =>
    obtain ⟨other, _, rfl⟩ := first
    rw [List.map_cons, List.map_cons, ih]
    rfl

/-- The links that come from none of some assets. -/
def avoiding (links : List AssetLink) (keys : List AssetKey) : List AssetLink :=
  links.filter (·.source ∉ keys)

/-- All links avoid no assets. -/
theorem avoiding_nil : avoiding links [] = links := by
  simp [avoiding]

/-- Links without those from an asset avoid it too. -/
theorem avoiding_withoutLinksFrom (key : AssetKey) (keys : List AssetKey) :
    avoiding (withoutLinksFrom links key) keys = avoiding links (key :: keys) := by
  simp [avoiding, withoutLinksFrom, Bool.and_comm]

/-- Links that avoid some assets and then others avoid all of them. -/
theorem avoiding_avoiding (keys keys' : List AssetKey) :
    avoiding (avoiding links keys) keys' = avoiding links (keys ++ keys') := by
  simp [avoiding, Bool.and_comm]

/-- The links that come from some assets. -/
def leaving (links : List AssetLink) (keys : List AssetKey) : List AssetLink :=
  links.filter (·.source ∈ keys)

/-- The links that leave some assets and then others are those that leave all of them. -/
theorem leaving_append_perm (links : List AssetLink) (keys keys' : List AssetKey) :
    (leaving links (keys ++ keys')).Perm
      (leaving links keys ++ leaving (avoiding links keys) keys') := by
  have split := filter_or_perm (fun l : AssetLink => l.source ∈ keys)
    (fun l => l.source ∈ keys') links
  simpa [leaving, avoiding] using split

/-- The links of a child, of the assets below it and of those beside it. -/
theorem leaving_cons_append_perm (links : List AssetLink) (key : AssetKey)
    (keys keys' : List AssetKey) :
    (leaving links (key :: (keys ++ keys'))).Perm
      (links.filter (·.source = key) ++ (leaving (withoutLinksFrom links key) keys ++
        leaving (avoiding (withoutLinksFrom links key) keys) keys')) := by
  have own := leaving_append_perm links [key] (keys ++ keys')
  have others := leaving_append_perm (withoutLinksFrom links key) keys keys'
  have ownLinks : leaving links [key] = links.filter (·.source = key) := by simp [leaving]
  have otherLinks : avoiding links [key] = withoutLinksFrom links key := by
    simp [avoiding, withoutLinksFrom]
  rw [ownLinks, otherLinks] at own
  exact own.trans (others.append_left _)

/-! ### The traversal -/

/-- The traversal in big steps: what the nodes of children are, and which links are left
    after them. -/
inductive Expands (s : Store) :
    List LinkedAsset → List AssetLink → List TreeNode → List AssetLink → Prop where
  | done (links : List AssetLink) : Expands s [] links [] links
  | child {child : LinkedAsset} {siblings : List LinkedAsset} {below beside : List TreeNode}
      {links afterChild left : List AssetLink}
      (expandsChild : Expands s (childrenAmong s links child.key)
        (withoutLinksFrom links child.key) below afterChild)
      (expandsSiblings : Expands s siblings afterChild beside left) :
      Expands s (child :: siblings) links (.node child below :: beside) left

/-- The recursion of the tree makes what the relation describes. -/
theorem expands (s : Store) (children : List LinkedAsset) (links : List AssetLink) :
    Expands s children links (expand s children links).1 (expand s children links).2.1 := by
  cases children with
  | nil =>
    rw [expand]
    exact .done links
  | cons child siblings =>
    have shrinks := length_withoutLinksFrom_add_length_childrenAmong_le s links child.key
    have fewer := (expand s (childrenAmong s links child.key)
      (withoutLinksFrom links child.key)).2.2
    rw [expand]
    exact .child (expands s _ _) (expands s _ _)
termination_by links.length + children.length
decreasing_by
  all_goals
    simp only [List.length_cons]
    omega

namespace Expands

/-- The roots of a tree are the children that it was made from. -/
theorem map_asset (expanded : Expands s children links nodes left) :
    nodes.map TreeNode.asset = children := by
  induction expanded with
  | done => rfl
  | child _ _ _ ihSiblings => rw [List.map_cons, ihSiblings, TreeNode.asset]

/-- The links that are left come from assets that are not in the tree. -/
theorem left_eq (expanded : Expands s children links nodes left) :
    left = avoiding links (TreeNode.keys nodes) := by
  induction expanded with
  | done links => exact avoiding_nil.symm
  | child _ _ ihChild ihSiblings =>
    rw [ihSiblings, ihChild, avoiding_avoiding, avoiding_withoutLinksFrom, TreeNode.keys_cons]

/-- At the first place of an asset in a tree are its children by the links that the tree
    was made from.  At the other places those links are used up. -/
theorem map_asset_children (expanded : Expands s children links nodes left)
    {before after : List TreeNode} {node : TreeNode}
    (split : TreeNode.preorderAll nodes = before ++ node :: after) :
    node.children.map TreeNode.asset =
      childrenAmong s (avoiding links (before.map TreeNode.key)) node.key := by
  induction expanded generalizing before after with
  | done links => simp [TreeNode.preorderAll] at split
  | child expandsChild _ ihChild ihSiblings =>
    rw [TreeNode.preorderAll_cons, List.cons_eq_append_iff] at split
    rcases split with ⟨rfl, first⟩ | ⟨before, rfl, later⟩
    · -- The first node is the child, and no links are used up before it.
      obtain ⟨rfl, -⟩ := List.cons.inj first
      rw [List.map_nil, avoiding_nil]
      exact expandsChild.map_asset
    · -- The links of the child are used up before all the other nodes, and those of the
      -- assets below it before the nodes beside it.
      rw [List.map_cons]
      rcases cons_in_append later with ⟨after', inBelow⟩ | ⟨before', rfl, inBeside⟩
      · rw [ihChild inBelow, avoiding_withoutLinksFrom]
        rfl
      · rw [ihSiblings inBeside, expandsChild.left_eq, avoiding_avoiding,
          avoiding_withoutLinksFrom, List.map_append]
        rfl

/-- What is in a tree: the children that it was made from, and what the links of the assets
    in it show. -/
theorem perm (expanded : Expands s children links nodes left) :
    ((TreeNode.preorderAll nodes).map TreeNode.asset).Perm
      (children ++ shown s (leaving links (TreeNode.keys nodes))) := by
  induction expanded with
  | done links => simp [TreeNode.preorderAll, TreeNode.keys, leaving, shown, visible, ofType]
  | @child child siblings below beside links afterChild left expandsChild _ ihChild ihSiblings =>
    let fromBelow := leaving (withoutLinksFrom links child.key) (TreeNode.keys below)
    let fromBeside := leaving afterChild (TreeNode.keys beside)
    -- All the links that are used up are those of the child, and then those of its subtree
    -- and those of the subtrees beside it.
    have parts : (shown s (leaving links (TreeNode.keys (.node child below :: beside)))).Perm
        (childrenAmong s links child.key ++ (shown s fromBelow ++ shown s fromBeside)) := by
      have split := shown_perm (s := s) (leaving_cons_append_perm links child.key
        (TreeNode.keys below) (TreeNode.keys beside))
      rw [← TreeNode.keys_cons, shown_append, shown_append] at split
      rw [show fromBeside = leaving (avoiding (withoutLinksFrom links child.key)
        (TreeNode.keys below)) (TreeNode.keys beside) by rw [← expandsChild.left_eq]]
      exact split.trans (childrenAmong_perm.symm.append_right _)
    calc (TreeNode.preorderAll (.node child below :: beside)).map TreeNode.asset
      _ = child :: ((TreeNode.preorderAll below).map TreeNode.asset ++
            (TreeNode.preorderAll beside).map TreeNode.asset) := by
          rw [TreeNode.preorderAll_cons, List.map_cons, List.map_append, TreeNode.asset]
      List.Perm _ (child :: ((childrenAmong s links child.key ++ shown s fromBelow) ++
            (siblings ++ shown s fromBeside))) := (ihChild.append ihSiblings).cons child
      List.Perm _ (child :: (siblings ++ (childrenAmong s links child.key ++
            (shown s fromBelow ++ shown s fromBeside)))) := by
          rw [← List.append_assoc (childrenAmong s links child.key)]
          exact (List.perm_append_comm_assoc _ _ _).cons child
      List.Perm _ _ := (parts.symm.append_left siblings).cons child

/-- Visible children lead to everything in a tree, if they lead to its roots. -/
theorem hasDescendant (expanded : Expands s children links nodes left) {root : AssetKey}
    (stored : ∀ l ∈ links, l ∈ s.links) (roots : ∀ a ∈ children, s.HasDescendant root a.key) :
    ∀ key ∈ TreeNode.keys nodes, s.HasDescendant root key := by
  induction expanded with
  | done => simp [TreeNode.keys, TreeNode.preorderAll]
  | @child child siblings below beside links afterChild left expandsChild _ ihChild ihSiblings =>
    have first : s.HasDescendant root child.key := roots child List.mem_cons_self
    -- The links that are gone through are stored ones all along.
    have storedOthers : ∀ l ∈ withoutLinksFrom links child.key, l ∈ s.links := by
      intro l member
      exact stored l (List.mem_of_mem_filter member)
    have inBelow : ∀ key ∈ TreeNode.keys below, s.HasDescendant root key := by
      apply ihChild storedOthers
      intro a member
      obtain ⟨l, inLinks, leaves, type, made⟩ := mem_childrenAmong.1 member
      rw [made.key_eq]
      exact first.tail ⟨⟨l, stored l inLinks, type, leaves, rfl⟩, made.isSome⟩
    have inBeside : ∀ key ∈ TreeNode.keys beside, s.HasDescendant root key := by
      apply ihSiblings
      · intro l member
        rw [expandsChild.left_eq] at member
        exact storedOthers l (List.mem_of_mem_filter member)
      · intro a member
        exact roots a (List.mem_cons_of_mem _ member)
    intro key member
    rw [TreeNode.keys_cons, List.mem_cons, List.mem_append] at member
    rcases member with rfl | member | member
    · exact first
    · exact inBelow key member
    · exact inBeside key member

end Expands

/-! ### The tree of an asset -/

section Descendants

variable (s) (root : AssetKey)

/-- The tree below an asset is made of its children and the links from elsewhere. -/
theorem expands_descendants : ∃ left, Expands s (childrenAmong s s.links root)
    (withoutLinksFrom s.links root) (descendants s root) left :=
  ⟨_, expands s _ _⟩

/-- The flat view shows the roots of the tree. -/
theorem map_asset_descendants :
    (descendants s root).map TreeNode.asset = childrenAmong s s.links root := by
  obtain ⟨_, expanded⟩ := expands_descendants s root
  exact expanded.map_asset

/-- The tree shows all links to visible children that come from the asset or from one that
    is in the tree. -/
theorem map_asset_preorderAll_perm :
    ((TreeNode.preorderAll (descendants s root)).map TreeNode.asset).Perm
      (shown s (leaving s.links (root :: TreeNode.keys (descendants s root)))) := by
  obtain ⟨_, expanded⟩ := expands_descendants s root
  have parts := shown_perm (s := s)
    (leaving_cons_append_perm s.links root (TreeNode.keys (descendants s root)) [])
  have nothing (links : List AssetLink) : leaving links [] = [] := by simp [leaving]
  rw [List.append_nil, nothing, List.append_nil, shown_append] at parts
  exact expanded.perm.trans ((childrenAmong_perm.append_right _).trans parts.symm)

/-- The ids in the tree are those of the same links. -/
theorem ids_preorderAll_perm :
    ((TreeNode.preorderAll (descendants s root)).map (·.asset.assetLinkId)).Perm
      (((leaving s.links (root :: TreeNode.keys (descendants s root))).filter s.showsChild).map
        (·.assetLinkId)) := by
  have same := (map_asset_preorderAll_perm s root).map LinkedAsset.assetLinkId
  rw [List.map_map, map_assetLinkId_of_shownAs (forall₂_shown _)] at same
  exact same

variable {s root}

/-- The assets in the tree are those that visible children lead to. -/
theorem mem_keys_descendants :
    key ∈ TreeNode.keys (descendants s root) ↔ s.HasDescendant root key := by
  constructor
  · obtain ⟨_, expanded⟩ := expands_descendants s root
    apply expanded.hasDescendant (fun l member => List.mem_of_mem_filter member)
    intro a member
    obtain ⟨l, stored, leaves, type, made⟩ := mem_childrenAmong.1 member
    rw [made.key_eq]
    exact .single ⟨⟨l, stored, type, leaves, rfl⟩, made.isSome⟩
  · -- The tree has the visible children of the asset, and with an asset its visible children.
    have closed {parent child : AssetKey}
        (known : parent ∈ root :: TreeNode.keys (descendants s root))
        (shows : s.HasVisibleChild parent child) : child ∈ TreeNode.keys (descendants s root) := by
      obtain ⟨⟨l, stored, type, rfl, rfl⟩, visible⟩ := shows
      obtain ⟨other, active⟩ := Option.isSome_iff_exists.1 visible
      have made : s.ShownAs l (linked l other) := ⟨other, active, rfl⟩
      have member : linked l other ∈
          (TreeNode.preorderAll (descendants s root)).map TreeNode.asset := by
        rw [(map_asset_preorderAll_perm s root).mem_iff, mem_shown]
        exact ⟨l, List.mem_filter.2 ⟨stored, decide_eq_true known⟩, type, made⟩
      obtain ⟨node, inTree, asset⟩ := List.mem_map.1 member
      rw [← made.key_eq, ← asset]
      exact List.mem_map_of_mem inTree
    -- So a path does not leave the tree.
    intro path
    induction path with
    | single shows => exact closed List.mem_cons_self shows
    | tail _ shows ih => exact closed (List.mem_cons_of_mem _ ih) shows

/-- At the first place of an asset other than the root are all its visible children. -/
theorem map_asset_children_of_first {before after : List TreeNode} {node : TreeNode}
    (split : TreeNode.preorderAll (descendants s root) = before ++ node :: after)
    (below : node.key ≠ root) (first : node.key ∉ before.map TreeNode.key) :
    node.children.map TreeNode.asset = childrenAmong s s.links node.key := by
  obtain ⟨_, expanded⟩ := expands_descendants s root
  rw [expanded.map_asset_children split, avoiding_withoutLinksFrom, avoiding]
  apply childrenAmong_filter
  intro l leaves
  simpa [leaves] using ⟨below, by simpa using first⟩

/-- At all its other places an asset has no children, and the root has none anywhere. -/
theorem children_eq_nil_of_later {before after : List TreeNode} {node : TreeNode}
    (split : TreeNode.preorderAll (descendants s root) = before ++ node :: after)
    (later : node.key ∈ root :: before.map TreeNode.key) : node.children = [] := by
  obtain ⟨_, expanded⟩ := expands_descendants s root
  have nothing := expanded.map_asset_children split
  rw [avoiding_withoutLinksFrom, childrenAmong_eq_nil] at nothing
  · exact List.map_eq_nil_iff.1 nothing
  · intro l member leaves
    exact of_decide_eq_true (List.mem_filter.1 member).2 (leaves ▸ later)

/-- The children of an asset are shown by its links to visible children, the oldest link
    first. -/
theorem exists_shownAs_childrenAmong (s : Store) (key : AssetKey) :
    ∃ links, links.Perm (s.links.filter fun l => l.source = key && s.showsChild l) ∧
      links.Pairwise (AssetLink.le · ·) ∧
      List.Forall₂ s.ShownAs links (childrenAmong s s.links key) := by
  refine ⟨(s.linksFrom key).filter s.showsChild, ?_, ?_, forall₂_shown _⟩
  · have same := (List.mergeSort_perm (s.links.filter (·.source = key)) AssetLink.le).filter
      s.showsChild
    rw [List.filter_filter] at same
    simpa only [Store.linksFrom, Bool.and_comm] using same
  · exact (AssetLink.pairwise_mergeSort _).filter _

/-- What the tree below an asset is. -/
structure IsTreeBelow (s : Store) (root : AssetKey) (tree : List TreeNode) : Prop where
  /-- A link is in the tree where its parent is the root, or visible children lead from the
      root to its parent, and its child is visible. -/
  mem_ids : ∀ id, id ∈ (TreeNode.preorderAll tree).map (·.asset.assetLinkId) ↔
    ∃ l ∈ s.links, l.assetLinkId = id ∧ l.relationshipType = .parentChild ∧
      (l.source = root ∨ s.HasDescendant root l.source) ∧ (s.activeAsset? l.target).isSome
  /-- No link is in the tree twice. -/
  nodup_ids : s.linkIds.Nodup →
    ((TreeNode.preorderAll tree).map (·.asset.assetLinkId)).Nodup
  /-- At its first place an asset has one child for each of its links, the oldest first. -/
  first : ∀ before node after, TreeNode.preorderAll tree = before ++ node :: after →
    node.key ≠ root → node.key ∉ before.map TreeNode.key →
      ∃ links, links.Perm (s.links.filter fun l => l.source = node.key && s.showsChild l) ∧
        links.Pairwise (AssetLink.le · ·) ∧
        List.Forall₂ s.ShownAs links (node.children.map TreeNode.asset)
  /-- At its other places it has none, and the root has none anywhere. -/
  later : ∀ before node after, TreeNode.preorderAll tree = before ++ node :: after →
    node.key = root ∨ node.key ∈ before.map TreeNode.key → node.children = []

/-- The descendants of an asset are the tree below it. -/
theorem isTreeBelow_descendants (s : Store) (root : AssetKey) :
    IsTreeBelow s root (descendants s root) where
  mem_ids id := by
    -- In preorder the nodes are the links that leave an expanded asset, each of them once.
    rw [(ids_preorderAll_perm s root).mem_iff]
    simp only [leaving, Store.showsChild, List.mem_map, List.mem_filter, List.mem_cons,
      mem_keys_descendants, decide_eq_true_eq, Bool.and_eq_true]
    constructor
    · rintro ⟨l, ⟨⟨stored, leaves⟩, type, visible⟩, sameId⟩
      exact ⟨l, stored, sameId, type, leaves, visible⟩
    · rintro ⟨l, stored, sameId, type, leaves, visible⟩
      exact ⟨l, ⟨⟨stored, leaves⟩, type, visible⟩, sameId⟩
  nodup_ids distinct := by
    rw [(ids_preorderAll_perm s root).nodup_iff]
    exact Store.nodup_keys_filter (Store.nodup_keys_filter distinct _) _
  first before node after split below first := by
    rw [map_asset_children_of_first split below first]
    exact exists_shownAs_childrenAmong s node.key
  later before node after split later := children_eq_nil_of_later split (List.mem_cons.2 later)

end Descendants

end Links

/-! ### Listings as trees -/

/-- In every store, also where links make cycles, every asset that is stored is listed with
    the tree below it, and the roots of that tree are the children that the flat listing
    shows, in the same order. -/
theorem listed_tree_is_exact {r : Registry} (ready : r.access = .ready) {root : AssetKey}
    {a : Asset} (there : r.store.asset? root = some a) :
    ∃ listing tree flatListing, (Links.listLinks root true).perform r = (.ok listing, r) ∧
      listing.children = .tree tree ∧
      (Links.listLinks root false).perform r = (.ok flatListing, r) ∧
      flatListing.children = .flat (tree.map TreeNode.asset) ∧
      Links.IsTreeBelow r.store root tree := by
  refine ⟨_, Links.descendants r.store root, _, Links.perform_listLinks ready there true, rfl,
    Links.perform_listLinks ready there false, ?_, Links.isTreeBelow_descendants r.store root⟩
  rw [Links.map_asset_descendants]
  rfl

namespace Registry

/-- A link from the motor of a plant back to its hall. -/
def returnLink : AssetLink :=
  ⟨"link-4", "plant", "motor", "plant", "hall", .parentChild, none, [], .epoch⟩

/-- The plant with a cycle of links, which no operation makes. -/
def looped : Registry :=
  { plant with store := { plant.store with links := plant.store.links ++ [returnLink] } }

end Registry

open Registry in
/-- The hall of the looped plant is listed with its tree, which comes back to the hall and
    ends there. -/
theorem listed_tree_is_exact_looped :
    looped.access = .ready ∧ ∃ listing tree, (looped.store.asset? ⟨"plant", "hall"⟩).isSome ∧
      (Links.listLinks ⟨"plant", "hall"⟩ true).perform looped = (.ok listing, looped) ∧
      listing.children = .tree tree ∧
      "link-4" ∈ (TreeNode.preorderAll tree).map (·.asset.assetLinkId) ∧
      ((TreeNode.preorderAll tree).map (·.asset.assetLinkId)).Nodup := by
  have ready : looped.access = .ready := reachable_plant.ready
  obtain ⟨stored, visible, toPress, toMotor, distinct⟩ :
      (looped.store.asset? ⟨"plant", "hall"⟩).isSome ∧
      (looped.store.activeAsset? ⟨"plant", "hall"⟩).isSome ∧
      looped.store.HasVisibleChild ⟨"plant", "hall"⟩ ⟨"plant", "press"⟩ ∧
      looped.store.HasVisibleChild ⟨"plant", "press"⟩ ⟨"plant", "motor"⟩ ∧
      looped.store.linkIds.Nodup := by decide +kernel
  obtain ⟨a, there⟩ := Option.isSome_iff_exists.1 stored
  obtain ⟨listing, tree, _, listed, isTree, -, -, exact⟩ := listed_tree_is_exact ready there
  -- The way back to the hall is a link below the hall, by way of the press and the motor.
  refine ⟨ready, listing, tree, stored, listed, isTree, ?_, exact.nodup_ids distinct⟩
  rw [exact.mem_ids]
  exact ⟨returnLink, List.mem_append_right _ List.mem_cons_self, rfl, rfl,
    .inr (.tail (.single toPress) toMotor), visible⟩

end AssetRegistry
