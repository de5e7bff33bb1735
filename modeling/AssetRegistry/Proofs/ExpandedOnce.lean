import AssetRegistry.Proofs.DescendantTree
import AssetRegistry.Proofs.FirstOccurrence
import Mathlib.Data.List.Perm.Subperm

/-!
# Trees built in two passes

The tree of descendants can also be built in two passes.  The first one looks up the visible
children of every asset that can be reached, breadth first (`adjacency`).  The second one builds
the nodes from what was found, with a set of the assets that it has expanded (`Builds`).  The
first pass finds the children of all descendants, since whatever was visited waits or was looked
up all the time.  The second one builds the same tree as `expand`, for an asset is expanded
already exactly where its links are used up.
-/

namespace AssetRegistry.Links

variable {s : Store} {root key : AssetKey} {kids : AssetKey → List LinkedAsset}
  {visited waiting : List AssetKey} {found : AssetKey → Option (List LinkedAsset)}

/-! ### The first pass -/

/-- The keys of children that were not visited before, each of them once. -/
def newKeys (visited : List AssetKey) (children : List LinkedAsset) : List AssetKey :=
  (Catalog.keepFirst LinkedAsset.key visited children).map LinkedAsset.key

/-- A visible child is among the children. -/
theorem exists_childrenAmong {parent child : AssetKey} (visible : s.HasVisibleChild parent child) :
    ∃ shown ∈ childrenAmong s s.links parent, shown.key = child := by
  obtain ⟨⟨l, member, type, leaves, rfl⟩, active⟩ := visible
  obtain ⟨other, found⟩ := Option.isSome_iff_exists.1 active
  have shown : s.ShownAs l (linked l other) := ⟨other, found, rfl⟩
  exact ⟨_, mem_childrenAmong.2 ⟨l, member, leaves, type, shown⟩, shown.key_eq⟩

/-- New are the keys of children that were not visited. -/
theorem mem_newKeys {children : List LinkedAsset} :
    key ∈ newKeys visited children ↔ (∃ child ∈ children, child.key = key) ∧ key ∉ visited := by
  rw [newKeys, Catalog.mem_map_keepFirst, List.mem_map]

/-- The stored assets that were not visited. -/
def unvisited (s : Store) (visited : List AssetKey) : List Asset :=
  s.assets.filter (·.key ∉ visited)

/-- Children whose keys are new are stored assets that were not visited before. -/
theorem newKeys_subset (visited : List AssetKey) (parent : AssetKey) :
    newKeys visited (childrenAmong s s.links parent) ⊆ (unvisited s visited).map Asset.key := by
  intro key new
  obtain ⟨⟨child, member, rfl⟩, unseen⟩ := mem_newKeys.1 new
  obtain ⟨_, _, _, _, other, active, rfl⟩ := mem_childrenAmong.1 member
  have stored : other ∈ s.assets :=
    List.mem_of_find?_eq_some (Option.filter_eq_some_iff.1 active).1
  have unseen : other.key ∉ visited := unseen
  exact List.mem_map.2 ⟨other, List.mem_filter.2 ⟨stored, by simpa using unseen⟩, rfl⟩

/-- Every key that is new makes one unvisited asset less. -/
theorem length_unvisited_add_length_newKeys_le (s : Store) (visited : List AssetKey)
    (parent : AssetKey) :
    let new := newKeys visited (childrenAmong s s.links parent)
    (unvisited s (visited ++ new)).length + new.length ≤ (unvisited s visited).length := by
  intro new
  have distinct : new.Nodup := Catalog.nodup_map_keepFirst
  -- New keys are keys of unvisited assets, and no two of them are of the same asset.
  have among : new ⊆ ((unvisited s visited).filter (·.key ∈ new)).map Asset.key := by
    intro key member
    obtain ⟨asset, unseen, rfl⟩ := List.mem_map.1 (newKeys_subset visited parent member)
    exact List.mem_map_of_mem (List.mem_filter.2 ⟨unseen, by simpa using member⟩)
  have counted : new.length ≤ ((unvisited s visited).filter (·.key ∈ new)).length := by
    simpa using (List.Nodup.subperm distinct among).length_le
  have rest : unvisited s (visited ++ new) =
      (unvisited s visited).filter fun asset => !decide (asset.key ∈ new) := by
    simp [unvisited, Bool.and_comm]
  have split := (unvisited s visited).length_eq_length_filter_add (·.key ∈ new)
  rw [rest]
  omega

/-- Looks up the children of the assets that wait, of the first one first.  New children wait
    behind the others. -/
def fill (s : Store) (visited waiting : List AssetKey)
    (found : AssetKey → Option (List LinkedAsset)) : AssetKey → Option (List LinkedAsset) :=
  match waiting with
  | [] => found
  | parent :: waiting =>
    let children := childrenAmong s s.links parent
    let new := newKeys visited children
    have _shrinks := length_unvisited_add_length_newKeys_le s visited parent
    fill s (visited ++ new) (waiting ++ new) (Function.update found parent (some children))
termination_by (unvisited s visited).length + waiting.length
decreasing_by
  simp only [List.length_append, List.length_cons]
  omega

/-- What the first pass finds.  The children of the root are known before it starts. -/
def adjacency (s : Store) (root : AssetKey) : AssetKey → Option (List LinkedAsset) :=
  let direct := childrenAmong s s.links root
  let new := newKeys [root] direct
  fill s (root :: new) new (Function.update (fun _ => none) root (some direct))

/-- An asset was looked up: its visible children were found, and they were visited. -/
def LookedUp (s : Store) (visited : List AssetKey)
    (found : AssetKey → Option (List LinkedAsset)) (key : AssetKey) : Prop :=
  found key = some (childrenAmong s s.links key) ∧
    ∀ child, s.HasVisibleChild key child → child ∈ visited

/-- What holds all through the first pass: the root was visited, and whatever was visited waits
    or was looked up. -/
structure Filling (s : Store) (root : AssetKey) (visited waiting : List AssetKey)
    (found : AssetKey → Option (List LinkedAsset)) : Prop where
  root : root ∈ visited
  pending : ∀ key ∈ visited, key ∈ waiting ∨ LookedUp s visited found key

namespace Filling

/-- The asset that waits first is looked up. -/
theorem step {parent : AssetKey} (filling : Filling s root visited (parent :: waiting) found) :
    let children := childrenAmong s s.links parent
    let new := newKeys visited children
    Filling s root (visited ++ new) (waiting ++ new)
      (Function.update found parent (some children)) := by
  intro children new
  refine ⟨List.mem_append_left _ filling.root, fun key member => ?_⟩
  by_cases same : key = parent
  · -- Its children were visited before, or are new.
    subst same
    refine .inr ⟨Function.update_self .., fun child visible => ?_⟩
    by_cases seen : child ∈ visited
    · exact List.mem_append_left _ seen
    · exact List.mem_append_right _ (mem_newKeys.2 ⟨exists_childrenAmong visible, seen⟩)
  · rcases List.mem_append.1 member with old | new
    · rcases filling.pending key old with waits | ⟨lookedUp, closed⟩
      · exact .inl (List.mem_append_left _ ((List.mem_cons.1 waits).resolve_left same))
      · refine .inr ⟨?_, fun child visible => List.mem_append_left _ (closed child visible)⟩
        rw [Function.update_of_ne same, lookedUp]
    · exact .inl (List.mem_append_right _ new)

/-- When no asset waits any more, all descendants of the root were looked up. -/
theorem lookedUp (filling : Filling s root visited [] found)
    (known : key = root ∨ s.HasDescendant root key) : LookedUp s visited found key := by
  have all : ∀ key ∈ visited, LookedUp s visited found key := fun key member =>
    (filling.pending key member).resolve_left List.not_mem_nil
  have reached : key ∈ visited := by
    rcases known with rfl | path
    · exact filling.root
    · induction path with
      | single child => exact (all root filling.root).2 _ child
      | tail _ child ih => exact (all _ ih).2 _ child
  exact all key reached

/-- The first pass finds the children of the root and of all its descendants. -/
theorem fill_eq (filling : Filling s root visited waiting found)
    (known : key = root ∨ s.HasDescendant root key) :
    fill s visited waiting found key = some (childrenAmong s s.links key) := by
  fun_induction fill s visited waiting found with
  | case1 => exact (filling.lookedUp known).1
  | case2 _ _ _ _ _ _ _ ih => exact ih filling.step

end Filling

/-- Every asset below the root is looked up with its children, and so is the root. -/
theorem adjacency_eq (known : key = root ∨ s.HasDescendant root key) :
    adjacency s root key = some (childrenAmong s s.links key) := by
  -- The root is looked up like an asset that waits.
  have start : Filling s root [root] [root] fun _ => none :=
    ⟨List.mem_singleton_self root, fun key member => .inl member⟩
  exact start.step.fill_eq known

/-! ### The second pass -/

/-- The nodes of children, where the children of every asset were found before and some
    assets are expanded already, and the assets that are expanded then. -/
inductive Builds (kids : AssetKey → List LinkedAsset) :
    List AssetKey → List LinkedAsset → List TreeNode → List AssetKey → Prop where
  | done (expanded : List AssetKey) : Builds kids expanded [] [] expanded
  | first {child : LinkedAsset} {siblings : List LinkedAsset} {below beside : List TreeNode}
      {expanded afterChild after : List AssetKey} (new : child.key ∉ expanded)
      (buildsBelow : Builds kids (child.key :: expanded) (kids child.key) below afterChild)
      (buildsBeside : Builds kids afterChild siblings beside after) :
      Builds kids expanded (child :: siblings) (.node child below :: beside) after
  | again {child : LinkedAsset} {siblings : List LinkedAsset} {beside : List TreeNode}
      {expanded after : List AssetKey} (old : child.key ∈ expanded)
      (buildsBeside : Builds kids expanded siblings beside after) :
      Builds kids expanded (child :: siblings) (.node child [] :: beside) after

/-- There is one result at most. -/
theorem Builds.unique {expanded after after' : List AssetKey} {children : List LinkedAsset}
    {nodes nodes' : List TreeNode} (builds : Builds kids expanded children nodes after)
    (builds' : Builds kids expanded children nodes' after') : nodes = nodes' ∧ after = after' := by
  -- The rule is fixed by whether the first child was expanded, so both results come by the same
  -- one.
  induction builds generalizing nodes' after' with
  | done expanded =>
    cases builds'
    exact ⟨rfl, rfl⟩
  | first new _ _ ihBelow ihBeside =>
    cases builds' with
    | first _ buildsBelow buildsBeside =>
      obtain ⟨rfl, rfl⟩ := ihBelow buildsBelow
      obtain ⟨rfl, rfl⟩ := ihBeside buildsBeside
      exact ⟨rfl, rfl⟩
    | again old => exact absurd old new
  | again old _ ihBeside =>
    cases builds' with
    | first new => exact absurd old new
    | again _ buildsBeside =>
      obtain ⟨rfl, rfl⟩ := ihBeside buildsBeside
      exact ⟨rfl, rfl⟩

/-- Links that avoid some assets and have none from another one avoid it too. -/
theorem withoutLinksFrom_avoiding (links : List AssetLink) (key : AssetKey)
    (keys : List AssetKey) :
    withoutLinksFrom (avoiding links keys) key = avoiding links (key :: keys) := by
  simp [avoiding, withoutLinksFrom]

/-- An asset that is avoided already makes no difference. -/
theorem avoiding_cons_of_mem {key : AssetKey} {keys : List AssetKey} (member : key ∈ keys)
    (links : List AssetLink) : avoiding links (key :: keys) = avoiding links keys := by
  apply List.filter_congr
  intro l _
  by_cases leaves : l.source = key
  · simp [leaves, member]
  · simp [leaves]

/-- The traversal and the second pass make the same nodes, where the links that are left
    are those that do not come from expanded assets. -/
theorem Expands.builds {left : List AssetLink} {children : List LinkedAsset}
    {nodes : List TreeNode} {expanded : List AssetKey}
    (expands : Expands s children (avoiding s.links expanded) nodes left)
    (found : ∀ key ∈ TreeNode.keys nodes, kids key = childrenAmong s s.links key) :
    ∃ after, Builds kids expanded children nodes after ∧ left = avoiding s.links after := by
  generalize unused : avoiding s.links expanded = links at expands
  induction expands generalizing expanded with
  | done links => exact ⟨expanded, .done expanded, unused.symm⟩
  | @child child siblings below beside links afterChild left expandsBelow _ ihBelow ihBeside =>
    rw [TreeNode.keys_cons, List.forall_mem_cons, List.forall_mem_append] at found
    obtain ⟨foundChild, foundBelow, foundBeside⟩ := found
    subst unused
    by_cases old : child.key ∈ expanded
    · -- The links of the child are used up, so the traversal finds nothing below it.
      have nothing : childrenAmong s (avoiding s.links expanded) child.key = [] := by
        apply childrenAmong_eq_nil
        intro l member leaves
        exact of_decide_eq_true (List.mem_filter.1 member).2 (leaves ▸ old)
      rw [nothing] at expandsBelow
      cases expandsBelow
      obtain ⟨after, builds, rest⟩ := @ihBeside expanded foundBeside
        (by rw [withoutLinksFrom_avoiding, avoiding_cons_of_mem old])
      exact ⟨after, .again old builds, rest⟩
    · -- None of the links of the child are used up.
      have all : childrenAmong s (avoiding s.links expanded) child.key = kids child.key := by
        rw [foundChild, avoiding]
        apply childrenAmong_filter
        intro l leaves
        simpa [leaves] using old
      rw [all] at ihBelow
      obtain ⟨afterBelow, buildsBelow, restBelow⟩ := ihBelow foundBelow
        (withoutLinksFrom_avoiding s.links child.key expanded).symm
      obtain ⟨after, buildsBeside, rest⟩ := ihBeside foundBeside restBelow.symm
      exact ⟨after, .first old buildsBelow buildsBeside, rest⟩

/-- The second pass builds the tree of descendants and no other one, if the visible children of
    the root and of whatever visible children lead to were found. -/
theorem builds_iff_of_found {tree : List TreeNode}
    (found : ∀ key, key = root ∨ s.HasDescendant root key →
      kids key = childrenAmong s s.links key) :
    (∃ after, Builds kids [root] (kids root) tree after) ↔ tree = descendants s root := by
  obtain ⟨left, expands⟩ := expands_descendants s root
  have unused : withoutLinksFrom s.links root = avoiding s.links [root] := by
    simp [avoiding, withoutLinksFrom]
  rw [unused, ← found root (.inl rfl)] at expands
  obtain ⟨after, builds, _⟩ := expands.builds fun key member =>
    found key (.inr (mem_keys_descendants.1 member))
  constructor
  · rintro ⟨_, builds'⟩
    exact (builds'.unique builds).1
  · rintro rfl
    exact ⟨after, builds⟩

/-- The two passes build the tree of descendants and no other one. -/
theorem builds_iff_eq_descendants {tree : List TreeNode} :
    (∃ after, Builds (fun key => (adjacency s root key).getD []) [root]
      ((adjacency s root root).getD []) tree after) ↔ tree = descendants s root :=
  builds_iff_of_found fun key known => by rw [adjacency_eq known, Option.getD_some]

end AssetRegistry.Links
