import AssetRegistry.Links.Visible

/-! # The tree of descendants

Every asset is expanded once, at its first place in the tree.  `expand` uses up the
links of an asset there, so that at every later place there are none left. -/

namespace AssetRegistry.Links

/-- The links that do not come from an asset. -/
def withoutLinksFrom (links : List AssetLink) (key : AssetKey) : List AssetLink :=
  links.filter (·.source ≠ key)

/-- The links of a parent that are expanded are no longer among the others. -/
theorem length_withoutLinksFrom_add_length_childrenAmong_le (s : Store) (links : List AssetLink)
    (key : AssetKey) :
    (withoutLinksFrom links key).length + (childrenAmong s links key).length ≤ links.length := by
  have children := length_childrenAmong_le s links key
  have split : (withoutLinksFrom links key).length + (links.filter (·.source = key)).length =
      links.length := by
    clear children
    induction links with
    | nil => rfl
    | cons link links ih =>
      by_cases leaves : link.source = key <;>
        simp [withoutLinksFrom, leaves] at ih ⊢ <;> omega
  omega

/-- The nodes of children, and the links that are left after them.  The nodes below a
    child come before those of its next sibling. -/
def expand (s : Store) (children : List LinkedAsset) (links : List AssetLink) :
    List TreeNode × { left : List AssetLink // left.length ≤ links.length } :=
  match children with
  | [] => ([], ⟨links, Nat.le_refl _⟩)
  | child :: siblings =>
    have shrinks := length_withoutLinksFrom_add_length_childrenAmong_le s links child.key
    -- The links of the child go before its subtree is made, so that a cycle back to it ends.
    let (below, afterChild) :=
      expand s (childrenAmong s links child.key) (withoutLinksFrom links child.key)
    let (beside, afterSiblings) := expand s siblings afterChild.1
    (.node child below :: beside,
      ⟨afterSiblings.1, by have := afterChild.2; have := afterSiblings.2; omega⟩)
termination_by links.length + children.length
decreasing_by
  · simp; omega
  · have := afterChild.2; simp; omega

/-- The descendants of an asset. -/
def descendants (s : Store) (root : AssetKey) : List TreeNode :=
  (expand s (childrenAmong s s.links root) (withoutLinksFrom s.links root)).1

end AssetRegistry.Links
