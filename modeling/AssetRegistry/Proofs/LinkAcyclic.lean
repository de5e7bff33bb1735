import AssetRegistry.Proofs.LinkReach
import AssetRegistry.Proofs.Frame
import AssetRegistry.Proofs.Reachable

/-!
# No asset is its own descendant

A new parent-child link closes a cycle only if its child is an ancestor of its parent,
which the search along the stored links would have found.  Every other operation
keeps the edges or removes some.
-/

namespace AssetRegistry

open Relation

/-! ### Edges -/

section Edges

variable {α : Type} {R S : α → α → Prop} {a b x y : α}

/-- A path with one more edge does without it, or goes to its start and on from its
    end. -/
theorem transGen_or_through (path : TransGen S x y)
    (edge : ∀ {u v}, S u v → R u v ∨ u = a ∧ v = b) :
    TransGen R x y ∨ ReflTransGen R x a ∧ ReflTransGen R b y := by
  -- The path grows at its end, and the new edge can only be the last one used.
  induction path with
  | single step =>
    rcases edge step with old | ⟨rfl, rfl⟩
    · exact .inl (.single old)
    · exact .inr ⟨.refl, .refl⟩
  | tail _ step ih =>
    rcases edge step with old | ⟨rfl, rfl⟩
    · rcases ih with before | ⟨toStart, fromEnd⟩
      · exact .inl (before.tail old)
      · exact .inr ⟨toStart, fromEnd.tail old⟩
    · rcases ih with before | ⟨toStart, _⟩
      · exact .inr ⟨before.to_reflTransGen, .refl⟩
      · exact .inr ⟨toStart, .refl⟩

end Edges

namespace Store

variable {s s' : Store}

/-- No asset reaches itself by one or more parent-child links. -/
def IsAcyclic (s : Store) : Prop :=
  ∀ a, ¬TransGen s.IsParentOf a a

/-- Without new edges there is no new cycle. -/
theorem IsAcyclic.mono (acyclic : s.IsAcyclic)
    (old : ∀ {a b}, s'.IsParentOf a b → s.IsParentOf a b) : s'.IsAcyclic :=
  fun a cycle => acyclic a (TransGen.mono (fun _ _ => old) _ _ cycle)

/-- Fewer links close no cycle. -/
theorem IsAcyclic.of_links_subset (acyclic : s.IsAcyclic) (fewer : s'.links ⊆ s.links) :
    s'.IsAcyclic :=
  acyclic.mono fun ⟨l, member, isLink⟩ => ⟨l, fewer member, isLink⟩

/-- The tags of links are no part of the graph. -/
theorem IsAcyclic.setLinkTags (acyclic : s.IsAcyclic) {assetLinkId : String} {tags : List String}
    (ran : Store.setLinkTags assetLinkId tags s = .ok ((), s')) : s'.IsAcyclic := by
  obtain ⟨_, rfl⟩ := setLinkTags_eq_ok.1 ran
  refine acyclic.mono fun {a b} => ?_
  rintro ⟨_, changed, isLink⟩
  obtain ⟨l, member, rfl⟩ := mem_changeRows.1 changed
  refine ⟨l, member, ?_⟩
  split at isLink <;> exact isLink

/-- A new link whose child is no ancestor of its parent closes no cycle. -/
theorem IsAcyclic.insertLink (acyclic : s.IsAcyclic) {row l : AssetLink}
    (noPath : row.relationshipType = .parentChild →
      ¬ReflTransGen s.IsParentOf row.target row.source)
    (ran : Store.insertLink row s = .ok (l, s')) : s'.IsAcyclic := by
  obtain ⟨_, _, rfl⟩ := insertLink_eq_ok.1 ran
  cases type : row.relationshipType with
  | related =>
    refine acyclic.mono fun {a b} => ?_
    rintro ⟨l, member, isLink, ends⟩
    rcases List.mem_append.1 member with old | new
    · exact ⟨l, old, isLink, ends⟩
    · rw [List.mem_singleton.1 new, type] at isLink
      exact nomatch isLink
  | parentChild =>
    intro a cycle
    have edge {u v} (h : IsParentOf { s with links := s.links ++ [row] } u v) :
        s.IsParentOf u v ∨ u = row.source ∧ v = row.target := by
      obtain ⟨l, member, isLink, rfl, rfl⟩ := h
      rcases List.mem_append.1 member with old | new
      · exact .inl ⟨l, old, isLink, rfl, rfl⟩
      · rw [List.mem_singleton.1 new]
        exact .inr ⟨rfl, rfl⟩
    -- A cycle uses the new edge, and then leads from its child back to its parent.
    rcases transGen_or_through cycle edge with old | ⟨toSource, fromTarget⟩
    · exact acyclic a old
    · exact noPath type (fromTarget.trans toSource)

end Store

/-! ### Runs -/

/-- An operation closes no cycle. -/
theorem Operation.Step.isAcyclic {operation : Operation} {reply : Reply} {r r' : Registry}
    (step : Step r operation reply r') (acyclic : r.store.IsAcyclic) : r'.store.IsAcyclic := by
  have frame := step.agreesBut
  cases step
  case read => exact acyclic
  case createLink request row s _ _ _ _ _ admits ran =>
    refine acyclic.insertLink (fun isChild path => ?_) ran
    -- The search went from the child along the edges that there were before.
    have found : Links.isAncestorOrSelf r.store request.target request.source = true :=
      Links.isAncestorOrSelf_iff.2 path
    simp [admits.acyclic isChild] at found
  case updateLinkTags ran _ => exact acyclic.setLinkTags ran
  case deleteLink ran =>
    obtain ⟨_, _, rfl⟩ := Store.deleteLinkCascade_eq_ok.1 ran
    exact acyclic.of_links_subset List.filter_sublist.subset
  case deleteAsset ran =>
    obtain ⟨_, _, rfl⟩ := Store.deleteAssetCascade_eq_ok.1 ran
    exact acyclic.of_links_subset List.filter_sublist.subset
  all_goals exact acyclic.of_links_subset (frame.links (by simp [tables]) ▸ List.Subset.refl _)

/-- Operations lead to no cycle. -/
theorem Registry.Reachable.isAcyclic {linkLimit : Nat} {r : Registry}
    (reachable : r.Reachable linkLimit) : r.store.IsAcyclic := by
  apply reachable.invariant (motive := Store.IsAcyclic)
  · -- Without links there are no paths.
    intro a cycle
    obtain ⟨b, ⟨l, member, _⟩, _⟩ := TransGen.head'_iff.1 cycle
    exact nomatch member
  · intro r operation reply r' step acyclic
    exact step.isAcyclic acyclic

/-- In every registry that operations lead to, at any limit of links, no asset is its own
    descendant. -/
theorem parentChild_acyclic {linkLimit : Nat} {r : Registry} (reachable : r.Reachable linkLimit)
    (a : AssetKey) : ¬TransGen r.store.IsParentOf a a :=
  reachable.isAcyclic a

/-- The hall of a plant is not part of its own motor, though it was to become one. -/
theorem parentChild_acyclic_plant :
    Registry.plant.store.links.map (fun l => (l.fromAssetId, l.toAssetId)) =
        [("hall", "press"), ("hall", "press"), ("press", "motor")] ∧
      ¬TransGen Registry.plant.store.IsParentOf ⟨"plant", "hall"⟩ ⟨"plant", "hall"⟩ :=
  ⟨by decide +kernel, parentChild_acyclic Registry.reachable_plant _⟩

end AssetRegistry
