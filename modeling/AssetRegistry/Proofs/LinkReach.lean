import AssetRegistry.Links.Reach
import Mathlib.Logic.Relation

/-!
# The search along edges is exact

`reaches` uses up the edges of every place that it leaves.  That loses no path: the
part of a path after its last visit to a place does not leave that place again, and
starts at one of the successors, which are in the queue by then.
-/

namespace AssetRegistry

open Relation

/-- The first asset is a parent of the second one, by whatever link. -/
def Store.IsParentOf (s : Store) (parent child : AssetKey) : Prop :=
  ∃ l ∈ s.links, l.relationshipType = .parentChild ∧ l.source = parent ∧ l.target = child

instance (s : Store) (parent child : AssetKey) : Decidable (s.IsParentOf parent child) :=
  inferInstanceAs (Decidable (∃ l ∈ s.links, _ ∧ _ ∧ _))

namespace Links

section Search

variable {α : Type} [DecidableEq α] {edges : List (α × α)} {a b place target : α}

/-- An edge goes from one place to another one. -/
def Edge (edges : List (α × α)) (a b : α) : Prop :=
  (a, b) ∈ edges

/-- The successors of a place are where its edges lead. -/
theorem mem_successors : b ∈ successors edges place ↔ Edge edges place b := by
  simp [successors, Edge]

/-- An edge is left if it does not start at the place. -/
theorem edge_withoutEdgesFrom :
    Edge (withoutEdgesFrom edges place) a b ↔ Edge edges a b ∧ a ≠ place := by
  simp [withoutEdgesFrom, Edge]

/-- A path avoids the edges of a place, or ends with a path that does so and starts
    right after that place. -/
theorem avoids_or_restarts (place : α) (path : ReflTransGen (Edge edges) a target) :
    ReflTransGen (Edge (withoutEdgesFrom edges place)) a target ∨
      ∃ b, Edge edges place b ∧
        ReflTransGen (Edge (withoutEdgesFrom edges place)) b target := by
  -- Of all the visits of a path to the place, the last one is kept.
  induction path using ReflTransGen.head_induction_on with
  | refl => exact .inl .refl
  | @head a c edge _ ih =>
    rcases ih with avoids | restarts
    · by_cases leaves : a = place
      · subst leaves
        exact .inr ⟨c, edge, avoids⟩
      · exact .inl (avoids.head (edge_withoutEdgesFrom.2 ⟨edge, leaves⟩))
    · exact .inr restarts

/-- Without the edges of a place there are no new paths. -/
theorem path_of_withoutEdgesFrom
    (path : ReflTransGen (Edge (withoutEdgesFrom edges place)) a b) :
    ReflTransGen (Edge edges) a b :=
  ReflTransGen.mono (fun _ _ edge => (edge_withoutEdgesFrom.1 edge).1) _ _ path

/-- The search succeeds where a path goes from a place in the queue to the target. -/
theorem reaches_iff (target : α) (edges : List (α × α)) (queue : List α) :
    reaches target edges queue = true ↔
      ∃ start ∈ queue, ReflTransGen (Edge edges) start target := by
  fun_induction reaches target edges queue with
  | case1 edges => simp
  | case2 edges place queue ih =>
    rw [Bool.or_eq_true, decide_eq_true_eq, ih]
    constructor
    · -- What is found without the edges of the place is found with them.
      rintro (rfl | ⟨start, queued, path⟩)
      · exact ⟨place, List.mem_cons_self, .refl⟩
      · rcases List.mem_append.1 queued with waiting | next
        · exact ⟨start, List.mem_cons_of_mem _ waiting, path_of_withoutEdgesFrom path⟩
        · exact ⟨place, List.mem_cons_self,
            (path_of_withoutEdgesFrom path).head (mem_successors.1 next)⟩
    · -- A path that passes the place goes on from one of its successors.
      rintro ⟨start, queued, path⟩
      rcases avoids_or_restarts place path with avoids | ⟨b, edge, rest⟩
      · rcases List.mem_cons.1 queued with rfl | waiting
        · -- A path that starts here and leaves by no edge from here has not left.
          rcases avoids.cases_head with rfl | ⟨b, edge, _⟩
          · exact .inl rfl
          · exact absurd rfl (edge_withoutEdgesFrom.1 edge).2
        · exact .inr ⟨start, List.mem_append_left _ waiting, avoids⟩
      · exact .inr ⟨b, List.mem_append_right _ (mem_successors.2 edge), rest⟩

end Search

/-- The edges of a store are its parents and children. -/
theorem edge_parentChildEdges {s : Store} {a b : AssetKey} :
    Edge (parentChildEdges s) a b ↔ s.IsParentOf a b := by
  simp [Edge, parentChildEdges, Store.IsParentOf, and_assoc]

/-- An asset is found to be an ancestor of another one, or that one itself, exactly
    where parents lead from the one to the other. -/
theorem isAncestorOrSelf_iff {s : Store} {a b : AssetKey} :
    isAncestorOrSelf s a b = true ↔ ReflTransGen s.IsParentOf a b := by
  have same : Edge (parentChildEdges s) = s.IsParentOf := by
    funext a b
    exact propext edge_parentChildEdges
  rw [isAncestorOrSelf, reaches_iff, same]
  simp

end Links

end AssetRegistry
