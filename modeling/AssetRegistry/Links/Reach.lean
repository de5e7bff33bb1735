import AssetRegistry.Store.Basic

/-! # Reachability along edges

`reaches` searches a directed graph breadth first.  It uses up the edges of every
asset that it leaves, so that it ends on a graph with cycles too. -/

namespace AssetRegistry.Links

/-- Where the edges that leave a place go. -/
def successors [DecidableEq α] (edges : List (α × α)) (place : α) : List α :=
  (edges.filter (·.1 = place)).map (·.2)

/-- The edges that do not leave a place. -/
def withoutEdgesFrom [DecidableEq α] (edges : List (α × α)) (place : α) : List (α × α) :=
  edges.filter (·.1 ≠ place)

/-- Every edge leaves a place or does not. -/
theorem length_withoutEdgesFrom_add_length_successors [DecidableEq α] (edges : List (α × α))
    (place : α) :
    (withoutEdgesFrom edges place).length + (successors edges place).length = edges.length := by
  induction edges with
  | nil => rfl
  | cons edge edges ih =>
    by_cases leaves : edge.1 = place <;>
      simp [withoutEdgesFrom, successors, leaves] at ih ⊢ <;> omega

/-- Whether a path along edges goes from one of the places in a queue to a target. -/
def reaches [DecidableEq α] (target : α) (edges : List (α × α)) : (queue : List α) → Bool
  | [] => false
  | place :: queue =>
    -- The edges that leave this place are used up, so a later visit adds nothing to the queue.
    place = target ||
      reaches target (withoutEdgesFrom edges place) (queue ++ successors edges place)
termination_by queue => edges.length + queue.length
decreasing_by
  have := length_withoutEdgesFrom_add_length_successors edges place
  simp
  omega

/-- The edges of the parent-child links, from parents to children. -/
def parentChildEdges (s : Store) : List (AssetKey × AssetKey) :=
  (s.links.filter (·.relationshipType = .parentChild)).map fun l => (l.source, l.target)

/-- Whether an asset is another one or has it among its descendants. -/
def isAncestorOrSelf (s : Store) (ancestor descendant : AssetKey) : Bool :=
  reaches descendant (parentChildEdges s) [ancestor]

end AssetRegistry.Links
