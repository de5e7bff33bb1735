import AssetRegistry.Proofs.LinkReach
import AssetRegistry.Proofs.Reading

/-!
# The creation of a link, call by call

The creation of a link asks the store one thing after another and then writes to it once.
`Stage` says what comes next, and `Stage.advance` makes that one call.  The search for a
cycle is one call for each asset that it leaves, so it keeps the assets that it has left
and those that wait, and does not use up edges as `reaches` does.

Where nothing else happens between the calls, they come to what the operation comes to
(`completes_createLink`).
-/

namespace AssetRegistry.Links

open Relation AssetRegistry.Action

/-! ### Stages -/

/-- What the creation of a link does next.  From `sourceRoom` on it is the only one to
    create a link. -/
inductive Stage where
  | source
  | target
  | waiting
  | sourceRoom
  | targetRoom
  | forward
  | backward (isFree : Bool)
  | siblings
  | reverse
  | search (visited queue : List AssetKey)
  | insertion
  deriving DecidableEq, Repr

/-- What comes of a stage where the creation is not refused. -/
inductive Progress where
  | next (stage : Stage)
  | done (link : AssetLink)
  deriving DecidableEq, Repr

/-- The children of an asset by all of its parent-child links, the oldest link first. -/
def childKeys (s : Store) (parent : AssetKey) : List AssetKey :=
  (ofType .parentChild (s.linksFrom parent)).map AssetLink.target

/-- Does what a stage is about, with one call to the store at most. -/
def Stage.advance (request : NewAssetLink) : Stage → Action Progress
  | source => do
    requireEnd .source request.source
    return .next target
  | target => do
    requireEnd .target request.target
    return .next waiting
  | waiting => return .next sourceRoom
  | sourceRoom => do
    requireCapacity request.source
    return .next targetRoom
  | targetRoom => do
    requireCapacity request.target
    match request.relationshipType with
    | .related => return .next forward
    | .parentChild => return .next siblings
  | forward => do
    let forward ← Action.query (·.linksBetween request.source request.target .related)
    return .next (backward forward.isEmpty)
  | backward isFree => do
    let backward ← Action.query (·.linksBetween request.target request.source .related)
    if !isFree || !backward.isEmpty then
      throw (.duplicateLink .related)
    return .next insertion
  | siblings => do
    let existing ← Action.query (·.linksBetween request.source request.target .parentChild)
    if existing.any (·.assetLinkAliasId = request.alias?) then
      throw (.duplicateLink .sameAlias)
    return .next reverse
  | reverse => do
    let reverse ← Action.query (·.linksBetween request.target request.source .parentChild)
    if !reverse.isEmpty then
      throw (.duplicateLink .reversed)
    return .next (search [] [request.target])
  | search _ [] => return .next insertion
  | search visited (place :: queue) =>
    if place = request.source then throw .cycleDetected
    else if place ∈ visited then return .next (search visited queue)
    else do
      let children ← Action.query (childKeys · place)
      return .next (search (place :: visited) (queue ++ children.filter (· ∉ place :: visited)))
  | insertion => .done <$> storeLink request

/-- The ends of the link that were found before a stage. -/
def Stage.found (request : NewAssetLink) : Stage → List AssetKey
  | source => []
  | target => [request.source]
  | _ => [request.source, request.target]

section Stages

variable {request : NewAssetLink} {stage stage' : Stage} {r r' : Registry} {key : AssetKey}

/-- The store is written to at the last stage only. -/
theorem reads_advance (before : stage ≠ .insertion) : Reads (stage.advance request) := by
  cases stage with
  | source =>
    apply (reads_requireEnd .source request.source).bind
    intro _
    exact Reads.pure _
  | target =>
    apply (reads_requireEnd .target request.target).bind
    intro _
    exact Reads.pure _
  | waiting => exact Reads.pure _
  | sourceRoom =>
    apply (reads_requireCapacity request.source).bind
    intro _
    exact Reads.pure _
  | targetRoom =>
    apply (reads_requireCapacity _).bind
    intro _
    split
    · exact Reads.pure _
    · exact Reads.pure _
  | forward =>
    apply (Reads.query _).bind
    intro links
    exact Reads.pure _
  | backward =>
    apply (Reads.query _).bind
    intro links
    exact Reads.ite_throw_bind (Reads.pure _)
  | siblings =>
    apply (Reads.query _).bind
    intro links
    exact Reads.ite_throw_bind (Reads.pure _)
  | reverse =>
    apply (Reads.query _).bind
    intro links
    exact Reads.ite_throw_bind (Reads.pure _)
  | search visited queue =>
    cases queue with
    | nil => exact Reads.pure _
    | cons place queue =>
      -- The place is the parent, or it was visited before, or its children are read.
      apply (Reads.throw _).ite
      apply (Reads.pure _).ite
      apply (Reads.query _).bind
      intro children
      exact Reads.pure _
  | insertion => exact absurd rfl before

/-- Only ends of the link have been found. -/
theorem found_subset : stage.found request ⊆ [request.source, request.target] := by
  cases stage <;> simp [Stage.found]

/-- An end that is found at a stage is stored then. -/
theorem found_of_advance (advanced : (stage.advance request).perform r = (.ok (.next stage'), r'))
    (found : key ∈ stage'.found request) :
    key ∈ stage.found request ∨ (r.store.asset? key).isSome := by
  cases stage with
  -- Two stages look an end up; the others find nothing new.
  | source =>
    obtain ⟨_, _, ends, next⟩ := bind_eq_ok.1 advanced
    obtain ⟨_, there, rfl⟩ := requireEnd_eq_ok.1 ends
    obtain ⟨rfl, rfl⟩ := Progress.next.inj (pure_eq_ok.1 next).1
    rw [List.mem_singleton.1 found]
    exact .inr there
  | target =>
    obtain ⟨_, _, ends, next⟩ := bind_eq_ok.1 advanced
    obtain ⟨_, there, rfl⟩ := requireEnd_eq_ok.1 ends
    obtain ⟨rfl, rfl⟩ := Progress.next.inj (pure_eq_ok.1 next).1
    rcases List.mem_cons.1 found with rfl | isTarget
    · exact .inl (List.mem_singleton.2 rfl)
    · rw [List.mem_singleton.1 isTarget]
      exact .inr there
  | _ => exact .inl (found_subset found)

end Stages

/-- The outcome of a creation that is left alone from a stage on. -/
inductive Completes (request : NewAssetLink) :
    Stage → Registry → Except RegistryError AssetLink × Registry → Prop where
  | done {stage : Stage} {r r' : Registry} {link : AssetLink}
      (advanced : (stage.advance request).perform r = (.ok (.done link), r')) :
    Completes request stage r (.ok link, r')
  | refused {stage : Stage} {r r' : Registry} {e : RegistryError}
      (advanced : (stage.advance request).perform r = (.error e, r')) :
    Completes request stage r (.error e, r')
  | next {stage stage' : Stage} {r r' : Registry}
      {outcome : Except RegistryError AssetLink × Registry}
      (advanced : (stage.advance request).perform r = (.ok (.next stage'), r'))
      (rest : Completes request stage' r' outcome) : Completes request stage r outcome

variable {request : NewAssetLink} {r : Registry}

/-- From its last stage on, a creation stores the link. -/
theorem completes_insertion (request : NewAssetLink) (r : Registry) :
    Completes request .insertion r ((storeLink request).perform r) := by
  have advanced : (Stage.insertion.advance request).perform r =
      (((storeLink request).perform r).1.map Progress.done, ((storeLink request).perform r).2) := by
    show (Progress.done <$> storeLink request).perform r = _
    rw [map_eq_pure_bind, perform_bind]
    rcases (storeLink request).perform r with ⟨_ | link, r'⟩ <;> rfl
  rcases h : (storeLink request).perform r with ⟨e | link, r'⟩
  · exact .refused (by rw [advanced, h]; rfl)
  · exact .done (by rw [advanced, h]; rfl)

/-- A stage with a check that leads to another stage completes as the check followed by
    what that stage completes to. -/
theorem Completes.bind {stage : Stage} {check : Action α} {onward : α → Stage}
    {rest : α → Action AssetLink}
    (asks : stage.advance request = check >>= fun a => pure (.next (onward a)))
    (reads : Reads check)
    (completes : ∀ a, Completes request (onward a) r ((rest a).perform r)) :
    Completes request stage r ((check >>= rest).perform r) := by
  rw [perform_bind]
  rcases h : check.perform r with ⟨e | a, r'⟩
  · exact .refused (by rw [asks, perform_bind, h])
  · obtain rfl := reads.eq h
    exact .next (by rw [asks, perform_bind, h]; rfl) (completes a)

/-! ### The search -/

section Search

variable {s : Store} {visited queue : List AssetKey} {place a b source : AssetKey}

/-- The children of an asset are those of its links. -/
theorem mem_childKeys : b ∈ childKeys s a ↔ s.IsParentOf a b := by
  simp [childKeys, ofType, Store.linksFrom, Store.IsParentOf, and_assoc, and_left_comm]

/-- The edges that do not leave an asset that the search has left. -/
def edgesBeyond (s : Store) (visited : List AssetKey) : List (AssetKey × AssetKey) :=
  (parentChildEdges s).filter (·.1 ∉ visited)

/-- What is beyond the visited assets are the edges that start elsewhere. -/
theorem edge_edgesBeyond : Edge (edgesBeyond s visited) a b ↔ s.IsParentOf a b ∧ a ∉ visited := by
  rw [← edge_parentChildEdges]
  simp [edgesBeyond, Edge]

/-- An asset that is visited loses its edges. -/
theorem edgesBeyond_cons :
    edgesBeyond s (place :: visited) = withoutEdgesFrom (edgesBeyond s visited) place := by
  rw [edgesBeyond, edgesBeyond, withoutEdgesFrom, List.filter_filter]
  apply List.filter_congr
  simp

/-- No path leaves an asset that the search has left. -/
theorem eq_of_path_edgesBeyond (left : a ∈ visited)
    (path : ReflTransGen (Edge (edgesBeyond s visited)) a b) : a = b := by
  rcases path.cases_head with same | ⟨c, edge, _⟩
  · exact same
  · exact absurd left (edge_edgesBeyond.1 edge).2

/-- There is nothing new to be found from an asset that the search has left. -/
theorem reaches_cons_of_mem (other : place ≠ source) (left : place ∈ visited) :
    reaches source (edgesBeyond s visited) (place :: queue) =
      reaches source (edgesBeyond s visited) queue := by
  rw [Bool.eq_iff_iff, reaches_iff, reaches_iff]
  constructor
  · rintro ⟨start, queued, path⟩
    rcases List.mem_cons.1 queued with rfl | waiting
    · exact absurd (eq_of_path_edgesBeyond left path) other
    · exact ⟨start, waiting, path⟩
  · rintro ⟨start, waiting, path⟩
    exact ⟨start, List.mem_cons_of_mem _ waiting, path⟩

/-- The search goes on from the children that it has not left yet. -/
theorem reaches_cons_of_not_mem (other : place ≠ source) (unseen : source ∉ visited)
    (new : place ∉ visited) :
    reaches source (edgesBeyond s visited) (place :: queue) =
      reaches source (edgesBeyond s (place :: visited))
        (queue ++ (childKeys s place).filter (· ∉ place :: visited)) := by
  rw [reaches, decide_eq_false other, Bool.false_or, ← edgesBeyond_cons, Bool.eq_iff_iff,
    reaches_iff, reaches_iff]
  constructor
  · rintro ⟨start, queued, path⟩
    refine ⟨start, ?_, path⟩
    rcases List.mem_append.1 queued with waiting | next
    · exact List.mem_append_left _ waiting
    · refine List.mem_append_right _ (List.mem_filter.2 ⟨?_, ?_⟩)
      · exact mem_childKeys.2 (edge_edgesBeyond.1 (mem_successors.1 next)).1
      · -- From an asset that was left before only that asset is reached, and it is no target.
        simp only [decide_eq_true_eq]
        intro left
        obtain rfl := eq_of_path_edgesBeyond left path
        rcases List.mem_cons.1 left with same | before
        · exact other same.symm
        · exact unseen before
  · rintro ⟨start, queued, path⟩
    refine ⟨start, ?_, path⟩
    rcases List.mem_append.1 queued with waiting | next
    · exact List.mem_append_left _ waiting
    · refine List.mem_append_right _ (mem_successors.2 (edge_edgesBeyond.2 ⟨?_, new⟩))
      exact mem_childKeys.1 (List.mem_filter.1 next).1

/-- The search puts no more assets into the queue than it uses up edges. -/
theorem length_childKeys_le (new : place ∉ visited) :
    (edgesBeyond s (place :: visited)).length + (childKeys s place).length ≤
      (edgesBeyond s visited).length := by
  have split := length_withoutEdgesFrom_add_length_successors (edgesBeyond s visited) place
  have children : (childKeys s place).length =
      (successors (edgesBeyond s visited) place).length := by
    rw [childKeys, ofType, Store.linksFrom, List.length_map, ← List.countP_eq_length_filter,
      (List.mergeSort_perm _ _).countP_eq, List.countP_filter, successors, edgesBeyond,
      parentChildEdges, List.length_map, List.filter_filter, List.filter_map, List.length_map,
      List.filter_filter, ← List.countP_eq_length_filter]
    apply List.countP_congr
    intro l _
    by_cases leaves : l.source = place <;> simp [leaves, new]
  rw [edgesBeyond_cons]
  omega

end Search

/-- A search that is left alone finds what the search along all edges finds. -/
theorem completes_search (ready : r.access = .ready) (visited queue : List AssetKey)
    (unseen : request.source ∉ visited) :
    Completes request (.search visited queue) r
      (if reaches request.source (edgesBeyond r.store visited) queue then
        (.error .cycleDetected, r) else (storeLink request).perform r) := by
  -- The search stops at the source, skips what it has left before, and else makes the queue
  -- longer by fewer assets than it has yet to leave.
  match queue with
  | [] =>
    rw [reaches, if_neg Bool.false_ne_true]
    exact .next rfl (completes_insertion request r)
  | place :: queue =>
    by_cases found : place = request.source
    · rw [reaches, decide_eq_true found, Bool.true_or, if_pos rfl]
      refine .refused ?_
      rw [Stage.advance, if_pos found]
      rfl
    · by_cases left : place ∈ visited
      · rw [reaches_cons_of_mem found left]
        refine .next ?_ (completes_search ready visited queue unseen)
        rw [Stage.advance, if_neg found, if_pos left]
        rfl
      · rw [reaches_cons_of_not_mem found unseen left]
        have shrinks := length_childKeys_le (s := r.store) left
        have fewer := List.length_filter_le (· ∉ place :: visited) (childKeys r.store place)
        refine .next ?_ (completes_search ready (place :: visited)
          (queue ++ (childKeys r.store place).filter (· ∉ place :: visited)) ?_)
        · rw [Stage.advance, if_neg found, if_neg left, perform_query_bind ready]
          rfl
        · simp [unseen, Ne.symm found]
termination_by (edgesBeyond r.store visited).length + queue.length
decreasing_by
  · simp
  · simp only [List.length_append, List.length_cons]
    omega

/-! ### The whole creation -/

/-- From the look at related links on, a creation goes on as in one piece. -/
theorem completes_forward (type : request.relationshipType = .related) (r : Registry) :
    Completes request .forward r
      ((requireAdmissible request >>= fun _ => storeLink request).perform r) := by
  rw [requireAdmissible, type]
  show Completes _ _ _ ((requireUnrelated _ _ >>= fun _ => storeLink request).perform r)
  rw [requireUnrelated, bind_assoc]
  apply Completes.bind rfl (Reads.query _)
  intro forward
  apply Completes.bind bind_ite_throw (Reads.bind_ite_throw (Reads.query _))
  intro _
  exact completes_insertion request r

/-- From the first step of the search on, a creation goes on as in one piece. -/
theorem completes_search_first (ready : r.access = .ready) :
    Completes request (.search [] [request.target]) r
      ((requireAcyclic request.source request.target >>= fun _ =>
        storeLink request).perform r) := by
  have all : edgesBeyond r.store [] = parentChildEdges r.store := by simp [edgesBeyond]
  have search := completes_search ready [] [request.target] (List.not_mem_nil (a := request.source))
  rw [all] at search
  rw [requireAcyclic, bind_assoc, perform_query_bind ready, isAncestorOrSelf]
  split at search
  next found => rw [if_pos found]; exact search
  next lost => rw [if_neg lost]; exact search

/-- From the look at the siblings on, a creation goes on as in one piece. -/
theorem completes_siblings (type : request.relationshipType = .parentChild)
    (ready : r.access = .ready) :
    Completes request .siblings r
      ((requireAdmissible request >>= fun _ => storeLink request).perform r) := by
  rw [requireAdmissible, type]
  show Completes _ _ _ (((requireNewChild _ _ _ >>= fun _ => requireAcyclic _ _) >>= fun _ =>
    storeLink request).perform r)
  rw [requireNewChild, bind_assoc, bind_ite_throw, bind_assoc]
  apply Completes.bind bind_ite_throw (Reads.bind_ite_throw (Reads.query _))
  intro _
  apply Completes.bind bind_ite_throw (Reads.bind_ite_throw (Reads.query _))
  intro _
  exact completes_search_first ready

/-- A creation that is left alone comes to what the operation comes to. -/
theorem completes_createLink (valid : checkRequest request = .ok ()) (ready : r.access = .ready) :
    Completes request .source r ((createLink request).perform r) := by
  rw [createLink, valid, show (check (.ok ()) : Action Unit) = pure () from rfl, pure_bind]
  apply Completes.bind rfl (reads_requireEnd _ _)
  intro _
  refine Completes.bind rfl (reads_requireEnd _ _) fun _ => .next rfl ?_
  apply Completes.bind rfl (reads_requireCapacity _)
  intro _
  cases type : request.relationshipType with
  | related =>
    refine Completes.bind ?_ (reads_requireCapacity _) fun _ => completes_forward type r
    simp only [Stage.advance, type]
  | parentChild =>
    refine Completes.bind ?_ (reads_requireCapacity _) fun _ => completes_siblings type ready
    simp only [Stage.advance, type]

end AssetRegistry.Links
