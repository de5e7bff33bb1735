import AssetRegistry.Proofs.LinkDistinct

/-!
# How many links an asset has

No asset gets more links than the limit, because a link is stored only while both of its
assets have room for one more.  The store counts the links at an asset in one go, and a
listing of the asset goes through those that leave it and those that come to it, by
relationship and by what is visible.  Both come to the same number, since no link leaves
the asset that it comes to.
-/

namespace AssetRegistry

/-! ### Listings -/

namespace Links

variable {s : Store}

/-- Of each link the other end is visible or not. -/
theorem length_visible_add_hiddenCount (s : Store) (other : AssetLink → AssetKey)
    (links : List AssetLink) :
    (visible s other links).length + hiddenCount s other links = links.length := by
  induction links with
  | nil => rfl
  | cons link links ih =>
    simp only [visible, hiddenCount] at ih ⊢
    cases shown : s.activeAsset? (other link) with
    | none =>
      rw [List.filterMap_cons_none (by simp [shown]), List.countP_cons_of_pos (by simp [shown]),
        List.length_cons]
      omega
    | some a =>
      rw [List.filterMap_cons_some (by rw [shown]; rfl),
        List.countP_cons_of_neg (by simp [shown]), List.length_cons, List.length_cons]
      omega

/-- Each link is of the one relationship or of the other. -/
theorem length_ofType_add_length_ofType (links : List AssetLink) :
    (ofType .related links).length + (ofType .parentChild links).length = links.length := by
  induction links with
  | nil => rfl
  | cons link links ih =>
    simp only [ofType] at ih ⊢
    cases type : link.relationshipType <;> simp [type] <;> omega

/-- A flat listing shows or counts every link that leaves the asset and every link that
    comes to it. -/
theorem length_linksAt (s : Store) (key : AssetKey) :
    (linksAt s key false).related.length + (linksAt s key false).parents.length +
        (linksAt s key false).children.length + (hiddenAt s key).related +
        (hiddenAt s key).parents + (hiddenAt s key).children =
      (s.linksFrom key).length + (s.linksTo key).length := by
  -- Links of one type are shown or hidden, and a link is of one of two types.
  have leaving := length_ofType_add_length_ofType (s.linksFrom key)
  have coming := length_ofType_add_length_ofType (s.linksTo key)
  have related :=
    length_visible_add_hiddenCount s AssetLink.target (ofType .related (s.linksFrom key))
  have related' :=
    length_visible_add_hiddenCount s AssetLink.source (ofType .related (s.linksTo key))
  have parents :=
    length_visible_add_hiddenCount s AssetLink.source (ofType .parentChild (s.linksTo key))
  have children :=
    length_visible_add_hiddenCount s AssetLink.target (ofType .parentChild (s.linksFrom key))
  have direct : (linksAt s key false).children.length =
      (visible s AssetLink.target (ofType .parentChild (s.linksFrom key))).length := rfl
  -- A flat listing has the related links of both directions in one bucket.
  simp only [linksAt, hiddenAt, List.length_append] at direct ⊢
  omega

/-- A stored asset is answered with its listing in the store. -/
theorem perform_listLinks {r : Registry} (ready : r.access = .ready) {key : AssetKey} {a : Asset}
    (there : r.store.asset? key = some a) (childTreeView : Bool) :
    (listLinks key childTreeView).perform r = (.ok (linksAt r.store key childTreeView), r) := by
  have listed : (requireListed key).perform r = (.ok (), r) := by
    rw [requireListed, Action.perform_query_bind ready, there]
    rfl
  rw [listLinks, Action.perform_bind, listed]
  exact Action.query_eq_ok.2 ⟨ready, rfl, rfl⟩

end Links

/-! ### Counts -/

namespace Store

variable {s s' : Store}

/-- Where no link is from an asset to itself, each link at an asset leaves it or comes to
    it. -/
theorem linkCount_eq (apart : ∀ l ∈ s.links, l.source ≠ l.target) (key : AssetKey) :
    s.linkCount key = (s.linksFrom key).length + (s.linksTo key).length := by
  rw [linkCount, linksFrom, linksTo, List.length_mergeSort, List.length_mergeSort,
    ← List.countP_eq_length_filter, ← List.countP_eq_length_filter]
  generalize s.links = links at apart
  induction links with
  | nil => rfl
  | cons l links ih =>
    have ih := ih fun l' member => apart l' (List.mem_cons_of_mem _ member)
    have apart := apart l List.mem_cons_self
    rw [List.countP_cons, List.countP_cons, List.countP_cons]
    -- A link that both leaves the asset and comes to it would be counted once, but there is none.
    by_cases leaves : l.source = key
    · have stays : l.target ≠ key := fun comes => apart (leaves.trans comes.symm)
      simp [AssetLink.touches, leaves, stays] at ih ⊢
      omega
    · simp [AssetLink.touches, leaves] at ih ⊢
      omega

/-- No asset has more links than a limit. -/
def KeepsLimit (s : Store) (limit : Nat) : Prop :=
  ∀ key, s.linkCount key ≤ limit

variable {limit : Nat}

/-- Fewer links keep the limit. -/
theorem KeepsLimit.of_links_sublist (kept : s.KeepsLimit limit)
    (fewer : s'.links.Sublist s.links) : s'.KeepsLimit limit :=
  fun key => Nat.le_trans fewer.countP_le (kept key)

/-- Tags do not tell what a link is at. -/
theorem KeepsLimit.setLinkTags (kept : s.KeepsLimit limit) {assetLinkId : String}
    {tags : List String} (ran : Store.setLinkTags assetLinkId tags s = .ok ((), s')) :
    s'.KeepsLimit limit := by
  obtain ⟨_, rfl⟩ := setLinkTags_eq_ok.1 ran
  intro key
  refine Nat.le_trans (Nat.le_of_eq ?_) (kept key)
  show (changeRows s.links _ _).countP _ = s.links.countP _
  rw [changeRows, List.countP_map]
  apply List.countP_congr
  intro l _
  simp only [Function.comp_apply]
  split <;> rfl

/-- A new link takes up room at its two ends only. -/
theorem KeepsLimit.insertLink (kept : s.KeepsLimit limit) {row l : AssetLink}
    (sourceRoom : s.linkCount row.source < limit) (targetRoom : s.linkCount row.target < limit)
    (ran : Store.insertLink row s = .ok (l, s')) : s'.KeepsLimit limit := by
  obtain ⟨_, _, rfl⟩ := insertLink_eq_ok.1 ran
  intro key
  show (s.links ++ [row]).countP (·.touches key) ≤ limit
  rw [List.countP_append, List.countP_singleton]
  have before := kept key
  rw [linkCount] at before sourceRoom targetRoom
  -- The two counts were below the limit, and the row adds one to them at most.
  by_cases here : row.touches key
  · rw [if_pos here]
    rw [AssetLink.touches, Bool.or_eq_true, decide_eq_true_eq, decide_eq_true_eq] at here
    rcases here with rfl | rfl
    · exact sourceRoom
    · exact targetRoom
  · rw [if_neg here]
    exact before

end Store

/-! ### Runs -/

/-- No step changes the limit. -/
theorem Operation.Step.linkLimit_eq {operation : Operation} {reply : Reply} {r r' : Registry}
    (step : Step r operation reply r') : r'.linkLimit = r.linkLimit := by
  cases step <;> rfl

/-- An operation stores a link only where there is room for it. -/
theorem Operation.Step.keepsLimit {operation : Operation} {reply : Reply} {r r' : Registry}
    (step : Step r operation reply r') (kept : r.store.KeepsLimit r.linkLimit) :
    r'.store.KeepsLimit r.linkLimit := by
  rcases step.links_cases with fewer | ⟨_, _, ran⟩ | ⟨request, _, _, accepted, ran⟩
  · exact kept.of_links_sublist fewer
  · exact kept.setLinkTags ran
  · refine kept.insertLink ?_ ?_ ran
    · exact accepted.sourceRoom
    · exact accepted.targetRoom

namespace Registry.Reachable

variable {linkLimit : Nat} {r : Registry}

/-- The limit of a run stays what it is, and no asset gets past it. -/
theorem linkLimit_eq_and_keepsLimit (reachable : r.Reachable linkLimit) :
    r.linkLimit = linkLimit ∧ r.store.KeepsLimit linkLimit := by
  apply LeadsTo.invariant
    (motive := fun r => r.linkLimit = linkLimit ∧ r.store.KeepsLimit linkLimit) reachable
  · have empty : Store.initial.KeepsLimit linkLimit := fun _ => Nat.zero_le _
    exact ⟨rfl, empty⟩
  · intro r kept
    exact kept
  · rintro r operation reply r' step ⟨rfl, kept⟩
    exact ⟨step.linkLimit_eq, step.keepsLimit kept⟩

/-- A flat listing accounts for as many links as the store counts. -/
theorem length_linksAt_eq_linkCount (reachable : r.Reachable linkLimit) (key : AssetKey) :
    (Links.linksAt r.store key false).related.length +
        (Links.linksAt r.store key false).parents.length +
        (Links.linksAt r.store key false).children.length +
        (Links.hiddenAt r.store key).related + (Links.hiddenAt r.store key).parents +
        (Links.hiddenAt r.store key).children = r.store.linkCount key := by
  rw [Links.length_linksAt, Store.linkCount_eq reachable.hasDistinctLinks.apart]

end Registry.Reachable

/-- In every registry that operations lead to, no asset is at the ends of more links than the
    limit, whatever that is.  A call that counts the links of an asset answers with their
    number, and so many links are shown or counted in the flat listing of an asset that is
    stored. -/
theorem link_limit_kept {linkLimit : Nat} {r : Registry} (reachable : r.Reachable linkLimit)
    (key : AssetKey) :
    (r.store.links.filter (·.touches key)).length ≤ linkLimit ∧
    (StoreCall.countLinks key).perform r =
      (.ok (.count (r.store.links.filter (·.touches key)).length), r) ∧
    ∀ a, r.store.asset? key = some a →
      ∃ listing children, (Links.listLinks key false).perform r = (.ok listing, r) ∧
        listing.children = .flat children ∧
        listing.related.length + listing.parents.length + children.length +
          listing.hidden.related + listing.hidden.parents + listing.hidden.children =
            (r.store.links.filter (·.touches key)).length := by
  rw [← List.countP_eq_length_filter]
  refine ⟨reachable.linkLimit_eq_and_keepsLimit.2 key, ?_, fun a there => ?_⟩
  · exact Prod.ext (StoreCall.read_eq_ok.2 ⟨reachable.ready, rfl⟩) rfl
  · exact ⟨_, _, Links.perform_listLinks reachable.ready there false, rfl,
      reachable.length_linksAt_eq_linkCount key⟩

/-- The press of a plant has all the three links that it may have there. -/
theorem link_limit_kept_plant :
    (Registry.plant.store.links.filter (·.touches ⟨"plant", "press"⟩)).length = 3 ∧
      (Registry.plant.store.links.filter (·.touches ⟨"plant", "press"⟩)).length ≤ 3 ∧
      (StoreCall.countLinks ⟨"plant", "press"⟩).perform Registry.plant =
        (.ok (.count (Registry.plant.store.links.filter
          (·.touches ⟨"plant", "press"⟩)).length), Registry.plant) := by
  obtain ⟨atMost, counted, _⟩ := link_limit_kept Registry.reachable_plant ⟨"plant", "press"⟩
  exact ⟨by decide +kernel, atMost, counted⟩

end AssetRegistry
