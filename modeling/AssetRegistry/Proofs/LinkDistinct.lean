import AssetRegistry.Proofs.Frame
import AssetRegistry.Proofs.StoreConsistent

/-!
# No link repeats another one

The store knows a link by its name alone, so it would keep any number of links that say
the same.  It is the creation of a link that compares it with the links between the same
two assets, in both directions for a related link and in its own one, alias by alias, for
a parent-child link.  Deleting links and changing tags cannot make two links alike.
-/

namespace AssetRegistry

namespace AssetLink

/-- Whether a link is between two assets, in whatever direction. -/
def joins (l : AssetLink) (a b : AssetKey) : Bool :=
  (l.source = a && l.target = b) || (l.source = b && l.target = a)

/-- Two links say the same where both relate the same two assets, or where both make an
    asset the child of the same parent under the same alias. -/
def Repeats (l l' : AssetLink) : Prop :=
  (l.relationshipType = .related ∧ l'.relationshipType = .related ∧
    l'.joins l.source l.target) ∨
  (l.relationshipType = .parentChild ∧ l'.relationshipType = .parentChild ∧
    l.source = l'.source ∧ l.target = l'.target ∧ l.assetLinkAliasId = l'.assetLinkAliasId)

/-- Of two links that are between the same assets, each is so as seen from the other. -/
theorem joins_of_joins {l l' : AssetLink} {a b : AssetKey} (joins : l.joins a b)
    (joins' : l'.joins a b) : l'.joins l.source l.target := by
  simp only [AssetLink.joins, Bool.or_eq_true, Bool.and_eq_true, decide_eq_true_eq] at *
  rcases joins with ⟨rfl, rfl⟩ | ⟨rfl, rfl⟩
  · exact joins'
  · exact joins'.symm

end AssetLink

namespace Store

variable {s s' : Store}

/-- Links are between different assets, have no blank alias and do not repeat each
    other. -/
structure HasDistinctLinks (s : Store) : Prop where
  apart : ∀ l ∈ s.links, l.source ≠ l.target
  named : ∀ l ∈ s.links, ∀ text, l.assetLinkAliasId = some text → Text.isAllBlank text = false
  distinct : s.links.Pairwise fun l l' => ¬l.Repeats l'

namespace HasDistinctLinks

/-- The first store has no links to be confused. -/
theorem initial : HasDistinctLinks .initial := by
  constructor <;> simp [Store.initial]

/-- Links that are left after a removal are as distinct as before. -/
theorem of_sublist (inv : s.HasDistinctLinks) (fewer : s'.links.Sublist s.links) :
    s'.HasDistinctLinks where
  apart l member := inv.apart l (fewer.subset member)
  named l member := inv.named l (fewer.subset member)
  distinct := inv.distinct.sublist fewer

/-- Tags are no part of what a link says. -/
theorem setLinkTags (inv : s.HasDistinctLinks) {assetLinkId : String} {tags : List String}
    (ran : Store.setLinkTags assetLinkId tags s = .ok ((), s')) : s'.HasDistinctLinks := by
  obtain ⟨_, rfl⟩ := setLinkTags_eq_ok.1 ran
  constructor
  · exact forall_mem_changeRows (fun _ apart => apart) inv.apart
  · exact forall_mem_changeRows (fun _ named => named) inv.named
  · show (changeRows s.links _ _).Pairwise _
    rw [changeRows, List.pairwise_map]
    apply inv.distinct.imp
    intro l l' apart repeats
    apply apart
    split at repeats <;> split at repeats <;> exact repeats

/-- A new link that says something new keeps the links distinct. -/
theorem insertLink (inv : s.HasDistinctLinks) {row l : AssetLink}
    (apart : row.source ≠ row.target)
    (named : ∀ text, row.assetLinkAliasId = some text → Text.isAllBlank text = false)
    (new : ∀ l ∈ s.links, ¬l.Repeats row)
    (ran : Store.insertLink row s = .ok (l, s')) : s'.HasDistinctLinks := by
  obtain ⟨_, _, rfl⟩ := insertLink_eq_ok.1 ran
  refine ⟨forall_mem_append_singleton inv.apart apart,
    forall_mem_append_singleton inv.named named, ?_⟩
  show (s.links ++ [row]).Pairwise _
  rw [List.pairwise_append]
  refine ⟨inv.distinct, List.pairwise_singleton _ _, fun l member l' new' => ?_⟩
  rw [List.mem_singleton.1 new']
  exact new l member

end HasDistinctLinks

end Store

/-! ### Creation -/

namespace Links

variable {request : NewAssetLink} {s : Store} {id : String} {now : Moment}

/-- A request that passes its own checks is for two different assets. -/
theorem source_ne_target_of_checkRequest (valid : checkRequest request = .ok ()) :
    request.source ≠ request.target := by
  intro same
  simp only [checkRequest, Validation.bind_eq_ok, if_pos same] at valid
  obtain ⟨_, _, _, _, _, _, _, _, _, _, _, _, refused⟩ := valid
  exact nomatch refused

/-- A blank alias is no alias. -/
theorem isAllBlank_of_alias?_eq_some {text : String} (found : request.alias? = some text) :
    Text.isAllBlank text = false := by
  simpa using (Option.filter_eq_some_iff.1 found).2

/-- A link that the links between its assets admit repeats none of them. -/
theorem Admits.not_repeats (admits : Admits s request) :
    ∀ l ∈ s.links, ¬l.Repeats (newLink request id now) := by
  rintro l member (⟨isLink, type, joins⟩ | ⟨isLink, type, source, target, sameAlias⟩)
  · -- The other link is found in the direction that it has.
    obtain ⟨forward, backward⟩ := admits.unrelated type
    simp only [Store.linksBetween, List.filter_eq_nil_iff, Bool.and_eq_true,
      decide_eq_true_eq] at forward backward
    simp only [AssetLink.joins, Bool.or_eq_true, Bool.and_eq_true, decide_eq_true_eq] at joins
    rcases joins with ⟨source, target⟩ | ⟨source, target⟩
    · exact forward l member ⟨⟨source.symm, target.symm⟩, isLink⟩
    · exact backward l member ⟨⟨target.symm, source.symm⟩, isLink⟩
  · have between : l ∈ s.linksBetween request.source request.target .parentChild := by
      simp only [Store.linksBetween, List.mem_filter, Bool.and_eq_true, decide_eq_true_eq]
      exact ⟨member, ⟨source, target⟩, isLink⟩
    exact admits.newAlias type l between sameAlias

/-- The creation of a link asks for its alias only where that is not blank. -/
theorem createLink_congr_alias? (request : NewAssetLink) {text? : Option String}
    (same : ({ request with assetLinkAliasId := text? } : NewAssetLink).alias? = request.alias?) :
    createLink { request with assetLinkAliasId := text? } = createLink request := by
  unfold createLink checkRequest requireAdmissible storeLink newLink
  rw [same]
  rfl

/-- A blank alias makes the same link as none. -/
theorem createLink_blank_alias {text : String} (blank : Text.isAllBlank text) :
    createLink { request with assetLinkAliasId := some text } =
      createLink { request with assetLinkAliasId := none } :=
  createLink_congr_alias? { request with assetLinkAliasId := none }
    (by simp [NewAssetLink.alias?, blank])

end Links

/-! ### Runs -/

/-- An operation makes no link that repeats another one. -/
theorem Operation.Step.hasDistinctLinks {operation : Operation} {reply : Reply} {r r' : Registry}
    (step : Step r operation reply r') (inv : r.store.HasDistinctLinks) :
    r'.store.HasDistinctLinks := by
  rcases step.links_cases with fewer | ⟨_, _, ran⟩ | ⟨request, _, _, accepted, ran⟩
  · exact inv.of_sublist fewer
  · exact inv.setLinkTags ran
  · refine inv.insertLink ?_ ?_ accepted.admits.not_repeats ran
    · exact Links.source_ne_target_of_checkRequest accepted.valid
    · exact fun _ found => Links.isAllBlank_of_alias?_eq_some found

/-- In every registry links are told apart. -/
theorem Registry.Reachable.hasDistinctLinks {linkLimit : Nat} {r : Registry}
    (reachable : r.Reachable linkLimit) : r.store.HasDistinctLinks := by
  apply reachable.invariant (motive := Store.HasDistinctLinks) .initial
  intro r operation reply r' step inv
  exact step.hasDistinctLinks inv

/-- Where no two rows are alike, at most one is as it takes to be alike. -/
theorem countP_le_one_of_pairwise {rows : List ρ} {alike : ρ → ρ → Prop} {chosen : ρ → Bool}
    (distinct : rows.Pairwise fun row row' => ¬alike row row')
    (chosenAlike : ∀ row row', chosen row → chosen row' → alike row row') :
    rows.countP chosen ≤ 1 := by
  induction distinct with
  | nil => exact Nat.zero_le 1
  | @cons row rows apart _ ih =>
    cases h : chosen row with
    | false => simpa [h] using ih
    | true =>
      -- The other rows differ from a chosen one, so none of them is chosen.
      have others : rows.countP chosen = 0 :=
        List.countP_eq_zero.2 fun row' member h' => apart row' member (chosenAlike row row' h h')
      simp [h, others]

/-- In every registry that operations lead to, at any limit of links, no link joins an asset
    to itself, two assets have one related link at most, whatever its direction, and one
    parent-child link at most from the one to the other under an alias or under none, and no
    alias is blank.  A request with a blank alias is answered in every registry, and leaves
    it, as the request without an alias. -/
theorem links_distinct {linkLimit : Nat} {r : Registry} (reachable : r.Reachable linkLimit) :
    (∀ l ∈ r.store.links, l.source ≠ l.target) ∧
    (∀ a b, r.store.links.countP (fun l => l.relationshipType = .related && l.joins a b) ≤ 1) ∧
    (∀ a b text?, (r.store.linksBetween a b .parentChild).countP
      (fun l => l.assetLinkAliasId = text?) ≤ 1) ∧
    (∀ l ∈ r.store.links, ∀ text, l.assetLinkAliasId = some text →
      Text.isAllBlank text = false) ∧
    ∀ (r' : Registry) (request : NewAssetLink) (blank : String), Text.isAllBlank blank →
      (Operation.createLink { request with assetLinkAliasId := some blank }).perform r' =
        (Operation.createLink { request with assetLinkAliasId := none }).perform r' := by
  have inv := reachable.hasDistinctLinks
  -- Both counts are of links that the invariant keeps apart in pairs.
  refine ⟨inv.apart, fun a b => ?_, fun a b text? => ?_, inv.named, ?_⟩
  · apply countP_le_one_of_pairwise inv.distinct
    intro l l' chosen chosen'
    simp only [Bool.and_eq_true, decide_eq_true_eq] at chosen chosen'
    exact .inl ⟨chosen.1, chosen'.1, AssetLink.joins_of_joins chosen.2 chosen'.2⟩
  · rw [Store.linksBetween, List.countP_filter]
    apply countP_le_one_of_pairwise inv.distinct
    intro l l' chosen chosen'
    simp only [Bool.and_eq_true, decide_eq_true_eq] at chosen chosen'
    obtain ⟨sameAlias, ⟨source, target⟩, isLink⟩ := chosen
    obtain ⟨sameAlias', ⟨source', target'⟩, isLink'⟩ := chosen'
    exact .inr ⟨isLink, isLink', source.trans source'.symm, target.trans target'.symm,
      sameAlias.trans sameAlias'.symm⟩
  · intro r' request blank allBlank
    show (Reply.link <$> Links.createLink _).perform r' =
      (Reply.link <$> Links.createLink _).perform r'
    rw [Links.createLink_blank_alias allBlank]

/-- The hall of a plant holds its press under one alias and under none, and a request with a
    blank alias is refused there as a second one without an alias. -/
theorem links_distinct_plant :
    (Registry.plant.store.linksBetween ⟨"plant", "hall"⟩ ⟨"plant", "press"⟩ .parentChild).map
        (·.assetLinkAliasId) = [none, some "spare"] ∧
      (Registry.plant.store.linksBetween ⟨"plant", "hall"⟩ ⟨"plant", "press"⟩
        .parentChild).countP (fun l => l.assetLinkAliasId = none) ≤ 1 ∧
      ((Operation.createLink
          ⟨"plant", "hall", "plant", "press", .parentChild, some " ", []⟩).perform
            Registry.plant).1 =
        ((Operation.createLink
          ⟨"plant", "hall", "plant", "press", .parentChild, none, []⟩).perform
            Registry.plant).1 := by
  obtain ⟨_, _, oneAlias, _, blankAlias⟩ := links_distinct Registry.reachable_plant
  refine ⟨by decide +kernel, oneAlias _ _ _, ?_⟩
  exact congrArg Prod.fst (blankAlias Registry.plant
    ⟨"plant", "hall", "plant", "press", .parentChild, none, []⟩ " " (by decide +kernel))

end AssetRegistry
