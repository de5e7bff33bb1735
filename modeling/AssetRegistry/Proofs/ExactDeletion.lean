import AssetRegistry.Proofs.MetadataAnswers

/-!
# What deletions take away

The deletion of a link takes its row and its metadata, and the deletion of an asset takes its
row, the links at it and their metadata, and nothing else of the store.  A link that was taken
away is never there again, because ids are counted up and none is given out twice: whatever
operations follow, all that is asked about the link is refused.
-/

namespace AssetRegistry

open AssetRegistry.Action

/-- A check that does not pass fails. -/
theorem Action.perform_check_of_error {outcome : Except RegistryError α} {e : RegistryError}
    (failed : outcome = .error e) (r : Registry) : (check outcome).perform r = (.error e, r) := by
  rw [failed]
  rfl

/-! ### The deleted rows -/

namespace Store

/-- Only the tags of a stored link are replaced. -/
theorem setLinkTags_eq_notFound {s : Store} {assetLinkId : String} {tags : List String} :
    setLinkTags assetLinkId tags s = .error .notFound ↔ s.link? assetLinkId = none := by
  simp [setLinkTags, map_updateRows_eq_error, link?]

/-- Where keys are distinct, the rows of other keys are all rows but the one that is found. -/
theorem filter_ne_eq_erase {κ : Type} [DecidableEq κ] [DecidableEq ρ] {g : ρ → κ}
    {rows : List ρ} {row : ρ} {k : κ} (distinct : (rows.map g).Nodup)
    (found : rows.find? (g · = k) = some row) : rows.filter (g · ≠ k) = rows.erase row := by
  have member := List.mem_of_find?_eq_some found
  obtain rfl : g row = k := by simpa using List.find?_some found
  rw [(List.Nodup.of_map g distinct).erase_eq_filter row]
  apply List.filter_congr
  intro row' member'
  -- No other row has the key.
  have same : g row' = g row ↔ row' = row :=
    ⟨List.inj_on_of_nodup_map distinct member' member, congrArg g⟩
  by_cases equal : row' = row <;> simp [same, equal]

end Store

/-! ### Links that are gone -/

namespace Registry

/-- A registry refuses whatever is asked about a link of an id.  Tags and a value that are to
    replace others are checked before that. -/
structure RefusesLink (r : Registry) (assetLinkId : String) : Prop where
  getLink : (Operation.getLink assetLinkId).perform r =
    (.error (.notFound (.assetLink assetLinkId)), r)
  updateLinkTags : ∀ tags, Links.checkTags tags = .ok () →
    (Operation.updateLinkTags assetLinkId tags).perform r =
      (.error (.notFound (.assetLink assetLinkId)), r)
  invalidTags : ∀ tags e, Links.checkTags tags = .error e →
    (Operation.updateLinkTags assetLinkId tags).perform r = (.error e, r)
  deleteLink : (Operation.deleteLink assetLinkId).perform r =
    (.error (.notFound (.assetLink assetLinkId)), r)
  listMetadata : (Operation.listMetadata assetLinkId).perform r =
    (.error (.notFound (.assetLink assetLinkId)), r)
  createMetadata : ∀ row : LinkMetadata, row.assetLinkId = assetLinkId →
    (Operation.createMetadata row).perform r = (.error (.notFound (.assetLink assetLinkId)), r)
  updateMetadata : ∀ row : LinkMetadata, row.assetLinkId = assetLinkId → row.HasValidValue →
    (Operation.updateMetadata row).perform r =
      (.error (.notFound (.metadata assetLinkId row.metadataKey)), r)
  invalidValue : ∀ (row : LinkMetadata) (e : RegistryError), row.assetLinkId = assetLinkId →
    Validation.metadataValue row.metadataValue row.metadataValueType = .error e →
    (Operation.updateMetadata row).perform r = (.error e, r)
  deleteMetadata : ∀ metadataKey,
    (Operation.deleteMetadata assetLinkId metadataKey).perform r =
      (.error (.notFound (.metadata assetLinkId metadataKey)), r)

variable {linkLimit : Nat} {r r' : Registry} {l : AssetLink} {assetLinkId : String}

/-- What is asked about a link that is not stored is refused. -/
theorem refusesLink (ready : r.access = .ready) (inv : r.store.Consistent)
    (missing : r.store.link? assetLinkId = none) : r.RefusesLink assetLinkId := by
  -- Metadata does not stay behind where its link is gone.
  have noValue (metadataKey : String) : r.store.metadata? assetLinkId metadataKey = none :=
    Store.metadata?_eq_none_of_noRows (inv.ne_of_link?_eq_none missing)
  constructor
  case getLink => exact perform_map_of_error (Links.perform_getLink_of_missing ready missing) _
  case updateLinkTags =>
    intro tags valid
    have refused : Store.setLinkTags assetLinkId tags r.store = .error .notFound :=
      Store.setLinkTags_eq_notFound.2 missing
    refine perform_map_of_error ?_ _
    rw [Links.updateTags, perform_check_bind valid]
    exact perform_bind_of_error (perform_execute_of_error ready refused) _
  case invalidTags =>
    intro tags e invalid
    exact perform_map_of_error (perform_bind_of_error (perform_check_of_error invalid r) _) _
  case deleteLink =>
    exact perform_map_of_error (Links.perform_deleteLink_of_missing ready missing) _
  case listMetadata =>
    exact perform_map_of_error (Links.perform_listMetadata_of_gone ready missing) _
  case createMetadata =>
    rintro row rfl
    exact perform_map_of_error (Links.perform_createMetadata_of_gone ready missing) _
  case updateMetadata =>
    rintro row rfl valid
    exact perform_map_of_error
      (Links.perform_updateMetadata_of_missing ready valid (noValue _)) _
  case invalidValue =>
    rintro row e rfl invalid
    exact perform_map_of_error (perform_bind_of_error (perform_check_of_error invalid r) _) _
  case deleteMetadata =>
    intro metadataKey
    exact perform_map_of_error (Links.perform_deleteMetadata_of_missing ready (noValue _)) _

/-- The links of a run are known by their ids. -/
theorem Reachable.knows (reachable : r.Reachable linkLimit) (member : l ∈ r.store.links) :
    r.Knows l where
  issued := reachable.numbersLinks l member
  ends l' member' same := by
    have inv : r.store.Consistent := LeadsTo.consistent reachable .initial
    obtain rfl := List.inj_on_of_nodup_map inv.distinctLinks member' member same
    exact ⟨rfl, rfl⟩

/-- A link is known from then on. -/
theorem LeadsTo.knows (leads : r.LeadsTo r') (knows : r.Knows l) : r'.Knows l := by
  apply LeadsTo.invariant (motive := fun r => r.Knows l) leads knows
  · intro r known
    exact ⟨known.issued, known.ends⟩
  · intro r operation reply r' step known
    exact step.knows known

/-- A link that is gone stays away through a whole run. -/
theorem LeadsTo.link?_eq_none (leads : r.LeadsTo r') (knows : r.Knows l)
    (gone : r.store.link? l.assetLinkId = none) : r'.store.link? l.assetLinkId = none := by
  have both := LeadsTo.invariant
    (motive := fun r => r.Knows l ∧ r.store.link? l.assetLinkId = none) leads ⟨knows, gone⟩
    (fun _ ⟨known, gone⟩ => ⟨⟨known.issued, known.ends⟩, gone⟩) fun _ _ _ _ step ⟨known, gone⟩ =>
      ⟨step.knows known, step.link?_eq_none known gone⟩
  exact both.2

end Registry

/-- On any store, the deletion of a stored link takes away the link and the metadata of the
    link, and the deletion of a stored asset takes away the asset, the links that have it at
    either end and the metadata of these links, and tells how many links these are.  The other
    rows of all tables stay as they are and in their order; only the clock goes on.  Where keys
    are distinct, it is one row that goes from the table of the link or of the asset.  In a run,
    a link that was stored and then taken away is not found in any later registry: all
    operations on it or on its metadata answer that it is not there, or that the value or the
    tags to put in place of others are not valid. -/
theorem deletions_exact_and_final :
    (∀ (r : Registry) (assetLinkId : String) (l : AssetLink), r.access = .ready →
      r.store.link? assetLinkId = some l →
      (Operation.deleteLink assetLinkId).perform r =
        (.ok .done, r.wrote
          { r.store with
            links := r.store.links.filter (·.assetLinkId ≠ assetLinkId)
            metadata := r.store.metadata.filter (·.assetLinkId ≠ assetLinkId) }) ∧
      (r.store.linkIds.Nodup →
        r.store.links.filter (·.assetLinkId ≠ assetLinkId) = r.store.links.erase l)) ∧
    (∀ (r : Registry) (key : AssetKey) (a : Asset), r.access = .ready →
      r.store.asset? key = some a →
      (Operation.deleteAsset key).perform r =
        (.ok (.count (r.store.links.filter (·.touches key)).length), r.wrote
          { r.store with
            assets := r.store.assets.filter (·.key ≠ key)
            links := r.store.links.filter (!·.touches key)
            metadata := r.store.metadata.filter fun m =>
              !(r.store.links.filter (·.touches key)).any (·.assetLinkId = m.assetLinkId) }) ∧
      (r.store.assetKeys.Nodup →
        r.store.assets.filter (·.key ≠ key) = r.store.assets.erase a)) ∧
    ∀ (linkLimit : Nat) (r r₁ r₂ : Registry) (l : AssetLink), r.Reachable linkLimit →
      l ∈ r.store.links → r.LeadsTo r₁ → r₁.store.link? l.assetLinkId = none → r₁.LeadsTo r₂ →
      r₂.RefusesLink l.assetLinkId := by
  refine ⟨?_, ?_, ?_⟩
  · intro r assetLinkId l ready stored
    constructor
    · have deleted := Links.perform_deleteLink_of_stored ready (Option.isSome_of_eq_some stored)
      exact map_eq_ok.2 ⟨_, deleted, rfl⟩
    · intro distinct
      exact Store.filter_ne_eq_erase distinct stored
  · intro r key a ready stored
    constructor
    · have deleted := Catalog.perform_deleteAsset_of_stored ready (Option.isSome_of_eq_some stored)
      exact map_eq_ok.2 ⟨_, deleted, rfl⟩
    · intro distinct
      exact Store.filter_ne_eq_erase distinct stored
  · intro linkLimit r r₁ r₂ l reachable member leads gone further
    -- The id was given out, so that no later link can get it.
    have knows : r₁.Knows l := leads.knows (reachable.knows member)
    have reachable₂ : r₂.Reachable linkLimit := (reachable.trans leads).trans further
    exact Registry.refusesLink reachable₂.ready (Registry.LeadsTo.consistent reachable₂ .initial)
      (further.link?_eq_none knows gone)

/-- The hall of a plant goes with its two links and the weight of the first one, which also
    goes with that link alone.  Another link is made after the hall is gone, and the first one
    is still not there. -/
theorem deletions_exact_and_final_plant :
    (∃ r, (Operation.deleteAsset ⟨"plant", "hall"⟩).perform Registry.plant = (.ok (.count 2), r) ∧
      r.store.links = Registry.plant.store.links.drop 2 ∧ r.store.metadata = [] ∧
      r.store.executions = Registry.plant.store.executions) ∧
    (∃ r, (Operation.deleteLink "link-1").perform Registry.plant = (.ok .done, r) ∧
      r.store.links = Registry.plant.store.links.drop 1 ∧ r.store.metadata = []) ∧
    (Batch.performAll
      [ .deleteAsset ⟨"plant", "hall"⟩,
        .createLink ⟨"plant", "press", "plant", "motor", .related, none, []⟩ ]
      Registry.plant).2.RefusesLink "link-1" := by
  obtain ⟨links, assets, final⟩ := deletions_exact_and_final
  have named : Registry.pressLink.assetLinkId = "link-1" := by decide +kernel
  refine ⟨?_, ?_, ?_⟩
  · have deleted := (assets Registry.plant ⟨"plant", "hall"⟩
      (Catalog.newAsset "plant" { assetId := "hall", assetName := "Hall" } (.reading 0 1))
      Registry.reachable_plant.ready (by decide +kernel)).1
    have two : (Registry.plant.store.links.filter (·.touches ⟨"plant", "hall"⟩)).length = 2 := by
      decide +kernel
    rw [two] at deleted
    exact ⟨_, deleted, by decide +kernel, by decide +kernel, rfl⟩
  · have deleted := (links Registry.plant "link-1" Registry.pressLink
      Registry.reachable_plant.ready (by decide +kernel)).1
    exact ⟨_, deleted, by decide +kernel, by decide +kernel⟩
  · have gone := final 3 Registry.plant
      ((Operation.deleteAsset ⟨"plant", "hall"⟩).perform Registry.plant).2 _ Registry.pressLink
      Registry.reachable_plant (by decide +kernel) (.single (.perform _)) (by decide +kernel)
      (Registry.LeadsTo.performAll
        [.createLink ⟨"plant", "press", "plant", "motor", .related, none, []⟩] _)
    rwa [named] at gone

end AssetRegistry
