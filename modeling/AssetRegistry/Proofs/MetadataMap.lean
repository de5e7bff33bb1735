import AssetRegistry.Proofs.Repetition
import AssetRegistry.Proofs.StoreFailure
import Mathlib.Logic.Function.Basic

/-!
# The metadata of a link as a map

A link carries a map from keys to values with types.  `Operation.edit` says what an
operation makes of the map without looking at a store: it is written to under the link's own
id only, and it goes with the link or with an asset at one of its ends.  What a step makes
of the stored rows of a link is what the operation makes of their map.
-/

namespace AssetRegistry

open AssetRegistry.Action

/-! ### Maps -/

/-- The value and the type under each key that has one. -/
abbrev Entries : Type :=
  String → Option (String × ValueType)

namespace Entries

/-- No key has a value. -/
def empty : Entries :=
  fun _ => none

/-- The map with a value under its key. -/
def set (entries : Entries) (row : LinkMetadata) : Entries :=
  Function.update entries row.metadataKey (some (row.metadataValue, row.metadataValueType))

/-- The map without a key. -/
def erase (entries : Entries) (metadataKey : String) : Entries :=
  Function.update entries metadataKey none

end Entries

namespace LinkMetadata

/-- The key is one that a value may have. -/
abbrev HasValidKey (row : LinkMetadata) : Prop :=
  Validation.metadataKey row.metadataKey = .ok ()

/-- The value is one of its type. -/
abbrev HasValidValue (row : LinkMetadata) : Prop :=
  Validation.metadataValue row.metadataValue row.metadataValueType = .ok ()

end LinkMetadata

/-- What an operation makes of the map of a link.  `none` means that the map is discarded. -/
def Operation.edit (link : AssetLink) (entries : Entries) : Operation → Option Entries
  | .createMetadata row =>
    if row.assetLinkId = link.assetLinkId ∧ row.HasValidKey ∧ row.HasValidValue ∧
        (entries row.metadataKey).isNone then
      some (entries.set row)
    else some entries
  | .updateMetadata row =>
    if row.assetLinkId = link.assetLinkId ∧ row.HasValidValue ∧
        (entries row.metadataKey).isSome then
      some (entries.set row)
    else some entries
  | .deleteMetadata assetLinkId metadataKey =>
    if assetLinkId = link.assetLinkId then some (entries.erase metadataKey) else some entries
  | .deleteLink assetLinkId => if assetLinkId = link.assetLinkId then none else some entries
  | .deleteAsset key => if link.touches key then none else some entries
  | _ => some entries

/-- What operations in turn make of the map of a link. -/
def Entries.after (link : AssetLink) (entries : Entries) (operations : List Operation) :
    Option Entries :=
  operations.foldlM (Operation.edit link) entries

/-! ### Rows of a link -/

namespace Store

variable {s s' : Store} {assetLinkId metadataKey : String}

/-- The map that the stored rows of a link are. -/
def entries (s : Store) (assetLinkId : String) : Entries :=
  fun metadataKey => (s.metadata? assetLinkId metadataKey).map fun m =>
    (m.metadataValue, m.metadataValueType)

/-- The map of a stored link. -/
def entries? (s : Store) (assetLinkId : String) : Option Entries :=
  (s.link? assetLinkId).map fun _ => s.entries assetLinkId

/-- Metadata is stored for stored links only. -/
theorem Consistent.ne_of_link?_eq_none (inv : s.Consistent) (missing : s.link? assetLinkId = none) :
    ∀ m ∈ s.metadata, m.assetLinkId ≠ assetLinkId := by
  rintro m member rfl
  exact find?_eq_none_iff_notMem_keys.1 missing (inv.metadataLink m member)

/-- Where a link has no rows, no key of it is found. -/
theorem metadata?_eq_none_of_noRows (noRows : ∀ m ∈ s.metadata, m.assetLinkId ≠ assetLinkId) :
    s.metadata? assetLinkId metadataKey = none := by
  rw [metadata?, List.find?_eq_none]
  intro m member found
  simp only [Bool.and_eq_true, decide_eq_true_eq] at found
  exact noRows m member found.1

/-- The map has a key where a row of it is found. -/
theorem isSome_entries :
    (s.entries assetLinkId metadataKey).isSome ↔ (s.metadata? assetLinkId metadataKey).isSome := by
  rw [entries, Option.isSome_map]

/-- The map does not have a key where no row of it is found. -/
theorem not_isSome_entries :
    ¬ (s.entries assetLinkId metadataKey).isSome ↔ s.metadata? assetLinkId metadataKey = none := by
  rw [isSome_entries, Option.not_isSome_iff_eq_none]

/-- The map is free at a key where no row of it is found. -/
theorem isNone_entries :
    (s.entries assetLinkId metadataKey).isNone ↔ s.metadata? assetLinkId metadataKey = none := by
  rw [entries, Option.isNone_map, Option.isNone_iff_eq_none]

/-- A stored link has the map of its rows. -/
theorem entries?_eq_some {entries : Entries} :
    s.entries? assetLinkId = some entries ↔
      (∃ l, s.link? assetLinkId = some l) ∧ s.entries assetLinkId = entries := by
  simp [entries?]

/-- A link that is not stored has no map. -/
theorem entries?_eq_none : s.entries? assetLinkId = none ↔ s.link? assetLinkId = none := by
  simp [entries?]

/-- What neither adds or removes the link nor writes to its rows leaves its map. -/
theorem entries?_congr
    (links : (s'.link? assetLinkId).isSome = (s.link? assetLinkId).isSome)
    (rows : ∀ metadataKey, s'.metadata? assetLinkId metadataKey =
      s.metadata? assetLinkId metadataKey) :
    s'.entries? assetLinkId = s.entries? assetLinkId := by
  have same : s'.entries assetLinkId = s.entries assetLinkId := by
    funext metadataKey
    rw [entries, entries, rows]
  unfold entries?
  rw [same]
  cases before : s.link? assetLinkId <;> cases after : s'.link? assetLinkId <;>
    simp_all

/-- A new row is found under its own key, and nothing else changes. -/
theorem metadata?_of_insertMetadata {row : LinkMetadata}
    (ran : insertMetadata row s = .ok ((), s')) :
    s'.metadata? assetLinkId metadataKey =
      if row.assetLinkId = assetLinkId ∧ row.metadataKey = metadataKey then some row
      else s.metadata? assetLinkId metadataKey := by
  obtain ⟨free, _, rfl⟩ := insertMetadata_eq_ok.1 ran
  rw [metadata?, List.find?_append]
  split
  case isTrue same =>
    obtain ⟨rfl, rfl⟩ := same
    rw [metadata?] at free
    simp [free]
  case isFalse other =>
    have apart : (row.assetLinkId = assetLinkId && row.metadataKey = metadataKey) = false := by
      simpa using other
    simp [apart, metadata?]

/-- A changed row is found with its new value, and nothing else changes. -/
theorem metadata?_of_setMetadata {row : LinkMetadata} (ran : setMetadata row s = .ok ((), s')) :
    s'.metadata? assetLinkId metadataKey =
      (s.metadata? assetLinkId metadataKey).map fun m =>
        if m.assetLinkId = row.assetLinkId && m.metadataKey = row.metadataKey then
          { m with
            metadataValue := row.metadataValue
            metadataValueType := row.metadataValueType }
        else m := by
  obtain ⟨_, rfl⟩ := setMetadata_eq_ok.1 ran
  exact find?_changeRows fun _ => rfl

/-- What is found under other keys does not change with a deletion. -/
theorem metadata?_of_deleteMetadata_of_other {removedLink removedKey : String}
    (ran : deleteMetadata removedLink removedKey s = .ok ((), s'))
    (other : ¬ (removedLink = assetLinkId ∧ removedKey = metadataKey)) :
    s'.metadata? assetLinkId metadataKey = s.metadata? assetLinkId metadataKey := by
  obtain ⟨_, rfl⟩ := deleteMetadata_eq_ok.1 ran
  refine find?_filter_of_kept fun m _ found => ?_
  simp only [Bool.and_eq_true, decide_eq_true_eq] at found
  obtain ⟨rfl, rfl⟩ := found
  have apart : ¬ (m.assetLinkId = removedLink ∧ m.metadataKey = removedKey) :=
    fun ⟨link, key⟩ => other ⟨link.symm, key.symm⟩
  rw [not_and_or] at apart
  simpa using apart

/-! ### Maps after statements -/

/-- What leaves the links and the rows leaves the maps. -/
theorem entries?_of_agrees (links : s'.links = s.links) (metadata : s'.metadata = s.metadata) :
    s'.entries? assetLinkId = s.entries? assetLinkId := by
  refine entries?_congr ?_ fun metadataKey => ?_
  · rw [link?, link?, links]
  · rw [metadata?, metadata?, metadata]

/-- A new row is set in the map of its link. -/
theorem entries_of_insertMetadata {row : LinkMetadata}
    (ran : insertMetadata row s = .ok ((), s')) :
    s'.entries assetLinkId =
      if row.assetLinkId = assetLinkId then (s.entries assetLinkId).set row
      else s.entries assetLinkId := by
  funext metadataKey
  rw [entries, metadata?_of_insertMetadata ran]
  by_cases same : row.assetLinkId = assetLinkId
  · by_cases sameKey : row.metadataKey = metadataKey
    · subst sameKey
      simp [same, Entries.set]
    · have otherKey : metadataKey ≠ row.metadataKey := fun h => sameKey h.symm
      simp [same, sameKey, Entries.set, Function.update_of_ne otherKey, entries]
  · simp [same, entries]

/-- A changed row is set in the map of its link. -/
theorem entries_of_setMetadata {row : LinkMetadata} (ran : setMetadata row s = .ok ((), s')) :
    s'.entries assetLinkId =
      if row.assetLinkId = assetLinkId then (s.entries assetLinkId).set row
      else s.entries assetLinkId := by
  obtain ⟨⟨there, member, link, key⟩, _⟩ := setMetadata_eq_ok.1 ran
  have found : (s.metadata? row.assetLinkId row.metadataKey).isSome :=
    List.find?_isSome.2 ⟨there, member, by simp [link, key]⟩
  funext metadataKey
  rw [entries, metadata?_of_setMetadata ran]
  cases before : s.metadata? assetLinkId metadataKey with
  | none =>
    -- There is a row under the key that is written to.
    have apart : row.assetLinkId = assetLinkId → metadataKey ≠ row.metadataKey := by
      rintro rfl rfl
      rw [before] at found
      exact nomatch found
    split
    case isTrue same => simp [Entries.set, Function.update_of_ne (apart same), entries, before]
    case isFalse => simp [entries, before]
  | some m =>
    have place := List.find?_some before
    simp only [Bool.and_eq_true, decide_eq_true_eq] at place
    obtain ⟨rfl, rfl⟩ := place
    by_cases same : row.assetLinkId = m.assetLinkId
    · by_cases sameKey : row.metadataKey = m.metadataKey
      · simp [same, sameKey, Entries.set]
      · have otherKey : m.metadataKey ≠ row.metadataKey := fun h => sameKey h.symm
        simp [same, otherKey, Entries.set, entries, before]
    · have other : m.assetLinkId ≠ row.assetLinkId := fun h => same h.symm
      simp [same, other, entries, before]

/-- A deleted row is erased from the map of its link. -/
theorem entries_of_deleteMetadata {removedLink removedKey : String}
    (ran : deleteMetadata removedLink removedKey s = .ok ((), s')) :
    s'.entries assetLinkId =
      if removedLink = assetLinkId then (s.entries assetLinkId).erase removedKey
      else s.entries assetLinkId := by
  funext metadataKey
  by_cases removed : removedLink = assetLinkId ∧ removedKey = metadataKey
  · obtain ⟨rfl, rfl⟩ := removed
    simp [entries, metadata?_of_deleteMetadata ran, Entries.erase]
  · rw [entries, metadata?_of_deleteMetadata_of_other ran removed]
    split
    case isTrue same =>
      have otherKey : metadataKey ≠ removedKey := fun h => removed ⟨same, h.symm⟩
      simp [Entries.erase, Function.update_of_ne otherKey, entries]
    case isFalse => rfl

/-- A deletion of another link leaves the map. -/
theorem entries?_of_deleteLinkCascade_of_other {removed : String} {number : Nat}
    (ran : deleteLinkCascade removed s = .ok (number, s')) (other : removed ≠ assetLinkId) :
    s'.entries? assetLinkId = s.entries? assetLinkId := by
  obtain ⟨_, _, rfl⟩ := deleteLinkCascade_eq_ok.1 ran
  -- The map depends on whether the link is there and on its rows, which are all kept.
  apply entries?_congr
  · apply congrArg Option.isSome
    apply find?_filter_of_kept
    intro l _ found
    have named : l.assetLinkId = assetLinkId := by simpa using found
    simpa [named] using other.symm
  · intro metadataKey
    apply find?_filter_of_kept
    intro m _ found
    have owned : m.assetLinkId = assetLinkId := by
      simp only [Bool.and_eq_true, decide_eq_true_eq] at found
      exact found.1
    simpa [owned] using other.symm

/-- A deletion of an asset that the links of an id do not touch leaves the map. -/
theorem entries?_of_deleteAssetCascade_of_apart {key : AssetKey} {number : Nat}
    (ran : deleteAssetCascade key s = .ok (number, s'))
    (apart : ∀ l ∈ s.links, l.assetLinkId = assetLinkId → l.touches key = false) :
    s'.entries? assetLinkId = s.entries? assetLinkId := by
  obtain ⟨_, _, rfl⟩ := deleteAssetCascade_eq_ok.1 ran
  apply entries?_congr
  · apply congrArg Option.isSome
    apply find?_filter_of_kept
    intro l there found
    simp [apart l there (by simpa using found)]
  · intro metadataKey
    apply find?_filter_of_kept
    intro m _ found
    have owned : m.assetLinkId = assetLinkId := by
      simp only [Bool.and_eq_true, decide_eq_true_eq] at found
      exact found.1
    -- None of the links that go has the id.
    rw [Bool.not_eq_true', List.any_eq_false]
    intro l gone named
    obtain ⟨there, touches⟩ := List.mem_filter.1 gone
    have same : l.assetLinkId = assetLinkId := by
      rw [← owned]
      simpa using named
    rw [apart l there same] at touches
    exact nomatch touches

/-- A deletion of an asset takes the links with it that touch it. -/
theorem link?_of_deleteAssetCascade {key : AssetKey} {number : Nat}
    (ran : deleteAssetCascade key s = .ok (number, s'))
    (touching : ∀ l ∈ s.links, l.assetLinkId = assetLinkId → l.touches key) :
    s'.link? assetLinkId = none := by
  obtain ⟨_, _, rfl⟩ := deleteAssetCascade_eq_ok.1 ran
  refine find?_filter_of_removed fun l there found => ?_
  simp [touching l there (by simpa using found)]

/-- New tags leave the map. -/
theorem entries?_of_setLinkTags {tagged : String} {tags : List String}
    (ran : setLinkTags tagged tags s = .ok ((), s')) :
    s'.entries? assetLinkId = s.entries? assetLinkId := by
  obtain ⟨_, rfl⟩ := setLinkTags_eq_ok.1 ran
  refine entries?_congr ?_ fun _ => rfl
  rw [link?, find?_changeRows, Option.isSome_map]
  · rfl
  · exact fun _ => rfl

/-- What leaves the links makes of the map of a link what it makes of its rows. -/
theorem entries?_of_links {change : Entries → Entries} (links : s'.links = s.links)
    (rows : s'.entries assetLinkId = change (s.entries assetLinkId)) :
    s'.entries? assetLinkId = (s.entries? assetLinkId).map change := by
  rw [entries?, entries?, link?, link?, links, rows, Option.map_map]
  rfl

/-- A new row gives no link a map that had none. -/
theorem entries?_of_insertMetadata {row : LinkMetadata}
    (ran : insertMetadata row s = .ok ((), s')) :
    s'.entries? assetLinkId = (s.entries? assetLinkId).map fun entries =>
      if row.assetLinkId = assetLinkId then entries.set row else entries :=
  entries?_of_links ((insertMetadata_agreesBut ran).links (by simp))
    (entries_of_insertMetadata ran)

/-- A changed row gives no link a map that had none. -/
theorem entries?_of_setMetadata {row : LinkMetadata} (ran : setMetadata row s = .ok ((), s')) :
    s'.entries? assetLinkId = (s.entries? assetLinkId).map fun entries =>
      if row.assetLinkId = assetLinkId then entries.set row else entries :=
  entries?_of_links ((setMetadata_agreesBut ran).links (by simp)) (entries_of_setMetadata ran)

/-- A deleted row takes the map from no link. -/
theorem entries?_of_deleteMetadata {removedLink removedKey : String}
    (ran : deleteMetadata removedLink removedKey s = .ok ((), s')) :
    s'.entries? assetLinkId = (s.entries? assetLinkId).map fun entries =>
      if removedLink = assetLinkId then entries.erase removedKey else entries :=
  entries?_of_links ((deleteMetadata_agreesBut ran).links (by simp))
    (entries_of_deleteMetadata ran)

/-- A new link leaves the maps of those that are stored. -/
theorem entries?_of_insertLink_of_stored {row l l' : AssetLink}
    (ran : insertLink row s = .ok (l, s')) (stored : s.link? assetLinkId = some l') :
    s'.entries? assetLinkId = s.entries? assetLinkId := by
  obtain ⟨_, _, rfl⟩ := insertLink_eq_ok.1 ran
  refine entries?_congr (congrArg Option.isSome ?_) fun _ => rfl
  rw [link?, List.find?_append, ← link?, stored]
  rfl

/-- The map of a stored link is that of its rows. -/
theorem entries?_of_link {l : AssetLink} (stored : s.link? assetLinkId = some l) :
    s.entries? assetLinkId = some (s.entries assetLinkId) := by
  rw [entries?, stored]
  rfl

/-- Nothing is stored for a new link. -/
theorem entries?_of_insertLink (inv : s.Consistent) {row l : AssetLink}
    (ran : insertLink row s = .ok (l, s')) : s'.entries? row.assetLinkId = some .empty := by
  obtain ⟨free, _, rfl⟩ := insertLink_eq_ok.1 ran
  refine entries?_eq_some.2 ⟨⟨row, ?_⟩, ?_⟩
  · rw [link?, List.find?_append, ← link?, free]
    simp
  · funext metadataKey
    -- A row under the id would have had a link before.
    have none : s.metadata? row.assetLinkId metadataKey = none :=
      metadata?_eq_none_of_noRows (inv.ne_of_link?_eq_none free)
    exact congrArg (Option.map _) none

end Store

/-! ### A link and its id -/

namespace Registry

variable {r : Registry} {link : AssetLink}

/-- A link that was created.  Its id is given out, and what is stored under the id has the
    ends of the link. -/
structure Knows (r : Registry) (link : AssetLink) : Prop where
  issued : ∃ n ≤ r.linksMade, link.assetLinkId = linkId n
  ends : ∀ l ∈ r.store.links, l.assetLinkId = link.assetLinkId →
    l.source = link.source ∧ l.target = link.target

/-- The id is not given out again. -/
theorem Knows.ne_nextLinkId (knows : r.Knows link) : link.assetLinkId ≠ r.nextLinkId := by
  obtain ⟨n, le, named⟩ := knows.issued
  intro same
  have next : n = r.linksMade + 1 := linkId_injective (named ▸ same)
  omega

/-- A new link gets an id that no stored link has. -/
theorem Knows.of_insertLink {request : NewAssetLink} {s : Store}
    (ran : Store.insertLink (Links.newLink request r.nextLinkId r.now) r.store = .ok (link, s)) :
    Knows { r.wrote s with linksMade := r.linksMade + 1 } link := by
  obtain ⟨free, rfl, rfl⟩ := Store.insertLink_eq_ok.1 ran
  have noLink : ∀ l ∈ r.store.links,
      l.assetLinkId ≠ (Links.newLink request r.nextLinkId r.now).assetLinkId := by
    simpa [Store.link?] using free
  refine ⟨⟨r.linksMade + 1, Nat.le_refl _, rfl⟩, ?_⟩
  apply Store.forall_mem_append_singleton
  · intro l member same
    exact absurd same (noLink l member)
  · intro _
    exact ⟨rfl, rfl⟩

/-- A link that is known has its ends for good. -/
theorem Knows.touches_eq (knows : r.Knows link) {l : AssetLink} (member : l ∈ r.store.links)
    (same : l.assetLinkId = link.assetLinkId) (key : AssetKey) :
    l.touches key = link.touches key := by
  obtain ⟨source, target⟩ := knows.ends l member same
  rw [AssetLink.touches, AssetLink.touches, source, target]

end Registry

namespace Operation

variable {operation : Operation} {reply : Reply} {r r' : Registry} {link : AssetLink}

/-- What is known of a link stays so over a step. -/
theorem Step.knows (step : Step r operation reply r') (knows : r.Knows link) :
    r'.Knows link := by
  obtain ⟨n, le, named⟩ := knows.issued
  refine ⟨⟨n, le.trans step.linksMade_le, named⟩, ?_⟩
  -- Links are removed, given other tags or made, and a new one has another id.
  rcases step.links_cases with fewer | ⟨_, _, ran⟩ | ⟨request, row, rfl, _, ran⟩
  · exact fun l member => knows.ends l (fewer.subset member)
  · obtain ⟨_, same⟩ := Store.setLinkTags_eq_ok.1 ran
    rw [← same]
    exact Store.forall_mem_changeRows (fun _ h => h) knows.ends
  · obtain ⟨_, _, same⟩ := Store.insertLink_eq_ok.1 ran
    rw [← same]
    apply Store.forall_mem_append_singleton knows.ends
    intro taken
    exact absurd taken.symm knows.ne_nextLinkId

/-- A creation of a link answers with the link that it has stored. -/
theorem Step.of_createLink {request : NewAssetLink} (step : Step r (.createLink request) reply r') :
    ∃ s, Store.insertLink (Links.newLink request r.nextLinkId r.now) r.store =
        .ok (Links.newLink request r.nextLinkId r.now, s) ∧
      .link (Links.newLink request r.nextLinkId r.now) = reply ∧
      { r.wrote s with linksMade := r.linksMade + 1 } = r' := by
  cases step with
  | read reads => exact nomatch reads
  | createLink _ _ _ _ _ _ ran =>
    obtain ⟨_, rfl, _⟩ := Store.insertLink_eq_ok.1 ran
    exact ⟨_, ran, rfl, rfl⟩

/-- A creation that succeeds answers with the link under the next id. -/
theorem perform_createLink_of_isOk {request : NewAssetLink}
    (created : ((Operation.createLink request).perform r).1.isOk) :
    (Operation.createLink request).perform r =
      (.ok (.link (Links.newLink request r.nextLinkId r.now)),
        ((Operation.createLink request).perform r).2) := by
  cases outcome : (Operation.createLink request).perform r with
  | mk answer r' =>
    rw [outcome] at created
    cases answer with
    | error e => exact nomatch created
    | ok reply =>
      obtain ⟨_, _, rfl, _⟩ := (step_of_perform outcome).of_createLink
      rfl

/-- A link that is gone does not come back. -/
theorem Step.link?_eq_none (step : Step r operation reply r') (knows : r.Knows link)
    (gone : r.store.link? link.assetLinkId = none) : r'.store.link? link.assetLinkId = none := by
  have before : ∀ l ∈ r.store.links, l.assetLinkId ≠ link.assetLinkId := by
    simpa [Store.link?] using gone
  have after : ∀ l ∈ r'.store.links, l.assetLinkId ≠ link.assetLinkId := by
    -- A link that is made has an id that was not given out before.
    rcases step.links_cases with fewer | ⟨_, _, ran⟩ | ⟨request, row, rfl, _, ran⟩
    · exact fun l member => before l (fewer.subset member)
    · obtain ⟨_, same⟩ := Store.setLinkTags_eq_ok.1 ran
      rw [← same]
      exact Store.forall_mem_changeRows (fun _ h => h) before
    · obtain ⟨_, _, same⟩ := Store.insertLink_eq_ok.1 ran
      rw [← same]
      exact Store.forall_mem_append_singleton before knows.ne_nextLinkId.symm
  simpa [Store.link?] using after

/-! ### Steps -/

/-- A step makes of the stored rows of a link what the operation makes of their map. -/
theorem Step.entries?_eq (step : Step r operation reply r') (knows : r.Knows link) :
    r'.store.entries? link.assetLinkId =
      (r.store.entries? link.assetLinkId).bind fun entries => edit link entries operation := by
  have frame := step.agreesBut
  cases stored : r.store.link? link.assetLinkId with
  | none =>
    -- A map that is discarded stays so, because the id of the link is not given out again.
    rw [Store.entries?_eq_none.2 stored, Store.entries?_eq_none.2 (step.link?_eq_none knows stored)]
    rfl
  | some l =>
    have before := Store.entries?_of_link stored
    rw [before, Option.bind_some]
    cases step
    case read reads =>
      rw [before]
      cases operation <;> first | rfl | exact nomatch reads
    case createLink ran =>
      exact (Store.entries?_of_insertLink_of_stored ran stored).trans before
    case updateLinkTags ran _ =>
      exact (Store.entries?_of_setLinkTags ran).trans before
    case deleteLink assetLinkId number s ran =>
      rw [edit]
      split
      case isTrue same =>
        subst same
        exact Store.entries?_eq_none.2 (Store.link?_of_deleteLinkCascade ran)
      case isFalse other =>
        exact (Store.entries?_of_deleteLinkCascade_of_other ran other).trans before
    case deleteAsset key number s ran =>
      rw [edit]
      split
      case isTrue touches =>
        -- Whatever is stored under the id has the ends of the link.
        apply Store.entries?_eq_none.2
        apply Store.link?_of_deleteAssetCascade ran
        intro l member same
        exact (knows.touches_eq member same key).trans touches
      case isFalse apart =>
        have untouched : ∀ l ∈ r.store.links, l.assetLinkId = link.assetLinkId →
            l.touches key = false := by
          intro l member same
          rw [knows.touches_eq member same key]
          exact Bool.eq_false_of_not_eq_true apart
        exact (Store.entries?_of_deleteAssetCascade_of_apart ran untouched).trans before
    case createMetadata row s validKey validValue ran =>
      refine (Store.entries?_of_insertMetadata ran).trans ?_
      rw [before, Option.map_some, edit]
      by_cases same : row.assetLinkId = link.assetLinkId
      · -- The statement has run, so the key was free in the map as well.
        obtain ⟨free, _⟩ := Store.insertMetadata_eq_ok.1 ran
        have unused : (r.store.entries link.assetLinkId row.metadataKey).isNone := by
          rw [Store.isNone_entries, ← same]
          exact free
        rw [if_pos same, if_pos ⟨same, validKey, validValue, unused⟩]
      · rw [if_neg same, if_neg fun h => same h.1]
    case updateMetadata row s validValue ran =>
      refine (Store.entries?_of_setMetadata ran).trans ?_
      rw [before, Option.map_some, edit]
      by_cases same : row.assetLinkId = link.assetLinkId
      · obtain ⟨⟨m, member, owner, key⟩, _⟩ := Store.setMetadata_eq_ok.1 ran
        have used : (r.store.entries link.assetLinkId row.metadataKey).isSome := by
          rw [Store.isSome_entries, ← same]
          exact List.find?_isSome.2 ⟨m, member, by simp [owner, key]⟩
        rw [if_pos same, if_pos ⟨same, validValue, used⟩]
      · rw [if_neg same, if_neg fun h => same h.1]
    case deleteMetadata assetLinkId metadataKey s ran =>
      refine (Store.entries?_of_deleteMetadata ran).trans ?_
      rw [before, Option.map_some, edit]
      split <;> rfl
    -- No other operation writes to the links or to their rows.
    all_goals
      exact (Store.entries?_of_agrees (frame.links (by simp [tables]))
        (frame.metadata (by simp [tables]))).trans before

end Operation

end AssetRegistry
