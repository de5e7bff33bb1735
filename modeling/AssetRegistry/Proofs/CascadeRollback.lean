import AssetRegistry.Proofs.Repetition

/-!
# Deletions that are rolled back

The two deletions that write to several tables are transactions.  Each deletes what
depends on a row before the row itself, and learns only from the last deletion whether
the row was there; a failure then undoes the deletions before it.  Here they are spelled
out as single deletions.  Committed as a whole they are the statements of the store, so
that an operation that fails leaves nothing behind of what it had deleted.
-/

namespace AssetRegistry

/-- Deletions in a row.  When one fails, those before it have been done. -/
abbrev Transaction (α : Type) : Type :=
  ExceptT StoreError (StateM Store) α

namespace Transaction

/-- How far a transaction comes on a store: its outcome, and the store at its end or at
    the failure. -/
def runOn (transaction : Transaction α) (s : Store) : Except StoreError α × Store :=
  transaction.run s

/-- Keeps what a transaction that succeeds has done, and undoes what one that fails has
    done. -/
def commit (transaction : Transaction α) : Statement α := fun s =>
  match transaction.runOn s with
  | (.ok a, s') => .ok (a, s')
  | (.error e, _) => .error e

/-- Fails where nothing was deleted. -/
def requireDeleted (number : Nat) : Transaction Unit :=
  if number = 0 then throw .notFound else pure ()

/-! ### Single deletions -/

/-- Whether a metadata value belongs to a link at an asset. -/
def isAt (s : Store) (key : AssetKey) (m : LinkMetadata) : Bool :=
  s.links.any fun l => l.touches key && l.assetLinkId = m.assetLinkId

/-- Deletes the metadata of the links at an asset. -/
def deleteMetadataAt (key : AssetKey) : Transaction Unit :=
  modify fun s => { s with metadata := s.metadata.filter (!isAt s key ·) }

/-- Deletes the links at an asset and counts them. -/
def deleteLinksAt (key : AssetKey) : Transaction Nat :=
  modifyGet fun s => (s.linkCount key, { s with links := s.links.filter (!·.touches key) })

/-- Deletes the rows of an asset and counts them. -/
def deleteAssetRow (key : AssetKey) : Transaction Nat :=
  modifyGet fun s =>
    (s.assets.countP (·.key = key), { s with assets := s.assets.filter (·.key ≠ key) })

/-- Deletes the metadata of a link and counts it. -/
def deleteMetadataOf (assetLinkId : String) : Transaction Nat :=
  modifyGet fun s =>
    (s.metadataCount assetLinkId,
      { s with metadata := s.metadata.filter (·.assetLinkId ≠ assetLinkId) })

/-- Deletes the rows of a link and counts them. -/
def deleteLinkRow (assetLinkId : String) : Transaction Nat :=
  modifyGet fun s =>
    (s.links.countP (·.assetLinkId = assetLinkId),
      { s with links := s.links.filter (·.assetLinkId ≠ assetLinkId) })

/-! ### The cascades -/

/-- Deletes an asset after its links, and these after their metadata. -/
def deleteAsset (key : AssetKey) : Transaction Nat := do
  -- Nothing but the links tells which metadata is concerned.
  deleteMetadataAt key
  let links ← deleteLinksAt key
  let assets ← deleteAssetRow key
  requireDeleted assets
  return links

/-- Deletes a link after its metadata. -/
def deleteLink (assetLinkId : String) : Transaction Nat := do
  let values ← deleteMetadataOf assetLinkId
  let links ← deleteLinkRow assetLinkId
  requireDeleted links
  return values

/-- The store when all deletions for an asset are done. -/
def withoutAsset (s : Store) (key : AssetKey) : Store :=
  { s with
    assets := s.assets.filter (·.key ≠ key)
    links := s.links.filter (!·.touches key)
    metadata := s.metadata.filter (!isAt s key ·) }

/-- The store when all deletions for a link are done. -/
def withoutLink (s : Store) (assetLinkId : String) : Store :=
  { s with
    links := s.links.filter (·.assetLinkId ≠ assetLinkId)
    metadata := s.metadata.filter (·.assetLinkId ≠ assetLinkId) }

/-- Nothing is counted where nothing is found. -/
theorem countP_eq_zero_iff_isNone_find? {rows : List ρ} {chosen : ρ → Bool} :
    rows.countP chosen = 0 ↔ (rows.find? chosen).isNone := by
  rw [List.countP_eq_zero, Option.isNone_iff_eq_none, List.find?_eq_none]

/-- Whether an asset is missing turns out when everything has been deleted. -/
theorem runOn_deleteAsset (key : AssetKey) (s : Store) :
    (deleteAsset key).runOn s =
      (if (s.asset? key).isNone then .error .notFound else .ok (s.linkCount key),
        withoutAsset s key) := by
  have missing : s.assets.countP (·.key = key) = 0 ↔ (s.asset? key).isNone :=
    countP_eq_zero_iff_isNone_find?
  -- The deletions can be run without a look at the store; only the last check decides.
  show (do requireDeleted (s.assets.countP (·.key = key)); return s.linkCount key :
    Transaction Nat).runOn (withoutAsset s key) = _
  simp only [requireDeleted, missing]
  split <;> rfl

/-- Whether a link is missing turns out when everything has been deleted. -/
theorem runOn_deleteLink (assetLinkId : String) (s : Store) :
    (deleteLink assetLinkId).runOn s =
      (if (s.link? assetLinkId).isNone then .error .notFound
        else .ok (s.metadataCount assetLinkId),
        withoutLink s assetLinkId) := by
  have missing : s.links.countP (·.assetLinkId = assetLinkId) = 0 ↔
      (s.link? assetLinkId).isNone :=
    countP_eq_zero_iff_isNone_find?
  show (do
    requireDeleted (s.links.countP (·.assetLinkId = assetLinkId))
    return s.metadataCount assetLinkId : Transaction Nat).runOn (withoutLink s assetLinkId) = _
  simp only [requireDeleted, missing]
  split <;> rfl

/-- The deletions of an asset are together its statement. -/
theorem commit_deleteAsset (key : AssetKey) :
    (deleteAsset key).commit = Store.deleteAssetCascade key := by
  funext s
  -- The same metadata goes, whether its links are asked one by one or gathered first.
  have metadata : s.metadata.filter (!isAt s key ·) = s.metadata.filter fun m =>
      !(s.links.filter (·.touches key)).any (·.assetLinkId = m.assetLinkId) := by
    simp only [isAt, List.any_filter]
  rw [commit, runOn_deleteAsset, Store.deleteAssetCascade]
  cases (s.asset? key).isNone with
  | true => rfl
  | false => simp [withoutAsset, metadata, Store.linkCount, List.countP_eq_length_filter]

/-- The deletions of a link are together its statement. -/
theorem commit_deleteLink (assetLinkId : String) :
    (deleteLink assetLinkId).commit = Store.deleteLinkCascade assetLinkId := by
  funext s
  rw [commit, runOn_deleteLink, Store.deleteLinkCascade]
  cases (s.link? assetLinkId).isNone <;> rfl

end Transaction

/-! ### Operations that fail -/

namespace Operation

variable {r : Registry}

/-- The deletion of an asset that is not stored is refused. -/
theorem perform_deleteAsset_missing {key : AssetKey} (ready : r.access = .ready)
    (missing : r.store.asset? key = none) :
    (Operation.deleteAsset key).perform r = (.error (.notFound (.asset key)), r) :=
  Action.perform_map_of_error (Catalog.perform_deleteAsset_of_missing ready missing) _

/-- The deletion of a link that is not stored is refused. -/
theorem perform_deleteLink_missing {assetLinkId : String} (ready : r.access = .ready)
    (missing : r.store.link? assetLinkId = none) :
    (Operation.deleteLink assetLinkId).perform r =
      (.error (.notFound (.assetLink assetLinkId)), r) :=
  Action.perform_map_of_error (Links.perform_deleteLink_of_missing ready missing) _

end Operation

/-- An operation that fails leaves the registry as it was, whatever is stored: all rows,
    the numbers of links and executions, and everything else.  This is so also of the
    deletions of assets and links, which are the transactions here.  When an asset turns
    out to be missing, the links at it and their metadata have been deleted, and they are
    there again when the deletion answers; likewise the metadata of a missing link. -/
theorem failure_changes_nothing :
    (∀ (operation : Operation) (r : Registry) (e : RegistryError) (r' : Registry),
      operation.perform r = (.error e, r') → r' = r) ∧
    (∀ key, (Transaction.deleteAsset key).commit = Store.deleteAssetCascade key) ∧
    (∀ assetLinkId,
      (Transaction.deleteLink assetLinkId).commit = Store.deleteLinkCascade assetLinkId) ∧
    (∀ (key : AssetKey) (r : Registry), r.access = .ready → r.store.asset? key = none →
      (Transaction.deleteAsset key).runOn r.store =
          (.error .notFound, Transaction.withoutAsset r.store key) ∧
        (Operation.deleteAsset key).perform r = (.error (.notFound (.asset key)), r)) ∧
    (∀ (assetLinkId : String) (r : Registry), r.access = .ready →
      r.store.link? assetLinkId = none →
      (Transaction.deleteLink assetLinkId).runOn r.store =
          (.error .notFound, Transaction.withoutLink r.store assetLinkId) ∧
        (Operation.deleteLink assetLinkId).perform r =
          (.error (.notFound (.assetLink assetLinkId)), r)) := by
  refine ⟨Operation.atomic_run, Transaction.commit_deleteAsset, Transaction.commit_deleteLink,
    ?_, ?_⟩
  · intro key r ready missing
    refine ⟨?_, Operation.perform_deleteAsset_missing ready missing⟩
    rw [Transaction.runOn_deleteAsset, missing]
    rfl
  · intro assetLinkId r ready missing
    refine ⟨?_, Operation.perform_deleteLink_missing ready missing⟩
    rw [Transaction.runOn_deleteLink, missing]
    rfl

namespace Registry

/-- A registry in which a link, its metadata and an execution were planted at an asset
    that is not stored. -/
def stray : Registry where
  store :=
    { databases := [.global, ⟨"plant", "", false, .epoch⟩]
      assets := []
      links := [⟨"old", "plant", "ghost", "plant", "press", .related, none, [], .epoch⟩]
      metadata := [⟨"old", "weight", "12", .number⟩]
      pipelines := []
      workflows := []
      executions := [⟨"plant", "preview", "exec-7", "plant", "ghost", .running, .epoch, none⟩] }
  linksMade := 4
  executionsMade := 7

end Registry

/-- The link and its metadata are gone when the missing asset is noticed, and both are
    there after the answer. -/
theorem failure_changes_nothing_stray :
    (Transaction.withoutAsset Registry.stray.store ⟨"plant", "ghost"⟩).links = [] ∧
      (Transaction.withoutAsset Registry.stray.store ⟨"plant", "ghost"⟩).metadata = [] ∧
      (Operation.deleteAsset ⟨"plant", "ghost"⟩).perform Registry.stray =
        (.error (.notFound (.asset ⟨"plant", "ghost"⟩)), Registry.stray) ∧
      ((Operation.startExecution ⟨"plant", "ghost", "preview", none⟩).perform
        Registry.stray).2 = Registry.stray := by
  obtain ⟨unchanged, _, _, missing, _⟩ := failure_changes_nothing
  have refused : (Operation.startExecution ⟨"plant", "ghost", "preview", none⟩).perform
      Registry.stray = (.error (.notFound (.asset ⟨"plant", "ghost"⟩)), _) := rfl
  refine ⟨by decide +kernel, by decide +kernel, ?_, unchanged _ _ _ _ refused⟩
  exact (missing ⟨"plant", "ghost"⟩ Registry.stray rfl (by decide +kernel)).2

end AssetRegistry
