import AssetRegistry.Proofs.MetadataMap
import AssetRegistry.Proofs.Utf8Order

/-!
# Answers about the metadata of a link

What a registry answers about the metadata of a stored link is what the map of its rows
holds.  An operation that fails would not have changed the map either, so the map of a link
after any run is made by the operations alone, from an empty one when the link is created.
-/

namespace AssetRegistry

open AssetRegistry.Action

/-! ### Answers -/

namespace Registry

/-- A registry answers for the metadata of a stored link as a map does. -/
structure AnswersAs (r : Registry) (assetLinkId : String) (entries : Entries) : Prop where
  create : ∀ row : LinkMetadata, row.assetLinkId = assetLinkId → row.HasValidKey →
    row.HasValidValue →
    ((Operation.createMetadata row).perform r).1 =
      if (entries row.metadataKey).isSome then .error (.duplicateMetadataKey row.metadataKey)
      else .ok (.metadata row)
  update : ∀ row : LinkMetadata, row.assetLinkId = assetLinkId → row.HasValidValue →
    ((Operation.updateMetadata row).perform r).1 =
      if (entries row.metadataKey).isSome then .ok (.metadata row)
      else .error (.notFound (.metadata assetLinkId row.metadataKey))
  delete : ∀ metadataKey,
    ((Operation.deleteMetadata assetLinkId metadataKey).perform r).1 =
      if (entries metadataKey).isSome then .ok .done
      else .error (.notFound (.metadata assetLinkId metadataKey))
  list : ∃ rows, ((Operation.listMetadata assetLinkId).perform r).1 = .ok (.metadataList rows) ∧
    rows.Pairwise (fun a b => Text.bytes a.metadataKey < Text.bytes b.metadataKey) ∧
    ∀ row, row ∈ rows ↔ row.assetLinkId = assetLinkId ∧
      entries row.metadataKey = some (row.metadataValue, row.metadataValueType)

/-- A registry answers for the metadata of a link that is gone, and has nothing left of it. -/
structure AnswersAsGone (r : Registry) (assetLinkId : String) : Prop where
  noRows : ∀ m ∈ r.store.metadata, m.assetLinkId ≠ assetLinkId
  create : ∀ row : LinkMetadata, row.assetLinkId = assetLinkId →
    ((Operation.createMetadata row).perform r).1 = .error (.notFound (.assetLink assetLinkId))
  update : ∀ row : LinkMetadata, row.assetLinkId = assetLinkId → row.HasValidValue →
    ((Operation.updateMetadata row).perform r).1 =
      .error (.notFound (.metadata assetLinkId row.metadataKey))
  delete : ∀ metadataKey,
    ((Operation.deleteMetadata assetLinkId metadataKey).perform r).1 =
      .error (.notFound (.metadata assetLinkId metadataKey))
  list : ((Operation.listMetadata assetLinkId).perform r).1 =
    .error (.notFound (.assetLink assetLinkId))

/-- A registry answers for the metadata of a link as a map does that may be discarded. -/
def AnswersFor (r : Registry) (assetLinkId : String) : Option Entries → Prop
  | some entries => r.AnswersAs assetLinkId entries
  | none => r.AnswersAsGone assetLinkId

end Registry

/-! ### Requests for metadata -/

namespace Store

variable {s : Store} {assetLinkId metadataKey : String}

/-- A value that is not there is not replaced. -/
theorem setMetadata_eq_notFound {row : LinkMetadata} :
    setMetadata row s = .error .notFound ↔
      s.metadata? row.assetLinkId row.metadataKey = none := by
  simp [setMetadata, map_updateRows_eq_error, metadata?]

/-- Metadata is found by its place. -/
theorem metadata?_eq_find?_place :
    s.metadata? assetLinkId metadataKey =
      s.metadata.find? (·.place = (assetLinkId, metadataKey)) := by
  simp [metadata?, LinkMetadata.place, Bool.decide_and]

/-- Where places are distinct, the rows of a link are the entries of its map. -/
theorem entries_eq_some_iff (distinct : s.metadataPlaces.Nodup) {row : LinkMetadata} :
    s.entries row.assetLinkId row.metadataKey = some (row.metadataValue, row.metadataValueType) ↔
      row ∈ s.metadata := by
  rw [entries, Option.map_eq_some_iff, metadata?_eq_find?_place]
  simp only [find?_eq_some_iff_mem distinct]
  constructor
  · rintro ⟨m, ⟨member, place⟩, same⟩
    obtain ⟨value, type⟩ := Prod.mk.inj same
    obtain ⟨link, key⟩ := Prod.mk.inj place
    -- A row is its place, its value and the type of its value.
    have equal : m = row := by
      cases m
      cases row
      simp_all
    exact equal ▸ member
  · intro member
    exact ⟨row, ⟨member, rfl⟩, rfl⟩

/-- The metadata of a link is listed, all of it and nothing else. -/
theorem mem_listMetadata {row : LinkMetadata} :
    row ∈ s.listMetadata assetLinkId ↔ row ∈ s.metadata ∧ row.assetLinkId = assetLinkId := by
  simp [listMetadata]

/-- A listing is in the order of the bytes of its keys, and no key comes twice. -/
theorem pairwise_listMetadata (distinct : s.metadataPlaces.Nodup) :
    (s.listMetadata assetLinkId).Pairwise fun a b =>
      Text.bytes a.metadataKey < Text.bytes b.metadataKey := by
  let rows := s.metadata.filter (·.assetLinkId = assetLinkId)
  have places : (rows.map LinkMetadata.place).Nodup := nodup_keys_filter distinct _
  have keys : (rows.map (·.metadataKey)).Nodup := by
    apply nodup_keys_of_tells places
    intro a first b second same
    -- The rows are of one link, so that equal keys make equal places.
    have sameLink : a.assetLinkId = b.assetLinkId :=
      (of_decide_eq_true (List.mem_filter.1 first).2).trans
        (of_decide_eq_true (List.mem_filter.1 second).2).symm
    exact Prod.ext sameLink same
  exact Text.pairwise_mergeSort_bytes keys

end Store

namespace Links

variable {r : Registry} {assetLinkId metadataKey : String} {row : LinkMetadata}

/-- A valid value is attached to a stored link under a key that is free. -/
theorem perform_createMetadata_of_free (ready : r.access = .ready)
    (link : (r.store.link? row.assetLinkId).isSome) (validKey : row.HasValidKey)
    (validValue : row.HasValidValue)
    (free : r.store.metadata? row.assetLinkId row.metadataKey = none) :
    ∃ r', (createMetadata row).perform r = (.ok row, r') := by
  obtain ⟨l, found⟩ := Option.isSome_iff_exists.1 link
  have ran := Store.insertMetadata_eq_ok.2 ⟨free, link, rfl⟩
  rw [createMetadata, perform_bind_of_ok (getLink_eq_ok.2 ⟨ready, found, rfl⟩),
    perform_check_bind (checkMetadata_of_valid validKey validValue)]
  exact ⟨_, perform_bind_of_ok (execute_eq_ok.2 ⟨ready, _, ran, rfl⟩) _⟩

/-- A link that is gone is refused as one that is not found. -/
theorem perform_getLink_of_missing (ready : r.access = .ready)
    (missing : r.store.link? assetLinkId = none) :
    (getLink assetLinkId).perform r = (.error (.notFound (.assetLink assetLinkId)), r) := by
  rw [getLink, perform_query_bind ready, missing]
  rfl

/-- Nothing is attached to a link that is gone. -/
theorem perform_createMetadata_of_gone (ready : r.access = .ready)
    (missing : r.store.link? row.assetLinkId = none) :
    (createMetadata row).perform r = (.error (.notFound (.assetLink row.assetLinkId)), r) :=
  perform_bind_of_error (perform_getLink_of_missing ready missing) _

/-- Nothing is listed of a link that is gone. -/
theorem perform_listMetadata_of_gone (ready : r.access = .ready)
    (missing : r.store.link? assetLinkId = none) :
    (listMetadata assetLinkId).perform r = (.error (.notFound (.assetLink assetLinkId)), r) :=
  perform_bind_of_error (perform_getLink_of_missing ready missing) _

/-- Of a stored link its rows are listed. -/
theorem perform_listMetadata_of_stored (ready : r.access = .ready)
    (link : (r.store.link? assetLinkId).isSome) :
    (listMetadata assetLinkId).perform r = (.ok (r.store.listMetadata assetLinkId), r) := by
  obtain ⟨l, found⟩ := Option.isSome_iff_exists.1 link
  rw [listMetadata, perform_bind_of_ok (getLink_eq_ok.2 ⟨ready, found, rfl⟩)]
  exact query_eq_ok.2 ⟨ready, rfl, rfl⟩

/-- A valid value replaces the one that is stored under its key. -/
theorem perform_updateMetadata_of_stored (ready : r.access = .ready)
    (validValue : row.HasValidValue)
    (stored : (r.store.metadata? row.assetLinkId row.metadataKey).isSome) :
    ∃ r', (updateMetadata row).perform r = (.ok row, r') := by
  obtain ⟨m, member, place⟩ := List.find?_isSome.1 stored
  have ran := Store.setMetadata_eq_ok.2 ⟨⟨m, member, by simpa using place⟩, rfl⟩
  rw [updateMetadata, perform_check_bind validValue]
  exact ⟨_, perform_bind_of_ok (execute_eq_ok.2 ⟨ready, _, ran, rfl⟩) _⟩

/-- A key that a link does not have is not changed. -/
theorem perform_updateMetadata_of_missing (ready : r.access = .ready)
    (validValue : row.HasValidValue)
    (missing : r.store.metadata? row.assetLinkId row.metadataKey = none) :
    (updateMetadata row).perform r =
      (.error (.notFound (.metadata row.assetLinkId row.metadataKey)), r) := by
  rw [updateMetadata, perform_check_bind validValue]
  exact perform_bind_of_error
    (perform_execute_of_error ready (Store.setMetadata_eq_notFound.2 missing)) _

/-- A key that a link has is deleted. -/
theorem perform_deleteMetadata_of_stored (ready : r.access = .ready)
    (stored : (r.store.metadata? assetLinkId metadataKey).isSome) :
    ∃ r', (deleteMetadata assetLinkId metadataKey).perform r = (.ok (), r') := by
  have ran := Store.deleteMetadata_eq_ok.2 ⟨stored, rfl⟩
  exact ⟨_, execute_eq_ok.2 ⟨ready, _, ran, rfl⟩⟩

/-- The deletion of a stored link leaves all rows but the link and its metadata. -/
theorem perform_deleteLink_of_stored (ready : r.access = .ready)
    (stored : (r.store.link? assetLinkId).isSome) :
    (deleteLink assetLinkId).perform r =
      (.ok (), r.wrote
        { r.store with
          links := r.store.links.filter (·.assetLinkId ≠ assetLinkId)
          metadata := r.store.metadata.filter (·.assetLinkId ≠ assetLinkId) }) := by
  have ran := Store.deleteLinkCascade_eq_ok.2 ⟨stored, rfl, rfl⟩
  rw [deleteLink]
  exact perform_bind_of_ok (execute_eq_ok.2 ⟨ready, _, ran, rfl⟩) _

end Links

/-- The deletion of a stored asset leaves all rows but the asset, the links at it and their
    metadata, and tells the number of these links. -/
theorem Catalog.perform_deleteAsset_of_stored {r : Registry} (ready : r.access = .ready)
    {key : AssetKey} (stored : (r.store.asset? key).isSome) :
    (deleteAsset key).perform r =
      (.ok (r.store.links.filter (·.touches key)).length, r.wrote
        { r.store with
          assets := r.store.assets.filter (·.key ≠ key)
          links := r.store.links.filter (!·.touches key)
          metadata := r.store.metadata.filter fun m =>
            !(r.store.links.filter (·.touches key)).any (·.assetLinkId = m.assetLinkId) }) := by
  have ran := Store.deleteAssetCascade_eq_ok.2 ⟨stored, rfl, rfl⟩
  exact execute_eq_ok.2 ⟨ready, _, ran, rfl⟩

/-! ### What a map answers -/

namespace Operation

section Answers

variable {r r' : Registry} {x : Action α} {row : LinkMetadata} {assetLinkId metadataKey : String}

/-- An answer that is given in a certain form. -/
theorem answer_map_of_ok {a : α} (h : x.perform r = (.ok a, r')) (form : α → Reply) :
    ((form <$> x).perform r).1 = .ok (form a) :=
  congrArg Prod.fst (map_eq_ok.2 ⟨a, h, rfl⟩)

/-- A refusal has no form. -/
theorem answer_map_of_error {e : RegistryError} (h : x.perform r = (.error e, r'))
    (form : α → Reply) : ((form <$> x).perform r).1 = .error e :=
  congrArg Prod.fst (perform_map_of_error h form)

/-- A valid value is attached to a stored link where its key has none. -/
theorem answer_createMetadata (ready : r.access = .ready)
    (link : (r.store.link? row.assetLinkId).isSome) (validKey : row.HasValidKey)
    (validValue : row.HasValidValue) :
    ((Operation.createMetadata row).perform r).1 =
      if (r.store.entries row.assetLinkId row.metadataKey).isSome then
        .error (.duplicateMetadataKey row.metadataKey)
      else .ok (.metadata row) := by
  split
  case isTrue used =>
    have taken := Store.isSome_entries.1 used
    exact answer_map_of_error
      (Links.perform_createMetadata_of_taken ready link validKey validValue taken) _
  case isFalse unused =>
    have free := Store.not_isSome_entries.1 unused
    obtain ⟨r', created⟩ :=
      Links.perform_createMetadata_of_free ready link validKey validValue free
    exact answer_map_of_ok created _

/-- A valid value takes the place of one.  Whether there is a link is not asked. -/
theorem answer_updateMetadata (ready : r.access = .ready) (validValue : row.HasValidValue) :
    ((Operation.updateMetadata row).perform r).1 =
      if (r.store.entries row.assetLinkId row.metadataKey).isSome then .ok (.metadata row)
      else .error (.notFound (.metadata row.assetLinkId row.metadataKey)) := by
  split
  case isTrue used =>
    obtain ⟨r', replaced⟩ :=
      Links.perform_updateMetadata_of_stored ready validValue (Store.isSome_entries.1 used)
    exact answer_map_of_ok replaced _
  case isFalse unused =>
    have missing := Store.not_isSome_entries.1 unused
    exact answer_map_of_error (Links.perform_updateMetadata_of_missing ready validValue missing) _

/-- A value is deleted where there is one. -/
theorem answer_deleteMetadata (ready : r.access = .ready) :
    ((Operation.deleteMetadata assetLinkId metadataKey).perform r).1 =
      if (r.store.entries assetLinkId metadataKey).isSome then .ok .done
      else .error (.notFound (.metadata assetLinkId metadataKey)) := by
  split
  case isTrue used =>
    obtain ⟨r', deleted⟩ :=
      Links.perform_deleteMetadata_of_stored ready (Store.isSome_entries.1 used)
    exact answer_map_of_ok deleted _
  case isFalse unused =>
    have missing := Store.not_isSome_entries.1 unused
    exact answer_map_of_error (Links.perform_deleteMetadata_of_missing ready missing) _

end Answers

end Operation

namespace Registry

variable {r : Registry} {assetLinkId : String} {entries : Entries}

/-- A registry answers for a stored link as the map of its rows does. -/
theorem answersAs (ready : r.access = .ready) (distinct : r.store.metadataPlaces.Nodup)
    (stored : r.store.entries? assetLinkId = some entries) : r.AnswersAs assetLinkId entries := by
  obtain ⟨⟨l, found⟩, rfl⟩ := Store.entries?_eq_some.1 stored
  have link : (r.store.link? assetLinkId).isSome := Option.isSome_of_eq_some found
  refine ⟨?_, ?_, fun metadataKey => Operation.answer_deleteMetadata ready,
    r.store.listMetadata assetLinkId, ?_, Store.pairwise_listMetadata distinct, ?_⟩
  · rintro row rfl validKey validValue
    exact Operation.answer_createMetadata ready link validKey validValue
  · rintro row rfl validValue
    exact Operation.answer_updateMetadata ready validValue
  · exact Operation.answer_map_of_ok (Links.perform_listMetadata_of_stored ready link) _
  · intro row
    rw [Store.mem_listMetadata, and_comm]
    apply and_congr_right
    intro same
    -- The rows that are listed are those of the map, for a place has one row.
    rw [← same, Store.entries_eq_some_iff distinct]

/-- A link that is gone has no rows, because its metadata goes with it. -/
theorem answersAsGone (ready : r.access = .ready) (inv : r.store.Consistent)
    (gone : r.store.entries? assetLinkId = none) : r.AnswersAsGone assetLinkId := by
  have missing : r.store.link? assetLinkId = none := Store.entries?_eq_none.1 gone
  have noRows : ∀ m ∈ r.store.metadata, m.assetLinkId ≠ assetLinkId :=
    inv.ne_of_link?_eq_none missing
  -- No row outlives its link, so that no key of it can be found.
  have unused (metadataKey : String) : ¬ (r.store.entries assetLinkId metadataKey).isSome := by
    rw [Store.not_isSome_entries]
    exact Store.metadata?_eq_none_of_noRows noRows
  refine ⟨noRows, ?_, ?_, fun metadataKey => ?_, ?_⟩
  · rintro row rfl
    exact Operation.answer_map_of_error (Links.perform_createMetadata_of_gone ready missing) _
  · rintro row rfl validValue
    exact (Operation.answer_updateMetadata ready validValue).trans (if_neg (unused _))
  · exact (Operation.answer_deleteMetadata ready).trans (if_neg (unused metadataKey))
  · exact Operation.answer_map_of_error (Links.perform_listMetadata_of_gone ready missing) _

end Registry

/-! ### Operations that fail -/

namespace Operation

variable {operation : Operation} {reply : Reply} {r r' : Registry} {link : AssetLink}
  {entries : Entries}

/-- What changes the map of a link succeeds. -/
theorem exists_reply_of_edit_ne (ready : r.access = .ready) (inv : r.store.Consistent)
    (knows : r.Knows link) (stored : r.store.entries? link.assetLinkId = some entries)
    (changes : edit link entries operation ≠ some entries) :
    ∃ reply, (operation.perform r).1 = .ok reply := by
  have answers := Registry.answersAs ready inv.distinctMetadata stored
  obtain ⟨⟨l, found⟩, _⟩ := Store.entries?_eq_some.1 stored
  cases operation
  case createMetadata row =>
    rw [edit] at changes
    split at changes
    case isTrue attached =>
      obtain ⟨same, validKey, validValue, unused⟩ := attached
      have free : ¬ (entries row.metadataKey).isSome := by simpa using unused
      exact ⟨_, (answers.create row same validKey validValue).trans (if_neg free)⟩
    case isFalse => exact absurd rfl changes
  case updateMetadata row =>
    rw [edit] at changes
    split at changes
    case isTrue replaced =>
      obtain ⟨same, validValue, used⟩ := replaced
      exact ⟨_, (answers.update row same validValue).trans (if_pos used)⟩
    case isFalse => exact absurd rfl changes
  case deleteMetadata assetLinkId metadataKey =>
    rw [edit] at changes
    split at changes
    case isTrue same =>
      -- To erase a key that has no value would not change the map.
      have used : (entries metadataKey).isSome := by
        by_contra unused
        rw [Option.not_isSome_iff_eq_none] at unused
        exact changes (congrArg some (Function.update_eq_self_iff.2 unused.symm))
      exact ⟨_, same ▸ (answers.delete metadataKey).trans (if_pos used)⟩
    case isFalse => exact absurd rfl changes
  case deleteLink assetLinkId =>
    rw [edit] at changes
    split at changes
    case isTrue same =>
      subst same
      have deleted := Links.perform_deleteLink_of_stored ready (Option.isSome_of_eq_some found)
      exact ⟨_, answer_map_of_ok deleted _⟩
    case isFalse => exact absurd rfl changes
  case deleteAsset key =>
    rw [edit] at changes
    split at changes
    case isTrue touches =>
      -- Both ends of the link are stored.
      have member := List.mem_of_find?_eq_some found
      have named : l.assetLinkId = link.assetLinkId := by simpa using List.find?_some found
      obtain ⟨source, target⟩ := inv.linkEnds l member
      have there : key ∈ r.store.assetKeys := by
        rw [← knows.touches_eq member named key] at touches
        simp only [AssetLink.touches, Bool.or_eq_true, decide_eq_true_eq] at touches
        rcases touches with rfl | rfl
        · exact source
        · exact target
      have deleted :=
        Catalog.perform_deleteAsset_of_stored ready (Store.isSome_find?_iff_mem_keys.2 there)
      exact ⟨_, answer_map_of_ok deleted _⟩
    case isFalse => exact absurd rfl changes
  all_goals exact absurd rfl changes

end Operation

namespace Registry

/-- What can be said of a link and its map at any time after the link was created. -/
structure Tracks (linkLimit : Nat) (link : AssetLink) (r : Registry) (map? : Option Entries) :
    Prop where
  reachable : r.Reachable linkLimit
  knows : r.Knows link
  stored : r.store.entries? link.assetLinkId = map?

namespace Tracks

variable {linkLimit : Nat} {link : AssetLink} {r : Registry} {map? : Option Entries}

/-- An operation makes of the registry what it makes of the map, whether it succeeds or not. -/
theorem perform (tracks : Tracks linkLimit link r map?) (operation : Operation) :
    Tracks linkLimit link (operation.perform r).2
      (map?.bind fun entries => operation.edit link entries) := by
  have reachable := Relation.ReflTransGen.tail tracks.reachable (.perform operation)
  have inv : r.store.Consistent := LeadsTo.consistent tracks.reachable .initial
  cases outcome : operation.perform r with
  | mk answer r' =>
    rw [outcome] at reachable
    cases answer with
    | ok reply =>
      have step := Operation.step_of_perform outcome
      exact ⟨reachable, step.knows tracks.knows, tracks.stored ▸ step.entries?_eq tracks.knows⟩
    | error e =>
      have same : r' = r := operation.atomic_run r e r' outcome
      subst same
      refine ⟨reachable, tracks.knows, ?_⟩
      cases map? with
      | none => exact tracks.stored
      | some entries =>
        -- Had the map changed, the operation would have succeeded.
        by_contra other
        have changes : operation.edit link entries ≠ some entries := by
          intro unchanged
          exact other (tracks.stored.trans unchanged.symm)
        obtain ⟨reply, success⟩ := Operation.exists_reply_of_edit_ne tracks.reachable.ready inv
          tracks.knows tracks.stored changes
        rw [outcome] at success
        exact nomatch success

/-- The clock changes nothing. -/
theorem tick (tracks : Tracks linkLimit link r map?) : Tracks linkLimit link r.tick map? :=
  ⟨.tail tracks.reachable .tick, ⟨tracks.knows.issued, tracks.knows.ends⟩, tracks.stored⟩

/-- A new link has an empty map. -/
theorem of_createLink {request : NewAssetLink} {r₁ : Registry} (reachable : r.Reachable linkLimit)
    (created : (Operation.createLink request).perform r = (.ok (.link link), r₁)) :
    Tracks linkLimit link r₁ (some .empty) := by
  have inv : r.store.Consistent := LeadsTo.consistent reachable .initial
  have next := Next.perform (r := r) (Operation.createLink request)
  rw [created] at next
  obtain ⟨s, ran, answer, rfl⟩ := (Operation.step_of_perform created).of_createLink
  cases answer
  exact ⟨.tail reachable next, .of_insertLink ran, Store.entries?_of_insertLink inv ran⟩

/-- What follows on a link makes of the registry what it makes of the map. -/
theorem runs {operations : List Operation} {r' : Registry} (runs : Runs operations r r')
    (tracks : Tracks linkLimit link r map?) :
    Tracks linkLimit link r' (map?.bind fun entries => entries.after link operations) := by
  induction runs generalizing map? with
  | done => simpa [Entries.after] using tracks
  | perform operation _ ih =>
    have later := ih (tracks.perform operation)
    rwa [Option.bind_assoc] at later
  | tick _ ih => exact ih tracks.tick

/-- The registry answers for the link as the map does. -/
theorem answersFor (tracks : Tracks linkLimit link r map?) :
    r.AnswersFor link.assetLinkId map? := by
  have inv : r.store.Consistent := LeadsTo.consistent tracks.reachable .initial
  cases map? with
  | some entries => exact answersAs tracks.reachable.ready inv.distinctMetadata tracks.stored
  | none => exact answersAsGone tracks.reachable.ready inv tracks.stored

end Tracks

/-! ### Links and what followed on them -/

/-- A link was created in a run, and operations have followed on that in turn. -/
def HasCreated (linkLimit : Nat) (link : AssetLink) (operations : List Operation)
    (r : Registry) : Prop :=
  ∃ r₀ r₁ request, r₀.Reachable linkLimit ∧
    (Operation.createLink request).perform r₀ = (.ok (.link link), r₁) ∧ Runs operations r₁ r

variable {linkLimit : Nat} {link : AssetLink} {operations : List Operation} {r : Registry}

/-- A link that was created was created before whatever follows. -/
theorem HasCreated.append {more : List Operation} {r' : Registry}
    (created : r.HasCreated linkLimit link operations) (runs : Runs more r r') :
    r'.HasCreated linkLimit link (operations ++ more) := by
  obtain ⟨r₀, r₁, request, reachable, made, before⟩ := created
  exact ⟨r₀, r₁, request, reachable, made, before.append runs⟩

/-- Every stored link was created in the run. -/
theorem Reachable.exists_hasCreated (reachable : r.Reachable linkLimit) :
    ∀ l ∈ r.store.links, ∃ link operations,
      r.HasCreated linkLimit link operations ∧ link.assetLinkId = l.assetLinkId := by
  induction reachable with
  | refl => exact fun _ member => nomatch member
  | @tail r r' before next ih =>
    cases next with
    | tick =>
      intro l member
      obtain ⟨link, operations, created, same⟩ := ih l member
      exact ⟨link, _, created.append (.tick (.done _)), same⟩
    | perform operation =>
      -- What was stored before was created before.
      have old : ∀ l ∈ r.store.links, ∃ link operations,
          (operation.perform r).2.HasCreated linkLimit link operations ∧
            link.assetLinkId = l.assetLinkId := by
        intro l member
        obtain ⟨link, operations, created, same⟩ := ih l member
        exact ⟨link, _, created.append (.perform operation (.done _)), same⟩
      cases outcome : operation.perform r with
      | mk answer r' =>
        rw [outcome] at old
        cases answer with
        | error e =>
          have same : r' = r := operation.atomic_run r e r' outcome
          subst same
          exact old
        | ok reply =>
          have step := Operation.step_of_perform outcome
          rcases step.links_cases with fewer | ⟨_, _, ran⟩ | ⟨request, row, rfl, _, ran⟩
          · exact fun l member => old l (fewer.subset member)
          · obtain ⟨_, same⟩ := Store.setLinkTags_eq_ok.1 ran
            rw [← same]
            exact Store.forall_mem_changeRows (fun _ h => h) old
          · obtain ⟨_, rfl, same⟩ := Store.insertLink_eq_ok.1 ran
            obtain ⟨_, _, rfl, _⟩ := step.of_createLink
            rw [← same]
            refine Store.forall_mem_append_singleton old ?_
            exact ⟨_, [], ⟨r, r', request, before, outcome, .done r'⟩, rfl⟩

end Registry

/-- The metadata of a link is a map.  After a link was created and operations followed on
    that, the registry answers requests for its metadata as the map does that those
    operations make of an empty one (`Operation.edit`), or as for a link that is gone where
    they discard it.  Every stored link is one that was created. -/
theorem link_metadata_is_map {linkLimit : Nat} :
    (∀ link operations r, Registry.HasCreated linkLimit link operations r →
      r.AnswersFor link.assetLinkId (Entries.empty.after link operations)) ∧
    ∀ r, Registry.Reachable linkLimit r → ∀ l ∈ r.store.links, ∃ link operations,
      r.HasCreated linkLimit link operations ∧ link.assetLinkId = l.assetLinkId := by
  constructor
  · rintro link operations r ⟨r₀, r₁, request, reachable, made, runs⟩
    have start := Registry.Tracks.of_createLink reachable made
    exact (start.runs runs).answersFor
  · intro r reachable
    exact reachable.exists_hasCreated

namespace Registry

/-- The plant before it has links. -/
def unlinkedPlant : Registry :=
  (Batch.performAll (plantRun.take 4) (fresh 3)).2

/-- A request for the first link of the plant. -/
def pressRequest : NewAssetLink :=
  ⟨"plant", "hall", "plant", "press", .parentChild, none, []⟩

/-- The plant with its first link. -/
def linkedPlant : Registry :=
  ((Operation.createLink pressRequest).perform unlinkedPlant).2

/-- The first link of the plant. -/
def pressLink : AssetLink :=
  Links.newLink pressRequest unlinkedPlant.nextLinkId unlinkedPlant.now

/-- Values that are attached to the first link, refused, replaced and deleted. -/
def weighing : List Operation :=
  [ .createMetadata ⟨"link-1", "weight", "12", .number⟩,
    .createMetadata ⟨"link-1", "weight", "13", .number⟩,
    .createMetadata ⟨"link-1", "Weight", "heavy", .string⟩,
    .createMetadata ⟨"link-1", "colour", "red", .string⟩,
    .updateMetadata ⟨"link-1", "weight", "14.5", .number⟩,
    .deleteMetadata "link-1" "colour",
    .archiveAsset ⟨"plant", "press"⟩ ]

/-- The first link of the plant was created before any operations on the plant that has it. -/
theorem hasCreated_pressLink (operations : List Operation) :
    (Batch.performAll operations linkedPlant).2.HasCreated 3 pressLink operations := by
  have created : ((Operation.createLink pressRequest).perform unlinkedPlant).1.isOk := by
    decide +kernel
  exact ⟨unlinkedPlant, linkedPlant, pressRequest, LeadsTo.performAll _ _,
    Operation.perform_createLink_of_isOk created, Runs.performAll _ _⟩

end Registry

/-- The map of the first link of a plant holds two values in the end.  With the hall, at which
    the link begins, it is discarded. -/
theorem link_metadata_is_map_plant :
    (Batch.performAll Registry.weighing Registry.linkedPlant).2.AnswersFor "link-1"
        (Entries.empty.after Registry.pressLink Registry.weighing) ∧
      ((Entries.empty.after Registry.pressLink Registry.weighing).map fun entries =>
          [entries "weight", entries "Weight", entries "colour"]) =
        some [some ("14.5", .number), some ("heavy", .string), none] ∧
      (Batch.performAll (Registry.weighing ++ [.deleteAsset ⟨"plant", "hall"⟩])
        Registry.linkedPlant).2.AnswersAsGone "link-1" := by
  have named : Registry.pressLink.assetLinkId = "link-1" := by decide +kernel
  obtain ⟨answers, _⟩ := @link_metadata_is_map 3
  refine ⟨?_, by decide +kernel, ?_⟩
  · have kept := answers _ _ _ (Registry.hasCreated_pressLink Registry.weighing)
    rwa [named] at kept
  · have gone := answers _ _ _ (Registry.hasCreated_pressLink
      (Registry.weighing ++ [.deleteAsset ⟨"plant", "hall"⟩]))
    rwa [named] at gone

end AssetRegistry
