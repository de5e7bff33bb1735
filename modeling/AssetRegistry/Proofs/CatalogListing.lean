import AssetRegistry.Proofs.ExecutionGroups
import AssetRegistry.Proofs.Utf8Order

/-!
# Listings and lookups of the catalog

Pipelines and workflows are listed in one way (`Kind`): the rows of a database by id, and those
of the reserved database after them.  A merge leaves out what has the key of an earlier row,
which in a store with distinct keys is nothing.  A lookup of a workflow goes to the table on a
way of its own, by the keys of at most two rows.  It comes to the first row of the listing that
has the id, because the listing of one database has every id once.
-/

namespace AssetRegistry

open AssetRegistry.Action

namespace Catalog

/-! ### Kinds of rows -/

/-- A kind of rows that are stored under databases: the columns that listings read, and the key
    that a database and an id make. -/
structure Kind (ρ κ : Type) where
  databaseId : ρ → String
  id : ρ → String
  archived : ρ → Bool
  key : String → String → κ

namespace Kind

/-- How workflows are stored. -/
def workflow : Kind Workflow WorkflowKey where
  databaseId := (·.databaseId)
  id := (·.workflowId)
  archived := (·.archived)
  key := .mk

/-- How pipelines are stored. -/
def pipeline : Kind Pipeline PipelineRef where
  databaseId := (·.databaseId)
  id := (·.pipelineId)
  archived := (·.archived)
  key := .mk

variable {κ : Type} (kind : Kind ρ κ)

/-- The key of a row. -/
def keyOf (row : ρ) : κ :=
  kind.key (kind.databaseId row) (kind.id row)

/-- The rows that are stored under a database by id. -/
def listing (table : List ρ) (databaseId : String) (includeArchived : Bool) : List ρ :=
  (table.filter fun row =>
    kind.databaseId row = databaseId && Store.isListed includeArchived (kind.archived row))
    |>.mergeSort fun a b => kind.id a ≤ kind.id b

/-- Rows are exactly those of a table that are stored under a database, in the order of the bytes
    of their ids.  Archived ones are among them only if they were asked for. -/
structure Lists (table : List ρ) (databaseId : String) (includeArchived : Bool) (rows : List ρ) :
    Prop where
  exact : ∀ row, row ∈ rows ↔ row ∈ table ∧ kind.databaseId row = databaseId ∧
    (kind.archived row = true → includeArchived = true)
  inOrder : rows.Pairwise fun a b => Text.bytes (kind.id a) < Text.bytes (kind.id b)

/-- Rows are the listing of a database, and after it that of the reserved database if that is
    another one.  No row comes twice. -/
def ListsVisible (table : List ρ) (databaseId : String) (includeArchived : Bool)
    (rows : List ρ) : Prop :=
  ∃ own shared, rows = own ++ shared ∧ rows.Nodup ∧
    kind.Lists table databaseId includeArchived own ∧
    (databaseId = globalDatabaseId → shared = []) ∧
    (databaseId ≠ globalDatabaseId → kind.Lists table globalDatabaseId includeArchived shared)

variable {kind} {table : List ρ} {databaseId : String} {includeArchived : Bool}

/-- Listed are the rows of the database, and of those the archived ones only on request. -/
theorem mem_listing {row : ρ} :
    row ∈ kind.listing table databaseId includeArchived ↔
      row ∈ table ∧ kind.databaseId row = databaseId ∧
        (kind.archived row = true → includeArchived = true) := by
  simp only [listing, List.mem_mergeSort, List.mem_filter, Bool.and_eq_true, decide_eq_true_eq,
    Store.isListed, Bool.or_eq_true, Bool.not_eq_true']
  cases kind.archived row <;> simp

/-- Under one database every id is listed once. -/
theorem nodup_ids_listing (distinct : (table.map kind.keyOf).Nodup) :
    ((kind.listing table databaseId includeArchived).map kind.id).Nodup := by
  have keys : ((kind.listing table databaseId includeArchived).map kind.keyOf).Nodup :=
    ((List.mergeSort_perm _ _).map _).nodup_iff.2 (Store.nodup_keys_filter distinct _)
  apply Store.nodup_keys_of_tells keys
  intro a first b second same
  -- Both rows are under the database, so that equal ids make equal keys.
  have owner : kind.databaseId a = kind.databaseId b :=
    (mem_listing.1 first).2.1.trans (mem_listing.1 second).2.1.symm
  rw [keyOf, keyOf, owner, same]

/-- What is listed is exact and in order. -/
theorem lists_listing (distinct : (table.map kind.keyOf).Nodup) :
    kind.Lists table databaseId includeArchived
      (kind.listing table databaseId includeArchived) where
  exact _ := mem_listing
  inOrder := by
    have ids : ((kind.listing table databaseId includeArchived).map kind.id).Nodup :=
      nodup_ids_listing distinct
    exact Text.pairwise_mergeSort_bytes (((List.mergeSort_perm _ _).map _).nodup_iff.1 ids)

/-- The rows of a database, and those of the reserved one if that is another one. -/
def visible (kind : Kind ρ κ) (table : List ρ) (databaseId : String) (includeArchived : Bool) :
    List ρ :=
  kind.listing table databaseId includeArchived ++
    if databaseId = globalDatabaseId then []
    else kind.listing table globalDatabaseId includeArchived

/-- Nothing is listed twice. -/
theorem nodup_visible (distinct : (table.map kind.keyOf).Nodup) :
    (kind.visible table databaseId includeArchived).Nodup := by
  have nodup (databaseId : String) : (kind.listing table databaseId includeArchived).Nodup :=
    List.Nodup.of_map _ (nodup_ids_listing distinct)
  rw [visible]
  split
  case isTrue => simpa using nodup databaseId
  case isFalse other =>
    refine List.nodup_append.2 ⟨nodup _, nodup _, fun a first b second same => ?_⟩
    -- A row is stored under one database only.
    have own : kind.databaseId a = databaseId := (mem_listing.1 first).2.1
    have shared : kind.databaseId b = globalDatabaseId := (mem_listing.1 second).2.1
    exact other (own.symm.trans ((congrArg kind.databaseId same).trans shared))

/-- What is visible is listed exactly, the own rows before the shared ones. -/
theorem listsVisible_visible (distinct : (table.map kind.keyOf).Nodup) :
    kind.ListsVisible table databaseId includeArchived
      (kind.visible table databaseId includeArchived) := by
  refine ⟨_, _, rfl, nodup_visible distinct, lists_listing distinct, ?_, ?_⟩
  · intro same
    exact if_pos same
  · intro other
    rw [if_neg other]
    exact lists_listing distinct

/-- Nothing is left out where the listings are merged. -/
theorem shown_listing [BEq κ] [LawfulBEq κ] (distinct : (table.map kind.keyOf).Nodup) :
    shown kind.keyOf databaseId (kind.listing table · includeArchived) =
      kind.visible table databaseId includeArchived := by
  have nodup : (kind.visible table databaseId includeArchived).Nodup := nodup_visible distinct
  rw [shown]
  split
  case isTrue same => rw [visible, if_pos same, List.append_nil]
  case isFalse other =>
    rw [visible, if_neg other] at nodup ⊢
    refine keepFirst_of_nodup (nodup.map_on fun a first b second same => ?_) (by simp)
    -- Equal keys are equal rows, because all rows that are merged come from one table.
    have stored : ∀ row ∈ kind.listing table databaseId includeArchived ++
        kind.listing table globalDatabaseId includeArchived, row ∈ table := by
      intro row member
      rcases List.mem_append.1 member with own | shared
      · exact (mem_listing.1 own).1
      · exact (mem_listing.1 shared).1
    exact List.inj_on_of_nodup_map distinct (stored a first) (stored b second) same

end Kind

/-! ### Listings -/

variable {r : Registry} {databaseId : String}

/-- The workflows that are visible from a stored database are listed. -/
theorem perform_listWorkflows_visible (ready : r.access = .ready)
    (there : (r.store.database? databaseId).isSome) (distinct : r.store.workflowKeys.Nodup)
    (includeArchived : Bool) :
    (listWorkflows databaseId includeArchived).perform r =
      (.ok (Kind.workflow.visible r.store.workflows databaseId includeArchived), r) := by
  have keys : (r.store.workflows.map Kind.workflow.keyOf).Nodup := distinct
  rw [perform_listWorkflows_of_stored ready there, ← Kind.shown_listing keys]
  rfl

/-- The pipelines that are visible from a stored database are listed. -/
theorem perform_listPipelines_visible (ready : r.access = .ready)
    (there : (r.store.database? databaseId).isSome) (distinct : r.store.pipelineRefs.Nodup)
    (includeArchived : Bool) :
    (listPipelines databaseId includeArchived).perform r =
      (.ok (Kind.pipeline.visible r.store.pipelines databaseId includeArchived), r) := by
  have keys : (r.store.pipelines.map Kind.pipeline.keyOf).Nodup := distinct
  rw [perform_listPipelines_of_stored ready there, ← Kind.shown_listing keys]
  rfl

end Catalog

/-! ### Lookups -/

namespace Store

open Catalog

variable {s : Store} {databaseId workflowId : String}

/-- The workflow of an id in the listing of a database is the one that is stored under the
    key. -/
theorem find?_listing_workflow (distinct : s.workflowKeys.Nodup) :
    (Kind.workflow.listing s.workflows databaseId false).find? (·.workflowId = workflowId) =
      s.activeWorkflow? ⟨databaseId, workflowId⟩ := by
  ext w
  have keys : (s.workflows.map Kind.workflow.keyOf).Nodup := distinct
  have ids : ((Kind.workflow.listing s.workflows databaseId false).map (·.workflowId)).Nodup :=
    Kind.nodup_ids_listing keys
  rw [activeWorkflow?, workflow?, Option.filter_eq_some_iff, find?_eq_some_iff_mem distinct,
    find?_eq_some_iff_mem ids, Kind.mem_listing]
  simp [Kind.workflow, Workflow.key, and_assoc, and_comm, and_left_comm]

/-- A lookup finds the first one of the visible workflows that has the id. -/
theorem visibleWorkflow?_eq_find? (distinct : s.workflowKeys.Nodup) :
    s.visibleWorkflow? databaseId workflowId =
      (Kind.workflow.visible s.workflows databaseId false).find? (·.workflowId = workflowId) := by
  rw [visibleWorkflow?, Kind.visible, List.find?_append, find?_listing_workflow distinct]
  split
  case isTrue same => rw [same, Option.or_self, List.find?_nil, Option.or_none]
  case isFalse => rw [find?_listing_workflow distinct]

end Store

/-- A lookup of a workflow answers with the first visible one of the id, or that there is none. -/
theorem Operation.perform_getWorkflow_iff {r : Registry} {databaseId workflowId : String}
    (ready : r.access = .ready) (distinct : r.store.workflowKeys.Nodup) :
    let visible := Catalog.Kind.workflow.visible r.store.workflows databaseId false
    (∀ w, (getWorkflow databaseId workflowId).perform r = (.ok (.workflow w), r) ↔
      visible.find? (·.workflowId = workflowId) = some w) ∧
    ((getWorkflow databaseId workflowId).perform r =
        (.error (.notFound (.visibleWorkflow workflowId)), r) ↔
      ∀ w ∈ visible, w.workflowId ≠ workflowId) := by
  intro visible
  have looked := Catalog.perform_getWorkflow ready databaseId workflowId
  rw [Store.visibleWorkflow?_eq_find? distinct] at looked
  -- The lookup has one answer; each equivalence compares it with what the listing holds.
  cases found : visible.find? (·.workflowId = workflowId) with
  | some w =>
    have answered : (getWorkflow databaseId workflowId).perform r = (.ok (.workflow w), r) :=
      map_eq_ok.2 ⟨w, by rw [looked, found], rfl⟩
    have member : w ∈ visible := List.mem_of_find?_eq_some found
    have named : w.workflowId = workflowId := by simpa using List.find?_some found
    rw [answered]
    exact ⟨fun w' => by simp, by simpa using ⟨w, member, named⟩⟩
  | none =>
    have answered : (getWorkflow databaseId workflowId).perform r =
        (.error (.notFound (.visibleWorkflow workflowId)), r) :=
      perform_map_of_error (by rw [looked, found]) _
    rw [answered]
    exact ⟨fun w' => by simp, by simpa using List.find?_eq_none.1 found⟩

/-- In every registry that operations lead to, the workflows and the pipelines that are visible
    from a stored database are listed without loss and without repetition: its own ones by the
    bytes of their ids, then those of the reserved database.  A lookup of a workflow answers
    with the first one of the listing that has the id, and with an error where there is none. -/
theorem listings_complete_and_looked_up {linkLimit : Nat} {r : Registry}
    (reachable : r.Reachable linkLimit) {databaseId : String}
    (there : (r.store.database? databaseId).isSome) :
    (∀ includeArchived, ∃ workflows pipelines,
      (Operation.listWorkflows databaseId includeArchived).perform r =
        (.ok (.workflows workflows), r) ∧
      Catalog.Kind.workflow.ListsVisible r.store.workflows databaseId includeArchived workflows ∧
      (Operation.listPipelines databaseId includeArchived).perform r =
        (.ok (.pipelines pipelines), r) ∧
      Catalog.Kind.pipeline.ListsVisible r.store.pipelines databaseId includeArchived
        pipelines) ∧
    ∃ visible, (Operation.listWorkflows databaseId false).perform r =
        (.ok (.workflows visible), r) ∧
      ∀ workflowId,
        (∀ w, (Operation.getWorkflow databaseId workflowId).perform r = (.ok (.workflow w), r) ↔
          visible.find? (·.workflowId = workflowId) = some w) ∧
        ((Operation.getWorkflow databaseId workflowId).perform r =
            (.error (.notFound (.visibleWorkflow workflowId)), r) ↔
          ∀ w ∈ visible, w.workflowId ≠ workflowId) := by
  have inv : r.store.Consistent := Registry.LeadsTo.consistent reachable .initial
  -- Both tables have distinct keys, so that a merge of two listings drops no row.
  have workflows (includeArchived : Bool) :=
    Catalog.perform_listWorkflows_visible reachable.ready there inv.distinctWorkflows
      includeArchived
  have pipelines (includeArchived : Bool) :=
    Catalog.perform_listPipelines_visible reachable.ready there inv.distinctPipelines
      includeArchived
  constructor
  · intro includeArchived
    exact ⟨_, _, map_eq_ok.2 ⟨_, workflows includeArchived, rfl⟩,
      Catalog.Kind.listsVisible_visible inv.distinctWorkflows,
      map_eq_ok.2 ⟨_, pipelines includeArchived, rfl⟩,
      Catalog.Kind.listsVisible_visible inv.distinctPipelines⟩
  · refine ⟨_, map_eq_ok.2 ⟨_, workflows false, rfl⟩, fun workflowId => ?_⟩
    exact Operation.perform_getWorkflow_iff reachable.ready inv.distinctWorkflows

open Registry in
/-- Two workflows of one id are both listed, and the one of the database is looked up.  The
    archived one is listed only if it is asked for, and not looked up. -/
theorem listings_complete_and_looked_up_busyPlant :
    (∃ rows, (Operation.listWorkflows "plant" true).perform busyPlant =
        (.ok (.workflows rows), busyPlant) ∧
      rows.map Workflow.key = [⟨"plant", "preview"⟩, ⟨"plant", "retired"⟩,
        ⟨globalDatabaseId, "inspect"⟩, ⟨globalDatabaseId, "preview"⟩] ∧
      Catalog.Kind.workflow.ListsVisible busyPlant.store.workflows "plant" true rows) ∧
    (∃ w, (Operation.getWorkflow "plant" "preview").perform busyPlant =
        (.ok (.workflow w), busyPlant) ∧ w.databaseId = "plant") ∧
    (Operation.getWorkflow "plant" "retired").perform busyPlant =
      (.error (.notFound (.visibleWorkflow "retired")), busyPlant) := by
  have there : (busyPlant.store.database? "plant").isSome := by decide +kernel
  obtain ⟨listings, visible, listed, lookups⟩ :=
    listings_complete_and_looked_up reachable_busyPlant there
  -- The workflows of either database were created in the order of their ids.
  have sorted : ∀ includeArchived, ∀ databaseId ∈ ["plant", globalDatabaseId],
      (busyPlant.store.workflows.filter fun w =>
        w.databaseId = databaseId && Store.isListed includeArchived w.archived).Pairwise
          fun w w' => decide (w.workflowId ≤ w'.workflowId) := by
    decide +kernel
  have evaluated (includeArchived : Bool) :
      Catalog.Kind.workflow.visible busyPlant.store.workflows "plant" includeArchived =
        (busyPlant.store.workflows.filter fun w =>
          w.databaseId = "plant" && Store.isListed includeArchived w.archived) ++
        busyPlant.store.workflows.filter fun w =>
          w.databaseId = globalDatabaseId && Store.isListed includeArchived w.archived := by
    rw [Catalog.Kind.visible, if_neg (by decide)]
    exact congrArg₂ (· ++ ·)
      (List.mergeSort_of_pairwise (sorted includeArchived "plant" (by decide)))
      (List.mergeSort_of_pairwise (sorted includeArchived globalDatabaseId (by decide)))
  have performed (includeArchived : Bool) : (Operation.listWorkflows "plant" includeArchived).perform
      busyPlant = (.ok (.workflows (Catalog.Kind.workflow.visible busyPlant.store.workflows "plant"
        includeArchived)), busyPlant) :=
    map_eq_ok.2 ⟨_, Catalog.perform_listWorkflows_visible reachable_busyPlant.ready there
      (by decide +kernel) includeArchived, rfl⟩
  obtain ⟨rows, _, answered, lists, _⟩ := listings true
  have rows_eq : rows = Catalog.Kind.workflow.visible busyPlant.store.workflows "plant" true := by
    simpa using answered.symm.trans (performed true)
  have visible_eq :
      visible = Catalog.Kind.workflow.visible busyPlant.store.workflows "plant" false := by
    simpa using listed.symm.trans (performed false)
  have preview : (visible.find? (·.workflowId = "preview")).map (·.databaseId) = some "plant" := by
    rw [visible_eq, evaluated]
    decide +kernel
  have notRetired : ∀ w ∈ visible, w.workflowId ≠ "retired" := by
    rw [visible_eq, evaluated]
    decide +kernel
  refine ⟨⟨rows, answered, ?_, lists⟩, ?_, (lookups "retired").2.2 notRetired⟩
  · rw [rows_eq, evaluated]
    decide +kernel
  · obtain ⟨w, found, own⟩ := Option.map_eq_some_iff.1 preview
    exact ⟨w, ((lookups "preview").1 w).2 found, own⟩

end AssetRegistry
