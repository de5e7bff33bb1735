import AssetRegistry.Proofs.CatalogListing

/-!
# Merged listings

A merge keeps of every key the first item that has it, and keeps the order of the items.  The
keys that were seen matter only as a set, so that a merge falls into two parts: what is kept of
the local items, and the shared items whose keys are new.  That makes local items win, and
leaves nothing for a second merge to do.
-/

namespace AssetRegistry

namespace Catalog

/-! ### First positions of keys -/

/-- At a position of a list stands an item whose key is not among the seen ones, nor that of an
    earlier item. -/
def IsNewAt (key : α → κ) (seen : List κ) (items : List α) (i : Nat) : Prop :=
  ∃ item, items[i]? = some item ∧ key item ∉ seen ∧
    ∀ j < i, ∀ earlier, items[j]? = some earlier → key earlier ≠ key item

/-- A position of a list is the first one of the key of its item. -/
def IsFirstAt (key : α → κ) (items : List α) (i : Nat) : Prop :=
  ∃ item, items[i]? = some item ∧
    ∀ j < i, ∀ earlier, items[j]? = some earlier → key earlier ≠ key item

/-- What is kept of a list are the items at certain positions, in the order of the list. -/
def KeepsAt (positions : Nat → Prop) (items kept : List α) : Prop :=
  ∃ places : List Nat, places.Pairwise (· < ·) ∧ (∀ i, i ∈ places ↔ positions i) ∧
    places.map (items[·]?) = kept.map some

section Merge

variable {κ : Type} {key : α → κ} {seen seen' : List κ} {item : α}
  {items locals shared : List α}

/-- Where no key was seen before, new positions are first ones. -/
theorem isNewAt_nil : IsNewAt key [] items = IsFirstAt key items := by
  funext i
  simp [IsNewAt, IsFirstAt]

/-- The first item is new if its key was not seen. -/
theorem isNewAt_cons_zero : IsNewAt key seen (item :: items) 0 ↔ key item ∉ seen := by
  simp [IsNewAt]

/-- Behind a first item with a new key its key counts as seen. -/
theorem isNewAt_cons_succ {i : Nat} :
    IsNewAt key seen (item :: items) (i + 1) ↔ IsNewAt key (key item :: seen) items i := by
  simp only [IsNewAt, List.getElem?_cons_succ, List.mem_cons, not_or]
  apply exists_congr
  intro found
  apply and_congr_right
  intro _
  -- What stands before a later position is the first item, and what stands before it in the rest.
  constructor
  · rintro ⟨unseen, others⟩
    refine ⟨⟨(others 0 (Nat.succ_pos _) item rfl).symm, unseen⟩, ?_⟩
    intro j less earlier there
    exact others (j + 1) (Nat.succ_lt_succ less) earlier there
  · rintro ⟨⟨other, unseen⟩, others⟩
    refine ⟨unseen, fun j less earlier there => ?_⟩
    cases j with
    | zero =>
      cases there
      exact Ne.symm other
    | succ j => exact others j (Nat.lt_of_succ_lt_succ less) earlier there

/-- Only the set of seen keys matters. -/
theorem isNewAt_congr (same : ∀ k, k ∈ seen ↔ k ∈ seen') {i : Nat} :
    IsNewAt key seen items i ↔ IsNewAt key seen' items i := by
  simp only [IsNewAt, same]

/-- Places in a list are places in a longer one, one further on. -/
theorem KeepsAt.cons_of_not {positions positions' : Nat → Prop} {kept : List α}
    (keeps : KeepsAt positions items kept) (zero : ¬ positions' 0)
    (succ : ∀ i, positions' (i + 1) ↔ positions i) :
    KeepsAt positions' (item :: items) kept := by
  obtain ⟨places, inOrder, exact, kept⟩ := keeps
  refine ⟨places.map (· + 1), ?_, fun i => ?_, ?_⟩
  · exact inOrder.map _ fun _ _ less => Nat.succ_lt_succ less
  · cases i with
    | zero => simp [zero]
    | succ i => simp [exact, succ]
  · rw [← kept, List.map_map]
    rfl

/-- An item that is kept is followed by what is kept of the others. -/
theorem KeepsAt.cons {positions positions' : Nat → Prop} {kept : List α}
    (keeps : KeepsAt positions items kept) (zero : positions' 0)
    (succ : ∀ i, positions' (i + 1) ↔ positions i) :
    KeepsAt positions' (item :: items) (item :: kept) := by
  obtain ⟨places, inOrder, exact, kept⟩ := keeps
  refine ⟨0 :: places.map (· + 1), ?_, fun i => ?_, ?_⟩
  · refine List.pairwise_cons.2 ⟨?_, inOrder.map _ fun _ _ less => Nat.succ_lt_succ less⟩
    intro j later
    obtain ⟨i, -, rfl⟩ := List.mem_map.1 later
    exact Nat.succ_pos i
  · cases i with
    | zero => simp [zero]
    | succ i => simp [exact, succ]
  · rw [List.map_cons, List.map_cons, ← kept, List.map_map]
    rfl

variable [BEq κ] [LawfulBEq κ]

/-- The items at the first positions of new keys are kept, and no others. -/
theorem keepsAt_keepFirst : KeepsAt (IsNewAt key seen items) items (keepFirst key seen items) := by
  induction items generalizing seen with
  | nil => exact ⟨[], .nil, by simp [IsNewAt], rfl⟩
  | cons item items ih =>
    rw [keepFirst]
    split
    case isTrue old =>
      have old : key item ∈ seen := by simpa using old
      -- The key of the first item was seen already.
      have same (k : κ) : k ∈ key item :: seen ↔ k ∈ seen := by
        rw [List.mem_cons, or_iff_right_of_imp fun same => same ▸ old]
      apply ih.cons_of_not
      · intro new
        exact isNewAt_cons_zero.1 new old
      · intro i
        exact isNewAt_cons_succ.trans (isNewAt_congr same)
    case isFalse new =>
      have new : key item ∉ seen := by simpa using new
      apply ih.cons (isNewAt_cons_zero.2 new)
      intro i
      exact isNewAt_cons_succ

/-! ### The two parts of a merge -/

/-- The local items come first, and then the shared ones whose keys they do not have. -/
theorem mergeWithGlobal_eq_append :
    mergeWithGlobal key locals shared =
      keepFirst key [] locals ++ keepFirst key (locals.map key) shared := by
  rw [mergeWithGlobal, keepFirst_append, List.append_nil]

/-- A key is in the merged listing if it is in either. -/
theorem mem_map_mergeWithGlobal_iff {k : κ} :
    k ∈ (mergeWithGlobal key locals shared).map key ↔ k ∈ (locals ++ shared).map key := by
  rw [mergeWithGlobal, mem_map_keepFirst, and_iff_left List.not_mem_nil]

/-- Nothing is left out of items with distinct keys, and nothing is added that has one of
    them. -/
theorem mergeWithGlobal_again :
    mergeWithGlobal key (mergeWithGlobal key locals shared) shared =
      mergeWithGlobal key locals shared := by
  have distinct : ((mergeWithGlobal key locals shared).map key).Nodup := nodup_map_keepFirst
  rw [mergeWithGlobal_eq_append, keepFirst_of_nodup distinct fun _ _ => List.not_mem_nil,
    keepFirst_eq_nil, List.append_nil]
  intro item member
  exact mem_map_mergeWithGlobal_iff.2 (List.mem_map_of_mem (List.mem_append_right _ member))

end Merge

end Catalog

namespace Executions

/-- The workflow ids that a target stands for, one for each workflow that is visible where it
    names none. -/
def targetWorkflows (target : WatchTarget) : Action (List String) :=
  match target.workflowId with
  | some workflowId => pure [workflowId]
  | none => (fun workflows => workflows.map (·.workflowId)) <$>
      Catalog.listWorkflows target.databaseId false

/-- A watcher asks for ids as they are left by a merge with no other ids. -/
theorem watchedWorkflows_eq_map (target : WatchTarget) :
    watchedWorkflows target =
      (fun ids => Catalog.mergeWithGlobal id ids []) <$> targetWorkflows target := by
  rw [watchedWorkflows, targetWorkflows]
  cases target.workflowId with
  | some workflowId => rfl
  | none => simp only [Catalog.mergeWithGlobal, List.append_nil, Functor.map_map, bind_pure_comp]

end Executions

namespace Catalog

/-- A merge keeps the items at the first positions of their keys, in order: of local and shared
    items exactly the first one of each key.  Where a key is local, what is kept is a local item,
    and local items with distinct keys are kept as they are.  To merge once more changes nothing.
    The ids that a watcher asks for are a merge of ids with no other ids. -/
theorem merge_keeps_first_occurrences {α κ : Type} [BEq κ] [LawfulBEq κ] (key : α → κ)
    (locals shared : List α) :
    KeepsAt (IsFirstAt key (locals ++ shared)) (locals ++ shared)
        (mergeWithGlobal key locals shared) ∧
      (mergeWithGlobal key locals shared).Sublist (locals ++ shared) ∧
      ((mergeWithGlobal key locals shared).map key).Nodup ∧
      (∀ k, k ∈ (mergeWithGlobal key locals shared).map key ↔ k ∈ (locals ++ shared).map key) ∧
      (∃ own others, mergeWithGlobal key locals shared = own ++ others ∧ own.Sublist locals ∧
        others.Sublist shared ∧ (∀ k, k ∈ own.map key ↔ k ∈ locals.map key) ∧
        ∀ item ∈ others, key item ∉ locals.map key) ∧
      ((locals.map key).Nodup → locals <+: mergeWithGlobal key locals shared) ∧
      mergeWithGlobal key (mergeWithGlobal key locals shared) shared =
        mergeWithGlobal key locals shared ∧
      ∀ target : WatchTarget, Executions.watchedWorkflows target =
        (fun ids => mergeWithGlobal id ids []) <$> Executions.targetWorkflows target := by
  -- A merge keeps first occurrences of the one list after the other, so that its facts are those
  -- of the selection.
  refine ⟨?first, keepFirst_sublist, nodup_map_keepFirst, fun _ => mem_map_mergeWithGlobal_iff,
    ?parts, ?start, mergeWithGlobal_again, Executions.watchedWorkflows_eq_map⟩
  case first =>
    rw [← isNewAt_nil]
    exact keepsAt_keepFirst
  case parts =>
    refine ⟨_, _, mergeWithGlobal_eq_append, keepFirst_sublist, keepFirst_sublist, ?_, ?_⟩
    · intro k
      rw [mem_map_keepFirst, and_iff_left List.not_mem_nil]
    · intro item kept
      exact (mem_map_keepFirst.1 (List.mem_map_of_mem kept)).2
  case start =>
    intro distinct
    rw [mergeWithGlobal_eq_append, keepFirst_of_nodup distinct fun _ _ => List.not_mem_nil]
    exact List.prefix_append _ _

/-- Keys are repeated among the local items, among the shared ones and across both. -/
theorem merge_keeps_first_occurrences_repeated :
    mergeWithGlobal Prod.fst [("scan", 1), ("view", 2), ("scan", 3)]
        [("view", 4), ("mesh", 5), ("mesh", 6)] = [("scan", 1), ("view", 2), ("mesh", 5)] ∧
      KeepsAt
        (IsFirstAt Prod.fst ([("scan", 1), ("view", 2), ("scan", 3)] ++
          [("view", 4), ("mesh", 5), ("mesh", 6)]))
        ([("scan", 1), ("view", 2), ("scan", 3)] ++ [("view", 4), ("mesh", 5), ("mesh", 6)])
        [("scan", 1), ("view", 2), ("mesh", 5)] :=
  ⟨by decide +kernel,
    (merge_keeps_first_occurrences Prod.fst [("scan", 1), ("view", 2), ("scan", 3)]
      [("view", 4), ("mesh", 5), ("mesh", 6)]).1⟩

end Catalog

end AssetRegistry
