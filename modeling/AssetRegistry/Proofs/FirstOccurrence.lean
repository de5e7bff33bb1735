import AssetRegistry.Catalog.Databases
import Mathlib.Data.List.Basic

/-!
# First occurrences of keys

`keepFirst` goes through a list and keeps the items with keys that it has not seen.  The seen
keys matter only as a set, and what is kept has the keys that are new, each of them once, in the
order of their first occurrences.
-/

namespace AssetRegistry.Catalog

variable {κ : Type} [BEq κ] {key : α → κ} {seen seen' : List κ} {items others : List α} {k : κ}

/-- What is kept stands in the order in which it stood. -/
theorem keepFirst_sublist : (keepFirst key seen items).Sublist items := by
  induction items generalizing seen with
  | nil => exact .slnil
  | cons item items ih =>
    rw [keepFirst]
    split
    · exact ih.cons item
    · exact ih.cons_cons item

variable [LawfulBEq κ]

/-- Every key is kept that was not seen before. -/
theorem mem_map_keepFirst :
    k ∈ (keepFirst key seen items).map key ↔ k ∈ items.map key ∧ k ∉ seen := by
  induction items generalizing seen with
  | nil => simp [keepFirst]
  | cons item items ih =>
    rw [keepFirst]
    split
    -- The first item is dropped, and its key counts as seen before and after.
    case isTrue old =>
      have old : key item ∈ seen := by simpa using old
      rw [ih, List.map_cons, List.mem_cons]
      constructor
      · exact fun ⟨among, new⟩ => ⟨.inr among, new⟩
      · rintro ⟨rfl | among, new⟩
        · exact absurd old new
        · exact ⟨among, new⟩
    -- The first item is kept, and its key is the one that the others must not have.
    case isFalse new =>
      have new : key item ∉ seen := by simpa using new
      rw [List.map_cons, List.mem_cons, ih, List.map_cons, List.mem_cons, List.mem_cons, not_or]
      constructor
      · rintro (rfl | ⟨among, _, unseen⟩)
        · exact ⟨.inl rfl, new⟩
        · exact ⟨.inr among, unseen⟩
      · rintro ⟨rfl | among, unseen⟩
        · exact .inl rfl
        · by_cases same : k = key item
          · exact .inl same
          · exact .inr ⟨among, same, unseen⟩

/-- Where the keys are the items themselves, those are kept that were not seen before. -/
theorem mem_keepFirst_id {keys : List κ} : k ∈ keepFirst id seen keys ↔ k ∈ keys ∧ k ∉ seen := by
  have kept : k ∈ (keepFirst id seen keys).map id ↔ k ∈ keys.map id ∧ k ∉ seen :=
    mem_map_keepFirst
  rwa [List.map_id, List.map_id] at kept

/-- No key is kept twice. -/
theorem nodup_map_keepFirst : ((keepFirst key seen items).map key).Nodup := by
  induction items generalizing seen with
  | nil => exact .nil
  | cons item items ih =>
    rw [keepFirst]
    split
    · exact ih
    · rw [List.map_cons, List.nodup_cons]
      exact ⟨fun again => (mem_map_keepFirst.1 again).2 List.mem_cons_self, ih⟩

/-- Only the set of seen keys matters. -/
theorem keepFirst_congr (same : ∀ k, k ∈ seen ↔ k ∈ seen') :
    keepFirst key seen items = keepFirst key seen' items := by
  induction items generalizing seen seen' with
  | nil => rfl
  | cons item items ih =>
    have first : seen.contains (key item) = seen'.contains (key item) := by
      rw [Bool.eq_iff_iff, List.contains_iff_mem, List.contains_iff_mem, same]
    have later (k : κ) : k ∈ key item :: seen ↔ k ∈ key item :: seen' := by
      rw [List.mem_cons, List.mem_cons, same]
    rw [keepFirst, keepFirst, first, ih same, ih later]

/-- Of what comes after other items, those are kept whose keys are new there. -/
theorem keepFirst_append :
    keepFirst key seen (items ++ others) =
      keepFirst key seen items ++ keepFirst key (items.map key ++ seen) others := by
  induction items generalizing seen with
  | nil => rfl
  | cons item items ih =>
    rw [List.cons_append, keepFirst, keepFirst]
    split
    -- Whether the key of the first item is put in front does not matter if it was seen.
    case isTrue old =>
      have old : key item ∈ seen := by simpa using old
      have same (k : κ) : k ∈ items.map key ++ seen ↔ k ∈ (item :: items).map key ++ seen := by
        rw [List.map_cons, List.cons_append, List.mem_cons]
        exact (or_iff_right_of_imp fun same => same ▸ List.mem_append_right _ old).symm
      rw [ih, keepFirst_congr same]
    case isFalse =>
      have same (k : κ) :
          k ∈ items.map key ++ key item :: seen ↔ k ∈ (item :: items).map key ++ seen := by
        simp only [List.map_cons, List.cons_append, List.mem_append, List.mem_cons, or_left_comm]
      rw [ih, keepFirst_congr same, List.cons_append]

/-- Nothing is kept where every key was seen. -/
theorem keepFirst_eq_nil (old : ∀ item ∈ items, key item ∈ seen) :
    keepFirst key seen items = [] := by
  have none : (keepFirst key seen items).map key = [] :=
    List.eq_nil_iff_forall_not_mem.2 fun k kept => by
      obtain ⟨among, unseen⟩ := mem_map_keepFirst.1 kept
      obtain ⟨item, member, rfl⟩ := List.mem_map.1 among
      exact unseen (old item member)
  exact List.map_eq_nil_iff.1 none

/-- Items with distinct keys that were not seen before are all kept. -/
theorem keepFirst_of_nodup (distinct : (items.map key).Nodup)
    (unseen : ∀ item ∈ items, key item ∉ seen) : keepFirst key seen items = items := by
  induction items generalizing seen with
  | nil => rfl
  | cons item items ih =>
    rw [List.map_cons, List.nodup_cons] at distinct
    have new : ¬ seen.contains (key item) = true := by
      simpa using unseen item List.mem_cons_self
    -- The key of the first item is not seen again.
    have stillUnseen : ∀ item' ∈ items, key item' ∉ key item :: seen := by
      intro item' member old
      rcases List.mem_cons.1 old with same | old
      · exact distinct.1 (same ▸ List.mem_map_of_mem member)
      · exact unseen item' (List.mem_cons_of_mem _ member) old
    rw [keepFirst, if_neg new, ih distinct.2 stillUnseen]

/-- Keys are kept in the order of their first occurrences. -/
theorem pairwise_keepFirst_id (seen keys : List κ) :
    (keepFirst id seen keys).Pairwise fun i j => keys.idxOf i < keys.idxOf j := by
  induction keys generalizing seen with
  | nil => exact .nil
  | cons k keys ih =>
    -- Whatever is kept behind the first key is another one, and one place further than before.
    have shifted : ∀ seen', k ∈ seen' → (keepFirst id seen' keys).Pairwise fun i j =>
        (k :: keys).idxOf i < (k :: keys).idxOf j := by
      intro seen' old
      refine (ih seen').imp_of_mem fun {i j} first second less => ?_
      have other : ∀ {i}, i ∈ keepFirst id seen' keys → k ≠ i := fun kept same =>
        (mem_keepFirst_id.1 kept).2 (same ▸ old)
      rw [List.idxOf_cons_ne _ (other first), List.idxOf_cons_ne _ (other second)]
      exact Nat.succ_lt_succ less
    rw [keepFirst]
    split
    case isTrue old => exact shifted seen (by simpa using old)
    case isFalse =>
      refine List.pairwise_cons.2 ⟨fun j kept => ?_, shifted _ List.mem_cons_self⟩
      have other : k ≠ j := fun same =>
        (mem_keepFirst_id.1 kept).2 (same ▸ List.mem_cons_self)
      show (k :: keys).idxOf k < (k :: keys).idxOf j
      rw [List.idxOf_cons_self, List.idxOf_cons_ne _ other]
      exact Nat.succ_pos _

end AssetRegistry.Catalog
