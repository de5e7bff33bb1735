import AssetRegistry.Proofs.Frame
import AssetRegistry.Proofs.StoreConsistent
import Mathlib.Data.Prod.Lex
import Mathlib.Data.String.Basic

/-!
# Rows in the order of their creation

The store adds a row at the end of its table and never moves one.  The clock of a registry
goes on with every write, so links and executions stand in their tables in the order of the
times that they were made at, and no two of them were made at the same time.  A listing that
sorts by these times shows the rows as they stand in the table, or the other way round.
-/

namespace AssetRegistry

/-! ### The order of listings -/

/-- What moments sort by. -/
def Moment.place (m : Moment) : String ×ₗ Nat :=
  toLex (m.sortText, m.serial)

/-- Times are ordered as their places are. -/
theorem Moment.before_iff {a b : Moment} : a.before b ↔ a.place < b.place := by
  simp [before, place, Prod.Lex.lt_iff]

/-- Rows sort by their moments, and by their texts where the moments sort alike. -/
theorem Moment.before_or_le_iff {a b : Moment} {x y : String} :
    (a.before b || (!b.before a && x ≤ y)) ↔ toLex (a.place, x) ≤ toLex (b.place, y) := by
  have notAfter : (!b.before a) = true ↔ a.place ≤ b.place := by
    rw [Bool.not_eq_true', ← Bool.not_eq_true, before_iff, not_lt]
  rw [Prod.Lex.le_iff, Bool.or_eq_true, Bool.and_eq_true, notAfter, before_iff, decide_eq_true_eq]
  constructor
  · intro sorted
    rcases sorted with before | ⟨notAfter, byText⟩
    · exact .inl before
    · exact notAfter.lt_or_eq.imp_right fun same => ⟨same, byText⟩
  · intro sorted
    exact sorted.imp_right fun ⟨same, byText⟩ => ⟨same.le, byText⟩

/-- A sorted list is in order where rows sort by their places in a linear order. -/
theorem pairwise_mergeSort_of_place {κ : Type} [LinearOrder κ] {le : ρ → ρ → Bool}
    (place : ρ → κ) (sorts : ∀ a b, le a b ↔ place a ≤ place b) (rows : List ρ) :
    (rows.mergeSort le).Pairwise (le · ·) := by
  apply List.pairwise_mergeSort
  · intro a b c first second
    exact (sorts a c).2 (((sorts a b).1 first).trans ((sorts b c).1 second))
  · intro a b
    rw [Bool.or_eq_true, sorts, sorts]
    exact le_total (place a) (place b)

/-- What links sort by in listings. -/
def AssetLink.place (l : AssetLink) : (String ×ₗ Nat) ×ₗ String :=
  toLex (l.createdAt.place, l.assetLinkId)

/-- Links are ordered by time, and then by id. -/
theorem AssetLink.le_iff {a b : AssetLink} : a.le b ↔ a.place ≤ b.place :=
  Moment.before_or_le_iff

/-- Sorted links are in order. -/
theorem AssetLink.pairwise_mergeSort (links : List AssetLink) :
    (links.mergeSort AssetLink.le).Pairwise (AssetLink.le · ·) :=
  pairwise_mergeSort_of_place place (fun _ _ => le_iff) links

/-- What executions sort by in listings, where the greatest comes first. -/
def Execution.place (e : Execution) : ((String ×ₗ Nat) ×ₗ String)ᵒᵈ :=
  OrderDual.toDual (toLex (e.startedAt.place, e.executionId))

/-- Executions are ordered by time, and then by id. -/
theorem Execution.le_iff {a b : Execution} : a.le b ↔ a.place ≤ b.place :=
  Moment.before_or_le_iff

/-- An execution does not come before a newer one. -/
theorem Execution.not_le_of_before {a b : Execution} (before : a.startedAt.before b.startedAt) :
    ¬a.le b := by
  rw [le_iff, not_le]
  exact Prod.Lex.toLex_lt_toLex.2 (.inl (Moment.before_iff.1 before))

/-- Sorted executions are in order. -/
theorem Execution.pairwise_mergeSort (executions : List Execution) :
    (executions.mergeSort Execution.le).Pairwise (Execution.le · ·) :=
  pairwise_mergeSort_of_place place (fun _ _ => le_iff) executions

/-! ### Rows as they were added -/

/-- Rows stand in the order of the times they were made at, and another time is after all of
    these. -/
structure MadeInOrder (madeAt : ρ → Moment) (now : Moment) (rows : List ρ) : Prop where
  ordered : rows.Pairwise fun row row' => (madeAt row).before (madeAt row')
  past : ∀ row ∈ rows, (madeAt row).before now

namespace MadeInOrder

variable {madeAt : ρ → Moment} {now now' : Moment} {rows rows' : List ρ} {row : ρ}

/-- No rows are in order. -/
theorem nil : MadeInOrder madeAt now [] :=
  ⟨.nil, fun _ member => nomatch member⟩

/-- The past stays the past when the clock goes on. -/
theorem later (inv : MadeInOrder madeAt now rows) (goesOn : now.place ≤ now'.place) :
    MadeInOrder madeAt now' rows where
  ordered := inv.ordered
  past row member :=
    Moment.before_iff.2 ((Moment.before_iff.1 (inv.past row member)).trans_le goesOn)

/-- Rows that are left of rows in order are in order. -/
theorem of_sublist (inv : MadeInOrder madeAt now rows) (fewer : rows'.Sublist rows) :
    MadeInOrder madeAt now rows' where
  ordered := inv.ordered.sublist fewer
  past row member := inv.past row (fewer.subset member)

/-- A change of rows that keeps their times keeps their order. -/
theorem changeRows (inv : MadeInOrder madeAt now rows) {chosen : ρ → Bool} {change : ρ → ρ}
    (keeps : ∀ row, madeAt (change row) = madeAt row) :
    MadeInOrder madeAt now (Store.changeRows rows chosen change) := by
  -- Rows are compared by their times, which a change leaves as they are.
  have kept : ∀ row, madeAt (if chosen row then change row else row) = madeAt row := by
    intro row
    split
    · exact keeps row
    · rfl
  constructor
  · rw [Store.changeRows, List.pairwise_map]
    simpa only [kept] using inv.ordered
  · intro row' member
    obtain ⟨row, there, rfl⟩ := Store.mem_changeRows.1 member
    rw [kept]
    exact inv.past row there

/-- A row that is made now comes after all others. -/
theorem append_now (inv : MadeInOrder madeAt now rows) (new : madeAt row = now)
    (goesOn : now.before now') : MadeInOrder madeAt now' (rows ++ [row]) where
  ordered := by
    rw [List.pairwise_append]
    refine ⟨inv.ordered, List.pairwise_singleton _ _, fun old member row' added => ?_⟩
    rw [List.mem_singleton.1 added, new]
    exact inv.past old member
  past := by
    refine Store.forall_mem_append_singleton
      (inv.later (Moment.before_iff.1 goesOn).le).past ?_
    rw [new]
    exact goesOn

end MadeInOrder

/-! ### The clock -/

namespace Registry

variable {r r' : Registry}

/-- Readings of the clock sort by the writes before them. -/
theorem now_before_now : r.now.before r'.now ↔ r.writes < r'.writes := by
  rw [Moment.before_iff, now, now, Moment.place, Moment.place, Prod.Lex.toLex_lt_toLex]
  simp [Moment.sortText, Moment.serial]

/-- The clock of a registry goes with its writes. -/
theorem place_now_le : r.now.place ≤ r'.now.place ↔ r.writes ≤ r'.writes := by
  rw [← not_lt, ← Moment.before_iff, now_before_now, not_lt]

end Registry

namespace Operation.Step

variable {operation : Operation} {reply : Reply} {r r' : Registry}

/-- Every operation writes once, unless it only reads. -/
theorem writes_eq (step : Step r operation reply r') :
    r'.writes = if operation.isRead then r.writes else r.writes + 1 := by
  cases step
  case read reads => rw [if_pos reads]
  all_goals rfl

/-- A step does not set the clock back. -/
theorem place_now_le (step : Step r operation reply r') : r.now.place ≤ r'.now.place := by
  rw [Registry.place_now_le, step.writes_eq]
  split <;> omega

/-- A step that writes moves the clock on. -/
theorem now_before (step : Step r operation reply r') (writes : operation.isRead = false) :
    r.now.before r'.now := by
  rw [Registry.now_before_now, step.writes_eq, writes]
  exact Nat.lt_succ_self _

/-- An operation keeps links in the order of their creation. -/
theorem links_madeInOrder (step : Step r operation reply r')
    (inv : MadeInOrder AssetLink.createdAt r.now r.store.links) :
    MadeInOrder AssetLink.createdAt r'.now r'.store.links := by
  rcases step.links_cases with fewer | ⟨_, _, ran⟩ | ⟨request, _, rfl, _, ran⟩
  · exact (inv.of_sublist fewer).later step.place_now_le
  · obtain ⟨_, changed⟩ := Store.setLinkTags_eq_ok.1 ran
    rw [← changed]
    refine (inv.changeRows ?_).later step.place_now_le
    exact fun _ => rfl
  · obtain ⟨_, _, added⟩ := Store.insertLink_eq_ok.1 ran
    rw [← added]
    exact inv.append_now rfl (step.now_before rfl)

/-- An operation keeps executions in the order of their starts. -/
theorem executions_madeInOrder (step : Step r operation reply r')
    (inv : MadeInOrder Execution.startedAt r.now r.store.executions) :
    MadeInOrder Execution.startedAt r'.now r'.store.executions := by
  have frame := step.agreesBut
  have goesOn := step.place_now_le
  cases step
  case read => exact inv
  case startExecution ran =>
    obtain ⟨_, _, _, rfl⟩ := Store.insertExecution_eq_ok.1 ran
    exact inv.append_now rfl (Registry.now_before_now.2 (Nat.lt_succ_self _))
  case updateExecutionStatus ran _ =>
    obtain ⟨_, rfl⟩ := Store.finishExecution_eq_ok.1 ran
    refine (inv.changeRows ?_).later goesOn
    exact fun _ => rfl
  -- All other steps leave executions alone, and time does not go back.
  all_goals exact (frame.executions (by simp [tables]) ▸ inv).later goesOn

end Operation.Step

/-! ### Runs -/

namespace Registry.Reachable

variable {linkLimit : Nat} {r : Registry}

/-- Links stand in the order in which they were created. -/
theorem links_ordered (reachable : r.Reachable linkLimit) :
    r.store.links.Pairwise fun l l' => l.createdAt.before l'.createdAt := by
  have inv : MadeInOrder AssetLink.createdAt r.now r.store.links := by
    apply LeadsTo.invariant
      (motive := fun r => MadeInOrder AssetLink.createdAt r.now r.store.links) reachable .nil
    · intro r inv
      exact inv.later (Registry.place_now_le.2 (Nat.le_refl _))
    · intro r operation reply r' step inv
      exact step.links_madeInOrder inv
  exact inv.ordered

/-- Executions stand in the order in which they were started. -/
theorem executions_ordered (reachable : r.Reachable linkLimit) :
    r.store.executions.Pairwise fun e e' => e.startedAt.before e'.startedAt := by
  have inv : MadeInOrder Execution.startedAt r.now r.store.executions := by
    apply LeadsTo.invariant
      (motive := fun r => MadeInOrder Execution.startedAt r.now r.store.executions) reachable .nil
    · intro r inv
      exact inv.later (Registry.place_now_le.2 (Nat.le_refl _))
    · intro r operation reply r' step inv
      exact step.executions_madeInOrder inv
  exact inv.ordered

end Registry.Reachable

/-! ### Listings -/

namespace Store

variable {s : Store}

/-- Links that stand in the order of their creation are sorted already. -/
theorem mergeSort_filter_links
    (ordered : s.links.Pairwise fun l l' => l.createdAt.before l'.createdAt)
    (chosen : AssetLink → Bool) :
    (s.links.filter chosen).mergeSort AssetLink.le = s.links.filter chosen := by
  apply List.mergeSort_of_pairwise
  exact (ordered.filter chosen).imp fun {l l'} before => by rw [AssetLink.le, before]; rfl

/-- The newest executions come first, which stand last. -/
theorem listExecutions_eq_reverse
    (ordered : s.executions.Pairwise fun e e' => e.startedAt.before e'.startedAt)
    (asset : AssetKey) (workflowId : String) :
    s.listExecutions asset workflowId =
      (s.executions.filter (·.isOn asset workflowId)).reverse := by
  have chosen := ordered.filter (·.isOn asset workflowId)
  have backwards : (s.executions.filter (·.isOn asset workflowId)).reverse.Pairwise
      (Execution.le · ·) :=
    (List.pairwise_reverse.2 chosen).imp fun {e e'} before => by rw [Execution.le, before]; rfl
  -- Of two executions one was started first, and sorts last.
  have apart : ∀ e ∈ s.executions.filter (·.isOn asset workflowId),
      ∀ e' ∈ s.executions.filter (·.isOn asset workflowId), e.le e' → e'.le e → e = e' := by
    apply List.Pairwise.forall_of_forall_of_flip
    · intro e _ _ _
      rfl
    · apply chosen.imp
      intro e e' before le _
      exact absurd le (Execution.not_le_of_before before)
    · apply chosen.imp
      intro e e' before _ le
      exact absurd le (Execution.not_le_of_before before)
  refine List.Perm.eq_of_pairwise ?_ (Execution.pairwise_mergeSort _) backwards
    ((List.mergeSort_perm _ _).trans (List.reverse_perm _).symm)
  intro e e' there there' le le'
  exact apart e (List.mem_mergeSort.1 there) e' (List.mem_reverse.1 there') le le'

end Store

end AssetRegistry
