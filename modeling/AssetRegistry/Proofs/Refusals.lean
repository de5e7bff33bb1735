import AssetRegistry.Proofs.Action

/-!
# Refusals in order

What a request is refused for can be told by a list of conditions with their errors, in the
order in which they count, without a word on how they are checked.  The outcome of the checks
is then settled: it is the error of the first condition that holds, and a success where none
holds.  Checks that follow each other are settled by their conditions in a row.
-/

namespace AssetRegistry

open AssetRegistry.Action

/-- A condition under which a request is refused, and the error that says so. -/
structure Refusal where
  holds : Prop
  error : RegistryError

/-- The first of the conditions that holds has this error. -/
def Refusal.IsFirst (refusals : List Refusal) (e : RegistryError) : Prop :=
  ∃ before refusal after, refusals = before ++ refusal :: after ∧ refusal.holds ∧
    refusal.error = e ∧ ∀ earlier ∈ before, ¬ earlier.holds

section IsFirst

variable {refusal : Refusal} {refusals others : List Refusal} {e : RegistryError}

/-- The first refusal is the one that holds, or else the first of the others. -/
theorem Refusal.isFirst_cons :
    IsFirst (refusal :: refusals) e ↔
      refusal.holds ∧ refusal.error = e ∨ ¬ refusal.holds ∧ IsFirst refusals e := by
  constructor
  · rintro ⟨before, first, after, split, holds, error, passed⟩
    -- Either the first condition holds, or it is among those before the one that does.
    cases before with
    | nil =>
      obtain ⟨rfl, rfl⟩ := List.cons.inj split
      exact .inl ⟨holds, error⟩
    | cons earlier before =>
      obtain ⟨rfl, rfl⟩ := List.cons.inj split
      rw [List.forall_mem_cons] at passed
      exact .inr ⟨passed.1, before, first, after, rfl, holds, error, passed.2⟩
  · rintro (⟨holds, error⟩ | ⟨fails, before, first, after, rfl, rest⟩)
    · exact ⟨[], refusal, refusals, rfl, holds, error, by simp⟩
    · exact ⟨refusal :: before, first, after, rfl, rest.1, rest.2.1,
        List.forall_mem_cons.2 ⟨fails, rest.2.2⟩⟩

/-- Conditions come first after other ones only if none of these holds. -/
theorem Refusal.isFirst_append :
    IsFirst (refusals ++ others) e ↔
      IsFirst refusals e ∨ (∀ refusal ∈ refusals, ¬ refusal.holds) ∧ IsFirst others e := by
  induction refusals with
  | nil => simp [IsFirst]
  | cons refusal refusals ih =>
    rw [List.cons_append, isFirst_cons, isFirst_cons, ih, List.forall_mem_cons]
    by_cases holds : refusal.holds <;> simp [holds]

/-- The first refusal is one of them, and it holds. -/
theorem Refusal.IsFirst.exists_mem (first : IsFirst refusals e) :
    ∃ refusal ∈ refusals, refusal.holds ∧ refusal.error = e := by
  obtain ⟨before, refusal, after, rfl, holds, error, _⟩ := first
  exact ⟨refusal, by simp, holds, error⟩

/-- Where some condition holds, one of them is the first. -/
theorem Refusal.exists_isFirst (some : ∃ refusal ∈ refusals, refusal.holds) :
    ∃ e, IsFirst refusals e := by
  induction refusals with
  | nil => simp at some
  | cons refusal refusals ih =>
    simp only [isFirst_cons]
    -- If the first condition fails, a later one holds, and the first of those is behind it.
    by_cases holds : refusal.holds
    · exact ⟨_, .inl ⟨holds, rfl⟩⟩
    · obtain ⟨later, member, laterHolds⟩ := some
      have behind : later ∈ refusals := by
        rcases List.mem_cons.1 member with rfl | behind
        · exact absurd laterHolds holds
        · exact behind
      obtain ⟨e, first⟩ := ih ⟨later, behind, laterHolds⟩
      exact ⟨e, .inr ⟨holds, first⟩⟩

end IsFirst

/-- The outcome of checks made in order: the error of the first condition that holds, or else
    a success. -/
def Refusal.Settle : List Refusal → Except RegistryError α → Prop
  | [], outcome => ∃ a, outcome = .ok a
  | refusal :: refusals, outcome =>
    (refusal.holds → outcome = .error refusal.error) ∧
      (¬ refusal.holds → Settle refusals outcome)

namespace Refusal.Settle

variable {refusals others : List Refusal} {outcome : Except RegistryError α} {c : Prop}
  {e : RegistryError}

/-- What is settled by refusals ends with the first that holds. -/
theorem eq_error_of_isFirst (settle : Settle refusals outcome) (first : IsFirst refusals e) :
    outcome = .error e := by
  obtain ⟨before, refusal, after, rfl, holds, rfl, passed⟩ := first
  induction before with
  | nil => exact settle.1 holds
  | cons earlier before ih =>
    have goesOn := settle.2 (passed earlier List.mem_cons_self)
    exact ih goesOn fun earlier member => passed earlier (List.mem_cons_of_mem _ member)

/-- Checks fail for the first condition that holds only. -/
theorem isFirst_of_eq_error (settle : Settle refusals outcome) (failed : outcome = .error e) :
    IsFirst refusals e := by
  induction refusals with
  | nil =>
    obtain ⟨a, passed⟩ := settle
    exact nomatch passed.symm.trans failed
  | cons refusal refusals ih =>
    by_cases holds : refusal.holds
    · have same := (settle.1 holds).symm.trans failed
      exact ⟨[], refusal, refusals, rfl, holds, Except.error.inj same, by simp⟩
    · obtain ⟨before, first, after, rfl, rest⟩ := ih (settle.2 holds)
      refine ⟨refusal :: before, first, after, rfl, rest.1, rest.2.1, ?_⟩
      exact List.forall_mem_cons.2 ⟨holds, rest.2.2⟩

/-- The checks pass exactly where no condition holds. -/
theorem exists_eq_ok_iff (settle : Settle refusals outcome) :
    (∃ a, outcome = .ok a) ↔ ∀ refusal ∈ refusals, ¬ refusal.holds := by
  induction refusals with
  | nil =>
    obtain ⟨a, passed⟩ := settle
    simp [passed]
  | cons refusal refusals ih =>
    rw [List.forall_mem_cons]
    by_cases holds : refusal.holds
    · simp [settle.1 holds, holds]
    · rw [ih (settle.2 holds)]
      simp [holds]

/-- A check of one condition. -/
theorem ite {holds : Prop} [Decidable holds] (same : holds ↔ c) (a : α) :
    Settle [⟨c, e⟩] (if holds then .error e else .ok a : Except RegistryError α) := by
  constructor
  · intro refused
    rw [if_pos (same.2 refused)]
  · intro passed
    rw [if_neg (mt same.1 passed)]
    exact ⟨a, rfl⟩

/-- Conditions that do not hold count for nothing at the end of the list. -/
theorem append_of_not (settle : Settle refusals outcome)
    (passed : ∀ refusal ∈ others, ¬ refusal.holds) : Settle (refusals ++ others) outcome := by
  induction refusals with
  | nil =>
    -- What passed the first conditions passes the others too.
    obtain ⟨a, rfl⟩ := settle
    induction others with
    | nil => exact ⟨a, rfl⟩
    | cons refusal others ih =>
      constructor
      · intro holds
        exact absurd holds (passed refusal List.mem_cons_self)
      · intro _
        exact ih fun later member => passed later (List.mem_cons_of_mem _ member)
  | cons refusal refusals ih =>
    refine ⟨settle.1, ?_⟩
    intro fails
    exact ih (settle.2 fails)

/-- Two conditions in a row with one error are one condition. -/
theorem merge {c' : Prop} (settle : Settle [⟨c, e⟩, ⟨c', e⟩] outcome) :
    Settle [⟨c ∨ c', e⟩] outcome := by
  by_cases holds : c
  · constructor
    · intro _
      exact settle.1 holds
    · intro fails
      exact absurd (.inl holds) fails
  · -- The first condition does not hold, and the second one decides.
    have rest := settle.2 holds
    constructor
    · intro either
      exact rest.1 (either.resolve_left holds)
    · intro fails
      exact rest.2 (mt .inr fails)

/-- Checks that go on after other ones. -/
theorem bind {f : α → Except RegistryError β} (settle : Settle refusals outcome)
    (settleAfter : ∀ a, outcome = .ok a → Settle others (f a)) :
    Settle (refusals ++ others) (outcome >>= f) := by
  induction refusals with
  | nil =>
    -- All earlier checks have passed, and the later ones settle the outcome.
    obtain ⟨a, rfl⟩ := settle
    exact settleAfter a rfl
  | cons refusal refusals ih =>
    constructor
    · intro holds
      rw [settle.1 holds]
      rfl
    · intro fails
      exact ih (settle.2 fails)

end Refusal.Settle

/-- An action that leaves a registry as it is, and whose outcome there is settled by
    conditions. -/
structure Action.Checks (refusals : List Refusal) (x : Action α) (r : Registry) : Prop where
  reads : (x.perform r).2 = r
  settle : Refusal.Settle refusals (x.perform r).1

namespace Action.Checks

variable {refusals others : List Refusal} {x : Action α} {f : α → Action β} {r : Registry}

/-- A check of the request is settled as its outcome is. -/
theorem check {outcome : Except RegistryError α} (settle : Refusal.Settle refusals outcome) :
    Checks refusals (check outcome) r := by
  cases outcome <;> exact ⟨rfl, settle⟩

/-- An action whose outcome is settled is a check. -/
theorem of_perform {outcome : Except RegistryError α} (performed : x.perform r = (outcome, r))
    (settle : Refusal.Settle refusals outcome) : Checks refusals x r := by
  constructor
  · rw [performed]
  · rw [performed]
    exact settle

/-- Two checks in a row look at their refusals in a row. -/
theorem bind (checks : Checks refusals x r)
    (checksAfter : ∀ a, x.perform r = (.ok a, r) → Checks others (f a) r) :
    Checks (refusals ++ others) (x >>= f) r := by
  have outcomes : (x >>= f).perform r =
      ((x.perform r).1 >>= fun a => ((f a).perform r).1, r) := by
    rw [perform_bind_of_unchanged checks.reads]
    cases h : (x.perform r).1 with
    | error e => rfl
    | ok a => exact Prod.ext rfl (checksAfter a (Prod.ext h checks.reads)).reads
  apply of_perform outcomes
  apply checks.settle.bind
  intro a passed
  exact (checksAfter a (Prod.ext passed checks.reads)).settle

/-- A check of one condition on what is stored. -/
theorem query_ite {read : Store → β} {failed : β → Prop} [DecidablePred failed] {c : Prop}
    {e : RegistryError} (ready : r.access = .ready) (same : failed (read r.store) ↔ c) :
    Checks [⟨c, e⟩] (query read >>= fun b => if failed b then throw e else pure ()) r := by
  have performed : (query read >>= fun b => if failed b then throw e else pure ()).perform r =
      (if failed (read r.store) then .error e else .ok (), r) := by
    rw [perform_query_bind ready]
    split <;> rfl
  exact of_perform performed (.ite same ())

/-- Checks of several things, one after another. -/
theorem forM {g : γ → Action PUnit} {refusal : γ → Refusal} {cs : List γ}
    (each : ∀ c ∈ cs, Checks [refusal c] (g c) r) : Checks (cs.map refusal) (cs.forM g) r := by
  induction cs with
  | nil => exact ⟨rfl, (), rfl⟩
  | cons c cs ih =>
    have rest := ih fun c' member => each c' (List.mem_cons_of_mem _ member)
    exact (each c List.mem_cons_self).bind fun _ _ => rest

/-- A request is refused for the first condition that holds, whatever would follow. -/
theorem perform_bind_of_isFirst {e : RegistryError} (checks : Checks refusals x r)
    (first : Refusal.IsFirst refusals e) (f : α → Action β) :
    (x >>= f).perform r = (.error e, r) :=
  perform_bind_of_error (Prod.ext (checks.settle.eq_error_of_isFirst first) checks.reads) f

/-- Where no condition holds, the checks pass. -/
theorem exists_perform (checks : Checks refusals x r)
    (passed : ∀ refusal ∈ refusals, ¬ refusal.holds) : ∃ a, x.perform r = (.ok a, r) := by
  obtain ⟨a, ok⟩ := checks.settle.exists_eq_ok_iff.2 passed
  exact ⟨a, Prod.ext ok checks.reads⟩

end Action.Checks

end AssetRegistry
