import AssetRegistry.Registry

/-!
# How actions run

What the outcome of a composed action says about its parts.  The lemmas that end in
`eq_ok` open a run that succeeded: they are equivalences, so that rewriting with them
turns the run of a `do` block into the outcomes of its lines.

Two properties of actions cover the runs that fail.  An action `Reads` where it never
changes the registry, and it is `Atomic` where a failure leaves the registry as it
was.  Reading and then doing something atomic is atomic.
-/

namespace AssetRegistry

/-! ### Statements on registries -/

namespace Registry

/-- The registry after a statement that left a store. -/
def wrote (r : Registry) (store : Store) : Registry :=
  { r with store, writes := r.writes + 1 }

variable {r r' : Registry} {read : Store → α} {statement : Statement α} {a : α}

/-- Only a registry whose store can be reached is read. -/
theorem query_eq_ok : r.query read = .ok a ↔ r.access = .ready ∧ read r.store = a := by
  unfold query
  cases r.access <;> simp

/-- A registry runs a statement on its store, and counts it. -/
theorem execute_eq_ok :
    r.execute statement = (.ok a, r') ↔
      r.access = .ready ∧ ∃ s, statement r.store = .ok (a, s) ∧ r.wrote s = r' := by
  unfold execute query
  cases access : r.access <;> try simp
  cases statement r.store with
  | error e => simp
  | ok answer => simp [wrote, access, Prod.ext_iff, and_assoc]

/-- A registry without a store answers no query. -/
theorem query_of_not_ready (closed : r.access ≠ .ready) : r.query read = .error .unavailable := by
  unfold query
  cases access : r.access <;> simp_all

/-- A registry without a store runs no statement, and stays as it is. -/
theorem execute_of_not_ready (closed : r.access ≠ .ready) :
    r.execute statement = (.error .unavailable, r) := by
  unfold execute
  rw [query_of_not_ready closed]

/-- While the store can be reached, the statement decides. -/
theorem execute_of_ready (ready : r.access = .ready) :
    r.execute statement =
      match statement r.store with
      | .ok (a, s) => (.ok a, r.wrote s)
      | .error e => (.error e, r) := by
  unfold execute
  rw [query_eq_ok.2 ⟨ready, rfl⟩]
  cases statement r.store <;> rfl

/-- A statement that is refused leaves the registry as it is. -/
theorem eq_of_execute_eq_error {e : StoreError} (h : r.execute statement = (.error e, r')) :
    r' = r := by
  unfold execute at h
  split at h <;> simp_all

end Registry

namespace Action

variable {r r' : Registry} {x : Action α} {f : α → Action β} {a : α} {b : β}
  {e : RegistryError}

/-! ### Runs -/

/-- The second part runs where the first part succeeded, on the registry after it. -/
theorem perform_bind (x : Action α) (f : α → Action β) (r : Registry) :
    (x >>= f).perform r =
      match x.perform r with
      | (.ok a, r₁) => (f a).perform r₁
      | (.error e, r₁) => (.error e, r₁) := by
  show (match x.perform r with | (outcome, r₁) => ExceptT.bindCont f outcome r₁) = _
  rcases x.perform r with ⟨_ | a, r₁⟩ <;> rfl

/-- What follows on the registry's state gets it. -/
theorem perform_getThe_bind (f : Registry → Action α) (r : Registry) :
    ((getThe Registry : Action Registry) >>= f).perform r = (f r).perform r := by
  rw [perform_bind]
  rfl

/-- What follows on a part of the registry's state gets it. -/
theorem perform_get_bind (part : Registry → α) (f : α → Action β) (r : Registry) :
    (get part >>= f).perform r = (f (part r)).perform r := by
  rw [perform_bind]
  rfl

/-- A query that is not answered is a failure of the store. -/
theorem perform_query (read : Store → α) (r : Registry) :
    (query read).perform r = ((r.query read).mapError fun _ => .database, r) := by
  rw [query, perform_getThe_bind]
  cases r.query read <;> rfl

/-- While the store can be reached, a query hands on what it reads. -/
theorem perform_query_bind (ready : r.access = .ready) (read : Store → α) (f : α → Action β) :
    (query read >>= f).perform r = (f (read r.store)).perform r := by
  rw [perform_bind, perform_query, Registry.query_eq_ok.2 ⟨ready, rfl⟩]
  rfl

/-- What follows on a statement gets its outcome, also if that is a refusal. -/
theorem perform_attempt_bind (statement : Statement α) (f : Except StoreError α → Action β)
    (r : Registry) :
    (attempt statement >>= f).perform r =
      (f (r.execute statement).1).perform (r.execute statement).2 := by
  rw [perform_bind]
  rfl

/-- A statement that is refused is worded, and nothing else is done. -/
theorem perform_execute (statement : Statement α) (failure : StoreError → RegistryError)
    (r : Registry) :
    (execute statement failure).perform r =
      ((r.execute statement).1.mapError failure, (r.execute statement).2) := by
  rw [execute, perform_attempt_bind]
  cases (r.execute statement).1 <;> rfl

/-- A statement that runs leaves its store. -/
theorem perform_execute_of_ok {statement : Statement α} {failure : StoreError → RegistryError}
    {s : Store} (ready : r.access = .ready) (ran : statement r.store = .ok (a, s)) :
    (execute statement failure).perform r = (.ok a, r.wrote s) := by
  rw [perform_execute, Registry.execute_of_ready ready, ran]
  rfl

/-- A statement that is refused is a failure as it is worded. -/
theorem perform_execute_of_error {statement : Statement α}
    {failure : StoreError → RegistryError} {reason : StoreError} (ready : r.access = .ready)
    (refused : statement r.store = .error reason) :
    (execute statement failure).perform r = (.error (failure reason), r) := by
  rw [perform_execute, Registry.execute_of_ready ready, refused]
  rfl

/-- What follows on a part that passes runs on the registry after that. -/
theorem perform_bind_of_ok (passed : x.perform r = (.ok a, r')) (f : α → Action β) :
    (x >>= f).perform r = (f a).perform r' := by
  rw [perform_bind, passed]

/-- Nothing follows on a failure. -/
theorem perform_bind_of_error (failed : x.perform r = (.error e, r')) (f : α → Action β) :
    (x >>= f).perform r = (.error e, r') := by
  rw [perform_bind, failed]

/-- What follows on a part that leaves the registry as it is runs on the same registry. -/
theorem perform_bind_of_unchanged (unchanged : (x.perform r).2 = r) (f : α → Action β) :
    (x >>= f).perform r =
      match (x.perform r).1 with
      | .ok a => (f a).perform r
      | .error e => (.error e, r) := by
  rw [perform_bind]
  rcases h : x.perform r with ⟨outcome, r₁⟩
  rw [h] at unchanged
  subst unchanged
  cases outcome <;> rfl

/-- A success has its answer changed. -/
theorem perform_map_of_ok (passed : x.perform r = (.ok a, r')) (g : α → β) :
    (g <$> x).perform r = (.ok (g a), r') := by
  rw [map_eq_pure_bind, perform_bind_of_ok passed]
  rfl

/-- A failure has no answer that could be changed. -/
theorem perform_map_of_error (failed : x.perform r = (.error e, r')) (g : α → β) :
    (g <$> x).perform r = (.error e, r') := by
  rw [map_eq_pure_bind]
  exact perform_bind_of_error failed _

/-- A change of the answer neither makes a failure nor hides one. -/
theorem map_failed_iff {g : α → β} :
    ((g <$> x).perform r).1 = .error e ↔ (x.perform r).1 = .error e := by
  rw [map_eq_pure_bind, perform_bind]
  rcases x.perform r with ⟨_ | a, r₁⟩
  · simp
  · constructor
    · intro failed
      exact nomatch failed
    · intro failed
      exact nomatch failed

/-- What follows on a refusal of what was read follows where that passed. -/
theorem bind_ite_throw {c : α → Prop} [DecidablePred c] {rest : Action β} :
    (x >>= fun a => if c a then throw e >>= fun _ : PUnit => rest else rest) =
      (x >>= fun a => if c a then throw e else pure PUnit.unit) >>= fun _ => rest := by
  rw [bind_assoc]
  congr 1
  funext a
  split <;> rfl

/-! ### Runs that succeed -/

/-- Another wording of failures makes no success. -/
theorem mapError_eq_ok {ε ε' : Type} {outcome : Except ε α} {word : ε → ε'} :
    outcome.mapError word = .ok a ↔ outcome = .ok a := by
  cases outcome with
  | error e =>
    show (Except.error (word e) : Except ε' α) = .ok a ↔ _
    simp
  | ok b =>
    show (Except.ok b : Except ε' α) = .ok a ↔ _
    simp

/-- Two parts succeed where the first does, and then the second on what it left. -/
theorem bind_eq_ok :
    (x >>= f).perform r = (.ok b, r') ↔
      ∃ a r₁, x.perform r = (.ok a, r₁) ∧ (f a).perform r₁ = (.ok b, r') := by
  rw [perform_bind]
  rcases x.perform r with ⟨_ | a, r₁⟩ <;> simp [and_assoc]

/-- An answer that is there already leaves the registry as it is. -/
theorem pure_eq_ok {a' : α} : (pure a : Action α).perform r = (.ok a', r') ↔ a = a' ∧ r = r' := by
  show (Except.ok a, r) = _ ↔ _
  simp

/-- A refusal is no success. -/
theorem throw_eq_ok : (throw e : Action α).perform r = (.ok a, r') ↔ False := by
  show (Except.error e, r) = _ ↔ _
  simp

/-- A change of the answer succeeds where the answer is there. -/
theorem map_eq_ok {g : α → β} :
    (g <$> x).perform r = (.ok b, r') ↔ ∃ a, x.perform r = (.ok a, r') ∧ g a = b := by
  rw [map_eq_pure_bind, bind_eq_ok]
  simp only [pure_eq_ok]
  constructor
  · rintro ⟨a, _, ran, changed, rfl⟩
    exact ⟨a, ran, changed⟩
  · rintro ⟨a, ran, changed⟩
    exact ⟨a, r', ran, changed, rfl⟩

/-- A part of the registry's state is always there. -/
theorem get_eq_ok {part : Registry → α} :
    (get part).perform r = (.ok a, r') ↔ part r = a ∧ r = r' :=
  pure_eq_ok

/-- A change of the registry's state always succeeds. -/
theorem modify_eq_ok {change : Registry → Registry} {u : PUnit} :
    (modify change : Action PUnit).perform r = (.ok u, r') ↔ change r = r' := by
  show (Except.ok PUnit.unit, change r) = _ ↔ _
  simp

/-- A check succeeds where its outcome does, and leaves the registry as it is. -/
theorem check_eq_ok {outcome : Except RegistryError α} :
    (check outcome).perform r = (.ok a, r') ↔ outcome = .ok a ∧ r = r' := by
  cases outcome <;> simp [check, pure_eq_ok, throw_eq_ok]

/-- What was looked up is passed on where it was found. -/
theorem orElse_eq_ok {found : Option α} :
    (orElse e found).perform r = (.ok a, r') ↔ found = some a ∧ r = r' := by
  cases found <;> simp [orElse, pure_eq_ok, throw_eq_ok]

/-- A query succeeds where the store can be reached. -/
theorem query_eq_ok {read : Store → α} :
    (query read).perform r = (.ok a, r') ↔ r.access = .ready ∧ read r.store = a ∧ r = r' := by
  rw [perform_query, Prod.mk.injEq, mapError_eq_ok, Registry.query_eq_ok, and_assoc]

/-- What follows on a refusal succeeds only without its reason. -/
theorem ite_throw_eq_ok {c : Prop} [Decidable c] :
    (if c then throw e else x).perform r = (.ok a, r') ↔ ¬c ∧ x.perform r = (.ok a, r') := by
  by_cases h : c <;> simp [h, throw_eq_ok]

/-- What a condition allows succeeds only under the condition. -/
theorem ite_else_throw_eq_ok {c : Prop} [Decidable c] :
    (if c then x else throw e).perform r = (.ok a, r') ↔ c ∧ x.perform r = (.ok a, r') := by
  by_cases h : c <;> simp [h, throw_eq_ok]

/-- A statement succeeds where the store can be reached and runs it. -/
theorem execute_eq_ok {statement : Statement α} {failure : StoreError → RegistryError} :
    (execute statement failure).perform r = (.ok a, r') ↔
      r.access = .ready ∧ ∃ s, statement r.store = .ok (a, s) ∧ r.wrote s = r' := by
  rw [perform_execute, Prod.mk.injEq, mapError_eq_ok, ← Registry.execute_eq_ok, Prod.ext_iff]

/-! ### Actions that only read -/

/-- An action that leaves every registry as it is. -/
def Reads (x : Action α) : Prop :=
  ∀ r, (x.perform r).2 = r

namespace Reads

/-- The registry after reading is the one before. -/
theorem eq (reads : Reads x) (h : x.perform r = (outcome, r')) : r' = r := by
  rw [← reads r, h]

/-- An answer that is there already changes nothing. -/
theorem pure (a : α) : Reads (pure a) :=
  fun _ => rfl

/-- A refusal changes nothing. -/
theorem throw (e : RegistryError) : Reads (throw e : Action α) :=
  fun _ => rfl

/-- Reading and then reading more changes nothing. -/
theorem bind (reads : Reads x) (readsAfter : ∀ a, Reads (f a)) : Reads (x >>= f) := by
  intro r
  rw [perform_bind]
  rcases h : x.perform r with ⟨_ | a, r₁⟩
  · exact reads.eq h
  · rw [← reads.eq h]
    exact readsAfter a r₁

/-- A change of the answer changes nothing in the registry. -/
theorem map (reads : Reads x) (g : α → β) : Reads (g <$> x) := by
  rw [map_eq_pure_bind]
  exact reads.bind fun a => pure (g a)

/-- A look at the registry's state changes nothing. -/
theorem get (part : Registry → α) : Reads (get part) :=
  fun _ => rfl

/-- A check of the request changes nothing. -/
theorem check (outcome : Except RegistryError α) : Reads (check outcome) := by
  cases outcome
  · exact throw _
  · exact pure _

/-- A refusal of what is missing changes nothing. -/
theorem orElse (e : RegistryError) (found : Option α) : Reads (orElse e found) := by
  cases found
  · exact throw _
  · exact pure _

/-- A query changes nothing. -/
theorem query (read : Store → α) : Reads (query read) := by
  intro r
  rw [perform_query]

/-- Of a choice, both ways have to change nothing. -/
theorem ite {c : Prop} [Decidable c] {y : Action α} (reads : Reads x) (readsElse : Reads y) :
    Reads (if c then x else y) := by
  split
  · exact reads
  · exact readsElse

/-- Refusing what meets a condition changes nothing. -/
theorem ite_throw {c : Prop} [Decidable c] :
    Reads (if c then MonadExcept.throw e else Pure.pure PUnit.unit) :=
  ite (throw e) (pure _)

/-- Refusing something and going on otherwise changes nothing if going on does not. -/
theorem ite_throw_bind {c : Prop} [Decidable c] (reads : Reads x) :
    Reads (if c then MonadExcept.throw e >>= fun _ : PUnit => x else x) := by
  refine ite ?_ reads
  apply bind (throw e)
  intro _
  exact reads

/-- Refusing what was read changes nothing. -/
theorem bind_ite_throw {c : α → Prop} [DecidablePred c] (reads : Reads x) :
    Reads (x >>= fun a => if c a then MonadExcept.throw e else Pure.pure PUnit.unit) := by
  apply reads.bind
  intro a
  exact ite_throw

/-- Looking something up and refusing what is missing changes nothing. -/
theorem lookup (read : Store → Option α) (e : RegistryError) :
    Reads (Action.query read >>= Action.orElse e) := by
  apply bind (query read)
  intro found
  exact orElse e found

/-- A lookup whose answer is not used changes nothing. -/
theorem require (read : Store → Option α) (e : RegistryError) :
    Reads (Action.query read >>= fun found =>
      Action.orElse e found >>= fun _ => Pure.pure PUnit.unit) := by
  apply bind (query read)
  intro found
  apply bind (orElse e found)
  intro _
  exact pure _

/-- Several things are looked at without a change. -/
theorem forM {g : γ → Action PUnit} (reads : ∀ c, Reads (g c)) (cs : List γ) :
    Reads (cs.forM g) := by
  induction cs with
  | nil => exact pure ()
  | cons c cs ih =>
    apply (reads c).bind
    intro _
    exact ih

/-- Several things are read without a change. -/
theorem mapM {g : γ → Action β} (reads : ∀ c, Reads (g c)) (cs : List γ) :
    Reads (cs.mapM g) := by
  induction cs with
  | nil => exact pure []
  | cons c cs ih =>
    rw [List.mapM_cons]
    apply (reads c).bind
    intro b
    apply ih.bind
    intro bs
    exact pure (b :: bs)

end Reads

/-- A check of every item that succeeds succeeded for each, on the same registry. -/
theorem forM_eq_ok {g : γ → Action PUnit} (reads : ∀ c, Reads (g c)) {cs : List γ} {u : PUnit}
    (h : (cs.forM g).perform r = (.ok u, r')) : ∀ c ∈ cs, (g c).perform r = (.ok (), r) := by
  induction cs with
  | nil => exact fun _ member => nomatch member
  | cons c cs ih =>
    obtain ⟨_, r₁, first, rest⟩ := bind_eq_ok.1 h
    -- The later checks run on the registry that the first one found.
    obtain rfl := (reads c).eq first
    intro d member
    cases member with
    | head => exact first
    | tail _ member => exact ih rest d member

/-! ### Actions that fail without an effect -/

/-- An action whose failure leaves the registry as it was. -/
def Atomic (x : Action α) : Prop :=
  ∀ r e r', x.perform r = (.error e, r') → r' = r

/-- What never changes the registry does not when it fails. -/
theorem Reads.atomic (reads : Reads x) : Atomic x :=
  fun _ _ _ h => reads.eq h

namespace Atomic

/-- A statement that is refused has written nothing. -/
theorem execute (statement : Statement α) (failure : StoreError → RegistryError) :
    Atomic (execute statement failure) := by
  intro r e r' h
  rw [perform_execute] at h
  rcases outcome : r.execute statement with ⟨error | a, r₁⟩
  · rw [outcome] at h
    rw [← (Prod.mk.inj h).2]
    exact Registry.eq_of_execute_eq_error outcome
  · rw [outcome] at h
    exact nomatch (Prod.mk.inj h).1

/-- What is atomic may follow on what only reads. -/
theorem bind (reads : Reads x) (atomicAfter : ∀ a, Atomic (f a)) : Atomic (x >>= f) := by
  intro r e r' h
  rw [perform_bind] at h
  rcases first : x.perform r with ⟨_ | a, r₁⟩
  · -- The reading part failed, and what follows did not run.
    rw [first] at h
    rw [← (Prod.mk.inj h).2]
    exact reads.eq first
  · rw [first] at h
    rw [← reads.eq first]
    exact atomicAfter a r₁ e r' h

/-- After a change nothing may fail any more. -/
theorem bind_of_ok (atomic : Atomic x)
    (succeeds : ∀ r a r₁, x.perform r = (.ok a, r₁) → ∃ b r', (f a).perform r₁ = (.ok b, r')) :
    Atomic (x >>= f) := by
  intro r e r' h
  rw [perform_bind] at h
  rcases first : x.perform r with ⟨e₁ | a, r₁⟩
  · rw [first] at h
    rw [← (Prod.mk.inj h).2]
    exact atomic r e₁ r₁ first
  · -- The first part has made its change, but then the whole action succeeds.
    obtain ⟨b, r₂, second⟩ := succeeds r a r₁ first
    rw [first] at h
    rw [show (f a).perform r₁ = _ from h] at second
    simp at second

/-- A change of the answer leaves a failure as it is. -/
theorem map (atomic : Atomic x) (g : α → β) : Atomic (g <$> x) := by
  rw [map_eq_pure_bind]
  exact atomic.bind_of_ok fun r a r₁ _ => ⟨g a, r₁, rfl⟩

end Atomic

end Action

end AssetRegistry
