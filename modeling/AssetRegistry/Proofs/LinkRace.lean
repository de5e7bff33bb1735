import AssetRegistry.Proofs.Frame
import AssetRegistry.Proofs.LinkStages
import AssetRegistry.Proofs.StoreConsistent

/-!
# Links that lose an end while they are made

Links are created one at a time only from the moment on at which both ends were found, and
no deletion waits for a creation.  So an asset can go, with the links at it, after a
creation has found it and before the link is stored.  The link is stored all the same, and
nothing removes it when the creation has come to its end (`Traffic.raceRun`).

It is the only way in which a link comes to miss an end.  In a run of creations, call by
call, and of all other operations, an asset that a link needs is stored, or it was deleted
after the creation of the link had found it (`Traffic.Reachable.endsStored`).
-/

namespace AssetRegistry

open Relation AssetRegistry.Action AssetRegistry.Links

/-! ### Creations in progress -/

/-- The creation of a link that has begun. -/
structure Creation where
  request : NewAssetLink
  stage : Stage
  deriving DecidableEq, Repr

namespace Creation

/-- The ends of the link that were found so far. -/
def found (c : Creation) : List AssetKey :=
  c.stage.found c.request

/-- Whether no other creation may come as far as this one. -/
def isAlone (c : Creation) : Bool :=
  match c.stage with
  | .source | .target | .waiting => false
  | _ => true

end Creation

/-- A registry and the creations that are in progress on it. -/
structure Traffic where
  registry : Registry
  creations : List Creation
  deriving DecidableEq, Repr

namespace Traffic

/-- What can happen next: a request for a link arrives, the creation at a place among
    those in progress makes its next call, another operation is performed as a whole, or
    the clock goes on. -/
inductive Event where
  | arrive (request : NewAssetLink)
  | advance (place : Nat)
  | perform (operation : Operation)
  | tick
  deriving DecidableEq, Repr

/-- What an event leaves, if it can happen.  A request that breaks a rule by itself is
    refused before it asks the store for anything. -/
def after? (t : Traffic) : Event → Option Traffic
  | .arrive request =>
    match checkRequest request with
    | .ok () => some { t with creations := t.creations ++ [⟨request, .source⟩] }
    | .error _ => some t
  | .advance place => do
    let c ← t.creations[place]?
    if c.stage = .waiting ∧ t.creations.any Creation.isAlone then none
    else
      let (outcome, registry) := (c.stage.advance c.request).perform t.registry
      match outcome with
      | .ok (.next stage) => some ⟨registry, t.creations.set place { c with stage }⟩
      | .ok (.done _) | .error _ => some ⟨registry, t.creations.eraseIdx place⟩
  | .perform (.createLink _) => none
  | .perform operation => some { t with registry := (operation.perform t.registry).2 }
  | .tick => some { t with registry := t.registry.tick }

/-- What events leave one after another, if they can happen. -/
def run? (t : Traffic) (events : List Event) : Option Traffic :=
  events.foldlM after? t

/-- One traffic comes to another one by any number of events. -/
def LeadsTo : Traffic → Traffic → Prop :=
  ReflTransGen fun t t' => ∃ event, t.after? event = some t'

/-- A traffic that begins on a fresh registry comes to be. -/
def Reachable (linkLimit : Nat) (t : Traffic) : Prop :=
  LeadsTo ⟨.fresh linkLimit, []⟩ t

variable {linkLimit : Nat} {t t' : Traffic} {event : Event}

/-- Events that happen one after the other lead where they end. -/
theorem LeadsTo.of_run? {events : List Event} (ran : t.run? events = some t') : t.LeadsTo t' := by
  induction events generalizing t with
  | nil =>
    obtain rfl := Option.some.inj ran
    exact .refl
  | cons event events ih =>
    obtain ⟨t₁, happened, rest⟩ := Option.bind_eq_some_iff.1 ran
    exact .head ⟨event, happened⟩ (ih rest)

/-- An end of a link was deleted after the creation of the link had found it. -/
def Overtaken (linkLimit : Nat) (source target key : AssetKey) (t : Traffic) : Prop :=
  ∃ before after, Reachable linkLimit before ∧
    before.after? (.perform (.deleteAsset key)) = some after ∧ after.LeadsTo t ∧
    (∃ c ∈ before.creations, c.request.source = source ∧ c.request.target = target ∧
      key ∈ c.found) ∧
    (before.registry.store.asset? key).isSome ∧ after.registry.store.asset? key = none

/-- A link that was overtaken stays so, whatever happens. -/
theorem Overtaken.next {source target key : AssetKey}
    (overtaken : Overtaken linkLimit source target key t) (happened : t.after? event = some t') :
    Overtaken linkLimit source target key t' := by
  obtain ⟨before, after, reachable, deleted, leads, rest⟩ := overtaken
  exact ⟨before, after, reachable, deleted, leads.tail ⟨event, happened⟩, rest⟩

end Traffic

/-! ### What operations do to assets and to the ends of links -/

namespace Operation.Step

variable {operation : Operation} {reply : Reply} {r r' : Registry} {key : AssetKey}

/-- An asset that is no longer stored was deleted, and the links at it with it. -/
theorem eq_deleteAsset_of_lost (step : Step r operation reply r')
    (there : key ∈ r.store.assetKeys) (lost : key ∉ r'.store.assetKeys) :
    operation = .deleteAsset key ∧ ∀ l ∈ r'.store.links, l.source ≠ key ∧ l.target ≠ key := by
  have frame := step.agreesBut
  cases step
  case read => exact absurd there lost
  case createAsset ran =>
    obtain ⟨_, _, _, rfl⟩ := Store.insertAsset_eq_ok.1 ran
    exact absurd (Store.mem_keys_append there) lost
  case archiveAsset ran =>
    obtain ⟨_, rfl⟩ := Store.setAssetArchived_eq_ok.1 ran
    exact (lost (Store.mem_keys_changeRows (fun _ => rfl) there)).elim
  case restoreAsset ran _ =>
    obtain ⟨_, rfl⟩ := Store.setAssetArchived_eq_ok.1 ran
    exact (lost (Store.mem_keys_changeRows (fun _ => rfl) there)).elim
  case deleteAsset deleted _ _ ran =>
    obtain ⟨_, _, rfl⟩ := Store.deleteAssetCascade_eq_ok.1 ran
    obtain rfl : key = deleted :=
      Classical.byContradiction fun other => lost (Store.mem_keys_filter_ne there other)
    refine ⟨rfl, fun l member => ?_⟩
    simpa [AssetLink.touches] using (List.mem_filter.1 member).2
  -- All other steps leave the table of assets alone.
  all_goals
    rw [Store.assetKeys, frame.assets (by simp [tables])] at lost
    exact absurd there lost

/-- Only a creation joins assets that no link joined before. -/
theorem exists_link_of_ends (step : Step r operation reply r')
    (other : ∀ request, operation ≠ .createLink request) :
    ∀ l' ∈ r'.store.links, ∃ l ∈ r.store.links, l.source = l'.source ∧ l.target = l'.target := by
  intro l' member
  rcases step.links_cases with fewer | ⟨_, _, ran⟩ | ⟨request, _, created, _, _⟩
  · exact ⟨l', fewer.subset member, rfl, rfl⟩
  · obtain ⟨_, same⟩ := Store.setLinkTags_eq_ok.1 ran
    rw [← same] at member
    obtain ⟨l, there, rfl⟩ := Store.mem_changeRows.1 member
    refine ⟨l, there, ?_⟩
    split <;> exact ⟨rfl, rfl⟩
  · exact absurd created (other request)

end Operation.Step

/-! ### What stages do to the store -/

namespace Links

variable {request : NewAssetLink} {stage : Stage} {r r' : Registry}

/-- All that a stage does to the store is to add the link of the request at the end. -/
theorem store_of_advance {outcome : Except RegistryError Progress}
    (advanced : (stage.advance request).perform r = (outcome, r')) :
    r'.store = r.store ∨ stage = .insertion ∧ ∃ l, outcome = .ok (.done l) ∧
      l.source = request.source ∧ l.target = request.target ∧
      r'.store = { r.store with links := r.store.links ++ [l] } := by
  by_cases before : stage = .insertion
  · subst before
    rcases outcome with e | progress
    · refine .inl ?_
      rw [(atomic_storeLink request).map Progress.done r e r' advanced]
    · obtain ⟨l, stored, rfl⟩ := map_eq_ok.1 advanced
      obtain ⟨_, rfl, s, ran, rfl⟩ := storeLink_eq_ok.1 stored
      obtain ⟨_, _, rfl⟩ := Store.insertLink_eq_ok.1 ran
      exact .inr ⟨rfl, _, rfl, rfl, rfl, rfl⟩
  · exact .inl (by rw [(reads_advance before).eq advanced])

end Links

/-! ### Runs -/

namespace Traffic

variable {linkLimit : Nat} {t t' : Traffic} {event : Event}

/-- A creation that goes on is replaced or has come to its end.  The others stay. -/
theorem creation_of_advance {place : Nat} (happened : t.after? (.advance place) = some t') :
    ∃ c ∈ t.creations, ∃ outcome,
      (c.stage.advance c.request).perform t.registry = (outcome, t'.registry) ∧
      ∀ c' ∈ t'.creations,
        c' ∈ t.creations ∨ ∃ stage, outcome = .ok (.next stage) ∧ c' = { c with stage } := by
  obtain ⟨c, found, happened⟩ := Option.bind_eq_some_iff.1 happened
  refine ⟨c, List.mem_of_getElem? found, ?_⟩
  split at happened
  · exact absurd happened nofun
  · rcases advanced : (c.stage.advance c.request).perform t.registry with ⟨outcome, r'⟩
    rw [advanced] at happened
    -- A failure ends the creation as a stored link does, and anything else moves it on.
    rcases outcome with e | ⟨stage | link⟩
    · obtain rfl := Option.some.inj happened
      exact ⟨_, rfl, fun c' member => .inl (List.mem_of_mem_eraseIdx member)⟩
    · obtain rfl := Option.some.inj happened
      refine ⟨_, rfl, fun c' member => ?_⟩
      rcases List.mem_or_eq_of_mem_set member with old | new
      · exact .inl old
      · exact .inr ⟨stage, rfl, new⟩
    · obtain rfl := Option.some.inj happened
      exact ⟨_, rfl, fun c' member => .inl (List.mem_of_mem_eraseIdx member)⟩

/-- The ends of links, and those that creations have found, are stored or were deleted
    while the link was made. -/
structure EndsStored (linkLimit : Nat) (t : Traffic) : Prop where
  links : ∀ l ∈ t.registry.store.links, ∀ key ∈ [l.source, l.target],
    key ∈ t.registry.store.assetKeys ∨ Overtaken linkLimit l.source l.target key t
  creations : ∀ c ∈ t.creations, ∀ key ∈ c.found,
    key ∈ t.registry.store.assetKeys ∨
      Overtaken linkLimit c.request.source c.request.target key t

namespace EndsStored

/-- Where the store stays as it is, only what creations have found since is of interest. -/
theorem of_store_eq (inv : EndsStored linkLimit t) (happened : t.after? event = some t')
    (same : t'.registry.store = t.registry.store)
    (creations : ∀ c' ∈ t'.creations, ∀ key ∈ c'.found,
      key ∈ t.registry.store.assetKeys ∨
        ∃ c ∈ t.creations, c.request = c'.request ∧ key ∈ c.found) :
    EndsStored linkLimit t' := by
  constructor
  · rw [same]
    intro l member key isEnd
    apply (inv.links l member key isEnd).imp_right
    intro overtaken
    exact overtaken.next happened
  · rw [same]
    intro c' member key found
    rcases creations c' member key found with there | ⟨c, member, sameRequest, found⟩
    · exact .inl there
    · rw [← sameRequest]
      apply (inv.creations c member key found).imp_right
      intro overtaken
      exact overtaken.next happened

/-- An operation keeps the ends, or it deletes one that was found already. -/
theorem perform (reachable : Reachable linkLimit t) (inv : EndsStored linkLimit t)
    {operation : Operation} (other : ∀ request, operation ≠ .createLink request)
    (happened : t.after? (.perform operation) = some t')
    (after : t' = { t with registry := (operation.perform t.registry).2 }) :
    EndsStored linkLimit t' := by
  rcases operation.perform_eq_or_step t.registry with unchanged | ⟨reply, step⟩
  · refine inv.of_store_eq happened (by rw [after, unchanged]) ?_
    rw [after]
    intro c member key found
    exact .inr ⟨c, member, rfl, found⟩
  · have registry : t'.registry = (operation.perform t.registry).2 := by rw [after]
    rw [← registry] at step
    constructor
    · intro l' member key isEnd
      obtain ⟨l, there, source, target⟩ := step.exists_link_of_ends other l' member
      rw [← source, ← target] at isEnd ⊢
      rcases inv.links l there key isEnd with stored | overtaken
      · refine .inl (Classical.byContradiction fun lost => ?_)
        -- The deletion of the end would have taken the link with it.
        obtain ⟨_, apart⟩ := step.eq_deleteAsset_of_lost stored lost
        have apart := apart l' member
        rw [← source, ← target] at apart
        simp only [List.mem_cons, List.not_mem_nil, or_false] at isEnd
        rcases isEnd with rfl | rfl
        · exact apart.1 rfl
        · exact apart.2 rfl
      · exact .inr (overtaken.next happened)
    · intro c member key found
      rw [after] at member
      rcases inv.creations c member key found with stored | overtaken
      · by_cases lost : key ∈ t'.registry.store.assetKeys
        · exact .inl lost
        · obtain ⟨rfl, _⟩ := step.eq_deleteAsset_of_lost stored lost
          exact .inr ⟨t, t', reachable, happened, .refl, ⟨c, member, rfl, rfl, found⟩,
            Store.isSome_find?_iff_mem_keys.2 stored, Store.find?_eq_none_iff_notMem_keys.2 lost⟩
      · exact .inr (overtaken.next happened)

/-- A creation that has just arrived has found no end yet. -/
theorem arrive (inv : EndsStored linkLimit t) {request : NewAssetLink}
    (happened : t.after? (.arrive request) = some t') : EndsStored linkLimit t' := by
  have after := happened
  rw [after?] at after
  split at after
  · obtain rfl := Option.some.inj after
    apply inv.of_store_eq happened rfl
    intro c' member key found
    rcases List.mem_append.1 member with old | new
    · exact .inr ⟨c', old, rfl, found⟩
    · rw [List.mem_singleton.1 new] at found
      exact absurd found List.not_mem_nil
  · obtain rfl := Option.some.inj after
    exact inv

/-- What a creation has found goes into its link. -/
theorem advance (inv : EndsStored linkLimit t) {place : Nat}
    (happened : t.after? (.advance place) = some t') : EndsStored linkLimit t' := by
  -- One creation takes one step, which either reads the store or stores its link.
  obtain ⟨c, there, outcome, advanced, kept⟩ := creation_of_advance happened
  rcases store_of_advance advanced with same | ⟨last, l, done, source, target, grown⟩
  · -- The step reads: what it finds is stored at that time.
    apply inv.of_store_eq happened same
    intro c' member key found
    rcases kept c' member with old | ⟨stage, next, rfl⟩
    · exact .inr ⟨c', old, rfl, found⟩
    · rw [next] at advanced
      rcases found_of_advance advanced found with before | stored
      · exact .inr ⟨c, there, rfl, before⟩
      · exact .inl (Store.isSome_find?_iff_mem_keys.1 stored)
  · -- The step stores the link, and no asset goes with that.
    have assets : t'.registry.store.assetKeys = t.registry.store.assetKeys := by rw [grown]; rfl
    constructor
    · rw [assets, grown]
      apply Store.forall_mem_append_singleton
      · intro l member key isEnd
        apply (inv.links l member key isEnd).imp_right
        intro overtaken
        exact overtaken.next happened
      · -- The ends of the new link are those that its creation has found.
        intro key isEnd
        rw [source, target] at isEnd ⊢
        have found : key ∈ c.found := by rwa [Creation.found, last]
        apply (inv.creations c there key found).imp_right
        intro overtaken
        exact overtaken.next happened
    · rw [assets]
      intro c' member key found
      rcases kept c' member with old | ⟨stage, next, _⟩
      · apply (inv.creations c' old key found).imp_right
        intro overtaken
        exact overtaken.next happened
      · simp [done] at next

/-- Every event leaves ends stored. -/
theorem next (reachable : Reachable linkLimit t) (inv : EndsStored linkLimit t)
    (happened : t.after? event = some t') : EndsStored linkLimit t' := by
  cases event with
  | arrive request => exact inv.arrive happened
  | advance place => exact inv.advance happened
  | perform operation =>
    cases operation
    case createLink => simp [after?] at happened
    all_goals
      exact inv.perform reachable (by simp) happened (Option.some.inj happened).symm
  | tick =>
    obtain rfl := Option.some.inj happened
    apply inv.of_store_eq happened rfl
    intro c member key found
    exact .inr ⟨c, member, rfl, found⟩

end EndsStored

/-- In every run, the ends of links are stored or were deleted while the link was made. -/
theorem Reachable.endsStored (reachable : Reachable linkLimit t) : EndsStored linkLimit t := by
  induction reachable with
  | refl =>
    constructor
    · intro l member
      exact absurd member List.not_mem_nil
    · intro c member
      exact absurd member List.not_mem_nil
  | tail leads next ih =>
    obtain ⟨event, happened⟩ := next
    exact ih.next leads happened

end Traffic

/-! ### A race -/

namespace Traffic

/-- The request for a link from a hall to a press. -/
def raceRequest : NewAssetLink :=
  ⟨"plant", "hall", "plant", "press", .parentChild, none, []⟩

/-- The press is deleted when the link to it is about to wait for its turn. -/
def raceRun : List Event :=
  [ .perform (.createDatabase { databaseId := "plant" }),
    .perform (.createAsset "plant" { assetId := "hall", assetName := "Hall" }),
    .perform (.createAsset "plant" { assetId := "press", assetName := "Press" }),
    .arrive raceRequest, .advance 0, .advance 0,
    .perform (.deleteAsset ⟨"plant", "press"⟩),
    .advance 0, .advance 0, .advance 0, .advance 0, .advance 0, .advance 0, .advance 0,
    .advance 0 ]

/-- What the run leaves. -/
def raced : Traffic :=
  ((⟨.fresh 3, []⟩ : Traffic).run? raceRun).getD ⟨.fresh 3, []⟩

/-- The race is come to by events. -/
theorem reachable_raced : Reachable 3 raced := by
  have ran : (⟨.fresh 3, []⟩ : Traffic).run? raceRun = some raced := by decide +kernel
  exact LeadsTo.of_run? ran

/-- The link that the run stores. -/
def racedLink : AssetLink :=
  newLink raceRequest "link-1" (.reading 0 4)

end Traffic

/-! ### The main result -/

/-- Where nothing else happens between its calls, the creation of a link comes to what the
    operation comes to.  Whatever happens between them, an asset that a link needs is
    stored, or it was deleted after the creation of the link had found it. -/
theorem stored_or_overtaken {linkLimit : Nat} :
    (∀ request r, checkRequest request = .ok () → r.access = .ready →
      Completes request .source r ((createLink request).perform r)) ∧
    ∀ t, Traffic.Reachable linkLimit t → ∀ l ∈ t.registry.store.links,
      ∀ key ∈ [l.source, l.target], (t.registry.store.asset? key).isSome ∨
        Traffic.Overtaken linkLimit l.source l.target key t := by
  refine ⟨fun request r valid ready => completes_createLink valid ready, ?_⟩
  intro t reachable l member key isEnd
  exact (reachable.endsStored.links l member key isEnd).imp_left
    Store.isSome_find?_iff_mem_keys.2

/-- In the race the press was deleted after the creation of the link had found it. -/
theorem stored_or_overtaken_raced :
    checkRequest Traffic.raceRequest = .ok () ∧
    Completes Traffic.raceRequest .source Traffic.raced.registry
      ((createLink Traffic.raceRequest).perform Traffic.raced.registry) ∧
    Traffic.racedLink ∈ Traffic.raced.registry.store.links ∧
    Traffic.Overtaken 3 ⟨"plant", "hall"⟩ ⟨"plant", "press"⟩ ⟨"plant", "press"⟩ Traffic.raced := by
  have valid : checkRequest Traffic.raceRequest = .ok () := by decide +kernel
  have member : Traffic.racedLink ∈ Traffic.raced.registry.store.links := by decide +kernel
  refine ⟨valid, (@stored_or_overtaken 3).1 _ _ valid (by decide +kernel), member, ?_⟩
  exact (stored_or_overtaken.2 Traffic.raced Traffic.reachable_raced Traffic.racedLink member
    ⟨"plant", "press"⟩ (by decide)).resolve_left (by decide +kernel)

/-- Links are not promised to have their ends where no creation is in progress. -/
theorem ends_not_always_stored :
    ¬ ∀ linkLimit t, Traffic.Reachable linkLimit t → t.creations = [] →
      ∀ l ∈ t.registry.store.links,
        (t.registry.store.asset? l.source).isSome ∧ (t.registry.store.asset? l.target).isSome := by
  intro promised
  have ends := promised 3 Traffic.raced Traffic.reachable_raced (by decide +kernel)
    Traffic.racedLink (by decide +kernel)
  exact absurd ends.2 (by decide +kernel)

end AssetRegistry
