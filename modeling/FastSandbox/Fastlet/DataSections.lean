import FastSandbox.Fastlet.DeleteSections

/-!
# The sections of the data plane and of the recovery are moves
-/

namespace FastSandbox.Fastlet

open DataPlane List AList
open FastSandbox.Fastlet.Task
open FastSandbox.Action (ActionBindingStatus)
open Function

/-! ## The data plane -/

section DataPlane

variable {cfg : Config} {m : Manager} {t : Task} {p : Ref} {caller : DataCaller}

theorem work_move {phase : Phase} (h : runtimeWorkAllowed m p) (hp : runtimeCreatedPhase phase) :
    Move cfg t m.registry (m.setPhase p phase).registry := by
  obtain ⟨hc, hr⟩ := runtimeWorkAllowed_spec h
  rw [registry_setPhase]
  refine .work _ fun q => ?_
  by_cases hq : q = p
  · subst hq
    rw [update_self]
    exact .inr ⟨hc, hr, hp⟩
  · rw [update_of_ne hq]
    exact .inl rfl

theorem allowed_of_not {b : Bool} (h : ¬(!runtimeWorkAllowed m p || b)) :
    runtimeWorkAllowed m p := by
  rw [Bool.or_eq_true, not_or] at h
  simpa using h.1

theorem dataReturn_inert {ready : Bool} {err : Option String} :
    (dataReturn m p ready err caller).Inert := by
  cases caller with
  | worker => exact ⟨rfl, rfl⟩
  | pending todo =>
    cases todo with
    | nil | cons => exact ⟨rfl, rfl⟩

theorem routesReturn_inert {caller : RouteCaller} (err : Option String) :
    ∀ t' ∈ routesReturn err caller, t'.Inert := by
  intro t' ht'
  cases caller with
  | watch => cases ht'
  | prepare =>
    rw [mem_singleton.mp ht']
    cases err <;> exact ⟨rfl, rfl⟩
  | publish =>
    rw [mem_singleton.mp ht']
    exact ⟨rfl, rfl⟩

theorem reconcileDataPlaneOnce_section :
    Section cfg m (.data p caller .once) (reconcileDataPlaneOnce m p caller) := by
  unfold reconcileDataPlaneOnce
  split
  · exact .idle dataReturn_inert
  rename_i ha
  have ha' : runtimeWorkAllowed m p := by simpa using ha
  split
  · exact .inert_one (work_move ha' rfl) ⟨rfl, rfl⟩ (.still rfl)
  · exact .inert_one (work_move ha' rfl) ⟨rfl, rfl⟩ (.still rfl)
  · exact .idle ⟨rfl, rfl⟩
  · exact .idle ⟨rfl, rfl⟩
  all_goals exact .idle dataReturn_inert

variable {err : Option String}

theorem infraWrite_section {probe : Bool} {services : List ServiceEndpoint} :
    Section cfg m (.data p caller (.infraWrite probe services err))
      (infraWrite m p caller probe services err) := by
  unfold infraWrite
  split
  · exact .idle ⟨rfl, rfl⟩
  · exact .inert_one (.of_eq (registry_modify_of_eq m p _ rfl rfl)) ⟨rfl, rfl⟩ (.still rfl)

theorem infraDone_section :
    Section cfg m (.data p caller (.infraDone err)) (infraDone m p caller err) := by
  unfold infraDone
  split
  · exact .idle dataReturn_inert
  rename_i hc
  have ha := allowed_of_not hc
  cases err with
  | some => exact .inert_one (work_move ha rfl) dataReturn_inert (.still rfl)
  | none => exact .inert_one (work_move ha rfl) ⟨rfl, rfl⟩ (.still rfl)

theorem publishDataPlaneRoute_section :
    Section cfg m (.data p caller .publish) (publishDataPlaneRoute cfg m p caller) := by
  unfold publishDataPlaneRoute
  split
  · exact .idle dataReturn_inert
  rename_i ha
  have ha' : runtimeWorkAllowed m p := by simpa using ha
  split
  · exact .idle dataReturn_inert
  · exact .inert_one (work_move ha' rfl) ⟨rfl, rfl⟩ (.still rfl)

theorem settlePublication_section {applied : Bool} :
    Section cfg m (.data p caller (.settle applied err))
      (settlePublication cfg m p caller applied err) := by
  unfold settlePublication
  split
  · refine .idle ?_
    unfold beginRemoval
    split_ifs
    · exact ⟨rfl, rfl⟩
    · exact dataReturn_inert
    · exact dataReturn_inert
  · rename_i hc
    have ha := allowed_of_not hc
    cases err with
    | some => exact .inert_one (work_move ha rfl) dataReturn_inert (.still rfl)
    | none =>
      refine .inert_one (work_move ha ?_) dataReturn_inert (.still rfl)
      split_ifs <;> rfl

theorem markDataPlaneUnhealthy_section :
    Section cfg m (.data p caller .unhealthy) (markDataPlaneUnhealthy cfg m p) := by
  unfold markDataPlaneUnhealthy
  split
  · exact .idle ⟨rfl, rfl⟩
  rename_i hc
  have ha := allowed_of_not hc
  refine .inert_one (work_move ha rfl) ?_ (.still rfl)
  unfold beginRemoval
  split_ifs <;> exact ⟨rfl, rfl⟩

variable {out : Manager × List Task}

theorem goData_section {s : DataStage} (h : goData cfg m p caller s = some out) :
    Section cfg m (.data p caller s) out := by
  cases s with
  | once => cases h; exact reconcileDataPlaneOnce_section
  | initializeInfra =>
    cases h
    refine .idle ?_
    unfold beginInitializeInfra
    split_ifs <;> exact ⟨rfl, rfl⟩
  | infraWrite => cases h; exact infraWrite_section
  | infraDone => cases h; exact infraDone_section
  | publish => cases h; exact publishDataPlaneRoute_section
  | publishLock =>
    unfold goData at h
    split_ifs at h
    cases h
    exact .inert_one .same ⟨rfl, rfl⟩ (.still rfl)
  | publishRead =>
    cases h
    unfold publishRead
    split <;> exact .inert_one .same ⟨rfl, rfl⟩ (.still rfl)
  | publishUnavailable | monitor | retry => cases h; exact .inert_one .same ⟨rfl, rfl⟩ (.still rfl)
  | published =>
    cases h
    refine .idle ?_
    unfold published
    split_ifs <;> exact ⟨rfl, rfl⟩
  | settle => cases h; exact settlePublication_section
  | ready =>
    cases h
    refine .idle ?_
    unfold workerReady
    split_ifs <;> exact ⟨rfl, rfl⟩
  | unhealthy => cases h; exact markDataPlaneUnhealthy_section
  | exit =>
    cases h
    unfold workerExit
    split_ifs <;> exact .nil .same (.still rfl)
  | infra | access | apply => cases h

/-! ## The proxy's answers -/

theorem serveProxy_registry (cfg : Config) (m : Manager) (call : ProxyCall) :
    (serveProxy cfg m call).1.registry = m.registry := by
  rcases m.proxy.serve cfg.parseIP call with ⟨store, result⟩
  rfl

theorem callProxy_spec (cfg : Config) (m : Manager) (call : ProxyCall) (answered : Bool) :
    (callProxy cfg m call answered).1.registry = m.registry ∧
      (∀ {t : Task} (m' : Manager), Quiet (callProxy cfg m call answered).1 m' →
        Logged cfg m t m') ∧
      ∀ u ∈ (callProxy cfg m call answered).2.2, u.Inert := by
  have he := serveProxy_registry cfg m call
  obtain ⟨hl, hp⟩ := serveProxy_spec cfg m call
  unfold callProxy
  cases answered with
  | true =>
    rw [if_pos rfl]
    cases hs : serveProxy cfg m call with
    | mk m1 result =>
      rw [hs] at he hl hp
      refine ⟨he, ?_, fun u hu => absurd hu not_mem_nil⟩
      intro t m' hq
      exact .served call (hq.log.trans hl) (hq.proxy.trans hp)
  | false =>
    rw [if_neg Bool.false_ne_true]
    refine ⟨rfl, fun _ => .quiet, ?_⟩
    intro u hu
    rw [mem_singleton.mp hu]
    exact ⟨rfl, rfl⟩

variable {m' : Manager} {t' : Task}

theorem removeRoute_section (m1 : Manager) {k : AfterRemove} {s : RemoveStage}
    (ht : TaskOk cfg m.registry (.removeRoute p k s)) (he : m'.registry = m.registry)
    (ht' : (∃ s', t' = .removeRoute p k s') ∨ ∃ err, t' = removeReturn cfg m1 p err k)
    (hl : Logged cfg m (.removeRoute p k s) m') :
    Section cfg m (.removeRoute p k s) (m', [t']) := by
  cases k with
  | asyncDelete =>
    rcases ht' with ⟨s', rfl⟩ | ⟨err, rfl⟩
    · exact asyncDelete_section ht rfl rfl rfl he trivial rfl rfl hl
    · unfold removeReturn
      split_ifs <;> exact asyncDelete_section ht rfl rfl rfl he trivial rfl rfl hl
  | terminal =>
    refine failureWorker_section (p := p) ?_ (ht.named p rfl) (.inr (.inl rfl)) (.of_eq he) hl
    rcases ht' with ⟨s', rfl⟩ | ⟨err, rfl⟩
    · exact rfl
    · unfold removeReturn
      split_ifs <;> exact rfl
  | unhealthy =>
    refine .inert_one (.of_eq he) ?_ hl
    rcases ht' with ⟨s', rfl⟩ | ⟨err, rfl⟩ <;> exact ⟨rfl, rfl⟩
  | stale =>
    refine .inert_one (.of_eq he) ?_ hl
    rcases ht' with ⟨s', rfl⟩ | ⟨err, rfl⟩
    · exact ⟨rfl, rfl⟩
    · exact dataReturn_inert

theorem removeAnswered_spec (cfg : Config) (m : Manager) (p : Ref) (k : AfterRemove)
    (s : RemoveStage) (result : Except (Option RouteError) (List Route)) :
    (removeAnswered cfg m p k s result).1.registry = m.registry ∧
      Quiet m (removeAnswered cfg m p k s result).1 ∧
      ((∃ s', (removeAnswered cfg m p k s result).2 = .removeRoute p k s') ∨
        ∃ err, (removeAnswered cfg m p k s result).2 = removeReturn cfg m p err k) := by
  unfold removeAnswered
  split
  · exact ⟨rfl, ⟨rfl, rfl⟩, .inl ⟨_, rfl⟩⟩
  · exact ⟨rfl, ⟨rfl, rfl⟩, .inl ⟨_, rfl⟩⟩
  all_goals exact ⟨rfl, ⟨rfl, rfl⟩, .inr ⟨_, rfl⟩⟩

/-! ## Route reconciliation -/

theorem routesFinish_move (owners : List Ref) :
    Move cfg t m.registry (routesFinish m owners).registry := by
  let pass := fun (m : Manager) (p : Ref) =>
    if runtimeWorkAllowed m p &&
        (decide (m.phase p = .routePending) || decide (m.phase p = .routeUnavailable)) then
      m.setPhase p .running
    else m
  have hp : ∀ (owners : List Ref) (m1 : Manager) (f : Ref → Phase),
      m1.registry = { m.registry with phase := f } →
      (∀ p, f p = m.registry.phase p ∨ (m.registry.Current p ∧
        runtimeCreatedPhase (m.registry.phase p) ∧ runtimeCreatedPhase (f p))) →
      Move cfg t m.registry (owners.foldl pass m1).registry := by
    intro owners
    induction owners with
    | nil =>
      intro m1 f he hf
      rw [foldl_nil, he]
      exact .work f hf
    | cons p rest ih =>
      intro m1 f he hf
      rw [foldl_cons]
      by_cases hn : (runtimeWorkAllowed m1 p &&
          (decide (m1.phase p = .routePending) || decide (m1.phase p = .routeUnavailable)))
      · have hs : pass m1 p = m1.setPhase p .running := if_pos hn
        rw [hs]
        obtain ⟨hu, hr⟩ := runtimeWorkAllowed_spec ((Bool.and_eq_true _ _).mp hn).1
        have hc' : m.registry.Current p := by
          have hc1 : m1.registry.Current p := hu
          rwa [he] at hc1
        have hr' : runtimeCreatedPhase (m.registry.phase p) := by
          have hr1 : runtimeCreatedPhase (m1.registry.phase p) := hr
          rw [he] at hr1
          rcases hf p with heq | ⟨-, hold, -⟩
          · rwa [← heq]
          · exact hold
        refine ih _ (update f p .running) ?_ ?_
        · rw [registry_setPhase, he]
          rfl
        intro q
        by_cases hq : q = p
        · subst hq
          rw [update_self]
          exact .inr ⟨hc', hr', rfl⟩
        · rw [update_of_ne hq]
          exact hf q
      · have hs : pass m1 p = m1 := if_neg hn
        rw [hs]
        exact ih m1 f he hf
  exact hp owners m m.registry.phase rfl fun _ => .inl rfl

theorem quiet_routesFinish (owners : List Ref) : Quiet m (routesFinish m owners) := by
  have hp : ∀ m1, Quiet m m1 → Quiet m (owners.foldl (fun m p =>
      if runtimeWorkAllowed m p &&
          (decide (m.phase p = .routePending) || decide (m.phase p = .routeUnavailable)) then
        m.setPhase p .running
      else m) m1) := by
    induction owners with
    | nil => exact fun _ h => h
    | cons p rest ih =>
      intro m1 h
      rw [foldl_cons]
      refine ih _ ?_
      split_ifs
      · exact ⟨h.log, h.proxy⟩
      · exact h
  obtain ⟨hl, hx⟩ := hp m ⟨rfl, rfl⟩
  exact ⟨hl, hx⟩

theorem goRoutes_section {caller : RouteCaller} {s : RouteStage}
    (h : goRoutes cfg m caller s = some out) : Section cfg m (.routes caller s) out := by
  cases s with
  | lock =>
    unfold goRoutes at h
    dsimp only at h
    split at h
    · cases h
      exact .inert .same (routesReturn_inert _) (.still rfl)
    split at h
    · cases h
    · cases h
      exact .inert_one .same ⟨rfl, rfl⟩ (.still rfl)
  | read =>
    cases h
    refine .idle ?_
    unfold routesRead
    dsimp only
    split_ifs <;> exact ⟨rfl, rfl⟩
  | check =>
    cases h
    refine .idle ?_
    unfold routesCheck
    split
    · exact ⟨rfl, rfl⟩
    · split <;> exact ⟨rfl, rfl⟩
  | unavailable => cases h; exact .inert .same (routesReturn_inert _) (.still rfl)
  | finish owners =>
    cases h
    exact .inert (routesFinish_move owners) (routesReturn_inert _)
      (.quiet (quiet_routesFinish owners))
  | access => cases h

/-! ## Recovery -/

theorem TaskOk.recovery {r : Registry} (hn : t.names = none) (hr : r.recovering)
    (hb : t.Bound cfg r) : TaskOk cfg r t where
  named := forall_of_none hn
  creates := forall_of_unnamed hn names_of_creates
  discards := forall_of_unnamed hn names_of_discards
  retries := forall_of_unnamed hn fun h => names_of_works (works_of_retries h)
  ends := forall_of_unnamed hn names_of_ends
  deletes := forall_of_unnamed hn fun h => names_of_works (works_of_deletes h)
  recovers _ := hr
  bound := hb

theorem Offspring.recovery {r : Registry} (hn : t'.names = none) (hr : t.recovers)
    (hs : t.Hands cfg t') : Offspring cfg r t t' where
  creates := forall_of_unnamed hn names_of_creates
  works := forall_of_unnamed hn names_of_works
  deletes := forall_of_unnamed hn fun h => names_of_works (works_of_deletes h)
  recovers _ := hr
  retries := forall_of_unnamed hn fun h => names_of_works (works_of_retries h)
  pledges := forall_of_unnamed hn fun h => names_of_creates (creates_of_pledge h)
  recovered := hs

theorem recovery_section (ht : TaskOk cfg m.registry t) (hr : t.recovers)
    (he : m'.registry = m.registry) (hn : t'.names = none) (hb : t'.Bound cfg m.registry)
    (hs : t.Hands cfg t') (hl : Logged cfg m t m') : Section cfg m t (m', [t']) :=
  .step he .same (.recovery hn hr hs) (.recovery hn (ht.recovers hr) hb) hl

variable {publications : List RoutePublication}

theorem reconcileRoutes_section {f : RoutesFor} {s : ReconcileStage}
    (ht : TaskOk cfg m.registry (.reconcileRoutes f publications s)) (he : m'.registry = m.registry)
    (ht' : (∃ s', t' = .reconcileRoutes f publications s') ∨
      ∃ m1 err, (reconcileReturn m1 err f).2 = [t'])
    (hl : Logged cfg m (.reconcileRoutes f publications s) m') :
    Section cfg m (.reconcileRoutes f publications s) (m', [t']) := by
  cases f with
  | reconnect =>
    refine .inert_one (.of_eq he) ?_ hl
    rcases ht' with ⟨s', rfl⟩ | ⟨m1, err, hr⟩
    · exact ⟨rfl, rfl⟩
    · obtain rfl := singleton_inj.mp hr
      cases err <;> exact ⟨rfl, rfl⟩
  | recover =>
    rcases ht' with ⟨s', rfl⟩ | ⟨m1, err, hr⟩
    · exact recovery_section ht rfl he rfl ht.bound (fun _ => .inl) hl
    obtain rfl := singleton_inj.mp hr
    cases err with
    | none => exact recovery_section ht rfl he rfl ht.bound (fun _ => .inl) hl
    | some text => exact recovery_section ht rfl he rfl trivial nofun hl

theorem reconcileReturn_spec (m : Manager) (err : Option String) (f : RoutesFor) :
    (reconcileReturn m err f).1.registry = m.registry ∧ Quiet m (reconcileReturn m err f).1 ∧
      ∃ t', (reconcileReturn m err f).2 = [t'] := by
  cases f with
  | reconnect | recover => exact ⟨rfl, ⟨rfl, rfl⟩, _, rfl⟩

theorem reconcileAnswered_spec (m : Manager) (f : RoutesFor) (publications : List RoutePublication)
    (s : ReconcileStage) (result : Except (Option RouteError) (List Route)) :
    (reconcileAnswered m f publications s result).1.registry = m.registry ∧
      Quiet m (reconcileAnswered m f publications s result).1 ∧
      ∃ t', (reconcileAnswered m f publications s result).2 = [t'] ∧
        ((∃ s', t' = .reconcileRoutes f publications s') ∨
          ∃ m1 err, (reconcileReturn m1 err f).2 = [t']) := by
  cases result with
  | error err =>
    obtain ⟨he, hq, t', ht'⟩ := reconcileReturn_spec m (some (controlErrorText err)) f
    exact ⟨he, hq, t', ht', .inr ⟨_, _, ht'⟩⟩
  | ok =>
    unfold reconcileAnswered
    dsimp only
    split <;> exact ⟨rfl, ⟨rfl, rfl⟩, _, rfl, .inl ⟨_, rfl⟩⟩

theorem goReconcile_section {f : RoutesFor} {s : ReconcileStage}
    (h : goReconcile m f publications s = some out) :
    Sound cfg m (.reconcileRoutes f publications s) out := by
  intro _ ht
  unfold goReconcile at h
  split at h
  · split at h
    · cases h
    · cases h
      exact reconcileRoutes_section ht rfl (.inl ⟨_, rfl⟩) (.still rfl)
  · cases h
    exact reconcileRoutes_section ht rfl (.inl ⟨_, rfl⟩) (.still rfl)
  · cases h
    obtain ⟨he, hq, _, ht'⟩ := reconcileReturn_spec m none f
    have hs := reconcileRoutes_section ht he (.inr ⟨_, _, ht'⟩) (.quiet hq)
    rwa [← ht'] at hs
  all_goals cases h

theorem recoverEntry_spec {entry : InventoryEntry} {record : SandboxMetadata}
    (h : recoverEntry cfg entry = .ok record) :
    record.config.identity.sandboxUID = entry.config.identity.sandboxUID ∧
      endingPhase record.phase = false := by
  have hd : ∀ d : DriverPhase, endingPhase d.phase = false := by
    intro d
    cases d <;> rfl
  unfold recoverEntry at h
  dsimp only at h
  split_ifs at h
  all_goals cases h
  all_goals refine ⟨rfl, ?_⟩
  · exact hd _
  · rfl
  · rfl
  · exact hd _

variable {entries : List InventoryEntry} {records : List SandboxMetadata}

theorem recoverEntries_spec {table : Table SandboxMetadata}
    (h : recoverEntries cfg entries table = .ok records)
    (ha : ∀ uid record, table.lookup uid = some record → record.config.identity.sandboxUID = uid ∧
      endingPhase record.phase = false) :
    (∀ record ∈ records, endingPhase record.phase = false) ∧
      (∀ uid record, table.lookup uid = some record →
        ∃ record' ∈ records, record'.config.identity.sandboxUID = uid) ∧
      ∀ entry ∈ entries, ownEntry cfg entry →
        ∃ record ∈ records, record.config.identity.sandboxUID =
          entry.config.identity.sandboxUID := by
  induction entries generalizing table with
  | nil =>
    cases h
    have he : ∀ record, record ∈ table.entries.map Sigma.snd ↔
        ∃ uid, table.lookup uid = some record := by
      intro record
      rw [mem_map]
      constructor
      · rintro ⟨⟨uid, record'⟩, hn, rfl⟩
        exact ⟨uid, mem_lookup_iff.mpr hn⟩
      · rintro ⟨uid, hl⟩
        exact ⟨⟨uid, record⟩, mem_lookup_iff.mp hl, rfl⟩
    refine ⟨?_, ?_, nofun⟩
    · intro record hr
      obtain ⟨uid, hl⟩ := (he record).mp hr
      exact (ha uid record hl).2
    · intro uid record hl
      exact ⟨record, (he record).mpr ⟨uid, hl⟩, (ha uid record hl).1⟩
  | cons entry rest ih =>
    unfold recoverEntries at h
    split at h
    · rename_i hf
      obtain ⟨hh, hold, hnew⟩ := ih h ha
      refine ⟨hh, hold, ?_⟩
      intro entry' hn' ho
      rcases mem_cons.mp hn' with rfl | hs
      · rw [ho] at hf
        cases hf
      · exact hnew entry' hs ho
    · cases hr : recoverEntry cfg entry with
      | error err =>
        rw [hr] at h
        cases h
      | ok record =>
        rw [hr] at h
        obtain ⟨hi, hh⟩ := recoverEntry_spec hr
        obtain ⟨hp, hold, hnew⟩ := ih h (by
          intro uid record' hl
          by_cases hu : uid = record.config.identity.sandboxUID
          · subst hu
            rw [lookup_insert] at hl
            cases hl
            exact ⟨rfl, hh⟩
          · rw [lookup_insert_ne hu] at hl
            exact ha uid record' hl)
        refine ⟨hp, ?_, ?_⟩
        · -- an older entry of the UID is replaced, not lost
          intro uid record' hl
          by_cases hu : uid = record.config.identity.sandboxUID
          · subst hu
            exact hold _ record (lookup_insert _)
          · exact hold uid record' ((lookup_insert_ne hu).trans hl)
        · intro entry' hn' ho
          rcases mem_cons.mp hn' with rfl | hs
          · obtain ⟨record', he, heq⟩ := hold _ record (lookup_insert _)
            exact ⟨record', he, heq.trans hi⟩
          · exact hnew entry' hs ho

theorem recoverRoutes_spec (cfg : Config) (records : List SandboxMetadata)
    (publications : List RoutePublication) :
    (recoverRoutes cfg records publications).names = none ∧
      (recoverRoutes cfg records publications).recovered = some records ∧
      ∀ r, (recoverRoutes cfg records publications).Bound cfg r ↔
        (∀ record ∈ records, endingPhase record.phase = false) ∧
          ∀ uid ∈ r.instances, ∃ record ∈ records, record.config.identity.sandboxUID = uid := by
  unfold recoverRoutes
  split <;> exact ⟨rfl, rfl, fun _ => Iff.rfl⟩

theorem recoverList_section (ht : TaskOk cfg m.registry (.recover .list)) :
    Section cfg m (.recover .list) (recoverList cfg m entries) := by
  have hc := ht.recovers rfl
  unfold recoverList
  -- wherever the recovery goes from here, the runtime is known to hold what was listed
  generalize hown : ((entries.filter (ownEntry cfg)).map
    fun entry => entry.config.identity.sandboxUID) = own
  dsimp only
  generalize (m.instances ++ m.unlisted).filter (· ∉ own) = unlisted
  have hg : ∀ t' : Task, t'.names = none →
      (∀ r : Registry, r.instances = own → t'.Bound cfg r) → (recover .list).Hands cfg t' →
      Section cfg m (.recover .list) ({ m with instances := own, unlisted }, [t']) := by
    intro t' hn hb hs
    exact .one (.inventory rfl _) (.recovery hn rfl hs) (.recovery hn hc (hb _ rfl)) (.still rfl)
  cases het : recoverEntries cfg entries ∅ with
  | error => exact hg _ rfl (fun _ _ => trivial) nofun
  | ok records =>
    have hm : ∀ uid record, (∅ : Table SandboxMetadata).lookup uid = some record →
        record.config.identity.sandboxUID = uid ∧ endingPhase record.phase = false := by
      intro uid record h
      rw [lookup_empty] at h
      cases h
    obtain ⟨hp, -, hw⟩ := recoverEntries_spec het hm
    have hh : ∀ r : Registry, r.instances = own → ∀ uid ∈ r.instances,
        ∃ record ∈ records, record.config.identity.sandboxUID = uid := by
      intro r hr uid he
      rw [hr, ← hown, mem_map] at he
      obtain ⟨entry, hen, rfl⟩ := he
      rw [mem_filter] at hen
      exact hw entry hen.1 hen.2
    dsimp only
    split
    · exact hg _ rfl (fun _ _ => trivial) nofun
    rename_i ha
    have hs : (records.countP fun record => occupiesSlot record.phase) ≤ cfg.capacity := by
      refine le_trans (countP_mono_left fun record _ ho => ?_) (not_lt.mp ha)
      rw [decide_eq_true_eq]
      intro hp
      rw [hp] at ho
      cases ho
    split
    · obtain ⟨hn, hro, hb⟩ := recoverRoutes_spec cfg records []
      refine hg _ hn (fun r hr => (hb r).mpr ⟨hp, hh r hr⟩) fun records' h => .inr ?_
      rw [hro] at h
      cases h
      exact hs
    · refine hg _ rfl (fun r hr => ⟨hp, hh r hr⟩) fun records' h => .inr ?_
      cases h
      exact hs

theorem registry_recoverFinish (hr : m.registry.Valid) (he : m.recovering) :
    (recoverFinish cfg m records).registry =
      { m.registry.adopt records with recovering := false } := by
  have hm : ({ m with sandboxes := ∅ } : Manager).registry = m.registry := by
    have hn : m.registry.entry = fun _ => none := funext (hr.recovering he).1
    have hl : ({ m with sandboxes := ∅ } : Manager).lookup = fun _ => none := funext lookup_empty
    have heq : ({ m with sandboxes := ∅ } : Manager).lookup = m.lookup := hl.trans hn.symm
    unfold Manager.registry
    rw [heq]
    rfl
  have ha := registry_adopt { m with sandboxes := ∅ } records
  rw [hm] at ha
  exact congrArg (fun r : Registry => { r with recovering := false }) ha

theorem quiet_recoverFinish (records : List SandboxMetadata) :
    Quiet m (recoverFinish cfg m records) := by
  have hf : ∀ m1 : Manager, Quiet m m1 → Quiet m (records.foldl Manager.install m1) := by
    induction records with
    | nil => exact fun _ h => h
    | cons record rest ih =>
      intro m1 h
      rw [foldl_cons]
      exact ih _ ⟨h.log, h.proxy⟩
  obtain ⟨hl, hp⟩ := hf { m with sandboxes := ∅ } ⟨rfl, rfl⟩
  exact ⟨hl, hp⟩

theorem recoverFinish_section :
    Sound cfg m (.recover (.finish records)) (recoverFinish cfg m records, []) := by
  intro hr ht
  obtain ⟨hp, hh⟩ := ht.bound
  refine .nil ?_ (.quiet (quiet_recoverFinish records))
  rw [registry_recoverFinish hr (ht.recovers rfl)]
  exact .adopt rfl records hp hh rfl

theorem goRecover_section {s : RecoverStage} (h : goRecover cfg m s = some out) :
    Sound cfg m (.recover s) out := by
  intro hr ht
  cases s with
  | start =>
    cases h
    refine recovery_section ht rfl ?_ rfl trivial nofun (.still rfl)
    have he : m.recovering := ht.recovers rfl
    unfold Manager.registry
    rw [he]
    rfl
  | list => cases h
  | access todo publications records =>
    cases todo with
    | cons record rest => cases h
    | nil =>
      cases h
      obtain ⟨hn, ho, hb⟩ := recoverRoutes_spec cfg records publications
      exact recovery_section ht rfl rfl hn ((hb _).mpr ht.bound) (fun _ h =>
        .inl (ho.symm.trans h)) (.still rfl)
  | finish =>
    cases h
    exact recoverFinish_section hr ht

/-! ## Bindings -/

theorem bindingsPhase_created {phase : Phase} (statuses : List ActionBindingStatus)
    (err : Option String) (h : runtimeCreatedPhase phase) :
    runtimeCreatedPhase (bindingsPhase phase statuses err) := by
  unfold bindingsPhase
  split_ifs <;> first | exact h | rfl

theorem goBindings_section {req : ReconcileBindingsRequest} {s : BindingsStage}
    (h : goBindings m p req s = some out) : Section cfg m (.bindings p req s) out := by
  cases s with
  | wait => cases h
  | apply =>
    cases h
    unfold applyBindings
    split_ifs
    · exact .nil (.of_eq (registry_modify_of_eq m p _ rfl rfl)) (.still rfl)
    · exact .stop
  | settle statuses generation err =>
    cases h
    unfold settleBindings
    split_ifs with ha
    · refine .nil ?_ (.still rfl)
      obtain ⟨-, hc⟩ := runtimeWorkAllowed_spec ha
      have hm : Move cfg (.bindings p req (.settle statuses generation err)) m.registry
          (m.setPhase p (bindingsPhase (m.phase p) statuses err)).registry :=
        work_move ha (bindingsPhase_created statuses err hc)
      rw [registry_setPhase] at hm
      rw [registry_modify m p _ rfl]
      exact hm
    · exact .stop

theorem projectedPhase_cases (phase : Phase) (statuses : List ActionBindingStatus)
    (generation : ℤ) :
    projectedPhase phase statuses generation = phase ∨
      (runtimeCreatedPhase phase ∧
        runtimeCreatedPhase (projectedPhase phase statuses generation)) := by
  unfold projectedPhase
  cases hr : routeReadyForPhase phase with
  | false => exact .inl rfl
  | true =>
    have hc : runtimeCreatedPhase phase := by
      cases phase <;> first | rfl | cases hr
    right
    refine ⟨hc, ?_⟩
    split_ifs <;> first | rfl | exact hc

theorem projectActions_section {uid : String} {statuses : List ActionBindingStatus}
    {generation : ℤ} (hr : m.registry.Valid) :
    Section cfg m (.projectActions uid statuses generation)
      (actionStateChanged m uid statuses generation, []) := by
  unfold actionStateChanged
  cases he : m.lookup uid with
  | none => exact .stop
  | some p =>
    obtain ⟨-, hu⟩ := hr.keyed _ p he
    have hc : m.registry.Current p := by
      unfold Registry.Current
      rw [hu]
      exact he
    dsimp only
    split_ifs
    · exact .stop
    split
    all_goals first | exact .stop | skip
    refine .nil ?_ (.still rfl)
    rw [registry_modify m p _ rfl]
    refine .work _ fun q => ?_
    by_cases hq : q = p
    · subst hq
      rw [update_self]
      rcases projectedPhase_cases (m.phase q) statuses generation with heq | ⟨hold, hnew⟩
      · exact .inl heq
      · exact .inr ⟨hc, hold, hnew⟩
    · rw [update_of_ne hq]
      exact .inl rfl

/-! ## Starting the data plane -/

variable {k : AfterStart}

theorem AfterStart.task_inert (h : ∀ c, k ≠ .bootExit c) : k.task.Inert := by
  cases k with
  | finishCreate => exact ⟨rfl, rfl⟩
  | bootExit c => exact absurd rfl (h c)
  | prepare err => cases err <;> exact ⟨rfl, rfl⟩

/-- The worker that starts the data plane comes to what follows, with its placeholder in hand if
it is a boot worker. -/
theorem afterStart_section (ht : TaskOk cfg m.registry t) (he : m'.registry = m.registry)
    (hbt : ∀ c, k = .bootExit c → t.works = some c.placeholder ∧
      m.registry.config c.placeholder = c.input)
    (ht' : (∃ todo, t' = .startData todo k) ∨ t' = k.task)
    (hl : Logged cfg m t m') : Section cfg m t (m', [t']) := by
  by_cases hk : ∃ c, k = .bootExit c
  · obtain ⟨c, rfl⟩ := hk
    obtain ⟨hw, hb⟩ := hbt c rfl
    rcases ht' with ⟨todo, rfl⟩ | rfl
    · exact .works ht (.inr hw) rfl he hb nofun nofun nofun nofun hl
    · exact .works ht (.inr hw) rfl he hb nofun nofun nofun nofun hl
  · have hk' : ∀ c, k ≠ .bootExit c := fun c heq => hk ⟨c, heq⟩
    refine .inert_one (.of_eq he) ?_ hl
    rcases ht' with ⟨todo, rfl⟩ | rfl
    · cases k with
      | bootExit c => exact absurd rfl (hk' c)
      | _ => exact ⟨rfl, rfl⟩
    · exact AfterStart.task_inert hk'

theorem continueData_section {ready : Bool} :
    Sound cfg m (.continueData p ready k) (m, [continueDataPlaneCreation m p ready k]) := by
  intro _ ht
  refine afterStart_section (k := k) ht rfl ?_ ?_ (.still rfl)
  · rintro c rfl
    exact ⟨rfl, ht.bound⟩
  unfold continueDataPlaneCreation
  split_ifs
  · exact .inl ⟨_, rfl⟩
  · exact .inr rfl

theorem startData_section {todo : List Ref} :
    Sound cfg m (.startData todo k) (startDataPlaneReconcile cfg m todo k) := by
  intro _ ht
  have hb : ∀ c, k = .bootExit c → (startData todo k).works = some c.placeholder ∧
      m.registry.config c.placeholder = c.input := by
    rintro c rfl
    exact ⟨rfl, ht.bound⟩
  cases todo with
  | nil => exact afterStart_section ht rfl hb (.inr rfl) (.still rfl)
  | cons p rest =>
    unfold startDataPlaneReconcile
    dsimp only
    split
    · exact afterStart_section ht rfl hb (.inl ⟨_, rfl⟩) (.still rfl)
    -- the worker of the data plane is inert
    have he : Section cfg m (.startData (p :: rest) k) ({ m with
        dataPlaneWorkers := update m.dataPlaneWorkers (m.uid p) (some p) },
        [.startData rest k]) := afterStart_section ht rfl hb (.inl ⟨_, rfl⟩) (.still rfl)
    obtain ⟨hm, -, hx, hl⟩ := he
    have hn : (data p .worker .once).Inert := ⟨rfl, rfl⟩
    refine ⟨hm, pairwise_pair.mpr (hn.apart _), ?_, hl⟩
    intro u hu
    rcases mem_cons.mp hu with rfl | hu
    · exact ⟨hn.offspring, hn.taskOk⟩
    · exact hx u hu

theorem finishCreate_section {req : CreateSandboxRequest} {success : CreateSuccess} :
    Section cfg m (.finishCreate req success) (finishCreate m req success) := by
  obtain ⟨created, _⟩ := success
  refine .nil (.of_eq ?_) (.answer rfl ?_ (by cases created <;> exact nofun))
  · split_ifs
    · cases m.lookup req.identity.sandboxUID with
      | none => rfl
      | some p =>
        exact registry_modify_of_eq m p
          (fun record => { record with appliedGeneration := req.specGeneration }) rfl rfl
    · rfl
  · split_ifs
    · cases m.lookup req.identity.sandboxUID <;> exact ⟨rfl, rfl⟩
    · exact ⟨rfl, rfl⟩

end DataPlane

end FastSandbox.Fastlet
