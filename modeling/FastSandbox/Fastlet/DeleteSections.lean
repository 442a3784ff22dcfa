import FastSandbox.Fastlet.CreateSections

/-!
# The sections of a deletion and of a terminal failure are moves
-/

namespace FastSandbox.Fastlet

open Function

/-! ## DeleteSandboxContext -/

section Deletion

variable {cfg : Config} {m : Manager} {t : Task} {p : Ref}

theorem rank_eq_of_fence {pod : String} {existing requested : SandboxIdentity}
    (h : validateIdentityFence pod existing requested = none) : requested.rank = existing.rank := by
  unfold validateIdentityFence at h
  obtain ⟨hn, hat⟩ : ¬ requested.instanceGeneration < existing.instanceGeneration ∧
      ¬ (requested.instanceGeneration = existing.instanceGeneration ∧
        requested.assignmentAttempt < existing.assignmentAttempt) := by
    rw [← not_or]
    intro _
    split_ifs at h
  obtain ⟨he', ht'⟩ : ¬ existing.instanceGeneration < requested.instanceGeneration ∧
      ¬ existing.assignmentAttempt < requested.assignmentAttempt := by
    rw [← not_or]
    intro _
    split_ifs at h
  have hg : requested.instanceGeneration = existing.instanceGeneration :=
    le_antisymm (not_lt.mp he') (not_lt.mp hn)
  have ha : requested.assignmentAttempt = existing.assignmentAttempt :=
    le_antisymm (not_lt.mp ht') (not_lt.mp fun hlt => hat ⟨hg, hlt⟩)
  unfold SandboxIdentity.rank
  rw [hg, ha]

variable {r : Registry} {d : Deletion}

variable {s : DeleteStage}

theorem TaskOk.delete
    (h : ∀ p, d.record = some p → p < r.next ∧ r.Covered p ∧ r.uid p = d.identity.sandboxUID ∧
      r.strict cfg p = d.strictActions) :
    TaskOk cfg r (.delete d s) where
  named p hp := (h p hp).1
  creates := nofun
  discards := nofun
  retries := nofun
  ends p hp := (h p hp).2.1
  deletes := nofun
  recovers := nofun
  bound p hp := (h p hp).2.2

theorem works_delete (h : (Task.delete d s).works = some p) :
    d.record = some p ∧ d.wasCreating = false := by
  obtain ⟨_, record, _, wasCreating⟩ := d
  cases wasCreating with
  | true => cases h
  | false => exact ⟨h, rfl⟩

theorem Offspring.delete (h : ∀ p, d.record = some p → d.wasCreating = false → Owns cfg r t p) :
    Offspring cfg r t (.delete d s) where
  creates := nofun
  works p hp := .inl (h p (works_delete hp).1 (works_delete hp).2)
  deletes := nofun
  recovers := nofun
  retries := nofun
  pledges := nofun
  recovered := nofun

theorem registry_markTerminating (strictActions : Bool) (i : SandboxIdentity) :
    (markTerminating m p strictActions).1.registry =
      { m.registry.accept strictActions p i with tombstone := m.registry.tombstone } := by
  unfold markTerminating Registry.accept
  by_cases ht : m.phase p = .terminating
  · have hp : m.registry.phase p = .terminating := ht
    have hs : update m.registry.phase p .terminating = m.registry.phase := by
      rw [← hp, update_eq_self]
    rw [if_pos ht, hs, hp, show creatingPhase .terminating = false from rfl, Bool.and_false]
    rfl
  · have he := registry_setPhase (cancelWorkers m p) p .terminating
    have hu : ((cancelWorkers m p).setPhase p .terminating).uid p = m.uid p := by
      show ((cancelWorkers m p).setPhase p .terminating).registry.uid p = _
      rw [he]
      rfl
    dsimp only
    rw [hu, show m.registry.phase p = m.phase p from rfl]
    split_ifs
    · exact congrArg (fun r : Registry => { r with pending := update r.pending (m.uid p) true }) he
    · exact he

theorem registry_acceptDelete (cfg : Config) (d : Deletion) (strictActions : Bool) :
    (acceptDelete cfg (markTerminating m p strictActions).1 d).1.registry =
      m.registry.accept strictActions p d.identity := by
  have ht := registry_recordTombstone (markTerminating m p strictActions).1 d.identity
  rw [registry_markTerminating strictActions d.identity] at ht
  exact ht

/-- A Delete that starts a worker finds the creation over. -/
theorem not_creating_of_accept (hr : m.registry.Valid) (hu : m.Current p)
    (hgt : ¬ (m.phase p = .deleting ∨ (m.phase p = .terminating ∧ (!strict cfg m p))))
    (hw : (markTerminating m p (strict cfg m p)).2 = false) : ¬ m.registry.Creating cfg p := by
  intro hc
  unfold markTerminating at hw
  split at hw
  · rename_i ht
    -- the flag of a creation in flight would be set
    have hsr : strict cfg m p := by
      cases hs : strict cfg m p with
      | true => rfl
      | false => exact absurd (.inr ⟨ht, by rw [hs]; rfl⟩) hgt
    have ho := hr.deleting p hu (show deletingPhase (m.phase p) by rw [ht]; rfl)
    have hp : m.createDeletePending (m.uid p) := hc.pending ho hsr
    have hw' : m.createDeletePending (m.uid p) = false := hw
    rw [hp] at hw'
    cases hw'
  · rename_i ht
    exact ht (terminating_of_placeholder hc.phase hw)

/-- The tombstone covers the identity that is deleted. -/
theorem covers_recordTombstone (m : Manager) (i : SandboxIdentity) :
    covers ((recordTombstone m i).tombstones i.sandboxUID) i := by
  show covers ((recordTombstone m i).registry.tombstone i.sandboxUID) i
  rw [registry_recordTombstone]
  exact covers_bury_self _ i

theorem quiet_markTerminating (strictActions : Bool) :
    Quiet m (markTerminating m p strictActions).1 := by
  unfold markTerminating
  by_cases ht : m.phase p = .terminating
  · rw [if_pos ht]
    exact ⟨rfl, rfl⟩
  · dsimp only
    split_ifs <;> exact ⟨rfl, rfl⟩

theorem accepted_logged {i : SandboxIdentity} {m1 : Manager} (h : Quiet m m1) :
    Logged cfg m (.call (.delete i)) ((recordTombstone m1 i).write (.accepted i)) := by
  have hq := quiet_recordTombstone (m := m1) i
  exact .accepted i rfl (congrArg (_ :: ·) (hq.log.trans h.log)) (hq.proxy.trans h.proxy)
    (covers_recordTombstone _ i)

variable {identity : SandboxIdentity}

theorem beginDeleteRecord_section (hr : m.registry.Valid)
    (hn : m.lookup identity.sandboxUID = some p) :
    Section cfg m (.call (.delete identity)) (beginDeleteRecord cfg m identity p) := by
  obtain ⟨hlt, hu⟩ := hr.keyed _ p hn
  have hc : m.registry.Current p := by
    unfold Registry.Current
    rw [hu]
    exact hn
  unfold beginDeleteRecord
  cases hf : validateIdentityFence cfg.fastletPodUID (m.config p).identity identity with
  | some => exact .nil .same (.deleted _ _ rfl rfl)
  | none =>
    dsimp only
    split
    · exact .nil .same (.deleted _ _ rfl rfl)
    split
    · exact .nil .same (.deleted _ _ rfl rfl)
    rename_i hgt
    have hrn := rank_eq_of_fence hf
    have he := registry_acceptDelete (m := m) (p := p) cfg
      ⟨identity, some p, strict cfg m p, (markTerminating m p (strict cfg m p)).2⟩
      (strict cfg m p)
    have hm : Move cfg (.call (.delete identity)) m.registry
        (m.registry.accept (m.registry.strict cfg p) p identity) :=
      .accept p identity rfl hu.symm hrn hc
    have ho := (hr.accept (m.registry.strict cfg p) hu.symm hrn hc).deleting p hc (by
      show deletingPhase (update m.registry.phase p .terminating p)
      rw [update_self]
      rfl)
    refine .step he hm (.delete ?_) (.delete ?_) (accepted_logged (quiet_markTerminating _))
    · rintro q hq hw
      cases hq
      exact .inr (.inr (not_creating_of_accept hr hc hgt hw))
    · rintro q hq
      cases hq
      exact ⟨hlt, ho, hu, rfl⟩

/-- An accepted Delete buries the identity, whether there is a record or not. -/
theorem beginDelete_section (hr : m.registry.Valid) :
    Section cfg m (.call (.delete identity)) (beginDelete cfg m identity) := by
  unfold beginDelete
  cases validateIdentityTarget cfg identity with
  | some => exact .nil .same (.deleted _ _ rfl rfl)
  | none =>
    dsimp only
    split
    · exact .nil .same (.deleted _ _ rfl rfl)
    rename_i hd
    cases hn : m.lookup identity.sandboxUID with
    | some p => exact beginDeleteRecord_section hr hn
    | none =>
      have he : m.registry.recovering = false := by
        cases hm : m.recovering with
        | false => exact hm
        | true => exact absurd (.inl hm) hd
      have hv : Move cfg (.call (.delete identity)) m.registry
          (recordTombstone m identity).registry := by
        rw [registry_recordTombstone]
        exact .acceptAbsent identity rfl hn he
      exact .one hv (.delete nofun) (.delete nofun) (accepted_logged ⟨rfl, rfl⟩)

/-- The dispatch starts one worker at most for the record. -/
theorem dispatchDelete_section : Sound cfg m (.delete d .dispatch) (dispatchDelete m d) := by
  intro _ ht
  obtain ⟨identity, record, strictActions, wasCreating⟩ := d
  cases record with
  | none => exact .nil .same (.deleted _ _ rfl rfl)
  | some p =>
    have hlt : p < m.registry.next := ht.named p rfl
    have ho : m.registry.Covered p := ht.ends p rfl
    obtain ⟨hi, hsr⟩ := ht.bound p rfl
    have hu' : m.registry.uid p = identity.sandboxUID := hi
    have hr : m.lookup identity.sandboxUID = some p ↔ m.registry.Current p := by
      unfold Registry.Current
      rw [hu']
      rfl
    cases wasCreating with
    | false =>
      -- the creation is over: the flag is taken down and the phase set, if the record is managed
      have hw :
          Owns cfg m.registry (.delete ⟨identity, some p, strictActions, false⟩ .dispatch) p :=
        .inr (.inl rfl)
      obtain ⟨m', hm', hv, hq⟩ : ∃ m' : Manager,
        (dispatchDelete m ⟨identity, some p, strictActions, false⟩) =
          (m'.write (.deleted identity none),
            if m.terminalFailureWorkers identity.sandboxUID = some p then []
            else [.asyncDelete p .start]) ∧
          Move cfg (.delete ⟨identity, some p, strictActions, false⟩ .dispatch) m.registry
            m'.registry ∧ Quiet m m' := by
        refine ⟨_, rfl, ?_⟩
        split_ifs with he hs
        · refine ⟨?_, rfl, rfl⟩
          rw [registry_setPhase]
          rw [← hu']
          exact .deleteCleared p .deleting hw (hr.mp he) ho (.inr rfl)
        · refine ⟨?_, rfl, rfl⟩
          rw [← hu']
          exact .cleared hw (hr.mp he) ho
        · exact ⟨.same, rfl, rfl⟩
      have hl : Logged cfg m (.delete ⟨identity, some p, strictActions, false⟩ .dispatch)
          (m'.write (.deleted identity none)) :=
        .deleted identity none (congrArg (_ :: ·) hq.log) hq.proxy
      rw [hm']
      split_ifs
      · exact .nil hv hl
      · refine .one hv (.of_works rfl (.inl hw) nofun nofun) ?_ hl
        exact .asyncDelete_start (hlt.trans_le hv.grows.next) (hv.grows.covered hlt ho)
    | true =>
      unfold dispatchDelete
      dsimp only
      rw [if_neg (by decide)]
      split_ifs with hn
      · rw [Bool.and_eq_true, Bool.and_eq_true] at hn
        obtain ⟨⟨hs, he⟩, hp⟩ := hn
        have hcu := hr.mp (of_decide_eq_true he)
        -- the creation took the flag down, so it is over
        have hno : ¬ m.registry.Creating cfg p := by
          intro hc
          have hf := hc.pending ho (hsr.trans hs)
          rw [hu'] at hf
          have hf' : m.createDeletePending identity.sandboxUID := hf
          rw [hf'] at hp
          cases hp
        refine .step (registry_setPhase m p .deleting) ?_
          (.of_works rfl (.inl (.inr (.inr hno))) nofun nofun) ?_ (.deleted _ _ rfl rfl)
        · exact .delete p .deleting (.inr (.inr hno)) hcu ho rfl
        · exact .asyncDelete_start hlt ho
      · exact .nil .same (.deleted _ _ rfl rfl)

/-! ## asyncDelete -/

variable {s : AsyncDeleteStage}

theorem TaskOk.asyncDelete (hlt : p < r.next) (hc : r.Covered p)
    (hd : r.Current p → r.deleter (r.uid p) = some p)
    (hi : s = .settle none → r.Current p → r.uid p ∉ r.instances) :
    TaskOk cfg r (.asyncDelete p s) := by
  refine .of_works rfl hlt trivial ?_ nofun (fun _ => hc) fun _ => hd
  intro h
  refine hi ?_
  cases s with
  | settle err =>
    cases err with
    | none => rfl
    | some text => cases h
  | _ => cases h

variable {t' : Task}

theorem asyncDelete_section {m' : Manager} (ht : TaskOk cfg m.registry t)
    (hp : t.deletes = some p) (hp' : t'.deletes = some p) (hs : t.ends = some p)
    (he : m'.registry = m.registry) (hb : t'.Bound cfg m.registry)
    (hd : t'.discards = none) (hr : t'.retries = none)
    (hl : Logged cfg m t m') : Section cfg m t (m', [t']) := by
  refine .works ht (.inr (Task.works_of_deletes hp)) (Task.works_of_deletes hp') he hb ?_ ?_
    (fun _ => hs) (fun _ => hp) hl
  · rw [hd]
    exact nofun
  · rw [hr]
    exact nofun

theorem asyncDeleteRemoval_spec (cfg : Config) (p : Ref) :
    (asyncDeleteRemoval cfg p).deletes = some p ∧ (asyncDeleteRemoval cfg p).ends = some p ∧
      (asyncDeleteRemoval cfg p).discards = none ∧ (asyncDeleteRemoval cfg p).retries = none ∧
      ∀ r, (asyncDeleteRemoval cfg p).Bound cfg r := by
  unfold asyncDeleteRemoval beginRemoval
  split <;> exact ⟨rfl, rfl, rfl, rfl, fun _ => trivial⟩

theorem beginAsyncDelete_section :
    Sound cfg m (.asyncDelete p .start) (beginAsyncDelete cfg m p) := by
  intro _ ht
  have hlt := ht.named p rfl
  have ho := ht.ends p rfl
  unfold beginAsyncDelete
  by_cases hc : m.Current p
  · rw [if_neg (not_not.mpr hc)]
    split_ifs with hd hs
    · exact .nil .same (.still rfl)
    all_goals
      -- the worker enters the map, and is the only one for the record
      have hm : Move cfg (.asyncDelete p .start) m.registry
          { m.registry with
            deleter := update m.registry.deleter (m.registry.uid p) (some p) } :=
        .claim p hc
      have hnew : Task.asyncDelete p .start = .asyncDelete p .start ∧ m.registry.Current p ∧
          m.registry.deleter (m.registry.uid p) ≠ some p :=
        ⟨rfl, hc, hd⟩
      have hw : update m.registry.deleter (m.registry.uid p) (some p)
          (m.registry.uid p) = some p := update_self _ _ _
    · refine .step rfl hm (.of_works rfl (.inl (.inr (.inl rfl)))
        (fun _ => .inr hnew) nofun) ?_ (.still rfl)
      exact .asyncDelete hlt ho (fun _ => hw) nofun
    · refine .step rfl hm (.of_works rfl (.inl (.inr (.inl rfl)))
        (fun _ => .inr hnew) nofun) ?_ (.still rfl)
      exact .asyncDelete hlt ho (fun _ => hw) nofun
    obtain ⟨hl, -, hi, he, hb⟩ := asyncDeleteRemoval_spec cfg p
    have hk := Task.works_of_deletes hl
    refine .step rfl hm (.of_works hk (.inl (.inr (.inl rfl))) (fun _ => .inr hnew) ?_) ?_
      (.still rfl)
    · rw [he]
      exact nofun
    refine .of_works hk hlt (hb _) ?_ ?_ (fun _ => ho) fun _ _ => hw
    · rw [hi]
      exact nofun
    · rw [he]
      exact nofun
  · rw [if_pos hc]
    exact .stop

theorem quiet_failAsyncDelete : Quiet m (failAsyncDelete m p) := by
  unfold failAsyncDelete
  split_ifs <;> exact ⟨rfl, rfl⟩

theorem quiet_settleAsyncDelete (err : Option String) : Quiet m (settleAsyncDelete m p err) := by
  cases err with
  | some => exact quiet_failAsyncDelete
  | none =>
    unfold settleAsyncDelete
    split_ifs
    · have hq := quiet_recordTombstone (m := m) { (m.config p).identity with
        sandboxNamespace := "", name := "", routeGeneration := 0 }
      exact ⟨hq.log, hq.proxy⟩
    · exact ⟨rfl, rfl⟩

theorem failAsyncDelete_move (hp : t.works = some p) (hc : m.registry.Covered p) :
    Move cfg t m.registry (failAsyncDelete m p).registry := by
  unfold failAsyncDelete
  split_ifs with hu
  · rw [registry_setPhase]
    exact .delete p .deleteFailed (.inr (.inl hp)) hu hc rfl
  · exact .same

variable {err : Option String}

theorem settleAsyncDelete_move (ht : TaskOk cfg m.registry (.asyncDelete p (.settle err))) :
    Move cfg (.asyncDelete p (.settle err)) m.registry (settleAsyncDelete m p err).registry := by
  have hc := ht.ends p rfl
  cases err with
  | some => exact failAsyncDelete_move rfl hc
  | none =>
    unfold settleAsyncDelete
    split_ifs with hu
    · -- the accepted Delete has recorded the tombstone, so this one changes nothing
      rw [registry_drop, registry_recordTombstone]
      have hs : bury m.registry.tombstone { (m.config p).identity with
          sandboxNamespace := "", name := "", routeGeneration := 0 } = m.registry.tombstone :=
        bury_of_covers (covers_of_rank_le hc (le_refl _))
      rw [hs]
      exact .discard p rfl hu
    · exact .same

theorem TaskOk.asyncDelete_release {r' : Registry} (ht : TaskOk cfg m.registry (.asyncDelete p s))
    (hs : s ≠ .start) (hm : Move cfg (.asyncDelete p s) m.registry r')
    (hd : r'.deleter = m.registry.deleter) : TaskOk cfg r' (.asyncDelete p .release) := by
  have hlt := ht.named p rfl
  have hp : (Task.asyncDelete p s).deletes = some p := by
    cases s with
    | start => exact absurd rfl hs
    | _ => rfl
  refine .asyncDelete (hlt.trans_le hm.grows.next) (hm.grows.covered hlt (ht.ends p rfl)) ?_
    nofun
  intro hc
  rw [hm.grows.uid hlt, hd]
  exact ht.deletes p hp (hm.current_before hlt hc)

/-- A delete worker drops its own record only. -/
theorem settleAsyncDelete_section : Sound cfg m (.asyncDelete p (.settle err))
      (settleAsyncDelete m p err, [.asyncDelete p .release]) := by
  intro _ ht
  have hm := settleAsyncDelete_move ht
  refine .one hm (.of_works rfl (.inl (.inr (.inl rfl))) (fun _ => .inl rfl) nofun) ?_
    (.quiet (quiet_settleAsyncDelete err))
  refine ht.asyncDelete_release nofun hm ?_
  cases err with
  | some =>
    unfold settleAsyncDelete failAsyncDelete
    split_ifs <;> rfl
  | none =>
    unfold settleAsyncDelete
    split_ifs
    · rw [registry_drop, registry_recordTombstone]
      rfl
    · rfl

theorem failAsyncDelete_section :
    Sound cfg m (.asyncDelete p .failed) (failAsyncDelete m p, [.asyncDelete p .release]) := by
  intro _ ht
  have hm : Move cfg (.asyncDelete p .failed) m.registry (failAsyncDelete m p).registry :=
    failAsyncDelete_move rfl (ht.ends p rfl)
  refine .one hm (.of_works rfl (.inl (.inr (.inl rfl))) (fun _ => .inl rfl) nofun) ?_
    (.quiet quiet_failAsyncDelete)
  refine ht.asyncDelete_release nofun hm ?_
  unfold failAsyncDelete
  split_ifs <;> rfl

theorem releaseAsyncDelete_section :
    Sound cfg m (.asyncDelete p .release) (releaseAsyncDelete m p) := by
  intro _ ht
  unfold releaseAsyncDelete
  dsimp only
  have hm : Move cfg (.asyncDelete p .release) m.registry { m.registry with
      deleter := if m.registry.deleter (m.registry.uid p) = some p then
          update m.registry.deleter (m.registry.uid p) none
        else m.registry.deleter } := .release p rfl
  by_cases hr : m.deleteRetryRequested (m.uid p) = some p ∧ m.Current p
  · rw [if_pos hr]
    refine .step rfl hm (.of_works rfl (.inl (.inr (.inl rfl))) nofun nofun) ?_ (.still rfl)
    exact .asyncDelete_start (ht.named p rfl) (ht.ends p rfl)
  · rw [if_neg hr]
    exact .nil hm (.still rfl)

variable {out : Manager × List Task}

theorem goAsyncDelete_section (h : goAsyncDelete cfg m p s = some out) :
    Sound cfg m (.asyncDelete p s) out := by
  cases s with
  | start => cases h; exact beginAsyncDelete_section
  | settle => cases h; exact settleAsyncDelete_section
  | failed => cases h; exact failAsyncDelete_section
  | release => cases h; exact releaseAsyncDelete_section
  | confirm | teardown => cases h

theorem asyncDeleteTeardown_section {present : Bool}
    (ht : TaskOk cfg m.registry (.asyncDelete p .teardown)) :
    Section cfg m (.asyncDelete p .teardown)
      (m.teardown (m.uid p) err present, [.asyncDelete p (.settle err)]) := by
  refine .one teardown_move (.of_works rfl (.inl (.inr (.inl rfl))) (fun _ => .inl rfl) nofun) ?_
    (.still rfl)
  refine .asyncDelete (ht.named p rfl) (ht.ends p rfl) (ht.deletes p rfl) ?_
  intro hs _
  cases hs
  exact not_mem_teardown m (m.uid p) present

/-! ## finishStrictCreateDelete -/

theorem goStrictDelete_section {s : StrictDeleteStage} (h : goStrictDelete m p s = some out) :
    Sound cfg m (.strictDelete p s) out := by
  intro _ ht
  have hlt := ht.named p rfl
  have hc := ht.ends p rfl
  cases s with
  | failed =>
    cases h
    unfold strictDeleteFailed
    split_ifs with hu
    · refine .nil ?_ (.still rfl)
      rw [registry_setPhase]
      exact .delete p .terminating (.inr (.inl rfl)) hu hc rfl
    · exact .stop
  | done =>
    cases h
    unfold strictDeleteDone
    split_ifs with hu
    · refine .step (registry_setPhase m p .deleting) ?_
        (.of_works rfl (.inl (.inr (.inl rfl))) nofun nofun) ?_ (.still rfl)
      · exact .delete p .deleting (.inr (.inl rfl)) hu hc rfl
      · exact .asyncDelete_start hlt hc
    · exact .stop
  | owned => cases h

/-! ## Terminal failures -/

def failureWorker (p : Ref) : Task → Prop
  | .recordFailure q | .recordedFailure q | .terminal q _ | .removeRoute q .terminal _ => q = p
  | _ => False

theorem failureWorker_spec (cfg : Config) (h : failureWorker p t') :
    t'.works = some p ∧ t'.deletes = none ∧ t'.ends = none ∧ t'.retries = none ∧
      t'.discards = none ∧ ∀ r, t'.Bound cfg r := by
  unfold failureWorker at h
  split at h
  all_goals first | (subst h; exact ⟨rfl, rfl, rfl, rfl, rfl, fun _ => trivial⟩) | cases h

theorem TaskOk.failureWorker (h : failureWorker p t') (hlt : p < r.next) : TaskOk cfg r t' := by
  obtain ⟨hw, hd, hs, he, hi, hb⟩ := failureWorker_spec cfg h
  refine .of_works hw hlt (hb r) ?_ ?_ ?_ ?_
  · rw [hi]
    exact nofun
  · rw [he]
    exact nofun
  · rw [hs]
    exact nofun
  · rw [hd]
    exact nofun

theorem failureWorker_section {m' : Manager} (h : failureWorker p t') (hlt : p < m.registry.next)
    (ho : Owns cfg m.registry t p) (hm : Move cfg t m.registry m'.registry)
    (hl : Logged cfg m t m') : Section cfg m t (m', [t']) := by
  obtain ⟨hw, hd, -, he, -⟩ := failureWorker_spec cfg h
  refine .one hm (.of_works hw (.inl ho) ?_ ?_) (.failureWorker h (hlt.trans_le hm.grows.next)) hl
  · rw [hd]
    exact nofun
  · rw [he]
    exact nofun

theorem runtimeWorkAllowed_spec (h : runtimeWorkAllowed m p) :
    m.Current p ∧ runtimeCreatedPhase (m.phase p) := by
  unfold runtimeWorkAllowed at h
  rw [Bool.and_eq_true, Bool.and_eq_true] at h
  exact ⟨of_decide_eq_true h.1.1, h.1.2⟩

theorem not_creating_of_created (h : runtimeCreatedPhase (m.phase p)) :
    ¬ m.registry.Creating cfg p := by
  intro hc
  have hp : placeholderPhase (m.phase p) := hc.phase
  rw [placeholder_of_created h] at hp
  cases hp

theorem beginPreserve_section {uid : String} (hr : m.registry.Valid) :
    Section cfg m (.preserve uid identity) (beginPreserve cfg m uid identity) := by
  unfold beginPreserve
  cases he : m.lookup uid with
  | none => exact .stop
  | some p =>
    dsimp only
    split
    · rename_i hc
      rw [Bool.and_eq_true, Bool.and_eq_true] at hc
      have hcr := (runtimeWorkAllowed_spec hc.1.2).2
      exact failureWorker_section rfl (hr.keyed _ p he).1
        (.inr (.inr (not_creating_of_created hcr))) .same (.still rfl)
    · exact .stop

theorem recordedFailure_section : Sound cfg m (.recordedFailure p) (recordedFailure m p) := by
  intro _ ht
  have hlt := ht.named p rfl
  unfold recordedFailure
  split_ifs with hc
  · refine failureWorker_section rfl hlt (.inr (.inl rfl)) ?_ (.still rfl)
    rw [registry_setPhase]
    exact .fail p hc.1 hc.2
  · exact failureWorker_section rfl hlt (.inr (.inl rfl)) .same (.still rfl)

theorem startTerminal_section {uid : String} {p : Option Ref} (hr : m.registry.Valid) :
    Section cfg m (.startTerminal uid p) (goStartTerminal m uid p) := by
  cases p with
  | none =>
    unfold goStartTerminal
    cases m.lookup uid with
    | none => exact .stop
    | some p => exact .idle ⟨rfl, rfl⟩
  | some p =>
    unfold goStartTerminal startTerminalFailureCleanup
    dsimp only
    split_ifs with hn
    · obtain ⟨he, hh, -⟩ := hn
      refine failureWorker_section rfl (hr.keyed _ p he).1 (.inr (.inr ?_)) .same (.still rfl)
      intro hc
      have hp : placeholderPhase (m.phase p) := hc.phase
      rw [hh] at hp
      cases hp
    · exact .stop

theorem failureWorker_terminalRemoval : failureWorker p (terminalRemoval cfg p) := by
  unfold terminalRemoval beginRemoval
  split <;> exact rfl

theorem goTerminal_section {s : TerminalStage} (h : goTerminal cfg m p s = some out) :
    Sound cfg m (.terminal p s) out := by
  intro hr ht
  have hlt := ht.named p rfl
  cases s with
  | start =>
    cases h
    refine failureWorker_section ?_ hlt (.inr (.inl rfl)) .same (.still rfl)
    unfold beginTerminal
    split_ifs
    · exact rfl
    · exact rfl
    · exact rfl
    · exact failureWorker_terminalRemoval
  | settle =>
    cases h
    unfold settleTerminal
    split_ifs with hn
    · refine failureWorker_section rfl hlt (.inr (.inl rfl)) ?_ (.still rfl)
      rw [registry_setPhase]
      exact .failed p hn.1 hn.2
    · exact failureWorker_section rfl hlt (.inr (.inl rfl)) .same (.still rfl)
  | finish =>
    cases h
    unfold finishTerminal
    by_cases hn : m.Current p ∧ (m.phase p = .terminating ∨ m.phase p = .deleting)
    · rw [if_pos hn]
      obtain ⟨hu, hp⟩ := hn
      have hc : m.registry.Covered p := by
        refine hr.deleting p hu (show deletingPhase (m.phase p) from ?_)
        rcases hp with hp | hp <;> rw [hp] <;> rfl
      exact .step rfl .same (.of_works rfl (.inl (.inr (.inl rfl))) nofun nofun)
        (.asyncDelete_start hlt hc) (.still rfl)
    · rw [if_neg hn]
      exact .nil .same (.still rfl)
  | owned | confirm | actions | cleanup => cases h

end Deletion

end FastSandbox.Fastlet
