import FastSandbox.Fastlet.Sections

/-!
# The sections of a creation are moves
-/

namespace FastSandbox.Fastlet

open Registry List
open FastSandbox.Fastlet.Task

/-! ## Admission and cleanup -/

section Creation

variable {cfg : Config} {m : Manager} {c : Creation} {t : Task} {present resourceAvailable : Bool}

/-- A request that passes the gate is above the tombstone. -/
theorem not_covers_of_capacityGate {input : RuntimeSandboxConfig}
    (h : capacityGate cfg m input resourceAvailable = none) :
    ¬ covers (m.tombstones input.identity.sandboxUID) input.identity := by
  rintro ⟨_, hh, hle⟩
  unfold capacityGate at h
  dsimp only at h
  rw [hh] at h
  rw [if_pos ((identityAtOrBefore_iff _ _).mpr hle)] at h
  cases h

theorem creating_install {r : Registry} {config : RuntimeSandboxConfig}
    (hf : ¬ covers (r.tombstone config.identity.sandboxUID) config.identity) :
    (r.install config .creating).Creating cfg r.next where
  current := current_install_next
  phase := by
    rw [phase_install_next]
    rfl
  covered hc := absurd (covered_install_next.mp hc) hf
  pending hc := absurd (covered_install_next.mp hc) hf

/-- The reservation installs a record that nobody else works on. -/
theorem reserve_section (req : CreateSandboxRequest) (input : RuntimeSandboxConfig)
    (hu : input.identity.sandboxUID = req.identity.sandboxUID) (stage : CreateStage)
    (ha : ∀ a, (creation a stage).pledge = none) (hr : m.registry.Valid)
    (hc : m.recovering = false) (hnew : m.lookup input.identity.sandboxUID = none)
    (hgt : capacityGate cfg m input resourceAvailable = none) : Section cfg m (.call (.create req))
      (m.install (placeholderFor req input), [.creation ⟨req, input, m.next, hu⟩ stage]) := by
  have hf := not_covers_of_capacityGate hgt
  have he := registry_install m (placeholderFor req input)
  refine .one ?_ (.of_creates rfl (.inr ⟨rfl, req, rfl⟩) fun _ h => ?_) ?_ (.still rfl)
  · rw [he]
    exact .reserve req input rfl hnew hf hc
  · rw [ha] at h
    cases h
  rw [he]
  refine .of_creates rfl (Nat.lt_succ_self _) (creating_install hf) ?_ ?_
  · exact config_install_next
  intro _ hm
  have hu : (m.registry.install input .creating).uid m.next = input.identity.sandboxUID :=
    uid_install_next
  exact hr.held hc _ (hu ▸ hm) hnew

theorem recovering_of_admissionGate {req : CreateSandboxRequest} {actionsReady : Bool}
    (h : admissionGate cfg m req actionsReady = none) : m.recovering = false := by
  cases hm : m.recovering with
  | false => rfl
  | true =>
    unfold admissionGate at h
    rw [if_pos (.inl hm)] at h
    cases h

theorem beginCreate_section (hr : m.registry.Valid) (req : CreateSandboxRequest)
    (actionsReady resourceAvailable : Bool) :
    Section cfg m (.call (.create req)) (beginCreate cfg m req actionsReady resourceAvailable) := by
  unfold beginCreate
  split
  · exact .nil .same .answerCall
  rename_i input _
  unfold reserveSandboxForCreate
  cases hgt : admissionGate cfg m req actionsReady with
  | some => exact .nil .same .answerCall
  | none =>
    cases he : m.lookup input.identity.sandboxUID with
    | none =>
      cases ha : capacityGate cfg m input resourceAvailable with
      | some failure => exact .nil .same .answerCall
      | none =>
        refine reserve_section req input _ _ (fun a => ?_) hr
          (recovering_of_admissionGate hgt) he ha
        split <;> rfl
    | some p =>
      dsimp only
      obtain ⟨hlt, hu⟩ := hr.keyed _ p he
      split_ifs with hh
      · have hh' : m.registry.phase p = .createCleanupFailed := hh
        refine .one .same (.of_works rfl (.inl (.inr (.inr ?_)))
          nofun fun _ => .inr ⟨_, rfl⟩) ?_ (.still rfl)
        · intro hc
          have hp := hc.phase
          rw [hh'] at hp
          cases hp
        · refine .of_works rfl hlt hu nofun ?_ nofun
            nofun
          intro _ _
          rw [hh']
          rfl
      · cases createExisting cfg m p input with
        | error response => exact .nil .same .answerCall
        | ok success => exact .idle ⟨rfl, rfl⟩

theorem afterRegister_pledge : (afterRegister cfg c).pledge = none := by
  unfold afterRegister
  split <;> rfl

theorem registerDesiredActions_section :
    Sound cfg m (.creation c .registerActions) (m, [registerDesiredActions cfg m c]) := by
  intro _ ht
  unfold registerDesiredActions
  have hg : ∀ s : CreateStage, (creation c s).pledge = none →
      Section cfg m (.creation c .registerActions) (m, [.creation c s]) := fun s hs =>
    .creates ht rfl rfl rfl ht.bound (fun _ => rfl) (fun _ h => nomatch hs.symm.trans h)
      (.still rfl)
  split
  · exact hg _ rfl
  cases cfg.actionManager with
  | none =>
    dsimp only
    split
    · exact hg _ rfl
    · exact hg _ afterRegister_pledge
  | some => exact hg _ rfl

variable {uid uid' : String}

theorem absent_drop (ha : uid ∉ m.instances) (hl : uid ∉ m.unlisted) : Absent (m.drop uid) uid := by
  refine ⟨?_, ha, hl⟩
  show (m.sandboxes.erase uid).lookup uid = none
  rw [AList.lookup_erase]

theorem managed_iff_current (h : m.registry.uid c.placeholder = c.uid) :
    c.Managed m ↔ m.registry.Current c.placeholder := by
  unfold Creation.Managed Registry.Current
  rw [h]
  rfl

theorem uid_of_bound (h : m.registry.config c.placeholder = c.input) :
    m.registry.uid c.placeholder = c.uid := by
  unfold uid Creation.uid
  rw [h]

/-- What is discarded has no instance left. -/
theorem absent_of_discards (hc : m.registry.Current c.placeholder)
    (hb : m.registry.config c.placeholder = c.input)
    (ha : m.registry.Current c.placeholder → m.registry.uid c.placeholder ∉ m.instances)
    (hl : c.req.identity.sandboxUID ∉ m.unlisted) :
    Absent (m.drop c.uid) c.req.identity.sandboxUID := by
  have hn := ha hc
  rw [uid_of_bound hb] at hn
  rw [← c.uid_eq] at hl ⊢
  exact absent_drop hn hl

theorem registerFailed_section {err : String} {retired : Bool} :
    Sound cfg m (.creation c (.registerFailed err retired))
      (registerFailed cfg m c err retired) := by
  intro _ ht
  have hc : m.Current c.placeholder := (ht.creates _ rfl).current
  unfold registerFailed
  rw [if_pos hc]
  refine .nil ?_ (.created _ _ rfl rfl rfl fun _ => .inr ?_)
  · show Move cfg _ m.registry (m.drop (m.uid c.placeholder)).registry
    rw [registry_drop]
    exact .discard c.placeholder rfl hc
  · have hu : m.uid c.placeholder = c.uid := uid_of_bound ht.bound
    rw [hu]
    exact absent_of_discards hc ht.bound (ht.discards _ rfl)

theorem beginCleanup_eq (cfg : Config) (c : Creation) (o : CleanupOwner) :
    ∃ s, beginCleanup cfg o c = .cleanup o c s ∧ s ≠ .actions none ∧ s ≠ .settle none := by
  unfold beginCleanup
  split
  · cases cfg.actionManager with
    | none | some => exact ⟨_, rfl, by simp, by simp⟩
  · exact ⟨_, rfl, by simp, by simp⟩

variable {o : CleanupOwner}

theorem discards_cleanup_eq_none {s : CleanupStage} (ha : s ≠ .actions none)
    (hs : s ≠ .settle none) : (cleanup o c s).discards = none := by
  cases s with
  | owned | teardown => rfl
  | actions err =>
    cases err with
    | none => exact absurd rfl ha
    | some text => rfl
  | settle err =>
    cases err with
    | none => exact absurd rfl hs
    | some text => rfl

theorem cleanup_section {s s' : CleanupStage} (ht : TaskOk cfg m.registry (.cleanup o c s))
    (hd : (cleanup o c s').discards = some c.placeholder →
      (cleanup o c s).discards = some c.placeholder) :
    Section cfg m (.cleanup o c s) (m, [.cleanup o c s']) := by
  cases o with
  | create => exact .creates ht rfl rfl rfl ht.bound hd nofun (.still rfl)
  | retry => exact .works ht (.inr rfl) rfl rfl ht.bound hd (fun _ => rfl) nofun nofun (.still rfl)

variable {err cleanupErr : Option String}

theorem settleCreateFailure_section {err : RuntimeError} :
    Sound cfg m (.cleanup (.create err) c (.settle cleanupErr))
      (settleCreateFailure cfg m c err cleanupErr) := by
  intro _ ht
  have hu := uid_of_bound ht.bound
  have hc := (ht.creates _ rfl).current
  have hm := (managed_iff_current hu).mpr hc
  unfold settleCreateFailure
  rw [if_pos hm]
  cases cleanupErr with
  | none =>
    refine .nil ?_ (.created _ _ rfl rfl rfl fun _ => .inr ?_)
    · show Move cfg _ m.registry (m.drop c.uid).registry
      rw [registry_drop, ← hu]
      exact .discard c.placeholder rfl hc
    · exact absent_of_discards hc ht.bound (ht.discards _ rfl)
  | some =>
    refine .nil ?_ (.answer rfl ⟨rfl, rfl⟩ nofun)
    show Move cfg _ m.registry (m.setPhase c.placeholder .createCleanupFailed).registry
    rw [registry_setPhase]
    exact .giveUp c.placeholder rfl

theorem fence_disposition {pod : String} {existing requested : SandboxIdentity}
    {failure : FastletError} (h : validateIdentityFence pod existing requested = some failure) :
    defaultCreateDisposition failure.code ≠ .rejectedBeforeSideEffects := by
  unfold validateIdentityFence at h
  dsimp only at h
  split_ifs at h
  all_goals cases h
  all_goals exact nofun

theorem beginRetryCleanup_section : Sound cfg m (.retryCleanup c) (beginRetryCleanup cfg m c) := by
  intro _ ht
  have hu : m.registry.uid c.placeholder = c.uid := ht.bound
  unfold beginRetryCleanup
  by_cases hm : c.Managed m
  · rw [if_neg (not_not.mpr hm)]
    have hc := (managed_iff_current hu).mp hm
    split
    · rename_i hf
      exact .nil .same (.answer rfl ⟨rfl, rfl⟩ (fence_disposition hf))
    split
    · exact .nil .same (.answer rfl ⟨rfl, rfl⟩ nofun)
    obtain ⟨s, hs, ha, hn⟩ := beginCleanup_eq cfg c .retry
    rw [hs]
    have hlt := ht.named c.placeholder rfl
    refine .one ?_ (.of_works rfl (.inl (.inr (.inl rfl)))
      nofun fun _ => .inl rfl) ?_ (.still rfl)
    · rw [registry_setPhase]
      exact .retry c.placeholder .createCleanup rfl hc (.inl rfl)
    rw [registry_setPhase]
    refine .of_works rfl hlt hu ?_ ?_ nofun
      nofun
    · intro h
      rw [discards_cleanup_eq_none ha hn] at h
      cases h
    · intro _ _
      rw [phase_setPhase_self]
      rfl
  · rw [if_pos hm]
    exact .nil .same (.answer rfl ⟨rfl, rfl⟩ nofun)

theorem settleRetryCleanup_section : Sound cfg m (.cleanup .retry c (.settle cleanupErr))
      (settleRetryCleanup cfg m c cleanupErr) := by
  intro _ ht
  have hu : m.registry.uid c.placeholder = c.uid := ht.bound
  unfold settleRetryCleanup
  by_cases hm : c.Managed m
  · rw [if_neg (not_not.mpr hm)]
    have hc := (managed_iff_current hu).mp hm
    cases cleanupErr with
    | none =>
      refine .inert_one ?_ ⟨rfl, rfl⟩ (.still rfl)
      rw [registry_drop, ← hu]
      exact .discard c.placeholder rfl hc
    | some =>
      refine .nil ?_ (.answer rfl ⟨rfl, rfl⟩ nofun)
      show Move cfg _ m.registry (m.setPhase c.placeholder .createCleanupFailed).registry
      rw [registry_setPhase]
      exact .retry c.placeholder .createCleanupFailed rfl hc (.inr rfl)
  · rw [if_pos hm]
    exact .nil .same (.answer rfl ⟨rfl, rfl⟩ nofun)

/-! ## Commit -/

theorem committedRecord_phase (services : List ServiceEndpoint) :
    runtimeCreatedPhase (committedRecord cfg c services).phase := by
  unfold committedRecord
  split_ifs <;> rfl

/-- The worker started for a record that was deleted before its commit. -/
def deletedTask (cfg : Config) (c : Creation) (p : Ref) : Task :=
  if c.strict cfg then beginStrictDelete cfg p else .asyncDelete p .start

theorem deletedTask_spec (cfg : Config) (c : Creation) (p : Ref) :
    (deletedTask cfg c p).works = some p ∧ (deletedTask cfg c p).deletes = none ∧
      (deletedTask cfg c p).discards = none ∧ (deletedTask cfg c p).retries = none ∧
      ∀ r, (deletedTask cfg c p).Bound cfg r := by
  unfold deletedTask
  split <;> exact ⟨rfl, rfl, rfl, rfl, fun _ => trivial⟩

/-- A commit that finds its record deleted hands it to the delete worker. -/
theorem commitDeleted_section (services : List ServiceEndpoint) (hr : m.registry.Valid)
    (ht : TaskOk cfg m.registry t) (hp : t.creates = some c.placeholder)
    (hbd : m.registry.config c.placeholder = c.input) (htr : m.phase c.placeholder = .terminating) :
    Section cfg m t ((commitDeleted cfg m c services).1, [(commitDeleted cfg m c services).2]) := by
  have hc := ht.creates _ hp
  have hu := uid_of_bound hbd
  have ho := hr.deleting _ hc.current (show deletingPhase (m.phase c.placeholder) by
    rw [htr]
    rfl)
  have he : (commitDeleted cfg m c services).1.registry =
      (m.registry.install (m.registry.config c.placeholder) .terminating).clear
        (m.registry.uid c.placeholder) := by
    rw [hu, hbd]
    exact congrArg (clear · c.uid)
      (registry_install m { committedRecord cfg c services with phase := .terminating })
  have hs : (commitDeleted cfg m c services).2 = deletedTask cfg c m.next := rfl
  obtain ⟨hw, hd, hi, hre, hb⟩ := deletedTask_spec cfg c m.next
  rw [hs]
  refine .one ?_ (.of_works hw (.inr rfl) (fun h => ?_) fun h => ?_) ?_ (.still rfl)
  · rw [he]
    exact .commitDeleted _ hp htr
  · rw [hd] at h
    cases h
  · rw [hre] at h
    cases h
  refine .of_works hw ?_ (hb _) ?_ ?_ ?_ ?_
  · exact Nat.lt_succ_self _
  · rw [hi]
    exact nofun
  · rw [hre]
    exact nofun
  · intro _
    rw [he]
    have hf : (m.registry.install (m.registry.config c.placeholder) .terminating).Covered m.next ↔
        m.registry.Covered c.placeholder := covered_install_next
    exact hf.mpr ho
  · rw [hd]
    exact nofun

variable {services : List ServiceEndpoint}

theorem commit_move (hp : t.creates = some c.placeholder)
    (hb : m.registry.config c.placeholder = c.input) (hne : m.phase c.placeholder ≠ .terminating) :
    Move cfg t m.registry (m.install (committedRecord cfg c services)).registry := by
  have he := registry_install m (committedRecord cfg c services)
  have hc : (committedRecord cfg c services).config = m.registry.config c.placeholder := hb.symm
  rw [he, hc]
  exact .commit _ _ hp hne (committedRecord_phase services)

theorem commitCreate_section :
    Sound cfg m (.creation c (.commit services)) (commitCreate cfg m c services) := by
  intro hr ht
  unfold commitCreate
  split_ifs with htr
  · obtain ⟨hm, ha, hn, -⟩ := commitDeleted_section services hr ht rfl ht.bound htr
    exact ⟨hm, ha, hn, .answer rfl ⟨rfl, rfl⟩ nofun⟩
  · exact .inert_one (commit_move rfl ht.bound htr) ⟨rfl, rfl⟩ (.still rfl)

variable {failures : ℕ}

theorem commitBoot_section :
    Sound cfg m (.boot c failures (.commit services)) (commitBoot cfg m c services) := by
  intro hr ht
  have hlt := ht.named c.placeholder rfl
  have hb : m.registry.config c.placeholder = c.input := ht.bound
  unfold commitBoot
  split_ifs with htr
  · obtain ⟨hm, -, hn, hl⟩ := commitDeleted_section services hr ht rfl hb htr
    obtain ⟨hw, hd, -⟩ := deletedTask_spec cfg c m.next
    refine ⟨hm, pairwise_pair.mpr ?_, ?_, hl⟩
    · exact .of_works hw rfl hd
    intro u hu
    rcases mem_cons.mp hu with rfl | hu
    · exact hn _ mem_cons_self
    obtain rfl := mem_singleton.mp hu
    refine ⟨.of_works rfl (.inl (.inl rfl)) nofun nofun, ?_⟩
    exact .of_works rfl (hlt.trans_le hm.grows.next)
      ((hm.grows.config _ hlt).trans hb) nofun nofun nofun nofun
  · have hm : Move cfg (.boot c failures (.commit services)) m.registry
        (m.install (committedRecord cfg c services)).registry := commit_move rfl hb htr
    refine .one hm (.of_works rfl (.inl (.inl rfl)) nofun nofun) ?_ (.still rfl)
    exact .of_works rfl (hlt.trans_le hm.grows.next)
      ((hm.grows.config _ hlt).trans hb) nofun nofun nofun nofun

/-! ## Image delivery -/

theorem parkForImageDelivery_section :
    Sound cfg m (.creation c .park) (parkForImageDelivery cfg m c) := by
  intro hr ht
  have hlt := ht.named c.placeholder rfl
  have hc := ht.creates c.placeholder rfl
  have hu := uid_of_bound ht.bound
  unfold parkForImageDelivery
  rw [if_neg (not_not.mpr ((managed_iff_current hu).mpr hc.current))]
  split_ifs with htr
  · have ho := hr.deleting _ hc.current (show deletingPhase (m.phase c.placeholder) by
      rw [htr]
      rfl)
    have hm : Move cfg (.creation c .park) m.registry (m.registry.clear c.uid) := by
      rw [← hu]
      exact .cleared (.inl rfl) hc.current ho
    refine .one hm (.of_works rfl (.inl (.inl rfl)) nofun nofun) ?_ (.answer rfl ⟨rfl, rfl⟩ nofun)
    exact .asyncDelete_start hlt ho
  · have hm : Move cfg (.creation c .park) m.registry
        (m.setPhase c.placeholder .imagePending).registry := by
      rw [registry_setPhase]
      exact .build c.placeholder _ rfl htr (.inl rfl)
    refine .one hm (.of_creates rfl (.inl rfl) nofun) ?_ (.still rfl)
    rw [registry_setPhase]
    exact .of_creates rfl hlt (hc.build htr rfl) ht.bound nofun

theorem startImageBootWorker_section {admission : AdmissionStatus} :
    Sound cfg m (.creation c (.startBoot admission)) (startImageBootWorker m c admission) := by
  intro _ ht
  unfold startImageBootWorker
  split_ifs
  · exact .nil .same (.answer rfl ⟨rfl, rfl⟩ nofun)
  · exact .creates ht rfl rfl rfl ht.bound nofun nofun (.answer rfl ⟨rfl, rfl⟩ nofun)

theorem bootEnds_section {failures' : ℕ} {s : BootStage} {m' : Manager}
    (ht : TaskOk cfg m.registry (.boot c failures s)) (hs : s ≠ .exit)
    (hm : Move cfg (.boot c failures s) m.registry m'.registry) (hq : Quiet m m') :
    Section cfg m (.boot c failures s) (m', [.boot c failures' .exit]) := by
  have hlt := ht.named c.placeholder rfl
  have hc : (boot c failures s).creates = some c.placeholder := by
    cases s with
    | exit => exact absurd rfl hs
    | _ => rfl
  refine .one hm (.of_works rfl (.inl (.inl hc)) nofun nofun) ?_ (.quiet hq)
  exact .of_works rfl (hlt.trans_le hm.grows.next)
    ((hm.grows.config _ hlt).trans ht.bound) nofun nofun nofun nofun

theorem bootPoll_section : Sound cfg m (.boot c failures .poll) (m, [bootPoll m c failures]) := by
  intro _ ht
  unfold bootPoll
  split_ifs
  · exact .creates ht rfl rfl rfl ht.bound nofun nofun (.still rfl)
  · exact bootEnds_section ht (by simp) .same ⟨rfl, rfl⟩

theorem bootDelivery_section (result : Except RuntimeError Bool)
    (ht : TaskOk cfg m.registry (.boot c failures .deliver)) :
    Section cfg m (.boot c failures .deliver) (m, [bootDelivery c failures result]) := by
  unfold bootDelivery
  split
  · split_ifs <;> exact .creates ht rfl rfl rfl ht.bound nofun nofun (.still rfl)
  · exact .creates ht rfl rfl rfl ht.bound nofun nofun (.still rfl)
  · exact .creates ht rfl rfl rfl ht.bound nofun nofun (.still rfl)

theorem bootClaim_section :
    Sound cfg m (.boot c failures (.claim services)) (bootClaim m c services) := by
  intro _ ht
  have hlt := ht.named c.placeholder rfl
  have hc := ht.creates c.placeholder rfl
  unfold bootClaim
  split_ifs with hn
  · have hp : m.registry.phase c.placeholder = .imagePending := hn.2
    have hne : m.registry.phase c.placeholder ≠ .terminating := by
      rw [hp]
      exact nofun
    have hm : Move cfg (.boot c failures (.claim services)) m.registry
        (m.setPhase c.placeholder .creating).registry := by
      rw [registry_setPhase]
      exact .build c.placeholder _ rfl hne (.inr (.inl rfl))
    refine .one hm (.of_creates rfl (.inl rfl) fun _ h => h) ?_ (.still rfl)
    rw [registry_setPhase]
    exact .of_creates rfl hlt (hc.build hne rfl) ht.bound nofun
  · exact bootEnds_section ht (by simp) .same ⟨rfl, rfl⟩

theorem markCreateFailed_section : Sound cfg m (.boot c failures .markFailed)
      (markCreateFailed m c, [.boot c failures .exit]) := by
  intro _ ht
  have hm := (managed_iff_current (uid_of_bound ht.bound)).mpr (ht.creates _ rfl).current
  unfold markCreateFailed
  split_ifs with hp
  · exact bootEnds_section ht (by simp) .same ⟨rfl, rfl⟩
  · refine bootEnds_section ht (by simp) ?_ ⟨rfl, rfl⟩
    rw [registry_setPhase]
    exact .build c.placeholder _ rfl (fun h => hp (.inl h)) (.inr (.inr rfl))

/-- Where the boot worker ends, its creation is over. -/
theorem bootExit_section : Sound cfg m (.boot c failures .exit) (bootExit m c) := by
  intro hr ht
  have hlt := ht.named c.placeholder rfl
  have hi := uid_of_bound ht.bound
  unfold bootExit
  -- leaving the workers' map is not seen in the registry
  obtain ⟨m1, hm1, he, hs, hq⟩ : ∃ m1 : Manager, m1 =
      (if m.imageBootWorkers c.uid = some c.placeholder then
        { m with imageBootWorkers := Function.update m.imageBootWorkers c.uid none }
      else m) ∧ m1.registry = m.registry ∧ (c.Managed m1 ↔ c.Managed m) ∧ Quiet m m1 := by
    refine ⟨_, rfl, ?_⟩
    split_ifs <;> exact ⟨rfl, Iff.rfl, rfl, rfl⟩
  rw [← hm1]
  dsimp only
  split_ifs with hn
  · have hu := (managed_iff_current hi).mp (hs.mp hn.1)
    have hp : m.registry.phase c.placeholder = .terminating := by
      rw [← he]
      exact hn.2
    have hc := hr.deleting _ hu (by rw [hp]; rfl)
    have hv : Move cfg (.boot c failures .exit) m.registry (m.registry.clear c.uid) := by
      rw [← hi]
      exact .cleared (.inr (.inl rfl)) hu hc
    have he' : ({ m1 with
        createDeletePending := Function.update m1.createDeletePending c.uid false } :
        Manager).registry = m.registry.clear c.uid := congrArg (clear · c.uid) he
    refine .one (he' ▸ hv)
      (.of_works rfl (.inl (.inr (.inl rfl))) nofun nofun)
      ?_ (.quiet ⟨hq.log, hq.proxy⟩)
    rw [he']
    exact .asyncDelete_start hlt hc
  · exact .nil (.of_eq he) (.quiet hq)

/-! ## The runtime -/

theorem mem_setInstance (h : uid' ∈ (m.setInstance uid present).instances) :
    uid' = uid ∨ uid' ∈ m.instances := by
  unfold Manager.setInstance at h
  split_ifs at h
  · rcases mem_cons.mp h with h | h
    · exact .inl h
    · exact .inr (mem_filter.mp h).1
  · exact .inr (mem_filter.mp h).1

theorem mem_teardown (h : uid' ∈ (m.teardown uid err present).instances) : uid' ∈ m.instances := by
  unfold Manager.teardown at h
  dsimp only at h
  split_ifs at h
  · exact h
  · exact (mem_filter.mp h).1

theorem not_mem_teardown (m : Manager) (uid : String) (present : Bool) :
    uid ∉ (m.teardown uid none present).instances := by
  intro h
  have hf : uid ∈ m.instances.filter (· ≠ uid) := h
  exact absurd rfl (of_decide_eq_true (mem_filter.mp hf).2)

theorem ensured_move (hp : t.creates = some c.placeholder)
    (hb : m.registry.config c.placeholder = c.input) :
    Move cfg t m.registry (m.setInstance c.uid present).registry := by
  refine .ensured c.placeholder hp _ fun uid he => ?_
  rw [uid_of_bound hb]
  exact mem_setInstance he

theorem teardown_move : Move cfg t m.registry (m.teardown uid err present).registry :=
  .teardown _ fun _ => mem_teardown

theorem ensured_section {t' : Task} (ht : TaskOk cfg m.registry t)
    (hp : t.creates = some c.placeholder) (hbd : m.registry.config c.placeholder = c.input)
    (hp' : t'.creates = some c.placeholder)
    (hb : t'.Bound cfg (m.setInstance c.uid present).registry) (hd : t'.discards = none)
    (hpd : ∀ q, t'.pledge = some q → t.pledging = some q) :
    Section cfg m t (m.setInstance c.uid present, [t']) := by
  refine .one (ensured_move hp hbd) (.of_creates hp' (.inl hp) hpd) ?_ (.still rfl)
  refine .of_creates hp' (ht.named c.placeholder (names_of_creates hp)) ?_ hb ?_
  · exact (ht.creates _ hp).of_eq rfl rfl rfl id rfl
  · rw [hd]
    exact nofun

variable {out : Manager × List Task}

section

variable (ht : TaskOk cfg m.registry t)
include ht

theorem ensuredTask_section {result : Except RuntimeError (List ServiceEndpoint)}
    (h : ensuredTask cfg m result present t = some out) : Section cfg m t out := by
  unfold ensuredTask at h
  split at h
  · rename_i c
    have hb : m.registry.config c.placeholder = c.input := ht.bound
    split at h
    · rename_i err
      cases h
      obtain ⟨s, hs, ha, hn⟩ := beginCleanup_eq cfg c (.create err)
      rw [hs]
      exact ensured_section ht rfl hb rfl hb (discards_cleanup_eq_none ha hn) nofun
    · cases h
      exact ensured_section ht rfl hb rfl hb rfl fun _ h => h
  · rename_i c _
    have hb : m.registry.config c.placeholder = c.input := ht.bound
    split at h
    · cases h
      split_ifs <;> exact ensured_section ht rfl hb rfl hb rfl nofun
    · cases h
      exact ensured_section ht rfl hb rfl hb rfl nofun
  · cases h

theorem deliveryTask_section {result : Except RuntimeError Bool}
    (h : deliveryTask cfg m result t = some out) : Section cfg m t out := by
  unfold deliveryTask at h
  split at h
  · rename_i c
    split at h
    · rename_i err
      cases h
      obtain ⟨s, hs, ha, hn⟩ := beginCleanup_eq cfg c (.create err)
      rw [hs]
      refine .creates ht rfl rfl rfl ht.bound (fun h => ?_) nofun (.still rfl)
      rw [discards_cleanup_eq_none ha hn] at h
      cases h
    · cases h
      split_ifs <;> exact .creates ht rfl rfl rfl ht.bound nofun nofun (.still rfl)
  · cases h
    exact bootDelivery_section result ht
  · cases h

theorem registrationTask_section {err : Option (String × Bool)}
    (h : registrationTask cfg m err t = some out) : Section cfg m t out := by
  unfold registrationTask at h
  split at h
  · split at h
    · cases h
      exact .creates ht rfl rfl rfl ht.bound (fun _ => rfl) nofun (.still rfl)
    · cases h
      exact .creates ht rfl rfl rfl ht.bound (fun _ => rfl) nofun (.still rfl)
  · split at h
    · cases h
      exact .creates ht rfl rfl rfl ht.bound (fun _ => rfl) nofun (.still rfl)
    · cases h
      exact .creates ht rfl rfl rfl ht.bound (fun _ => rfl) (fun _ h =>
        nomatch afterRegister_pledge.symm.trans h) (.still rfl)
  · cases h

end

/-- Only a teardown that succeeds lets the cleanup discard the record. -/
theorem cleanupTeardown_section (ht : TaskOk cfg m.registry (.cleanup o c .teardown)) :
    Section cfg m (.cleanup o c .teardown)
      (m.teardown c.uid err present, [afterTeardown cfg o c err]) := by
  have hlt := ht.named c.placeholder rfl
  have hu : m.registry.uid c.placeholder = c.uid := by
    cases o with
    | create => exact uid_of_bound ht.bound
    | retry => exact ht.bound
  -- wherever the cleanup goes, it may drop the record only if the teardown succeeded
  have hg : ∀ s, (∀ p, (cleanup o c s).discards = some p → err = none) →
      Section cfg m (.cleanup o c .teardown) (m.teardown c.uid err present, [.cleanup o c s]) := by
    intro s hs
    have ha : (cleanup o c s).discards = some c.placeholder →
        (m.teardown c.uid err present).registry.uid c.placeholder ∉
          (m.teardown c.uid err present).registry.instances := by
      intro h
      have hn := hs _ h
      subst hn
      show m.registry.uid c.placeholder ∉ _
      rw [hu]
      exact not_mem_teardown m c.uid present
    cases o with
    | create =>
      refine .one teardown_move (.of_creates rfl (.inl rfl) nofun) ?_ (.still rfl)
      refine .of_creates rfl hlt ?_ ht.bound ha
      exact (ht.creates _ rfl).of_eq rfl rfl rfl id rfl
    | retry =>
      refine .one teardown_move (.of_works rfl (.inl (.inr (.inl rfl))) nofun
        fun _ => .inl rfl) ?_ (.still rfl)
      exact .of_works rfl hlt ht.bound (fun h _ => ha h) (fun _ => ht.retries _ rfl) nofun nofun
  unfold afterTeardown
  split
  · refine hg _ fun p hp => ?_
    cases err with
    | none => rfl
    | some => cases hp
  · refine hg _ fun p hp => ?_
    cases err with
    | none => rfl
    | some => cases hp

theorem goCreation_section {s : CreateStage} (h : goCreation cfg m c s = some out) :
    Sound cfg m (.creation c s) out := by
  cases s with
  | registerActions => cases h; exact registerDesiredActions_section
  | registerFailed => cases h; exact registerFailed_section
  | park => cases h; exact parkForImageDelivery_section
  | startBoot => cases h; exact startImageBootWorker_section
  | commit => cases h; exact commitCreate_section
  | checkOwner | registerWait | deliver | ensure => cases h

theorem goBoot_section {s : BootStage} (h : goBoot cfg m c failures s = some out) :
    Sound cfg m (.boot c failures s) out := by
  cases s with
  | poll => cases h; exact bootPoll_section
  | sleep => cases h; exact fun _ ht => .creates ht rfl rfl rfl ht.bound nofun nofun (.still rfl)
  | claim => cases h; exact bootClaim_section
  | commit => cases h; exact commitBoot_section
  | markFailed => cases h; exact markCreateFailed_section
  | exit => cases h; exact bootExit_section
  | deliver | ensure => cases h

theorem goCleanup_section {s : CleanupStage} (h : goCleanup cfg m o c s = some out) :
    Sound cfg m (.cleanup o c s) out := by
  cases s with
  | settle =>
    cases o with
    | create runtimeErr => cases h; exact settleCreateFailure_section
    | retry => cases h; exact settleRetryCleanup_section
  | owned | teardown | actions => cases h

end Creation

end FastSandbox.Fastlet
