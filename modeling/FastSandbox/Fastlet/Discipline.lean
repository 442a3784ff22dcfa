import FastSandbox.Fastlet.DataSections

/-!
# The discipline of the Fastlet

`advance_section` collects the lemmas of the sections. From it follow the outline that every run
of the Fastlet keeps, `discipline`, and what it says of every reachable world.
-/

namespace FastSandbox.Fastlet

open DataPlane List
open Interleaving

section Advance

variable {cfg : Config} {m : Manager} {t : Task} {out : Manager × List Task}

theorem goCall_section {c : Call} (hr : m.registry.Valid) (h : goCall cfg m c = some out) :
    Section cfg m (.call c) out := by
  cases c with
  | create | actionStateChanged => cases h
  | delete => cases h; exact beginDelete_section hr
  | inspect => cases h; exact .nil .same (.inspected _ _ rfl rfl)
  | observe =>
    cases h
    refine .inert .same ?_ (.still rfl)
    unfold observeSandbox
    intro u hu
    split at hu
    · cases hu
    split_ifs at hu
    · rw [mem_singleton.mp hu]
      exact ⟨rfl, rfl⟩
    · rw [mem_singleton.mp hu]
      exact ⟨rfl, rfl⟩
    · cases hu
  | reconcileBindings req =>
    cases h
    refine .inert .same ?_ (.still rfl)
    intro u hu
    have hb : ∃ p s, u = .bindings p req s := by
      unfold beginBindings at hu
      split at hu
      · cases hu
      split at hu
      · cases hu
      split at hu
      · cases hu
      split at hu
      · exact ⟨_, _, mem_singleton.mp hu⟩
      · split at hu
        · exact ⟨_, _, mem_singleton.mp hu⟩
        · cases hu
    obtain ⟨p, s, rfl⟩ := hb
    exact ⟨rfl, rfl⟩
  | reconcileProxyRoutes | prepareInfra => cases h; exact .idle ⟨rfl, rfl⟩
  | markProxyRouteUnavailable =>
    cases h
    split_ifs <;> exact .nil .same (.still rfl)
  | setDraining =>
    cases h
    unfold setDraining
    split_ifs <;> exact .nil .same (.still rfl)
  | setResourceAdmissionState => cases h; exact .nil .same (.still rfl)
  | restartProxy => cases h; exact .nil .same (.restarted rfl rfl rfl)

theorem goPrepare_section {s : PrepareStage} (h : goPrepare cfg m s = some out) :
    Section cfg m (.prepare s) out := by
  cases s with
  | start =>
    unfold goPrepare at h
    dsimp only at h
    split at h
    · cases h
      exact .nil .same (.still rfl)
    · cases h
      exact .idle ⟨rfl, rfl⟩
  | wait => cases h
  | collect =>
    cases h
    refine .idle ?_
    unfold prepareCollect
    split <;> exact ⟨rfl, rfl⟩
  | running => cases h; exact .idle ⟨rfl, rfl⟩
  | failed | done => cases h; exact .nil .same (.still rfl)

theorem goTask_section (hr : m.registry.Valid) (ht : TaskOk cfg m.registry t)
    (h : goTask cfg m t = some out) : Section cfg m t out := by
  cases t with
  | call => exact goCall_section hr h
  | creation => exact goCreation_section h hr ht
  | boot => exact goBoot_section h hr ht
  | cleanup => exact goCleanup_section h hr ht
  | retryCleanup => cases h; exact beginRetryCleanup_section hr ht
  | continueData => cases h; exact continueData_section hr ht
  | startData => cases h; exact startData_section hr ht
  | finishCreate => cases h; exact finishCreate_section
  | delete d s =>
    cases s with
    | dispatch => cases h; exact dispatchDelete_section hr ht
    | owned | actions => cases h
  | strictDelete => exact goStrictDelete_section h hr ht
  | asyncDelete => exact goAsyncDelete_section h hr ht
  | preserve => cases h; exact beginPreserve_section hr
  | recordFailure => cases h
  | recordedFailure => cases h; exact recordedFailure_section hr ht
  | startTerminal => cases h; exact startTerminal_section hr
  | terminal => exact goTerminal_section h hr ht
  | removeRoute p k s =>
    cases s with
    | lock =>
      unfold goTask at h
      split_ifs at h
      cases h
      exact removeRoute_section m ht rfl (.inl ⟨_, rfl⟩) (.still rfl)
    | markDraining | delete => cases h
  | data => exact goData_section h
  | routes => exact goRoutes_section h
  | reconcileRoutes => exact goReconcile_section h hr ht
  | prepare => exact goPrepare_section h
  | bindings => exact goBindings_section h
  | projectActions => cases h; exact projectActions_section hr
  | recover => exact goRecover_section h hr ht
  | proxy call =>
    cases h
    obtain ⟨hl, hp⟩ := serveProxy_spec cfg m call
    exact .nil (.of_eq (serveProxy_registry cfg m call)) (.served call hl hp)

/-! ## Sections that take an answer -/

theorem delete_section {d : Deletion} {s s' : DeleteStage}
    (ht : TaskOk cfg m.registry (.delete d s)) :
    Section cfg m (.delete d s) (m, [.delete d s']) := by
  refine .one .same (.delete fun p hp hw => .inr (.inl ?_)) (.delete fun p hp => ?_) (.still rfl)
  · obtain ⟨identity, record, strictActions, wasCreating⟩ := d
    cases hw
    exact hp
  · exact ⟨ht.named p hp, ht.ends p hp, ht.bound p hp⟩

section

variable (ht : TaskOk cfg m.registry t)
include ht

theorem answerTask_section {err : Option String} (h : answerTask cfg m err t = some out)
    : Section cfg m t out := by
  unfold answerTask at h
  split at h
  · rename_i o c
    cases h
    refine cleanup_section ht fun hd => ?_
    cases err <;> cases o <;> cases hd
  · rename_i o c earlier
    cases h
    refine cleanup_section ht fun hd => ?_
    -- an earlier error is not forgotten
    cases earlier with
    | none => rfl
    | some => cases err <;> cases hd
  · split at h
    · cases h
      exact .nil .same (.deleted _ _ rfl rfl)
    · cases h
      exact delete_section ht
  · cases h
    exact delete_section ht
  · rename_i p
    cases h
    exact .works ht (.inr rfl) rfl rfl trivial nofun nofun (fun _ => rfl) nofun (.still rfl)
  · rename_i p
    cases h
    split_ifs
    · exact asyncDelete_section ht rfl rfl rfl rfl trivial rfl rfl (.still rfl)
    · obtain ⟨hl, -, hd, he, hb⟩ := asyncDeleteRemoval_spec cfg p
      exact asyncDelete_section ht rfl hl rfl rfl (hb _) hd he (.still rfl)
  · rename_i p
    cases h
    refine failureWorker_section ?_ (ht.named p rfl) (.inr (.inl rfl)) .same (.still rfl)
    split_ifs <;> exact rfl
  · rename_i p
    cases h
    exact failureWorker_section rfl (ht.named p rfl) (.inr (.inl rfl)) .same (.still rfl)
  · rename_i p
    cases h
    refine failureWorker_section ?_ (ht.named p rfl) (.inr (.inl rfl)) .same (.still rfl)
    split_ifs
    · exact rfl
    · exact failureWorker_terminalRemoval
  · rename_i p
    cases h
    exact failureWorker_section failureWorker_terminalRemoval (ht.named p rfl)
      (.inr (.inl rfl)) .same (.still rfl)
  · cases h
    exact .idle ⟨rfl, rfl⟩
  · cases h

theorem teardownTask_section {err : Option String} {present : Bool}
    (h : teardownTask cfg m err present t = some out) : Section cfg m t out := by
  unfold teardownTask at h
  split at h
  · cases h
    exact cleanupTeardown_section ht
  · cases h
    exact asyncDeleteTeardown_section ht
  · rename_i p
    cases h
    exact failureWorker_section rfl (ht.named p rfl) (.inr (.inl rfl)) teardown_move (.still rfl)
  · cases h

theorem accessTask_section {result : Except String AccessDescriptor}
    (h : accessTask cfg m result t = some out) : Section cfg m t out := by
  unfold accessTask at h
  split at h
  · cases h
    exact .idle ⟨rfl, rfl⟩
  · cases h
    exact .idle ⟨rfl, rfl⟩
  · rename_i record _ _ _
    cases h
    cases routePublication cfg record result with
    | error => exact recovery_section ht rfl rfl rfl trivial nofun (.still rfl)
    | ok => exact recovery_section ht rfl rfl rfl ht.bound (fun _ => .inl) (.still rfl)
  · cases h

theorem proxyTask_section {answered : Bool} (h : proxyTask cfg m answered t = some out)
    : Section cfg m t out := by
  unfold proxyTask at h
  split at h
  · rename_i p _ publication
    obtain ⟨he, hl, hs⟩ := callProxy_spec cfg m (.apply (routeFromPublication publication)) answered
    generalize callProxy cfg m (.apply (routeFromPublication publication)) answered = called at *
    obtain ⟨m', result, stray⟩ := called
    cases result with
    | ok | error =>
      cases h
      exact .cons_inert (.inert_one (.of_eq he) ⟨rfl, rfl⟩ (hl _ ⟨rfl, rfl⟩)) hs
  · cases h
  · rename_i p k s _
    obtain ⟨he, hl, hs⟩ := callProxy_spec cfg m (removeCall m p s) answered
    generalize callProxy cfg m (removeCall m p s) answered = called at *
    obtain ⟨m', result, stray⟩ := called
    obtain ⟨he', hq, ht'⟩ := removeAnswered_spec cfg m' p k s result
    cases h
    exact .cons_inert (removeRoute_section m' ht (he'.trans he) ht' (hl _ hq)) hs
  · rename_i f publications s
    obtain ⟨call, -, ho⟩ := Option.map_eq_some_iff.mp h
    obtain ⟨he, hl, hs⟩ := callProxy_spec cfg m call answered
    generalize callProxy cfg m call answered = called at *
    obtain ⟨m', result, stray⟩ := called
    obtain ⟨he', hq, _, hts, ht'⟩ := reconcileAnswered_spec m' f publications s result
    subst ho
    show Section cfg m _ (_, (reconcileAnswered m' f publications s result).2 ++ stray)
    rw [hts]
    exact .cons_inert (reconcileRoutes_section ht (he'.trans he) ht' (hl _ hq)) hs
  · cases h

end

/-- **Every section of the Fastlet is a move of the registry.** -/
theorem advance_section {c : Choice} (hr : m.registry.Valid) (ht : TaskOk cfg m.registry t)
    (h : advance cfg m t c = some out) : Section cfg m t out := by
  cases c with
  | go => exact goTask_section hr ht h
  | cancel =>
    have h' : cancelTask m t = some out := h
    unfold cancelTask at h'
    split at h'
    · split_ifs at h'
      cases h'
      exact bootEnds_section ht nofun .same ⟨rfl, rfl⟩
    · split_ifs at h'
      cases h'
      exact bootEnds_section ht nofun .same ⟨rfl, rfl⟩
    · split_ifs at h'
      cases h'
      exact .idle ⟨rfl, rfl⟩
    · split_ifs at h'
      cases h'
      exact .idle ⟨rfl, rfl⟩
    · cases h'
  | admission actionsReady resourceAvailable =>
    have h' : admissionTask cfg m actionsReady resourceAvailable t = some out := h
    unfold admissionTask at h'
    split at h'
    · cases h'
      exact beginCreate_section hr _ _ _
    · cases h'
  | answer => exact answerTask_section ht h
  | registration => exact registrationTask_section ht h
  | delivery => exact deliveryTask_section ht h
  | ensured => exact ensuredTask_section ht h
  | teardown => exact teardownTask_section ht h
  | infra services err =>
    have h' : infraTask m services err t = some out := h
    unfold infraTask at h'
    split at h'
    · cases h'
      exact .idle ⟨rfl, rfl⟩
    · cases h'
  | access => exact accessTask_section ht h
  | proxy => exact proxyTask_section ht h
  | statuses statuses generation err =>
    have h' : statusesTask cfg m statuses generation err t = some out := h
    unfold statusesTask at h'
    split at h'
    · cases h'
      split_ifs
      · exact .idle ⟨rfl, rfl⟩
      · exact .stop
    · cases h'
      exact .idle ⟨rfl, rfl⟩
    · cases h'
  | inventory result =>
    have h' : inventoryTask cfg m result t = some out := h
    unfold inventoryTask at h'
    split at h'
    · split at h'
      · cases h'
        exact recovery_section ht rfl rfl rfl trivial nofun (.still rfl)
      · cases h'
        exact recoverList_section ht
    · cases h'

end Advance

/-! ## The outline -/

theorem discipline (cfg : Config) : (system cfg).Outline System.anyStep (fun m => m.registry.Valid)
      (fun m t => TaskOk cfg m.registry t) Apart where
  symm := Apart.symm
  entry_holds c _ := Task.Inert.taskOk ⟨rfl, rfl⟩
  entry_compat c u := Task.Inert.apart ⟨rfl, rfl⟩ u
  local_step := by
    intro m m' t c ts hr ht _ ha
    have he := advance_section hr ht ha
    exact ⟨he.move.valid hr ht, fun t' ht' => (he.next t' ht').2, he.apart⟩
  frame_step := by
    intro m m' t u c ts hr ht hu hC _ ha
    have he := advance_section hr ht ha
    exact ⟨he.move.taskOk hr ht hu hC, fun t' ht' => (he.next t' ht').1.apart hu hC⟩

theorem valid_newSandboxManager (cfg : Config) (instances : List String) :
    (newSandboxManager cfg (if cfg.recoverOnStart then instances else [])).registry.Valid where
  keyed _ _ h := by cases h
  deleting _ h := by cases h
  covered _ h := by cases h
  recovering _ := ⟨fun _ => rfl, fun _ => rfl⟩
  held hc uid he := by
    have hr' : cfg.recoverOnStart = false := hc
    have hm' : uid ∈ (if cfg.recoverOnStart then instances else []) := he
    rw [hr'] at hm'
    cases hm'

theorem start_holds (cfg : Config) (instances : List String) :
    System.Holds (fun m => m.registry.Valid) (fun m t => TaskOk cfg m.registry t) Apart
      (start cfg instances) := by
  refine ⟨valid_newSandboxManager cfg instances, ?_, ?_⟩
  · intro t ht
    have ht' : t ∈ (if cfg.recoverOnStart then [Task.recover .start] else []) := ht
    split_ifs at ht' with hr
    · rw [mem_singleton.mp ht']
      exact .recovery rfl hr trivial
    · cases ht'
  · show List.Pairwise Apart (if cfg.recoverOnStart then [Task.recover .start] else [])
    split_ifs
    · exact pairwise_singleton _ _
    · exact .nil

theorem holds_of_reaches {cfg : Config} {instances : List String} {w : World Manager Task}
    (h : (system cfg).Reaches System.anyStep (start cfg instances) w) :
    System.Holds (fun m => m.registry.Valid) (fun m t => TaskOk cfg m.registry t) Apart w :=
  (discipline cfg).reaches (start_holds cfg instances) h

end FastSandbox.Fastlet
