import FastSandbox.Fastlet.Capacity

/-!
# Teardowns and newer records

`runtime.DeleteSandbox` names a UID only. A delete worker and the cleanup of a failed creation run
it for a record that is managed, and nobody else takes that record away meanwhile. The retried
cleanup looks at the record's phase in one section and claims it in the next, so it keeps to this
only if no deletion and no other retry came in between.
-/

namespace FastSandbox.Fastlet

open List Option Registry
open FastSandbox.Fastlet.Task
open Interleaving

/-- The record whose retried cleanup is running. -/
def Task.retrying : Task → Option Ref
  | .cleanup .retry c _ => some c.placeholder
  | _ => none

/-- The record a delete worker is about to tear down. -/
def Task.removing : Task → Option Ref
  | .asyncDelete p .confirm | .asyncDelete p .teardown | .removeRoute p .asyncDelete _ => some p
  | _ => none

/-- The call of `runtime.DeleteSandbox` a task stands at: the UID it names and the record it is
made for. -/
def Task.tearsDown (m : Manager) : Task → Option (String × Ref)
  | .asyncDelete p .teardown => some (m.uid p, p)
  | .cleanup _ c .teardown => some (c.uid, c.placeholder)
  | _ => none

/-- A retried cleanup finds the record it was made for. -/
def RetryAccepted (cfg : Config) (m : Manager) (c : Creation) : Prop :=
  c.Managed m ∧ validateIdentityFence cfg.fastletPodUID (m.config c.placeholder).identity
    c.input.identity = none ∧ sameSandboxClaim (m.config c.placeholder) c.input

/-- A retried cleanup claims a record that is still waiting for one and was not deleted, and no
Delete is accepted while it runs. -/
def cleanupUndisturbed (cfg : Config) (m : Manager) (t : Task) (_ : Choice) : Prop :=
  match t with
  | .retryCleanup c => RetryAccepted cfg m c →
      m.phase c.placeholder = .createCleanupFailed ∧ ¬ m.registry.Covered c.placeholder
  | .call (.delete i) =>
    ∀ p ∈ m.lookup i.sandboxUID, m.phase p = .createCleanup → ¬ DeleteAccepted cfg m i p
  | _ => True

/-- What a worker that is about to tear a record down may rely on. -/
structure HoldsRecord (r : Registry) (t : Task) : Prop where
  retrying : ∀ p, t.retrying = some p → r.Current p ∧ r.phase p = .createCleanup ∧ ¬ r.Covered p
  removing : ∀ p, t.removing = some p → r.Current p

def OneRetry (t u : Task) : Prop := ∀ p, t.retrying = some p → u.retrying ≠ some p

section

variable {t : Task} {p : Ref}

theorem Task.retries_of_retrying (h : t.retrying = some p) : t.retries = some p := by
  unfold retrying at h
  split at h <;> first | exact h | cases h

theorem Task.deletes_of_removing (h : t.removing = some p) : t.deletes = some p := by
  unfold removing at h
  split at h <;> first | exact h | cases h

theorem Task.ends_of_removing (h : t.removing = some p) : t.ends = some p := by
  unfold removing at h
  split at h <;> first | exact h | cases h

theorem Task.discards_cases (h : t.discards = some p) :
    t.creates = some p ∨ t.retrying = some p ∨ (t.deletes = some p ∧ t.ends = some p) := by
  unfold discards at h
  split at h
  all_goals first | exact .inl h | exact .inr (.inr ⟨h, h⟩) | cases h
  all_goals (rename_i o c; cases o; exacts [.inl rfl, .inr (.inl rfl)])

end

/-! ## Moves of other tasks -/

section

variable {cfg : Config} {t u : Task} {r r' : Registry} {p : Ref}

section

variable (h : Move cfg t r r') (hr : r.Valid) (ht : TaskOk cfg r t) (hcur : r.Current p)
include h hr ht hcur

theorem Move.current_kept (hcr : t.creates ≠ some p) (hd : t.discards ≠ some p) : r'.Current p := by
  have hlt := hr.lt hcur
  have hn : ∀ config phase, r.uid p ≠ config.identity.sandboxUID →
      (r.install config phase).Current p :=
    fun config phase hne => (current_install_of_ne hlt.ne).mpr ⟨hne, hcur⟩
  -- the record a creation commits is another one
  have ho : ∀ q, t.creates = some q → r.uid p ≠ (r.config q).identity.sandboxUID := by
    intro q hq hu
    rw [hcur.eq (ht.creates q hq).current hu] at hcr
    exact hcr hq
  cases h with
  | same | work | build | giveUp | retry | delete | deleteCleared | accept | acceptAbsent | fail
  | failed | claim | release | ensured | teardown | inventory => exact hcur
  | reserve req config _ hnew =>
    refine hn _ _ fun hu => ?_
    have hc' : r.entry (r.uid p) = some p := hcur
    rw [hu, hnew] at hc'
    cases hc'
  | commit q phase hq => exact hn _ _ (ho q hq)
  | commitDeleted q hq => exact hn _ .terminating (ho q hq)
  | discard q hq hqc =>
    refine (current_drop_iff _).mpr ⟨fun hu => ?_, hcur⟩
    rw [hcur.eq hqc hu] at hd
    exact hd hq
  | adopt he =>
    have hno := hr.not_recovering hcur
    rw [ht.recovers he] at hno
    cases hno

theorem Move.cleanup_kept (hh : r.phase p = .createCleanup) (ho : ¬ r.Covered p)
    (hcs : t.creates ≠ some p) (hrt : t.retries = some p → r' = r)
    (ha : ∀ i, t = .call (.delete i) → i.sandboxUID = r.uid p → r'.phase p = r.phase p)
    (hc' : r'.Current p) : r'.phase p = .createCleanup ∧ ¬ r'.Covered p := by
  have hlt := hr.lt hcur
  have he : ∀ q phase, q ≠ p → (r.setPhase q phase).phase p = .createCleanup := by
    intro q phase hne
    rw [phase_setPhase_of_ne hne.symm]
    exact hh
  have hn : ∀ config phase, (r.install config phase).phase p = .createCleanup ∧
      ¬ (r.install config phase).Covered p := by
    intro config phase
    rw [phase_install_of_ne hlt.ne, covered_install_of_ne hlt.ne]
    exact ⟨hh, ho⟩
  cases h with
  | same | claim | release | ensured | teardown | inventory | discard => exact ⟨hh, ho⟩
  | work phase hw =>
    refine ⟨?_, ho⟩
    rcases hw p with heq | ⟨-, hcr, -⟩
    · exact heq.trans hh
    · rw [hh] at hcr
      cases hcr
  | reserve | commit => exact hn _ _
  | commitDeleted => exact hn _ .terminating
  | build q phase hq | giveUp q hq => exact ⟨he q _ fun heq => hcs (heq ▸ hq), ho⟩
  | retry q phase hq =>
    by_cases hp : q = p
    · subst hp
      rw [hrt hq]
      exact ⟨hh, ho⟩
    · exact ⟨he q _ hp, ho⟩
  | delete q phase _ _ hv => exact ⟨he q _ fun heq => ho (heq ▸ hv), ho⟩
  | deleteCleared q phase _ _ hv =>
    have hp : q ≠ p := fun heq => ho (heq ▸ hv)
    exact ⟨he q phase hp, ho⟩
  | accept q i hi hd hrn hqc =>
    by_cases hp : q = p
    · subst hp
      have htr : (r.accept (r.strict cfg q) q i).phase q = .terminating :=
        Function.update_self _ _ _
      have hs := ha i hi hd
      rw [htr, hh] at hs
      cases hs
    · have hu' : r.uid p ≠ i.sandboxUID := fun heq => hp (hqc.eq hcur (hd ▸ heq.symm))
      refine ⟨he q .terminating hp, ?_⟩
      show ¬ covers (bury r.tombstone i (r.uid p)) _
      rw [bury_of_ne hu']
      exact ho
  | acceptAbsent i _ hb =>
    have hd : r.uid p ≠ i.sandboxUID := by
      intro heq
      have hen : r.entry (r.uid p) = some p := hcur
      rw [heq, hb] at hen
      cases hen
    refine ⟨hh, ?_⟩
    show ¬ covers (bury r.tombstone i (r.uid p)) _
    rw [bury_of_ne hd]
    exact ho
  | fail q hqc hcr =>
    refine ⟨he q _ fun heq => ?_, ho⟩
    subst heq
    rw [hh] at hcr
    cases hcr
  | failed q hqc hf =>
    refine ⟨he q _ fun heq => ?_, ho⟩
    subst heq
    rw [hh] at hf
    cases hf
  | adopt hre =>
    have hno := hr.not_recovering hcur
    rw [ht.recovers hre] at hno
    cases hno

end

end

/-! ## The sections of a retried cleanup -/

section Retry

variable {cfg : Config} {m : Manager} {c : Creation} {t t' : Task} {ch : Choice}
  {out : Manager × List Task} {p : Ref}

theorem beginCreate_retrying {req : CreateSandboxRequest} {actionsReady resourceAvailable : Bool} :
    ∀ t' ∈ (beginCreate cfg m req actionsReady resourceAvailable).2, t'.retrying = none := by
  unfold beginCreate
  split
  · exact fun _ h => absurd h not_mem_nil
  split
  · exact fun _ h => absurd h not_mem_nil
  · exact fun _ h => absurd h not_mem_nil
  all_goals
    intro t' ht'
    rw [mem_singleton.mp ht']
    rfl

theorem beginRetryCleanup_cases (cfg : Config) (hu : m.registry.uid c.placeholder = c.uid) :
    ((beginRetryCleanup cfg m c).1.registry = m.registry ∧ (beginRetryCleanup cfg m c).2 = []) ∨
      (RetryAccepted cfg m c ∧ m.registry.Current c.placeholder ∧
        (beginRetryCleanup cfg m c).1.registry = m.registry.setPhase c.placeholder .createCleanup ∧
        ∃ s, (beginRetryCleanup cfg m c).2 = [.cleanup .retry c s]) := by
  unfold beginRetryCleanup
  by_cases hm : c.Managed m
  · rw [if_neg (not_not.mpr hm)]
    split
    · exact .inl ⟨rfl, rfl⟩
    rename_i hf
    split
    · exact .inl ⟨rfl, rfl⟩
    · rename_i hc
      obtain ⟨s, hs, -⟩ := beginCleanup_eq cfg c .retry
      refine .inr ⟨⟨hm, hf, by simpa using hc⟩, (managed_iff_current hu).mp hm,
        registry_setPhase m _ _, s, ?_⟩
      exact congrArg (fun task => [task]) hs
  · rw [if_pos hm]
    exact .inl ⟨rfl, rfl⟩

theorem cleanupRetry_cases {s : CleanupStage}
    (h : advance cfg m (.cleanup .retry c s) ch = some out) :
    (∃ instances s', out.1.registry = { m.registry with instances } ∧
      out.2 = [.cleanup .retry c s']) ∨ ∀ t' ∈ out.2, t'.retrying = none := by
  cases ch with
  | go =>
    cases s with
    | settle err =>
      cases h
      right
      unfold settleRetryCleanup
      by_cases hm : c.Managed m
      · rw [if_neg (not_not.mpr hm)]
        cases err with
        | some text => exact fun _ h => absurd h not_mem_nil
        | none =>
          intro t' ht'
          rw [mem_singleton.mp ht']
          rfl
      · rw [if_pos hm]
        exact fun _ h => absurd h not_mem_nil
    | owned | teardown | actions => cases h
  | answer =>
    cases s with
    | owned | actions =>
      cases h
      exact .inl ⟨_, _, rfl, rfl⟩
    | teardown | settle => cases h
  | teardown err =>
    cases s with
    | teardown =>
      cases h
      refine .inl ⟨_, if c.strict cfg || cfg.actionManager.isNone then .settle err
      else .actions err, rfl, ?_⟩
      unfold afterTeardown
      split_ifs <;> rfl
    | owned | actions | settle => cases h
  | _ => cases h

theorem advance_retryCleanup (h : advance cfg m (.retryCleanup c) ch = some out) :
    out = beginRetryCleanup cfg m c := by
  cases ch <;> first | exact (some.inj h).symm | cases h

theorem Task.retries_cases (h : t.retries = some p) :
    (∃ c, t = .retryCleanup c ∧ c.placeholder = p) ∨
      ∃ c s, t = .cleanup .retry c s ∧ c.placeholder = p := by
  unfold retries at h
  split at h
  · rename_i c s
    exact .inr ⟨c, s, rfl, some.inj h⟩
  · rename_i c
    exact .inl ⟨c, rfl, some.inj h⟩
  · cases h

theorem retryCleanup_starts (ht : TaskOk cfg m.registry (.retryCleanup c))
    (hG : cleanupUndisturbed cfg m (.retryCleanup c) ch)
    (h : advance cfg m (.retryCleanup c) ch = some out) (he : t' ∈ out.2) :
    m.registry.Current c.placeholder ∧ m.phase c.placeholder = .createCleanupFailed ∧
      ¬ m.registry.Covered c.placeholder ∧
      out.1.registry = m.registry.setPhase c.placeholder .createCleanup ∧
      ∃ s, out.2 = [.cleanup .retry c s] := by
  obtain rfl := advance_retryCleanup h
  rcases beginRetryCleanup_cases cfg ht.bound with ⟨-, hnil⟩ | ⟨ha, hcur, hre, s, hs⟩
  · rw [hnil] at he
    cases he
  obtain ⟨hp, hc⟩ := hG ha
  exact ⟨hcur, hp, hc, hre, s, hs⟩

theorem retrying_next (hr : m.registry.Valid) (ht : TaskOk cfg m.registry t)
    (hT : HoldsRecord m.registry t) (hG : cleanupUndisturbed cfg m t ch)
    (h : advance cfg m t ch = some out) (he : t' ∈ out.2) (hp : t'.retrying = some p) :
    (t.retrying = some p ∨ m.phase p = .createCleanupFailed) ∧ out.2 = [t'] ∧
      out.1.registry.Current p ∧ out.1.registry.phase p = .createCleanup ∧
      ¬ out.1.registry.Covered p := by
  have hx := ((advance_section hr ht h).next t' he).1
  rcases hx.retries p (retries_of_retrying hp) with hrt | ⟨req, rfl⟩
  · rcases retries_cases hrt with ⟨c, rfl, rfl⟩ | ⟨c, s, rfl, rfl⟩
    · obtain ⟨hcur, hh, hc, hre, s, hs⟩ := retryCleanup_starts ht hG h he
      rw [hs] at he
      obtain rfl := mem_singleton.mp he
      rw [hre]
      exact ⟨.inr hh, hs, hcur, phase_setPhase_self, hc⟩
    · obtain ⟨hcur, hh, hc⟩ := hT.retrying c.placeholder rfl
      rcases cleanupRetry_cases h with ⟨instances, s', hre, hs'⟩ | hn
      · rw [hs'] at he
        obtain rfl := mem_singleton.mp he
        rw [hre]
        exact ⟨.inl rfl, hs', hcur, hh, hc⟩
      · rw [hn t' he] at hp
        cases hp
  · obtain ⟨_, _, -, rfl⟩ := advance_create h
    rw [beginCreate_retrying t' he] at hp
    cases hp

end Retry

/-! ## The sections of a delete worker -/

/-- A delete worker that is about to tear down its record was about to before, or has just claimed
it. -/
theorem removing_next {cfg : Config} {m : Manager} {t t' : Task} {ch : Choice}
    {out : Manager × List Task} {p : Ref} (hr : m.registry.Valid) (ht : TaskOk cfg m.registry t)
    (hT : HoldsRecord m.registry t) (h : advance cfg m t ch = some out) (hm : t' ∈ out.2)
    (hp : t'.removing = some p) : out.1.registry.Current p := by
  have hse := advance_section hr ht h
  rcases (hse.next t' hm).1.deletes p (deletes_of_removing hp) with hd | ⟨rfl, hcur, -⟩
  · cases he : t.removing with
    | some q =>
      have hw := works_of_deletes hd
      have hq : q = p := by
        have hq' := works_of_deletes (deletes_of_removing he)
        rw [hw] at hq'
        exact (some.inj hq').symm
      subst hq
      refine hse.move.current_kept hr ht (hT.removing q he) ?_ ?_
      · rw [(works_spec hw).1]
        exact nofun
      · intro hi
        unfold removing at he
        split at he <;> cases he <;> cases hi
    | none =>
      -- a worker past its teardown only ends, or starts over
      have hn : t'.removing = none := by
        unfold deletes at hd
        split at hd
        · cases hd
        · rename_i q s hs
          have hg : goAsyncDelete cfg m q s = some out := by
            cases s with
            | start => exact absurd rfl hs
            | confirm | teardown => cases he
            | settle | failed | release => cases ch <;> first | exact h | cases h
          cases s with
          | start => exact absurd rfl hs
          | confirm | teardown => cases he
          | settle | failed =>
            cases hg
            rw [mem_singleton.mp hm]
            rfl
          | release =>
            cases hg
            unfold releaseAsyncDelete at hm
            dsimp only at hm
            split_ifs at hm
            · rw [mem_singleton.mp hm]
              rfl
            · cases hm
        · cases he
        · cases hd
      rw [hn] at hp
      cases hp
  · exact hse.move.current_kept hr ht hcur nofun nofun

/-! ## Every run -/

theorem not_discards_of_apart {t u : Task} {p : Ref} (hC : Apart t u)
    (hw : u.works = some p) (he : t.retrying ≠ some p)
    (hl : t.deletes = some p → t.ends = some p → False) : t.discards ≠ some p := by
  intro hi
  rcases discards_cases hi with hc | hrt | ⟨hd, hs⟩
  · exact hC.works p hc hw
  · exact he hrt
  · exact hl hd hs

theorem teardown_layer (cfg : Config) :
    System.Layer (system cfg) (cleanupUndisturbed cfg) (fun m => m.registry.Valid)
      (fun m t => TaskOk cfg m.registry t) Apart
        (fun m t => HoldsRecord m.registry t) OneRetry where
  symm h p hu ht := h p ht hu
  entry_holds _ _ := ⟨nofun, nofun⟩
  entry_compat _ _ := nofun
  local_step := by
    intro m m' t c ts hr ht hT hG hv
    refine ⟨fun t' ht' => ⟨fun p hp => ?_, fun p hp => removing_next hr ht hT hv ht' hp⟩, ?_⟩
    · exact (retrying_next hr ht hT hG hv ht' hp).2.2
    by_cases hnn : ∀ t' ∈ ts, t'.retrying = none
    · refine pairwise_of_forall_mem_list fun a ha b _ p hp => ?_
      rw [hnn a ha] at hp
      cases hp
    push Not at hnn
    obtain ⟨t', ht', he⟩ := hnn
    obtain ⟨p, hp⟩ := ne_none_iff_exists'.mp he
    have hn : ts = [t'] := (retrying_next hr ht hT hG hv ht' hp).2.1
    rw [hn]
    exact pairwise_singleton _ _
  frame_step := by
    intro m m' t u c ts hr ht hu hC hT hU hOne hG hv
    have hmv := (advance_section hr ht hv).move
    refine ⟨⟨fun p hp => ?_, fun p hp => ?_⟩, fun t' ht' p hp hup => ?_⟩
    · obtain ⟨hcur, hh, hco⟩ := hU.retrying p hp
      have hw := works_of_retries (retries_of_retrying hp)
      have hcr : t.creates ≠ some p := fun h => hC.works p h hw
      have he : t.retrying ≠ some p := fun h => hOne p h hp
      have hds : t.discards ≠ some p :=
        not_discards_of_apart hC hw he fun _ hes => hco (ht.ends p hes)
      have hc' := hmv.current_kept hr ht hcur hcr hds
      refine ⟨hc', hmv.cleanup_kept hr ht hcur hh hco hcr ?_ ?_ hc'⟩
      · -- another retry finds the record taken
        intro hrt
        rcases retries_cases hrt with ⟨c', rfl, rfl⟩ | ⟨c', s, rfl, rfl⟩
        · have ho : (m', ts) = beginRetryCleanup cfg m c' := advance_retryCleanup hv
          rcases beginRetryCleanup_cases cfg ht.bound with ⟨hm, -⟩ | ⟨ha, -⟩
          · rw [← ho] at hm
            exact hm
          have hf : m.registry.phase c'.placeholder = .createCleanupFailed := (hG ha).1
          rw [hh] at hf
          cases hf
        · exact absurd rfl he
      · rintro i rfl hi
        have hk : m.lookup i.sandboxUID = some p := by
          rw [hi]
          exact hcur
        have ho : (m', ts) = beginDelete cfg m i := by
          cases c <;> first | exact (some.inj hv).symm | cases hv
        have hm : (beginDelete cfg m i).1.phase p = m.phase p :=
          by_contra fun hne => hG p hk hh (deleteAccepted_of_phase hk hne)
        rw [← ho] at hm
        exact hm
    · have hl := deletes_of_removing hp
      have hw := works_of_deletes hl
      refine hmv.current_kept hr ht (hU.removing p hp) (fun h => hC.works p h hw) ?_
      refine not_discards_of_apart hC hw ?_ fun hd _ => hC.deletes p hd hl
      intro he
      exact (hT.retrying p he).2.2 (hu.ends p (ends_of_removing hp))
    · rcases (retrying_next hr ht hT hG hv ht' hp).1 with he | hf
      · exact hOne p he hup
      · have hh : m.phase p = .createCleanup := (hU.retrying p hup).2.1
        rw [hh] at hf
        cases hf

/-- **A teardown never meets a newer record**, as long as retried cleanups are undisturbed: while
`runtime.DeleteSandbox` runs on behalf of a record, no other record is managed under its UID. -/
theorem teardown_meets_no_newer {cfg : Config} {instances : List String} {w : World Manager Task}
    (h : (system cfg).Reaches (cleanupUndisturbed cfg) (start cfg instances) w) {t : Task}
    (ht : t ∈ w.tasks) {uid : String} {p q : Ref} (hteardown : t.tearsDown w.shared = some (uid, p))
    (hq : w.shared.lookup uid = some q) : q = p := by
  have hs := start_holds cfg instances
  have hu : ∀ t ∈ (start cfg instances).tasks, t = .recover .start := by
    intro t ht
    have ht' : t ∈ (if cfg.recoverOnStart then [Task.recover .start] else []) := ht
    split_ifs at ht'
    · exact mem_singleton.mp ht'
    · cases ht'
  have hc : (start cfg instances).tasks.Pairwise fun t u => Apart t u ∧ OneRetry t u := by
    refine hs.compat.and (pairwise_of_forall_mem_list fun t ht u _ p hp => ?_)
    rw [hu t ht] at hp
    cases hp
  have hw := ((discipline cfg).layer (fun _ _ _ _ => trivial) (teardown_layer cfg)).reaches
    ⟨hs.inv, fun t ht => ⟨hs.task t ht, by rw [hu t ht]; exact ⟨nofun, nofun⟩⟩, hc⟩ h
  obtain ⟨ho, hh⟩ := hw.task t ht
  have hm : w.shared.registry.Current p ∧ w.shared.uid p = uid := by
    unfold Task.tearsDown at hteardown
    split at hteardown
    · cases hteardown
      exact ⟨hh.removing p rfl, rfl⟩
    · rename_i o c
      cases hteardown
      cases o with
      | create =>
        have hb : w.shared.config c.placeholder = c.input := ho.bound
        refine ⟨(ho.creates _ rfl).current, ?_⟩
        unfold Manager.uid
        rw [hb]
        rfl
      | retry => exact ⟨(hh.retrying _ rfl).1, ho.bound⟩
    · cases hteardown
  obtain ⟨hcur, rfl⟩ := hm
  have hp : w.shared.lookup (w.shared.uid p) = some p := hcur
  rw [hp] at hq
  exact (Option.some.inj hq).symm

theorem covers_iff (tombstone : Option SandboxIdentity) (i : SandboxIdentity) : covers tombstone i ↔
      (tombstone.map (identityAtOrBefore i.instanceGeneration i.assignmentAttempt)).getD false =
        true := by
  cases tombstone with
  | none => exact ⟨fun ⟨_, h, _⟩ => (nomatch h), nofun⟩
  | some high =>
    show _ ↔ identityAtOrBefore i.instanceGeneration i.assignmentAttempt high
    rw [identityAtOrBefore_iff]
    exact ⟨fun ⟨_, h, hle⟩ => some.inj h ▸ hle, fun hle => ⟨high, rfl, hle⟩⟩

instance (tombstone : Option SandboxIdentity) (i : SandboxIdentity) :
    Decidable (covers tombstone i) :=
  decidable_of_iff _ (covers_iff tombstone i).symm

instance (r : Registry) (p : Ref) : Decidable (r.Covered p) :=
  inferInstanceAs (Decidable (covers _ _))

instance (cfg : Config) (m : Manager) (c : Creation) : Decidable (RetryAccepted cfg m c) :=
  inferInstanceAs (Decidable (_ ∧ _))

instance (cfg : Config) (m : Manager) (t : Task) (c : Choice) :
    Decidable (cleanupUndisturbed cfg m t c) := by
  unfold cleanupUndisturbed
  cases t with
  | call q => cases q <;> infer_instance
  | _ => infer_instance

def failedCreation : List (Event Call Choice) :=
  [.spawn (.create sampleRequest), .run 0 (.admission true true), .run 0 .go,
    .run 0 (.ensured (.error ⟨.other, "boot failed"⟩) true), .run 0 (.teardown (some "stuck") true),
    .run 0 .go]

/-- The task at a place, if it is a teardown. -/
def teardownAt (w : World Manager Task) (n : ℕ) : Option (String × Ref) :=
  (w.tasks[n]?).bind fun t => t.tearsDown w.shared

theorem exists_of_teardownAt {w : World Manager Task} {n : ℕ} {target : String × Ref}
    (h : teardownAt w n = some target) : ∃ t ∈ w.tasks, t.tearsDown w.shared = some target := by
  obtain ⟨t, ht, hg⟩ := bind_eq_some_iff.mp h
  exact ⟨t, mem_of_getElem? ht, hg⟩

/-- A retried cleanup that nobody disturbs. -/
theorem teardown_meets_own_record : ∃ w : World Manager Task, teardownAt w 0 = some ("uid-1", 0) ∧
      ∀ q, w.shared.lookup "uid-1" = some q → q = 0 := by
  obtain ⟨w, h, hs⟩ := System.exists_reaches_of_runMeeting (S := system smallConfig)
    (G := cleanupUndisturbed smallConfig) (w := start smallConfig [])
    (failedCreation ++ [.spawn (.create sampleRequest), .run 0 (.admission true true), .run 0 .go])
    (fun w => decide (teardownAt w 0 = some ("uid-1", 0))) (by decide)
  have he := of_decide_eq_true hs
  obtain ⟨t, ht, ha⟩ := exists_of_teardownAt he
  exact ⟨w, he, fun q hq => teardown_meets_no_newer h ht ha hq⟩

def nextRequest : CreateSandboxRequest where
  identity := { sampleIdentity with instanceGeneration := 2, runtimeInstanceID := "instance-2" }

/-- A retry sees the failed cleanup, a Delete is accepted and carried out, and the retry starts its
own teardown: it is still running when the next generation has its placeholder. -/
theorem teardown_meets_newer :
    ¬ ∀ (cfg : Config) (instances : List String) (w : World Manager Task),
      (system cfg).Reaches System.anyStep (start cfg instances) w →
      ∀ t ∈ w.tasks, ∀ uid p, t.tearsDown w.shared = some (uid, p) →
        ∀ q, w.shared.lookup uid = some q → q = p := by
  intro hal
  obtain ⟨w, _, h, _, hs⟩ := System.exists_reaches_of_runs (S := system smallConfig)
    (w := start smallConfig [])
    (failedCreation ++ [.spawn (.create sampleRequest), .run 0 (.admission true true),
      .spawn (.delete sampleIdentity), .run 1 .go, .run 1 .go, .run 1 .go, .run 0 .go,
      .run 1 (.teardown none false), .run 1 .go, .run 1 .go,
      .spawn (.create nextRequest), .run 1 (.admission true true)]) []
    (fun w _ => decide (teardownAt w 0 = some ("uid-1", 0) ∧ w.shared.lookup "uid-1" = some 1))
    (by decide)
  obtain ⟨he, hl⟩ := of_decide_eq_true hs
  obtain ⟨t, ht, ha⟩ := exists_of_teardownAt he
  exact Nat.one_ne_zero (hal smallConfig [] w h t ht "uid-1" 0 ha 1 hl)

end FastSandbox.Fastlet
