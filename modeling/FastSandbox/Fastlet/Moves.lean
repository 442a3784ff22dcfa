import FastSandbox.Fastlet.Registry

/-!
# What every move keeps

A move keeps the registry valid, and keeps what any other task relies on.
-/

namespace FastSandbox.Fastlet

open Registry Option List Nat
open FastSandbox.Fastlet.Task
open Function

namespace Registry

variable {r : Registry} {config : RuntimeSandboxConfig} {phase : Phase} {p q : Ref}

/-! ## Installed records -/

theorem config_install_of_ne (h : p ≠ r.next) : (r.install config phase).config p = r.config p :=
  update_of_ne h _ _

theorem phase_install_of_ne (h : p ≠ r.next) : (r.install config phase).phase p = r.phase p :=
  update_of_ne h _ _

theorem config_install_next : (r.install config phase).config r.next = config := update_self _ _ _

theorem phase_install_next : (r.install config phase).phase r.next = phase := update_self _ _ _

theorem uid_install_of_ne (h : p ≠ r.next) : (r.install config phase).uid p = r.uid p := by
  unfold uid
  rw [config_install_of_ne h]

theorem uid_install_next : (r.install config phase).uid r.next = config.identity.sandboxUID := by
  unfold uid
  rw [config_install_next]

theorem covered_install_of_ne (h : p ≠ r.next) :
    (r.install config phase).Covered p ↔ r.Covered p := by
  unfold Covered
  rw [uid_install_of_ne h, config_install_of_ne h]
  rfl

theorem covered_install_next : (r.install config phase).Covered r.next ↔
      covers (r.tombstone config.identity.sandboxUID) config.identity := by
  unfold Covered
  rw [uid_install_next, config_install_next]
  rfl

theorem entry_install_self :
    (r.install config phase).entry config.identity.sandboxUID = some r.next :=
  update_self _ _ _

theorem entry_install_of_ne {uid : String} (h : uid ≠ config.identity.sandboxUID) :
    (r.install config phase).entry uid = r.entry uid :=
  update_of_ne h _ _

theorem current_install_next : (r.install config phase).Current r.next := by
  unfold Current
  rw [uid_install_next, entry_install_self]

theorem current_install_of_ne (h : p ≠ r.next) :
    (r.install config phase).Current p ↔ r.uid p ≠ config.identity.sandboxUID ∧ r.Current p := by
  unfold Current
  rw [uid_install_of_ne h]
  by_cases hu : r.uid p = config.identity.sandboxUID
  · rw [hu, entry_install_self]
    constructor
    · intro heq
      exact absurd (some.inj heq).symm h
    · rintro ⟨hne, -⟩
      exact absurd rfl hne
  · rw [entry_install_of_ne hu]
    exact ⟨fun heq => ⟨hu, heq⟩, And.right⟩

theorem keyed_install (hk : ∀ uid p, r.entry uid = some p → p < r.next ∧ r.uid p = uid)
    (uid : String) (p : Ref) (h : (r.install config phase).entry uid = some p) :
    p < (r.install config phase).next ∧ (r.install config phase).uid p = uid := by
  by_cases hu : uid = config.identity.sandboxUID
  · rw [hu, entry_install_self] at h
    cases h
    exact ⟨lt_succ_self _, uid_install_next.trans hu.symm⟩
  · rw [entry_install_of_ne hu] at h
    obtain ⟨hlt, heq⟩ := hk uid p h
    exact ⟨lt_succ_of_lt hlt, (uid_install_of_ne hlt.ne).trans heq⟩

/-! ## Dropped entries -/

theorem current_drop_iff (uid : String) : (r.drop uid).Current p ↔ r.uid p ≠ uid ∧ r.Current p := by
  show update r.entry uid none (r.uid p) = some p ↔ _
  by_cases h : r.uid p = uid
  · rw [h, update_self]
    constructor
    · intro heq
      cases heq
    · rintro ⟨hne, -⟩
      exact absurd rfl hne
  · rw [update_of_ne h]
    exact ⟨fun heq => ⟨h, heq⟩, And.right⟩

/-! ## Phases -/

theorem phase_setPhase_self : (r.setPhase p phase).phase p = phase := update_self _ _ _

theorem phase_setPhase_of_ne (h : q ≠ p) : (r.setPhase p phase).phase q = r.phase q :=
  update_of_ne h _ _

theorem forall_phase_setPhase {P : Ref → Phase → Prop} (hp : P p phase)
    (hot : ∀ q, q ≠ p → P q (r.phase q)) (q : Ref) : P q ((r.setPhase p phase).phase q) := by
  by_cases h : q = p
  · subst h
    rwa [phase_setPhase_self]
  · rw [phase_setPhase_of_ne h]
    exact hot q h

theorem Current.eq (hp : r.Current p) (hq : r.Current q) (h : r.uid p = r.uid q) : p = q := by
  unfold Current at hp hq
  rw [h, hq] at hp
  exact (some.inj hp).symm

/-! ## Growth -/

/-- Records keep their configuration, fences only rise, and a record that is no longer managed
does not come back. -/
structure Extends (r r' : Registry) : Prop where
  next : r.next ≤ r'.next
  config : ∀ p < r.next, r'.config p = r.config p
  covers : ∀ uid i, covers (r.tombstone uid) i → covers (r'.tombstone uid) i
  current : ∀ p < r.next, r'.Current p → r.Current p

namespace Extends

variable {r' r'' : Registry}

theorem trans (h : r.Extends r') (h' : r'.Extends r'') : r.Extends r'' where
  next := h.next.trans h'.next
  config p hp := (h'.config p (hp.trans_le h.next)).trans (h.config p hp)
  covers uid i hi := h'.covers uid i (h.covers uid i hi)
  current p hp hc := h.current p hp (h'.current p (hp.trans_le h.next) hc)

theorem uid (h : r.Extends r') (hp : p < r.next) : r'.uid p = r.uid p := by
  unfold Registry.uid
  rw [h.config p hp]

theorem covered (h : r.Extends r') (hp : p < r.next) (hc : r.Covered p) : r'.Covered p := by
  unfold Covered
  rw [h.uid hp, h.config p hp]
  exact h.covers _ _ hc

end Extends

theorem extends_install : r.Extends (r.install config phase) where
  next := le_succ _
  config _ hp := config_install_of_ne hp.ne
  covers _ _ hi := hi
  current _ hp hc := ((current_install_of_ne hp.ne).mp hc).2

/-! ## Recovery -/

variable (records : List SandboxMetadata)

theorem extends_adopt : r.Extends (r.adopt records) := by
  induction records generalizing r with
  | nil => exact ⟨le_refl _, fun _ _ => rfl, fun _ _ h => h, fun _ _ h => h⟩
  | cons record rest ih => exact extends_install.trans ih

theorem adopt_spec :
    (r.adopt records).tombstone = r.tombstone ∧ (r.adopt records).deleter = r.deleter ∧
      (r.adopt records).instances = r.instances := by
  induction records generalizing r with
  | nil => exact ⟨rfl, rfl, rfl⟩
  | cons record rest ih => exact ih

theorem phase_adopt_of_lt (hlt : p < r.next) : (r.adopt records).phase p = r.phase p := by
  induction records generalizing r with
  | nil => rfl
  | cons record rest ih => exact (ih (lt_succ_of_lt hlt)).trans (phase_install_of_ne hlt.ne)

theorem keyed_adopt
    (hk : ∀ uid p, r.entry uid = some p → p < r.next ∧ r.uid p = uid) (uid : String) (p : Ref)
    (h : (r.adopt records).entry uid = some p) :
    p < (r.adopt records).next ∧ (r.adopt records).uid p = uid := by
  induction records generalizing r with
  | nil => exact hk uid p h
  | cons record rest ih => exact ih (keyed_install hk) h

theorem phase_adopt {P : Phase → Prop} (records : List SandboxMetadata)
    (hr : ∀ record ∈ records, P record.phase) (h : ∀ p, r.Current p → P (r.phase p)) (p : Ref)
    (hp : (r.adopt records).Current p) : P ((r.adopt records).phase p) := by
  induction records generalizing r with
  | nil => exact h p hp
  | cons record rest ih =>
    refine ih (fun record' h' => hr record' (mem_cons_of_mem _ h')) ?_ hp
    intro q hq
    by_cases hn : q = r.next
    · subst hn
      rw [phase_install_next]
      exact hr record mem_cons_self
    · rw [phase_install_of_ne hn]
      exact h q ((current_install_of_ne hn).mp hq).2

theorem entry_adopt_ne_none (uid : String)
    (h : r.entry uid ≠ none ∨ ∃ record ∈ records, record.config.identity.sandboxUID = uid) :
    (r.adopt records).entry uid ≠ none := by
  induction records generalizing r with
  | nil =>
    rcases h with h | ⟨record, he, -⟩
    · exact h
    · cases he
  | cons record rest ih =>
    refine ih ?_
    by_cases hu : uid = record.config.identity.sandboxUID
    · left
      rw [hu, entry_install_self]
      exact some_ne_none _
    rcases h with h | ⟨record', he, hr⟩
    · left
      rwa [entry_install_of_ne hu]
    · rcases mem_cons.mp he with rfl | he
      · exact absurd hr.symm hu
      · exact .inr ⟨record', he, hr⟩

end Registry

/-! ## Placeholders in flight -/

namespace Registry.Creating

variable {cfg : Config} {r : Registry} {config : RuntimeSandboxConfig} {phase : Phase} {p q : Ref}

section

variable (h : r.Creating cfg p)
include h

theorem of_eq {r' : Registry} (hf : r'.config p = r.config p)
    (he : r'.entry (r.uid p) = r.entry (r.uid p)) (hh : r'.phase p = r.phase p)
    (ho : r'.Covered p → r.Covered p) (hp : r'.pending (r.uid p) = r.pending (r.uid p)) :
    r'.Creating cfg p := by
  have hu : r'.uid p = r.uid p := by
    unfold uid
    rw [hf]
  have hr : r'.strict cfg p = r.strict cfg p := by
    unfold strict
    rw [hf]
  refine ⟨?_, ?_, ?_, ?_⟩
  · unfold Current
    rw [hu, he]
    exact h.current
  · rw [hh]
    exact h.phase
  · intro hc
    rw [hh]
    exact h.covered (ho hc)
  · intro hc hs
    rw [hu, hp]
    rw [hr] at hs
    exact h.pending (ho hc) hs

theorem setPhase (hne : p ≠ q) : (r.setPhase q phase).Creating cfg p :=
  h.of_eq rfl rfl (phase_setPhase_of_ne hne) id rfl

theorem clear {uid : String} (hne : r.uid p ≠ uid) : (r.clear uid).Creating cfg p :=
  h.of_eq rfl rfl rfl id (update_of_ne hne _ _)

theorem drop {uid : String} (hne : r.uid p ≠ uid) : (r.drop uid).Creating cfg p :=
  h.of_eq rfl (update_of_ne hne _ _) rfl id (update_of_ne hne _ _)

theorem install (hlt : p < r.next) (hne : r.uid p ≠ config.identity.sandboxUID)
    : (r.install config phase).Creating cfg p :=
  h.of_eq (config_install_of_ne hlt.ne) (entry_install_of_ne hne) (phase_install_of_ne hlt.ne)
    (covered_install_of_ne hlt.ne).mp rfl

theorem accept (hr : r.Valid) (i : SandboxIdentity) :
    (r.accept (r.strict cfg p) p i).Creating cfg p where
  current := h.current
  phase := by
    show placeholderPhase (update r.phase p .terminating p)
    rw [update_self]
    rfl
  covered _ := update_self _ _ _
  pending _ hs := by
    have hs' : r.strict cfg p := hs
    show (if r.strict cfg p && creatingPhase (r.phase p) then
      update r.pending (r.uid p) true else r.pending) (r.uid p)
    rw [hs', Bool.true_and]
    split_ifs with he
    · rw [update_self]
    · -- the phase was terminating already, so the flag is set
      have ht := terminating_of_placeholder h.phase (Bool.eq_false_iff.mpr he)
      exact h.pending (hr.deleting p h.current (by rw [ht]; rfl)) hs'

theorem accept_of_ne (hq : r.Current q) (hne : p ≠ q) {i : SandboxIdentity}
    (hi : i.sandboxUID = r.uid q) (strictActions : Bool) :
    (r.accept strictActions q i).Creating cfg p := by
  have hu : r.uid p ≠ r.uid q := fun heq => hne (Current.eq h.current hq heq)
  refine h.of_eq rfl rfl (update_of_ne hne _ _) ?_ ?_
  · intro ho
    have hc' : covers (bury r.tombstone i (r.uid p)) (r.config p).identity := ho
    rwa [bury_of_ne (hi ▸ hu)] at hc'
  · show (if strictActions && creatingPhase (r.phase q) then
      update r.pending (r.uid q) true else r.pending) (r.uid p) = r.pending (r.uid p)
    split_ifs
    · rw [update_of_ne hu]
    · rfl

end

end Registry.Creating

/-! ## Moves keep the registry valid -/

namespace Registry.Valid

variable {r : Registry} {config : RuntimeSandboxConfig} {phase : Phase} {p : Ref}

section

variable (h : r.Valid)
include h

theorem setPhase (hd : r.Current p → deletingPhase phase → r.Covered p)
    (hc : r.Current p → r.Covered p → endingPhase phase) : (r.setPhase p phase).Valid where
  keyed := h.keyed
  deleting := forall_phase_setPhase
    (P := fun q ph => r.Current q → deletingPhase ph → r.Covered q) hd
    fun q _ => h.deleting q
  covered := forall_phase_setPhase
    (P := fun q ph => r.Current q → r.Covered q → endingPhase ph) hc
    fun q _ => h.covered q
  recovering := h.recovering
  held := h.held

theorem install (hre : r.recovering = false)
    (hd : deletingPhase phase → covers (r.tombstone config.identity.sandboxUID) config.identity)
    (ho : covers (r.tombstone config.identity.sandboxUID) config.identity → endingPhase phase)
    : (r.install config phase).Valid where
  keyed := keyed_install h.keyed
  deleting q hc hp := by
    by_cases hq : q = r.next
    · subst hq
      rw [phase_install_next] at hp
      exact covered_install_next.mpr (hd hp)
    · rw [phase_install_of_ne hq] at hp
      exact (covered_install_of_ne hq).mpr (h.deleting q ((current_install_of_ne hq).mp hc).2 hp)
  covered q hc hv := by
    by_cases hq : q = r.next
    · subst hq
      rw [phase_install_next]
      exact ho (covered_install_next.mp hv)
    · rw [phase_install_of_ne hq]
      exact h.covered q ((current_install_of_ne hq).mp hc).2 ((covered_install_of_ne hq).mp hv)
  recovering hr := by
    have hr' : r.recovering := hr
    rw [hre] at hr'
    cases hr'
  held hr uid he := by
    by_cases hu : uid = config.identity.sandboxUID
    · rw [hu, entry_install_self]
      exact some_ne_none _
    · rw [entry_install_of_ne hu]
      exact h.held hr uid he

theorem clear (uid : String) : (r.clear uid).Valid :=
  ⟨h.keyed, h.deleting, h.covered, h.recovering, h.held⟩

theorem drop {uid : String} (ha : uid ∉ r.instances) : (r.drop uid).Valid where
  keyed uid' q hq := by
    refine h.keyed uid' q ?_
    by_cases hu : uid' = uid
    · have hn : (r.drop uid).entry uid = none := update_self _ _ _
      rw [hu, hn] at hq
      cases hq
    · have hold : (r.drop uid).entry uid' = r.entry uid' := update_of_ne hu _ _
      rwa [hold] at hq
  deleting q hc := h.deleting q ((current_drop_iff uid).mp hc).2
  covered q hc := h.covered q ((current_drop_iff uid).mp hc).2
  recovering hr := by
    refine ⟨?_, (h.recovering hr).2⟩
    intro uid'
    show update r.entry uid none uid' = none
    rw [update_apply, (h.recovering hr).1 uid', ite_self]
  held hr uid' he := by
    have hu : uid' ≠ uid := fun heq => ha (heq ▸ he)
    have hold : (r.drop uid).entry uid' = r.entry uid' := update_of_ne hu _ _
    rw [hold]
    exact h.held hr uid' he

theorem not_recovering (hc : r.Current p) : r.recovering = false := by
  cases hr : r.recovering with
  | false => rfl
  | true =>
    unfold Current at hc
    rw [(h.recovering hr).1] at hc
    cases hc

theorem lt (hc : r.Current p) : p < r.next := (h.keyed _ p hc).1

theorem accept {i : SandboxIdentity} (strictActions : Bool) (hi : i.sandboxUID = r.uid p)
    (hn : i.rank = (r.config p).identity.rank) (hu : r.Current p)
    : (r.accept strictActions p i).Valid where
  keyed := h.keyed
  deleting q hq hh := by
    by_cases hp : q = p
    · subst hp
      show covers (bury r.tombstone i (r.uid q)) (r.config q).identity
      rw [← hi]
      exact covers_of_rank_le (covers_bury_self _ i) hn.ge
    · have hold : (r.accept strictActions p i).phase q = r.phase q := update_of_ne hp _ _
      rw [hold] at hh
      exact covers_bury (h.deleting q hq hh)
  covered q hq ho := by
    by_cases hp : q = p
    · subst hp
      have ht : (r.accept strictActions q i).phase q = .terminating := update_self _ _ _
      rw [ht]
      rfl
    · have hold : (r.accept strictActions p i).phase q = r.phase q := update_of_ne hp _ _
      have hne : r.uid q ≠ i.sandboxUID := fun heq => hp (Current.eq hq hu (heq.trans hi))
      have hc' : covers (bury r.tombstone i (r.uid q)) (r.config q).identity := ho
      rw [bury_of_ne hne] at hc'
      rw [hold]
      exact h.covered q hq hc'
  recovering hr := by
    have hr' : r.recovering := hr
    rw [h.not_recovering hu] at hr'
    cases hr'
  held := h.held

theorem acceptAbsent {i : SandboxIdentity} (ha : r.entry i.sandboxUID = none)
    (he : r.recovering = false) : Valid { r with tombstone := bury r.tombstone i } where
  keyed := h.keyed
  deleting q hq hp := covers_bury (h.deleting q hq hp)
  covered q hq ho := by
    have hn : r.entry (r.uid q) = some q := hq
    have hne : r.uid q ≠ i.sandboxUID := by
      intro heq
      rw [heq, ha] at hn
      cases hn
    have hc' : covers (bury r.tombstone i (r.uid q)) (r.config q).identity := ho
    rw [bury_of_ne hne] at hc'
    exact h.covered q hq hc'
  recovering hr := by
    have hr' : r.recovering := hr
    rw [he] at hr'
    cases hr'
  held := h.held

theorem adopt (hre : r.recovering) {records : List SandboxMetadata}
    (hph : ∀ record ∈ records, endingPhase record.phase = false)
    (hl : ∀ uid ∈ r.instances, ∃ record ∈ records, record.config.identity.sandboxUID = uid) :
    Valid { r.adopt records with recovering := false } := by
  obtain ⟨hn, ht⟩ := h.recovering hre
  obtain ⟨ho, -, hin⟩ := adopt_spec records
  have hnn : ∀ p, ¬ r.Current p := by
    intro p hp
    unfold Current at hp
    rw [hn] at hp
    cases hp
  -- no adopted record is on its way out, and nothing has been deleted yet
  have hop : ∀ p, (r.adopt records).Current p → endingPhase ((r.adopt records).phase p) = false :=
    phase_adopt (P := fun ph => endingPhase ph = false) records hph fun p hp => absurd hp (hnn p)
  refine ⟨keyed_adopt records h.keyed, ?_, ?_, fun hr => (by cases hr), ?_⟩
  · intro p hu hd
    have he := ending_of_deleting hd
    rw [hop p hu] at he
    cases he
  · intro p _ hc
    obtain ⟨high, hh, -⟩ := hc
    have hh' : (r.adopt records).tombstone ((r.adopt records).uid p) = some high := hh
    rw [ho, ht] at hh'
    cases hh'
  · intro _ uid hme
    have hm' : uid ∈ (r.adopt records).instances := hme
    rw [hin] at hm'
    exact entry_adopt_ne_none records uid (.inr (hl uid hm'))

end

end Registry.Valid

namespace Move

variable {cfg : Config} {t : Task} {r r' : Registry}

theorem grows (h : Move cfg t r r') : r.Extends r' := by
  cases h with
  | same | work | build | giveUp | retry | delete | deleteCleared | fail | failed | claim | release
  | ensured | teardown | inventory =>
    exact ⟨le_refl _, fun _ _ => rfl, fun _ _ h => h, fun _ _ h => h⟩
  | reserve | commit => exact extends_install
  | commitDeleted p =>
    have he : r.Extends (r.install (r.config p) .terminating) := extends_install
    exact ⟨he.next, he.config, he.covers, he.current⟩
  | discard p hp hc =>
    refine ⟨le_refl _, fun _ _ => rfl, fun _ _ h => h, ?_⟩
    intro q _ hq
    exact ((current_drop_iff _).mp hq).2
  | accept | acceptAbsent =>
    exact ⟨le_refl _, fun _ _ => rfl, fun _ _ => covers_bury, fun _ _ h => h⟩
  | adopt ht records =>
    have he := extends_adopt (r := r) records
    exact ⟨he.next, he.config, he.covers, he.current⟩

/-- **Every move keeps the registry valid.** -/
theorem valid (h : Move cfg t r r') (hr : r.Valid) (ht : TaskOk cfg r t) : r'.Valid := by
  cases h with
  | same => exact hr
  | work phase hph =>
    refine ⟨hr.keyed, ?_, ?_, hr.recovering, hr.held⟩
    · intro p hu hd
      have he : endingPhase (phase p) := ending_of_deleting hd
      rcases hph p with heq | ⟨-, -, hcr⟩
      · have hd' : deletingPhase (phase p) := hd
        rw [heq] at hd'
        exact hr.deleting p hu hd'
      · rw [ending_of_created hcr] at he
        cases he
    · intro p hu ho
      have he := hr.covered p hu ho
      rcases hph p with heq | ⟨-, hcr, -⟩
      · rwa [← heq] at he
      · rw [ending_of_created hcr] at he
        cases he
  | reserve req config ht hnew hf hrc => exact hr.install hrc nofun fun h => absurd h hf
  | commit p phase hp hne hph =>
    have hc := ht.creates p hp
    refine hr.install (hr.not_recovering hc.current) ?_ fun ho => absurd (hc.covered ho) hne
    intro hd
    have he := ending_of_deleting hd
    rw [ending_of_created hph] at he
    cases he
  | commitDeleted p hp htr =>
    have hc := ht.creates p hp
    refine (hr.install (hr.not_recovering hc.current) ?_ fun _ => rfl).clear _
    intro _
    exact hr.deleting p hc.current (by rw [htr]; rfl)
  | build p phase hp hne hph =>
    have hc := ht.creates p hp
    refine hr.setPhase ?_ fun _ ho => absurd (hc.covered ho) hne
    intro _ hd
    rcases hph with rfl | rfl | rfl <;> cases hd
  | giveUp => exact hr.setPhase nofun fun _ _ => rfl
  | discard p hp hu => exact hr.drop (ht.discards p hp hu)
  | retry p phase hp hu hph =>
    rcases hph with rfl | rfl
    · exact hr.setPhase nofun fun _ _ => rfl
    · exact hr.setPhase nofun fun _ _ => rfl
  | delete p phase hw hu ho hph =>
    exact hr.setPhase (fun _ _ => ho) fun _ _ => ending_of_deleting hph
  | deleteCleared p phase hw hu ho hph =>
    refine (hr.clear _).setPhase (fun _ _ => ho) fun _ _ => ?_
    rcases hph with rfl | hph
    · exact hr.covered p hu ho
    · exact ending_of_deleting hph
  | accept p i ht hi hn hu => exact hr.accept _ hi hn hu
  | acceptAbsent i ht ha hrc => exact hr.acceptAbsent ha hrc
  | fail p hu hph =>
    refine hr.setPhase nofun fun _ ho => ?_
    have he := hr.covered p hu ho
    rw [ending_of_created hph] at he
    cases he
  | failed p hu hph =>
    refine hr.setPhase nofun fun _ ho => ?_
    have he := hr.covered p hu ho
    rw [hph] at he
    cases he
  | claim | release => exact ⟨hr.keyed, hr.deleting, hr.covered, hr.recovering, hr.held⟩
  | ensured p hp instances hsub =>
    refine ⟨hr.keyed, hr.deleting, hr.covered, hr.recovering, ?_⟩
    intro hrc uid hm
    rcases hsub uid hm with rfl | hold
    · rw [(ht.creates p hp).current]
      exact some_ne_none _
    · exact hr.held hrc uid hold
  | teardown instances hsub =>
    exact ⟨hr.keyed, hr.deleting, hr.covered, hr.recovering, fun hrc uid hm =>
      hr.held hrc uid (hsub uid hm)⟩
  | inventory hrc =>
    refine ⟨hr.keyed, hr.deleting, hr.covered, hr.recovering, ?_⟩
    intro hre'
    have hre'' : r.recovering = false := hre'
    rw [ht.recovers hrc] at hre''
    cases hre''
  | adopt hrc records hph hh => exact hr.adopt (ht.recovers hrc) hph hh

/-! ## What a move leaves to the other tasks -/

section Frame

variable {p : Ref}

section

variable (h : Move cfg t r r')
include h

theorem current_before (hlt : p < r.next) (hc : r'.Current p) :
    r.Current p := h.grows.current p hlt hc

theorem ending (hlt : p < r.next) (hf : t.creates ≠ some p)
    (he : endingPhase (r.phase p)) : endingPhase (r'.phase p) := by
  -- a phase change of another record is not seen, one of this record ends in the same class
  have hs : ∀ q phase, (q = p → endingPhase phase) →
      endingPhase ((r.setPhase q phase).phase p) := by
    intro q phase hh
    by_cases hpq : p = q
    · subst hpq
      rw [phase_setPhase_self]
      exact hh rfl
    · rwa [phase_setPhase_of_ne hpq]
  cases h with
  | same | discard | acceptAbsent | claim | release | ensured | teardown | inventory => exact he
  | work phase hh =>
    show endingPhase (phase p)
    rcases hh p with heq | ⟨-, hr, -⟩
    · rwa [heq]
    · rw [ending_of_created hr] at he
      cases he
  | reserve | commit | commitDeleted =>
    show endingPhase (update r.phase r.next _ p)
    rwa [update_of_ne hlt.ne]
  | build q phase hq => exact hs q phase fun hp => absurd (hp ▸ hq) hf
  | giveUp q hq => exact hs q _ fun hp => absurd (hp ▸ hq) hf
  | retry q phase hq hc hh =>
    refine hs q phase fun _ => ?_
    rcases hh with rfl | rfl <;> rfl
  | delete q phase hw hc ho hh => exact hs q phase fun _ => ending_of_deleting hh
  | deleteCleared q phase hw hc ho hh =>
    refine hs q phase ?_
    rintro rfl
    rcases hh with rfl | hh
    · exact he
    · exact ending_of_deleting hh
  | accept q => exact hs q .terminating fun _ => rfl
  | fail q hc hh =>
    refine hs q _ ?_
    rintro rfl
    rw [ending_of_created hh] at he
    cases he
  | failed q hc hh =>
    refine hs q _ ?_
    rintro rfl
    rw [hh] at he
    cases he
  | adopt ht records => rwa [phase_adopt_of_lt records hlt]

theorem absent (hr : r.Valid) (ht : TaskOk cfg r t) (hlt : p < r.next) (hf : t.creates ≠ some p)
    (hu : r'.Current p) (ha : r.uid p ∉ r.instances) : r.uid p ∉ r'.instances := by
  have hc0 := h.current_before hlt hu
  cases h with
  | same | work | reserve | commit | commitDeleted | build | giveUp | discard | retry | delete
  | deleteCleared | accept | acceptAbsent | fail | failed | claim | release => exact ha
  | ensured q hq instances hsub =>
    intro he
    rcases hsub _ he with heq | hold
    · exact hf (Registry.Current.eq hc0 (ht.creates q hq).current heq ▸ hq)
    · exact ha hold
  | teardown instances hsub => exact fun he => ha (hsub _ he)
  | inventory hre instances =>
    have ho := hr.not_recovering hc0
    rw [ht.recovers hre] at ho
    cases ho
  | adopt hre records =>
    have ho := hr.not_recovering hc0
    rw [ht.recovers hre] at ho
    cases ho

theorem deleter (hlt : p < r.next) (hf : t.deletes ≠ some p) (hr : r'.Current p)
    (hd : r.deleter (r.uid p) = some p) : r'.deleter (r.uid p) = some p := by
  have hc0 := h.current_before hlt hr
  cases h with
  | same | work | reserve | commit | commitDeleted | build | giveUp | discard | retry | delete
  | deleteCleared | accept | acceptAbsent | fail | failed | ensured | teardown | inventory =>
    exact hd
  | claim q hq =>
    show update r.deleter (r.uid q) (some q) (r.uid p) = some p
    by_cases hu : r.uid p = r.uid q
    · rw [hu, update_self, Registry.Current.eq hc0 hq hu]
    · rwa [update_of_ne hu]
  | release q hq =>
    show (if r.deleter (r.uid q) = some q then update r.deleter (r.uid q) none
      else r.deleter) (r.uid p) = some p
    split_ifs with ho
    · have hu : r.uid p ≠ r.uid q := by
        intro heq
        rw [← heq, hd] at ho
        exact hf (some.inj ho ▸ hq)
      rwa [update_of_ne hu]
    · exact hd
  | adopt ht records => rwa [(adopt_spec records).2.1]

theorem recovering (ht : t.recovers = false) : r'.recovering = r.recovering := by
  cases h with
  | adopt hr =>
    rw [ht] at hr
    cases hr
  | _ => rfl

theorem instances_of_recovering (hr : r.Valid) (hk : TaskOk cfg r t) (hc : r.recovering)
    (ht : t.recovers = false) (uid : String) (hm : uid ∈ r'.instances) : uid ∈ r.instances := by
  cases h with
  | same | work | reserve | commit | commitDeleted | build | giveUp | discard | retry | delete
  | deleteCleared | accept | acceptAbsent | fail | failed | claim | release => exact hm
  | ensured q hq instances hsub =>
    have ho := hr.not_recovering (hk.creates q hq).current
    rw [hc] at ho
    cases ho
  | teardown instances hsub => exact hsub uid hm
  | inventory he' | adopt he' =>
    rw [ht] at he'
    cases he'

theorem creating (hr : r.Valid) (ht : TaskOk cfg r t) (hlt : p < r.next)
    (hs : t.creates ≠ some p) (hk : t.works ≠ some p) (hc : r.Creating cfg p) :
    r'.Creating cfg p := by
  -- another managed record has another UID
  have hd : ∀ q, r.Current q → q ≠ p → r.uid p ≠ r.uid q := by
    intro q hq hne heq
    exact hne (Registry.Current.eq hc.current hq heq).symm
  have hne : ∀ q, t.creates = some q → p ≠ q := fun q hq heq => hs (heq ▸ hq)
  have how : ∀ q, Owns cfg r t q → p ≠ q := by
    rintro q hw rfl
    rcases hw with h | h | h
    · exact hs h
    · exact hk h
    · exact h hc
  -- the placeholder's phase is none of those a move of a running or failed runtime starts from
  have hp := hc.phase
  cases h with
  | same | claim | release | ensured | teardown | inventory => exact hc.of_eq rfl rfl rfl id rfl
  | work phase hh =>
    refine hc.of_eq rfl rfl ?_ id rfl
    rcases hh p with heq | ⟨-, hcr, -⟩
    · exact heq
    · rw [placeholder_of_created hcr] at hp
      cases hp
  | reserve req config he hnew =>
    refine hc.install hlt ?_
    intro heq
    have hcu := hc.current
    unfold Registry.Current at hcu
    rw [heq, hnew] at hcu
    cases hcu
  | commit q phase hq => exact hc.install hlt (hd q (ht.creates q hq).current (hne q hq).symm)
  | commitDeleted q hq =>
    have hot := hd q (ht.creates q hq).current (hne q hq).symm
    have hu' : (r.install (r.config q) .terminating).uid p = r.uid p := uid_install_of_ne hlt.ne
    exact (hc.install hlt hot).clear (hu' ▸ hot)
  | build q phase hq | giveUp q hq => exact hc.setPhase (hne q hq)
  | discard q hq hcu =>
    have hqp : q ≠ p := by
      rintro rfl
      rcases creates_or_works_of_discards hq with h | h
      · exact hs h
      · exact hk h
    exact hc.drop (hd q hcu hqp)
  | retry q phase hq => exact hc.setPhase fun heq => hk (heq ▸ works_of_retries hq)
  | delete q phase hw => exact hc.setPhase (how q hw)
  | deleteCleared q phase hw hcu => exact (hc.clear (hd q hcu (how q hw).symm)).setPhase (how q hw)
  | accept q i he hi hn hcu =>
    by_cases hpq : p = q
    · subst hpq
      exact hc.accept hr i
    · exact hc.accept_of_ne hcu hpq hi _
  | acceptAbsent i he ha =>
    refine hc.of_eq rfl rfl rfl ?_ rfl
    intro hv
    have ho' : covers (bury r.tombstone i (r.uid p)) (r.config p).identity := hv
    have hne' : r.uid p ≠ i.sandboxUID := by
      intro heq
      have hcu := hc.current
      unfold Registry.Current at hcu
      rw [heq, ha] at hcu
      cases hcu
    rwa [bury_of_ne hne'] at ho'
  | fail q hcu hh =>
    refine hc.setPhase ?_
    rintro rfl
    rw [placeholder_of_created hh] at hp
    cases hp
  | failed q hcu hh =>
    refine hc.setPhase ?_
    rintro rfl
    rw [hh] at hp
    cases hp
  | adopt hre =>
    have hop := hr.not_recovering hc.current
    rw [ht.recovers hre] at hop
    cases hop

end

end Frame

theorem bound {u : Task} (h : Move cfg t r r') (hr : r.Valid) (ht : TaskOk cfg r t)
    (hu : TaskOk cfg r u) (hC : Apart t u) : u.Bound cfg r' := by
  have hg := h.grows
  have hlt : ∀ p, u.names = some p → p < r.next := hu.named
  have hb := hu.bound
  -- the recovery is one task
  have hin : u.recovers → ∀ uid ∈ r'.instances, uid ∈ r.instances := by
    intro hc
    exact h.instances_of_recovering hr ht (hu.recovers hc) (hC.symm.recovers hc)
  unfold Task.Bound at hb ⊢
  split at hb
  iterate 5 exact (hg.config _ (hlt _ rfl)).trans hb
  · exact (hg.uid (hlt _ rfl)).trans hb
  · exact (hg.uid (hlt _ rfl)).trans hb
  · intro p hp
    obtain ⟨hi, hs⟩ := hb p hp
    refine ⟨(hg.uid (hlt p hp)).trans hi, ?_⟩
    unfold Registry.strict at hs ⊢
    rwa [hg.config p (hlt p hp)]
  · exact ⟨hb.1, fun uid he => hb.2 uid (hin rfl uid he)⟩
  · exact ⟨hb.1, fun uid he => hb.2 uid (hin rfl uid he)⟩
  · exact ⟨hb.1, fun uid he => hb.2 uid (hin rfl uid he)⟩
  · trivial

/-- **Every move keeps what the other tasks rely on.** -/
theorem taskOk {u : Task} (h : Move cfg t r r') (hr : r.Valid) (ht : TaskOk cfg r t)
    (hu : TaskOk cfg r u) (hC : Apart t u) : TaskOk cfg r' u where
  named p hp := (hu.named p hp).trans_le h.grows.next
  creates p hp := by
    refine h.creating hr ht (hu.named p (names_of_creates hp)) ?_ ?_ (hu.creates p hp)
    · exact hC.symm.creates p hp
    · exact hC.symm.works p hp
  discards p hp hc := by
    obtain ⟨hlt, hf⟩ : p < r.next ∧ t.creates ≠ some p := by
      rcases creates_or_works_of_discards hp with hp | hp
      · exact ⟨hu.named p (names_of_creates hp), hC.symm.creates p hp⟩
      · exact ⟨hu.named p (names_of_works hp), fun htp => hC.works p htp hp⟩
    rw [h.grows.uid hlt]
    exact h.absent hr ht hlt hf hc (hu.discards p hp (h.current_before hlt hc))
  retries p hp hc := by
    have hw := works_of_retries hp
    have hlt := hu.named p (names_of_works hw)
    exact h.ending hlt (fun htp => hC.works p htp hw) (hu.retries p hp (h.current_before hlt hc))
  ends p hp := h.grows.covered (hu.named p (names_of_ends hp)) (hu.ends p hp)
  deletes p hp hc := by
    have hlt := hu.named p (names_of_works (works_of_deletes hp))
    rw [h.grows.uid hlt]
    exact h.deleter hlt (hC.symm.deletes p hp) hc (hu.deletes p hp (h.current_before hlt hc))
  recovers hp := (h.recovering (hC.symm.recovers hp)).trans (hu.recovers hp)
  bound := h.bound hr ht hu hC

end Move

/-! ## Where tasks come from -/

def Task.recovered : Task → Option (List SandboxMetadata)
  | .recover (.access _ _ records) | .recover (.finish records)
  | .reconcileRoutes (.recover records) _ _ => some records
  | _ => none

theorem Task.recovered_ne_some {t : Task} {records : List SandboxMetadata}
    (h : t.recovers = false) : t.recovered ≠ some records := by
  intro hr
  unfold recovered at hr
  split at hr <;> first | cases h | cases hr

/-- The records `t'` is about to adopt are those of `t`, or they have slots. -/
def Task.Hands (cfg : Config) (t t' : Task) : Prop :=
  ∀ records, t'.recovered = some records → t.recovered = some records ∨
    (records.countP fun record => occupiesSlot record.phase) ≤ cfg.capacity

/-- The placeholder for which the task has protected the image and not yet committed. -/
def Task.pledge : Task → Option Ref
  | .creation c (.commit _) | .boot c _ (.commit _) => some c.placeholder
  | _ => none

/-- The placeholder whose image the task's next section protects. -/
def Task.pledging : Task → Option Ref
  | .creation c .ensure | .boot c _ (.claim _) => some c.placeholder
  | _ => none

theorem Task.creates_of_pledge {t : Task} {p : Ref} (h : t.pledge = some p) :
    t.creates = some p := by
  unfold pledge at h
  split at h <;> first | exact h | cases h

/-- How a task a section leaves behind relates to the section's own task `t`. -/
structure Offspring (cfg : Config) (r : Registry) (t t' : Task) : Prop where
  creates : ∀ p, t'.creates = some p →
    t.creates = some p ∨ (p = r.next ∧ ∃ req, t = .call (.create req))
  works : ∀ p, t'.works = some p → Owns cfg r t p ∨ p = r.next
  deletes : ∀ p, t'.deletes = some p →
    t.deletes = some p ∨ (t = .asyncDelete p .start ∧ r.Current p ∧ r.deleter (r.uid p) ≠ some p)
  recovers : t'.recovers → t.recovers
  retries : ∀ p, t'.retries = some p → t.retries = some p ∨ ∃ req, t = .call (.create req)
  pledges : ∀ p, t'.pledge = some p → t.pledging = some p
  recovered : t.Hands cfg t'

theorem Offspring.apart {cfg : Config} {r : Registry} {t t' u : Task} (h : Offspring cfg r t t')
    (hu : TaskOk cfg r u) (hC : Apart t u) : Apart t' u where
  creates p hp hup := by
    rcases h.creates p hp with ht | ⟨rfl, -⟩
    · exact hC.creates p ht hup
    · exact lt_irrefl _ (hu.named _ (names_of_creates hup))
  works p hp hup := by
    rcases h.creates p hp with ht | ⟨rfl, -⟩
    · exact hC.works p ht hup
    · exact lt_irrefl _ (hu.named _ (names_of_works hup))
  worked p hup hp := by
    rcases h.works p hp with (ht | ht | hn) | rfl
    · exact hC.creates p ht hup
    · exact hC.worked p hup ht
    · exact hn (hu.creates p hup)
    · exact lt_irrefl _ (hu.named _ (names_of_creates hup))
  deletes p hp hup := by
    rcases h.deletes p hp with ht | ⟨-, hc, hne⟩
    · exact hC.deletes p ht hup
    · exact hne (hu.deletes p hup hc)
  recovers hp := hC.recovers (h.recovers hp)

/-- A task that is about no record and is no part of the recovery. -/
def Task.Inert (t : Task) : Prop := t.names = none ∧ t.recovers = false

namespace Task.Inert

variable {cfg : Config} {r : Registry} {t u : Task} {p : Ref}

theorem creates_ne (h : t.Inert) : t.creates ≠ some p := by
  intro hp
  have hn := names_of_creates hp
  rw [h.1] at hn
  cases hn

theorem works_ne (h : t.Inert) : t.works ≠ some p := by
  intro hp
  have hn := names_of_works hp
  rw [h.1] at hn
  cases hn

theorem offspring (h : t.Inert) : Offspring cfg r u t where
  creates _ hp := absurd hp h.creates_ne
  works _ hp := absurd hp h.works_ne
  deletes _ hp := absurd (works_of_deletes hp) h.works_ne
  recovers hp := by
    rw [h.2] at hp
    cases hp
  retries _ hp := absurd (works_of_retries hp) h.works_ne
  pledges _ hp := absurd (creates_of_pledge hp) h.creates_ne
  recovered _ hp := absurd hp (recovered_ne_some h.2)

theorem apart (h : t.Inert) (u : Task) : Apart t u where
  creates _ hp := absurd hp h.creates_ne
  works _ hp := absurd hp h.creates_ne
  worked _ _ := h.works_ne
  deletes _ hp := absurd (works_of_deletes hp) h.works_ne
  recovers hp := by
    rw [h.2] at hp
    cases hp

theorem taskOk (h : t.Inert) : TaskOk cfg r t where
  named p hp := by
    rw [h.1] at hp
    cases hp
  creates _ hp := absurd hp h.creates_ne
  discards _ hp := by
    rcases creates_or_works_of_discards hp with hp | hp
    · exact absurd hp h.creates_ne
    · exact absurd hp h.works_ne
  retries _ hp := absurd (works_of_retries hp) h.works_ne
  ends p hp := by
    have hn := names_of_ends hp
    rw [h.1] at hn
    cases hn
  deletes _ hp := absurd (works_of_deletes hp) h.works_ne
  recovers hp := by
    rw [h.2] at hp
    cases hp
  bound := by
    obtain ⟨hn, hr⟩ := h
    unfold Task.Bound
    split
    case h_8 d s =>
      intro p hp
      have hs : d.record = none := hn
      rw [hp] at hs
      cases hs
    case h_9 | h_10 | h_11 => cases hr
    case h_12 => trivial
    all_goals cases hn

end Task.Inert

end FastSandbox.Fastlet
