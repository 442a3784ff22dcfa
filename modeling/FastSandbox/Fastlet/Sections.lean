import FastSandbox.Fastlet.Log

/-!
# Every section is a move of the registry

`Section cfg m t out` says what the section of `t` does: it makes one move, it writes at most one
entry, and the tasks it leaves behind may rely on what their places promise. This module has the
tools; the lemmas for the sections of the source follow in `CreateSections`, `DeleteSections` and
`DataSections`.
-/

namespace FastSandbox.Fastlet

open Registry
open FastSandbox.Fastlet.Task
open Function

/-! ## Operations of the manager on the registry -/

theorem Registry.setPhase_self (r : Registry) (p : Ref) : r.setPhase p (r.phase p) = r := by
  unfold setPhase
  rw [update_eq_self]

section

variable (m : Manager) (p : Ref)

theorem registry_modify (f : SandboxMetadata → SandboxMetadata)
    (hf : (f (m.records p)).config = (m.records p).config) :
    (m.modify p f).registry = m.registry.setPhase p (f (m.records p)).phase := by
  have hc : (m.modify p f).config = m.config := by
    refine (comp_update SandboxMetadata.config m.records p _).trans ?_
    rw [hf]
    exact update_eq_self p m.config
  have hp : (m.modify p f).phase = update m.phase p (f (m.records p)).phase :=
    comp_update SandboxMetadata.phase m.records p _
  unfold Manager.registry setPhase
  rw [hc, hp]
  rfl

theorem registry_setPhase (phase : Phase) :
    (m.setPhase p phase).registry = m.registry.setPhase p phase :=
  registry_modify m p _ rfl

theorem registry_modify_of_eq (f : SandboxMetadata → SandboxMetadata)
    (hc : (f (m.records p)).config = (m.records p).config)
    (hp : (f (m.records p)).phase = (m.records p).phase) :
    (m.modify p f).registry = m.registry := by
  rw [registry_modify m p f hc, hp]
  exact m.registry.setPhase_self p

/-- A record is installed under the next reference. -/
theorem registry_install (record : SandboxMetadata) :
    (m.install record).registry = m.registry.install record.config record.phase := by
  have hc : (m.install record).config = update m.config m.next record.config :=
    comp_update SandboxMetadata.config m.records m.next record
  have hp : (m.install record).phase = update m.phase m.next record.phase :=
    comp_update SandboxMetadata.phase m.records m.next record
  have he : (m.install record).lookup =
      update m.lookup record.config.identity.sandboxUID (some m.next) := by
    funext uid
    show (m.sandboxes.insert _ m.next).lookup uid = _
    by_cases hu : uid = record.config.identity.sandboxUID
    · rw [hu, AList.lookup_insert, update_self]
    · rw [AList.lookup_insert_ne hu, update_of_ne hu]
      rfl
  unfold Manager.registry install
  rw [hc, hp, he]
  rfl

theorem registry_drop (uid : String) : (m.drop uid).registry = m.registry.drop uid := by
  have he : (m.drop uid).lookup = update m.lookup uid none := by
    funext uid'
    show (m.sandboxes.erase uid).lookup uid' = _
    by_cases hu : uid' = uid
    · rw [hu, AList.lookup_erase, update_self]
    · rw [AList.lookup_erase_ne hu, update_of_ne hu]
      rfl
  unfold Manager.registry drop
  rw [he]
  rfl

theorem registry_recordTombstone (i : SandboxIdentity) : (recordTombstone m i).registry =
      { m.registry with tombstone := bury m.registry.tombstone i } := rfl

theorem registry_adopt (records : List SandboxMetadata) :
    (records.foldl Manager.install m).registry = m.registry.adopt records := by
  induction records generalizing m with
  | nil => rfl
  | cons record rest ih =>
    rw [List.foldl_cons, ih, registry_install]
    rfl

end

/-! ## The tasks a section leaves behind -/

section

variable {t : Task} {p : Ref}

theorem Task.creates_spec (h : t.creates = some p) :
    t.works = none ∧ t.retries = none ∧ t.ends = none ∧ t.deletes = none ∧ t.recovers = false := by
  unfold creates at h
  split at h
  case h_1 | h_5 => cases h
  case h_2 | h_4 => exact ⟨rfl, rfl, rfl, rfl, rfl⟩
  case h_3 c failures s hs =>
    cases s with
    | exit => exact (hs rfl).elim
    | _ => exact ⟨rfl, rfl, rfl, rfl, rfl⟩

theorem Task.works_spec (h : t.works = some p) : t.creates = none ∧ t.recovers = false := by
  cases hc : t.creates with
  | none =>
    refine ⟨rfl, ?_⟩
    unfold works at h
    split at h <;> first | rfl | cases h
  | some =>
    rw [(creates_spec hc).1] at h
    cases h

theorem Task.names_of_discards (h : t.discards = some p) : t.names = some p := by
  rcases creates_or_works_of_discards h with h | h
  · exact names_of_creates h
  · exact names_of_works h

end

section

variable {cfg : Config} {r r' : Registry} {t t' : Task} {p : Ref}

variable {a : Option Ref} {P : Ref → Prop}

theorem forall_of_none (h : a = none) : ∀ q, a = some q → P q := by
  intro q hq
  rw [h] at hq
  cases hq

theorem forall_of_some (h : a = some p) (hp : P p) : ∀ q, a = some q → P q := by
  intro q hq
  rw [h] at hq
  cases hq
  exact hp

theorem forall_of_names (hp : t.names = some p) (ha : ∀ {q}, a = some q → t.names = some q)
    (h : a = some p → P p) : ∀ q, a = some q → P q := by
  intro q hq
  obtain rfl := Option.some.inj (hp.symm.trans (ha hq))
  exact h hq

theorem forall_of_unnamed (hn : t.names = none) (ha : ∀ {q}, a = some q → t.names = some q) :
    ∀ q, a = some q → P q :=
  fun _ hq => nomatch hn.symm.trans (ha hq)

/-- A task that creates a record relies on nothing but that record. -/
theorem TaskOk.of_creates (hp : t.creates = some p) (hlt : p < r.next) (hc : r.Creating cfg p)
    (hb : t.Bound cfg r) (hd : t.discards = some p → r.uid p ∉ r.instances) : TaskOk cfg r t := by
  obtain ⟨-, ht, he, hl, hr⟩ := creates_spec hp
  have hn := names_of_creates hp
  refine ⟨forall_of_some hn hlt, forall_of_some hp hc, ?_, forall_of_none ht,
    forall_of_none he, forall_of_none hl, by simp [hr], hb⟩
  exact forall_of_names hn names_of_discards fun hq _ => hd hq

theorem TaskOk.of_works (hp : t.works = some p) (hlt : p < r.next) (hb : t.Bound cfg r)
    (hd : t.discards = some p → r.Current p → r.uid p ∉ r.instances)
    (ht : t.retries = some p → r.Current p → endingPhase (r.phase p))
    (he : t.ends = some p → r.Covered p)
    (hl : t.deletes = some p → r.Current p → r.deleter (r.uid p) = some p) : TaskOk cfg r t := by
  obtain ⟨hc, hr⟩ := works_spec hp
  have hn := names_of_works hp
  refine ⟨forall_of_some hn hlt, forall_of_none hc, ?_, ?_, ?_, ?_, by simp [hr], hb⟩
  · exact forall_of_names hn names_of_discards hd
  · exact forall_of_names hn (fun hq => names_of_works (works_of_retries hq)) ht
  · exact forall_of_names hn names_of_ends he
  · exact forall_of_names hn (fun hq => names_of_works (works_of_deletes hq)) hl

theorem Offspring.of_creates (hp : t'.creates = some p)
    (h : t.creates = some p ∨ (p = r.next ∧ ∃ req, t = .call (.create req)))
    (hpd : ∀ q, t'.pledge = some q → t.pledging = some q) : Offspring cfg r t t' := by
  obtain ⟨hw, ht, -, hd, hr⟩ := creates_spec hp
  exact ⟨forall_of_some hp h, forall_of_none hw, forall_of_none hd, by simp [hr],
    forall_of_none ht, hpd, fun _ h => absurd h (recovered_ne_some hr)⟩

theorem Offspring.of_works (hp : t'.works = some p) (h : Owns cfg r t p ∨ p = r.next)
    (hd : t'.deletes = some p →
      t.deletes = some p ∨ (t = .asyncDelete p .start ∧ r.Current p ∧ r.deleter (r.uid p) ≠ some p))
    (he : t'.retries = some p → t.retries = some p ∨ ∃ req, t = .call (.create req)) :
    Offspring cfg r t t' := by
  obtain ⟨hc, hr⟩ := works_spec hp
  have hn := names_of_works hp
  refine ⟨forall_of_none hc, forall_of_some hp h, ?_, by simp [hr], ?_, ?_,
    fun _ h => absurd h (recovered_ne_some hr)⟩
  · exact forall_of_names hn (fun hq => names_of_works (works_of_deletes hq)) hd
  · exact forall_of_names hn (fun hq => names_of_works (works_of_retries hq)) he
  · intro q hq
    rw [creates_of_pledge hq] at hc
    cases hc

theorem TaskOk.asyncDelete_start (hlt : p < r.next) (hc : r.Covered p) :
    TaskOk cfg r (.asyncDelete p .start) :=
  .of_works rfl hlt trivial nofun nofun (fun _ => hc) nofun

theorem Apart.of_works {q : Ref} (hp : t.works = some p) (hq : t'.works = some q)
    (hd : t.deletes = none) : Apart t t' := by
  obtain ⟨hc, hr⟩ := works_spec hp
  obtain ⟨hc', -⟩ := works_spec hq
  exact ⟨by simp [hc], by simp [hc], by simp [hc'], by simp [hd], by simp [hr]⟩

end

/-! ## Sections -/

/-- The section of `t` makes one move, and the tasks it leaves rest on what they may rely on. -/
structure Section (cfg : Config) (m : Manager) (t : Task) (out : Manager × List Task) : Prop where
  move : Move cfg t m.registry out.1.registry
  apart : out.2.Pairwise Apart
  next : ∀ t' ∈ out.2, Offspring cfg m.registry t t' ∧ TaskOk cfg out.1.registry t'
  logged : Logged cfg m t out.1

/-- That is what `t` does in a valid registry, if it rests on what it relies on. -/
abbrev Sound (cfg : Config) (m : Manager) (t : Task) (out : Manager × List Task) : Prop :=
  m.registry.Valid → TaskOk cfg m.registry t → Section cfg m t out

variable {r : Registry} {cfg : Config}

theorem Move.cleared {t : Task} {p : Ref} (ho : Owns cfg r t p) (hu : r.Current p)
    (hc : r.Covered p) : Move cfg t r (r.clear (r.uid p)) := by
  have hm : Move cfg t r ((r.clear (r.uid p)).setPhase p ((r.clear (r.uid p)).phase p)) :=
    .deleteCleared p (r.phase p) ho hu hc (.inl rfl)
  rwa [setPhase_self] at hm

theorem Registry.Creating.build {p : Ref} {phase : Phase} (h : r.Creating cfg p)
    (hne : r.phase p ≠ .terminating) (hp : placeholderPhase phase) :
    (r.setPhase p phase).Creating cfg p where
  current := h.current
  phase := by
    rw [phase_setPhase_self]
    exact hp
  covered hc := absurd (h.covered hc) hne
  pending hc := absurd (h.covered hc) hne

theorem Move.of_eq {t : Task} {r' : Registry} (h : r' = r) : Move cfg t r r' := by
  rw [h]
  exact .same

namespace Section

variable {cfg : Config} {m m' : Manager} {t t' : Task} {ts : List Task} {p : Ref}

theorem nil (h : Move cfg t m.registry m'.registry) (hl : Logged cfg m t m') :
    Section cfg m t (m', []) :=
  ⟨h, .nil, fun _ ht' => absurd ht' List.not_mem_nil, hl⟩

theorem one (h : Move cfg t m.registry m'.registry) (ho : Offspring cfg m.registry t t')
    (hk : TaskOk cfg m'.registry t') (hl : Logged cfg m t m') : Section cfg m t (m', [t']) := by
  refine ⟨h, List.pairwise_singleton _ _, ?_, hl⟩
  intro u hu
  rw [List.mem_singleton.mp hu]
  exact ⟨ho, hk⟩

theorem step {r' : Registry} (he : m'.registry = r') (h : Move cfg t m.registry r')
    (ho : Offspring cfg m.registry t t') (hk : TaskOk cfg r' t') (hl : Logged cfg m t m') :
    Section cfg m t (m', [t']) := by
  subst he
  exact one h ho hk hl

theorem inert (h : Move cfg t m.registry m'.registry) (hs : ∀ t' ∈ ts, t'.Inert)
    (hl : Logged cfg m t m') : Section cfg m t (m', ts) := by
  refine ⟨h, ?_, fun t' ht' => ⟨(hs t' ht').offspring, (hs t' ht').taskOk⟩, hl⟩
  exact List.pairwise_of_forall_mem_list fun a ha b _ => (hs a ha).apart b

theorem inert_one (h : Move cfg t m.registry m'.registry) (ht' : t'.Inert)
    (hl : Logged cfg m t m') : Section cfg m t (m', [t']) :=
  one h ht'.offspring ht'.taskOk hl

theorem stop : Section cfg m t (m, []) := nil .same (.still rfl)

theorem idle (ht' : t'.Inert) : Section cfg m t (m, [t']) := inert_one .same ht' (.still rfl)

theorem cons_inert (h : Section cfg m t (m', [t'])) (ht : ∀ u ∈ ts, u.Inert) :
    Section cfg m t (m', t' :: ts) := by
  refine ⟨h.move, List.pairwise_cons.mpr ⟨?_, ?_⟩, ?_, h.logged⟩
  · exact fun u hu => ((ht u hu).apart t').symm
  · exact List.pairwise_of_forall_mem_list fun a ha b _ => (ht a ha).apart b
  intro u hu
  rcases List.mem_cons.mp hu with rfl | hu
  · exact h.next u List.mem_cons_self
  · exact ⟨(ht u hu).offspring, (ht u hu).taskOk⟩

/-- The task goes on creating its record. -/
theorem creates (ht : TaskOk cfg m.registry t) (hp : t.creates = some p) (hp' : t'.creates = some p)
    (he : m'.registry = m.registry) (hb : t'.Bound cfg m.registry)
    (hd : t'.discards = some p → t.discards = some p)
    (hpd : ∀ q, t'.pledge = some q → t.pledging = some q) (hl : Logged cfg m t m') :
    Section cfg m t (m', [t']) := by
  have hc := ht.creates p hp
  refine one (.of_eq he) (.of_creates hp' (.inl hp) hpd) ?_ hl
  rw [he]
  exact .of_creates hp' (ht.named p (names_of_creates hp)) hc hb
    fun h => ht.discards p (hd h) hc.current

/-- The task goes on, or turns to working, on its record. -/
theorem works (ht : TaskOk cfg m.registry t) (hp : t.creates = some p ∨ t.works = some p)
    (hp' : t'.works = some p) (he : m'.registry = m.registry) (hb : t'.Bound cfg m.registry)
    (hd : t'.discards = some p → t.discards = some p)
    (hr : t'.retries = some p → t.retries = some p) (hs : t'.ends = some p → t.ends = some p)
    (hdl : t'.deletes = some p → t.deletes = some p)
    (hl : Logged cfg m t m') : Section cfg m t (m', [t']) := by
  have hn : t.names = some p := hp.elim names_of_creates names_of_works
  refine one (.of_eq he) (.of_works hp' (.inl (hp.imp_right .inl))
    (fun h => .inl (hdl h)) fun h => .inl (hr h)) ?_ hl
  rw [he]
  exact .of_works hp' (ht.named p hn) hb (fun h => ht.discards p (hd h))
    (fun h => ht.retries p (hr h)) (fun h => ht.ends p (hs h))
    fun h => ht.deletes p (hdl h)

end Section

end FastSandbox.Fastlet
