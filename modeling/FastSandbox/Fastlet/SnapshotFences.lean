import FastSandbox.Fastlet.Finality
import FastSandbox.Fastlet.Snapshots

/-!
# Exclusion between the snapshot tasks of a Fastlet

Both fences of `CreateSnapshot` look only at the tasks in the table. They exclude every other task
as long as no task that still runs is missing from the table: `Tracked`. Only a failed cleanup can
break that, when it puts the old task back over one that was admitted under the same UID in the
meantime.
-/

namespace FastSandbox.Fastlet

open AList Option List Nat
open Function Interleaving

/-! ## The property and the invariant -/

/-- A task that will publish under this template name. -/
def SnapshotTask.HoldsName (task : SnapshotTask) (templateName : String) : Prop :=
  task.phase.terminal = false ∧ task.kind ≠ .checkpoint ∧ task.templateName = templateName ∧
    templateName ≠ ""

/-- At most one task per Sandbox is in its pause window, and at most one per template name is still
to terminate. All tasks count, those that the table no longer holds included. -/
structure SnapshotsExclusive (s : SnapshotTable) : Prop where
  pause : ∀ p q, p < s.next → q < s.next → holdsPauseWindow (s.tasks p).phase →
    holdsPauseWindow (s.tasks q).phase →
    (s.tasks p).identity.sandbox.sandboxUID = (s.tasks q).identity.sandbox.sandboxUID → p = q
  name : ∀ p q templateName, p < s.next → q < s.next → (s.tasks p).HoldsName templateName →
    (s.tasks q).HoldsName templateName → p = q

/-- The table knows every task that still runs, under its own UID. -/
structure Tracked (s : SnapshotTable) : Prop where
  bound : ∀ uid p, s.lookup uid = some p → p < s.next
  present : ∀ p, p < s.next → (s.tasks p).phase.terminal = false →
    s.lookup (s.tasks p).identity.snapshotUID = some p
  exclusive : SnapshotsExclusive s

/-- What a worker may do to its task: it never goes back into the window or out of a terminal
phase. -/
structure Forward (before after : SnapshotTask) : Prop where
  identity : after.identity = before.identity
  kind : after.kind = before.kind
  templateName : after.templateName = before.templateName
  window : holdsPauseWindow after.phase → holdsPauseWindow before.phase
  live : after.phase.terminal = false → before.phase.terminal = false

theorem Forward.refl (task : SnapshotTask) : Forward task task :=
  ⟨rfl, rfl, rfl, fun h => h, fun h => h⟩

theorem Forward.holdsName {before after : SnapshotTask} {templateName : String}
    (h : Forward before after) (hn : after.HoldsName templateName) :
    before.HoldsName templateName := by
  obtain ⟨hl, hk, he, hne⟩ := hn
  exact ⟨h.live hl, h.kind ▸ hk, h.templateName ▸ he, hne⟩

theorem holdsPauseWindow_live {phase : SnapshotPhase} (h : holdsPauseWindow phase) :
    phase.terminal = false := by
  cases phase <;> first | rfl | cases h

/-! ## The operations keep the invariant -/

namespace Tracked

variable {s s' : SnapshotTable} (h : Tracked s)
include h

theorem of_forward (hn : s'.next = s.next) (ha : s'.snapshots = s.snapshots)
    (hf : ∀ q, Forward (s.tasks q) (s'.tasks q)) : Tracked s' := by
  have hl : ∀ uid, s'.lookup uid = s.lookup uid := fun uid => by
    rw [SnapshotTable.lookup, ha]
    rfl
  refine ⟨?_, ?_, ⟨?_, ?_⟩⟩
  · intro uid p hp
    rw [hn]
    exact h.bound uid p (hl uid ▸ hp)
  · intro p hp hv
    rw [hl, (hf p).identity]
    exact h.present p (hn ▸ hp) ((hf p).live hv)
  · intro p q hp hq hw hwq hu
    rw [(hf p).identity, (hf q).identity] at hu
    exact h.exclusive.pause p q (hn ▸ hp) (hn ▸ hq) ((hf p).window hw) ((hf q).window hwq) hu
  · intro p q templateName hp hq hnp hnq
    exact h.exclusive.name p q templateName (hn ▸ hp) (hn ▸ hq) ((hf p).holdsName hnp)
      ((hf q).holdsName hnq)

theorem write (e : SnapshotEntry) : Tracked (s.write e) :=
  h.of_forward rfl rfl fun q => Forward.refl (s.tasks q)

variable {p : Ref}

theorem modify {f : SnapshotTask → SnapshotTask}
    (hf : Forward (s.tasks p) (f (s.tasks p))) : Tracked (s.modify p f) := by
  refine h.of_forward rfl rfl fun q => ?_
  by_cases hq : q = p
  · subst hq
    simpa [SnapshotTable.modify] using hf
  · simpa [SnapshotTable.modify, hq] using Forward.refl (s.tasks q)

theorem drop {uid : String} (hp : s.lookup uid = some p)
    (he : (s.tasks p).phase.terminal) : Tracked (s.drop uid) := by
  refine ⟨?_, ?_, ⟨h.exclusive.pause, h.exclusive.name⟩⟩
  · intro uid' q hq
    have hne : uid' ≠ uid := by
      rintro rfl
      simp [SnapshotTable.lookup, SnapshotTable.drop] at hq
    refine h.bound uid' q ?_
    rwa [SnapshotTable.lookup, SnapshotTable.drop, lookup_erase_ne hne] at hq
  · intro q hq hl
    have hs := h.present q hq hl
    have hne : (s.tasks q).identity.snapshotUID ≠ uid := by
      intro heq
      rw [heq, hp] at hs
      cases hs
      exact absurd hl (by simp [SnapshotTable.drop, he])
    rw [SnapshotTable.lookup, SnapshotTable.drop, lookup_erase_ne hne]
    exact hs

theorem restore {uid : String} (hf : s.lookup uid = none) (hp : p < s.next) :
    Tracked (s.restore uid p) := by
  refine ⟨?_, ?_, ⟨h.exclusive.pause, h.exclusive.name⟩⟩
  · intro uid' q hq
    by_cases hne : uid' = uid
    · subst hne
      rw [SnapshotTable.lookup, SnapshotTable.restore, lookup_insert] at hq
      cases hq
      exact hp
    · rw [SnapshotTable.lookup, SnapshotTable.restore, lookup_insert_ne hne] at hq
      exact h.bound uid' q hq
  · intro q hq hl
    have hs := h.present q hq hl
    have hne : (s.tasks q).identity.snapshotUID ≠ uid := by
      intro heq
      rw [heq, hf] at hs
      cases hs
    rw [SnapshotTable.lookup, SnapshotTable.restore, lookup_insert_ne hne]
    exact hs

theorem mem_managed (hp : p < s.next) (hl : (s.tasks p).phase.terminal = false) :
    s.tasks p ∈ s.managed := by
  have hs := h.present p hp hl
  refine mem_map.mpr ⟨⟨_, p⟩, mem_lookup_iff.mp hs, rfl⟩

variable {request : CreateSnapshotRequest}

theorem fenced (hf : snapshotFenceFailure s request = none) :
    (∀ p, p < s.next → holdsPauseWindow (s.tasks p).phase →
      (s.tasks p).identity.sandbox.sandboxUID ≠ request.identity.sandbox.sandboxUID) ∧
    ∀ p, p < s.next → (s.tasks p).phase.terminal = false → request.kind ≠ .checkpoint →
      request.templateName ≠ "" → (s.tasks p).templateName ≠ request.templateName := by
  unfold snapshotFenceFailure at hf
  split at hf
  · cases hf
  rename_i hn
  split at hf
  · cases hf
  rename_i hm
  refine ⟨?_, ?_⟩
  · intro p hp hw hu
    refine hn (any_eq_true.mpr ⟨_, h.mem_managed hp (holdsPauseWindow_live hw), ?_⟩)
    simp [hu, hw]
  · intro p hp hl hk hne he
    refine hm ⟨⟨hk, hne⟩, any_eq_true.mpr ⟨_, h.mem_managed hp hl, ?_⟩⟩
    simp [hl, he]

theorem install {snapshotID : String} (hr : s.lookup request.identity.snapshotUID = none)
    (hf : snapshotFenceFailure s request = none) :
    Tracked (s.install (newSnapshotTask request snapshotID)) := by
  obtain ⟨hw, hnm⟩ := h.fenced hf
  have hnew : (s.install (newSnapshotTask request snapshotID)).tasks s.next =
      newSnapshotTask request snapshotID := update_self ..
  have hold : ∀ q, q ≠ s.next →
      (s.install (newSnapshotTask request snapshotID)).tasks q = s.tasks q := fun q hq =>
    update_of_ne hq ..
  -- a task of the new table is an old one or the new one
  have ha : ∀ q, q < (s.install (newSnapshotTask request snapshotID)).next →
      q = s.next ∨ (q ≠ s.next ∧ q < s.next) := fun q hq => by
    rcases Nat.lt_succ_iff_lt_or_eq.mp hq with hlt | heq
    · exact .inr ⟨hlt.ne, hlt⟩
    · exact .inl heq
  refine ⟨?_, ?_, ⟨?_, ?_⟩⟩
  · intro uid p hp
    by_cases hu : uid = request.identity.snapshotUID
    · subst hu
      rw [SnapshotTable.lookup, SnapshotTable.install] at hp
      simp only [newSnapshotTask, lookup_insert, some.injEq] at hp
      subst hp
      exact lt_succ_self _
    · rw [SnapshotTable.lookup, SnapshotTable.install] at hp
      simp only [newSnapshotTask, lookup_insert_ne hu] at hp
      exact (h.bound uid p hp).trans (lt_succ_self _)
  · intro p hp hv
    rcases ha p hp with rfl | ⟨hne, hlt⟩
    · rw [hnew]
      exact lookup_insert _
    rw [hold p hne] at hv ⊢
    have hs := h.present p hlt hv
    have hu : (s.tasks p).identity.snapshotUID ≠ request.identity.snapshotUID := by
      intro heq
      rw [heq, hr] at hs
      cases hs
    exact (lookup_insert_ne hu).trans hs
  · intro p q hp hq hwp hwq hu
    rcases ha p hp with rfl | ⟨hnp, hl⟩ <;> rcases ha q hq with rfl | ⟨hnq, hlq⟩
    · rfl
    · rw [hold q hnq] at hwq hu
      rw [hnew] at hu
      exact absurd hu.symm (hw q hlq hwq)
    · rw [hold p hnp] at hwp hu
      rw [hnew] at hu
      exact absurd hu (hw p hl hwp)
    · rw [hold p hnp] at hwp hu
      rw [hold q hnq] at hwq hu
      exact h.exclusive.pause p q hl hlq hwp hwq hu
  · intro p q templateName hp hq hn hm
    rcases ha p hp with rfl | ⟨hnp, hl⟩ <;> rcases ha q hq with rfl | ⟨hnq, hlq⟩
    · rfl
    · rw [hnew] at hn
      rw [hold q hnq] at hm
      obtain ⟨-, hk, rfl, hne⟩ := hn
      exact absurd hm.2.2.1 (hnm q hlq hm.1 hk hne)
    · rw [hold p hnp] at hn
      rw [hnew] at hm
      obtain ⟨-, hk, rfl, hne⟩ := hm
      exact absurd hn.2.2.1 (hnm p hl hn.1 hk hne)
    · rw [hold p hnp] at hn
      rw [hold q hnq] at hm
      exact h.exclusive.name p q templateName hl hlq hn hm

end Tracked

/-! ## The tasks in flight -/

def SnapshotWork.worker : SnapshotWork → Option Ref
  | .start p | .creating p | .dump p | .result p _ | .finish p _ _ _ => some p
  | .call _ | .cleanup _ _ | .restore _ _ _ => none

/-- What is known of the task at each place. -/
def SnapshotWork.Sound (s : SnapshotTable) : SnapshotWork → Prop
  | .call _ => True
  | .start p | .creating p => p < s.next ∧ (s.tasks p).phase = .pending
  | .dump p | .result p _ => p < s.next ∧ (s.tasks p).phase.terminal = false
  | .finish p phase _ _ => p < s.next ∧ (s.tasks p).phase.terminal = false ∧ phase.terminal
  | .cleanup _ p | .restore _ p _ => p < s.next ∧ (s.tasks p).phase.terminal

/-- No task has two workers. -/
def SnapshotWork.Apart (t u : SnapshotWork) : Prop := ∀ p, t.worker = some p → u.worker ≠ some p

variable {t : SnapshotWork}

theorem SnapshotWork.Sound.worker_lt {s : SnapshotTable} {p : Ref} (h : t.Sound s)
    (hp : t.worker = some p) : p < s.next ∧ (s.tasks p).phase.terminal = false := by
  cases t with
  | start q | creating q =>
    cases hp
    exact ⟨h.1, by rw [h.2]; rfl⟩
  | dump q | result q r =>
    cases hp
    exact h
  | finish =>
    cases hp
    exact ⟨h.1, h.2.1⟩
  | call c | cleanup identity q | restore identity q err => cases hp

/-- A put-back finds the slot of its UID empty. -/
def Undisturbed (_ : Manager) (s : SnapshotTable) : SnapshotWork → SnapshotChoice → Prop
  | .restore identity _ _, _ => s.lookup identity.snapshotUID = none
  | _, _ => True

/-- What a section does: it answers, lets a worker's task go forward, admits a task, drops one, or
puts one back. -/
inductive SnapshotEffect (s : SnapshotTable) (t : SnapshotWork) : SnapshotTable → Prop
  | same : SnapshotEffect s t s
  | answer (e : SnapshotEntry) : SnapshotEffect s t (s.write e)
  | forward (p : Ref) (f : SnapshotTask → SnapshotTask) : t.worker = some p →
      (t.Sound s → Forward (s.tasks p) (f (s.tasks p))) → SnapshotEffect s t (s.modify p f)
  | install (request : CreateSnapshotRequest) (snapshotID : String) (e : SnapshotEntry) :
      s.lookup request.identity.snapshotUID = none → snapshotFenceFailure s request = none →
      SnapshotEffect s t ((s.install (newSnapshotTask request snapshotID)).write e)
  | drop (uid : String) (p : Ref) : s.lookup uid = some p →
      (s.tasks p).phase.terminal → SnapshotEffect s t (s.drop uid)
  | forget (uid : String) (p : Ref) (e : SnapshotEntry) : s.lookup uid = some p →
      (s.tasks p).phase.terminal → SnapshotEffect s t ((s.drop uid).write e)
  | restore (identity : SnapshotIdentity) (p : Ref) (err : String) :
      t = .restore identity p err → SnapshotEffect s t (restoreSnapshot s identity p err)

variable {cfg : SnapshotConfig} {m : Manager} {s s' : SnapshotTable}
  {out : SnapshotTable × List SnapshotWork}

theorem createSnapshot_cases {request : CreateSnapshotRequest} {newID : Except String String}
    (h : createSnapshot cfg m s request newID = out) : (∃ e, out = (s.write e, [])) ∨
      ∃ snapshotID e, s.lookup request.identity.snapshotUID = none ∧
        snapshotFenceFailure s request = none ∧
        out = ((s.install (newSnapshotTask request snapshotID)).write e, [.start s.next]) := by
  subst h
  unfold createSnapshot
  split
  · exact .inl ⟨_, rfl⟩
  split_ifs
  · exact .inl ⟨_, rfl⟩
  · exact .inl ⟨_, rfl⟩
  · exact .inl ⟨_, rfl⟩
  split
  · split <;> exact .inl ⟨_, rfl⟩
  rename_i hr
  split
  · exact .inl ⟨_, rfl⟩
  split
  · exact .inl ⟨_, rfl⟩
  rename_i hf
  cases newID with
  | error => exact .inl ⟨_, rfl⟩
  | ok snapshotID => exact .inr ⟨snapshotID, _, hr, hf, rfl⟩

theorem deleteSnapshot_cases {identity : SnapshotIdentity}
    (h : deleteSnapshot cfg s identity = out) : (∃ e, out = (s.write e, [])) ∨
      ∃ p, s.lookup identity.snapshotUID = some p ∧ (s.tasks p).phase.terminal ∧
        (out = (s.drop identity.snapshotUID, [.cleanup identity p]) ∨
          ∃ e, out = ((s.drop identity.snapshotUID).write e, [])) := by
  subst h
  unfold deleteSnapshot
  split
  · exact .inl ⟨_, rfl⟩
  split
  · exact .inl ⟨_, rfl⟩
  split
  · exact .inl ⟨_, rfl⟩
  rename_i p hp
  split
  · exact .inl ⟨_, rfl⟩
  split
  · exact .inl ⟨_, rfl⟩
  rename_i he
  refine .inr ⟨p, hp, by simpa using he, ?_⟩
  split
  · exact .inl rfl
  · exact .inr ⟨_, rfl⟩

variable {ts : List SnapshotWork}

theorem advanceSnapshot_effect {c : SnapshotChoice}
    (h : advanceSnapshot cfg m s t c = some (s', ts)) : SnapshotEffect s t s' := by
  unfold advanceSnapshot at h
  split at h
  · obtain ⟨e, heq⟩ | ⟨snapshotID, e, hr, hf, heq⟩ := createSnapshot_cases (some.inj h)
    · cases heq
      exact .answer e
    · cases heq
      exact .install _ snapshotID e hr hf
  · cases h
    exact .answer _
  · obtain ⟨e, heq⟩ | ⟨p, hp, he, heq | ⟨e, heq⟩⟩ := deleteSnapshot_cases (some.inj h)
    · cases heq
      exact .answer e
    · cases heq
      exact .drop _ p hp he
    · cases heq
      exact .forget _ p e hp he
  · cases h
    exact .same
  · rename_i p
    cases h
    -- the task was pending, so it held the window before
    refine .forward p _ rfl fun hs => ⟨rfl, rfl, rfl, fun _ => ?_, fun _ => ?_⟩
    all_goals
      rw [hs.2]
      rfl
  · rename_i p
    cases h
    refine .forward p _ rfl fun hs => ⟨rfl, rfl, rfl, fun hw => ?_, fun _ => hs.2⟩
    cases hw
  · cases h
    exact .same
  · rename_i p r
    cases h
    exact .forward p _ rfl fun _ => ⟨rfl, rfl, rfl, fun hw => hw, fun hl => hl⟩
  · rename_i p phase _ _
    cases h
    refine .forward p _ rfl fun hs => ⟨rfl, rfl, rfl, fun hw => ?_, fun hl => ?_⟩
    · have hv : phase.terminal = false := holdsPauseWindow_live hw
      rw [hs.2.2] at hv
      cases hv
    · have hv : phase.terminal = false := hl
      rw [hs.2.2] at hv
      cases hv
  · split at h
    · cases h
      exact .same
    · cases h
      exact .answer _
    · cases h
      exact .answer _
  · cases h
    exact .restore _ _ _ rfl
  · cases h

namespace SnapshotEffect

variable {t u : SnapshotWork}

section

variable (h : SnapshotEffect s t s')
include h

theorem tracked (hs : Tracked s) (ht : t.Sound s)
    (hr : ∀ identity p err, t = .restore identity p err → s.lookup identity.snapshotUID = none) :
    Tracked s' := by
  cases h with
  | same => exact hs
  | answer e => exact hs.write e
  | forward p f _ hf => exact hs.modify (hf ht)
  | install request snapshotID e hr hfe => exact (hs.install hr hfe).write e
  | drop uid p hp he => exact hs.drop hp he
  | forget uid p e hp he => exact (hs.drop hp he).write e
  | restore identity p err heq =>
    have hp : p < s.next := by
      rw [heq] at ht
      exact ht.1
    exact (hs.restore (hr identity p err heq) hp).write _

theorem next_le : s.next ≤ s'.next := by
  cases h with
  | install => exact le_succ _
  | _ => exact le_rfl

theorem tasks_eq {q : Ref} (hq : q < s.next) (hne : t.worker ≠ some q) :
    s'.tasks q = s.tasks q := by
  cases h with
  | forward p f hp =>
    have hqp : q ≠ p := by
      rintro rfl
      exact hne hp
    exact update_of_ne hqp ..
  | install => exact update_of_ne hq.ne ..
  | _ => rfl

theorem frame (ht : t.Sound s) (hu : u.Sound s) (ha : t.Apart u) : u.Sound s' := by
  have hw : ∀ q, u.worker = some q → s'.tasks q = s.tasks q ∧ q < s'.next := by
    intro q hq
    obtain ⟨hlt, -⟩ := hu.worker_lt hq
    exact ⟨h.tasks_eq hlt fun htq => ha q htq hq, hlt.trans_le h.next_le⟩
  have he : ∀ q, q < s.next → (s.tasks q).phase.terminal →
      s'.tasks q = s.tasks q ∧ q < s'.next := by
    intro q hlt hq
    refine ⟨h.tasks_eq hlt fun htq => ?_, hlt.trans_le h.next_le⟩
    have hl := (ht.worker_lt htq).2
    rw [hq] at hl
    cases hl
  cases u with
  | call => trivial
  | start q | creating q | dump q | result q r =>
    obtain ⟨heq, hlt⟩ := hw q rfl
    exact ⟨hlt, by rw [heq]; exact hu.2⟩
  | finish q =>
    obtain ⟨heq, hlt⟩ := hw q rfl
    exact ⟨hlt, by rw [heq]; exact hu.2.1, hu.2.2⟩
  | cleanup identity q | restore identity q err =>
    obtain ⟨heq, hlt⟩ := he q hu.1 hu.2
    exact ⟨hlt, by rw [heq]; exact hu.2⟩

end

end SnapshotEffect

theorem advanceSnapshot_next {c : SnapshotChoice} (hs : Tracked s) (ht : t.Sound s)
    (h : advanceSnapshot cfg m s t c = some (s', ts)) : ts.length ≤ 1 ∧ ∀ t' ∈ ts, t'.Sound s' ∧
      ∀ p, t'.worker = some p → t.worker = some p ∨ p = s.next := by
  have ho : ∀ {t' : SnapshotWork}, t'.Sound s' →
      (∀ p, t'.worker = some p → t.worker = some p ∨ p = s.next) →
      [t'].length ≤ 1 ∧ ∀ t'' ∈ [t'], t''.Sound s' ∧
        ∀ p, t''.worker = some p → t.worker = some p ∨ p = s.next := by
    intro t' hso hw
    refine ⟨le_rfl, fun t'' ht'' => ?_⟩
    rw [mem_singleton.mp ht'']
    exact ⟨hso, hw⟩
  unfold advanceSnapshot at h
  split at h
  · obtain ⟨e, heq⟩ | ⟨_, e, -, -, heq⟩ := createSnapshot_cases (some.inj h)
    · cases heq
      simp
    · cases heq
      refine ho ⟨lt_succ_self _, ?_⟩ fun p hp => .inr (some.inj hp).symm
      simp [SnapshotTable.write, SnapshotTable.install, newSnapshotTask]
  · cases h
    simp
  · obtain ⟨e, heq⟩ | ⟨p, hp, he, heq | ⟨e, heq⟩⟩ := deleteSnapshot_cases (some.inj h)
    · cases heq
      simp
    · cases heq
      exact ho ⟨hs.bound _ p hp, he⟩ nofun
    · cases heq
      simp
  · rename_i p
    cases h
    have hl : (s.tasks p).phase.terminal = false := by rw [ht.2]; rfl
    have ha : startSnapshot m s p = .creating p ∨ startSnapshot m s p =
        .finish p .failed "" "target Sandbox is no longer running on this Fastlet" := by
      unfold startSnapshot
      split
      · split
        · exact .inl rfl
        · exact .inr rfl
      · exact .inr rfl
    rcases ha with heq | heq <;> rw [heq]
    · exact ho ht fun q hq => .inl hq
    · exact ho ⟨ht.1, hl, rfl⟩ fun q hq => .inl hq
  · rename_i p
    cases h
    refine ho ⟨ht.1, ?_⟩ fun q hq => .inl hq
    simp [SnapshotTable.modify, SnapshotTask.setPhase, SnapshotPhase.terminal]
  · rename_i p
    cases h
    refine ho ⟨ht.1, ?_⟩ fun q hq => .inl hq
    simp [SnapshotTable.modify, SnapshotTask.setPhase, SnapshotPhase.terminal]
  · rename_i p result
    cases h
    rcases result with err | _ | r
    · exact ho ⟨ht.1, ht.2, rfl⟩ fun q hq => .inl hq
    · exact ho ⟨ht.1, ht.2, rfl⟩ fun q hq => .inl hq
    · exact ho ht fun q hq => .inl hq
  · rename_i p r
    cases h
    refine ho ⟨ht.1, ?_, rfl⟩ fun q hq => .inl hq
    simpa [SnapshotTable.modify] using ht.2
  · cases h
    simp
  · split at h
    · cases h
      exact ho ht nofun
    · cases h
      simp
    · cases h
      simp
  · cases h
    simp
  · cases h

theorem snapshotOutline (cfg : SnapshotConfig) (m : Manager) :
    System.Outline ⟨SnapshotWork.call, advanceSnapshot cfg m⟩ (Undisturbed m) Tracked
      (fun s t => t.Sound s) SnapshotWork.Apart where
  symm hC p hu ht := hC p ht hu
  entry_holds _ _ := trivial
  entry_compat _ _ _ h := nomatch h
  local_step := by
    intro s s' t c ts hs ht hG h
    obtain ⟨hl, hn⟩ := advanceSnapshot_next hs ht h
    refine ⟨?_, fun t' ht' => (hn t' ht').1, ?_⟩
    · refine (advanceSnapshot_effect h).tracked hs ht ?_
      rintro _ p _ rfl
      exact hG
    · match ts, hl with
      | [], _ => exact .nil
      | [t'], _ => exact pairwise_singleton _ _
  frame_step := by
    intro s s' t u c ts hs ht hu hC hG h
    obtain ⟨-, hn⟩ := advanceSnapshot_next hs ht h
    refine ⟨(advanceSnapshot_effect h).frame ht hu hC, ?_⟩
    intro t' ht' p hp hup
    rcases (hn t' ht').2 p hp with htp | rfl
    · exact hC p htp hup
    · exact absurd (hu.worker_lt hup).1 (lt_irrefl _)

theorem tracked_start (cfg : SnapshotConfig) (instances : List String) :
    System.Holds (fun s : Manager × SnapshotTable => Tracked s.2)
      (System.onSecond fun s t => t.Sound s) (System.amongSecond SnapshotWork.Apart)
      (snapshotStart cfg instances) where
  inv := by
    refine ⟨?_, ?_, ⟨?_, ?_⟩⟩
    · intro _ p hp
      cases hp
    all_goals
      intro p
      intros
      exact absurd ‹p < _› (not_lt_zero p)
  task := by
    intro t ht
    obtain ⟨_, -, rfl⟩ := mem_map.mp ht
    trivial
  compat := pairwise_map.mpr (pairwise_of_forall fun _ _ => trivial)

/-- The condition on a step of the combined system. -/
def RestoresUndisturbed (s : Manager × SnapshotTable) :
    Task ⊕ SnapshotWork → Choice ⊕ SnapshotChoice → Prop
  | .inr t, .inr c => Undisturbed s.1 s.2 t c
  | _, _ => True

/-- Snapshot tasks exclude each other in every run in which a failed cleanup finds the slot of its
UID empty. -/
theorem snapshots_exclusive (cfg : SnapshotConfig) (instances : List String)
    {w : World (Manager × SnapshotTable) (Task ⊕ SnapshotWork)}
    (hreaches : (snapshotSystem cfg).Reaches RestoresUndisturbed (snapshotStart cfg instances) w) :
    SnapshotsExclusive w.shared.2 :=
  ((System.Outline.beside (snapshotOutline cfg) (fun _ _ _ h => h)
    (newSandboxManager cfg.fastlet [])).reaches (tracked_start cfg instances)
    hreaches).inv.exclusive

instance (s : Manager × SnapshotTable) (t : Task ⊕ SnapshotWork) (c : Choice ⊕ SnapshotChoice) :
    Decidable (RestoresUndisturbed s t c) := by
  unfold RestoresUndisturbed Undisturbed
  split
  · split <;> infer_instance
  · infer_instance

def snapshotConfig : SnapshotConfig where
  fastlet := smallConfig

def sampleSnapshot (uid : String) : CreateSnapshotRequest where
  identity := {
    snapshotUID := uid, snapshotNamespace := "default", name := uid, sandbox := sampleIdentity }
  templateName := "template"

/-- One Sandbox runs, and a snapshot of it has failed. -/
def failedSnapshot : List (Event (Call ⊕ SnapshotCall) (Choice ⊕ SnapshotChoice)) :=
  sampleCreation.map (Event.map .inl .inl) ++
    [.spawn (.inr (.create (sampleSnapshot "snapshot-1"))), .run 0 (.inr (.newID (.ok "id-1"))),
      .run 0 (.inr .go), .run 0 (.inr .go), .run 0 (.inr (.dumped (.error ⟨"no space", true⟩))),
      .run 0 (.inr .go)]

/-- The failed snapshot is deleted, its cleanup fails as well, and the request is delivered again
only after the task has been put back: the answer is the old task, and a snapshot under another UID
is admitted alone. -/
theorem snapshots_exclusive_retry : ∃ w : World (Manager × SnapshotTable) (Task ⊕ SnapshotWork),
      SnapshotsExclusive w.shared.2 ∧ w.shared.2.next = 2 ∧
        holdsPauseWindow (w.shared.2.tasks 1).phase = true := by
  obtain ⟨w, hr, ht⟩ := System.exists_reaches_of_runMeeting (S := snapshotSystem snapshotConfig)
    (G := RestoresUndisturbed) (w := snapshotStart snapshotConfig [])
    (failedSnapshot ++
      [.spawn (.inr (.delete (sampleSnapshot "snapshot-1").identity)), .run 0 (.inr .go),
        .run 0 (.inr (.cleaned (some ("timeout", false)))), .run 0 (.inr .go),
        .spawn (.inr (.create (sampleSnapshot "snapshot-1"))),
        .run 0 (.inr (.newID (.ok "id-2"))),
        .spawn (.inr (.create (sampleSnapshot "snapshot-2"))),
        .run 0 (.inr (.newID (.ok "id-3")))])
    (fun w => decide (w.shared.2.next = 2 ∧
      holdsPauseWindow (w.shared.2.tasks 1).phase = true)) (by decide)
  exact ⟨w, snapshots_exclusive snapshotConfig [] hr, of_decide_eq_true ht⟩

/-- While the artifacts of a failed snapshot are cleaned up its request is delivered again and a
second task is admitted under its UID. The cleanup fails and puts the old task back, so the second
one leaves the table while it still dumps, and a third task is admitted for the same Sandbox and
the same template name. -/
theorem snapshots_overlap_after_restore :
    ¬ ∀ w, (snapshotSystem snapshotConfig).Reaches System.anyStep
      (snapshotStart snapshotConfig []) w → SnapshotsExclusive w.shared.2 := by
  refine System.not_forall_reaches
    (fun w => decide (¬ (w.shared.2.next = 3 ∧
      holdsPauseWindow (w.shared.2.tasks 1).phase = true ∧
      holdsPauseWindow (w.shared.2.tasks 2).phase = true ∧
      (w.shared.2.tasks 1).identity.sandbox.sandboxUID =
        (w.shared.2.tasks 2).identity.sandbox.sandboxUID)))
    ?_ (snapshotStart snapshotConfig [])
    (failedSnapshot ++
      [.spawn (.inr (.delete (sampleSnapshot "snapshot-1").identity)), .run 0 (.inr .go),
        .spawn (.inr (.create (sampleSnapshot "snapshot-1"))),
        .run 1 (.inr (.newID (.ok "id-2"))), .run 1 (.inr .go), .run 1 (.inr .go),
        .run 0 (.inr (.cleaned (some ("timeout", false)))), .run 0 (.inr .go),
        .spawn (.inr (.create (sampleSnapshot "snapshot-2"))),
        .run 1 (.inr (.newID (.ok "id-3")))]) (by decide)
  intro w hw
  refine decide_eq_true ?_
  rintro ⟨he, h₁, h₂, hu⟩
  have hlt : ∀ n : ℕ, n < 3 → n < w.shared.2.next := fun n hn => he ▸ hn
  exact absurd (hw.pause 1 2 (hlt 1 (by decide)) (hlt 2 (by decide)) h₁ h₂ hu) (by decide)

end FastSandbox.Fastlet
