import FastSandbox.Fastlet.System

/-!
# The registry of Sandboxes

An abstract view of the manager: which record stands under a UID, the phase of every record, the
tombstones, and the instances of the runtime. `Move` lists all that a section can do to it. What
the tasks may rely on is said by three relations between a task and a record: it is creating the
record, it was started when the record's creation was over, or it is the record's delete worker.
-/

namespace FastSandbox.Fastlet

open Function

/-- What the manager knows of its records, by UID and by reference. -/
structure Registry where
  entry : String → Option Ref
  next : Ref
  config : Ref → RuntimeSandboxConfig
  phase : Ref → Phase
  tombstone : String → Option SandboxIdentity
  deleter : String → Option Ref
  pending : String → Bool
  instances : List String
  recovering : Bool

/-- The registry a manager implements. -/
def Manager.registry (m : Manager) : Registry where
  entry := m.lookup
  next := m.next
  config := m.config
  phase := m.phase
  tombstone := m.tombstones
  deleter := m.deleteWorkers
  pending := m.createDeletePending
  instances := m.instances
  recovering := m.recovering

/-! ## Fences -/

/-- The order of deletion fences. -/
def SandboxIdentity.rank (i : SandboxIdentity) : ℤ ×ₗ ℤ :=
  toLex (i.instanceGeneration, i.assignmentAttempt)

theorem identityAtOrBefore_iff (i high : SandboxIdentity) :
    identityAtOrBefore i.instanceGeneration i.assignmentAttempt high ↔ i.rank ≤ high.rank := by
  unfold identityAtOrBefore SandboxIdentity.rank
  rw [Prod.Lex.toLex_le_toLex]
  simp

/-- The identity is at or before the tombstone. -/
def covers (tombstone : Option SandboxIdentity) (i : SandboxIdentity) : Prop :=
  ∃ high, tombstone = some high ∧ i.rank ≤ high.rank

theorem covers_of_rank_le {tombstone : Option SandboxIdentity} {i j : SandboxIdentity}
    (h : covers tombstone j) (hle : i.rank ≤ j.rank) : covers tombstone i := by
  obtain ⟨high, hh, hj⟩ := h
  exact ⟨high, hh, hle.trans hj⟩

section

variable {tombstone : String → Option SandboxIdentity} {i j : SandboxIdentity} {uid : String}

theorem bury_cases (tombstone : String → Option SandboxIdentity) (i : SandboxIdentity) :
    (bury tombstone i = tombstone ∧ covers (tombstone i.sandboxUID) i) ∨
      (bury tombstone i = update tombstone i.sandboxUID (some i) ∧
        ¬ covers (tombstone i.sandboxUID) i) := by
  unfold bury
  cases tombstone i.sandboxUID with
  | none =>
    refine .inr ⟨rfl, ?_⟩
    rintro ⟨high, hh, -⟩
    cases hh
  | some current =>
    have hlt : current.rank < i.rank ↔ current.instanceGeneration < i.instanceGeneration ∨
        (current.instanceGeneration = i.instanceGeneration ∧
          current.assignmentAttempt < i.assignmentAttempt) := Prod.Lex.toLex_lt_toLex
    simp only [← hlt]
    split_ifs with h
    · refine .inr ⟨rfl, ?_⟩
      rintro ⟨high, hh, hle⟩
      cases hh
      exact absurd hle (not_le.mpr h)
    · exact .inl ⟨rfl, current, rfl, not_lt.mp h⟩

theorem bury_of_ne (h : uid ≠ i.sandboxUID) : bury tombstone i uid = tombstone uid := by
  rcases bury_cases tombstone i with ⟨hb, -⟩ | ⟨hb, -⟩
  · rw [hb]
  · rw [hb, update_of_ne h]

theorem bury_of_covers (h : covers (tombstone i.sandboxUID) i) : bury tombstone i = tombstone := by
  rcases bury_cases tombstone i with ⟨hb, -⟩ | ⟨-, hn⟩
  · exact hb
  · exact absurd h hn

theorem covers_bury_self (tombstone : String → Option SandboxIdentity) (i : SandboxIdentity) :
    covers (bury tombstone i i.sandboxUID) i := by
  rcases bury_cases tombstone i with ⟨hb, hc⟩ | ⟨hb, -⟩
  · rwa [hb]
  · rw [hb, update_self]
    exact ⟨i, rfl, le_refl _⟩

theorem covers_bury (h : covers (tombstone uid) j) : covers (bury tombstone i uid) j := by
  by_cases hu : uid = i.sandboxUID
  · subst hu
    rcases bury_cases tombstone i with ⟨hb, -⟩ | ⟨hb, hn⟩
    · rwa [hb]
    · rw [hb, update_self]
      obtain ⟨high, hh, hle⟩ := h
      refine ⟨i, rfl, hle.trans (not_lt.mp fun hlt => hn ⟨high, hh, hlt.le⟩)⟩
  · rwa [bury_of_ne hu]

end

/-! ## Operations -/

namespace Registry

def uid (r : Registry) (p : Ref) : String := (r.config p).identity.sandboxUID

/-- The record stands under its UID. -/
def Current (r : Registry) (p : Ref) : Prop := r.entry (r.uid p) = some p

/-- The record's identity has been deleted. -/
def Covered (r : Registry) (p : Ref) : Prop := covers (r.tombstone (r.uid p)) (r.config p).identity

def setPhase (r : Registry) (p : Ref) (phase : Phase) : Registry :=
  { r with phase := update r.phase p phase }

def install (r : Registry) (config : RuntimeSandboxConfig) (phase : Phase) : Registry :=
  { r with
    config := update r.config r.next config
    phase := update r.phase r.next phase
    next := r.next + 1
    entry := update r.entry config.identity.sandboxUID (some r.next) }

def clear (r : Registry) (uid : String) : Registry :=
  { r with pending := update r.pending uid false }

def drop (r : Registry) (uid : String) : Registry :=
  { r.clear uid with entry := update r.entry uid none }

/-- An accepted Delete of a managed record. -/
def accept (r : Registry) (strictActions : Bool) (p : Ref) (i : SandboxIdentity) : Registry :=
  { r with
    phase := update r.phase p .terminating
    pending :=
      if strictActions && creatingPhase (r.phase p) then
        update r.pending (r.uid p) true
      else r.pending
    tombstone := bury r.tombstone i }

/-- The records a recovery adopts. -/
def adopt (r : Registry) : List SandboxMetadata → Registry
  | [] => r
  | record :: rest => (r.install record.config record.phase).adopt rest

end Registry

/-! ## Tasks and records -/

/-- The phases of a record whose deletion was accepted, as the deletion itself sets them. -/
def deletingPhase : Phase → Bool
  | .terminating | .deleting | .deleteFailed => true
  | _ => false

/-- The phases of a record that is never put to use again. -/
def endingPhase : Phase → Bool
  | .terminating | .deleting | .deleteFailed | .createCleanup | .createCleanupFailed => true
  | _ => false

/-- The phases of a placeholder. -/
def placeholderPhase : Phase → Bool
  | .creating | .imagePending | .terminating => true
  | _ => false

section

variable {phase : Phase}

theorem ending_of_deleting (h : deletingPhase phase) : endingPhase phase := by
  cases phase <;> first | rfl | cases h

theorem ending_of_created (h : runtimeCreatedPhase phase) : endingPhase phase = false := by
  cases phase <;> first | rfl | cases h

theorem created_of_ending (h : endingPhase phase) : runtimeCreatedPhase phase = false := by
  cases phase <;> first | rfl | cases h

theorem placeholder_of_created (h : runtimeCreatedPhase phase) :
    placeholderPhase phase = false := by
  cases phase <;> first | rfl | cases h

theorem terminating_of_placeholder (h : placeholderPhase phase)
    (he : creatingPhase phase = false) : phase = .terminating := by
  cases phase <;> first | rfl | exact absurd he (by decide) | cases h

end

namespace Registry

def strict (cfg : Config) (r : Registry) (p : Ref) : Bool :=
  requiresStrictActionHandling cfg (r.config p).actionsAPIVersion

/-- What a creation in flight may rely on: its placeholder is managed, and an accepted Delete has
marked it and, where the owner is retired first, left the cleanup to the creation. -/
structure Creating (cfg : Config) (r : Registry) (p : Ref) : Prop where
  current : r.Current p
  phase : placeholderPhase (r.phase p)
  covered : r.Covered p → r.phase p = .terminating
  pending : r.Covered p → r.strict cfg p → r.pending (r.uid p)

end Registry

/-- The record a task of the lifecycle is about. -/
def Task.names : Task → Option Ref
  | .creation c _ | .boot c _ _ | .cleanup _ c _ | .retryCleanup c
  | .continueData _ _ (.bootExit c) | .startData _ (.bootExit c) => some c.placeholder
  | .delete d _ => d.record
  | .strictDelete p _ | .asyncDelete p _ | .recordFailure p | .recordedFailure p | .terminal p _
  | .removeRoute p .asyncDelete _ | .removeRoute p .terminal _ => some p
  | _ => none

/-- The record whose creation the task carries on. -/
def Task.creates : Task → Option Ref
  | .boot _ _ .exit => none
  | .creation c _ | .boot c _ _ | .cleanup (.create _) c _ => some c.placeholder
  | _ => none

/-- The record the task works on, started when its creation was over. -/
def Task.works : Task → Option Ref
  | .boot c _ .exit | .cleanup .retry c _ | .retryCleanup c
  | .continueData _ _ (.bootExit c) | .startData _ (.bootExit c) => some c.placeholder
  | .delete ⟨_, record, _, false⟩ _ => record
  | .strictDelete p _ | .asyncDelete p _ | .recordFailure p | .recordedFailure p | .terminal p _
  | .removeRoute p .asyncDelete _ | .removeRoute p .terminal _ => some p
  | _ => none

/-- The record whose failed creation the task cleans up again. -/
def Task.retries : Task → Option Ref
  | .cleanup .retry c _ | .retryCleanup c => some c.placeholder
  | _ => none

/-- The record the task deletes. -/
def Task.ends : Task → Option Ref
  | .delete d _ => d.record
  | .strictDelete p _ | .asyncDelete p _ | .removeRoute p .asyncDelete _ => some p
  | _ => none

/-- The record whose delete worker the task is. -/
def Task.deletes : Task → Option Ref
  | .asyncDelete _ .start => none
  | .asyncDelete p _ | .removeRoute p .asyncDelete _ => some p
  | _ => none

/-- The record the task may drop, having torn down its runtime or not begun it. -/
def Task.discards : Task → Option Ref
  | .creation c .checkOwner | .creation c .registerActions | .creation c .registerWait
  | .creation c (.registerFailed _ _) | .cleanup _ c (.actions none)
  | .cleanup _ c (.settle none) => some c.placeholder
  | .asyncDelete p (.settle none) => some p
  | _ => none

def Task.recovers : Task → Bool
  | .recover _ | .reconcileRoutes (.recover _) _ _ => true
  | _ => false

section

variable {t : Task} {p : Ref}

theorem Task.names_of_creates (h : t.creates = some p) : t.names = some p := by
  unfold Task.creates at h
  split at h <;> first | exact h | cases h

theorem Task.names_of_works (h : t.works = some p) : t.names = some p := by
  unfold Task.works at h
  split at h <;> first | exact h | cases h

theorem Task.works_of_retries (h : t.retries = some p) : t.works = some p := by
  unfold Task.retries at h
  split at h <;> first | exact h | cases h

theorem Task.names_of_ends (h : t.ends = some p) : t.names = some p := by
  unfold Task.ends at h
  split at h <;> first | exact h | cases h

theorem Task.works_of_deletes (h : t.deletes = some p) : t.works = some p := by
  unfold Task.deletes at h
  split at h <;> first | exact h | cases h

theorem Task.creates_or_works_of_discards (h : t.discards = some p) :
    t.creates = some p ∨ t.works = some p := by
  unfold Task.discards at h
  split at h
  all_goals first | exact .inl h | exact .inr h | cases h
  all_goals (rename_i o c; cases o; exacts [.inl rfl, .inr rfl])

end

/-- Two tasks that may be in flight together. -/
structure Apart (t u : Task) : Prop where
  creates : ∀ p, t.creates = some p → u.creates ≠ some p
  works : ∀ p, t.creates = some p → u.works ≠ some p
  worked : ∀ p, u.creates = some p → t.works ≠ some p
  deletes : ∀ p, t.deletes = some p → u.deletes ≠ some p
  recovers : t.recovers → u.recovers = false

theorem Apart.symm {t u : Task} (h : Apart t u) : Apart u t where
  creates p hu ht := h.creates p ht hu
  works := h.worked
  worked := h.works
  deletes p hu ht := h.deletes p ht hu
  recovers hu := by
    cases ht : t.recovers with
    | false => rfl
    | true => rw [h.recovers ht] at hu; cases hu

/-! ## Moves -/

/-- A record no creation in flight can hold: the task creates it, or it was started when the
creation was over, or the record cannot be a placeholder in flight. -/
def Owns (cfg : Config) (r : Registry) (t : Task) (p : Ref) : Prop :=
  t.creates = some p ∨ t.works = some p ∨ ¬ r.Creating cfg p

/-- What the section of a task can do to the registry. -/
inductive Move (cfg : Config) (t : Task) (r : Registry) : Registry → Prop
  | same : Move cfg t r r
  /-- The data plane and the Actions move managed records among the phases of a runtime in use. -/
  | work (phase : Ref → Phase)
      (hphase : ∀ p, phase p = r.phase p ∨ (r.Current p ∧
        runtimeCreatedPhase (r.phase p) ∧ runtimeCreatedPhase (phase p))) :
      Move cfg t r { r with phase }
  | reserve (req : CreateSandboxRequest) (config : RuntimeSandboxConfig)
      (ht : t = .call (.create req)) (hnew : r.entry config.identity.sandboxUID = none)
      (hfree : ¬ covers (r.tombstone config.identity.sandboxUID) config.identity)
      (hrec : r.recovering = false) :
      Move cfg t r (r.install config .creating)
  | commit (p : Ref) (phase : Phase) (hp : t.creates = some p) (hne : r.phase p ≠ .terminating)
      (hphase : runtimeCreatedPhase phase) :
      Move cfg t r (r.install (r.config p) phase)
  /-- The runtime of a placeholder that was deleted meanwhile gets a record to be deleted under. -/
  | commitDeleted (p : Ref) (hp : t.creates = some p) (hterm : r.phase p = .terminating) :
      Move cfg t r ((r.install (r.config p) .terminating).clear (r.uid p))
  | build (p : Ref) (phase : Phase) (hp : t.creates = some p) (hne : r.phase p ≠ .terminating)
      (hphase : phase = .imagePending ∨ phase = .creating ∨ phase = .createFailed) :
      Move cfg t r (r.setPhase p phase)
  | giveUp (p : Ref) (hp : t.creates = some p) : Move cfg t r (r.setPhase p .createCleanupFailed)
  | discard (p : Ref) (hp : t.discards = some p) (hcur : r.Current p) :
      Move cfg t r (r.drop (r.uid p))
  | retry (p : Ref) (phase : Phase) (hp : t.retries = some p) (hcur : r.Current p)
      (hphase : phase = .createCleanup ∨ phase = .createCleanupFailed) :
      Move cfg t r (r.setPhase p phase)
  | delete (p : Ref) (phase : Phase) (hown : Owns cfg r t p) (hcur : r.Current p)
      (hcov : r.Covered p) (hphase : deletingPhase phase) :
      Move cfg t r (r.setPhase p phase)
  | deleteCleared (p : Ref) (phase : Phase) (hown : Owns cfg r t p) (hcur : r.Current p)
      (hcov : r.Covered p) (hphase : phase = r.phase p ∨ deletingPhase phase) :
      Move cfg t r ((r.clear (r.uid p)).setPhase p phase)
  | accept (p : Ref) (i : SandboxIdentity) (ht : t = .call (.delete i))
      (huid : i.sandboxUID = r.uid p) (hrank : i.rank = (r.config p).identity.rank)
      (hcur : r.Current p) :
      Move cfg t r (r.accept (r.strict cfg p) p i)
  | acceptAbsent (i : SandboxIdentity) (ht : t = .call (.delete i))
      (habsent : r.entry i.sandboxUID = none) (hrec : r.recovering = false) :
      Move cfg t r { r with tombstone := bury r.tombstone i }
  | fail (p : Ref) (hcur : r.Current p) (hphase : runtimeCreatedPhase (r.phase p)) :
      Move cfg t r (r.setPhase p .runtimeFailureCleanup)
  | failed (p : Ref) (hcur : r.Current p) (hphase : r.phase p = .runtimeFailureCleanup) :
      Move cfg t r (r.setPhase p .runtimeFailed)
  | claim (p : Ref) (hcur : r.Current p) :
      Move cfg t r { r with deleter := update r.deleter (r.uid p) (some p) }
  | release (p : Ref) (hp : t.deletes = some p) :
      Move cfg t r { r with
        deleter := if r.deleter (r.uid p) = some p then update r.deleter (r.uid p) none
          else r.deleter }
  | ensured (p : Ref) (hp : t.creates = some p) (instances : List String)
      (hsub : ∀ uid ∈ instances, uid = r.uid p ∨ uid ∈ r.instances) :
      Move cfg t r { r with instances }
  | teardown (instances : List String) (hsub : ∀ uid ∈ instances, uid ∈ r.instances) :
      Move cfg t r { r with instances }
  | inventory (ht : t.recovers) (instances : List String) : Move cfg t r { r with instances }
  | adopt (ht : t.recovers) (records : List SandboxMetadata)
      (hphase : ∀ record ∈ records, endingPhase record.phase = false)
      (hheld : ∀ uid ∈ r.instances, ∃ record ∈ records,
        record.config.identity.sandboxUID = uid) (hfinish : t = .recover (.finish records)) :
      Move cfg t r { r.adopt records with recovering := false }

/-! ## What holds of the registry and of the tasks -/

/-- What holds of the registry in every run. -/
structure Registry.Valid (r : Registry) : Prop where
  keyed : ∀ uid p, r.entry uid = some p → p < r.next ∧ r.uid p = uid
  deleting : ∀ p, r.Current p → deletingPhase (r.phase p) → r.Covered p
  covered : ∀ p, r.Current p → r.Covered p → endingPhase (r.phase p)
  recovering : r.recovering → (∀ uid, r.entry uid = none) ∧ ∀ uid, r.tombstone uid = none
  held : r.recovering = false → ∀ uid ∈ r.instances, r.entry uid ≠ none

/-- The data a task carries agrees with the record it is about. -/
def Task.Bound (cfg : Config) (r : Registry) : Task → Prop
  | .creation c _ | .boot c _ _ | .cleanup (.create _) c _ | .continueData _ _ (.bootExit c)
  | .startData _ (.bootExit c) => r.config c.placeholder = c.input
  | .cleanup .retry c _ | .retryCleanup c => r.uid c.placeholder = c.uid
  | .delete d _ => ∀ p, d.record = some p →
      r.uid p = d.identity.sandboxUID ∧ r.strict cfg p = d.strictActions
  | .recover (.access _ _ records) | .recover (.finish records)
  | .reconcileRoutes (.recover records) _ _ =>
    (∀ record ∈ records, endingPhase record.phase = false) ∧
      ∀ uid ∈ r.instances, ∃ record ∈ records, record.config.identity.sandboxUID = uid
  | _ => True

/-- What a task relies on, by what it does to its record. -/
structure TaskOk (cfg : Config) (r : Registry) (t : Task) : Prop where
  named : ∀ p, t.names = some p → p < r.next
  creates : ∀ p, t.creates = some p → r.Creating cfg p
  discards : ∀ p, t.discards = some p → r.Current p → r.uid p ∉ r.instances
  retries : ∀ p, t.retries = some p → r.Current p → endingPhase (r.phase p)
  ends : ∀ p, t.ends = some p → r.Covered p
  deletes : ∀ p, t.deletes = some p → r.Current p → r.deleter (r.uid p) = some p
  recovers : t.recovers → r.recovering
  bound : t.Bound cfg r

end FastSandbox.Fastlet
