import FastSandbox.ControlPlane.Operations

/-!
# What a write makes of a version

One statement per kind of write: what the version had to be, and what it becomes. Whatever is said
later about the object of a run rests on these, and not on the closures.
-/

namespace FastSandbox.ControlPlane

/-! ## Status updates -/

/-- `sb'` is `sb` with the updated status, up to the generations that an update stamps. -/
structure Sandbox.Mutated (sb : Sandbox) (mutate : SandboxStatus → SandboxStatus)
    (sb' : Sandbox) : Prop where
  eq : sb' = { sb with status := sb'.status }
  placement : sb'.status.placement = (mutate sb.status).placement
  runtime : sb'.status.runtime = (mutate sb.status).runtime
  dataPlane : sb'.status.dataPlane = (mutate sb.status).dataPlane

section

variable {sb sb' : Sandbox} {mutate : SandboxStatus → SandboxStatus}

section

variable (h : sb.Mutated mutate sb')
include h

theorem Sandbox.Mutated.assignment : sb'.assignment = sb.assignment := by rw [h.eq]

theorem Sandbox.Mutated.frame : sb' = { sb with
      cleanupFinalizer := sb'.cleanupFinalizer
      assignment := sb'.assignment
      status := sb'.status } := by
  have hf : sb'.cleanupFinalizer = sb.cleanupFinalizer := by rw [h.eq]
  rw [hf, h.assignment]
  exact h.eq

theorem Sandbox.Mutated.samePlacement
    (hm : sb.status.SamePlacement (mutate sb.status)) : sb.status.SamePlacement sb'.status := by
  refine hm.trans ⟨?_, ?_, ?_, ?_, ?_, ?_⟩
  · rw [h.placement]
  · rw [h.placement]
  · rw [h.placement]
  · rw [h.runtime]
  · rw [h.dataPlane]
  · rw [h.runtime]

end

theorem mutating_write (h : mutating mutate sb = .write sb') : sb.Mutated mutate sb' := by
  unfold mutating at h
  dsimp only at h
  split_ifs at h
  cases h
  exact ⟨rfl, rfl, rfl, rfl⟩

theorem failing_write {uid : String} {observed : Observation}
    (h : failing uid observed sb = .write sb') :
    observedMatchesAssignment sb.uid sb.assignment observed ∧
      sb.Mutated (observedStatus sb observed) sb' := by
  unfold failing at h
  split_ifs at h with hu ha
  dsimp only at h
  split_ifs at h
  cases h
  exact ⟨by simpa using ha, rfl, rfl, rfl, rfl⟩

end

/-! ## Every write -/

/-- What an update of each kind finds and leaves. -/
def WriteKind.Effect (sb sb' : Sandbox) : WriteKind → Prop
  | .protect => sb' = { sb with cleanupFinalizer := true }
  | .finalize seen => sb.uid = seen.uid ∧ sb.assignment = seen.assignment ∧
      sb' = { sb with cleanupFinalizer := false }
  | .assign _ e => sb.deleting = false ∧ sb.assignment = none ∧
    sb' = { sb with assignment := some e }
  | .advance expected next => sb.deleting = false ∧ sb.assignment = some expected ∧
      sb' = { sb with assignment := some next } ∧
      next.instanceGeneration = expected.instanceGeneration ∧ next.attempt = expected.attempt + 1
  | .remove _ expected => sb.assignment = some expected ∧ sb' = { sb with assignment := none }
  | .project => ∃ e, sb.assignment = some e ∧ sb' = { sb with status := sb.status.project e }
  | .observe _ observed => ∃ assigned, sb.Mutated (observedStatus assigned observed) sb'
  | .failure _ observed => observedMatchesAssignment sb.uid sb.assignment observed ∧
      sb.Mutated (observedStatus sb observed) sb'
  | .reset seen => sb.Mutated (resetAccepted seen) sb'
  | .expire => ∃ generation, sb.Mutated (expired generation) sb'
  | .checkpoint c => ∃ generation, sb.Mutated (checkpointed c generation) sb'
  | .pauseRetry =>
      ∃ generation reason message, sb.Mutated (retryStatus generation reason message) sb'
  | .status => ∃ mutate, Plain mutate ∧ sb.Mutated mutate sb'

def Op.Effect (sb sb' : Sandbox) : Op → Prop
  | .modify _ kind _ => kind.Effect sb sb'
  | .patch _ read c => sb' = { sb with status := sb.status.clear read.status c }
  | .delete uid _ => sb.uid = uid ∧ sb.deleting = false ∧
      sb' = { sb with deleting := true, generation := sb.generation + 1 }
  | .edit spec => sb' = { sb with spec, generation := sb.generation + 1 }
  | .get _ | .create _ | .ask _ | .dequeue | .answer .. => False

section Effect

variable {sb sb' : Sandbox} {f : Sandbox → Verdict} {op : Op}

theorem initializing_write {e : AssignmentEnvelope} (h : initializing e sb = .write sb') :
    sb.deleting = false ∧ sb.assignment = none ∧ sb' = { sb with assignment := some e } := by
  unfold initializing at h
  split_ifs at h with hd
  split at h
  · cases h
  · rename_i hn
    cases h
    exact ⟨Bool.eq_false_of_not_eq_true hd, hn, rfl⟩

theorem advancing_write {expected next : AssignmentEnvelope}
    (h : advancing expected next sb = .write sb') :
    sb.deleting = false ∧ sb.assignment = some expected ∧
      sb' = { sb with assignment := some next } := by
  unfold advancing at h
  split_ifs at h with hd
  split at h
  · cases h
  rename_i e he
  split_ifs at h with hne
  split at h
  · cases h
  · cases h
    rw [not_not.mp hne] at he
    exact ⟨Bool.eq_false_of_not_eq_true hd, he, rfl⟩

theorem removing_write {expected : AssignmentEnvelope} (h : removing expected sb = .write sb') :
    sb.assignment = some expected ∧ sb' = { sb with assignment := none } := by
  unfold removing at h
  split at h
  · cases h
  rename_i e he
  split_ifs at h with heq
  cases h
  rw [heq] at he
  exact ⟨he, rfl⟩

theorem projecting_write (h : projecting sb = .write sb') :
    ∃ e, sb.assignment = some e ∧ sb' = { sb with status := sb.status.project e } := by
  unfold projecting at h
  split at h
  · cases h
  rename_i e he
  split_ifs at h
  cases h
  exact ⟨e, he, rfl⟩

variable {kind : WriteKind}

theorem WriteKind.effect_of_write (hf : kind.Closure f) (hw : f sb = .write sb') :
    kind.Effect sb sb' := by
  cases kind with
  | protect =>
    obtain ⟨seen, rfl⟩ := hf
    unfold protecting at hw
    split_ifs at hw
    cases hw
    rfl
  | finalize seen =>
    rw [show f = finalizing seen from hf] at hw
    unfold finalizing at hw
    split_ifs at hw with hs
    cases hw
    rw [not_or, not_not, not_not] at hs
    exact ⟨hs.1, hs.2, rfl⟩
  | assign read e =>
    rw [hf.1] at hw
    exact initializing_write hw
  | advance =>
    obtain ⟨rfl, hg, ha⟩ := hf
    obtain ⟨hd, he, heq⟩ := advancing_write hw
    exact ⟨hd, he, heq, hg, ha⟩
  | remove cause expected =>
    rw [show f = removing expected from hf] at hw
    exact removing_write hw
  | project =>
    rw [show f = projecting from hf] at hw
    exact projecting_write hw
  | observe =>
    obtain ⟨assigned, rfl⟩ := hf
    exact ⟨assigned, mutating_write hw⟩
  | failure =>
    obtain ⟨_, rfl⟩ := hf
    exact failing_write hw
  | reset =>
    rw [show f = _ from hf] at hw
    exact mutating_write hw
  | expire | checkpoint =>
    obtain ⟨generation, rfl⟩ := hf
    exact ⟨generation, mutating_write hw⟩
  | pauseRetry =>
    obtain ⟨generation, reason, message, rfl⟩ := hf
    exact ⟨generation, reason, message, mutating_write hw⟩
  | status =>
    obtain ⟨mutate, rfl, hl⟩ := hf
    exact ⟨mutate, hl, mutating_write hw⟩

/-- **What a write does**, whatever the operation. -/
theorem Op.effect_of_write (hf : op.WellFormed) (hc : op.closure = some f)
    (hw : f sb = .write sb') : op.Effect sb sb' := by
  cases op with
  | modify =>
    cases hc
    exact WriteKind.effect_of_write hf hw
  | patch =>
    cases hc
    cases hw
    rfl
  | delete =>
    cases hc
    unfold Cluster.deleting at hw
    split_ifs at hw with hu hd
    cases hw
    exact ⟨not_not.mp hu, Bool.eq_false_of_not_eq_true hd, rfl⟩
  | edit =>
    cases hc
    unfold Cluster.editing at hw
    split_ifs at hw
    cases hw
    rfl
  | get | create | ask | dequeue | answer => cases hc

theorem Change.object_cases {ν : Type} {s s' : Cluster ν} (h : Change s op s')
    (hw : op.WellFormed) (hs : s'.object = some sb) : s.object = some sb ∨
      (∃ old new, s.object = some old ∧ op.Effect old new ∧ sb = s.stored new) ∨
      s.object = none ∧ ∀ v ∈ s.versions, v.uid ≠ sb.uid := by
  cases h with
  | same hb => exact .inl (hb ▸ hs)
  | wrote f old new hc hb hr hb' =>
    rw [hb'] at hs
    rcases s.store_cases new with ⟨ho, -⟩ | ⟨hg, -⟩
    · rw [ho] at hs
      cases hs
      exact .inr (.inl ⟨old, new, hb, Op.effect_of_write hw hc hr, rfl⟩)
    · rw [hg] at hs
      cases hs
  | created new uid _ hb _ hf hb' =>
    rw [hb'] at hs
    cases hs
    exact .inr (.inr ⟨hb, hf⟩)

/-- The updates of the status: all go through a mutation, and none but a reset moves the
placement. -/
def WriteKind.mutates : WriteKind → Bool
  | .observe .. | .failure .. | .reset _ | .expire | .checkpoint _ | .pauseRetry | .status => true
  | _ => false

theorem WriteKind.Effect.mutated (h : kind.Effect sb sb') (hk : kind.mutates) :
    ∃ mutate, sb.Mutated mutate sb' ∧
      ((∀ seen, kind ≠ .reset seen) → ∀ status,
        SandboxStatus.SamePlacement status (mutate status)) := by
  cases kind with
  | protect | finalize | assign | advance | remove | project => cases hk
  | observe =>
    obtain ⟨_, hu⟩ := h
    exact ⟨_, hu, fun _ _ => samePlacement_observedStatus⟩
  | failure => exact ⟨_, h.2, fun _ _ => samePlacement_observedStatus⟩
  | reset seen => exact ⟨_, h, fun hne => absurd rfl (hne seen)⟩
  | expire =>
    obtain ⟨generation, hu⟩ := h
    exact ⟨_, hu, fun _ _ => ⟨rfl, rfl, rfl, rfl, rfl, rfl⟩⟩
  | checkpoint =>
    obtain ⟨generation, hu⟩ := h
    exact ⟨_, hu, fun _ _ => ⟨rfl, rfl, rfl, rfl, rfl, rfl⟩⟩
  | pauseRetry =>
    obtain ⟨generation, _, _, hu⟩ := h
    exact ⟨_, hu, fun _ _ => ⟨rfl, rfl, rfl, rfl, rfl, rfl⟩⟩
  | status =>
    obtain ⟨mutate, hl, hu⟩ := h
    exact ⟨mutate, hu, fun _ _ => (hl _).toSamePlacement⟩

theorem WriteKind.Effect.frame (h : kind.Effect sb sb') : sb' = { sb with
      cleanupFinalizer := sb'.cleanupFinalizer
      assignment := sb'.assignment
      status := sb'.status } := by
  cases kind with
  | protect =>
    cases h
    rfl
  | finalize | assign | project =>
    obtain ⟨_, -, rfl⟩ := h
    rfl
  | advance =>
    obtain ⟨-, -, rfl, -⟩ := h
    rfl
  | remove =>
    obtain ⟨-, rfl⟩ := h
    rfl
  | observe | failure | reset | expire | checkpoint | pauseRetry | status =>
    obtain ⟨_, hu, -⟩ := h.mutated rfl
    exact hu.frame

theorem Op.Effect.keeps (h : op.Effect sb sb') :
    sb'.uid = sb.uid ∧ (sb.deleting → sb'.deleting) := by
  cases op with
  | modify =>
    rw [WriteKind.Effect.frame h]
    exact ⟨rfl, id⟩
  | patch | edit =>
    cases h
    exact ⟨rfl, id⟩
  | delete =>
    obtain ⟨-, -, rfl⟩ := h
    exact ⟨rfl, fun _ => rfl⟩
  | get | create | ask | dequeue | answer => exact h.elim

/-! ### What most writes leave alone -/

/-- The writes of the annotation. -/
def Op.assigns : Op → Bool
  | .modify _ (.assign ..) _ | .modify _ (.advance ..) _ | .modify _ (.remove ..) _ => true
  | _ => false

/-- The writes of the placement in the status, and of the reset it has accepted. -/
def Op.places : Op → Bool
  | .modify _ .project _ | .modify _ (.reset _) _ | .patch .. => true
  | _ => false

theorem Op.Effect.assignment_eq (h : op.Effect sb sb') (ho : op.assigns = false) :
    sb'.assignment = sb.assignment := by
  cases op with
  | modify cached kind =>
    have hk : kind.Effect sb sb' := h
    cases kind with
    | assign | advance | remove => cases ho
    | protect =>
      cases h
      rfl
    | finalize | project =>
      obtain ⟨_, -, rfl⟩ := h
      rfl
    | observe | failure | reset | expire | checkpoint | pauseRetry | status =>
      obtain ⟨_, hu, -⟩ := hk.mutated rfl
      exact hu.assignment
  | patch | edit =>
    cases h
    rfl
  | delete =>
    obtain ⟨-, -, rfl⟩ := h
    rfl
  | get | create | ask | dequeue | answer => exact h.elim

theorem Op.Effect.samePlacement (h : op.Effect sb sb') (ho : op.places = false) :
    sb.status.SamePlacement sb'.status := by
  have hr : sb.status.SamePlacement sb.status := ⟨rfl, rfl, rfl, rfl, rfl, rfl⟩
  cases op with
  | modify cached kind =>
    have hk : kind.Effect sb sb' := h
    cases kind with
    | project | reset => cases ho
    | protect =>
      cases h
      exact hr
    | finalize | assign =>
      obtain ⟨-, -, rfl⟩ := h
      exact hr
    | advance =>
      obtain ⟨-, -, rfl, -⟩ := h
      exact hr
    | remove =>
      obtain ⟨-, rfl⟩ := h
      exact hr
    | observe | failure | expire | checkpoint | pauseRetry | status =>
      obtain ⟨_, hu, hs⟩ := hk.mutated rfl
      exact hu.samePlacement (hs (fun _ => nofun) _)
  | patch => cases ho
  | delete =>
    obtain ⟨-, -, rfl⟩ := h
    exact hr
  | edit =>
    cases h
    exact hr
  | get | create | ask | dequeue | answer => exact h.elim

end Effect

end FastSandbox.ControlPlane
