import FastSandbox.ControlPlane.Status
import FastSandbox.Lib.Versioned

/-!
# The status of a SandboxSnapshot

The controller and the FastPath server both write it, each through a helper of its own that rereads
the object after a conflict. Every write of either is a patch of `Versioned.patches`; its closure
may rest on an observation of any age. Transition times of conditions are left out.
-/

namespace FastSandbox.ControlPlane

open Interleaving

/-- `SnapshotPhaseTerminal`. -/
def SnapshotPhase.terminal : SnapshotPhase → Bool
  | .succeeded | .failed => true
  | .pending | .creating | .publishing => false

structure SnapshotTrigger where
  (fastletName fastletPodUID runtimeInstanceID : String)
  (instanceGeneration assignmentAttempt : ℤ)
deriving DecidableEq

structure CompletedCondition where
  status : Bool
  (reason message : String)
deriving DecidableEq

/-- No phase is the empty text. -/
structure SandboxSnapshotStatus where
  observedGeneration : ℤ := 0
  phase : Option SnapshotPhase := none
  (message sandboxUID fastletName fastletPodUID : String := "")
  triggered : Option SnapshotTrigger := none
  (snapshotID manifestRef artifactDigest : String := "")
  sizeBytes : ℤ := 0
  (startedAt completedAt : Option Time := none)
  completed : Option CompletedCondition := none
deriving DecidableEq

structure SnapshotObservation extends SnapshotStatus where
  snapshotID : String
  (startedAt completedAt : Option Time := none)

namespace SandboxSnapshotStatus

variable (st : SandboxSnapshotStatus)

def terminal : Bool := st.phase.any SnapshotPhase.terminal

/-- `ProjectSnapshotStatus`. -/
def project (observed : SnapshotObservation) (now : Time) : SandboxSnapshotStatus :=
  if st.terminal then st
  else
    { st with
      phase := some observed.phase
      message := observed.message
      snapshotID := observed.snapshotID
      manifestRef := observed.manifestRef
      artifactDigest := observed.artifactDigest
      sizeBytes := observed.sizeBytes
      startedAt := observed.startedAt.or st.startedAt
      completedAt := observed.completedAt.or
        (if observed.phase.terminal then st.completedAt.or (some now) else st.completedAt)
      completed := match observed.phase with
        | .succeeded => some ⟨true, "SnapshotSucceeded",
            "Snapshot artifacts were published under the template name"⟩
        | .failed => some ⟨false,
            if observed.reason = "" then "SnapshotFailed" else observed.reason, observed.message⟩
        | .pending | .creating | .publishing => st.completed }

/-- The placement at the trigger is pinned once. -/
def pin : Option AssignmentEnvelope → SandboxSnapshotStatus
  | none => st
  | some e =>
    { st with
      fastletName := e.fastletName
      fastletPodUID := e.fastletPodUID
      triggered := st.triggered.or (some
        { fastletName := e.fastletName
          fastletPodUID := e.fastletPodUID
          runtimeInstanceID := e.runtimeInstanceID
          instanceGeneration := e.instanceGeneration
          assignmentAttempt := e.attempt }) }

def fail (message : String) (now : Time) : SandboxSnapshotStatus :=
  { st with phase := some .failed, message, completedAt := st.completedAt.or (some now) }

end SandboxSnapshotStatus

/-- The closures that the helpers are called with: `markSnapshotFailed`, `markSnapshotPending` and
`projectObservation` of the controller, and the two of `triggerSnapshot`. -/
inductive SnapshotPatch
  | markFailed (reason message : String)
  | markPending (message : String)
  | projectObservation (envelope : Option AssignmentEnvelope) (sandboxUID : String)
      (observed : SnapshotObservation)
  | trigger (envelope : Option AssignmentEnvelope) (observed : Option SnapshotObservation)
  | reject (message : String)

open SandboxSnapshotStatus in
/-- The closure, run at a time of its own in each attempt. The controller's helper also records the
generation it has read. -/
def SnapshotPatch.mutate (p : SnapshotPatch) (now : Time) (generation : ℤ)
    (st : SandboxSnapshotStatus) : SandboxSnapshotStatus :=
  match p with
  | .markFailed reason message =>
    { fail st message now with
      completed := some ⟨false, reason, message⟩, observedGeneration := generation }
  | .markPending message =>
    if st.phase ≠ some .creating ∧ st.phase ≠ some .publishing then
      { st with phase := some .pending, message, observedGeneration := generation }
    else { st with observedGeneration := generation }
  | .projectObservation envelope sandboxUID observed =>
    { project { pin st envelope with sandboxUID } observed now with
      observedGeneration := generation }
  | .trigger envelope observed =>
    match observed with
    | some observed => project (pin st envelope) observed now
    | none =>
      if st.phase = none then
        { pin st envelope with
          phase := some .pending
          message := "SandboxSnapshot intent is persisted and will be triggered by the Controller" }
      else pin st envelope
  | .reject message => fail st message now

/-- Patches of the status of a SandboxSnapshot, with its generation as metadata, each tried five
times. -/
def snapshotStatus : System (Versioned.Store ℤ SandboxSnapshotStatus)
    (Versioned.Task ℤ SandboxSnapshotStatus SnapshotPatch)
    (Versioned.Call ℤ SandboxSnapshotStatus SnapshotPatch) (Versioned.Choice Time) :=
  Versioned.patches SnapshotPatch.mutate SandboxSnapshotStatus.terminal 4

/-- **A terminal snapshot is final**: whatever patches interleave, a version of a SandboxSnapshot
that was stored after a terminal one has the same status. -/
theorem terminal_snapshot_stays {w : World (Versioned.Store ℤ SandboxSnapshotStatus)
      (Versioned.Task ℤ SandboxSnapshotStatus SnapshotPatch)}
    (h : snapshotStatus.Reaches System.anyStep ⟨{}, []⟩ w) :
    w.shared.versions.Pairwise fun newer older =>
      newer.uid = older.uid → older.status.terminal = true → newer.status = older.status :=
  Versioned.final_status_stays SnapshotPatch.mutate 4 h

/-- The deadline expires while the FastPath server projects an old observation: it loses the
conflict, rereads and leaves the failed snapshot alone. -/
theorem late_observation_ignored : ∃ w, snapshotStatus.Reaches System.anyStep ⟨{}, []⟩ w ∧
      w.shared.versions.map (fun v => v.status.phase) = [some .failed, none] ∧ w.tasks = [] ∧
      w.shared.versions.Pairwise fun newer older =>
        newer.uid = older.uid → older.status.terminal = true → newer.status = older.status := by
  obtain ⟨w, h, ht⟩ := System.exists_reaches_of_run (S := snapshotStatus) (w := ⟨{}, []⟩)
    [.spawn (.create 1 {}), .run 0 .go,
      .spawn (.patch (.markFailed "SnapshotDeadlineExceeded" "late")),
      .spawn (.patch (.trigger none (some { snapshotID := "s", phase := .creating }))),
      .run 0 (.sees 0 7), .run 1 (.sees 0 8), .run 0 .go, .run 0 .go, .run 0 (.sees 0 9)]
    (fun w => decide (w.shared.versions.map (fun v => v.status.phase) = [some .failed, none]) &&
      w.tasks.isEmpty) (by decide)
  rw [Bool.and_eq_true, decide_eq_true_eq, List.isEmpty_iff] at ht
  exact ⟨w, h, ht.1, ht.2, terminal_snapshot_stays h⟩

end FastSandbox.ControlPlane
