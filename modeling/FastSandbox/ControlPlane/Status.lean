import FastSandbox.ControlPlane.Types

/-!
# Assignments and status

The pure functions of the control plane: the projection of an assignment into the status, what an
observation makes of a status, and the decisions a reconcile takes from one version of the object.
-/

namespace FastSandbox.ControlPlane

open Fastlet (FastletErrorCode CreateDisposition SandboxIdentity)

/-! ## Assignments -/

namespace AssignmentEnvelope

/-- The fence `(InstanceGeneration, Attempt)`, ordered lexicographically. -/
def fence (e : AssignmentEnvelope) : ℤ ×ₗ ℤ := toLex (e.instanceGeneration, e.attempt)

/-- The identity that a Create, Delete or Inspect for this assignment carries. -/
def identity (e : AssignmentEnvelope) (uid : String) : SandboxIdentity where
  sandboxUID := uid
  instanceGeneration := e.instanceGeneration
  runtimeInstanceID := e.runtimeInstanceID
  assignmentAttempt := e.attempt
  routeGeneration := e.routeGeneration
  fastletPodUID := e.fastletPodUID

end AssignmentEnvelope

/-- `AssignmentForCandidate`: fails where `Validate` does, or without an endpoint. -/
def assignmentForCandidate (c : Candidate) (attempt instanceGeneration routeGeneration : ℤ)
    (runtimeInstanceID : String) : Option AssignmentEnvelope :=
  if h : c.podName ≠ "" ∧ c.podUID ≠ "" ∧ 1 ≤ attempt ∧ 1 ≤ instanceGeneration ∧
      1 ≤ routeGeneration ∧ runtimeInstanceID ≠ "" ∧ c.runtimeProfileHash ≠ "" ∧
      c.resourceProfileHash ≠ "" ∧ c.infraRevision ≠ "" then
    if c.podIP = "" then none
    else some
      { fastletName := c.podName
        fastletPodUID := c.podUID
        nodeName := c.nodeName
        attempt
        instanceGeneration
        routeGeneration
        runtimeInstanceID
        runtimeProfileHash := c.runtimeProfileHash
        resourceProfileHash := c.resourceProfileHash
        infraRevision := c.infraRevision
        fastletName_ne := h.1
        fastletPodUID_ne := h.2.1
        one_le_attempt := h.2.2.1
        one_le_instanceGeneration := h.2.2.2.1
        one_le_routeGeneration := h.2.2.2.2.1
        runtimeInstanceID_ne := h.2.2.2.2.2.1
        runtimeProfileHash_ne := h.2.2.2.2.2.2.1
        resourceProfileHash_ne := h.2.2.2.2.2.2.2.1
        infraRevision_ne := h.2.2.2.2.2.2.2.2 }
  else none

namespace SandboxStatus

def fence (st : SandboxStatus) : ℤ ×ₗ ℤ := toLex (st.runtime.generation, st.placement.attempt)

/-- The status already is the projection of the assignment. -/
def projects (st : SandboxStatus) (e : AssignmentEnvelope) : Bool :=
  st.placement.fastletName = e.fastletName && st.placement.fastletPodUID = e.fastletPodUID &&
    st.placement.attempt = e.attempt && st.runtime.generation = e.instanceGeneration &&
    st.dataPlane.routeGeneration = e.routeGeneration

/-- The merge patch of `ProjectAssignmentToStatus`. -/
def project (st : SandboxStatus) (e : AssignmentEnvelope) : SandboxStatus :=
  { st with
    placement := { st.placement with
      attempt := e.attempt, fastletName := e.fastletName, fastletPodUID := e.fastletPodUID }
    runtime := { st.runtime with generation := e.instanceGeneration }
    dataPlane := { st.dataPlane with routeGeneration := e.routeGeneration } }

end SandboxStatus

/-- Errors that the control plane tells apart. -/
inductive Failure
  | annotationMissing
  | projectionConflict
  | annotationChanged
  | sandboxDeleting
  | fastletUnavailable
  | localReservationConflict
  | unknownOutcome
  | noCandidate
  | resourceResolution (reason message : String)
  | invalidActionDesiredState (message : String)
  | fastlet (disposition : CreateDisposition) (code : FastletErrorCode) (message : String)
  | other
deriving DecidableEq

def validateStatusProjection (st : SandboxStatus) : Option AssignmentEnvelope → Option Failure
  | none => if st.placement.fastletName ≠ "" then some .annotationMissing else none
  | some e =>
    if st.placement.fastletName = "" ∨ st.projects e then none else some .projectionConflict

def Sandbox.effectiveAssignment (sb : Sandbox) : Except Failure (Option AssignmentEnvelope) :=
  match validateStatusProjection sb.status sb.assignment with
  | some err => .error err
  | none => .ok sb.assignment

def nextInstanceGeneration (current : ℤ) : ℤ := if current < 1 then 1 else current + 1

/-- What `clearAssignmentProjection` computes from the version it reads. -/
structure Clearing where
  (attempt generation routeGeneration : ℤ)

def SandboxStatus.clearing (st : SandboxStatus) (envelope : Option AssignmentEnvelope)
    (advanceInstance : Bool) : Clearing :=
  let generation := max st.runtime.generation 1
  let routeGeneration := max st.dataPlane.routeGeneration 1 + 1
  let generation := envelope.elim generation fun e => max generation e.instanceGeneration
  let routeGeneration :=
    envelope.elim routeGeneration fun e => max routeGeneration (e.routeGeneration + 1)
  { attempt := envelope.elim st.placement.attempt fun e => max st.placement.attempt e.attempt
    generation := if advanceInstance then nextInstanceGeneration generation else generation
    routeGeneration }

/-- The status patch of `clearAssignmentProjection`. It has no precondition: it holds the fields
that differ from the version `read`, and is applied to whatever version is current. -/
def SandboxStatus.clear (st read : SandboxStatus) (c : Clearing) : SandboxStatus :=
  { st with
    placement :=
      { attempt := if c.attempt = read.placement.attempt then st.placement.attempt else c.attempt
        fastletName := if read.placement.fastletName = "" then st.placement.fastletName else ""
        fastletPodUID :=
          if read.placement.fastletPodUID = "" then st.placement.fastletPodUID else ""
        recovery := if read.placement.recovery.isNone then st.placement.recovery else none }
    runtime := { st.runtime with
      generation :=
        if c.generation = read.runtime.generation then st.runtime.generation else c.generation }
    dataPlane := { st.dataPlane with
      routeGeneration :=
        if c.routeGeneration = read.dataPlane.routeGeneration then st.dataPlane.routeGeneration
        else c.routeGeneration } }

/-! ## What an observation makes of a status -/

namespace SandboxStatus

variable (st : SandboxStatus) (generation : ℤ)

def setReadyCondition (ready : Bool)
    (reason message : String) : SandboxStatus :=
  { st with ready := some { status := ready, reason, message, observedGeneration := generation } }

/-- `setSandboxReadyCondition`: not ready. -/
def setSandboxReadyCondition (reason message : String) :
    SandboxStatus := st.setReadyCondition generation false reason message

def setSandboxSuspendedCondition (suspended : Bool)
    (reason message : String) : SandboxStatus :=
  { st with
    suspended := some { status := suspended, reason, message, observedGeneration := generation } }

def setControllerStates (runtimeState : RuntimeState)
    (dataPlaneState : DataPlaneState) (message : String) : SandboxStatus :=
  { st with
    runtime := { st.runtime with state := runtimeState, message }
    dataPlane := { st.dataPlane with state := dataPlaneState, message } }

/-- `overallReady`, with its reason and message. -/
def overallReady (sb : Sandbox) (st : SandboxStatus) : Bool × String × String :=
  if st.runtime.state ≠ .ready then (false, "RuntimeNotReady", st.runtime.message)
  else if st.dataPlane.state ≠ .ready then (false, "DataPlaneNotReady", st.dataPlane.message)
  else
    match st.infraComponents.find? (·.state ≠ .ready) with
    | some component =>
      (false, "InfraComponentNotReady", component.name ++ " is " ++ component.state.text)
    | none =>
      if st.actionBindings.length ≠ sb.spec.actionBindings.length then
        (false, "ActionBindingNotReady", "Action Binding status has not converged")
      else
        match (sb.spec.actionBindings.zip st.actionBindings).find? fun (handler, observed) =>
            observed.handler ≠ handler || observed.state ≠ "Ready" with
        | some (handler, _) => (false, "ActionBindingNotReady", handler ++ " is not Ready")
        | none =>
          if st.observedGeneration ≠ sb.generation then
            (false, "GenerationNotObserved",
              "Fastlet has not applied the current Sandbox generation")
          else
            (true, "Ready", "Runtime, data plane, Infra Components, and Action Bindings are Ready")

def projectComponent (d : InfraComponentDiagnostic) : InfraComponentStatus where
  name := d.component
  state := if d.state = "Ready" then .ready else if d.state = "Failed" then .failed else .starting
  message := d.message

/-- An action that has not applied the current generation reads as Pending. -/
def projectAction (sb : Sandbox) (observed : Observation) (a : ObservedActionBinding) :
    ActionBindingStatus :=
  if a.observedSpecGeneration = sb.generation ∨
      a.observedSpecGeneration = 0 ∧ observed.appliedGeneration = sb.generation then
    ⟨a.handler, a.state, a.message⟩
  else ⟨a.handler, "Pending", "Action Binding has not applied the current Sandbox generation"⟩

/-- `ProjectObservedStatus`. -/
def projectObserved (sb : Sandbox) (observed : Observation) : SandboxStatus :=
  let st := { st with
    runtime := { st.runtime with
      state := observed.runtimeState, message := observed.runtimeMessage }
    dataPlane := { st.dataPlane with
      state := observed.dataPlaneState, message := observed.dataPlaneMessage }
    observedGeneration := sb.generation
    placement := { st.placement with
      recovery := if observed.runtimeState = .ready then none else st.placement.recovery }
    infraComponents := observed.infraComponents.map projectComponent
    actionBindings := observed.actionBindings.map (projectAction sb observed) }
  let (ready, reason, message) := overallReady sb st
  if ready ∧ observed.appliedGeneration ≠ sb.generation then
    st.setReadyCondition sb.generation false "GenerationNotApplied"
      "Fastlet has not applied the current Sandbox generation"
  else st.setReadyCondition sb.generation ready reason message

/-- `projectResumeFromCheckpoint`. -/
def projectResume (sb : Sandbox) (observed : Observation) : SandboxStatus :=
  match st.runtime.checkpoint with
  | none => st
  | some _ =>
    if observed.runtimeState = .ready then
      { st with runtime := { st.runtime with checkpoint := none, pauseAttempt := 0 } }
        |>.setSandboxSuspendedCondition sb.generation false "Resumed"
          "Sandbox resumed from its checkpoint"
    else
      st.setControllerStates .resuming .pending "Sandbox is resuming from its checkpoint"
        |>.setSandboxSuspendedCondition sb.generation false "Resuming"
          "Sandbox is resuming from its checkpoint"

end SandboxStatus

def observedMatchesAssignment (uid : String) (assignment : Option AssignmentEnvelope)
    (observed : Observation) : Bool :=
  match assignment with
  | none => false
  | some e =>
    observed.sandboxID = uid && observed.instanceGeneration = e.instanceGeneration &&
      observed.runtimeInstanceID = e.runtimeInstanceID && observed.assignmentAttempt = e.attempt &&
      observed.routeGeneration = e.routeGeneration

/-! ## Decisions from one version -/

namespace Sandbox

def resetPending (sb : Sandbox) : Bool :=
  match sb.spec.resetRevision, sb.status.runtime.acceptedResetRevision with
  | none, _ => false
  | some _, none => true
  | some revision, some accepted => accepted < revision

def expirationPending (sb : Sandbox) (now : Time) : Bool :=
  match sb.spec.expireTime with
  | none => false
  | some expire => expire ≤ now && (sb.status.runtime.acceptedResetRevision.all (· ≤ expire))

def terminalRuntimeFailureRecorded (sb : Sandbox) : Bool :=
  sb.status.runtime.state = .failed &&
    match sb.assignment with
    | none => false
    | some e =>
      sb.status.runtime.generation = e.instanceGeneration &&
        sb.status.placement.fastletName = e.fastletName &&
        sb.status.placement.fastletPodUID = e.fastletPodUID &&
        sb.status.placement.attempt = e.attempt

/-- The runtime states from which a pause first finishes an unfinished ensure. -/
def ensuring : RuntimeState → Bool
  | .unset | .pending | .creating | .unavailable | .resuming => true
  | _ => false

def resumeCheckpoint (sb : Sandbox) : Option CheckpointStatus :=
  if sb.spec.state = .paused ∧ !ensuring sb.status.runtime.state then none
  else sb.status.runtime.checkpoint

end Sandbox

def preferFastlet (candidates : List Candidate) (name podUID : String) : List Candidate :=
  if name = "" then candidates
  else
    match candidates.findIdx? fun c => c.podName = name && (podUID = "" || c.podUID = podUID) with
    | none => candidates
    | some i => candidates.drop i |>.take 1 |>.append (candidates.eraseIdx i)

def explicitReschedule : Failure → Bool
  | .fastlet .rejectedBeforeSideEffects code _ =>
    code = .capacityRejected || code = .draining || code = .runtimeUnavailable ||
      code = .networkUnavailable || code = .infraUnavailable
  | _ => false

/-- `IsCandidateRejection`, which also takes a profile mismatch. -/
def isCandidateRejection : Failure → Bool
  | .fastlet .rejectedBeforeSideEffects code _ =>
    code = .capacityRejected || code = .draining || code = .runtimeUnavailable ||
      code = .networkUnavailable || code = .infraUnavailable || code = .profileMismatch
  | _ => false

/-- `pauseCheckpointID`, where `digest` is the hexadecimal SHA-256 of a text. -/
def pauseCheckpointID (digest : String → String) (sb : Sandbox) : String :=
  let attempt := if sb.status.runtime.pauseAttempt < 1 then 1 else sb.status.runtime.pauseAttempt
  digest (sb.uid ++ ":" ++ toString sb.generation ++ ":" ++ toString attempt)

end FastSandbox.ControlPlane
