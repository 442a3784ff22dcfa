import FastSandbox.Fastlet.Types

/-!
# The control plane: the Sandbox object and what Fastlets report

A version of the Sandbox object, with the assignment annotation parsed. Timestamps of transitions,
diagnostic annotations and the fields of the spec that only travel to the Fastlet are left out;
`content` stands for the latter, so that an update may touch nothing else.
-/

namespace FastSandbox.ControlPlane

open Fastlet (FastletErrorCode CreateDisposition SandboxIdentity)

/-- Nanoseconds since Go's zero time. -/
abbrev Time := ℕ

/-! ## Assignments -/

/-- An assignment that `Validate` accepts. -/
structure AssignmentEnvelope where
  (fastletName fastletPodUID : String)
  nodeName : String := ""
  (attempt instanceGeneration routeGeneration : ℤ)
  (runtimeInstanceID runtimeProfileHash resourceProfileHash infraRevision : String)
  fastletName_ne : fastletName ≠ ""
  fastletPodUID_ne : fastletPodUID ≠ ""
  one_le_attempt : 1 ≤ attempt
  one_le_instanceGeneration : 1 ≤ instanceGeneration
  one_le_routeGeneration : 1 ≤ routeGeneration
  runtimeInstanceID_ne : runtimeInstanceID ≠ ""
  runtimeProfileHash_ne : runtimeProfileHash ≠ ""
  resourceProfileHash_ne : resourceProfileHash ≠ ""
  infraRevision_ne : infraRevision ≠ ""
deriving DecidableEq

/-! ## Status -/

inductive RuntimeState
  | unset
  | unknown
  | pending
  | creating
  | ready
  | pausing
  | paused
  | resuming
  | stopping
  | stopped
  | failed
  | unavailable
deriving DecidableEq

def RuntimeState.text : RuntimeState → String
  | unset => ""
  | unknown => "Unknown"
  | pending => "Pending"
  | creating => "Creating"
  | ready => "Ready"
  | pausing => "Pausing"
  | paused => "Paused"
  | resuming => "Resuming"
  | stopping => "Stopping"
  | stopped => "Stopped"
  | failed => "Failed"
  | unavailable => "Unavailable"

inductive DataPlaneState
  | unset
  | unknown
  | pending
  | publishing
  | ready
  | draining
  | failed
  | unavailable
deriving DecidableEq

inductive InfraComponentState
  | starting
  | ready
  | failed
deriving DecidableEq

def InfraComponentState.text : InfraComponentState → String
  | starting => "Starting"
  | ready => "Ready"
  | failed => "Failed"

structure PlacementStatus where
  attempt : ℤ := 0
  (fastletName fastletPodUID : String := "")
  /-- The deadline of a recovery under way. -/
  recovery : Option Time := none
deriving DecidableEq

structure CheckpointStatus where
  (checkpointID manifestRef artifactDigest : String)
  sizeBytes : ℤ := 0
  (fastletName fastletPodUID : String := "")
deriving DecidableEq

structure RuntimeStatus where
  state : RuntimeState := .unset
  generation : ℤ := 0
  message : String := ""
  acceptedResetRevision : Option Time := none
  pauseAttempt : ℤ := 0
  checkpoint : Option CheckpointStatus := none
deriving DecidableEq

structure DataPlaneStatus where
  state : DataPlaneState := .unset
  routeGeneration : ℤ := 0
  message : String := ""
deriving DecidableEq

structure InfraComponentStatus where
  name : String
  state : InfraComponentState
  message : String := ""
deriving DecidableEq

/-- `state` is the text of an `ActionState`, which the code copies unchecked. -/
structure ActionBindingStatus where
  (handler state : String)
  message : String := ""
deriving DecidableEq

structure Condition where
  status : Bool
  (reason message : String)
  observedGeneration : ℤ
deriving DecidableEq

structure SandboxStatus where
  observedGeneration : ℤ := 0
  placement : PlacementStatus := {}
  runtime : RuntimeStatus := {}
  dataPlane : DataPlaneStatus := {}
  infraComponents : List InfraComponentStatus := []
  actionBindings : List ActionBindingStatus := []
  (ready suspended resourceResolved : Option Condition := none)
deriving DecidableEq

/-! ## The object -/

inductive SandboxState
  | running
  | paused
deriving DecidableEq

inductive FailurePolicy
  | manual
  | autoRecreate
deriving DecidableEq

structure SandboxSpec where
  state : SandboxState := .running
  (resetRevision expireTime : Option Time := none)
  failurePolicy : FailurePolicy := .manual
  recoveryTimeoutSeconds : ℤ := 0
  /-- The handlers of the Action Bindings, in order. -/
  actionBindings : List String := []
  content : String := ""
deriving DecidableEq

/-- A version of the Sandbox object. -/
structure Sandbox where
  uid : String
  resourceVersion : ℕ := 0
  generation : ℤ := 1
  (deleting cleanupFinalizer : Bool := false)
  (requestID createSpecHash : String := "")
  assignment : Option AssignmentEnvelope := none
  spec : SandboxSpec := {}
  status : SandboxStatus := {}
deriving DecidableEq

structure Pod where
  uid : String
  deleting : Bool
deriving DecidableEq

/-! ## What a Fastlet reports -/

structure InfraComponentDiagnostic where
  (component state : String)
  message : String := ""
deriving DecidableEq

structure ObservedActionBinding where
  (handler state : String)
  observedSpecGeneration : ℤ := 0
  message : String := ""
deriving DecidableEq

/-- `fastletapi.SandboxStatus`. -/
structure Observation where
  sandboxID : String
  instanceGeneration : ℤ
  runtimeInstanceID : String
  (assignmentAttempt routeGeneration : ℤ)
  (acceptedGeneration appliedGeneration : ℤ := 0)
  runtimeState : RuntimeState
  runtimeMessage : String := ""
  dataPlaneState : DataPlaneState := .unset
  dataPlaneMessage : String := ""
  infraComponents : List InfraComponentDiagnostic := []
  actionBindings : List ObservedActionBinding := []
deriving DecidableEq

/-- An error of a Fastlet call, as the control plane tells them apart. -/
inductive CallError
  | fastlet (disposition : CreateDisposition) (code : FastletErrorCode) (message : String)
  | transport

/-- What the Fastlet client returns for a Create. -/
structure CreateReply where
  response : Option (CreateDisposition × Option Observation)
  error : Option CallError

/-- What it returns for an Inspect or a ReconcileBindings. -/
structure InspectReply where
  sandbox : Option Observation
  error : Option CallError

structure RestoreSpec where
  (manifestRef artifactDigest : String)
deriving DecidableEq

structure CreateRequest where
  requestID : String
  identity : SandboxIdentity
  specGeneration : ℤ
  restore : Option RestoreSpec
deriving DecidableEq

inductive SnapshotPhase
  | pending
  | creating
  | publishing
  | succeeded
  | failed
deriving DecidableEq

def SnapshotPhase.text : SnapshotPhase → String
  | pending => "Pending"
  | creating => "Creating"
  | publishing => "Publishing"
  | succeeded => "Succeeded"
  | failed => "Failed"

/-- A checkpoint task as the Fastlet reports it. -/
structure SnapshotStatus where
  phase : SnapshotPhase
  (reason message manifestRef artifactDigest : String := "")
  sizeBytes : ℤ := 0

inductive SnapshotErrorCode
  | common (code : FastletErrorCode)
  | snapshotInProgress

def SnapshotErrorCode.text : SnapshotErrorCode → String
  | common code => code.text
  | snapshotInProgress => "SnapshotInProgress"

inductive SnapshotCallError
  | fastlet (code : SnapshotErrorCode) (message : String)
  | transport

abbrev SnapshotReply := Except SnapshotCallError SnapshotStatus

/-- A Fastlet as the registry describes it to placement. -/
structure Candidate where
  (podName podUID podIP : String)
  nodeName : String := ""
  (runtimeProfileHash resourceProfileHash infraRevision : String)

end FastSandbox.ControlPlane
