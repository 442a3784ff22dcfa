import FastSandbox.ControlPlane.Status
import FastSandbox.Lib.Threads

/-!
# The control plane's programs

The assignment package, the orchestrator, the Sandbox reconciler and FastPath's CreateSandbox as
programs over the API server and the world outside it: the Fastlets, the registry, the clock.

A read followed by a write with its `resourceVersion`, retried on a conflict, takes effect at the
version it read or not at all, so it is one operation, `modify`; where the read comes from the
informer cache, an exit without a write may still rest on an old version.
`clearAssignmentProjection` patches without a `resourceVersion` and is a read and a `patch`.
-/

namespace FastSandbox.ControlPlane

open Fastlet (SandboxIdentity)
open Threads

/-! ## Operations -/

/-- Where a read comes from: the informer cache or the API server. `intent` marks FastPath's
lookup of an existing object for its request. -/
inductive Source
  | cache
  | api
  | intent
deriving DecidableEq

inductive Stop
  | found (sb : Sandbox)
  | failure (err : Failure)

inductive Verdict
  | write (sb : Sandbox)
  | stop (r : Stop)

/-- Why an assignment is given up. -/
inductive Cause
  | expiration
  | reset
  | release
  | podLost
  | paused

/-- What a write to the object is for. -/
inductive WriteKind
  | protect
  | finalize (seen : Sandbox)
  | assign (read : Option Sandbox) (desired : AssignmentEnvelope)
  | advance (expected next : AssignmentEnvelope)
  | remove (cause : Cause) (expected : AssignmentEnvelope)
  | project
  | observe (asked : AssignmentEnvelope) (observed : Observation)
  | failure (asked : AssignmentEnvelope) (observed : Observation)
  | reset (seen : Sandbox)
  | expire
  | checkpoint (c : CheckpointStatus)
  | pauseRetry
  | status

inductive Purpose
  | deletion
  | expiration
  | reset
  | pause (checkpointID : String)
  | terminalFailure
deriving DecidableEq

inductive CheckpointCall
  | create
  | observe
  | delete
deriving DecidableEq

inductive Rpc
  | create (request : CreateRequest)
  | inspect (identity : SandboxIdentity)
  | delete (identity : SandboxIdentity) (purpose : Purpose)
  | reconcileBindings (identity : SandboxIdentity)
  | checkpoint (call : CheckpointCall) (identity : SandboxIdentity) (checkpointID : String)
deriving DecidableEq

inductive PodLookup
  | found (pod : Pod)
  | absent
  | failed

inductive LocalReservation
  | notNeeded
  | reserved
  | refused

/-- What a program asks of the world outside the API server. -/
inductive Ask
  | getPod (name : String)
  | send (rpc : Rpc)
  | awaitCreate (request : CreateRequest)
  | awaitInspect (identity : SandboxIdentity)
  | awaitDelete (identity : SandboxIdentity)
  | awaitCheckpoint (checkpointID : String)
  | candidates (excluded : List String)
  | registered (name : String)
  | resolve
  | reserveLocal
  | createActive
  | now
  | newID
  | world
deriving DecidableEq

def Ask.Ans : Ask → Type
  | getPod _ => PodLookup
  | send _ => Unit
  | awaitCreate _ => CreateReply
  | awaitInspect _ => InspectReply
  | awaitDelete _ => Option CallError
  | awaitCheckpoint _ => SnapshotReply
  | candidates _ => Except Failure (List Candidate)
  | registered _ => Option Candidate
  | resolve => Option Failure
  | reserveLocal => LocalReservation
  | createActive => Bool
  | now => Time
  | newID => String
  | world => Unit

inductive CreateAnswer
  | success (uid : String)
  | resourceExhausted
  | refused

/-- `dequeue` is the workqueue's handing the key to a reconcile, and `answer` is FastPath's
return, with the UID of the object that this call created. -/
inductive Op
  | get (source : Source)
  | modify (cached : Bool) (kind : WriteKind) (f : Sandbox → Verdict)
  | patch (cause : Cause) (read : Sandbox) (c : Clearing)
  | create (sb : Sandbox)
  | delete (uid : String) (rollback : Bool)
  | edit (spec : SandboxSpec)
  | ask (q : Ask)
  | dequeue
  | answer (a : CreateAnswer) (own : Option String)

inductive Fetched
  | found (sb : Sandbox)
  | absent
  | failed

inductive Modified
  | written (sb : Sandbox)
  | stopped (r : Stop)
  | absent
  | failed

inductive Created
  | created (sb : Sandbox)
  | failed

inductive Deleted
  | deleted
  | absent
  | failed

def Ans : Op → Type
  | .get _ => Fetched
  | .modify .. => Modified
  | .patch .. => Modified
  | .create _ => Created
  | .delete .. => Deleted
  | .edit _ => Unit
  | .ask q => q.Ans
  | .dequeue => Unit
  | .answer .. => Unit

abbrev Program := Prog Op Ans

section

def perform (op : Op) : Program (Ans op) := Prog.perform op

def get (source : Source) : Program Fetched := perform (.get source)

def modify (cached : Bool) (kind : WriteKind) (f : Sandbox → Verdict) : Program Modified :=
  perform (.modify cached kind f)

def patch (cause : Cause) (read : Sandbox) (c : Clearing) : Program Modified :=
  perform (.patch cause read c)

def create (sb : Sandbox) : Program Created := perform (.create sb)

def delete (uid : String) (rollback : Bool) : Program Deleted := perform (.delete uid rollback)

def ask (q : Ask) : Program q.Ans := perform (.ask q)

def getPod (name : String) : Program PodLookup := ask (.getPod name)

def send (rpc : Rpc) : Program Unit := ask (.send rpc)

def candidates (excluded : List String) : Program (Except Failure (List Candidate)) :=
  ask (.candidates excluded)

def registered (name : String) : Program (Option Candidate) := ask (.registered name)

def resolve : Program (Option Failure) := ask .resolve

def reserveLocal : Program LocalReservation := ask .reserveLocal

def fastPathCreateActive : Program Bool := ask .createActive

def readClock : Program Time := ask .now

def generateRequestID : Program String := ask .newID

end

/-! ## The assignment package -/

def reread (source : Source) : Program (Except Failure Sandbox) := do
  match ← get source with
  | .found sb => return .ok sb
  | .absent | .failed => return .error .other

def initializing (desired : AssignmentEnvelope) (sb : Sandbox) : Verdict :=
  if sb.deleting then .stop (.failure .sandboxDeleting)
  else
    match sb.assignment with
    | some _ => .stop (.found sb)
    | none => .write { sb with assignment := some desired }

/-- `InitializeAssignmentAnnotation`; the flag tells whether this call wrote it. `read` is the
version that the assignment was seeded from, if any, and is only recorded. -/
def initializeAssignment (read : Option Sandbox) (desired : AssignmentEnvelope) :
    Program (Except Failure (Sandbox × Bool)) := do
  match ← modify false (.assign read desired) (initializing desired) with
  | .written _ =>
    match ← reread .api with
    | .ok sb => return .ok (sb, true)
    | .error err => return .error err
  | .stopped (.found sb) => return .ok (sb, false)
  | .stopped (.failure err) => return .error err
  | .absent | .failed => return .error .other

variable (sb : Sandbox) (reason : String) (message : String)

def projecting : Verdict :=
  match sb.assignment with
  | none => .stop (.failure .annotationMissing)
  | some e =>
    if sb.status.projects e then .stop (.found sb)
    else .write { sb with status := sb.status.project e }

/-- `ProjectAssignmentToStatus`, through the controller's cache or not. -/
def projectAssignmentToStatus (cached : Bool) : Program (Except Failure Sandbox) := do
  match ← modify cached .project projecting with
  | .written _ =>
    match ← reread (if cached then .cache else .api) with
    | .ok sb =>
      match sb.effectiveAssignment with
      | .ok _ => return .ok sb
      | .error err => return .error err
    | .error err => return .error err
  | .stopped (.found sb) => return .ok sb
  | .stopped (.failure err) => return .error err
  | .absent | .failed => return .error .other

def advancing (expected next : AssignmentEnvelope) (sb : Sandbox) : Verdict :=
  if sb.deleting then .stop (.failure .sandboxDeleting)
  else
    match sb.assignment with
    | none => .stop (.failure ((validateStatusProjection sb.status none).getD .annotationChanged))
    | some e =>
      if e ≠ expected then .stop (.failure .annotationChanged)
      else
        match validateStatusProjection sb.status (some e) with
        | some err => .stop (.failure err)
        | none => .write { sb with assignment := some next }

/-- `CASAssignmentAnnotation`. -/
def casAssignment (expected next : AssignmentEnvelope) : Program (Except Failure Sandbox) := do
  match ← modify false (.advance expected next) (advancing expected next) with
  | .written sb => return .ok sb
  | .stopped (.failure err) => return .error err
  | .stopped (.found _) | .absent | .failed => return .error .other

def removing (expected : AssignmentEnvelope) (sb : Sandbox) : Verdict :=
  match sb.assignment with
  | none => .stop (.found sb)
  | some e =>
    if e = expected then .write { sb with assignment := none }
    else .stop (.failure .annotationChanged)

/-- `RemoveAssignmentAnnotation`. -/
def removeAssignment (cause : Cause) (expected : AssignmentEnvelope) :
    Program (Except Failure Unit) := do
  match ← modify false (.remove cause expected) (removing expected) with
  | .written _ =>
    match ← reread .api with
    | .ok _ => return .ok ()
    | .error err => return .error err
  | .stopped (.found _) => return .ok ()
  | .stopped (.failure err) => return .error err
  | .absent | .failed => return .error .other

/-! ## The orchestrator -/

/-- `cause` is only recorded. -/
def clearAssignmentProjection (cause : Cause) (envelope : Option AssignmentEnvelope)
    (advanceInstance : Bool) : Program (Except Failure Sandbox) := do
  match ← get .api with
  | .absent | .failed => return .error .other
  | .found sb =>
    if sb.assignment.isSome then return .error .annotationChanged
    else if sb.status.placement.fastletName = "" then return .ok sb
    else
      match ← patch cause sb (sb.status.clearing envelope advanceInstance) with
      | .written sb => return .ok sb
      | .stopped _ | .absent | .failed => return .error .other

def clearAssignment (cause : Cause) (advanceInstance : Bool) :
    Program (Except Failure Sandbox) :=
  match sb.assignment with
  | none =>
    if sb.status.placement.fastletName = "" then return .ok sb
    else clearAssignmentProjection cause none advanceInstance
  | some e => do
    match ← removeAssignment cause e with
    | .error err => return .error err
    | .ok _ => clearAssignmentProjection cause (some e) advanceInstance

/-- The rest of `AssignDeclarativePreferring` for an object without an assignment. -/
def assignFresh (current : Sandbox) (preferred : Option CheckpointStatus) :
    Program (Except Failure (Sandbox × Bool)) := do
  match ← candidates [] with
  | .error err => return .error err
  | .ok ranked =>
    match (preferFastlet ranked (preferred.elim "" (·.fastletName))
        (preferred.elim "" (·.fastletPodUID))).head? with
    | none => return .error .noCandidate
    | some candidate =>
      let id ← generateRequestID
      match assignmentForCandidate candidate (current.status.placement.attempt + 1)
          (max current.status.runtime.generation 1)
          (max current.status.dataPlane.routeGeneration 1) id with
      | none => return .error .other
      | some desired =>
        match ← initializeAssignment (some current) desired with
        | .error err => return .error err
        | .ok (_, won) =>
          match ← projectAssignmentToStatus false with
          | .ok projected => return .ok (projected, won)
          | .error err => return .error err

/-- `AssignDeclarativePreferring`; the flag tells whether this call made the assignment. -/
def assignDeclarativePreferring (preferred : Option CheckpointStatus) :
    Program (Except Failure (Sandbox × Bool)) := do
  match ← get .api with
  | .absent | .failed => return .error .other
  | .found current =>
    if current.uid ≠ sb.uid then return .error .annotationChanged
    else if current.assignment.isSome then
      match ← projectAssignmentToStatus false with
      | .ok projected => return .ok (projected, false)
      | .error err => return .error err
    else assignFresh current preferred

/-- `ReassignDeclarativeAfterRejection`; the flag tells whether the assignment moved. -/
def reassignDeclarativeAfterRejection : Program (Except Failure Bool) :=
  match sb.assignment with
  | none => return .ok false
  | some current => do
    match ← candidates [] with
    | .error .noCandidate => return .ok false
    | .error err => return .error err
    | .ok ranked =>
      match ranked.find? fun c =>
          !(c.podName = current.fastletName && c.podUID = current.fastletPodUID) with
      | none => return .ok false
      | some candidate =>
        let id ← generateRequestID
        match assignmentForCandidate candidate (current.attempt + 1) current.instanceGeneration
            (current.routeGeneration + 1) id with
        | none => return .error .other
        | some next =>
          match ← casAssignment current next with
          | .ok _ => return .ok true
          | .error err => return .error err

/-- The registry's Fastlet is the one of the assignment. -/
def Candidate.serves (c : Candidate) (e : AssignmentEnvelope) : Bool :=
  c.podUID = e.fastletPodUID && c.podIP ≠ "" && c.runtimeProfileHash = e.runtimeProfileHash &&
    c.resourceProfileHash = e.resourceProfileHash && c.infraRevision = e.infraRevision

def assignedTarget : Program (Except Failure AssignmentEnvelope) :=
  match sb.effectiveAssignment with
  | .error err => return .error err
  | .ok none => return .error .fastletUnavailable
  | .ok (some e) => do
    match ← registered e.fastletName with
    | none => return .error .fastletUnavailable
    | some c => if c.serves e then return .ok e else return .error .fastletUnavailable

def CallError.failure : CallError → Failure
  | .fastlet disposition code message => .fastlet disposition code message
  | .transport => .other

/-- An answer that `createRuntimeOnTarget` takes as an accepted Create. -/
def CreateReply.accepted (reply : CreateReply) : Option Observation :=
  match reply.response, reply.error with
  | some (disposition, some observed), none =>
    if (disposition = .created ∨ disposition = .existing) ∧
        (observed.runtimeState = .ready ∨ observed.runtimeState = .creating) then some observed
    else none
  | _, _ => none

/-- Any other answer that names no reason leaves the outcome open. -/
def CreateReply.failure (reply : CreateReply) : Failure :=
  match reply.error with
  | some (.fastlet disposition code message) => .fastlet disposition code message
  | some .transport | none => .unknownOutcome

/-- The Create request for an assignment, built from a version of the object. -/
def Sandbox.createRequest (e : AssignmentEnvelope) : CreateRequest where
  requestID := sb.requestID
  identity := e.identity sb.uid
  specGeneration := sb.generation
  restore := sb.resumeCheckpoint.map fun c => ⟨c.manifestRef, c.artifactDigest⟩

/-- `createNeedsLocalReservation` and `ReserveLocal`. -/
def reserveFor : Program LocalReservation :=
  match sb.status.runtime.state with
  | .creating | .ready => return .notNeeded
  | _ => reserveLocal

/-- The call of `createRuntimeOnTarget`. -/
def callCreate (e : AssignmentEnvelope) :
    Program (Option Observation × Option Failure) := do
  send (.create (sb.createRequest e))
  let reply : CreateReply ← ask (.awaitCreate (sb.createRequest e))
  match reply.accepted with
  | some observed => return (some observed, none)
  | none => return (reply.response.bind (·.2), some reply.failure)

/-- `createRuntimeOnTarget`: the observation in the response, if any, and the error. -/
def createRuntimeOnTarget (e : AssignmentEnvelope) (declarative : Bool) :
    Program (Option Observation × Option Failure) := do
  match ← reserveFor sb with
  | .refused =>
    if declarative then
      return (none, some (.fastlet .rejectedBeforeSideEffects .capacityRejected
        "Controller local capacity view rejects the assigned Fastlet"))
    else return (none, some .localReservationConflict)
  | .notNeeded | .reserved =>
    match ← resolve with
    | some err => return (none, some err)
    | none => callCreate sb e

/-- `EnsureRuntime`, with the `CreateRuntime` it calls. -/
def ensureRuntime : Program (Except Failure Observation) := do
  match ← assignedTarget sb with
  | .error err => return .error err
  | .ok e =>
    match ← resolve with
    | some err => return .error err
    | none =>
      match ← createRuntimeOnTarget sb e true with
      | (some observed, _) => return .ok observed
      | (none, none) => return .error .unknownOutcome
      | (none, some err) => return .error err

def InspectReply.result (reply : InspectReply) : Except Failure Observation :=
  match reply.error, reply.sandbox with
  | some err, _ => .error err.failure
  | none, some observed => .ok observed
  | none, none => .error .unknownOutcome

def observeRuntime : Program (Except Failure Observation) := do
  match ← assignedTarget sb with
  | .error err => return .error err
  | .ok e =>
    send (.inspect (e.identity sb.uid))
    let reply : InspectReply ← ask (.awaitInspect (e.identity sb.uid))
    return reply.result

/-- `ReconcileBindings`: the observation counts even next to an error. -/
def reconcileBindings : Program (Except Failure Observation) := do
  match ← resolve with
  | some err => return .error err
  | none =>
    match ← assignedTarget sb with
    | .error err => return .error err
    | .ok e =>
      send (.reconcileBindings (e.identity sb.uid))
      let reply : InspectReply ← ask (.awaitInspect (e.identity sb.uid))
      match reply.sandbox, reply.error with
      | some observed, _ => return .ok observed
      | none, some err => return .error err.failure
      | none, none => return .error .unknownOutcome

def Failure.isNotFound : Failure → Bool
  | .fastlet _ .notFound _ => true
  | _ => false

def deleteRuntime (purpose : Purpose) : Program (Except Failure Unit) := do
  match ← assignedTarget sb with
  | .error err => return .error err
  | .ok e =>
    send (.delete (e.identity sb.uid) purpose)
    let reply : Option CallError ← ask (.awaitDelete (e.identity sb.uid))
    match reply with
    | some err => return .error err.failure
    | none => return .ok ()

/-- `RuntimeGone`: an Inspect that answers NotFound. -/
def runtimeGone : Program (Except Failure Bool) := do
  match ← observeRuntime sb with
  | .ok _ => return .ok false
  | .error err => if err.isNotFound then return .ok true else return .error err

/-- `snapshotIdentityOnAssigned`, which compares no profiles. -/
def snapshotTarget : Program (Except Failure AssignmentEnvelope) :=
  match sb.effectiveAssignment with
  | .error err => return .error err
  | .ok none => return .error .fastletUnavailable
  | .ok (some e) => do
    match ← registered e.fastletName with
    | none => return .error .fastletUnavailable
    | some c =>
      if c.podUID = e.fastletPodUID ∧ c.podIP ≠ "" then return .ok e
      else return .error .fastletUnavailable

/-- `CreateCheckpoint`, `ObserveCheckpoint` and `DeleteCheckpoint`. -/
def checkpointCall (call : CheckpointCall) (checkpointID : String) :
    Program (Except (Failure ⊕ SnapshotCallError) SnapshotStatus) := do
  match ← snapshotTarget sb with
  | .error err => return .error (.inl err)
  | .ok e =>
    send (.checkpoint call (e.identity sb.uid) checkpointID)
    let reply : SnapshotReply ← ask (.awaitCheckpoint checkpointID)
    match reply with
    | .ok status => return .ok status
    | .error err => return .error (.inr err)

/-! ## The reconciler -/

/-- The closure of `patchStatus`: it writes what `mutate` changes in the version it reads. -/
def mutating (mutate : SandboxStatus → SandboxStatus) (sb : Sandbox) : Verdict :=
  let st := mutate sb.status
  let st := { st with
    observedGeneration := sb.generation
    ready := st.ready.map fun c => { c with observedGeneration := sb.generation } }
  if st = sb.status then .stop (.found sb) else .write { sb with status := st }

def patchStatus (kind : WriteKind) (mutate : SandboxStatus → SandboxStatus) :
    Program (Except Failure Unit) := do
  match ← modify true kind (mutating mutate) with
  | .written _ | .stopped _ => return .ok ()
  | .absent | .failed => return .error .other

/-- The result of a reconcile: whether it returned an error. -/
abbrev Reconciled := Except Failure Unit

def assignedPodLost : Program (Except Failure Bool) :=
  if sb.status.placement.fastletName = "" then return .ok false
  else do
    match ← getPod sb.status.placement.fastletName with
    | .absent => return .ok true
    | .failed => return .error .other
    | .found pod => return .ok (pod.uid ≠ sb.status.placement.fastletPodUID || pod.deleting)

/-- `ensureAssignedRuntimeDeleted`: whether the runtime is gone. -/
def ensureAssignedRuntimeDeleted (purpose : Purpose) :
    Program (Except Failure Bool) := do
  match ← deleteRuntime sb purpose with
  | .error .fastletUnavailable => assignedPodLost sb
  | .error err => return .error err
  | .ok _ =>
    match ← runtimeGone sb with
    | .ok gone => return .ok gone
    | .error .fastletUnavailable =>
      match ← assignedPodLost sb with
      | .error err => return .error err
      | .ok true => return .ok true
      | .ok false => return .error .fastletUnavailable
    | .error err => return .error err

/-- `ensureRuntimeDeleted`: whether the runtime is gone, and the version the caller goes on
with. -/
def ensureRuntimeDeleted (purpose : Purpose) :
    Program (Except Failure (Bool × Sandbox)) :=
  match sb.assignment with
  | none =>
    match sb.effectiveAssignment with
    | .error err => return .error err
    | .ok _ => return .ok (true, sb)
  | some _ => do
    match ← projectAssignmentToStatus true with
    | .error err => return .error err
    | .ok projected =>
      if projected.uid ≠ sb.uid then return .error .annotationChanged
      else
        match ← ensureAssignedRuntimeDeleted projected purpose with
        | .error err => return .error err
        | .ok gone => return .ok (gone, projected)

/-- The finalizer's removal: the object still has the annotation that the deletion dealt with. -/
def finalizing (sb current : Sandbox) : Verdict :=
  if current.uid ≠ sb.uid ∨ current.assignment ≠ sb.assignment then
    .stop (.failure .annotationChanged)
  else .write { current with cleanupFinalizer := false }

variable (generation : ℤ) (st : SandboxStatus)

def deletionPending : SandboxStatus :=
  let message := "Sandbox deletion is in progress"
  (st.setControllerStates .stopping .draining message).setSandboxReadyCondition generation
    "Deleting" message

def reconcileDeletion : Program Reconciled :=
  if !sb.cleanupFinalizer then return .ok ()
  else do
    match ← ensureRuntimeDeleted sb .deletion with
    | .error err => return .error err
    | .ok (false, sb) =>
      let _ ← patchStatus .status (deletionPending sb.generation)
      return .ok ()
    | .ok (true, sb) =>
      match ← modify true (.finalize sb) (finalizing sb) with
      | .written _ | .absent => return .ok ()
      | .stopped (.failure err) => return .error err
      | .stopped (.found _) | .failed => return .error .other

def expired : SandboxStatus :=
  let message := "Sandbox desired lifetime expired"
  let st := { st with runtime := { st.runtime with checkpoint := none, pauseAttempt := 0 } }
  ((st.setControllerStates .stopped .unavailable message).setSandboxReadyCondition generation
    "Expired" message).setSandboxSuspendedCondition generation false "Expired" message

def reconcileExpiration : Program Reconciled := do
  match ← ensureRuntimeDeleted sb .expiration with
  | .error err => return .error err
  | .ok (false, _) => return .ok ()
  | .ok (true, sb) =>
    if sb.status.placement.fastletName = "" then patchStatus .expire (expired sb.generation)
    else
      match ← clearAssignment sb .expiration true with
      | .error err => return .error err
      | .ok sb => patchStatus .expire (expired sb.generation)

def resetAccepted : SandboxStatus :=
  let message := "Sandbox reset is pending"
  let st := { st with runtime := { st.runtime with
    generation := max st.runtime.generation 1
    checkpoint := none
    pauseAttempt := 0
    acceptedResetRevision := sb.spec.resetRevision } }
  ((st.setControllerStates .pending .pending message).setSandboxReadyCondition sb.generation
    "ResetRequested" message).setSandboxSuspendedCondition sb.generation false "ResetRequested"
    message

def reconcileReset : Program Reconciled :=
  if sb.status.placement.fastletName = "" then patchStatus (.reset sb) (resetAccepted sb)
  else do
    match ← ensureRuntimeDeleted sb .reset with
    | .error err => return .error err
    | .ok (false, _) => return .ok ()
    | .ok (true, sb) =>
      match ← clearAssignment sb .reset true with
      | .error err => return .error err
      | .ok sb => patchStatus (.reset sb) (resetAccepted sb)

def reconcileTerminalRuntimeFailure : Program Reconciled := do
  match ← ensureAssignedRuntimeDeleted sb .terminalFailure with
  | .ok _ | .error .fastletUnavailable => return .ok ()
  | .error err => return .error err

def podLost (deadline : Option Time) (generation : ℤ) (message : String) (st : SandboxStatus) :
    SandboxStatus :=
  let st := st.setControllerStates .unavailable .unavailable message
  let st := { st with placement := { st.placement with
    recovery := deadline.elim st.placement.recovery some } }
  st.setSandboxReadyCondition generation "FastletPodLost" message

/-- The recovery timeout in seconds. -/
def SandboxSpec.recoveryTimeout (spec : SandboxSpec) : ℕ :=
  if spec.recoveryTimeoutSeconds ≤ 0 then 60 else spec.recoveryTimeoutSeconds.toNat

def reconcilePodLost : Program Reconciled := do
  let now ← readClock
  match sb.status.placement.recovery with
  | none =>
    patchStatus .status (podLost (some (now + sb.spec.recoveryTimeout * 10 ^ 9)) sb.generation
      "The assigned Fastlet Pod is lost; recovery delay is active")
  | some deadline =>
    if now < deadline then return .ok ()
    else if sb.spec.failurePolicy = .autoRecreate then
      if sb.status.placement.fastletName = "" then return .ok ()
      else
        match ← clearAssignment sb .podLost true with
        | .ok _ => return .ok ()
        | .error err => return .error err
    else
      patchStatus .status (podLost none sb.generation
        "The assigned Fastlet Pod is lost and Manual failure policy requires operator action")

/-- A status that waits for placement: a resume stays visible as one. -/
def waiting (runtimeState : RuntimeState) (dataPlaneState : DataPlaneState) (generation : ℤ)
    (reason message resuming : String) (st : SandboxStatus) : SandboxStatus :=
  match st.runtime.checkpoint with
  | some _ =>
    ((st.setControllerStates .resuming .pending message).setSandboxReadyCondition generation
      reason message).setSandboxSuspendedCondition generation false "Resuming" resuming
  | none =>
    (st.setControllerStates runtimeState dataPlaneState message).setSandboxReadyCondition
      generation reason message

def markAssignedFastletUnavailable : Program (Except Failure Unit) :=
  patchStatus .status (waiting .unavailable .unavailable sb.generation "FastletRegistryPending"
    ("The assigned Fastlet Pod still exists, but its local registry endpoint is " ++
      "temporarily unavailable")
    "Sandbox resume is waiting for the assigned Fastlet")

def markPending : Program (Except Failure Unit) :=
  patchStatus .status (waiting .pending .pending sb.generation reason message message)

def setResourceResolved (resolved : Bool) (reason message : String)
    (st : SandboxStatus) : SandboxStatus :=
  { st with
    resourceResolved :=
      some { status := resolved, reason, message, observedGeneration := generation } }

def resourceUnresolved (reason message : String) (st : SandboxStatus) :
    SandboxStatus :=
  setResourceResolved generation false reason message
    ((st.setControllerStates .pending .pending message).setSandboxReadyCondition generation reason
      message)

def markResourceUnresolved :
    Program (Except Failure Unit) :=
  patchStatus .status (resourceUnresolved sb.generation reason message)

def markResourceResolved : Program (Except Failure Unit) :=
  patchStatus .status (setResourceResolved sb.generation true "Resolved"
    "Sandbox resources are admissible under the Pool policy")

def runtimeCreating (message : String) (st : SandboxStatus) : SandboxStatus :=
  (st.setControllerStates .creating .pending message).setSandboxReadyCondition generation
    "RuntimeCreating" message

def markCreating : Program (Except Failure Unit) :=
  patchStatus .status (runtimeCreating sb.generation message)

def actionsInvalid : SandboxStatus :=
  let st := { st with
    actionBindings := sb.spec.actionBindings.map fun handler => ⟨handler, "Failed", message⟩ }
  st.setSandboxReadyCondition sb.generation "ActionBindingInvalid" message

def markActionDesiredStateInvalid :
    Program (Except Failure Unit) :=
  patchStatus .status (actionsInvalid sb message)

/-- The closure of `persistTerminalRuntimeFailure`. -/
def failing (uid : String) (observed : Observation) (current : Sandbox) : Verdict :=
  if current.uid ≠ uid then .stop (.failure .annotationChanged)
  else if !observedMatchesAssignment current.uid current.assignment observed then
    .stop (.found current)
  else
    let st := (current.status.projectObserved current observed).projectResume current observed
    let st := { st with observedGeneration := current.generation }
    if st = current.status then .stop (.found current) else .write { current with status := st }

/-- The runtime call of `reconcileEnsure`. -/
def ensureOrObserve (assigned : Sandbox) (newlyAssigned : Bool) :
    Program (Except Failure Observation) := do
  if newlyAssigned then ensureRuntime assigned
  else
    match ← observeRuntime assigned with
    | .ok observed => return .ok observed
    | .error err => if err.isNotFound then ensureRuntime assigned else return .error err

/-- `Error`, of the errors that are an `explicitReschedule`. -/
def Failure.error : Failure → String
  | .fastlet _ code message => code.text ++ ": " ++ message
  | _ => ""

/-- What `reconcileEnsure` does about an error of the runtime call. -/
def ensureFailed (assigned : Sandbox) (err : Failure) : Program Reconciled := do
  if err = .fastletUnavailable then markAssignedFastletUnavailable assigned
  else if explicitReschedule err then
    match ← reassignDeclarativeAfterRejection assigned with
    | .error err => return .error err
    | .ok true => return .ok ()
    | .ok false =>
      let _ ← markPending assigned "FastletRejected" err.error
      return .ok ()
  else
    match err with
    | .fastlet _ .inProgress message =>
      let _ ← markCreating assigned message
      return .ok ()
    | .unknownOutcome => return .ok ()
    | _ => return .error err

def observedStatus (assigned : Sandbox) (observed : Observation) (st : SandboxStatus) :
    SandboxStatus :=
  (st.projectObserved assigned observed).projectResume assigned observed

/-- What `reconcileEnsure` does with an observation; `asked` is the assignment it was asked
for. -/
def projectObservation (assigned : Sandbox) (asked : AssignmentEnvelope) (observed : Observation) :
    Program Reconciled := do
  if observed.runtimeState = .failed then
    match ← modify true (.failure asked observed) (failing assigned.uid observed) with
    | .written _ | .stopped (.found _) => return .ok ()
    | .stopped (.failure err) => return .error err
    | .absent | .failed => return .error .other
  else patchStatus (.observe asked observed) (observedStatus assigned observed)

/-- `reconcileEnsure` once an observation is there. -/
def ensureObserved (assigned : Sandbox) (observed : Observation) : Program Reconciled :=
  match assigned.assignment with
  | none => return .error .unknownOutcome
  | some asked => do
    if observed.runtimeState = .ready ∧ observed.acceptedGeneration < assigned.generation then
      match ← reconcileBindings assigned with
      | .error (.invalidActionDesiredState message) =>
        markActionDesiredStateInvalid assigned message
      | .error err => return .error err
      | .ok observed => projectObservation assigned asked observed
    else projectObservation assigned asked observed

/-- `reconcileEnsure` after the assignment. -/
def ensureAssigned (assigned : Sandbox) (newlyAssigned : Bool) : Program Reconciled := do
  match ← markResourceResolved assigned with
  | .error err => return .error err
  | .ok _ =>
    if ← fastPathCreateActive then return .ok ()
    else
      match ← ensureOrObserve assigned newlyAssigned with
      | .error err => ensureFailed assigned err
      | .ok observed => ensureObserved assigned observed

def assignFailed : Failure → Program Reconciled
  | .resourceResolution reason message => markResourceUnresolved sb reason message
  | .noCandidate => do
    match ← markResourceResolved sb with
    | .error err => return .error err
    | .ok _ =>
      let _ ← markPending sb "NoCandidate" "No Ready Fastlet currently accepts this Pool/profile"
      return .ok ()
  | .fastletUnavailable => markAssignedFastletUnavailable sb
  | err => return .error err

/-- Whether the Pod named by the status is lost, which is not asked during a Create of this
replica. -/
def statusPodLost : Program (Except Failure Bool) := do
  if sb.status.placement.fastletName = "" then return .ok false
  else if ← fastPathCreateActive then return .ok false
  else assignedPodLost sb

def reconcileEnsure : Program Reconciled := do
  match ← statusPodLost sb with
  | .error err => return .error err
  | .ok true => reconcilePodLost sb
  | .ok false =>
    match ← assignDeclarativePreferring sb sb.resumeCheckpoint with
    | .error err => assignFailed sb err
    | .ok (assigned, newlyAssigned) => ensureAssigned assigned newlyAssigned

/-! ## The pause machine -/

def pausedStatus : SandboxStatus :=
  let message := "Sandbox is paused; set spec.state=Running to resume from the checkpoint"
  ((st.setControllerStates .paused .unavailable message).setSandboxReadyCondition generation
    "Suspended" message).setSandboxSuspendedCondition generation true "CheckpointPublished" message

/-- The end of `releasePausedRuntime`: Paused is shown once the assignment is cleared. -/
def finishRelease : Program Reconciled := do
  match ← clearAssignment sb .release false with
  | .error err => return .error err
  | .ok _ => patchStatus .status (pausedStatus sb.generation)

def releasePausedRuntime (checkpointID : String) : Program Reconciled :=
  match sb.assignment with
  | none => finishRelease sb
  | some _ => do
    match ← ensureRuntimeDeleted sb (.pause checkpointID) with
    | .error err => return .error err
    | .ok (false, _) => return .ok ()
    | .ok (true, sb) =>
      let _ ← checkpointCall sb .delete checkpointID
      finishRelease sb

def retryStatus (reason message : String) (st : SandboxStatus) : SandboxStatus :=
  let attempt := if st.runtime.pauseAttempt < 1 then 1 else st.runtime.pauseAttempt
  let st := { st with runtime := { st.runtime with pauseAttempt := attempt + 1 } }
  ((st.setControllerStates .ready .ready message).setSandboxReadyCondition generation "PauseFailed"
    message).setSandboxSuspendedCondition generation false reason message

def retryPause (checkpointID reason message : String) : Program Reconciled := do
  let _ ← checkpointCall sb .delete checkpointID
  let message := if message = "" then "Sandbox pause attempt failed; retrying" else message
  patchStatus .pauseRetry (retryStatus sb.generation reason message)

def pauseHindered (reason message : String) (st : SandboxStatus) :
    SandboxStatus :=
  (st.setSandboxReadyCondition generation reason message).setSandboxSuspendedCondition generation
    false reason message

/-- `markPauseWaiting` and `markPauseRejected`, which write the same conditions. -/
def markPause : Program Reconciled :=
  patchStatus .status (pauseHindered sb.generation reason message)

/-- The codes that `handlePauseCallError` records. -/
def recordedPauseError : SnapshotErrorCode → Bool
  | .snapshotInProgress => true
  | .common code =>
    code = .snapshotUnsupported || code = .notFound || code = .conflict ||
      code = .staleAssignment || code = .staleGeneration || code = .generationFenced ||
      code = .draining || code = .runtimeUnavailable || code = .inProgress

def handlePauseCallError : Failure ⊕ SnapshotCallError → Program Reconciled
  | .inl .fastletUnavailable =>
    markPause sb "FastletUnavailable" "assigned Fastlet is unavailable; pause is retrying"
  | .inl _ | .inr .transport => return .ok ()
  | .inr (.fastlet code message) =>
    if recordedPauseError code then markPause sb code.text message
    else return .ok ()

def checkpointed (checkpoint : CheckpointStatus) (generation : ℤ) (st : SandboxStatus) :
    SandboxStatus :=
  let message := "Checkpoint is durable in the artifact store; releasing the runtime"
  let st := { st with runtime := { st.runtime with checkpoint := some checkpoint } }
  ((st.setControllerStates .pausing .unavailable message).setSandboxReadyCondition generation
    "Pausing" message).setSandboxSuspendedCondition generation false "CheckpointPublished" message

/-- `persistPauseCheckpoint`: the address is stored before the runtime is touched. -/
def persistPauseCheckpoint (checkpointID : String) (observed : SnapshotStatus) :
    Program Reconciled :=
  match sb.effectiveAssignment with
  | .error err => return .error err
  | .ok none => return .error .fastletUnavailable
  | .ok (some e) => do
    let checkpoint : CheckpointStatus :=
      { checkpointID
        manifestRef := observed.manifestRef
        artifactDigest := observed.artifactDigest
        sizeBytes := observed.sizeBytes
        fastletName := e.fastletName
        fastletPodUID := e.fastletPodUID }
    match ← patchStatus (.checkpoint checkpoint) (checkpointed checkpoint sb.generation) with
    | .error err => return .error err
    | .ok _ => releasePausedRuntime sb checkpointID

def pausingStatus (phase : SnapshotPhase) (message : String)
    (st : SandboxStatus) : SandboxStatus :=
  ((st.setControllerStates .pausing .unavailable message).setSandboxReadyCondition generation
    "Pausing" message).setSandboxSuspendedCondition generation false phase.text message

def projectPauseObservation (checkpointID : String) (observed : SnapshotStatus) :
    Program Reconciled :=
  match observed.phase with
  | .succeeded => persistPauseCheckpoint sb checkpointID observed
  | .failed =>
    retryPause sb checkpointID (if observed.reason = "" then "PauseFailed" else observed.reason)
      observed.message
  | .pending | .creating | .publishing =>
    patchStatus .status (pausingStatus sb.generation observed.phase
      (if observed.message = "" then "Sandbox checkpoint is " ++ observed.phase.text
        else observed.message))

section

variable (digest : String → String)

def triggerPause (sb : Sandbox) : Program Reconciled := do
  match ← checkpointCall sb .create (pauseCheckpointID digest sb) with
  | .error err => handlePauseCallError sb err
  | .ok observed => projectPauseObservation sb (pauseCheckpointID digest sb) observed

def observePause (sb : Sandbox) : Program Reconciled := do
  match ← checkpointCall sb .observe (pauseCheckpointID digest sb) with
  | .error (.inr (.fastlet (.common .notFound) _)) =>
    retryPause sb (pauseCheckpointID digest sb) "PauseLost"
      "Fastlet no longer reports the pause task; retrying with a new attempt"
  | .error err => handlePauseCallError sb err
  | .ok observed => projectPauseObservation sb (pauseCheckpointID digest sb) observed

def reconcilePause (sb : Sandbox) : Program Reconciled :=
  match sb.status.runtime.state with
  | .paused => do
    if sb.status.placement.fastletName = "" then return .ok ()
    else
      match ← clearAssignment sb .paused false with
      | .error err => return .error err
      | .ok _ => return .ok ()
  | .pausing =>
    match sb.status.runtime.checkpoint with
    | some checkpoint => releasePausedRuntime sb checkpoint.checkpointID
    | none => observePause digest sb
  | .ready => triggerPause digest sb
  | .unset | .pending | .creating | .unavailable | .resuming => reconcileEnsure sb
  | .unknown | .stopping | .stopped | .failed =>
    markPause sb "PauseUnsupported"
      ("Sandbox runtime is " ++ sb.status.runtime.state.text ++
        "; only a Ready runtime can be paused")

/-- The finalizer is added to the very version that was read. -/
def protecting (sb current : Sandbox) : Verdict :=
  if current.resourceVersion = sb.resourceVersion then
    .write { current with cleanupFinalizer := true }
  else .stop (.failure .other)

/-- The part of `Reconcile` that follows the read. -/
def reconcileVersion (sb : Sandbox) (now : Time) : Program Reconciled :=
  if sb.deleting then reconcileDeletion sb
  else if !sb.cleanupFinalizer then do
    match ← modify false .protect (protecting sb) with
    | .written _ => return .ok ()
    | .stopped _ | .absent | .failed => return .error .other
  else if sb.resetPending then reconcileReset sb
  else if sb.expirationPending now then reconcileExpiration sb
  else if sb.terminalRuntimeFailureRecorded then reconcileTerminalRuntimeFailure sb
  else
    match sb.status.runtime.state, sb.status.runtime.checkpoint with
    | .pausing, some checkpoint => releasePausedRuntime sb checkpoint.checkpointID
    | _, _ => if sb.spec.state = .paused then reconcilePause digest sb else reconcileEnsure sb

def reconcile : Program Reconciled := do
  perform .dequeue
  match ← get .cache with
  | .absent => return .ok ()
  | .failed => return .error .other
  | .found sb => do
    let now ← readClock
    reconcileVersion digest sb now

end

/-! ## FastPath -/

/-- A CreateSandbox request. Its ID also names the object. -/
structure CreateSandboxCall where
  (requestID createSpecHash : String)
  spec : SandboxSpec

structure AcceptedCreate where
  sandbox : Sandbox
  candidates : List Candidate
  assignment : AssignmentEnvelope
  created : Bool

/-- A planned object; the API server gives it its UID and version. -/
def CreateSandboxCall.planned (call : CreateSandboxCall) (assignment : AssignmentEnvelope) :
    Sandbox where
  uid := ""
  cleanupFinalizer := true
  requestID := call.requestID
  createSpecHash := call.createSpecHash
  assignment := some assignment
  spec := call.spec

/-- What `loadExistingCreateIntent` finds. -/
inductive Loaded
  | missing
  | refused
  | unassigned
  | accepted (a : AcceptedCreate)

/-- The finalizer that an older server may have left out. -/
def protectIntent : Program (Option Sandbox) :=
  if sb.cleanupFinalizer then return some sb
  else do
    match ← modify false .protect (protecting sb) with
    | .written sb => return some sb
    | .stopped _ | .absent | .failed => return none

/-- The end of `loadExistingCreateIntent`: the assigned Fastlet has to be in the registry. -/
def acceptLoaded : Program Loaded :=
  match sb.assignment with
  | none => return .unassigned
  | some e => do
    match ← registered e.fastletName with
    | none => return .refused
    | some selected =>
      return .accepted
        { sandbox := sb, candidates := [selected], assignment := e, created := false }

/-- An existing object is taken up only for the same request, and neither paused nor deleted. -/
def CreateSandboxCall.adopts (call : CreateSandboxCall) (existing : Sandbox) : Bool :=
  existing.requestID = call.requestID && existing.createSpecHash = call.createSpecHash &&
    existing.spec.state ≠ .paused && existing.status.runtime.state ≠ .paused && !existing.deleting

/-- `loadExistingCreateIntent`. `plan` is the assignment of the selected candidate, if any. -/
def loadExistingCreateIntent (call : CreateSandboxCall) (plan : Option AssignmentEnvelope) :
    Program Loaded := do
  match ← get .intent with
  | .absent => return .missing
  | .failed => return .refused
  | .found existing =>
    if !call.adopts existing then return .refused
    else
      match ← protectIntent existing with
      | none => return .refused
      | some existing =>
        match existing.assignment, plan with
        | none, some desired =>
          match ← initializeAssignment none desired with
          | .error _ => return .refused
          | .ok (existing, _) => acceptLoaded existing
        | _, _ => acceptLoaded existing

/-- `finishRejectedCreate` with `rollbackRejectedCreate`. -/
def finishRejectedCreate (accepted : AcceptedCreate) : Program CreateAnswer :=
  if !accepted.created then return .refused
  else do
    match ← delete accepted.sandbox.uid true with
    | .deleted | .absent => return .resourceExhausted
    | .failed => return .refused

/-- `CreateRuntimeOnCandidateWithCompletion`. -/
def createRuntimeOnCandidate (accepted : AcceptedCreate) (candidate : Candidate) :
    Program (Option Observation × Option Failure) :=
  if accepted.sandbox.assignment ≠ some accepted.assignment then
    return (none, some .annotationChanged)
  else if candidate.podName = accepted.assignment.fastletName ∧
      candidate.serves accepted.assignment then
    createRuntimeOnTarget accepted.sandbox accepted.assignment false
  else return (none, some .fastletUnavailable)

/-- `advanceCreateAssignment`. The wait for a lagging projection only repeats the CAS. -/
def advanceCreateAssignment (accepted : AcceptedCreate) (candidate : Candidate) :
    Program (Option AcceptedCreate) := do
  let id ← generateRequestID
  match assignmentForCandidate candidate (accepted.assignment.attempt + 1)
      accepted.assignment.instanceGeneration (accepted.assignment.routeGeneration + 1) id with
  | none => return none
  | some next =>
    match ← casAssignment accepted.assignment next with
    | .ok sb => return some { accepted with sandbox := sb, assignment := next }
    | .error _ => return none

/-- The assignment for the candidate of the current index: the first one has it already. -/
def assignCandidate (accepted : AcceptedCreate) (candidate : Candidate) (first : Bool) :
    Program (Option AcceptedCreate) :=
  if first then return some accepted else advanceCreateAssignment accepted candidate

def maxCreateCandidateAttempts : ℕ := 32

/-- The loop of `provisionRuntime`. `pending` are the candidates from the current index on,
`first` tells that the index is 0, and `budget` is how many candidates may still be tried. -/
def provisionRuntime (accepted : AcceptedCreate) (pending : List Candidate) (tried : List String)
    (first : Bool) : ℕ → Program CreateAnswer
  | 0 => return .resourceExhausted
  | budget + 1 =>
    match pending.dropWhile (tried.contains ·.podName) with
    | [] => return .resourceExhausted
    | candidate :: rest => do
      match ← assignCandidate accepted candidate first with
      | none => return .refused
      | some accepted =>
        match ← createRuntimeOnCandidate accepted candidate with
        | (some _, none) => return .success accepted.sandbox.uid
        | (none, none) => return .refused
        | (_, some err) =>
          if !isCandidateRejection err &&
              !(accepted.created && err = .localReservationConflict) then return .refused
          else if budget = 0 then finishRejectedCreate accepted
          else if rest ≠ [] then
            provisionRuntime accepted rest (candidate.podName :: tried) false budget
          else if accepted.created then
            -- only a definite rejection permits widening the placement
            match ← candidates (candidate.podName :: tried) with
            | .error .noCandidate => finishRejectedCreate accepted
            | .error _ => return .refused
            | .ok [] => finishRejectedCreate accepted
            | .ok more =>
              provisionRuntime accepted (more.take budget) (candidate.podName :: tried) false budget
          else finishRejectedCreate accepted

def AcceptedCreate.provision (a : AcceptedCreate) : Program CreateAnswer :=
  provisionRuntime a a.candidates [] true maxCreateCandidateAttempts

/-- `CreateSandbox` when no candidate was selected: only an intent that exists is resumed. -/
def resumeIntent (call : CreateSandboxCall) : Program (CreateAnswer × Option String) := do
  match ← loadExistingCreateIntent call none with
  | .missing | .unassigned => return (.resourceExhausted, none)
  | .refused => return (.refused, none)
  | .accepted a => do
    let answer ← a.provision
    return (answer, none)

/-- `CreateSandbox` with a plan. -/
def acceptIntent (call : CreateSandboxCall) (ranked : List Candidate) (plan : AssignmentEnvelope) :
    Program (CreateAnswer × Option String) := do
  match ← create (call.planned plan) with
  | .created sb => do
    let accepted : AcceptedCreate :=
      { sandbox := sb, candidates := ranked, assignment := plan, created := true }
    let answer ← accepted.provision
    return (answer, some sb.uid)
  | .failed =>
    match ← loadExistingCreateIntent call (some plan) with
    | .missing | .unassigned | .refused => return (.refused, none)
    | .accepted a => do
      let answer ← a.provision
      return (answer, none)

/-- `CreateSandbox`: its answer, and the UID of the object that this call created. -/
def createSandbox (call : CreateSandboxCall) : Program (CreateAnswer × Option String) := do
  match ← candidates [] with
  | .error .noCandidate | .ok [] => resumeIntent call
  | .error _ => return (.refused, none)
  | .ok (candidate :: rest) => do
    let id ← generateRequestID
    match assignmentForCandidate candidate 1 1 1 id with
    | none => return (.refused, none)
    | some plan => acceptIntent call (candidate :: rest) plan

/-- A call of `CreateSandbox`. -/
def serveCreate (call : CreateSandboxCall) : Program Unit := do
  let (answer, own) ← createSandbox call
  perform (.answer answer own)

end FastSandbox.ControlPlane
