import FastSandbox.Fastlet.System

/-!
# Snapshot tasks on a Fastlet

`CreateSnapshot`, the worker it starts, `InspectSnapshot` and `DeleteSnapshot`, as a second system
beside the Sandbox manager: they read the manager's records and flags under its lock and change
only the table of snapshot tasks. A `Ref` is the address of a task: the worker keeps the task it
was started with, whatever the table holds under its UID. Timestamps and diagnostics are left out.
-/

namespace FastSandbox.Fastlet

open DataPlane
open Interleaving

/-! ## Tasks -/

inductive SnapshotPhase
  | pending
  | creating
  | publishing
  | succeeded
  | failed
deriving DecidableEq

/-- `SnapshotPhaseTerminal`. -/
def SnapshotPhase.terminal : SnapshotPhase → Bool
  | .succeeded | .failed => true
  | .pending | .creating | .publishing => false

/-- Does a task in this phase still occupy the pause window of its Sandbox? -/
def holdsPauseWindow (phase : SnapshotPhase) : Bool :=
  !phase.terminal && decide (phase ≠ .publishing)

/-- `unset` is the empty text, which stands for a template. -/
inductive SnapshotKind
  | unset
  | template
  | checkpoint
  | other (text : String)
deriving DecidableEq

structure SnapshotIdentity where
  snapshotUID : String
  (snapshotNamespace name : String := "")
  sandbox : SandboxIdentity

structure CreateSnapshotRequest where
  identity : SnapshotIdentity
  kind : SnapshotKind := .unset
  templateName : String := ""

structure SnapshotResult where
  (manifestRef artifactDigest : String)
  sizeBytes : ℤ

structure SnapshotTask where
  identity : SnapshotIdentity := ⟨"", "", "", {}⟩
  kind : SnapshotKind := .unset
  (templateName snapshotID : String := "")
  phase : SnapshotPhase := .pending
  (reason message : String := "")
  result : Option SnapshotResult := none

structure SnapshotStatus where
  snapshotID : String
  phase : SnapshotPhase
  (reason message : String)
  (manifestRef artifactDigest : String := "")
  sizeBytes : ℤ := 0

def SnapshotTask.status (task : SnapshotTask) : SnapshotStatus where
  snapshotID := task.snapshotID
  phase := task.phase
  reason := task.reason
  message := task.message
  manifestRef := (task.result.map SnapshotResult.manifestRef).getD ""
  artifactDigest := (task.result.map SnapshotResult.artifactDigest).getD ""
  sizeBytes := (task.result.map SnapshotResult.sizeBytes).getD 0

/-! ## Answers -/

/-- The error codes of the snapshot calls: those of the Sandbox calls and two of their own. -/
inductive SnapshotErrorCode
  | fastlet (code : FastletErrorCode)
  | snapshotInProgress
  | unknownOutcome

structure SnapshotFailure where
  code : SnapshotErrorCode
  message : String
  retryable : Bool

def FastletError.snapshot (err : FastletError) : SnapshotFailure where
  code := .fastlet err.code
  message := err.message
  retryable := err.retryable

def snapshotFailure (code : FastletErrorCode) (message : String) (retryable : Bool) :
    SnapshotFailure :=
  ⟨.fastlet code, message, retryable⟩

/-- What was answered. A failed `CreateSnapshot` always answers `RejectedBeforeSideEffects`. -/
inductive SnapshotEntry
  | admitted (request : CreateSnapshotRequest) (status : SnapshotStatus)
  | existing (request : CreateSnapshotRequest) (status : SnapshotStatus)
  | rejected (request : CreateSnapshotRequest) (failure : SnapshotFailure)
  | inspected (identity : SnapshotIdentity) (result : Except SnapshotFailure SnapshotStatus)
  | deleted (identity : SnapshotIdentity) (failure : Option SnapshotFailure)

/-- The tasks, the table `m.snapshots`, and the answers given. -/
structure SnapshotTable where
  tasks : Ref → SnapshotTask := fun _ => {}
  next : Ref := 0
  snapshots : Table Ref := ∅
  log : List SnapshotEntry := []

namespace SnapshotTable

variable (s : SnapshotTable) (snapshotUID : String)

def write (e : SnapshotEntry) : SnapshotTable := { s with log := e :: s.log }

def lookup : Option Ref := s.snapshots.lookup snapshotUID

/-- The tasks of `m.snapshots`, as `range` visits them. -/
def managed : List SnapshotTask := s.snapshots.entries.map fun entry => s.tasks entry.2

def modify (p : Ref) (f : SnapshotTask → SnapshotTask) : SnapshotTable :=
  { s with tasks := Function.update s.tasks p (f (s.tasks p)) }

def install (task : SnapshotTask) : SnapshotTable :=
  { s with
    tasks := Function.update s.tasks s.next task
    next := s.next + 1
    snapshots := s.snapshots.insert task.identity.snapshotUID s.next }

/-- Put an old task back under a UID. -/
def restore (p : Ref) : SnapshotTable := { s with snapshots := s.snapshots.insert snapshotUID p }

def drop : SnapshotTable := { s with snapshots := s.snapshots.erase snapshotUID }

end SnapshotTable

/-! ## Admission -/

/-- The Sandbox configuration, and whether its runtime implements snapshots. -/
structure SnapshotConfig where
  fastlet : Config
  snapshotter : Bool := true
  runtimeName : String := ""

variable (cfg : SnapshotConfig) (m : Manager)

variable (s : SnapshotTable) (request : CreateSnapshotRequest)

def validateSnapshotRequest :
    Option SnapshotFailure :=
  if request.identity.snapshotUID = "" ∨ request.identity.snapshotNamespace = "" ∨
      request.identity.name = "" then
    some (snapshotFailure .conflict "snapshotUid, namespace, and name are required" false)
  else
    match request.kind with
    | .other text => some (snapshotFailure .conflict ("unknown snapshot kind " ++ text) false)
    | .checkpoint =>
      if request.templateName ≠ "" then
        some (snapshotFailure .conflict
          "checkpoint snapshots publish no template index; templateName must be empty" false)
      else (validateIdentityTarget cfg.fastlet request.identity.sandbox).map FastletError.snapshot
    | .unset | .template =>
      (validateIdentityTarget cfg.fastlet request.identity.sandbox).map FastletError.snapshot

/-- Two identities name the same attempt of the same Sandbox; the route generation is ignored. -/
def sameSnapshotSandboxClaim (existing requested : SandboxIdentity) : Bool :=
  existing.sandboxUID = requested.sandboxUID &&
    existing.sandboxNamespace = requested.sandboxNamespace &&
    existing.name = requested.name &&
    existing.instanceGeneration = requested.instanceGeneration &&
    existing.runtimeInstanceID = requested.runtimeInstanceID &&
    existing.assignmentAttempt = requested.assignmentAttempt &&
    existing.fastletPodUID = requested.fastletPodUID

/-- The prefix of a template kept in a registry. -/
def ociTemplatePrefix : String := "oci://"

/-- What the Sandbox boots from. -/
def snapshotImage (desired : SandboxDesiredSpec) : String := desired.restore.getD desired.image

def snapshotTargetFailure :
    Option SnapshotFailure :=
  match m.lookup request.identity.sandbox.sandboxUID with
  | none => some (snapshotFailure .notFound "target Sandbox is not managed by this Fastlet" false)
  | some p =>
    match validateIdentityFence cfg.fastlet.fastletPodUID (m.config p).identity
        request.identity.sandbox with
    | some err => some err.snapshot
    | none =>
      if requiresStrictActionHandling cfg.fastlet (m.config p).actionsAPIVersion then
        some (snapshotFailure .snapshotUnsupported
          "Actions v2 management does not support snapshots in this release" false)
      else if m.phase p ≠ .running then
        some (snapshotFailure .runtimeUnavailable
          ("target Sandbox runtime is \"" ++ (m.phase p).text ++ "\", not running") true)
      else if request.kind ≠ .checkpoint ∧ request.templateName = "" ∧
          ¬ (ociTemplatePrefix.toList <+: (snapshotImage (m.config p).desired).toList) then
        some (snapshotFailure .conflict "templateName is required for a native template snapshot"
          false)
      else none

/-- The two fences against other tasks: the pause window of the Sandbox, and the template name,
which is held until the task has terminated. -/
def snapshotFenceFailure :
    Option SnapshotFailure :=
  if s.managed.any fun task =>
      task.identity.sandbox.sandboxUID = request.identity.sandbox.sandboxUID &&
        holdsPauseWindow task.phase then
    some ⟨.snapshotInProgress,
      "another snapshot is still dumping this Sandbox; retry once it reaches Publishing", false⟩
  else if (request.kind ≠ .checkpoint ∧ request.templateName ≠ "") ∧
      s.managed.any fun task =>
        !task.phase.terminal && decide (task.templateName = request.templateName) then
    some ⟨.snapshotInProgress, "template name is held by a snapshot that has not terminated; " ++
      "retry after it terminates or use another name", false⟩
  else none

inductive SnapshotCall
  | create (request : CreateSnapshotRequest)
  | inspect (identity : SnapshotIdentity)
  | delete (identity : SnapshotIdentity)

/-- The places at which the calls and the workers stand. During `dump` the driver runs. -/
inductive SnapshotWork
  | call (c : SnapshotCall)
  | start (p : Ref)
  | creating (p : Ref)
  | dump (p : Ref)
  | result (p : Ref) (r : SnapshotResult)
  | finish (p : Ref) (phase : SnapshotPhase) (reason message : String)
  | cleanup (identity : SnapshotIdentity) (p : Ref)
  | restore (identity : SnapshotIdentity) (p : Ref) (err : String)

def newSnapshotTask (snapshotID : String) : SnapshotTask where
  identity := request.identity
  kind := request.kind
  templateName := request.templateName
  snapshotID := snapshotID

/-- The last part of the section: a fresh id, the task and its worker. -/
def admitSnapshot :
    Except String String → SnapshotTable × List SnapshotWork
  | .error err =>
    (s.write (.rejected request ⟨.unknownOutcome, "generate snapshot id: " ++ err, true⟩), [])
  | .ok snapshotID =>
    let task := newSnapshotTask request snapshotID
    ((s.install task).write (.admitted request task.status), [.start s.next])

/-- `CreateSnapshot`. The environment gives the random id. -/
def createSnapshot (newID : Except String String) :
    SnapshotTable × List SnapshotWork :=
  let reject (failure : SnapshotFailure) : SnapshotTable × List SnapshotWork :=
    (s.write (.rejected request failure), [])
  match validateSnapshotRequest cfg request with
  | some failure => reject failure
  | none =>
    if !cfg.snapshotter then
      reject (snapshotFailure .snapshotUnsupported
        ("runtime \"" ++ cfg.runtimeName ++ "\" does not implement sandbox snapshots") false)
    else if !m.runtimeReady || m.recovering then
      reject (snapshotFailure .runtimeUnavailable "Fastlet runtime is recovering; retry later" true)
    else if m.draining then reject (snapshotFailure .draining "Fastlet is draining" true)
    else
      match s.lookup request.identity.snapshotUID with
      | some p =>
        if sameSnapshotSandboxClaim (s.tasks p).identity.sandbox request.identity.sandbox then
          (s.write (.existing request (s.tasks p).status), [])
        else
          reject (snapshotFailure .conflict
            "snapshotUid is already bound to a different target Sandbox claim" false)
      | none =>
        match snapshotTargetFailure cfg m request with
        | some failure => reject failure
        | none =>
          match snapshotFenceFailure s request with
          | some failure => reject failure
          | none => admitSnapshot s request newID

/-! ## The worker -/

/-- `setSnapshotPhaseLocked`. -/
def SnapshotTask.setPhase (task : SnapshotTask) (phase : SnapshotPhase) (message : String) :
    SnapshotTask :=
  { task with
    phase := phase
    message := if message ≠ "" then message else task.message }

/-- The worker looks whether its Sandbox is still running. -/
def startSnapshot (p : Ref) : SnapshotWork :=
  match m.lookup (s.tasks p).identity.sandbox.sandboxUID with
  | some q =>
    if m.phase q = .running then .creating p
    else .finish p .failed "" "target Sandbox is no longer running on this Fastlet"
  | none => .finish p .failed "" "target Sandbox is no longer running on this Fastlet"

/-- An error of the driver; storage shortage is told apart. -/
structure DumpError where
  message : String
  insufficientStorage : Bool

/-- The driver has returned. -/
def dumped (p : Ref) : Except DumpError (Option SnapshotResult) → SnapshotWork
  | .error err =>
    .finish p .failed (if err.insufficientStorage then "InsufficientStorage" else "") err.message
  | .ok none => .finish p .failed "" "snapshot dump failed"
  | .ok (some r) => .result p r

/-! ## Inspection and deletion -/

def inspectSnapshot (identity : SnapshotIdentity) :
    Except SnapshotFailure SnapshotStatus :=
  if identity.snapshotUID = "" then
    .error (snapshotFailure .conflict "snapshotUid is required" false)
  else
    match validateIdentityTarget cfg.fastlet identity.sandbox with
    | some err => .error err.snapshot
    | none =>
      match (s.lookup identity.snapshotUID).filter fun p =>
          sameSnapshotSandboxClaim (s.tasks p).identity.sandbox identity.sandbox with
      | some p => .ok (s.tasks p).status
      | none =>
        .error (snapshotFailure .notFound "snapshot task is not known to this Fastlet" false)

/-- `DeleteSnapshot` up to the cleanup: a terminal task leaves the table. -/
def deleteSnapshot (identity : SnapshotIdentity) :
    SnapshotTable × List SnapshotWork :=
  let answer (failure : Option SnapshotFailure) : SnapshotTable × List SnapshotWork :=
    (s.write (.deleted identity failure), [])
  if identity.snapshotUID = "" then
    answer (some (snapshotFailure .conflict "snapshotUid is required" false))
  else
    match validateIdentityTarget cfg.fastlet identity.sandbox with
    | some err => answer (some err.snapshot)
    | none =>
      match s.lookup identity.snapshotUID with
      | none => answer none
      | some p =>
        if !sameSnapshotSandboxClaim (s.tasks p).identity.sandbox identity.sandbox then
          answer (some (snapshotFailure .conflict
            "snapshotUid is bound to a different target Sandbox claim" false))
        else if !(s.tasks p).phase.terminal then
          answer (some (snapshotFailure .inProgress
            "snapshot task is still running; deletion waits for a terminal phase" true))
        else if cfg.snapshotter then (s.drop identity.snapshotUID, [.cleanup identity p])
        else ((s.drop identity.snapshotUID).write (.deleted identity none), [])

/-- The cleanup has failed: the task is put back. -/
def restoreSnapshot (identity : SnapshotIdentity) (p : Ref) (err : String) :
    SnapshotTable :=
  (s.restore identity.snapshotUID p).write (.deleted identity
    (some ⟨.unknownOutcome, "snapshot artifact cleanup failed: " ++ err, true⟩))

/-! ## The system -/

/-- What the environment decides: the random id, the driver's callback and answer, and the answer
of the artifact cleanup, with whether it says that nothing was found. -/
inductive SnapshotChoice
  | go
  | newID (result : Except String String)
  | publishing
  | dumped (result : Except DumpError (Option SnapshotResult))
  | cleaned (err : Option (String × Bool))

def advanceSnapshot :
    SnapshotWork → SnapshotChoice → Option (SnapshotTable × List SnapshotWork)
  | .call (.create request), .newID result => some (createSnapshot cfg m s request result)
  | .call (.inspect identity), .go =>
    some (s.write (.inspected identity (inspectSnapshot cfg s identity)), [])
  | .call (.delete identity), .go => some (deleteSnapshot cfg s identity)
  | .start p, .go => some (s, [startSnapshot m s p])
  | .creating p, .go =>
    some (s.modify p (·.setPhase .creating "dumping vmstate/memory and cloning the rootfs"),
      [.dump p])
  | .dump p, .publishing =>
    some (s.modify p
      (·.setPhase .publishing "artifact set staged; publishing to the artifact store"), [.dump p])
  | .dump p, .dumped result => some (s, [dumped p result])
  | .result p r, .go =>
    some (s.modify p fun task => { task with result := some r }, [.finish p .succeeded "" ""])
  | .finish p phase reason message, .go =>
    some (s.modify p fun task => { task.setPhase phase message with reason := reason }, [])
  | .cleanup identity p, .cleaned err =>
    match err with
    | some (text, false) => some (s, [.restore identity p text])
    | some (_, true) | none => some (s.write (.deleted identity none), [])
  | .restore identity p err, .go => some (restoreSnapshot s identity p err, [])
  | _, _ => none

/-- The Sandbox manager with the snapshot calls beside it. -/
def snapshotSystem :
    System (Manager × SnapshotTable) (Task ⊕ SnapshotWork) (Call ⊕ SnapshotCall)
      (Choice ⊕ SnapshotChoice) :=
  (system cfg.fastlet).beside .call (advanceSnapshot cfg)

/-- A fresh process: snapshot tasks do not survive a restart. -/
def snapshotStart (instances : List String) :
    World (Manager × SnapshotTable) (Task ⊕ SnapshotWork) where
  shared := ((start cfg.fastlet instances).shared, {})
  tasks := (start cfg.fastlet instances).tasks.map .inl

end FastSandbox.Fastlet
