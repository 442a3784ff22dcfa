import FastSandbox.Fastlet.Tasks

/-!
# Sections of CreateSandbox, its cleanup and the image boot worker
-/

namespace FastSandbox.Fastlet

open Function

variable (cfg : Config) (m : Manager) (c : Creation) (services : List ServiceEndpoint)

def Creation.uid : String := c.input.identity.sandboxUID

/-- `m.sandboxes[sandboxUID] == placeholder`. -/
def Creation.Managed (m : Manager) : Prop := m.lookup c.uid = some c.placeholder

instance (c : Creation) (m : Manager) : Decidable (c.Managed m) :=
  inferInstanceAs (Decidable (_ = _))

def Creation.strict : Bool := requiresStrictActionHandling cfg c.input.actionsAPIVersion

def answerCreate (req : CreateSandboxRequest) (response : CreateSandboxResponse) :
    Manager × List Task :=
  (m.write (.created req response), [])

/-! ## Admission and registration -/

/-- `deliveryForCreate`: does the runtime deliver this Sandbox's artifacts asynchronously? -/
def deliveryForCreate (input : RuntimeSandboxConfig) : Bool :=
  if input.desired.restore.isSome then cfg.checkpointDelivery else cfg.imageDelivery

/-- `CreateSandbox` up to the end of its reservation. -/
def beginCreate (req : CreateSandboxRequest)
    (actionsReady resourceAvailable : Bool) : Manager × List Task :=
  match hinput : prepareCreateInput cfg req with
  | .error failure => answerCreate m req (createFailure failure {})
  | .ok input =>
    match reserveSandboxForCreate cfg m req input actionsReady resourceAvailable with
    | (m, .rejected failure disposition) =>
      answerCreate m req (createFailureWithDisposition failure (admissionStatus cfg m) disposition)
    | (m, .answered response) => answerCreate m req response
    | (m, .existing success) => (m, [.finishCreate req success])
    | (m, .cleanupExisting p) => (m, [.retryCleanup ⟨req, input, p, prepareCreateInput_uid hinput⟩])
    | (m, .placeholder p) =>
      let c : Creation := ⟨req, input, p, prepareCreateInput_uid hinput⟩
      (m, [.creation c
        (if c.strict cfg && cfg.actionManager.isSome then .checkOwner else .registerActions)])

def afterRegister : Task :=
  .creation c (if deliveryForCreate cfg c.input then .deliver else .ensure)

/-- May a Sandbox still take Action work? Admission registers before the runtime exists. -/
def actionWorkAllowed (p : Ref) : Bool :=
  decide (m.Current p) && decide (m.terminalFailureWorkers (m.uid p) ≠ some p) &&
    (m.phase p = .creating || m.phase p = .imagePending || runtimeCreatedPhase (m.phase p))

/-- The locked section of `registerDesiredActions`. -/
def registerDesiredActions : Task :=
  if !actionWorkAllowed m c.placeholder then
    .creation c (.registerFailed "Sandbox is no longer accepting Action work" false)
  else
    match cfg.actionManager with
    | none =>
      if c.req.actionBindings ≠ [] then
        .creation c (.registerFailed "Fastlet has no Action Handler configuration" false)
      else afterRegister cfg c
    | some _ => .creation c .registerWait

/-- The failing end of `registerDesiredBindings`. -/
def registerFailed (err : String) (retired : Bool) :
    Manager × List Task :=
  let m := if m.Current c.placeholder then m.drop (m.uid c.placeholder) else m
  let failure :=
    if retired then fastletError .generationFenced err false
    else fastletError .actionUnavailable err (c.strict cfg)
  answerCreate m c.req
    (createFailureWithDisposition failure (admissionStatus cfg m) .rejectedBeforeSideEffects)

/-! ## Cleanup of a failed creation -/

def beginCleanup (o : CleanupOwner) (c : Creation) : Task :=
  if c.strict cfg then
    match cfg.actionManager with
    | none =>
      .cleanup o c
        (.settle (some "strict Action Handler is unavailable; runtime cleanup is blocked"))
    | some _ => .cleanup o c .owned
  else .cleanup o c .teardown

/-- After `runtime.DeleteSandbox` returned. -/
def afterTeardown (o : CleanupOwner) (c : Creation) (err : Option String) : Task :=
  if c.strict cfg || cfg.actionManager.isNone then .cleanup o c (.settle err)
  else .cleanup o c (.actions err)

/-- `errors.Join`. -/
def joinErrors : Option String → Option String → Option String
  | none, err => err
  | err, none => err
  | some a, some b => some (a ++ "\n" ++ b)

def runtimeErrorCode : RuntimeFailure → FastletErrorCode
  | .networkUnavailable => .networkUnavailable
  | .infraUnavailable => .infraUnavailable
  | .incompatibleArtifact => .profileMismatch
  | _ => .runtimeUnavailable

/-- The error a failed creation is answered with. -/
def runtimeFailure (runtimeErr : RuntimeError) (cleanupErr : Option String) : FastletError :=
  let message :=
    match cleanupErr with
    | none => runtimeErr.message
    | some err => runtimeErr.message ++ "; cleanup failed: " ++ err
  fastletError (runtimeErrorCode runtimeErr.kind) message (runtimeErr.kind ≠ .incompatibleArtifact)

/-- The last section of `handleRuntimeCreateFailure`. -/
def settleCreateFailure (runtimeErr : RuntimeError)
    (cleanupErr : Option String) : Manager × List Task :=
  let (m, disposition) : Manager × CreateDisposition :=
    if c.Managed m then
      match cleanupErr with
      | none => (m.drop c.uid, .rejectedBeforeSideEffects)
      | some _ => (m.setPhase c.placeholder .createCleanupFailed, .failedNeedsCleanup)
    else (m, .rejectedBeforeSideEffects)
  answerCreate m c.req (createFailureWithDisposition (runtimeFailure runtimeErr cleanupErr)
    (admissionStatus cfg m) disposition)

/-- The first section of `retryFailedCreateCleanup`. The phase is not looked at again. -/
def beginRetryCleanup : Manager × List Task :=
  let admission := admissionStatus cfg m
  if ¬ c.Managed m then
    answerCreate m c.req (createFailure (fastletError .conflict
      "Sandbox changed before failed Create cleanup retry" true) admission)
  else
    match validateIdentityFence cfg.fastletPodUID (m.config c.placeholder).identity
        c.input.identity with
    | some failure => answerCreate m c.req (createFailure failure admission)
    | none =>
      if !sameSandboxClaim (m.config c.placeholder) c.input then
        answerCreate m c.req (createFailure (fastletError .conflict
          "Sandbox UID is already bound to a different claim/profile" false) admission)
      else (m.setPhase c.placeholder .createCleanup, [beginCleanup cfg .retry c])

/-- The last section of `retryFailedCreateCleanup`; a cleaned-up Sandbox is created anew. -/
def settleRetryCleanup (cleanupErr : Option String) :
    Manager × List Task :=
  if ¬ c.Managed m then
    answerCreate m c.req (createFailure (fastletError .conflict
      "Sandbox changed while failed Create cleanup was retried" true) (admissionStatus cfg m))
  else
    match cleanupErr with
    | some err =>
      let m := m.setPhase c.placeholder .createCleanupFailed
      answerCreate m c.req (createFailureWithDisposition (fastletError .runtimeUnavailable
        ("retry failed Create cleanup: " ++ err) true) (admissionStatus cfg m) .failedNeedsCleanup)
    | none => (m.drop c.uid, [.call (.create c.req)])

/-! ## Commit -/

def committedRecord :
    SandboxMetadata where
  config := c.input
  phase :=
    if cfg.infraManager || cfg.routePublisher then .infraPending
    else if c.req.actionBindings ≠ [] then .actionPending
    else .running
  infraServices := services
  acceptedGeneration := c.req.specGeneration
  appliedGeneration := if c.req.actionBindings = [] then c.req.specGeneration else 0
  actionBindingStatuses := pendingActionBindingStatuses c.req.actionBindings

/-- `finishStrictCreateDelete` from its start. -/
def beginStrictDelete (p : Ref) : Task :=
  .strictDelete p (if cfg.actionManager.isNone then .failed else .owned)

/-- The locked part of `commitRuntimeCreate` for a placeholder that was deleted meanwhile. -/
def commitDeleted :
    Manager × Task :=
  let p := m.next
  let m := m.install { committedRecord cfg c services with phase := .terminating }
  ({ m with createDeletePending := update m.createDeletePending c.uid false },
    if c.strict cfg then beginStrictDelete cfg p else .asyncDelete p .start)

/-- `commitRuntimeCreate` of a Create call. -/
def commitCreate :
    Manager × List Task :=
  if m.phase c.placeholder = .terminating then
    let (m, t) := commitDeleted cfg m c services
    let response := createFailure (fastletError .conflict
      "Sandbox was deleted while creation was in progress" false) (admissionStatus cfg m)
    (m.write (.created c.req response), [t])
  else
    let record := committedRecord cfg c services
    let p := m.next
    let m := m.install record
    (m, [.continueData p (record.phase = .running)
      (.finishCreate c.req ⟨true, admissionStatus cfg m⟩)])

/-- `commitRuntimeCreate` of the boot worker. -/
def commitBoot :
    Manager × List Task :=
  if m.phase c.placeholder = .terminating then
    let (m, t) := commitDeleted cfg m c services
    (m, [t, .boot c 0 .exit])
  else
    let record := committedRecord cfg c services
    let p := m.next
    (m.install record, [.continueData p (record.phase = .running) (.bootExit c)])

def AfterStart.task : AfterStart → Task
  | .finishCreate req success => .finishCreate req success
  | .bootExit c => .boot c 0 .exit
  | .prepare (some err) => .prepare (.failed err)
  | .prepare none => .routes .prepare .lock

def continueDataPlaneCreation (p : Ref) (ready : Bool) (k : AfterStart) : Task :=
  if !ready && dataPlaneWorkPending (m.phase p) then .startData [p] k else k.task

/-- `finishCreate`, without the wait for readiness, which only reads. -/
def finishCreate (req : CreateSandboxRequest) (success : CreateSuccess) :
    Manager × List Task :=
  let m :=
    if req.actionBindings = [] then
      match m.lookup req.identity.sandboxUID with
      | none => m
      | some p => m.modify p fun record => { record with appliedGeneration := req.specGeneration }
    else m
  answerCreate m req success.response

/-! ## Image delivery and the boot worker -/

/-- The locked section of `parkForImageDelivery`. -/
def parkForImageDelivery : Manager × List Task :=
  if ¬ c.Managed m then
    answerCreate m c.req (createFailure (fastletError .conflict
      "Sandbox changed before image delivery parked" true) (admissionStatus cfg m))
  else if m.phase c.placeholder = .terminating then
    let m := { m with createDeletePending := update m.createDeletePending c.uid false }
    let response := createFailure (fastletError .conflict
      "Sandbox was deleted while image delivery was starting" false) (admissionStatus cfg m)
    (m.write (.created c.req response), [.asyncDelete c.placeholder .start])
  else
    let m := m.setPhase c.placeholder .imagePending
    (m, [.creation c (.startBoot (admissionStatus cfg m))])

/-- `startImageBootWorker`, and the answer of the parked Create. -/
def startImageBootWorker (admission : AdmissionStatus) :
    Manager × List Task :=
  let response : CreateSandboxResponse := { disposition := .created, admission }
  if m.imageBootWorkers c.uid = some c.placeholder then answerCreate m c.req response
  else
    let m := { m with
      imageBootWorkers := update m.imageBootWorkers c.uid (some c.placeholder) }
    (m.write (.created c.req response), [.boot c 0 .poll])

/-- The boot worker's context is cancelled by taking it out of the manager's map. -/
def bootCancelled : Bool := m.imageBootWorkers c.uid ≠ some c.placeholder

def imageDeliveryFailLimit : ℕ := 3

/-- The head of the boot worker's loop. -/
def bootPoll (failures : ℕ) : Task :=
  if c.Managed m ∧ m.phase c.placeholder = .imagePending then .boot c failures .deliver
  else .boot c failures .exit

def bootDelivery (failures : ℕ) : Except RuntimeError Bool → Task
  | .error _ =>
    if imageDeliveryFailLimit ≤ failures + 1 then .boot c (failures + 1) .markFailed
    else .boot c (failures + 1) .sleep
  | .ok false => .boot c 0 .sleep
  | .ok true => .boot c 0 .ensure

/-- The section in which the worker takes the placeholder back from image-pending. -/
def bootClaim :
    Manager × List Task :=
  if c.Managed m ∧ m.phase c.placeholder = .imagePending then
    (m.setPhase c.placeholder .creating, [.boot c 0 (.commit services)])
  else (m, [.boot c 0 .exit])

def markCreateFailed : Manager :=
  if ¬ c.Managed m then m
  else if m.phase c.placeholder = .terminating ∨ m.phase c.placeholder = .deleting then m
  else m.setPhase c.placeholder .createFailed

/-- The deferred end of the boot worker. -/
def bootExit : Manager × List Task :=
  let m :=
    if m.imageBootWorkers c.uid = some c.placeholder then
      { m with imageBootWorkers := update m.imageBootWorkers c.uid none }
    else m
  if c.Managed m ∧ m.phase c.placeholder = .terminating then
    ({ m with createDeletePending := update m.createDeletePending c.uid false },
      [.asyncDelete c.placeholder .start])
  else (m, [])

/-- `EnsureSandbox` and `DeleteSandbox` on the runtime: which UIDs it holds afterwards. -/
def Manager.setInstance (uid : String) (present : Bool) : Manager :=
  { m with
    instances :=
      if present then uid :: m.instances.filter (· ≠ uid) else m.instances.filter (· ≠ uid)
    unlisted := m.unlisted.filter (· ≠ uid) }

/-- A failed `DeleteSandbox` leaves an instance or not; it never makes one. -/
def Manager.teardown (uid : String) (err : Option String) (present : Bool) :
    Manager :=
  let kept := err.isSome && present
  { m with
    instances := if kept then m.instances else m.instances.filter (· ≠ uid)
    unlisted := if kept then m.unlisted else m.unlisted.filter (· ≠ uid) }

end FastSandbox.Fastlet
