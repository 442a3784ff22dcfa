import FastSandbox.ControlPlane.SnapshotStatus

/-!
# The triggers of a snapshot and of a pause checkpoint

Both send one request to the Fastlet of the Sandbox and read the status out of the response. The
client has no response where the request was not sent, not answered or not decoded.
-/

namespace FastSandbox.ControlPlane

open Fastlet (SandboxIdentity CreateDisposition)

/-! ## The client -/

structure SnapshotIdentity where
  (snapshotUID snapshotNamespace name : String)
  sandbox : SandboxIdentity

/-- A checkpoint has no template. -/
structure CreateSnapshotRequest where
  requestID : String
  identity : SnapshotIdentity
  (checkpoint : Bool := false)
  templateName : String := ""

structure SnapshotFailure where
  code : SnapshotErrorCode
  message : String

/-- No disposition is a text that stands for none. -/
structure CreateSnapshotResponse where
  disposition : Option CreateDisposition
  snapshot : Option SnapshotObservation := none
  error : Option SnapshotFailure := none

/-- `createCall` is a `CreateCallError`; only it and `fastlet` hold a structured Fastlet error. -/
inductive ClientError
  | failed (message : String)
  | fastlet (failure : SnapshotFailure)
  | createCall (disposition : Option CreateDisposition) (failure : SnapshotFailure)

/-- `errors.As` for a `FastletError`. -/
def ClientError.structured : ClientError → Bool
  | failed _ => false
  | fastlet _ | createCall .. => true

/-- What a client returns: either part may be nil. -/
structure Answer where
  response : Option CreateSnapshotResponse
  err : Option ClientError

/-- What becomes of an HTTP request: `broken` has no body that decodes. -/
inductive Exchange
  | broken (message : String)
  | decoded (result : CreateSnapshotResponse) (statusCode : ℕ)

def doFastletJSON : Exchange → Answer
  | .broken message => ⟨none, some (.failed message)⟩
  | .decoded result statusCode =>
    match result.error with
    | some failure => ⟨some result, some (.fastlet failure)⟩
    | none =>
      if statusCode < 200 ∨ 300 ≤ statusCode then
        ⟨some result, some (.failed s!"fastlet request failed with status: {statusCode}")⟩
      else ⟨some result, none⟩

/-- `FastletClient.CreateSnapshot`. -/
def clientCreateSnapshot (exchange : Exchange) : Answer :=
  match doFastletJSON exchange with
  | ⟨some response, some (.fastlet failure)⟩ | ⟨some response, some (.createCall _ failure)⟩ =>
    ⟨some response, some (.createCall response.disposition failure)⟩
  | answer => answer

/-! ## The orchestrator -/

/-- `unknownOutcome` is `ErrUnknownFastletOutcome`, with what it wraps. -/
inductive TriggerError
  | refused (message : String)
  | target (failure : Failure)
  | unknownOutcome (cause : Option ClientError)
  | call (err : ClientError)

structure SandboxSnapshot where
  (uid snapshotNamespace name templateName requestID : String)

variable (registered : String → Option Candidate) (snapshot : Option SandboxSnapshot)
  (sandbox : Option Sandbox) (sb : Sandbox)
  (checkpointID snapshotUID snapshotNamespace name : String)
  (client : CreateSnapshotRequest → Answer)

def snapshotIdentityOnAssigned : Except TriggerError SnapshotIdentity :=
  match sandbox with
  | none => .error (.refused "target Sandbox is required")
  | some sb =>
    if sb.uid = "" then .error (.refused "target Sandbox is required")
    else
      match sb.effectiveAssignment with
      | .error failure => .error (.target failure)
      | .ok none => .error (.target .fastletUnavailable)
      | .ok (some envelope) =>
        match registered envelope.fastletName with
        | none => .error (.target .fastletUnavailable)
        | some c =>
          if c.podUID ≠ envelope.fastletPodUID ∨ c.podIP = "" then
            .error (.target .fastletUnavailable)
          else .ok ⟨snapshotUID, snapshotNamespace, name, envelope.identity sb.uid⟩

/-- The request of `CreateSnapshot`, after `SnapshotTarget`. -/
def snapshotRequest : Except TriggerError CreateSnapshotRequest :=
  match snapshot with
  | none => .error (.refused "persisted SandboxSnapshot UID is required")
  | some s =>
    if s.uid = "" then .error (.refused "persisted SandboxSnapshot UID is required")
    else (snapshotIdentityOnAssigned registered sandbox s.uid s.snapshotNamespace s.name).map
      fun identity => { requestID := s.requestID, identity, templateName := s.templateName }

/-- The request of `CreateCheckpoint`, whose Sandbox is never nil. -/
def checkpointRequest : Except TriggerError CreateSnapshotRequest :=
  if checkpointID = "" then .error (.refused "checkpoint id is required")
  else (snapshotIdentityOnAssigned registered (some sb) checkpointID snapshotNamespace name).map
    fun identity => { requestID := checkpointID, identity, checkpoint := true }

def Answer.accepted (answer : Answer) : Option SnapshotObservation :=
  match answer.err, answer.response with
  | none, some response =>
    if response.disposition = some .created ∨ response.disposition = some .existing then
      response.snapshot
    else none
  | _, _ => none

/-- What both do with the answer; nothing if they dereference a nil response. -/
def settle (answer : Answer) : Option (Option SnapshotObservation × Option TriggerError) :=
  match answer.accepted with
  | some status => some (some status, none)
  | none =>
    let err := match answer.err with
      | none => .unknownOutcome none
      | some err => if err.structured then .call err else .unknownOutcome (some err)
    answer.response.map fun response => (response.snapshot, some err)

def trigger (request : Except TriggerError CreateSnapshotRequest) :
    Option (Option SnapshotObservation × Option TriggerError) :=
  match request with
  | .error err => some (none, some err)
  | .ok request => settle (client request)

def createSnapshot : Option (Option SnapshotObservation × Option TriggerError) :=
  trigger client (snapshotRequest registered snapshot sandbox)

def createCheckpoint : Option (Option SnapshotObservation × Option TriggerError) :=
  trigger client (checkpointRequest registered sb checkpointID snapshotNamespace name)

/-! ## What the callers are promised -/

/-- The call returns, without an error only with the status of a task that was created or existed,
and with an unknown outcome where the answer is neither that nor a structured Fastlet error. -/
def Returns (answer : Answer) (out : Option (Option SnapshotObservation × Option TriggerError)) :
    Prop :=
  ∃ status err, out = some (status, err) ∧
    (err = none → ∃ response, answer = ⟨some response, none⟩ ∧ status.isSome ∧
      status = response.snapshot ∧
      (response.disposition = some .created ∨ response.disposition = some .existing)) ∧
    (answer.err.all (!·.structured) → err = none ∨ ∃ cause, err = some (.unknownOutcome cause))

/-- A trigger that sends no request has an error to return. -/
def Triggers (request : Except TriggerError CreateSnapshotRequest)
    (out : Option (Option SnapshotObservation × Option TriggerError)) : Prop :=
  match request with
  | .error err => out = some (none, some err)
  | .ok request => Returns (client request) out

def Responds (request : Except TriggerError CreateSnapshotRequest) : Prop :=
  ∀ sent, request = .ok sent → (client sent).response.isSome

theorem settle_returns_iff (answer : Answer) :
    Returns answer (settle answer) ↔ answer.response.isSome := by
  obtain ⟨response, err⟩ := answer
  cases response with
  | none => simp [Returns, settle, Answer.accepted]
  | some response =>
    refine iff_of_true ?_ rfl
    cases err with
    | some err => cases h : err.structured <;> simp [Returns, settle, Answer.accepted, h]
    | none =>
      by_cases ho : response.disposition = some .created ∨ response.disposition = some .existing
      · cases h : response.snapshot <;> simp [Returns, settle, Answer.accepted, ho, h]
      · simp [Returns, settle, Answer.accepted, ho]

theorem trigger_iff (request : Except TriggerError CreateSnapshotRequest) :
    Triggers client request (trigger client request) ↔ Responds client request := by
  cases request with
  | error => simp [Triggers, trigger, Responds]
  | ok request => simpa [Triggers, trigger, Responds] using settle_returns_iff (client request)

theorem clientCreateSnapshot_response (exchange : Exchange) :
    (clientCreateSnapshot exchange).response.isSome ↔ ∀ message, exchange ≠ .broken message := by
  cases exchange with
  | broken => simp [clientCreateSnapshot, doFastletJSON]
  | decoded result statusCode =>
    cases h : result.error with
    | some failure => simp [clientCreateSnapshot, doFastletJSON, h]
    | none =>
      by_cases hs : statusCode < 200 ∨ 300 ≤ statusCode <;>
        simp [clientCreateSnapshot, doFastletJSON, h, hs]

/-- **What a trigger returns.** Both triggers keep their promise exactly if the request they send,
if they send one, has a response; over HTTP that is one that decodes. -/
theorem triggers_iff (registered : String → Option Candidate) (snapshot : Option SandboxSnapshot)
    (sandbox : Option Sandbox) (sb : Sandbox) (checkpointID snapshotNamespace name : String)
    (client : CreateSnapshotRequest → Answer) :
    let snapshotSent := snapshotRequest registered snapshot sandbox
    let checkpointSent := checkpointRequest registered sb checkpointID snapshotNamespace name
    (Triggers client snapshotSent (createSnapshot registered snapshot sandbox client) ↔
      Responds client snapshotSent) ∧
    (Triggers client checkpointSent
        (createCheckpoint registered sb checkpointID snapshotNamespace name client) ↔
      Responds client checkpointSent) ∧
    ∀ exchange, (clientCreateSnapshot exchange).response.isSome ↔
      ∀ message, exchange ≠ .broken message :=
  ⟨trigger_iff client _, trigger_iff client _, clientCreateSnapshot_response⟩

def sampleFastlet : Candidate := ⟨"fastlet-1", "pod-a", "10.0.0.1", "node", "r", "s", "v"⟩

def assignedSandbox : Sandbox :=
  { uid := "sb", assignment := assignmentForCandidate sampleFastlet 1 1 1 "i" }

/-- A Fastlet that cannot be reached leaves neither trigger a response to read. -/
theorem unreached_fastlet_dereferences_nil :
    let client := fun _ => clientCreateSnapshot (.broken "connection refused")
    createCheckpoint (fun _ => some sampleFastlet) assignedSandbox "c" "ns" "sb" client = none ∧
      createSnapshot (fun _ => some sampleFastlet) (some ⟨"snap", "ns", "a", "t", "r"⟩)
        (some assignedSandbox) client = none :=
  ⟨rfl, rfl⟩

end FastSandbox.ControlPlane
