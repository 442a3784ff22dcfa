import FastSandbox.Fastlet.Types

/-!
# The Sandbox manager's state and its admission decisions

`Manager` is everything the manager's lock guards, with the runtime's instances and the proxy's
store beside it. The functions of this file are the pure parts of admission: request validation,
the gates and the capacity checks of `reserveSandboxForCreate`, the identity fences and the
tombstones.
-/

namespace FastSandbox.Fastlet

open DataPlane
open FastSandbox.Action (ActionBindingStatus apiVersionV1 apiVersionV2)
open Function

/-! ## State -/

/-- What can be seen from outside: answered calls, accepted deletions, and what the proxy's
store executed. -/
inductive Entry
  | created (req : CreateSandboxRequest) (response : CreateSandboxResponse)
  | accepted (identity : SandboxIdentity)
  | deleted (identity : SandboxIdentity) (error : Option FastletError)
  | inspected (identity : SandboxIdentity) (result : Except FastletError SandboxMetadata)
  | served (call : ProxyCall) (result : Except RouteError (List Route))
  | proxyRestarted
deriving DecidableEq

/-- The manager. The runtime holds an instance for each UID in `instances` and in `unlisted`; the
latter are those that its last listing left out. `proxy` is the store of the proxy process, and
`routeMu` tells whether the route lock is taken. -/
structure Manager where
  records : Ref → SandboxMetadata
  next : Ref
  sandboxes : Table Ref
  tombstones : String → Option SandboxIdentity
  (deleteWorkers deleteRetryRequested terminalFailureWorkers imageBootWorkers : String → Option Ref)
  dataPlaneWorkers : String → Option Ref
  createDeletePending : String → Bool
  (recovering runtimeReady infraReady : Bool)
  infraMessage : String
  (routeReady draining : Bool)
  (drainID drainReason : String)
  resourceState : AdmissionState
  resourceReason : String
  routeMu : Bool
  (instances unlisted : List String)
  proxy : Store
  log : List Entry

variable (cfg : Config) (m : Manager)

/-- `NewSandboxManagerWithConfig`, over a runtime that already holds some instances. -/
def newSandboxManager (instances : List String) : Manager where
  records := fun _ => {}
  next := 0
  sandboxes := ∅
  tombstones := fun _ => none
  deleteWorkers := fun _ => none
  deleteRetryRequested := fun _ => none
  terminalFailureWorkers := fun _ => none
  imageBootWorkers := fun _ => none
  dataPlaneWorkers := fun _ => none
  createDeletePending := fun _ => false
  recovering := cfg.recoverOnStart
  runtimeReady := !cfg.recoverOnStart
  infraReady := !cfg.infraManager
  infraMessage := ""
  routeReady := !cfg.routePublisher || !cfg.recoverOnStart
  draining := false
  drainID := ""
  drainReason := ""
  resourceState := .open
  resourceReason := ""
  routeMu := false
  instances := instances
  unlisted := []
  proxy := {}
  log := []

namespace Manager

variable (m : Manager) (p : Ref)

def write (e : Entry) : Manager := { m with log := e :: m.log }

def config : RuntimeSandboxConfig := (m.records p).config

def phase : Phase := (m.records p).phase

def uid : String := (m.config p).identity.sandboxUID

/-- `m.sandboxes[uid]`. -/
def lookup (uid : String) : Option Ref := m.sandboxes.lookup uid

/-- `m.sandboxes[id] == metadata` for the record's own UID. -/
def Current : Prop := m.lookup (m.uid p) = some p

instance (m : Manager) (p : Ref) : Decidable (m.Current p) := inferInstanceAs (Decidable (_ = _))

def modify (f : SandboxMetadata → SandboxMetadata) : Manager :=
  { m with records := update m.records p (f (m.records p)) }

def setPhase (phase : Phase) : Manager := m.modify p fun record => { record with phase }

/-- Put a new record under its UID. -/
def install (record : SandboxMetadata) : Manager :=
  { m with
    records := update m.records m.next record
    next := m.next + 1
    sandboxes := m.sandboxes.insert record.config.identity.sandboxUID m.next }

/-- Drop the entry of a UID, and the flag of a Delete that waits for its creation. -/
def drop (uid : String) : Manager :=
  { m with
    sandboxes := m.sandboxes.erase uid
    createDeletePending := update m.createDeletePending uid false }

/-- The records of `m.sandboxes`, as `range` visits them. -/
def managed : List SandboxMetadata := m.sandboxes.entries.map fun entry => m.records entry.2

end Manager

/-- Late lifecycle callbacks are fenced while a terminal record is written, and after the
runtime entered cleanup or deletion. -/
def runtimeWorkAllowed (p : Ref) : Bool :=
  decide (m.Current p) && runtimeCreatedPhase (m.phase p) &&
    decide (m.terminalFailureWorkers (m.uid p) ≠ some p)

/-! ## Action versions -/

def isLegacyActionAPIVersion (version : String) : Bool := version = "" || version = apiVersionV1

def effectiveSandboxActionAPIVersion (version : String) : String :=
  if version = "" then apiVersionV1 else version

def requiresStrictActionHandling (version : String) : Bool :=
  if !isLegacyActionAPIVersion version then true
  else
    match cfg.actionManager with
    | none => false
    | some actions => actions.apiVersion ≠ apiVersionV1

/-- Is the record's Action owner retired before its runtime is torn down? -/
def strict (p : Ref) : Bool := requiresStrictActionHandling cfg (m.config p).actionsAPIVersion

/-! ## Fences -/

/-- Is (generation, attempt) at or before a tombstone? -/
def identityAtOrBefore (generation attempt : ℤ) (highWater : SandboxIdentity) : Bool :=
  decide (generation < highWater.instanceGeneration) ||
    (decide (generation = highWater.instanceGeneration) &&
      decide (attempt ≤ highWater.assignmentAttempt))

/-- A tombstone is replaced by a higher one only. -/
def bury (tombstones : String → Option SandboxIdentity) (identity : SandboxIdentity) :
    String → Option SandboxIdentity :=
  let recorded := update tombstones identity.sandboxUID (some identity)
  match tombstones identity.sandboxUID with
  | none => recorded
  | some current =>
    if current.instanceGeneration < identity.instanceGeneration ∨
        (current.instanceGeneration = identity.instanceGeneration ∧
          current.assignmentAttempt < identity.assignmentAttempt) then
      recorded
    else tombstones

def recordTombstone (identity : SandboxIdentity) : Manager :=
  { m with tombstones := bury m.tombstones identity }

def validateIdentityTarget (identity : SandboxIdentity) : Option FastletError :=
  if identity.sandboxUID = "" ∨ identity.instanceGeneration ≤ 0 ∨ identity.runtimeInstanceID = "" ∨
      identity.assignmentAttempt ≤ 0 then
    some (fastletError .conflict ("sandboxUid, runtimeInstanceId, positive instanceGeneration, " ++
      "and positive assignmentAttempt are required") false)
  else if cfg.fastletPodUID ≠ "" ∧ identity.fastletPodUID ≠ cfg.fastletPodUID then
    some (fastletError .staleAssignment "request targets a different Fastlet Pod UID" false)
  else none

/-- A request reaches a managed record only under the record's own fences. -/
def validateIdentityFence (expectedPodUID : String) (existing requested : SandboxIdentity) :
    Option FastletError :=
  let requestedRouteGeneration :=
    if requested.routeGeneration ≤ 0 then existing.routeGeneration else requested.routeGeneration
  if expectedPodUID ≠ "" ∧ requested.fastletPodUID ≠ expectedPodUID then
    some (fastletError .staleAssignment "request targets a different Fastlet Pod UID" false)
  else if requested.instanceGeneration < existing.instanceGeneration ∨
      (requested.instanceGeneration = existing.instanceGeneration ∧
        requested.assignmentAttempt < existing.assignmentAttempt) then
    some (fastletError .staleGeneration
      "request generation/assignment attempt is older than the managed Sandbox" false)
  else if existing.instanceGeneration < requested.instanceGeneration ∨
      existing.assignmentAttempt < requested.assignmentAttempt then
    some (fastletError .conflict
      "newer generation/assignment requires the old runtime to be deleted first" true)
  else if requested.runtimeInstanceID ≠ existing.runtimeInstanceID then
    some (fastletError .conflict "runtimeInstanceId conflicts with the managed Sandbox" false)
  else if requestedRouteGeneration < existing.routeGeneration then
    some (fastletError .staleGeneration
      "request route generation is older than the managed Sandbox" false)
  else if existing.routeGeneration < requestedRouteGeneration then
    some (fastletError .conflict
      "newer route generation requires the old runtime to be deleted first" true)
  else none

def sameSandboxClaim (existing requested : RuntimeSandboxConfig) : Bool :=
  existing.identity.sandboxNamespace = requested.identity.sandboxNamespace &&
    existing.identity.name = requested.identity.name &&
    effectiveSandboxActionAPIVersion existing.actionsAPIVersion =
      effectiveSandboxActionAPIVersion requested.actionsAPIVersion &&
    existing.desired.runtimeProfileHash = requested.desired.runtimeProfileHash &&
    existing.desired.resourceProfileHash = requested.desired.resourceProfileHash &&
    existing.desired.infraRevision = requested.desired.infraRevision &&
    existing.limits = requested.limits

/-! ## Resources -/

def computeResourcesFromRuntimeLimits (limits : RuntimeLimits) :
    Option ComputeResources :=
  match cfg.parseQuantity limits.cpu, cfg.parseQuantity limits.memory with
  | some cpu, some memory => if cpu ≤ 0 ∨ memory ≤ 0 then none else some ⟨cpu, memory⟩
  | _, _ => none

/-- What a record commits. -/
def requestsForRuntimeConfig (config : RuntimeSandboxConfig) :
    Option ComputeResources :=
  match cfg.resourceProfile with
  | none => none
  | some profile =>
    (computeResourcesFromRuntimeLimits cfg config.limits).bind fun limits =>
      (profile.deriveRequests limits cfg.reading).toOption

/-- The commitments of a list of records; `none` when one of them has no valid request. -/
def commitments (cfg : Config) : List SandboxMetadata → Option ComputeResources
  | [] => some 0
  | record :: rest =>
    if occupiesSlot record.phase then
      match requestsForRuntimeConfig cfg record.config, commitments cfg rest with
      | some requests, some committed => some (requests + committed)
      | _, _ => none
    else commitments cfg rest

/-- `resourceCommittedLocked`: the reported commitments, and whether the ledger is valid. -/
def resourceCommitted : ComputeResources × Bool :=
  match commitments cfg m.managed with
  | none => (0, false)
  | some committed => (committed, true)

def resourceAdmissionState : AdmissionState × String :=
  if m.recovering then (.unknown, "RECOVERY_INCOMPLETE") else (m.resourceState, m.resourceReason)

/-- The static part of `resourceCapacityFailureLocked`. -/
def staticCapacityFailure (capacity requests : ComputeResources) :
    Option FastletError :=
  let (committed, valid) := resourceCommitted cfg m
  if !valid then
    some (admissionError "UNSUPPORTED_PROTOCOL" "Fastlet committed resource ledger is invalid")
  else if capacity.cpu < committed.cpu + requests.cpu then
    some (admissionError "STATIC_CPU_EXHAUSTED" "Fastlet CPU commitment capacity is exhausted")
  else if capacity.memory < committed.memory + requests.memory then
    some (admissionError "STATIC_MEMORY_EXHAUSTED"
      "Fastlet memory commitment capacity is exhausted")
  else none

def memoryAdmissionFailure : Option FastletError :=
  let (state, reason) := resourceAdmissionState m
  if state = .blocked ∨ state = .unknown then
    some (admissionError (if reason = "" then "TELEMETRY_MISSING" else reason)
      ("Fastlet resource admission is " ++ state.text))
  else none

def resourceCapacityFailure (candidate : RuntimeSandboxConfig) :
    Option FastletError :=
  match cfg.resourceAdmission, cfg.resourceProfile with
  | some admission, some _ =>
    match requestsForRuntimeConfig cfg candidate with
    | none =>
      some (admissionError "UNSUPPORTED_PROTOCOL"
        "Fastlet resource admission profile is unavailable")
    | some requests =>
      let static :=
        if admission.staticAdmission then staticCapacityFailure cfg m admission.capacity requests
        else none
      match static with
      | some failure => some failure
      | none => if admission.memoryAdmission then memoryAdmissionFailure m else none
  | _, _ => none

/-! ## Admission status -/

def countsAsCreating : Phase → Bool
  | .creating | .imagePending | .infraPending | .initializingInfra | .infraUnavailable
  | .routePending | .publishingRoute | .routeUnavailable | .actionPending | .actionUnavailable =>
    true
  | _ => false

def countsAsDeleting : Phase → Bool
  | .terminating | .deleting | .deleteFailed | .createCleanup | .createCleanupFailed
  | .runtimeFailureCleanup => true
  | _ => false

/-- Everything else that occupies a slot, an unrecognised phase included. -/
def countsAsRunning (phase : Phase) : Bool :=
  !countsAsCreating phase && !countsAsDeleting phase && occupiesSlot phase

def admissionStatus : AdmissionStatus where
  capacity := cfg.capacity
  creating := m.managed.countP fun record => countsAsCreating record.phase
  running := m.managed.countP fun record => countsAsRunning record.phase
  deleting := m.managed.countP fun record => countsAsDeleting record.phase

/-- The records that hold a slot. -/
def activeCount : ℕ := m.managed.countP fun record => occupiesSlot record.phase

theorem countP_classes (l : List SandboxMetadata) :
    (l.countP fun r => countsAsCreating r.phase) + (l.countP fun r => countsAsRunning r.phase) +
      (l.countP fun r => countsAsDeleting r.phase) = l.countP fun r => occupiesSlot r.phase := by
  induction l with
  | nil => rfl
  | cons r =>
    -- every phase is in exactly one class, or occupies no slot
    have hl : (countsAsCreating r.phase).toNat + (countsAsRunning r.phase).toNat +
        (countsAsDeleting r.phase).toNat = (occupiesSlot r.phase).toNat := by
      cases r.phase <;> rfl
    simp only [List.countP_cons, Bool.toNat, Bool.cond_eq_ite] at *
    omega

theorem used_eq_activeCount :
    (admissionStatus cfg m).used = activeCount m := countP_classes m.managed

/-! ## Request validation -/

variable (req : CreateSandboxRequest)

def validateCreateRequest : Option FastletError :=
  let identity := req.identity
  if req.specGeneration ≤ 0 ∨ identity.sandboxUID = "" ∨ identity.sandboxNamespace = "" ∨
      identity.name = "" ∨ identity.instanceGeneration ≤ 0 ∨ identity.runtimeInstanceID = "" ∨
      identity.assignmentAttempt ≤ 0 then
    some (fastletError .conflict ("sandboxUid, namespace, name, runtimeInstanceId, positive " ++
      "specGeneration, instanceGeneration, and assignmentAttempt are required") false)
  else if cfg.fastletPodUID ≠ "" ∧ identity.fastletPodUID ≠ cfg.fastletPodUID then
    some (fastletError .staleAssignment "request targets a different Fastlet Pod UID" false)
  else none

def mismatch (text : String) : String := "sandbox profile mismatch: " ++ text

/-- `validateProfiles` with `validateInfraRevision`. -/
def validateProfiles (spec : SandboxDesiredSpec) : Option String :=
  let runtimeHash := spec.runtimeProfileHash
  let fastletRuntimeHash := cfg.runtimeProfileHash
  let resourceHash := spec.resourceProfileHash
  let fastletResourceHash := cfg.resourceProfileHash
  let revision := spec.infraRevision
  let fastletRevision := cfg.infraRevision
  if fastletRuntimeHash ≠ "" ∧ runtimeHash ≠ fastletRuntimeHash then
    some (mismatch (s!"runtime profile hash \"{runtimeHash}\" does not match " ++
      s!"Fastlet profile \"{fastletRuntimeHash}\""))
  else if cfg.resourceProfile.isSome ∧ resourceHash ≠ fastletResourceHash then
    some (mismatch (s!"resource profile hash \"{resourceHash}\" does not match " ++
      s!"Fastlet profile \"{fastletResourceHash}\""))
  else if fastletRevision ≠ "" ∧ revision ≠ fastletRevision then
    some (mismatch (s!"Infra revision \"{revision}\" does not match " ++
      s!"Fastlet revision \"{fastletRevision}\""))
  else none

/-- `resolveCreateResources` in resource-aware mode. -/
def resolveAwareResources (profile : ResourceProfile) (resolved : ResolvedResources) :
    Except String RuntimeLimits :=
  match computeResourcesFromRuntimeLimits cfg resolved.limits with
  | none => .error (mismatch "invalid resolved runtime limits")
  | some limits =>
    if resolved.limits.pids ≠ profile.pids then
      .error (mismatch "invalid resolved runtime limits")
    else
      match profile.deriveRequests limits cfg.reading with
      | .error err => .error (mismatch err)
      | .ok requests =>
        if cfg.parseQuantity resolved.requestCPU ≠ some requests.cpu ∨
            cfg.parseQuantity resolved.requestMemory ≠ some requests.memory then
          .error (mismatch "resolved requests do not match the Pool overcommit policy")
        else
          match cfg.resourceAdmission with
          | none => .error (mismatch "Sandbox limits exceed the Fastlet Sandbox runtime budget")
          | some admission =>
            if admission.sandboxRuntimeBudget.cpu < limits.cpu ∨
                admission.sandboxRuntimeBudget.memory < limits.memory then
              .error (mismatch "Sandbox limits exceed the Fastlet Sandbox runtime budget")
            else .ok resolved.limits

def resolveCreateResources (resolved : Option ResolvedResources) :
    Except String RuntimeLimits :=
  match cfg.resourceProfile, resolved with
  | none, some _ => .error (mismatch "Fastlet has no resource profile")
  | none, none => .ok {}
  | some profile, resolved =>
    if !profile.resourceAware then
      match resolved, profile.limits with
      | some _, _ => .error (mismatch "per-Sandbox resources require ResourceAware mode")
      | none, none => .error (mismatch "Fastlet resource profile has no runtime limits")
      | none, some limits => .ok { limits with pids := profile.pids }
    else
      match resolved with
      | none => .error (mismatch "resolved per-Sandbox resources are required")
      | some resolved => resolveAwareResources cfg profile resolved

def createActionsAPIVersion : String :=
  match cfg.actionManager with
  | none => apiVersionV1
  | some actions => actions.apiVersion

def prepareCreateInput :
    Except FastletError RuntimeSandboxConfig :=
  match validateCreateRequest cfg req with
  | some failure => .error failure
  | none =>
    let identity :=
      if req.identity.routeGeneration ≤ 0 then { req.identity with routeGeneration := 1 }
      else req.identity
    match validateProfiles cfg req.sandbox with
    | some err => .error (fastletError .profileMismatch err false)
    | none =>
      let version := createActionsAPIVersion cfg
      if version = apiVersionV2 ∧ req.sandbox.restore.isSome then
        .error (fastletError .snapshotUnsupported
          "Actions v2 management does not support snapshot restore in this release" false)
      else
        match resolveCreateResources cfg req.resources with
        | .error err => .error (fastletError .profileMismatch err false)
        | .ok limits =>
          .ok { identity, actionsAPIVersion := version, desired := req.sandbox, limits }

theorem prepareCreateInput_uid {cfg : Config} {req : CreateSandboxRequest}
    {input : RuntimeSandboxConfig} (h : prepareCreateInput cfg req = .ok input) :
    input.identity.sandboxUID = req.identity.sandboxUID := by
  unfold prepareCreateInput at h
  split at h
  · cases h
  dsimp only at h
  split at h
  · cases h
  split at h
  · cases h
  split at h
  · cases h
  · cases h
    split_ifs <;> rfl

/-! ## Reservation -/

/-- The gates of `reserveSandboxForCreate` that come before the lookup of the Sandbox.
`actionsReady` is the Action Manager's answer to `Ready`. -/
def admissionGate (actionsReady : Bool) :
    Option FastletError :=
  if m.recovering ∨ !m.runtimeReady then
    some (fastletError .runtimeUnavailable
      "Fastlet runtime recovery/capability probe is incomplete" true)
  else if !m.infraReady then
    some (fastletError .infraUnavailable
      (if m.infraMessage = "" then "required Infra Component artifacts are still preparing"
      else m.infraMessage) true)
  else
    match cfg.actionManager with
    | none =>
      if req.actionBindings ≠ [] then
        some (fastletError .actionUnavailable "Fastlet has no Action Handler configuration" false)
      else none
    | some actions =>
      if actions.apiVersion ≠ apiVersionV1 ∧ actions.required ∧ !actionsReady then
        some (fastletError .actionUnavailable
          "configured Action Handler protocol is not ready" true)
      else none

/-- `createExistingLocked`: an error answers the Create, anything else goes on to
`finishCreate`. -/
def createExisting (p : Ref) (requested : RuntimeSandboxConfig) :
    Except CreateSandboxResponse CreateSuccess :=
  let existing := m.records p
  let admission := admissionStatus cfg m
  match validateIdentityFence cfg.fastletPodUID existing.config.identity requested.identity with
  | some failure => .error (createFailure failure admission)
  | none =>
    if !sameSandboxClaim existing.config requested then
      .error (createFailure (fastletError .conflict
        "Sandbox UID is already bound to a different claim/profile" false) admission)
    else
      match existing.phase with
      | .creating | .imagePending =>
        .error { disposition := .inProgress, admission, error := some (fastletError .inProgress
          "Sandbox creation is already in progress" true) }
      | .terminating | .deleting =>
        .error (createFailure (fastletError .conflict
          "Sandbox deletion is already in progress" true) admission)
      | .infraPending | .initializingInfra | .infraUnavailable | .routePending | .publishingRoute
      | .routeUnavailable | .actionPending | .actionUnavailable | .runtimeFailureCleanup
      | .runtimeFailed | .running => .ok ⟨false, admission⟩
      | phase =>
        let text := phase.text
        .error (createFailure (fastletError .runtimeUnavailable
          s!"managed Sandbox runtime is {text}, not running" true) admission)

/-- The gates after the lookup found nothing. `resourceAvailable` is the runtime's answer to
`RuntimeResourceAvailable`. -/
def capacityGate (input : RuntimeSandboxConfig)
    (resourceAvailable : Bool) : Option (FastletError × CreateDisposition) :=
  let identity := input.identity
  let fenced :=
    match m.tombstones identity.sandboxUID with
    | none => false
    | some tombstone =>
      identityAtOrBefore identity.instanceGeneration identity.assignmentAttempt tombstone
  if fenced then
    some (fastletError .generationFenced "Sandbox generation was already deleted" false,
      .generationFenced)
  else if m.draining then
    some (fastletError .draining m.drainReason true, .rejectedBeforeSideEffects)
  else if cfg.capacity ≤ activeCount m then
    some (admissionError "SLOT_FULL" "Fastlet admission capacity is exhausted",
      .rejectedBeforeSideEffects)
  else
    match resourceCapacityFailure cfg m input with
    | some failure => some (failure, .rejectedBeforeSideEffects)
    | none =>
      if !resourceAvailable then
        some (fastletError .networkUnavailable
          "Fastlet has no clean runtime/network resource available" true,
          .rejectedBeforeSideEffects)
      else none

def pendingActionBindingStatuses (bindings : List ActionBindingInput) : List ActionBindingStatus :=
  bindings.map fun binding => { handler := binding.handler, state := some .pending }

def placeholderFor (input : RuntimeSandboxConfig) :
    SandboxMetadata where
  config := input
  phase := .creating
  acceptedGeneration := req.specGeneration
  actionBindingStatuses := pendingActionBindingStatuses req.actionBindings

inductive Reservation
  | rejected (failure : FastletError) (disposition : CreateDisposition)
  | answered (response : CreateSandboxResponse)
  | existing (success : CreateSuccess)
  | cleanupExisting (p : Ref)
  | placeholder (p : Ref)

def reserveSandboxForCreate
    (input : RuntimeSandboxConfig) (actionsReady resourceAvailable : Bool) :
    Manager × Reservation :=
  match admissionGate cfg m req actionsReady with
  | some failure => (m, .rejected failure .rejectedBeforeSideEffects)
  | none =>
    match m.lookup input.identity.sandboxUID with
    | some p =>
      if m.phase p = .createCleanupFailed then (m, .cleanupExisting p)
      else
        match createExisting cfg m p input with
        | .error response => (m, .answered response)
        | .ok success => (m, .existing success)
    | none =>
      match capacityGate cfg m input resourceAvailable with
      | some (failure, disposition) => (m, .rejected failure disposition)
      | none => (m.install (placeholderFor req input), .placeholder m.next)

end FastSandbox.Fastlet
