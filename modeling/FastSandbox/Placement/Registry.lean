import FastSandbox.Fastlet.Types
import FastSandbox.Lib.Interleaving

/-!
# The placement registry

The control plane's scheduling view of the Fastlet Pods. The registry's lock guards only the map
of slots, and every slot has a lock of its own: a call looks its slot up in one section and works
on it in the next, whatever has happened to the map in between. A `Ref` is the address of a slot.

Prepared artifacts, warm images and the registry revision are copied and never read, and are left
out.
-/

namespace FastSandbox.Placement

open DataPlane (Table)
open Fastlet (Ref ComputeResources AdmissionState FastletErrorCode int64 milliValue wholeValue)
open Function Interleaving Option

/-! ## Messages -/

abbrev FastletID := String

def newFastletID (podNamespace name : String) : FastletID :=
  if podNamespace = "" ∨ podNamespace = "default" then name else podNamespace ++ "/" ++ name

abbrev ResourceDemand := ComputeResources

instance : Sub ResourceDemand := ⟨fun a b => ⟨a.cpu - b.cpu, a.memory - b.memory⟩⟩

/-- Nanoseconds since Go's zero time. -/
abbrev Time := ℕ

/-- What the registry takes from other packages. -/
structure Library where
  parseQuantity : String → Option ℚ
  normalizeInventory : List String → List String

inductive AdmissionReason
  | unset
  | slotFull
  | staticCPUExhausted
  | staticMemoryExhausted
  | fastletMemoryHighWatermark
  | fastletMemoryPSI
  | fastletOOMEvent
  | hostMemoryPressure
  | nodeMemoryPressure
  | telemetryStale
  | telemetryMissing
  | recoveryIncomplete
  | unsupportedProtocol
deriving DecidableEq

structure SandboxResourceVector where
  (cpu memory : String)
deriving DecidableEq

structure ResourceAdmissionStatus where
  (version epoch : String)
  revision : ℕ
  (capacity committed : SandboxResourceVector)
  state : AdmissionState
  reason : AdmissionReason
deriving DecidableEq

structure AdmissionStatus where
  (capacity creating running deleting used : ℤ := 0)
  resources : Option ResourceAdmissionStatus := none
deriving DecidableEq

structure SandboxStatus where
  sandboxID : String
  (instanceGeneration assignmentAttempt acceptedGeneration appliedGeneration : ℤ := 0)
deriving DecidableEq

structure CacheSnapshot where
  epoch : String
  revision : ℕ
  (full complete : Bool := false)
  images : List String := []
deriving DecidableEq

structure HeartbeatResponse where
  fastletPodUID : String
  (runtimeProfileHash resourceProfileHash infraRevision : String := "")
  (runtimeReady infraReady : Bool := true)
  draining : Bool := false
  admission : AdmissionStatus
  sandboxStatuses : List SandboxStatus := []
  sequence : ℕ
  cache : CacheSnapshot
deriving DecidableEq

structure LocalFeedback where
  podUID : String
  baseResourceEpoch : String := ""
  baseResourceRevision : ℕ := 0
  code : Option FastletErrorCode := none
  admission : Option AdmissionStatus := none
  sandbox : Option SandboxStatus := none
  observedAt : Time := 0
  retryAfter : ℤ := 0
deriving DecidableEq

/-- A Pod as the informer delivers it: the API server gives every Pod a UID. -/
structure Pod where
  podNamespace : String := ""
  (name uid : String)
  uid_ne : ¬uid = ""
  (podIP nodeName poolName runtimeName runtimeProfileHash resourceProfileHash : String := "")
  (infraRevision fastletRevision : String := "")
  commitmentCapacity : Option ResourceDemand := none
  (drainRequested deleting : Bool := false)
  (running readyCondition : Bool := true)
  observedAt : Time := 0
deriving DecidableEq

/-! ## Slots -/

structure ResourceRevision where
  epoch : String := ""
  revision : ℕ := 0

structure FastletInfo where
  id : FastletID := ""
  (podNamespace podName podUID podIP nodeName poolName runtimeName : String := "")
  (runtimeProfileHash resourceProfileHash infraRevision fastletRevision : String := "")
  (infraReady podReady runtimeReady drainRequested draining : Bool := false)
  admission : AdmissionStatus := {}
  (resourceCapacity resourceCommitted inFlightResources : ResourceDemand := 0)
  inFlightSlots : ℤ := 0
  resourceReceivedAt : Time := 0
  resourceFence : ResourceRevision := {}
  images : List String := []
  cacheEpoch : String := ""
  cacheRevision : ℕ := 0
  cacheComplete : Bool := false
  sandboxStatuses : String → Option SandboxStatus := fun _ => none
  heartbeatSequence : ℕ := 0
  (lastHeartbeat podObservedAt rejectedUntil : Time := 0)

namespace FastletInfo

variable (lib : Library) (info : FastletInfo)

def schedulingUsed : ℤ := info.admission.used + info.inFlightSlots

/-- Both quantities are positive: only such a demand is entered into the resource ledger. -/
def demands (demand : ResourceDemand) : Bool := 0 < demand.cpu && 0 < demand.memory

/-- `ReserveLocal` on its slot; nothing if it answers false. -/
def reserveLocal (demand : ResourceDemand) : Option FastletInfo :=
  if info.admission.capacity ≤ info.schedulingUsed then none
  else if demands demand then
    let cpu := int64 (milliValue info.resourceCommitted.cpu +
      milliValue info.inFlightResources.cpu + milliValue demand.cpu)
    let memory := int64 (wholeValue info.resourceCommitted.memory +
      wholeValue info.inFlightResources.memory + wholeValue demand.memory)
    if milliValue info.resourceCapacity.cpu < cpu ∨
        wholeValue info.resourceCapacity.memory < memory then none
    else some { info with
      inFlightResources := info.inFlightResources + demand
      inFlightSlots := info.inFlightSlots + 1 }
  else some { info with inFlightSlots := info.inFlightSlots + 1 }

/-- `ReleaseLocal` on its slot. The count stops at zero, the resources do not. -/
def releaseLocal (demand : ResourceDemand) : FastletInfo :=
  { info with
    inFlightSlots := if 0 < info.inFlightSlots then info.inFlightSlots - 1 else info.inFlightSlots
    inFlightResources :=
      if demands demand then info.inFlightResources - demand else info.inFlightResources }

def preserveHeartbeat (target previous : FastletInfo) : FastletInfo :=
  { target with
    runtimeReady := previous.runtimeReady
    infraReady := previous.infraReady
    draining := target.drainRequested || previous.draining
    admission := previous.admission
    resourceReceivedAt := previous.resourceReceivedAt
    resourceCommitted := previous.resourceCommitted
    inFlightResources := previous.inFlightResources
    inFlightSlots := previous.inFlightSlots
    resourceFence := previous.resourceFence
    images := previous.images
    cacheEpoch := previous.cacheEpoch
    cacheRevision := previous.cacheRevision
    cacheComplete := previous.cacheComplete
    sandboxStatuses := previous.sandboxStatuses
    heartbeatSequence := previous.heartbeatSequence
    lastHeartbeat := previous.lastHeartbeat
    rejectedUntil := previous.rejectedUntil }

/-- `UpsertPod` on its slot. -/
def upsert (slot info : FastletInfo) : FastletInfo :=
  if slot.podUID ≠ "" ∧ slot.podUID = info.podUID then preserveHeartbeat info slot else info

def parseResourceVector (vector : SandboxResourceVector) : Option ResourceDemand :=
  match lib.parseQuantity vector.cpu, lib.parseQuantity vector.memory with
  | some cpu, some memory => if cpu < 0 ∨ memory < 0 then none else some ⟨cpu, memory⟩
  | _, _ => none

/-- `applyAdmissionResources`: the Pod's own projection must agree with the snapshot. -/
def applyAdmissionResources : FastletInfo :=
  match info.admission.resources with
  | none => info
  | some status =>
    match parseResourceVector lib status.capacity, parseResourceVector lib status.committed with
    | some capacity, some committed =>
      if 0 < info.resourceCapacity.cpu ∧ capacity ≠ info.resourceCapacity then
        { info with resourceReceivedAt := 0 }
      else { info with resourceCapacity := capacity, resourceCommitted := committed }
    | _, _ => { info with resourceReceivedAt := 0 }

variable (status : ResourceAdmissionStatus)

/-- Does a heartbeat's snapshot replace the stored admission? At or below the fence only a
snapshot that says the same does. -/
def acceptsHeartbeat : Bool :=
  if status.epoch = info.resourceFence.epoch ∧ status.revision ≤ info.resourceFence.revision then
    match info.admission.resources with
    | none => false
    | some current => status.epoch = current.epoch && status.revision = current.revision &&
        current.state = status.state && current.reason = status.reason
  else
    match info.admission.resources with
    | none => true
    | some current => status.epoch ≠ current.epoch || current.revision ≤ status.revision

def applyHeartbeatAdmission (incoming : AdmissionStatus) (observedAt : Time) :
    FastletInfo :=
  match incoming.resources with
  | none => if info.admission.resources.isNone then { info with admission := incoming } else info
  | some status =>
    let info := if info.acceptsHeartbeat status then { info with admission := incoming } else info
    if info.admission.resources.any fun accepted =>
        accepted.epoch = status.epoch && accepted.revision = status.revision then
      { info with resourceReceivedAt := observedAt }
    else info

def resourceRejectionCleared : Bool :=
  match info.admission.resources with
  | none => true
  | some status => status.state = .open &&
      (info.resourceFence.epoch = "" || status.epoch ≠ info.resourceFence.epoch ||
        info.resourceFence.revision < status.revision)

inductive HeartbeatError
  | stalePodIdentity
  | staleHeartbeat
  | profileMismatch

/-- The checks `ApplyHeartbeat` makes before it takes anything over. -/
def heartbeatError (expectedPodUID : String) (heartbeat : HeartbeatResponse) :
    Option HeartbeatError :=
  if info.podUID = "" ∨ info.podUID ≠ expectedPodUID ∨ heartbeat.fastletPodUID ≠ expectedPodUID then
    some .stalePodIdentity
  else if heartbeat.cache.epoch = info.cacheEpoch ∧ heartbeat.sequence ≤ info.heartbeatSequence then
    some .staleHeartbeat
  else if (info.runtimeProfileHash ≠ "" ∧ heartbeat.runtimeProfileHash ≠ info.runtimeProfileHash) ∨
      (info.resourceProfileHash ≠ "" ∧ heartbeat.resourceProfileHash ≠ info.resourceProfileHash) ∨
      (info.infraRevision ≠ "" ∧ heartbeat.infraRevision ≠ info.infraRevision) then
    some .profileMismatch
  else none

def applyCache (cache : CacheSnapshot) : FastletInfo :=
  let info :=
    if cache.full then
      { info with
        cacheComplete := cache.complete
        images := if cache.complete then lib.normalizeInventory cache.images else [] }
    else if cache.epoch ≠ info.cacheEpoch ∨ cache.revision ≠ info.cacheRevision then
      -- a revision gap without a full snapshot is no authoritative cache hit
      { info with cacheComplete := false, images := [] }
    else info
  { info with cacheEpoch := cache.epoch, cacheRevision := cache.revision }

/-- What an accepted heartbeat says of the Fastlet. -/
def applyReadiness (heartbeat : HeartbeatResponse) : FastletInfo :=
  { info with
    runtimeReady := heartbeat.runtimeReady
    infraReady := heartbeat.infraReady
    draining := info.drainRequested || heartbeat.draining
    runtimeProfileHash :=
      if info.runtimeProfileHash = "" then heartbeat.runtimeProfileHash else info.runtimeProfileHash
    resourceProfileHash :=
      if info.resourceProfileHash = "" then heartbeat.resourceProfileHash
      else info.resourceProfileHash
    infraRevision := if info.infraRevision = "" then heartbeat.infraRevision else info.infraRevision
    sandboxStatuses := heartbeat.sandboxStatuses.foldl
      (fun statuses status => update statuses status.sandboxID (some status))
      (fun _ => none) }

/-- `RejectedUntil` is reset once the rejection's own snapshot is superseded. -/
def clearRejection : FastletInfo :=
  if info.resourceRejectionCleared then { info with rejectedUntil := 0 } else info

/-- `ApplyHeartbeat` on its slot. -/
def applyHeartbeat (expectedPodUID : String)
    (heartbeat : HeartbeatResponse) (observedAt : Time) : FastletInfo × Option HeartbeatError :=
  match info.heartbeatError expectedPodUID heartbeat with
  | some .profileMismatch =>
    ({ info with runtimeReady := false, lastHeartbeat := observedAt }, some .profileMismatch)
  | some err => (info, some err)
  | none =>
    let info := info.applyReadiness heartbeat
    let info := info.applyHeartbeatAdmission heartbeat.admission observedAt
    let info := info.applyAdmissionResources lib
    let info := info.applyCache lib heartbeat.cache
    let info := { info with heartbeatSequence := heartbeat.sequence, lastHeartbeat := observedAt }
    (info.clearRejection, none)

/-- The feedback's snapshot is not older than the stored one, or starts a new epoch from it. -/
def acceptsFeedback
    (feedback : LocalFeedback) : Bool :=
  match info.admission.resources with
  | none => true
  | some current =>
    if status.epoch = current.epoch then current.revision ≤ status.revision
    else feedback.baseResourceEpoch = current.epoch &&
      feedback.baseResourceRevision = current.revision

/-- The feedback rejects on grounds of resources. -/
def fences (code : Option FastletErrorCode) : Bool :=
  code = some .capacityRejected || status.state = .blocked || status.state = .unknown

/-- `applyFeedbackAdmission` with an accepted snapshot. -/
def applyFeedbackAdmission (incoming : AdmissionStatus)
    (status : ResourceAdmissionStatus) (feedback : LocalFeedback) : FastletInfo :=
  { info with
    admission := incoming
    resourceReceivedAt := feedback.observedAt
    resourceFence :=
      if fences status feedback.code then ⟨status.epoch, status.revision⟩ else info.resourceFence }

def sandboxObservationAtOrAfter (incoming current : SandboxStatus) : Bool :=
  if incoming.instanceGeneration ≠ current.instanceGeneration then
    current.instanceGeneration < incoming.instanceGeneration
  else if incoming.assignmentAttempt ≠ current.assignmentAttempt then
    current.assignmentAttempt < incoming.assignmentAttempt
  else if incoming.acceptedGeneration ≠ current.acceptedGeneration then
    current.acceptedGeneration < incoming.acceptedGeneration
  else current.appliedGeneration ≤ incoming.appliedGeneration

def recordSandbox (sandbox : Option SandboxStatus) : FastletInfo :=
  match sandbox with
  | none => info
  | some status =>
    if status.sandboxID ≠ "" ∧
        ((info.sandboxStatuses status.sandboxID).all (sandboxObservationAtOrAfter status)) then
      { info with
        sandboxStatuses := update info.sandboxStatuses status.sandboxID (some status) }
    else info

/-- The codes after which a Fastlet is avoided for a while. -/
def penalizes : Option FastletErrorCode → Bool
  | some .capacityRejected | some .draining | some .runtimeUnavailable | some .networkUnavailable
  | some .infraUnavailable => true
  | _ => false

def settleRejection (feedback : LocalFeedback) : FastletInfo :=
  if penalizes feedback.code then
    { info with rejectedUntil := feedback.observedAt + feedback.retryAfter.toNat }
  else info.clearRejection

/-- `RecordFeedback` on its slot, with its defaults filled in. -/
def recordFeedback (feedback : LocalFeedback) : FastletInfo :=
  if feedback.podUID ≠ "" ∧ info.podUID ≠ feedback.podUID then info
  else
    match feedback.admission.bind fun admission => admission.resources.map (admission, ·) with
    | none => (info.recordSandbox feedback.sandbox).settleRejection feedback
    | some (incoming, status) =>
      if info.acceptsFeedback status feedback then
        let info := info.applyFeedbackAdmission incoming status feedback
        let info := info.applyAdmissionResources lib
        (info.recordSandbox feedback.sandbox).settleRejection feedback
      else info

end FastletInfo

def fastletInfoFromPod (pod : Pod) : FastletInfo where
  id := newFastletID pod.podNamespace pod.name
  podNamespace := pod.podNamespace
  podName := pod.name
  podUID := pod.uid
  podIP := pod.podIP
  nodeName := pod.nodeName
  poolName := pod.poolName
  runtimeName := pod.runtimeName
  runtimeProfileHash := pod.runtimeProfileHash
  resourceProfileHash := pod.resourceProfileHash
  infraRevision := pod.infraRevision
  fastletRevision := pod.fastletRevision
  resourceCapacity := pod.commitmentCapacity.getD 0
  drainRequested := pod.drainRequested
  draining := pod.drainRequested
  podReady := !pod.deleting && pod.running && pod.podIP ≠ "" && pod.readyCondition
  podObservedAt := pod.observedAt

/-- `RecordFeedback`'s defaults: the time of the call, and five seconds. -/
def LocalFeedback.complete (feedback : LocalFeedback) (now : Time) : LocalFeedback :=
  { feedback with
    observedAt := if feedback.observedAt = 0 then now else feedback.observedAt
    retryAfter := if feedback.retryAfter ≤ 0 then 5 * 10 ^ 9 else feedback.retryAfter }

/-! ## The registry -/

/-- A successful `ReserveLocal` that is not released yet. The code keeps the ID and the demand;
`token` tells reservations apart, and `podUID` is the Pod it was made against. -/
structure Reservation where
  token : ℕ
  id : FastletID
  podUID : String
  demand : ResourceDemand
deriving DecidableEq

/-- The registry. `outstanding` and `tokens` are not in the code: they record the reservations
that are not released yet. -/
structure InMemoryRegistry where
  slots : Ref → FastletInfo := fun _ => {}
  next : Ref := 0
  fastlets : Table Ref := ∅
  outstanding : Finset Reservation := ∅
  tokens : ℕ := 0

namespace InMemoryRegistry

variable (s : InMemoryRegistry) (id : FastletID)

def lookup : Option Ref := s.fastlets.lookup id

def modify (p : Ref) (f : FastletInfo → FastletInfo) : InMemoryRegistry :=
  { s with slots := update s.slots p (f (s.slots p)) }

def register : InMemoryRegistry :=
  { s with
    slots := update s.slots s.next {}
    next := s.next + 1
    fastlets := s.fastlets.insert id s.next }

def forget : InMemoryRegistry := { s with fastlets := s.fastlets.erase id }

def reservation (p : Ref) (id : FastletID) (demand : ResourceDemand) :
    Reservation :=
  ⟨s.tokens, id, (s.slots p).podUID, demand⟩

def enter (r : Reservation) : InMemoryRegistry :=
  { s with outstanding := insert r s.outstanding, tokens := s.tokens + 1 }

def settle (r : Reservation) : InMemoryRegistry := { s with outstanding := s.outstanding.erase r }

end InMemoryRegistry

/-! ## Calls -/

/-- The calls on the registry. `create` is the part of `createRuntimeOnTarget` that reserves, and
releases what it reserved when it returns. -/
inductive Call
  | create (id : FastletID) (demand : ResourceDemand)
  | upsertPod (pod : Pod)
  | removeIfPodUID (id : FastletID) (podUID : String)
  | applyHeartbeat (id : FastletID) (expectedPodUID : String) (heartbeat : HeartbeatResponse)
      (observedAt : Time)
  | recordFeedback (id : FastletID) (feedback : LocalFeedback)
deriving DecidableEq

/-- A call before its first section, or with the slot it looked up. -/
inductive Task
  | call (c : Call)
  | reserveAt (p : Ref) (id : FastletID) (demand : ResourceDemand)
  | holding (r : Reservation)
  | releaseAt (p : Ref) (r : Reservation)
  | upsertAt (p : Ref) (pod : Pod)
  | heartbeatAt (p : Ref) (id : FastletID) (expectedPodUID : String) (heartbeat : HeartbeatResponse)
      (observedAt : Time)
  | feedbackAt (p : Ref) (id : FastletID) (feedback : LocalFeedback)
deriving DecidableEq

/-- The first section of a call, under the registry's lock. -/
def begin (s : InMemoryRegistry) (now : Time) : Call → InMemoryRegistry × List Task
  | .create id demand => (s, ((s.lookup id).map fun p => .reserveAt p id demand).toList)
  | .upsertPod pod =>
    let id := (fastletInfoFromPod pod).id
    if id = "" then (s, [])
    else
      match s.lookup id with
      | some p => (s, [.upsertAt p pod])
      | none => (s.register id, [.upsertAt s.next pod])
  | .removeIfPodUID id podUID =>
    match s.lookup id with
    | some p => (if (s.slots p).podUID = podUID then s.forget id else s, [])
    | none => (s, [])
  | .applyHeartbeat id expectedPodUID heartbeat observedAt =>
    (s, ((s.lookup id).map fun p => .heartbeatAt p id expectedPodUID heartbeat observedAt).toList)
  | .recordFeedback id feedback =>
    (s, ((s.lookup id).map fun p => .feedbackAt p id (feedback.complete now)).toList)

def advance (lib : Library) (s : InMemoryRegistry) (t : Task) (now : Time) :
    Option (InMemoryRegistry × List Task) :=
  some <| match t with
  | .call c => begin s now c
  | .reserveAt p id demand =>
    match (s.slots p).reserveLocal demand with
    | none => (s, [])
    | some info =>
      let r := s.reservation p id demand
      ((s.modify p fun _ => info).enter r, [.holding r])
  | .holding r =>
    match s.lookup r.id with
    | none => (s.settle r, [])
    | some p => (s, [.releaseAt p r])
  | .releaseAt p r => ((s.modify p fun info => info.releaseLocal r.demand).settle r, [])
  | .upsertAt p pod => (s.modify p fun info => info.upsert (fastletInfoFromPod pod), [])
  | .heartbeatAt p _ expectedPodUID heartbeat observedAt =>
    (s.modify p fun info => (info.applyHeartbeat lib expectedPodUID heartbeat observedAt).1, [])
  | .feedbackAt p _ feedback => (s.modify p fun info => info.recordFeedback lib feedback, [])

def system (lib : Library) : System InMemoryRegistry Task Call Time where
  entry := .call
  advance := advance lib

/-- `NewInMemoryRegistry`. -/
def start : World InMemoryRegistry Task := ⟨{}, []⟩

/-! ## What a section does -/

/-- The sections that change nothing and end their call. -/
def Task.mayEnd : Task → Bool
  | .call _ | .reserveAt .. => true
  | _ => false

inductive Step (lib : Library) (s : InMemoryRegistry) : Task → InMemoryRegistry → List Task → Prop
  | done (t : Task) (h : t.mayEnd) : Step lib s t s []
  | lookReserve (id : FastletID) (demand : ResourceDemand) (p : Ref) (hp : s.lookup id = some p) :
      Step lib s (.call (.create id demand)) s [.reserveAt p id demand]
  | lookUpsert (pod : Pod) (p : Ref) (hp : s.lookup (fastletInfoFromPod pod).id = some p) :
      Step lib s (.call (.upsertPod pod)) s [.upsertAt p pod]
  | register (pod : Pod) (hp : s.lookup (fastletInfoFromPod pod).id = none) :
      Step lib s (.call (.upsertPod pod)) (s.register (fastletInfoFromPod pod).id)
        [.upsertAt s.next pod]
  | forget (id : FastletID) (podUID : String) (p : Ref) (hp : s.lookup id = some p)
      (huid : (s.slots p).podUID = podUID) :
      Step lib s (.call (.removeIfPodUID id podUID)) (s.forget id) []
  | lookHeartbeat (id : FastletID) (expectedPodUID : String) (heartbeat : HeartbeatResponse)
      (observedAt : Time) (p : Ref) (hp : s.lookup id = some p) :
      Step lib s (.call (.applyHeartbeat id expectedPodUID heartbeat observedAt)) s
        [.heartbeatAt p id expectedPodUID heartbeat observedAt]
  | lookFeedback (id : FastletID) (feedback : LocalFeedback) (now : Time) (p : Ref)
      (hp : s.lookup id = some p) :
      Step lib s (.call (.recordFeedback id feedback)) s [.feedbackAt p id (feedback.complete now)]
  | reserve (p : Ref) (id : FastletID) (demand : ResourceDemand) (info : FastletInfo)
      (hinfo : (s.slots p).reserveLocal demand = some info) :
      Step lib s (.reserveAt p id demand)
        ((s.modify p fun _ => info).enter (s.reservation p id demand))
        [.holding (s.reservation p id demand)]
  | releaseNone (r : Reservation) (hp : s.lookup r.id = none) :
      Step lib s (.holding r) (s.settle r) []
  | lookRelease (r : Reservation) (p : Ref) (hp : s.lookup r.id = some p) :
      Step lib s (.holding r) s [.releaseAt p r]
  | release (p : Ref) (r : Reservation) :
      Step lib s (.releaseAt p r) ((s.modify p fun info => info.releaseLocal r.demand).settle r) []
  | upsert (p : Ref) (pod : Pod) :
      Step lib s (.upsertAt p pod) (s.modify p fun info => info.upsert (fastletInfoFromPod pod)) []
  | heartbeat (p : Ref) (id : FastletID) (expectedPodUID : String) (heartbeat : HeartbeatResponse)
      (observedAt : Time) :
      Step lib s (.heartbeatAt p id expectedPodUID heartbeat observedAt)
        (s.modify p fun info => (info.applyHeartbeat lib expectedPodUID heartbeat observedAt).1) []
  | feedback (p : Ref) (id : FastletID) (feedback : LocalFeedback) :
      Step lib s (.feedbackAt p id feedback)
        (s.modify p fun info => info.recordFeedback lib feedback) []

theorem begin_step (lib : Library) (s : InMemoryRegistry) (now : Time) (c : Call) :
    Step lib s (.call c) (begin s now c).1 (begin s now c).2 := by
  cases c with
  | create id demand =>
    simp only [begin]
    cases hp : s.lookup id with
    | none => exact .done _ rfl
    | some p => exact .lookReserve id demand p hp
  | upsertPod pod =>
    simp only [begin]
    split_ifs
    · exact .done _ rfl
    · cases hp : s.lookup (fastletInfoFromPod pod).id with
      | some p => exact .lookUpsert pod p hp
      | none => exact .register pod hp
  | removeIfPodUID id podUID =>
    simp only [begin]
    cases hp : s.lookup id with
    | none => exact .done _ rfl
    | some p =>
      dsimp only
      split_ifs with hu
      · exact .forget id podUID p hp hu
      · exact .done _ rfl
  | applyHeartbeat id expectedPodUID heartbeat observedAt =>
    simp only [begin]
    cases hp : s.lookup id with
    | none => exact .done _ rfl
    | some p => exact .lookHeartbeat id expectedPodUID heartbeat observedAt p hp
  | recordFeedback id feedback =>
    simp only [begin]
    cases hp : s.lookup id with
    | none => exact .done _ rfl
    | some p => exact .lookFeedback id feedback now p hp

theorem advance_step {lib : Library} {s s' : InMemoryRegistry} {t : Task} {now : Time}
    {ts : List Task} (h : advance lib s t now = some (s', ts)) : Step lib s t s' ts := by
  cases t with
  | call c =>
    have heq : begin s now c = (s', ts) := some.inj h
    have hs := begin_step lib s now c
    rwa [heq] at hs
  | reserveAt p id demand =>
    simp only [advance] at h
    cases hin : (s.slots p).reserveLocal demand with
    | none =>
      rw [hin] at h
      cases h
      exact .done _ rfl
    | some info =>
      rw [hin] at h
      cases h
      exact .reserve p id demand info hin
  | holding r =>
    simp only [advance] at h
    cases hp : s.lookup r.id with
    | none =>
      rw [hp] at h
      cases h
      exact .releaseNone r hp
    | some p =>
      rw [hp] at h
      cases h
      exact .lookRelease r p hp
  | releaseAt p r =>
    cases h
    exact .release p r
  | upsertAt p pod =>
    cases h
    exact .upsert p pod
  | heartbeatAt p id expectedPodUID heartbeat observedAt =>
    cases h
    exact .heartbeat p id expectedPodUID heartbeat observedAt
  | feedbackAt p id feedback =>
    cases h
    exact .feedback p id feedback

end FastSandbox.Placement
