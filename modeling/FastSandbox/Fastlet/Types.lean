import FastSandbox.Action.Types
import FastSandbox.DataPlane.RouteStore
import Mathlib.Data.Rat.Floor

/-!
# The Fastlet's Sandbox manager: phases, records and configuration

A `Ref` is the address of a `SandboxMetadata`: the manager compares records by address, and a
record keeps its address for life. Quantities are rationals, and `MilliValue` and `Value` are the
low 64 bits of the ceilings they compute. Diagnostics, metrics and timestamps are left out.
-/

namespace FastSandbox.Fastlet

open FastSandbox.Action (ActionBindingStatus)

/-! ## Phases -/

/-- The `sandboxState…` constants. `other` is any text a runtime driver reports. -/
inductive Phase
  | creating
  | imagePending
  | infraPending
  | initializingInfra
  | infraUnavailable
  | routePending
  | publishingRoute
  | routeUnavailable
  | actionPending
  | actionUnavailable
  | running
  | terminating
  | deleting
  | deleteFailed
  | createFailed
  | createCleanup
  | createCleanupFailed
  | runtimeFailureCleanup
  | runtimeFailed
  | unknown
  | other (text : String)
deriving DecidableEq

def Phase.text : Phase → String
  | creating => "creating"
  | imagePending => "image-pending"
  | infraPending => "infra-pending"
  | initializingInfra => "initializing-infra"
  | infraUnavailable => "infra-unavailable"
  | routePending => "route-pending"
  | publishingRoute => "publishing-route"
  | routeUnavailable => "route-unavailable"
  | actionPending => "action-pending"
  | actionUnavailable => "action-unavailable"
  | running => "running"
  | terminating => "terminating"
  | deleting => "deleting"
  | deleteFailed => "delete-failed"
  | createFailed => "create-failed"
  | createCleanup => "create-cleanup"
  | createCleanupFailed => "create-cleanup-failed"
  | runtimeFailureCleanup => "runtime-failure-cleanup"
  | runtimeFailed => "runtime-failed"
  | unknown => "unknown"
  | other text => text

/-- The phases in which the Sandbox's runtime exists and is in use. -/
def runtimeCreatedPhase : Phase → Bool
  | .infraPending | .initializingInfra | .infraUnavailable | .routePending | .publishingRoute
  | .routeUnavailable | .actionPending | .actionUnavailable | .running => true
  | _ => false

def dataPlaneWorkPending : Phase → Bool
  | .infraPending | .initializingInfra | .infraUnavailable | .routePending | .publishingRoute
  | .routeUnavailable => true
  | _ => false

def routeReadyForPhase : Phase → Bool
  | .running | .actionPending | .actionUnavailable => true
  | _ => false

/-- Terminal records occupy no slot and no resource commitment. -/
def occupiesSlot : Phase → Bool
  | .createFailed | .runtimeFailed => false
  | _ => true

/-! ## Identities and records -/

structure SandboxIdentity where
  (sandboxUID sandboxNamespace name : String := "")
  instanceGeneration : ℤ := 0
  runtimeInstanceID : String := ""
  (assignmentAttempt routeGeneration : ℤ := 0)
  fastletPodUID : String := ""
deriving DecidableEq

structure SandboxDesiredSpec where
  (image runtimeProfileHash resourceProfileHash infraRevision : String := "")
  restore : Option String := none
deriving DecidableEq

/-- Limits as the request spells them. -/
structure RuntimeLimits where
  (cpu memory : String := "")
  pids : ℤ := 0
deriving DecidableEq

/-- `ResolvedSandboxResources`: the limits, and the requests derived from them upstream. -/
structure ResolvedResources where
  limits : RuntimeLimits
  (requestCPU requestMemory : String)
deriving DecidableEq

structure RuntimeSandboxConfig where
  identity : SandboxIdentity := {}
  actionsAPIVersion : String := ""
  desired : SandboxDesiredSpec := {}
  limits : RuntimeLimits := {}
deriving DecidableEq

structure ServiceEndpoint where
  (component protocol : String)
  port : ℕ
  hostProcess : Bool := false
deriving DecidableEq

structure SandboxMetadata where
  config : RuntimeSandboxConfig := {}
  phase : Phase := .unknown
  infraServices : List ServiceEndpoint := []
  (acceptedGeneration appliedGeneration : ℤ := 0)
  actionBindingStatuses : List ActionBindingStatus := []
deriving DecidableEq

abbrev Ref := ℕ

structure ActionBindingInput where
  (handler input : String)
deriving DecidableEq

structure CreateSandboxRequest where
  requestID : String := ""
  identity : SandboxIdentity
  sandbox : SandboxDesiredSpec := {}
  resources : Option ResolvedResources := none
  specGeneration : ℤ := 1
  actionBindings : List ActionBindingInput := []
deriving DecidableEq

/-! ## Resources -/

structure ComputeResources where
  (cpu memory : ℚ)
deriving DecidableEq

instance : Zero ComputeResources := ⟨⟨0, 0⟩⟩
instance : Add ComputeResources := ⟨fun a b => ⟨a.cpu + b.cpu, a.memory + b.memory⟩⟩

/-- The `int64` an integer becomes when its low 64 bits are kept. -/
def int64 (value : ℤ) : ℤ := value.bmod (2 ^ 64)

/-- `MilliValue` of a quantity written in plain digits: what overflows keeps its low 64 bits. -/
def milliValue (quantity : ℚ) : ℤ := int64 ⌈quantity * 1000⌉

/-- `Value` of a quantity written in plain digits. -/
def wholeValue (quantity : ℚ) : ℤ := int64 ⌈quantity⌉

/-- `MilliValue` and `Value` of the quantities that one component holds. They are exact for what
fits an `int64`. Beyond, they depend on how a quantity is written. -/
structure Reading where
  (milli whole : ℚ → ℤ)
  milli_eq : ∀ q, 0 < q → ⌈q * 1000⌉ < 2 ^ 63 → milli q = ⌈q * 1000⌉
  whole_eq : ∀ q, 0 < q → ⌈q⌉ < 2 ^ 63 → whole q = ⌈q⌉

theorem int64_of_lt {z : ℤ} (h : 0 ≤ z) (hlt : z < 2 ^ 63) : int64 z = z :=
  Int.bmod_eq_of_le (by omega) (by omega)

def Reading.plain : Reading where
  milli := milliValue
  whole := wholeValue
  milli_eq _ hq := int64_of_lt (Int.ceil_nonneg (by positivity))
  whole_eq _ hq := int64_of_lt (Int.ceil_nonneg hq.le)

/-- `divideRoundUp`, with its `int64` bound. -/
def divideRoundUp (value : ℤ) (ratio : ℚ) : Except String ℤ :=
  if value ≤ 0 ∨ ratio ≤ 0 then .error "value and ratio must be greater than zero"
  else
    let result := ⌈(value : ℚ) / ratio⌉
    if result ≤ 0 ∨ 2 ^ 63 ≤ result then .error "derived request is outside int64 range"
    else .ok result

/-- A `SandboxResourceProfile`. `limits` is what `LimitResources` renders. -/
structure ResourceProfile where
  resourceAware : Bool
  overcommitRatio : Option ComputeResources
  limits : Option RuntimeLimits
  pids : ℤ

/-- `DeriveRequests` on quantities: CPU in whole millicores, memory in whole bytes. -/
def ResourceProfile.deriveRequests (p : ResourceProfile) (limits : ComputeResources)
    (read : Reading := .plain) : Except String ComputeResources :=
  match p.overcommitRatio.filter fun _ => p.resourceAware with
  | none => .error "invalid sandbox resource profile: ResourceAware overcommit policy is required"
  | some ratio =>
    match divideRoundUp (read.milli limits.cpu) ratio.cpu with
    | .error err => .error ("derive cpu request: " ++ err)
    | .ok cpuMilli =>
      match divideRoundUp (read.whole limits.memory) ratio.memory with
      | .error err => .error ("derive memory request: " ++ err)
      | .ok memoryBytes => .ok ⟨(cpuMilli : ℚ) / 1000, memoryBytes⟩

/-- The settings `Validate` accepts: the commitment capacity is positive. -/
structure ResourceAdmissionSettings where
  capacity : ComputeResources
  cpu_pos : 0 < capacity.cpu
  memory_pos : 0 < capacity.memory
  sandboxRuntimeBudget : ComputeResources
  (staticAdmission memoryAdmission : Bool)

inductive AdmissionState
  | open
  | blocked
  | unknown
deriving DecidableEq

def AdmissionState.text : AdmissionState → String
  | .open => "OPEN"
  | .blocked => "BLOCKED"
  | .unknown => "UNKNOWN"

/-! ## Configuration -/

/-- What the manager asks of its Action Manager outside any call. -/
structure ActionSettings where
  apiVersion : String
  required : Bool

/-- The configuration `NewSandboxManagerWithConfig` accepts, and which optional extensions the
runtime implements. -/
structure Config where
  capacity : ℕ
  capacity_pos : 0 < capacity
  (fastletPodUID runtimeProfileHash resourceProfileHash : String := "")
  resourceProfile : Option ResourceProfile := none
  resourceAdmission : Option ResourceAdmissionSettings := none
  infraRevision : String := ""
  (infraManager routePublisher : Bool := false)
  actionManager : Option ActionSettings := none
  (recoverOnStart imageDelivery checkpointDelivery terminalFailureHandler : Bool := false)
  accessDescriptorProvider : Bool := true
  parseQuantity : String → Option ℚ := fun _ => none
  reading : Reading := .plain
  parseIP : String → Bool := fun _ => true

/-! ## Errors and answers -/

inductive FastletErrorCode
  | capacityRejected
  | draining
  | inProgress
  | conflict
  | staleGeneration
  | staleAssignment
  | runtimeUnavailable
  | networkUnavailable
  | infraUnavailable
  | actionUnavailable
  | notFound
  | generationFenced
  | profileMismatch
  | snapshotUnsupported
deriving DecidableEq

def FastletErrorCode.text : FastletErrorCode → String
  | capacityRejected => "CapacityRejected"
  | draining => "Draining"
  | inProgress => "InProgress"
  | conflict => "Conflict"
  | staleGeneration => "StaleGeneration"
  | staleAssignment => "StaleAssignment"
  | runtimeUnavailable => "RuntimeUnavailable"
  | networkUnavailable => "NetworkUnavailable"
  | infraUnavailable => "InfraUnavailable"
  | actionUnavailable => "ActionUnavailable"
  | notFound => "NotFound"
  | generationFenced => "GenerationFenced"
  | profileMismatch => "ProfileMismatch"
  | snapshotUnsupported => "SnapshotUnsupported"

structure FastletError where
  code : FastletErrorCode
  message : String
  retryable : Bool
  reason : String := ""
deriving DecidableEq

inductive CreateDisposition
  | created
  | existing
  | inProgress
  | rejectedBeforeSideEffects
  | failedNeedsCleanup
  | generationFenced
  | unknown
deriving DecidableEq

structure AdmissionStatus where
  (capacity creating running deleting : ℕ := 0)
deriving DecidableEq

def AdmissionStatus.used (s : AdmissionStatus) : ℕ := s.creating + s.running + s.deleting

structure CreateSandboxResponse where
  disposition : CreateDisposition
  admission : AdmissionStatus
  error : Option FastletError := none
deriving DecidableEq

/-- The answer of a Create whose Sandbox stands: this call made it, or it existed. -/
structure CreateSuccess where
  created : Bool
  admission : AdmissionStatus

def CreateSuccess.response (s : CreateSuccess) : CreateSandboxResponse where
  disposition := if s.created then .created else .existing
  admission := s.admission

def fastletError (code : FastletErrorCode) (message : String) (retryable : Bool) : FastletError :=
  { code, message, retryable }

def admissionError (reason message : String) : FastletError :=
  { code := .capacityRejected, message, retryable := true, reason }

def defaultCreateDisposition : FastletErrorCode → CreateDisposition
  | .capacityRejected | .draining | .profileMismatch => .rejectedBeforeSideEffects
  | .inProgress => .inProgress
  | .generationFenced | .staleGeneration => .generationFenced
  | _ => .unknown

def createFailureWithDisposition (failure : FastletError) (admission : AdmissionStatus)
    (disposition : CreateDisposition) : CreateSandboxResponse :=
  { disposition, admission, error := some failure }

def createFailure (failure : FastletError) (admission : AdmissionStatus) : CreateSandboxResponse :=
  createFailureWithDisposition failure admission (defaultCreateDisposition failure.code)

end FastSandbox.Fastlet
