import FastSandbox.Fastlet.Capacity
import FastSandbox.Placement.Registry
import Mathlib.Data.Rat.Encodable

/-!
# The resource contract of a Pool

A Pool's resource profile is read by three components. The controller compiles it into the settings
of a Fastlet (`compileFastletResources`, `buildFastletSettingsFromResolved`), the orchestrator
resolves the resources of each Sandbox against it (`resolveSandboxResources`), and the Fastlet
derives the requests of a Sandbox once more from the limits that reach it as text. The results of
this module say that the three agree.
-/

namespace FastSandbox.Pool

open List Option

open Fastlet (ComputeResources Reading ResolvedResources RuntimeLimits RuntimeSandboxConfig
  divideRoundUp milliValue wholeValue)
open Placement (ResourceDemand)

/-! ## The library the three components share -/

/-- `Quantity.String`, `resource.ParseQuantity` and SHA-256. -/
structure Library where
  printQuantity : ℚ → String
  parseQuantity : String → Option ℚ
  parse_print : ∀ q, parseQuantity (printQuantity q) = some q
  sha256 : String → String

/-! ## Resource profiles -/

/-- A `SandboxResourceMode`: `invalid` is the empty text, `other` any text the API does not
define. -/
inductive SandboxResourceMode
  | invalid
  | legacySlot
  | resourceAware
  | other (text : String)
deriving DecidableEq

def SandboxResourceMode.text : SandboxResourceMode → String
  | invalid => ""
  | legacySlot => "LegacySlot"
  | resourceAware => "ResourceAware"
  | other text => text

structure SandboxResourceProfile where
  mode : SandboxResourceMode := .invalid
  (cpu memory : Option ℚ)
  overcommitRatio : Option ComputeResources := none
  pids : ℤ
deriving DecidableEq

/-- `ErrInvalidSandboxResourceProfile`, with what wraps it. -/
def invalidProfile (detail : String) : String := "invalid sandbox resource profile: " ++ detail

def errInvalidSandboxResourceProfile : String := "invalid sandbox resource profile"

namespace SandboxResourceProfile

variable (lib : Library) (p : SandboxResourceProfile)

/-- A profile without a mode is a legacy one. -/
def resourceMode : SandboxResourceMode :=
  if p.cpu.isNone ∨ p.memory.isNone then .invalid
  else
    match p.mode with
    | .invalid | .legacySlot => if p.overcommitRatio.isSome then .invalid else .legacySlot
    | .resourceAware => if p.overcommitRatio.isNone then .invalid else .resourceAware
    | .other _ => .invalid

def limitResources : Option ComputeResources :=
  if p.resourceMode = .invalid then none
  else p.cpu.bind fun cpu => p.memory.map fun memory => ⟨cpu, memory⟩

/-- The profile as the Fastlet keeps it: one type of the API, of which the Fastlet reads this. -/
def fastlet : Fastlet.ResourceProfile where
  resourceAware := p.resourceMode = .resourceAware
  overcommitRatio := p.overcommitRatio
  limits := p.limitResources.map fun limits =>
    { cpu := lib.printQuantity limits.cpu, memory := lib.printQuantity limits.memory }
  pids := p.pids

/-- `DeriveRequests`, the method the Fastlet calls too. -/
def deriveRequests (limits : ComputeResources) (read : Reading := .plain) :
    Except String ComputeResources :=
  Fastlet.ResourceProfile.deriveRequests
    { resourceAware := p.resourceMode = .resourceAware, overcommitRatio := p.overcommitRatio,
      limits := none, pids := p.pids } limits read

/-- The default demand. A legacy profile has none. -/
def requestResources (read : Reading := .plain) : Option ComputeResources :=
  if p.resourceMode ≠ .resourceAware then none
  else p.limitResources.bind fun limits => (p.deriveRequests limits read).toOption

/-- The checks on limits that `ResolveLimits` and `ValidateSandboxResourceProfile` share. -/
def limitsFailure (limits : ComputeResources) (read : Reading := .plain) : Option String :=
  if limits.cpu ≤ 0 ∨ limits.memory ≤ 0 then
    some (invalidProfile "cpu and memory limits must be greater than zero")
  else if read.milli limits.cpu < 10 then
    some (invalidProfile "cpu limit must be at least 10m for Linux CFS enforcement")
  else none

/-- The limits a Sandbox asks for, or else the defaults of the Pool. -/
def resolveLimits (override : Option ComputeResources) (read : Reading := .plain) :
    Except String ComputeResources :=
  match p.limitResources, override with
  | none, _ => .error errInvalidSandboxResourceProfile
  | some limits, none =>
    match limitsFailure limits read with
    | some err => .error err
    | none => .ok limits
  | some _, some limits =>
    if p.resourceMode ≠ .resourceAware then
      .error (invalidProfile "per-Sandbox resources require ResourceAware mode")
    else
      match limitsFailure limits read with
      | some err => .error err
      | none => .ok limits

/-- The commitment capacity of a Fastlet and its aggregate Sandbox runtime budget: the larger, in
each dimension, of the capacity and one default limit. -/
def resolveFastletCapacity (maxSandboxes : ℤ) (read : Reading := .plain) :
    Except String (ComputeResources × ComputeResources) :=
  if maxSandboxes ≤ 0 then .error "maxSandboxesPerPod must be greater than zero"
  else
    match p.requestResources read, p.limitResources with
    | some requests, some limits =>
      let capacity : ComputeResources :=
        ⟨requests.cpu * maxSandboxes, requests.memory * maxSandboxes⟩
      .ok (capacity, ⟨max capacity.cpu limits.cpu, max capacity.memory limits.memory⟩)
    | _, _ => .error (invalidProfile "ResourceAware requests cannot be derived")

/-- `ValidateSandboxResourceProfile`; nothing if the profile is valid. -/
def validate (read : Reading := .plain) : Option String :=
  if p.pids ≤ 0 then some (invalidProfile "pids must be greater than zero")
  else
    match p.limitResources with
    | none =>
      some (invalidProfile
        "cpu and memory plus a valid mode-specific overcommit policy are required")
    | some limits =>
      match limitsFailure limits read with
      | some err => some err
      | none =>
        if p.resourceMode = .legacySlot then none
        else
          match p.overcommitRatio with
          -- not reached: a profile that is neither invalid nor legacy has a ratio
          | none => none
          | some ratio =>
            if ratio.cpu < 1 ∨ ratio.memory < 1 then
              some (invalidProfile "cpu and memory overcommit ratios must be at least 1")
            else
              match p.deriveRequests limits read with
              | .error err =>
                some (invalidProfile ("cannot derive positive cpu and memory requests: " ++ err))
              | .ok requests =>
                if requests.cpu ≤ 0 ∨ requests.memory ≤ 0 then
                  some (invalidProfile "cannot derive positive cpu and memory requests")
                else none

def jsonField (name value : String) : String := "\"" ++ name ++ "\":\"" ++ value ++ "\""

/-- What `Hash` digests: the mode decides the shape. An invalid profile has none (`Hash` panics). -/
def payload : Option String :=
  p.limitResources.map fun limits =>
    let quantities := jsonField "cpu" (lib.printQuantity limits.cpu) ++ "," ++
      jsonField "memory" (lib.printQuantity limits.memory)
    match p.overcommitRatio with
    | none => "\x7b" ++ quantities ++ ",\"pids\":" ++ toString p.pids ++ "\x7d"
    | some ratio =>
      "\x7b" ++ jsonField "version" "resource-aware-v2" ++ ",\"limits\":\x7b" ++ quantities ++
        "\x7d,\"overcommitRatio\":\x7b" ++ jsonField "cpu" (lib.printQuantity ratio.cpu) ++ "," ++
        jsonField "memory" (lib.printQuantity ratio.memory) ++ "\x7d,\"pids\":" ++
        toString p.pids ++ "\x7d"

@[irreducible] def hash : Option String := (p.payload lib).map lib.sha256

end SandboxResourceProfile

/-! ### What a valid resource-aware profile derives -/

variable {limits requests : ComputeResources} {count : ℤ}

namespace SandboxResourceProfile

variable {p : SandboxResourceProfile} {lib : Library} {read read' : Reading}

/-- The default limits and the ratio of a valid resource-aware profile, and the requests they
give. -/
structure Derives (p : SandboxResourceProfile) (limits ratio requests : ComputeResources)
    (read : Reading := .plain) : Prop where
  aware : p.resourceMode = .resourceAware
  limits_eq : p.limitResources = some limits
  limits_ok : limitsFailure limits read = none
  ratio_eq : p.overcommitRatio = some ratio
  cpu_ratio : 1 ≤ ratio.cpu
  memory_ratio : 1 ≤ ratio.memory
  requests_eq : p.deriveRequests limits read = .ok requests

theorem limitsFailure_eq_none (h : limitsFailure limits read = none) :
    0 < limits.cpu ∧ 0 < limits.memory ∧ 10 ≤ read.milli limits.cpu := by
  unfold limitsFailure at h
  split_ifs at h with hs hl
  rw [not_or, not_le, not_le] at hs
  exact ⟨hs.1, hs.2, not_lt.1 hl⟩

theorem deriveRequests_eq_ok (h : p.deriveRequests limits read = .ok requests) :
    ∃ ratio cpuMilli memoryBytes, p.overcommitRatio = some ratio ∧
      divideRoundUp (read.milli limits.cpu) ratio.cpu = .ok cpuMilli ∧
      divideRoundUp (read.whole limits.memory) ratio.memory = .ok memoryBytes ∧
      requests = ⟨(cpuMilli : ℚ) / 1000, memoryBytes⟩ :=
  Fastlet.ResourceProfile.deriveRequests_eq_ok h

theorem deriveRequests_pos (h : p.deriveRequests limits read = .ok requests) :
    0 < requests.cpu ∧ 0 < requests.memory := Fastlet.ResourceProfile.deriveRequests_pos h

theorem resourceMode_cases (p : SandboxResourceProfile) :
    p.resourceMode = .invalid ∨ p.resourceMode = .legacySlot ∨
      p.resourceMode = .resourceAware ∧ ∃ ratio, p.overcommitRatio = some ratio := by
  unfold resourceMode
  cases p.mode <;> cases hr : p.overcommitRatio <;> split_ifs <;> simp_all

theorem validate_eq_none (hv : p.validate read = none) :
    ∃ limits, p.limitResources = some limits ∧ limitsFailure limits read = none ∧
      (p.resourceMode = .legacySlot ∨ ∀ ratio ∈ p.overcommitRatio, 1 ≤ ratio.cpu ∧
        1 ≤ ratio.memory ∧ ∃ requests, p.deriveRequests limits read = .ok requests) := by
  unfold validate at hv
  split at hv
  · cases hv
  split at hv
  · cases hv
  next limits hi =>
    split at hv
    · cases hv
    next ho =>
      refine ⟨limits, hi, ho, ?_⟩
      split at hv
      · next hl => exact .inl hl
      split at hv
      · next hn => exact .inr fun ratio hr => by rw [hn] at hr; cases hr
      next ratio hr =>
        right
        rintro ratio' hr'
        obtain rfl : ratio = ratio' := Option.some.inj (hr.symm.trans hr')
        split_ifs at hv with hle
        rw [not_or, not_lt, not_lt] at hle
        split at hv
        · cases hv
        next requests hq => exact ⟨hle.1, hle.2, requests, hq⟩

theorem derives_of_validate (hv : p.validate read = none) (ha : p.resourceMode = .resourceAware) :
    ∃ limits ratio requests, p.Derives limits ratio requests read := by
  obtain ⟨limits, hi, ho, hl | hr⟩ := validate_eq_none hv
  · rw [ha] at hl
    cases hl
  rcases resourceMode_cases p with hm | hm | ⟨-, ratio, hs⟩
  · rw [ha] at hm
    cases hm
  · rw [ha] at hm
    cases hm
  · obtain ⟨hu, he, requests, hq⟩ := hr ratio hs
    exact ⟨limits, ratio, requests, ha, hi, ho, hs, hu, he, hq⟩

namespace Derives

variable {limits ratio requests : ComputeResources} (h : p.Derives limits ratio requests read)
include h

theorem requestResources_eq : p.requestResources read = some requests := by
  rw [requestResources, if_neg (not_not.2 h.aware), h.limits_eq, bind_some, h.requests_eq]
  rfl

theorem resolveFastletCapacity_eq (hc : 0 < count) : p.resolveFastletCapacity count read =
      .ok (⟨requests.cpu * count, requests.memory * count⟩,
        ⟨max (requests.cpu * count) limits.cpu, max (requests.memory * count) limits.memory⟩) := by
  rw [resolveFastletCapacity, if_neg (not_le.2 hc), h.requestResources_eq, h.limits_eq]

end Derives

theorem resolveFastletCapacity_pos {answer : ComputeResources × ComputeResources}
    (h : p.resolveFastletCapacity count read = .ok answer) : 0 < count := by
  unfold resolveFastletCapacity at h
  split_ifs at h with hle
  exact not_le.1 hle

/-! ### What fits an `int64` is read alike -/

/-- The limits fit an `int64`, in millicores and in bytes. -/
abbrev Fits (limits : ComputeResources) : Prop :=
  ⌈limits.cpu * 1000⌉ < 2 ^ 63 ∧ ⌈limits.memory⌉ < 2 ^ 63

end SandboxResourceProfile

/-! ## Pools -/

inductive RuntimeName
  | container
  | gvisor
  | kataQemu
  | kataFc
  | kataClh
  | kataDragonball
  | firecracker
deriving DecidableEq

/-- The CPU and memory entries of a `corev1.ResourceList`. -/
structure ResourceList where
  (cpu memory : Option ℚ := none)
deriving DecidableEq

structure Container where
  name : String := ""
  (requests limits : ResourceList := {})
  restartAlways : Bool := false
deriving DecidableEq

structure PoolCapacity where
  (poolMin poolMax bufferMin bufferMax : ℤ := 0)
deriving DecidableEq

structure SandboxPoolSpec where
  runtime : RuntimeName := .container
  sandboxResources : SandboxResourceProfile
  maxSandboxesPerPod : ℤ
  capacity : PoolCapacity := {}
  (containers initContainers : List Container := [])
deriving DecidableEq

structure SandboxPool where
  (poolNamespace name : String := "")
  spec : SandboxPoolSpec
deriving DecidableEq

/-- `ErrRuntimeOwnerResources`, with what wraps it. -/
def runtimeOwnerResources (detail : String) : String :=
  "ResourceAware runtime owner resources are derived: " ++ detail

/-- The first resource of the Fastlet container that the Pool must not set. -/
def Container.ownedResource (c : Container) : Option String :=
  if c.requests.cpu.isSome then some "resources.requests.cpu"
  else if c.requests.memory.isSome then some "resources.requests.memory"
  else if c.limits.cpu.isSome then some "resources.limits.cpu"
  else if c.limits.memory.isSome then some "resources.limits.memory"
  else none

/-- `ValidateResourceContract`; nothing if the contract holds. -/
def SandboxPoolSpec.validateResourceContract (s : SandboxPoolSpec) (read : Reading := .plain) :
    Option String :=
  match s.sandboxResources.validate read with
  | some err => some err
  | none =>
    if s.sandboxResources.resourceMode ≠ .resourceAware then none
    else
      match s.containers with
      | [] => some (runtimeOwnerResources
          "fastletTemplate.spec.containers must contain the fastlet container")
      | owner :: _ =>
        owner.ownedResource.map fun field =>
          runtimeOwnerResources ("container \"" ++ owner.name ++ "\" must not set " ++ field)

/-! ## The settings of a Fastlet -/

structure ResolvedFastletResources where
  mode : SandboxResourceMode
  (staticAdmission memoryAdmission : Bool := false)
  (commitmentCapacity sandboxRuntimeBudget runtimeEnvelope : ComputeResources := 0)

/-- The runtime budget with the Fastlet's own overhead on top. -/
def addOverhead (budget : ComputeResources) (overhead : ResourceList) :
    Except String ComputeResources :=
  if overhead.cpu.any (· < 0) then .error "Fastlet cpu overhead must not be negative"
  else if overhead.memory.any (· < 0) then .error "Fastlet memory overhead must not be negative"
  else .ok ⟨budget.cpu + overhead.cpu.getD 0, budget.memory + overhead.memory.getD 0⟩

def compileFastletResources (pool : SandboxPool) (overhead : ResourceList)
    (read : Reading := .plain) : Except String ResolvedFastletResources :=
  match pool.spec.validateResourceContract read with
  | some err => .error err
  | none =>
    match pool.spec.sandboxResources.resourceMode with
    | .legacySlot => .ok { mode := .legacySlot }
    | .resourceAware =>
      match pool.spec.sandboxResources.resolveFastletCapacity pool.spec.maxSandboxesPerPod read with
      | .error err => .error err
      | .ok (capacity, budget) =>
        match addOverhead budget overhead with
        | .error err => .error err
        | .ok envelope => .ok {
            mode := .resourceAware
            staticAdmission := true
            memoryAdmission := true
            commitmentCapacity := capacity
            sandboxRuntimeBudget := budget
            runtimeEnvelope := envelope }
    | _ => .error errInvalidSandboxResourceProfile

structure FeatureGates where
  (disableStaticAdmission disableMemoryAdmission : Bool := false)

def applyResourceAwareFeatureGates (gates : FeatureGates) (resolved : ResolvedFastletResources) :
    ResolvedFastletResources :=
  if resolved.mode ≠ .resourceAware then resolved
  else { resolved with
    staticAdmission := !gates.disableStaticAdmission
    memoryAdmission := !gates.disableMemoryAdmission }

structure ResourceAdmissionSettings where
  version : String
  mode : SandboxResourceMode
  (staticAdmission memoryAdmission : Bool)
  (capacity sandboxRuntimeBudget runtimeEnvelope : ComputeResources)
  podMemoryBudget : ℚ
  resourceProfileHash : Option String

/-- What a container adds to the memory of its Pod. -/
def Container.memoryShare (c : Container) : ℚ :=
  match c.limits.memory with
  | some limit => if 0 < limit then limit else 0
  | none => 0

/-- `defaultPlatformResourceLimit` of memory: 256Mi. -/
def defaultPlatformMemoryLimit : ℚ := 256 * 2 ^ 20

/-- The memory of the whole Pod: the envelope, the sidecars, the init containers that keep running
and the platform's proxy. -/
def podMemoryBudget (spec : SandboxPoolSpec) (envelope : ComputeResources) : ℚ :=
  envelope.memory + (spec.containers.tail.map Container.memoryShare).sum +
    ((spec.initContainers.filter (·.restartAlways)).map Container.memoryShare).sum +
    defaultPlatformMemoryLimit

def boundedFirecrackerVersion : String := "v3"

/-- `ResourceAdmissionSettings.Validate`; nothing if the settings are valid. -/
def ResourceAdmissionSettings.validate (lib : Library) (s : ResourceAdmissionSettings)
    (profile : SandboxResourceProfile) (read : Reading := .plain) : Option String :=
  if s.version ≠ "v2" ∧ s.version ≠ boundedFirecrackerVersion ∨ s.mode ≠ .resourceAware then
    some ("unsupported resource admission settings version \"" ++ s.version ++ "\" mode \"" ++
      s.mode.text ++ "\"")
  else if profile.resourceMode ≠ .resourceAware ∨ s.resourceProfileHash ≠ profile.hash lib then
    some "resource admission settings do not match the Sandbox resource profile"
  else
    let requests := (profile.requestResources read).getD 0
    let limits := profile.limitResources.getD 0
    if s.capacity.cpu ≤ 0 ∨ s.capacity.memory ≤ 0 ∨ s.sandboxRuntimeBudget.cpu ≤ 0 ∨
        s.sandboxRuntimeBudget.memory ≤ 0 ∨ s.runtimeEnvelope.cpu ≤ 0 ∨
        s.runtimeEnvelope.memory ≤ 0 ∨ s.podMemoryBudget ≤ 0 then
      some ("resource admission capacity, Sandbox runtime budget, runtime envelope, and Pod " ++
        "memory budget must be greater than zero")
    else if s.sandboxRuntimeBudget.cpu < s.capacity.cpu ∨
        s.sandboxRuntimeBudget.memory < s.capacity.memory then
      some "resource admission capacity must not exceed the Sandbox runtime budget"
    else if s.runtimeEnvelope.cpu < s.sandboxRuntimeBudget.cpu ∨
        s.runtimeEnvelope.memory < s.sandboxRuntimeBudget.memory then
      some "Sandbox runtime budget must not exceed the Fastlet runtime envelope"
    else if s.podMemoryBudget < s.runtimeEnvelope.memory then
      some "Pod memory budget must not be lower than the Fastlet runtime envelope memory"
    else if s.capacity.cpu < requests.cpu ∨ s.capacity.memory < requests.memory then
      some "resource admission capacity cannot commit one Sandbox request"
    else if s.sandboxRuntimeBudget.cpu < limits.cpu ∨
        s.sandboxRuntimeBudget.memory < limits.memory then
      some "resource admission Sandbox runtime budget cannot contain one Sandbox limit"
    else none

/-! ## A Fastlet with those settings -/

inductive RuntimeState
  | unset
  | pending
  | creating
  | ready
  | failed
  | stopping
  | stopped
  | pausing
  | paused
  | resuming
  | other (text : String)

/-- What the Pool controller and the resource resolution read of a Sandbox.
`terminalFailure` is `terminalRuntimeFailureRecorded`. -/
structure Sandbox where
  (sandboxNamespace name uid : String := "")
  generation : ℤ := 1
  deleting : Bool := false
  poolRef : String := ""
  resources : Option ComputeResources := none
  (fastletName fastletPodUID : String := "")
  attempt : ℤ := 0
  runtimeState : RuntimeState := .unset
  runtimeGeneration : ℤ := 0
  terminalFailure : Bool := false

inductive ResolutionReason
  | invalidSandboxResources
  | limitExceedsFastletBudget

/-- An error of `ResolveSandboxResources`: `refused` is a `SandboxResourceResolutionError`. -/
inductive ResolutionError
  | refused (reason : ResolutionReason) (err : String)
  | failed (err : String)

/-- Limits and requests as the Fastlet is sent them. -/
def Library.sent (lib : Library) (pids : ℤ) (limits requests : ComputeResources) :
    ResolvedResources where
  limits := {
    cpu := lib.printQuantity limits.cpu
    memory := lib.printQuantity limits.memory
    pids }
  requestCPU := lib.printQuantity requests.cpu
  requestMemory := lib.printQuantity requests.memory

/-- The resolved request and limit as the Fastlet is sent them, and the demand the controller
reserves. Outside resource-aware mode nothing is sent and nothing reserved. -/
def resolveSandboxResources (lib : Library) (pool : SandboxPool) (sandbox : Sandbox)
    (read : Reading := .plain) :
    Except ResolutionError (Option ResolvedResources × ResourceDemand) :=
  let profile := pool.spec.sandboxResources
  match profile.validate read with
  | some err => .error (.failed err)
  | none =>
    match profile.resolveLimits sandbox.resources read with
    | .error err => .error (.refused .invalidSandboxResources err)
    | .ok limits =>
      if profile.resourceMode ≠ .resourceAware then .ok (none, 0)
      else
        match profile.deriveRequests limits read with
        | .error err => .error (.refused .invalidSandboxResources err)
        | .ok requests =>
          match profile.resolveFastletCapacity pool.spec.maxSandboxesPerPod read with
          | .error err => .error (.failed err)
          | .ok (_, budget) =>
            if budget.cpu < limits.cpu ∨ budget.memory < limits.memory then
              .error (.refused .limitExceedsFastletBudget
                ("Sandbox limits " ++ lib.printQuantity limits.cpu ++ "/" ++
                  lib.printQuantity limits.memory ++
                  " exceed Fastlet Sandbox runtime budget " ++
                  lib.printQuantity budget.cpu ++ "/" ++ lib.printQuantity budget.memory))
            else
              .ok (some (lib.sent profile.pids limits requests), requests)

/-! ## The three agree -/

section Agreement

open SandboxResourceProfile

variable {lib : Library} {pool : SandboxPool} {sandbox : Sandbox} {overhead : ResourceList}
  {read : Reading}

theorem SandboxPoolSpec.profile_of_contract {spec : SandboxPoolSpec}
    (h : spec.validateResourceContract read = none) :
    spec.sandboxResources.validate read = none := by
  unfold validateResourceContract at h
  split at h
  · cases h
  · assumption

/-- The numbers a resource-aware Pool is compiled to. -/
structure ResolvedFastletResources.Compiles (compiled : ResolvedFastletResources)
    (count : ℤ) (limits requests : ComputeResources) : Prop where
  aware : compiled.mode = .resourceAware
  capacity : compiled.commitmentCapacity = ⟨requests.cpu * count, requests.memory * count⟩
  budget : compiled.sandboxRuntimeBudget =
    ⟨max (requests.cpu * count) limits.cpu, max (requests.memory * count) limits.memory⟩
  envelope_cpu : compiled.sandboxRuntimeBudget.cpu ≤ compiled.runtimeEnvelope.cpu
  envelope_memory : compiled.sandboxRuntimeBudget.memory ≤ compiled.runtimeEnvelope.memory

variable {compiled : ResolvedFastletResources}

theorem ResolvedFastletResources.Compiles.gates (h : compiled.Compiles count limits requests)
    (gates : FeatureGates) :
    (applyResourceAwareFeatureGates gates compiled).Compiles count limits requests := by
  rw [applyResourceAwareFeatureGates, if_neg (not_not.2 h.aware)]
  exact ⟨h.aware, h.capacity, h.budget, h.envelope_cpu, h.envelope_memory⟩

theorem SandboxResourceProfile.resolveLimits_eq_ok {p : SandboxResourceProfile}
    {override : Option ComputeResources} (h : p.resolveLimits override read = .ok limits) :
    limitsFailure limits read = none ∧
      (p.limitResources = some limits ∨ override = some limits) := by
  unfold resolveLimits at h
  split at h
  · cases h
  · next hl =>
    split at h
    · cases h
    · next ho => cases h; exact ⟨ho, .inl hl⟩
  · split at h
    · cases h
    · split at h
      · cases h
      · next ho => cases h; exact ⟨ho, .inr rfl⟩

theorem resolve_aware {resolved : Option ResolvedResources} {demand : ResourceDemand}
    (hw : pool.spec.sandboxResources.resourceMode = .resourceAware)
    (h : resolveSandboxResources lib pool sandbox read = .ok (resolved, demand)) :
    ∃ limits capacity budget,
      pool.spec.sandboxResources.resolveLimits sandbox.resources read = .ok limits ∧
      pool.spec.sandboxResources.deriveRequests limits read = .ok demand ∧
      pool.spec.sandboxResources.resolveFastletCapacity pool.spec.maxSandboxesPerPod read =
        .ok (capacity, budget) ∧
      limits.cpu ≤ budget.cpu ∧ limits.memory ≤ budget.memory ∧
      resolved = some (lib.sent pool.spec.sandboxResources.pids limits demand) := by
  unfold resolveSandboxResources at h
  dsimp only at h
  split at h
  · cases h
  split at h
  · cases h
  next limits hl =>
    rw [if_neg (not_not.2 hw)] at h
    split at h
    · cases h
    next requests hr =>
      split at h
      · cases h
      next capacity budget ha =>
        split_ifs at h with he
        rw [not_or, not_lt, not_lt] at he
        cases h
        exact ⟨limits, capacity, budget, hl, hr, ha, he.1, he.2, rfl⟩

end Agreement

/-! ### A Pool of two Sandboxes a Fastlet -/

/-- Quantities spelled as their number in an enumeration of the rationals. -/
def unaryLibrary : Library where
  printQuantity q := String.ofList (List.replicate (Encodable.encode q) 'i')
  parseQuantity text := Encodable.decode text.length
  parse_print q := by rw [String.length_ofList, length_replicate, Encodable.encodek]
  sha256 text := text

/-- Half a CPU and 100 bytes for each Sandbox, overcommitted three times and one and a half
times. -/
def samplePool : SandboxPool where
  name := "pool"
  spec := {
    sandboxResources := {
      mode := .resourceAware
      cpu := some (1 / 2)
      memory := some 100
      overcommitRatio := some ⟨3, 3 / 2⟩
      pids := 16 }
    maxSandboxesPerPod := 2
    containers := [{ name := "fastlet" }] }

def sampleFastlet : Fastlet.Config where
  capacity := 2
  capacity_pos := Nat.two_pos

theorem eq_ok_of_toOption {ε α : Type*} {answer : Except ε α} {a : α}
    (h : answer.toOption = some a) : answer = .ok a := by
  cases answer with
  | error => cases h
  | ok =>
    cases h
    rfl

end FastSandbox.Pool
