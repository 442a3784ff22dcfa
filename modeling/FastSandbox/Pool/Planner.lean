import FastSandbox.Pool.Resources

/-!
# The scale planner of a Pool

The Pool controller counts the Sandboxes that wait for capacity, packs their demands into what its
Fastlets have free, and adds a Fastlet for each demand that fits nowhere. A demand that does not
fit an empty Fastlet ends the planning: the Pool then keeps its size.

Scores are `float64` quotients in the source; here `share` is any function that stands for the
quotient. The result of this module says for which Pools every resolved demand fits an empty
Fastlet. `DeriveRequests` reads a limit as an `int64`, which is where the exception comes from.
-/

namespace FastSandbox.Pool

open SandboxResourceProfile Option List
open Fastlet (ComputeResources Reading int64 milliValue wholeValue divideRoundUp)
open Placement (ResourceDemand FastletInfo Time)

/-! ## What the registry says of a Fastlet -/

/-- 45 seconds. -/
def defaultObservationStaleAfter : ℕ := 45 * 10 ^ 9

/-- `now.Sub(at) ≤ d`; the zero time is never fresh. -/
def freshWithin (now observed : Time) (d : ℕ) : Bool := observed ≠ 0 && now ≤ observed + d

structure SchedulabilityView where
  schedulable : Bool := false
  freeSlots : ℤ := 0
  freeResources : ResourceDemand := 0

def SchedulabilityView.fits (v : SchedulabilityView) (demand : ResourceDemand) : Bool :=
  v.schedulable && 0 < demand.cpu && 0 < demand.memory && demand.cpu ≤ v.freeResources.cpu &&
    demand.memory ≤ v.freeResources.memory

def resourceSchedulability (info : FastletInfo) (now : Time) (staleAfter : ℕ) :
    SchedulabilityView :=
  match info.admission.resources with
  | none => {}
  | some status =>
    if !info.podReady || !info.runtimeReady || !info.infraReady || info.draining ||
        info.drainRequested || !freshWithin now info.lastHeartbeat staleAfter ||
        now < info.rejectedUntil || status.version ≠ "v2" ||
        !freshWithin now info.resourceReceivedAt staleAfter || status.state ≠ .open then {}
    else
      let free := info.resourceCapacity - info.resourceCommitted - info.inFlightResources
      let freeSlots := max 0 (info.admission.capacity - info.schedulingUsed)
      if freeSlots ≤ 0 ∨ free.cpu ≤ 0 ∨ free.memory ≤ 0 then {}
      else { schedulable := true, freeSlots, freeResources := free }

/-- How many Sandboxes of one demand the Fastlet could take at once. -/
def effectiveFreeCapacity (info : FastletInfo) (demand : ResourceDemand) (now : Time)
    (staleAfter : ℕ) : ℤ :=
  let view := resourceSchedulability info now staleAfter
  if !view.fits demand then 0
  else
    let cpuFree := (milliValue view.freeResources.cpu).tdiv (milliValue demand.cpu)
    let memoryFree := (wholeValue view.freeResources.memory).tdiv (wholeValue demand.memory)
    max 0 (min view.freeSlots (min cpuFree memoryFree))

def hasFreshHostMemoryPressure (info : FastletInfo) (now : Time) (staleAfter : ℕ) : Bool :=
  match info.admission.resources with
  | none => false
  | some status =>
    info.nodeName ≠ "" && status.version = "v2" && status.state = .blocked &&
      (status.reason = .hostMemoryPressure || status.reason = .nodeMemoryPressure) &&
      freshWithin now info.resourceReceivedAt staleAfter &&
      freshWithin now info.lastHeartbeat staleAfter

/-- `FreshHostMemoryPressureNodes`, as a test of one node. -/
def blockedNode (registry : List FastletInfo) (now : Time) (node : String) : Bool :=
  registry.any fun info =>
    hasFreshHostMemoryPressure info now defaultObservationStaleAfter && info.nodeName = node

def fastletResourceObservationFresh (info : FastletInfo) (now : Time) : Bool :=
  freshWithin now info.lastHeartbeat defaultObservationStaleAfter &&
    freshWithin now info.resourceReceivedAt defaultObservationStaleAfter

/-! ## Pods -/

inductive PodPhase
  | pending
  | running
  | succeeded
  | failed
deriving DecidableEq

inductive DrainReason
  | scaleDown
  | plannedUpgrade
  | other (text : String)
deriving DecidableEq

/-- A child Pod of a Pool. The `drain…` and `acked…` fields and `templateHash` are annotations, ""
and 0 where one is missing. -/
structure Pod where
  (name uid : String)
  (nodeName podIP : String := "")
  phase : PodPhase := .running
  (ready deleting : Bool := false)
  creationTimestamp : Time := 0
  templateHash : String := ""
  draining : Bool := false
  drainStartedAt : Time := 0
  drainID : String := ""
  drainReason : DrainReason := .other ""
  drainAckedAt : Time := 0
  drainAckedID : String := ""
deriving DecidableEq

def podIdentity (pod : Pod) : String := pod.name ++ "/" ++ pod.uid

/-- The observations of the Pool's own children, by Pod identity. -/
def resourceFastletsForPoolChildren (registry : List FastletInfo) (pool : SandboxPool)
    (pods : List Pod) (identity : String) : Option FastletInfo :=
  if pods.any fun pod => podIdentity pod = identity then
    (registry.filter fun info => info.podNamespace = pool.poolNamespace ∧
      info.poolName = pool.name ∧ info.podName ++ "/" ++ info.podUID = identity).getLast?
  else none

/-! ## Demand -/

def Sandbox.fastletIdentity (s : Sandbox) : String := s.fastletName ++ "/" ++ s.fastletPodUID

def sandboxNeedsPlacement (s : Sandbox) : Bool :=
  if s.fastletName ≠ "" ∨ s.deleting then false
  else
    match s.runtimeState with
    | .stopping | .stopped | .pausing | .paused | .resuming => false
    | _ => true

/-- The assigned Fastlet already counts this very instance among its reservations. -/
def fastletReportsCurrentReservation (s : Sandbox) (observed : String → Option FastletInfo)
    (now : Time) : Bool :=
  if s.uid = "" ∨ s.fastletName = "" ∨ s.fastletPodUID = "" ∨ s.attempt ≤ 0 ∨
      s.runtimeGeneration ≤ 0 ∨ s.generation ≤ 0 then false
  else
    match observed s.fastletIdentity with
    | none => false
    | some info =>
      info.podName = s.fastletName && info.podUID = s.fastletPodUID &&
        fastletResourceObservationFresh info now &&
        match info.sandboxStatuses s.uid with
        | none => false
        | some status =>
          status.instanceGeneration = s.runtimeGeneration && status.assignmentAttempt = s.attempt

def sandboxNeedsResourceCapacity (s : Sandbox) (observed : String → Option FastletInfo)
    (now : Time) : Bool :=
  if s.deleting then false
  else
    match s.runtimeState with
    | .ready | .creating | .failed | .stopping | .stopped | .pausing | .paused => false
    | .resuming => !fastletReportsCurrentReservation s observed now
    | _ => true

/-- How many Sandboxes are placed on a Fastlet that does not report them yet. -/
def awaitingAdmission (sandboxes : List Sandbox) (observed : String → Option FastletInfo)
    (now : Time) (identity : String) : ℕ :=
  sandboxes.countP fun s =>
    !s.deleting && s.fastletName ≠ "" && s.fastletPodUID ≠ "" && !s.terminalFailure &&
      s.fastletIdentity = identity && !fastletReportsCurrentReservation s observed now

/-- `activeAssignmentsByPod`. -/
def activeAssignments (sandboxes : List Sandbox) (poolName identity : String) : ℕ :=
  sandboxes.countP fun s =>
    s.poolRef = poolName && s.fastletName ≠ "" && !s.terminalFailure && s.fastletIdentity = identity

/-- The active and the pending Sandboxes of a Pool in slot mode. -/
def poolSlotDemandCounts (sandboxes : List Sandbox) (poolName : String) (pods : List Pod) : ℕ × ℕ :=
  let counted := sandboxes.filter fun s => s.poolRef = poolName ∧ !s.deleting ∧ !s.terminalFailure
  (counted.countP fun s => s.fastletName ≠ "" &&
      pods.any fun pod => podIdentity pod = s.fastletIdentity,
    counted.countP sandboxNeedsPlacement)

structure PoolPendingResourceResolution where
  admissible : List ResourceDemand := []
  unadmittable : List (Sandbox × ResolutionReason × String) := []

def resolvePoolPendingResources (lib : Library) (pool : SandboxPool)
    (observed : String → Option FastletInfo) (now : Time) :
    List Sandbox → Except String PoolPendingResourceResolution
  | [] => .ok {}
  | s :: rest =>
    if s.poolRef ≠ pool.name ∨ !sandboxNeedsResourceCapacity s observed now then
      resolvePoolPendingResources lib pool observed now rest
    else
      match resolveSandboxResources lib pool s with
      | .error (.failed err) =>
        .error ("resolve pending Sandbox " ++ s.name ++ " resources: " ++ err)
      | .error (.refused reason message) =>
        (resolvePoolPendingResources lib pool observed now rest).map fun result =>
          { result with unadmittable := (s, reason, message) :: result.unadmittable }
      | .ok (_, demand) =>
        (resolvePoolPendingResources lib pool observed now rest).map fun result =>
          { result with admissible := demand :: result.admissible }

/-! ## Packing -/

structure ResourceAwareFreeBin where
  slots : ℤ
  resources : ResourceDemand

def resourceDemandFits (demand : ResourceDemand) (bin : ResourceAwareFreeBin) : Bool :=
  0 < bin.slots && 0 < demand.cpu && 0 < demand.memory && demand.cpu ≤ bin.resources.cpu &&
    demand.memory ≤ bin.resources.memory

/-- The larger share of the two dimensions; 2 for an unusable capacity. -/
def dominantDemandShare (share : ℤ → ℤ → ℚ) (demand capacity : ResourceDemand) : ℚ :=
  if milliValue capacity.cpu ≤ 0 ∨ wholeValue capacity.memory ≤ 0 then 2
  else max (share (milliValue demand.cpu) (milliValue capacity.cpu))
    (share (wholeValue demand.memory) (wholeValue capacity.memory))

/-- The order in which demands are packed: larger ones first. -/
def packedBefore (share : ℤ → ℤ → ℚ) (capacity : ResourceDemand) (a b : ResourceDemand) : Bool :=
  let left := dominantDemandShare share a capacity
  let right := dominantDemandShare share b capacity
  if left ≠ right then right < left
  else if a.memory ≠ b.memory then b.memory < a.memory
  else b.cpu < a.cpu

/-- The bin a demand is packed into: the first of those with the least share left over. -/
def bestBin (share : ℤ → ℤ → ℚ) (fresh : ResourceAwareFreeBin) (demand : ResourceDemand) :
    List ResourceAwareFreeBin → ℕ → Option (ℕ × ℚ) → Option (ℕ × ℚ)
  | [], _, best => best
  | bin :: bins, index, best =>
    if !resourceDemandFits demand bin then bestBin share fresh demand bins (index + 1) best
    else
      let score := dominantDemandShare share (bin.resources - demand) fresh.resources
      let better := match best with
        | none => true
        | some (_, bestScore) => score < bestScore
      bestBin share fresh demand bins (index + 1) (if better then some (index, score) else best)

def ResourceAwareFreeBin.take (demand : ResourceDemand) (bin : ResourceAwareFreeBin) :
    ResourceAwareFreeBin :=
  { slots := bin.slots - 1, resources := bin.resources - demand }

/-- The demands of a list packed one after the other; nothing if one of them fits no bin and not
even a fresh one. -/
def packDemands (share : ℤ → ℤ → ℚ) (fresh : ResourceAwareFreeBin) :
    List ResourceDemand → List ResourceAwareFreeBin → ℕ → Option ℕ
  | [], _, added => some added
  | demand :: rest, bins, added =>
    match bestBin share fresh demand bins 0 none with
    | some (index, _) =>
      packDemands share fresh rest (bins.modify index (ResourceAwareFreeBin.take demand)) added
    | none =>
      if !resourceDemandFits demand fresh then none
      else packDemands share fresh rest (bins ++ [fresh.take demand]) (added + 1)

/-- How many Fastlets the pending demands and the buffer need beyond the free bins; nothing if they
are not packable. -/
def additionalFastletsForDemands (share : ℤ → ℤ → ℚ) (pending : List ResourceDemand) (bufferMin : ℤ)
    (defaultDemand : ResourceDemand) (existing : List ResourceAwareFreeBin)
    (fresh : ResourceAwareFreeBin) : Option ℕ :=
  let demands := pending ++ List.replicate bufferMin.toNat defaultDemand
  packDemands share fresh
    (demands.insertionSort fun a b => !packedBefore share fresh.resources b a) existing 0

/-! ## The plan -/

/-- What the controller is configured with. `share` is the `float64` quotient; zero durations
stand for their defaults. -/
structure Settings where
  share : ℤ → ℤ → ℚ := fun a b => (a : ℚ) / b
  (fastletStartupGrace resourceScaleDownStabilization : ℕ := 0)
  disableResourceAwarePoolScaling : Bool := false

variable (r : Settings) (v : PoolView)

def Settings.startupGrace : ℕ :=
  if r.fastletStartupGrace = 0 then 120 * 10 ^ 9 else r.fastletStartupGrace

def podWithinStartupGrace (pod : Pod) (now : Time) : Bool :=
  if pod.deleting ∨ pod.phase = .failed ∨ pod.phase = .succeeded ∨ pod.creationTimestamp = 0 then
    false
  else now ≤ pod.creationTimestamp + r.startupGrace

structure ResourceAwareDrainCandidate where
  identity : String
  free : ℤ

structure ResourceAwareCapacityView where
  (activeDrains activeScaleDownDrains : ℕ := 0)
  freeSlots : ℤ := 0
  freeBins : List ResourceAwareFreeBin := []
  removable : List ResourceAwareDrainCandidate := []

/-- What a pass has read before it plans. -/
structure PoolView where
  pool : SandboxPool
  pods : List Pod
  sandboxes : List Sandbox
  registry : List FastletInfo
  now : Time

def PoolView.observed : String → Option FastletInfo :=
  resourceFastletsForPoolChildren v.registry v.pool v.pods

def SandboxPool.nominal (pool : SandboxPool) : ℤ :=
  if pool.spec.maxSandboxesPerPod ≤ 0 then 1 else pool.spec.maxSandboxesPerPod

/-- One Pod's part of `observeResourceAwareCapacity`. -/
def observePod (capacity demand : ResourceDemand)
    (view : ResourceAwareCapacityView) (pod : Pod) : ResourceAwareCapacityView :=
  if pod.draining then
    { view with
      activeDrains := view.activeDrains + 1
      activeScaleDownDrains :=
        view.activeScaleDownDrains + if pod.drainReason = .scaleDown then 1 else 0 }
  else if pod.nodeName ≠ "" ∧ blockedNode v.registry v.now pod.nodeName then view
  else
    let unreported :=
      if podWithinStartupGrace r pod v.now then
        { view with
          freeSlots := view.freeSlots + v.pool.nominal
          freeBins := view.freeBins ++ [{ slots := v.pool.nominal, resources := capacity }] }
      else view
    match v.observed (podIdentity pod) with
    | none => unreported
    | some info =>
      if info.lastHeartbeat = 0 then unreported
      else if blockedNode v.registry v.now info.nodeName then view
      else
        let schedulability := resourceSchedulability info v.now defaultObservationStaleAfter
        let free := effectiveFreeCapacity info demand v.now defaultObservationStaleAfter
        { view with
          freeSlots := view.freeSlots + free
          freeBins :=
            if 0 < schedulability.freeSlots ∧ 0 < schedulability.freeResources.cpu ∧
                0 < schedulability.freeResources.memory then
              view.freeBins ++ [⟨schedulability.freeSlots, schedulability.freeResources⟩]
            else view.freeBins
          removable :=
            if fastletResourceObservationFresh info v.now ∧ info.schedulingUsed = 0 ∧
                awaitingAdmission v.sandboxes v.observed v.now (podIdentity pod) = 0 ∧
                !info.draining ∧ !info.drainRequested then
              view.removable ++ [⟨podIdentity pod, free⟩]
            else view.removable }

def observeResourceAwareCapacity (capacity demand : ResourceDemand) :
    ResourceAwareCapacityView :=
  v.pods.foldl (observePod r v capacity demand) {}

structure ResourceAwareScalePlan where
  desiredPods : ℤ := 0
  (activeDrains activeScaleDownDrains : ℕ := 0)
  drainCandidates : List String := []

/-- Give up removable Fastlets as long as the minimum and the buffer stay. -/
def removeExcess (poolMin retainedFree : ℤ) :
    List ResourceAwareDrainCandidate → ℤ → ResourceAwareScalePlan → ResourceAwareScalePlan
  | [], _, plan => plan
  | candidate :: rest, availableFree, plan =>
    if plan.desiredPods ≤ poolMin ∨ availableFree - candidate.free < retainedFree then plan
    else removeExcess poolMin retainedFree rest (availableFree - candidate.free)
      { plan with
        desiredPods := plan.desiredPods - 1
        drainCandidates := plan.drainCandidates ++ [candidate.identity] }

def planResourceAwareScaleWithDemand
    (pendingDemands : List ResourceDemand) (capacity : ResourceDemand) : ResourceAwareScalePlan :=
  let current : ℤ := v.pods.length
  match v.pool.spec.sandboxResources.requestResources with
  | none => { desiredPods := current }
  | some demand =>
    let view := observeResourceAwareCapacity r v capacity demand
    let plan : ResourceAwareScalePlan := {
      desiredPods := current - view.activeDrains
      activeDrains := view.activeDrains
      activeScaleDownDrains := view.activeScaleDownDrains }
    match additionalFastletsForDemands r.share pendingDemands v.pool.spec.capacity.bufferMin demand
      view.freeBins ⟨v.pool.nominal, capacity⟩ with
    | none => plan
    | some podsNeeded =>
      if 0 < podsNeeded then
        { plan with
          desiredPods :=
            current + ((podsNeeded - min podsNeeded view.activeScaleDownDrains : ℕ) : ℤ) }
      else if pendingDemands ≠ [] then plan
      else
        let removable := view.removable.insertionSort fun a b =>
          a.free < b.free ∨ a.free = b.free ∧ a.identity ≤ b.identity
        removeExcess v.pool.spec.capacity.poolMin
          (max v.pool.spec.capacity.bufferMax v.pool.spec.capacity.bufferMin) removable
          view.freeSlots plan

/-! ## Machine integers -/

def maxInt64 : ℤ := 2 ^ 63 - 1

theorem int64_spec (z : ℤ) :
    ∃ k : ℤ, int64 z = z - 2 ^ 64 * k ∧ -2 ^ 63 ≤ int64 z ∧ int64 z ≤ maxInt64 := by
  have hl := @Int.le_bmod z (2 ^ 64) (by norm_num)
  have hh := @Int.bmod_lt z (2 ^ 64) (by norm_num)
  have hd := Int.bmod_add_bdiv z (2 ^ 64)
  refine ⟨z.bdiv (2 ^ 64), ?_, ?_, ?_⟩ <;> unfold int64 <;> norm_num [maxInt64] at * <;> omega

theorem int64_le (z : ℤ) : int64 z ≤ maxInt64 := by
  obtain ⟨-, -, -, h⟩ := int64_spec z
  exact h

theorem int64_of_le {z : ℤ} (h0 : 0 ≤ z) (h : z ≤ maxInt64) : int64 z = z :=
  Fastlet.int64_of_lt h0 (by unfold maxInt64 at h; omega)

theorem int64_le_self {z : ℤ} (h0 : 0 ≤ z) : int64 z ≤ z := by
  obtain ⟨k, _, _, _⟩ := int64_spec z
  unfold maxInt64 at *
  omega

variable {ratio : ℚ}

theorem divideRoundUp_eq_ok {value result : ℤ} (h : divideRoundUp value ratio = .ok result) :
    0 < value ∧ 0 < ratio ∧ result = ⌈(value : ℚ) / ratio⌉ := by
  unfold divideRoundUp at h
  split_ifs at h with hpos
  rw [not_or, not_le, not_le] at hpos
  dsimp only at h
  split_ifs at h
  cases h
  exact ⟨hpos.1, hpos.2, rfl⟩

theorem ceil_div_le {value : ℤ} (hv : 0 < value) (ha : 1 ≤ ratio) :
    ⌈(value : ℚ) / ratio⌉ ≤ value := by
  rw [Int.ceil_le]
  exact div_le_self (by exact_mod_cast hv.le) ha

theorem divideRoundUp_max (hr : 1 ≤ ratio) :
    divideRoundUp maxInt64 ratio = .ok ⌈(maxInt64 : ℚ) / ratio⌉ := by
  have hpos : 0 < ratio := lt_of_lt_of_le one_pos hr
  have ha : 0 < maxInt64 := by decide
  have hc : 0 < ⌈(maxInt64 : ℚ) / ratio⌉ := Int.ceil_pos.2 (div_pos (by exact_mod_cast ha) hpos)
  have hlt : ⌈(maxInt64 : ℚ) / ratio⌉ < 2 ^ 63 := (ceil_div_le ha hr).trans_lt (by decide)
  unfold divideRoundUp
  rw [if_neg (not_or.2 ⟨not_le.2 ha, not_le.2 hpos⟩)]
  exact if_neg (not_or.2 ⟨not_le.2 hc, not_le.2 hlt⟩)

/-! ## One dimension

A limit is `units` of the dimension (millicores, bytes), the default limit `units0`; `capacity`
counts the same units. -/

section

variable {units units0 ratio : ℚ} {request request0 capacity : ℤ}

/-- The default limit is read as it is, or even the largest request fits. -/
def Covered (units0 ratio capacity : ℚ) : Prop :=
  ⌈units0⌉ ≤ maxInt64 ∨ (⌈(maxInt64 : ℚ) / ratio⌉ : ℚ) ≤ capacity

instance (units0 ratio capacity : ℚ) : Decidable (Covered units0 ratio capacity) :=
  inferInstanceAs (Decidable (_ ∨ _))

theorem request_le_capacity (hc : Covered units0 ratio capacity) (ha : 1 ≤ ratio)
    (hu : 0 ≤ units) (hu0 : 0 ≤ units0)
    (h0 : divideRoundUp (int64 ⌈units0⌉) ratio = .ok request0) (hr0 : request0 ≤ capacity)
    (h : divideRoundUp (int64 ⌈units⌉) ratio = .ok request)
    (hle : units ≤ max (capacity : ℚ) units0) :
    request ≤ capacity := by
  obtain ⟨hv, hpos, rfl⟩ := divideRoundUp_eq_ok h
  obtain ⟨-, -, rfl⟩ := divideRoundUp_eq_ok h0
  have hcl : 0 ≤ ⌈units⌉ := Int.ceil_nonneg hu
  have hcl0 : 0 ≤ ⌈units0⌉ := Int.ceil_nonneg hu0
  -- the division rounds monotonically
  have hm : ∀ a b : ℤ, a ≤ b → ⌈(a : ℚ) / ratio⌉ ≤ ⌈(b : ℚ) / ratio⌉ := fun a b hb =>
    Int.ceil_mono (div_le_div_of_nonneg_right (by exact_mod_cast hb) hpos.le)
  rcases hc with he | hl
  · rcases le_or_gt units units0 with hs | hlr
    · refine (hm _ _ ?_).trans hr0
      rw [int64_of_le hcl0 he]
      exact (int64_le_self hcl).trans (Int.ceil_mono hs)
    have hcapacity : units ≤ capacity := by
      rcases le_max_iff.1 hle with hcapacity | hd
      · exact hcapacity
      · exact absurd hd (not_le.2 hlr)
    calc ⌈((int64 ⌈units⌉ : ℤ) : ℚ) / ratio⌉ ≤ int64 ⌈units⌉ := ceil_div_le hv ha
      _ ≤ ⌈units⌉ := int64_le_self hcl
      _ ≤ capacity := Int.ceil_le.2 hcapacity
  · exact (hm _ _ (int64_le _)).trans (by exact_mod_cast hl)

/-- Where the default limit overflows, the largest limit an `int64` holds is within the budget. -/
theorem max_le_of_not_covered {capacity : ℚ} (h : ¬ Covered units0 ratio capacity) :
    (maxInt64 : ℚ) ≤ units0 ∧ capacity < ⌈(maxInt64 : ℚ) / ratio⌉ := by
  rw [Covered, not_or, not_le, not_le] at h
  exact ⟨(Int.lt_ceil.1 h.1).le, h.2⟩

end

/-! ## Every demand fits an empty Fastlet -/

section Fits

variable {lib : Library} {pool : SandboxPool} {capacity budget : ComputeResources}

def CapacityCovers (p : SandboxResourceProfile) (capacity : ComputeResources) : Prop :=
  ∀ limits ∈ p.limitResources, ∀ ratio ∈ p.overcommitRatio,
    Covered (limits.cpu * 1000) ratio.cpu (capacity.cpu * 1000) ∧
      Covered limits.memory ratio.memory capacity.memory

/-- The demand of every Sandbox whose resources resolve fits a Fastlet with nothing on it. -/
def DemandsFit (lib : Library) (pool : SandboxPool) (capacity : ComputeResources) : Prop :=
  ∀ sandbox resolved demand, resolveSandboxResources lib pool sandbox = .ok (resolved, demand) →
    resourceDemandFits demand ⟨pool.nominal, capacity⟩

/-- The planner packs the pending demands of any Sandboxes, whatever its Fastlets have free. -/
def AlwaysPackable (lib : Library) (pool : SandboxPool) (capacity : ComputeResources) : Prop :=
  ∀ (observed : String → Option FastletInfo) (now : Time) (sandboxes : List Sandbox)
    (resolution : PoolPendingResourceResolution) (share : ℤ → ℤ → ℚ) (bufferMin : ℤ)
    (existing : List ResourceAwareFreeBin),
    resolvePoolPendingResources lib pool observed now sandboxes = .ok resolution →
    ∀ demand ∈ pool.spec.sandboxResources.requestResources,
      (additionalFastletsForDemands share resolution.admissible bufferMin demand existing
        ⟨pool.nominal, capacity⟩).isSome

variable {demand : ResourceDemand}

theorem resourceDemandFits_eq_true {bin : ResourceAwareFreeBin} :
    resourceDemandFits demand bin ↔ 0 < bin.slots ∧ 0 < demand.cpu ∧ 0 < demand.memory ∧
      demand.cpu ≤ bin.resources.cpu ∧ demand.memory ≤ bin.resources.memory := by
  simp [resourceDemandFits, and_assoc]

variable {p : SandboxResourceProfile} {asked ratio limits requests : ComputeResources}

theorem SandboxResourceProfile.Derives.limits_le_budget {count : ℤ}
    (h : p.Derives limits ratio requests)
    (hcapacity : p.resolveFastletCapacity count = .ok (capacity, budget)) :
    limits.cpu ≤ budget.cpu ∧ limits.memory ≤ budget.memory := by
  have hc := resolveFastletCapacity_pos hcapacity
  obtain ⟨rfl, rfl⟩ := Prod.mk.inj
    (Except.ok.inj ((h.resolveFastletCapacity_eq hc).symm.trans hcapacity))
  exact ⟨le_max_right _ _, le_max_right _ _⟩

theorem SandboxPool.nominal_pos (pool : SandboxPool) : 0 < pool.nominal := by
  unfold SandboxPool.nominal
  split_ifs with h
  · exact one_pos
  · exact not_le.1 h

theorem capacity_units {count : ℤ} (h : p.Derives limits ratio requests) (hc : 0 < count) :
    ∃ cpuMilli memoryBytes : ℤ, divideRoundUp (milliValue limits.cpu) ratio.cpu = .ok cpuMilli ∧
      divideRoundUp (wholeValue limits.memory) ratio.memory = .ok memoryBytes ∧
      requests = ⟨(cpuMilli : ℚ) / 1000, memoryBytes⟩ ∧
      cpuMilli ≤ cpuMilli * count ∧ memoryBytes ≤ memoryBytes * count := by
  obtain ⟨ratio', cpuMilli, memoryBytes, ha, hu, hm, rfl⟩ := deriveRequests_eq_ok h.requests_eq
  obtain rfl : ratio = ratio' := some.inj (h.ratio_eq.symm.trans ha)
  exact ⟨cpuMilli, memoryBytes, hu, hm, rfl,
    le_mul_of_one_le_right (Fastlet.divideRoundUp_pos hu).le hc,
    le_mul_of_one_le_right (Fastlet.divideRoundUp_pos hm).le hc⟩

theorem deriveRequests_of_units {cpuMilli memoryBytes : ℤ}
    (hw : p.resourceMode = .resourceAware) (ha : p.overcommitRatio = some ratio)
    (hu : divideRoundUp (milliValue asked.cpu) ratio.cpu = .ok cpuMilli)
    (hm : divideRoundUp (wholeValue asked.memory) ratio.memory = .ok memoryBytes) :
    p.deriveRequests asked = .ok ⟨(cpuMilli : ℚ) / 1000, memoryBytes⟩ := by
  simp [deriveRequests, Fastlet.ResourceProfile.deriveRequests, Reading.plain, hw, ha,
    Option.filter, hu, hm]

theorem milliValue_units (z : ℤ) : milliValue ((z : ℚ) / 1000) = int64 z := by
  rw [milliValue, div_mul_cancel₀ _ (by norm_num : (1000 : ℚ) ≠ 0), Int.ceil_intCast]

theorem wholeValue_units (z : ℤ) : wholeValue z = int64 z := by rw [wholeValue, Int.ceil_intCast]

theorem milliValue_max : milliValue ((maxInt64 : ℚ) / 1000) = maxInt64 := by
  rw [milliValue_units, int64_of_le (by decide) le_rfl]

theorem wholeValue_max : wholeValue (maxInt64 : ℚ) = maxInt64 := by
  rw [wholeValue_units, int64_of_le (by decide) le_rfl]

/-! ## Packing always ends -/

theorem packDemands_isSome {share : ℤ → ℤ → ℚ} {fresh : ResourceAwareFreeBin}
    {demands : List ResourceDemand} (h : ∀ demand ∈ demands, resourceDemandFits demand fresh)
    (bins : List ResourceAwareFreeBin) (added : ℕ) :
    (packDemands share fresh demands bins added).isSome := by
  induction demands generalizing bins added with
  | nil => rfl
  | cons demand rest ih =>
    have hr : ∀ d ∈ rest, resourceDemandFits d fresh := fun d hd => h d (mem_cons_of_mem demand hd)
    unfold packDemands
    split
    · exact ih hr _ _
    · rw [h demand mem_cons_self]
      exact ih hr _ _

theorem exists_resolve_of_mem_admissible {observed : String → Option FastletInfo} {now : Time}
    {sandboxes : List Sandbox} {resolution : PoolPendingResourceResolution}
    (h : resolvePoolPendingResources lib pool observed now sandboxes = .ok resolution)
    (hd : demand ∈ resolution.admissible) :
    ∃ sandbox resolved, resolveSandboxResources lib pool sandbox = .ok (resolved, demand) := by
  induction sandboxes generalizing resolution with
  | nil =>
    cases h
    cases hd
  | cons s rest ih =>
    unfold resolvePoolPendingResources at h
    split at h
    · exact ih h hd
    split at h
    · cases h
    · -- the Sandbox is set aside
      cases hr : resolvePoolPendingResources lib pool observed now rest with
      | error err => rw [hr] at h; cases h
      | ok result =>
        rw [hr] at h
        cases h
        exact ih hr hd
    · next resolved d hv =>
      cases hr : resolvePoolPendingResources lib pool observed now rest with
      | error err => rw [hr] at h; cases h
      | ok result =>
        rw [hr] at h
        cases h
        rcases mem_cons.1 hd with rfl | hd
        · exact ⟨s, resolved, hv⟩
        · exact ih hr hd

section

variable (h : pool.spec.sandboxResources.Derives limits ratio requests)
  (hcapacity : pool.spec.sandboxResources.resolveFastletCapacity pool.spec.maxSandboxesPerPod =
    .ok (capacity, budget))
include h hcapacity

theorem demandsFit_of_covers (hcv : CapacityCovers pool.spec.sandboxResources capacity) :
    DemandsFit lib pool capacity := by
  intro _ _ _ hs
  have ht := resolveFastletCapacity_pos hcapacity
  obtain ⟨cpu0, memory0, hp0, hm0, hq, hl, hle⟩ := capacity_units h ht
  obtain ⟨_, _, _, hk, hdm, hc', hcu, hm, -⟩ := resolve_aware h.aware hs
  obtain ⟨rfl, rfl⟩ := Prod.mk.inj (Except.ok.inj (hc'.symm.trans hcapacity))
  obtain ⟨rfl, rfl⟩ := Prod.mk.inj
    (Except.ok.inj ((h.resolveFastletCapacity_eq ht).symm.trans hcapacity))
  obtain ⟨hpos, hpos', -⟩ := limitsFailure_eq_none (resolveLimits_eq_ok hk).1
  obtain ⟨hpos0, hpos0', -⟩ := limitsFailure_eq_none h.limits_ok
  obtain ⟨ha, hd⟩ := deriveRequests_pos hdm
  obtain ⟨ratio', cpuMilli, memoryBytes, hr, hcp, hme, rfl⟩ := deriveRequests_eq_ok hdm
  obtain rfl : ratio = ratio' := some.inj (h.ratio_eq.symm.trans hr)
  obtain ⟨hv, ho⟩ := hcv limits h.limits_eq ratio h.ratio_eq
  subst hq
  -- both capacities are whole numbers of units
  have hu : (cpu0 : ℚ) / 1000 * pool.spec.maxSandboxesPerPod * 1000 =
      ((cpu0 * pool.spec.maxSandboxesPerPod : ℤ) : ℚ) := by
    push_cast
    ring
  have he : (memory0 : ℚ) * pool.spec.maxSandboxesPerPod =
      ((memory0 * pool.spec.maxSandboxesPerPod : ℤ) : ℚ) := by push_cast; rfl
  have hf : cpuMilli ≤ cpu0 * pool.spec.maxSandboxesPerPod := by
    refine request_le_capacity ?_ h.cpu_ratio (mul_pos hpos (by norm_num)).le
      (mul_pos hpos0 (by norm_num)).le hp0 hl hcp ?_
    · rwa [hu] at hv
    · rw [← hu, ← max_mul_of_nonneg _ _ (by norm_num : (0 : ℚ) ≤ 1000)]
      exact mul_le_mul_of_nonneg_right hcu (by norm_num)
  have hy : memoryBytes ≤ memory0 * pool.spec.maxSandboxesPerPod := by
    refine request_le_capacity ?_ h.memory_ratio hpos'.le hpos0'.le hm0 hle hme ?_
    · rwa [he] at ho
    · rwa [he] at hm
  refine resourceDemandFits_eq_true.2 ⟨pool.nominal_pos, ha, hd, ?_, ?_⟩
  · have hft : (cpuMilli : ℚ) ≤ ((cpu0 * pool.spec.maxSandboxesPerPod : ℤ) : ℚ) := by
      exact_mod_cast hf
    linarith
  · dsimp only
    exact_mod_cast hy

variable (hvalid : pool.spec.sandboxResources.validate = none)
include hvalid

/-- A Sandbox with its own limits resolves if they are valid, have requests and are within the
budget. -/
theorem resolve_override (lib : Library) {demand : ComputeResources}
    (ho : limitsFailure asked = none)
    (hd : pool.spec.sandboxResources.deriveRequests asked = .ok demand)
    (hu : asked.cpu ≤ budget.cpu) (hm : asked.memory ≤ budget.memory) :
    ∃ resolved, resolveSandboxResources lib pool { resources := some asked } =
      .ok (resolved, demand) := by
  have hl : pool.spec.sandboxResources.resolveLimits (some asked) = .ok asked := by
    unfold resolveLimits
    rw [h.limits_eq]
    dsimp only
    rw [if_neg (not_not.2 h.aware), ho]
  unfold resolveSandboxResources
  dsimp only
  rw [hvalid, hl]
  dsimp only
  rw [if_neg (not_not.2 h.aware), hd, hcapacity]
  dsimp only
  rw [if_neg (not_or.2 ⟨not_lt.2 hu, not_lt.2 hm⟩)]
  exact ⟨_, rfl⟩

/-- Where a dimension is not covered, the Sandbox that asks for the largest `int64` in it, and for
the default in the other, has a demand that does not fit. -/
theorem covers_of_demandsFit (hf : DemandsFit lib pool capacity) :
    CapacityCovers pool.spec.sandboxResources capacity := by
  have hct := resolveFastletCapacity_pos hcapacity
  obtain ⟨_, _, hc0, hm0, -⟩ := capacity_units h hct
  have hb := h.limits_le_budget hcapacity
  obtain ⟨hpos, hpos', hi⟩ := limitsFailure_eq_none h.limits_ok
  have ha : (0 : ℚ) < maxInt64 := by norm_num [maxInt64]
  intro limits' hl' ratio' hr'
  obtain rfl : limits = limits' := some.inj (h.limits_eq.symm.trans hl')
  obtain rfl : ratio = ratio' := some.inj (h.ratio_eq.symm.trans hr')
  constructor
  · by_contra hnot
    obtain ⟨hle, hlt⟩ := max_le_of_not_covered hnot
    obtain ⟨resolved, hv⟩ : ∃ resolved, resolveSandboxResources lib pool
        { resources := some ⟨(maxInt64 : ℚ) / 1000, limits.memory⟩ } = .ok (resolved, _) := by
      refine resolve_override h hcapacity hvalid lib ?_ (deriveRequests_of_units h.aware h.ratio_eq
        (by rw [milliValue_max]; exact divideRoundUp_max h.cpu_ratio) hm0) ?_ hb.2
      · have hu : (0 : ℚ) < (maxInt64 : ℚ) / 1000 := div_pos ha (by norm_num)
        have hten : ¬ milliValue ((maxInt64 : ℚ) / 1000) < 10 := by
          rw [milliValue_max]
          decide
        rw [limitsFailure, if_neg (not_or.2 ⟨not_le.2 hu, not_le.2 hpos'⟩)]
        exact if_neg hten
      · exact ((div_le_iff₀ (by norm_num)).2 hle).trans hb.1
    obtain ⟨-, -, -, ht, -⟩ := resourceDemandFits_eq_true.1 (hf _ _ _ hv)
    linarith
  · by_contra hnot
    obtain ⟨hle, hlt⟩ := max_le_of_not_covered hnot
    obtain ⟨resolved, hv⟩ : ∃ resolved, resolveSandboxResources lib pool
        { resources := some ⟨limits.cpu, maxInt64⟩ } = .ok (resolved, _) := by
      refine resolve_override h hcapacity hvalid lib ?_
        (deriveRequests_of_units h.aware h.ratio_eq hc0
        (by rw [wholeValue_max]; exact divideRoundUp_max h.memory_ratio)) hb.1
        (hle.trans hb.2)
      rw [limitsFailure, if_neg (not_or.2 ⟨not_le.2 hpos, not_le.2 ha⟩), if_neg (not_lt.2 hi)]
    obtain ⟨-, -, -, -, ht⟩ := resourceDemandFits_eq_true.1 (hf _ _ _ hv)
    exact absurd ht (not_le.2 hlt)

theorem alwaysPackable_of_fit (hf : DemandsFit lib pool capacity) :
    AlwaysPackable lib pool capacity := by
  intro _ _ _ _ _ _ _ hr demand hm
  obtain rfl : requests = demand := some.inj (h.requestResources_eq.symm.trans hm)
  -- a Sandbox that spells out the default limits has the default demand
  have he : resourceDemandFits requests ⟨pool.nominal, capacity⟩ := by
    have hb := h.limits_le_budget hcapacity
    obtain ⟨resolved, hv⟩ :=
      resolve_override h hcapacity hvalid lib h.limits_ok h.requests_eq hb.1 hb.2
    exact hf _ _ _ hv
  refine packDemands_isSome (fun d hd => ?_) _ _
  rw [mem_insertionSort, mem_append] at hd
  rcases hd with hd | hd
  · obtain ⟨_, resolved, hv⟩ := exists_resolve_of_mem_admissible hr hd
    exact hf _ _ _ hv
  · rw [eq_of_mem_replicate hd]
    exact he

end

/-- **When every demand fits.** In a Pool whose contract validates, every demand that resolves fits
an empty Fastlet, and the planner packs whatever is pending, exactly if each dimension is covered:
the default limit is read without overflow, or the capacity holds even the request of the largest
`int64`. -/
theorem demands_fit_iff (lib : Library) (pool : SandboxPool) (capacity budget : ComputeResources)
    (hcontract : pool.spec.validateResourceContract = none)
    (haware : pool.spec.sandboxResources.resourceMode = .resourceAware)
    (hcapacity : pool.spec.sandboxResources.resolveFastletCapacity pool.spec.maxSandboxesPerPod =
      .ok (capacity, budget)) : DemandsFit lib pool capacity ∧ AlwaysPackable lib pool capacity ↔
      CapacityCovers pool.spec.sandboxResources capacity := by
  have hvalid := SandboxPoolSpec.profile_of_contract hcontract
  obtain ⟨_, _, _, h⟩ := SandboxResourceProfile.derives_of_validate hvalid haware
  constructor
  · rintro ⟨hf, -⟩
    exact covers_of_demandsFit h hcapacity hvalid hf
  · intro hc
    have hf : DemandsFit lib pool capacity := demandsFit_of_covers h hcapacity hc
    exact ⟨hf, alwaysPackable_of_fit h hcapacity hvalid hf⟩

end Fits

/-- Every demand of the sample Pool fits its Fastlets, which hold 334 millicores and 134 bytes. -/
theorem demands_fit_sample : DemandsFit unaryLibrary samplePool ⟨334 / 1000, 134⟩ ∧
      AlwaysPackable unaryLibrary samplePool ⟨334 / 1000, 134⟩ := by
  have hcapacity : (samplePool.spec.sandboxResources.resolveFastletCapacity 2).toOption =
      some (⟨334 / 1000, 134⟩, ⟨1 / 2, 134⟩) := by decide +kernel
  refine (demands_fit_iff unaryLibrary samplePool ⟨334 / 1000, 134⟩ ⟨1 / 2, 134⟩ (by decide +kernel)
    (by decide) (eq_ok_of_toOption hcapacity)).2 fun _ hl _ hr => ?_
  cases hl
  cases hr
  decide +kernel

/-- A Pool whose default limit, as millicores, is 384 more than `2 ^ 64`. -/
def vastPool : SandboxPool where
  name := "pool"
  spec := {
    sandboxResources := {
      mode := .resourceAware
      cpu := some 18446744073709552
      memory := some (2 ^ 30)
      overcommitRatio := some ⟨1, 1⟩
      pids := 16 }
    maxSandboxesPerPod := 1
    containers := [{ name := "fastlet" }] }

/-- Its Fastlets commit 384 millicores. A Sandbox that asks for one CPU is within the runtime budget
and resolves, fits no Fastlet, and leaves the planner without a plan. -/
theorem one_cpu_not_packable : vastPool.spec.validateResourceContract = none ∧
      (vastPool.spec.sandboxResources.resolveFastletCapacity 1).toOption =
        some (⟨384 / 1000, 2 ^ 30⟩, ⟨18446744073709552, 2 ^ 30⟩) ∧
      (resolveSandboxResources unaryLibrary vastPool
        { poolRef := "pool", resources := some ⟨1, 2 ^ 30⟩ }).toOption.map Prod.snd =
          some ⟨1, 2 ^ 30⟩ ∧
      resourceDemandFits ⟨1, 2 ^ 30⟩ ⟨vastPool.nominal, ⟨384 / 1000, 2 ^ 30⟩⟩ = false ∧
      ((resolvePoolPendingResources unaryLibrary vastPool (fun _ => none) 0
        [{ poolRef := "pool", resources := some ⟨1, 2 ^ 30⟩ }]).toOption.map fun resolution =>
          additionalFastletsForDemands (fun a b => (a : ℚ) / b) resolution.admissible 0
            ⟨384 / 1000, 2 ^ 30⟩ [] ⟨vastPool.nominal, ⟨384 / 1000, 2 ^ 30⟩⟩) = some none := by
  decide +kernel

end FastSandbox.Pool
