import FastSandbox.Pool.Planner

/-!
# The scaling part of the Pool controller

What a pass of `SandboxPoolReconciler.Reconcile` does after it has read its Pool: plan, stabilize,
create Pods, surge, write the status, drain. Passes of one Pool follow each other. Any write may
fail, and a pass ends at the first one that does. Between passes Pods come up and deleted Pods go.

What becomes of a draining Pod depends on the answers of its Fastlet; here it is one choice of the
environment. The attempt that `requestDrain` records on a Pod is read nowhere else.
-/

namespace FastSandbox.Pool

open Placement (Time)
open Interleaving

/-! ## The scale-down candidate -/

inductive CandidateReason
  | demandReturned
  | excessCapacity
deriving DecidableEq

/-- The `ScaleDownCandidate` condition of a Pool. -/
structure Condition where
  status : Bool
  reason : CandidateReason
  message : String
  observedGeneration : ℤ
  lastTransitionTime : Time
deriving DecidableEq

/-- A `metav1.Time` is stored in whole seconds. -/
def wholeSecond (t : Time) : Time := t / 10 ^ 9 * 10 ^ 9

/-- `SetStatusCondition`: the time of the last transition changes with the status only. -/
def setStatusCondition (existing : Option Condition) (new : Condition) : Condition :=
  match existing with
  | some old =>
    if old.status = new.status then { new with lastTransitionTime := old.lastTransitionTime }
    else { new with lastTransitionTime := wholeSecond new.lastTransitionTime }
  | none => { new with lastTransitionTime := wholeSecond new.lastTransitionTime }

def conditionMatches (existing : Option Condition) (expected : Condition) : Bool :=
  existing.any fun current =>
    current.status = expected.status && current.reason = expected.reason &&
      current.message = expected.message && current.observedGeneration = expected.observedGeneration

/-- `updatePoolStatus` of an observation: nothing is written if the Pool that was read shows it
already. After a conflict the update is made to the stored Pool. -/
def writeCandidate (stored read candidate : Option Condition) (changed : Bool) : Option Condition :=
  match candidate with
  | none => stored
  | some new =>
    if conditionMatches read new && !changed then stored else some (setStatusCondition stored new)

/-- What a pass has read: the Pool from the informer cache, with its `ScaleDownCandidate`
condition, the Pods and Sandboxes, and the registry. `templateHash` is the annotation of the Pod
that the Pool's template makes. -/
structure PassRead where
  view : PoolView
  generation : ℤ := 1
  candidate : Option Condition := none
  templateHash : String

variable (lib : Library) (r : Settings) (overhead : ResourceList)

def Settings.window : ℕ :=
  if r.resourceScaleDownStabilization = 0 then 60 * 10 ^ 9 else r.resourceScaleDownStabilization

/-- `stabilizeResourceAwareScaleDown`: a target below the baseline counts only once the Pool has
been a candidate for the whole window. -/
def stabilizeResourceAwareScaleDown (p : PassRead) (current desired : ℤ) :
    ℤ × Condition :=
  if current ≤ desired then
    (desired, {
      status := false, reason := .demandReturned
      message := "Pool capacity is within the configured buffer"
      observedGeneration := p.generation, lastTransitionTime := p.view.now })
  else
    let condition : Condition := {
      status := true, reason := .excessCapacity
      message := "Pool has excess capacity and is waiting for the scale-down stabilization window"
      observedGeneration := p.generation, lastTransitionTime := p.view.now }
    match p.candidate with
    | none => (current, condition)
    | some existing =>
      if !existing.status then (current, condition)
      else
        let condition := { condition with lastTransitionTime := existing.lastTransitionTime }
        if p.view.now < existing.lastTransitionTime + r.window then (current, condition)
        else (desired, { condition with message :=
          "Pool capacity has remained above the configured buffer for the stabilization window" })

/-! ## The target -/

structure ScalePlan where
  resourceAware : Bool
  desiredPods : ℤ
  activeDrains : ℕ := 0
  drainCandidates : List String := []

/-- `poolMin`, then `poolMax` unless it is zero. -/
def PoolCapacity.clamp (c : PoolCapacity) (desired : ℤ) : ℤ :=
  if 0 < c.poolMax then min (max desired c.poolMin) c.poolMax else max desired c.poolMin

def slotTarget (v : PoolView) : ℤ :=
  let (active, pending) := poolSlotDemandCounts v.sandboxes v.pool.name v.pods
  (active + pending + v.pool.spec.capacity.bufferMin + v.pool.nominal - 1) / v.pool.nominal

/-- The plan of a pass, within the Pool's bounds; nothing if the pass fails before it has one.
`overhead` is that of the runtime profile. -/
def planScale (v : PoolView) :
    Option ScalePlan :=
  match compileFastletResources v.pool overhead with
  | .error _ => none
  | .ok resolved =>
    if v.pool.spec.sandboxResources.resourceMode = .resourceAware ∧
        !r.disableResourceAwarePoolScaling then
      match resolvePoolPendingResources lib v.pool v.observed v.now v.sandboxes with
      | .error _ => none
      | .ok resolution =>
        let plan := planResourceAwareScaleWithDemand r v resolution.admissible
          resolved.commitmentCapacity
        some {
          resourceAware := true
          desiredPods := v.pool.spec.capacity.clamp plan.desiredPods
          activeDrains := plan.activeDrains
          drainCandidates := plan.drainCandidates }
    else some { resourceAware := false, desiredPods := v.pool.spec.capacity.clamp (slotTarget v) }

def ScalePlan.baseline (plan : ScalePlan) (v : PoolView) : ℤ := v.pods.length - plan.activeDrains

/-- The target of a pass, and the condition it will write. -/
def passTarget (p : PassRead) (plan : ScalePlan) : ℤ × Option Condition :=
  if plan.resourceAware then
    let stabilized := stabilizeResourceAwareScaleDown r p (plan.baseline p.view) plan.desiredPods
    (stabilized.1, some stabilized.2)
  else (plan.desiredPods, none)

/-! ## Drains -/

def fastletPodTemplateCurrent (desiredPodHash : String) (pod : Pod) : Bool :=
  desiredPodHash ≠ "" && pod.templateHash = desiredPodHash

def needsPlannedUpgradeSurge (pods : List Pod) (desiredPods : ℤ) (desiredPodHash : String) : Bool :=
  0 < desiredPods && pods.length = desiredPods &&
    pods.any fun pod => !fastletPodTemplateCurrent desiredPodHash pod

def currentTemplatePodsReady (v : PoolView) (desiredPodHash : String) : Bool :=
  let current := v.pods.filter (fastletPodTemplateCurrent desiredPodHash)
  !current.isEmpty && current.all fun pod =>
    pod.phase = .running && pod.ready &&
      (v.registry.filter fun info => info.podNamespace = v.pool.poolNamespace ∧
          info.podName = pod.name ∧ info.podUID = pod.uid).getLast?.any fun info =>
        info.podReady && info.runtimeReady && info.infraReady && info.lastHeartbeat ≠ 0 &&
          !info.draining

/-- Fewest active Sandboxes first, then by name. -/
def byActive (active : String → ℕ) (pods : List Pod) : List Pod :=
  pods.insertionSort fun a b =>
    active (podIdentity a) < active (podIdentity b) ∨
      active (podIdentity a) = active (podIdentity b) ∧ a.name ≤ b.name

/-- Append to a selection, unless it is full or has the Pod already. -/
def appendTargets (count : ℕ) (reason : DrainReason) :
    List Pod → List (Pod × DrainReason) → List (Pod × DrainReason)
  | [], result => result
  | pod :: rest, result =>
    appendTargets count reason rest
      (if count ≤ result.length ∨ result.any (podIdentity ·.1 = podIdentity pod) then result
      else result ++ [(pod, reason)])

/-- The Pods to drain next: those of an old template first, once the current one is ready. -/
def selectDrainTargets (available : List Pod) (count : ℕ) (preferredScaleDown : List String)
    (desiredPodHash : String) (currentTemplateReady resourceAware : Bool) (active : String → ℕ) :
    List (Pod × DrainReason) :=
  let stale := available.filter fun pod => !fastletPodTemplateCurrent desiredPodHash pod
  let upgrades :=
    if currentTemplateReady then appendTargets count .plannedUpgrade (byActive active stale) []
    else []
  appendTargets count .scaleDown
    (if resourceAware then
      preferredScaleDown.filterMap fun identity =>
        (available.filter (podIdentity · = identity)).getLast?
    else byActive active available) upgrades

/-! ## Passes -/

inductive DrainVerdict
  | wait
  | cancel
  | delete
deriving DecidableEq

def undrain (pod : Pod) : Pod :=
  { pod with draining := false, drainStartedAt := 0, drainReason := .other "" }

def DrainVerdict.apply : DrainVerdict → Pod → Pod
  | .wait, pod => pod
  | .cancel, pod => undrain pod
  | .delete, pod => { pod with deleting := true }

/-- How the writes of a pass end: the UIDs of the Pods that are created before a creation fails,
how many drains are started or cancelled before one fails, and whether the status to be written
differs from the one read in more than the condition. -/
structure Fates where
  capacityWritten : Bool := true
  uids : List String := []
  statusWritten : Bool := true
  statusChanged : Bool := false
  drains : ℕ := 0
  verdict : String → DrainVerdict := fun _ => .wait

/-- What a resource-aware pass had planned, and the target it went on with. -/
inductive Planning
  | planned (now : Time) (baseline desired : ℤ)
  | target (now : Time) (baseline target : ℤ)

inductive Move
  | surge
  | drain (pod : Pod) (reason : DrainReason)

/-- The Pods of a Pool, its condition, and what the passes have done, latest first. -/
structure PoolState where
  pods : List Pod
  candidate : Option Condition := none
  plannings : List Planning := []
  moves : List Move := []

namespace PoolState

def note (s : PoolState) (plan : ScalePlan) (e : Planning) : PoolState :=
  if plan.resourceAware then { s with plannings := e :: s.plannings } else s

def create (s : PoolState) (templateHash : String) (uids : List String) : PoolState :=
  { s with pods := s.pods ++ uids.map fun uid =>
      { name := uid, uid, phase := .pending, templateHash } }

def patch (s : PoolState) (uids : List String) (f : Pod → Pod) : PoolState :=
  { s with pods := s.pods.map fun pod => if pod.uid ∈ uids then f pod else pod }

def drain (now : Time) (reason : DrainReason) (pod : Pod) : Pod :=
  { pod with draining := true, drainStartedAt := now, drainReason := reason }

/-- The intent to drain is a merge patch of the Pod. -/
def startDrain (now : Time) (s : PoolState) (selection : Pod × DrainReason) : PoolState :=
  { s.patch [selection.1.uid] (drain now selection.2) with
    moves := .drain selection.1 selection.2 :: s.moves }

/-- `reconcileDraining`: as many Pods drain as there are beyond the target. -/
def reconcileDraining (s : PoolState) (p : PassRead) (plan : ScalePlan) (desiredPods : ℤ)
    (f : Fates) : PoolState :=
  let v := p.view
  let target := (v.pods.length - desiredPods).toNat
  let draining := v.pods.filter (·.draining)
  let available := v.pods.filter (!·.draining)
  if target < draining.length then
    let latestFirst := draining.insertionSort fun a b => b.drainStartedAt ≤ a.drainStartedAt
    s.patch (((latestFirst.take (draining.length - target)).take f.drains).map (·.uid)) undrain
  else if draining.length < target then
    let ready := currentTemplatePodsReady v p.templateHash
    if v.pods.any (fastletPodTemplateCurrent p.templateHash) && !ready &&
        available.any (!fastletPodTemplateCurrent p.templateHash ·) then s
    else
      ((selectDrainTargets available (min (target - draining.length) available.length)
        plan.drainCandidates p.templateHash ready plan.resourceAware
        (activeAssignments v.sandboxes v.pool.name)).take f.drains).foldl (startDrain v.now) s
  else
    s.patch (draining.map (·.uid)) fun pod => (f.verdict pod.uid).apply pod

/-- What a pass does with its plan. -/
def scale (r : Settings) (p : PassRead) (plan : ScalePlan) (f : Fates) (s : PoolState) :
    PoolState :=
  let baseline := plan.baseline p.view
  let s := s.note plan (.planned p.view.now baseline plan.desiredPods)
  if !f.capacityWritten then s
  else
    let (target, candidate) := passTarget r p plan
    let s := s.note plan (.target p.view.now baseline target)
    let missing := (target - p.view.pods.length).toNat
    if f.uids.length < missing then s.create p.templateHash f.uids
    else if needsPlannedUpgradeSurge p.view.pods target p.templateHash then
      match f.uids with
      | [] => s
      | uid :: _ => { s.create p.templateHash [uid] with moves := .surge :: s.moves }
    else
      let s := s.create p.templateHash (f.uids.take missing)
      if !f.statusWritten then s
      else
        let candidate := writeCandidate s.candidate p.candidate candidate f.statusChanged
        reconcileDraining { s with candidate } p plan target f

end PoolState

/-- A pass, or what happens to the Pods in between: those that are not kept are gone, and the
others are as `change` says. -/
inductive Step
  | pass (p : PassRead) (f : Fates)
  | settle (keep : Pod → Bool) (change : Pod → Pod)

/-- UIDs are unique, only a deleted Pod goes away, and annotations change through the controller
only. -/
def PoolState.step (s : PoolState) :
    Step → Option PoolState
  | .pass p f =>
    if (s.pods.map (·.uid) ++ f.uids).Nodup then
      some ((planScale lib r overhead p.view).elim s fun plan => s.scale r p plan f)
    else none
  | .settle keep change =>
    if ∀ pod ∈ s.pods, (keep pod ∨ pod.deleting) ∧
        change pod = { change pod with
          name := pod.name, uid := pod.uid, templateHash := pod.templateHash
          draining := pod.draining, deleting := pod.deleting } then
      some { s with pods := (s.pods.filter keep).map change }
    else none

/-- Each step is a task of one section. -/
def system :
    System PoolState Step Step Unit where
  entry e := e
  advance s e _ := (s.step lib r overhead e).map (·, [])

variable {lib r overhead}

/-- What the planned passes and the settling of Pods keep holds throughout a run. -/
theorem outline_of_passes {G : PoolState → Step → Unit → Prop} {I : PoolState → Prop}
    (hps : ∀ {s p f plan}, I s → G s (.pass p f) () → (s.pods.map (·.uid) ++ f.uids).Nodup →
      planScale lib r overhead p.view = some plan → I (s.scale r p plan f))
    (he : ∀ {s s' keep change}, I s →
      s.step lib r overhead (.settle keep change) = some s' → I s') :
    System.Outline (system lib r overhead) G I (fun _ _ => True) fun _ _ => True where
  symm _ := trivial
  entry_holds _ _ := trivial
  entry_compat _ _ := trivial
  frame_step _ _ _ _ _ _ := ⟨trivial, fun _ _ => trivial⟩
  local_step := by
    intro s _ e _ _ hs _ hG ha
    obtain ⟨_, ht, heq⟩ := Option.map_eq_some_iff.1 ha
    cases heq
    refine ⟨?_, List.forall_mem_nil _, .nil⟩
    cases e with
    | settle => exact he hs ht
    | pass p =>
      obtain ⟨hn, ht⟩ := Option.ite_none_right_eq_some.1 ht
      cases ht
      cases hp : planScale lib r overhead p.view with
      | none => exact hs
      | some => exact hps hs hG hn hp

end FastSandbox.Pool
