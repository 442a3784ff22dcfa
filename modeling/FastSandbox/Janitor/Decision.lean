import FastSandbox.ControlPlane.Status

/-!
# What the janitor may clean up

`cleanupDecision` is taken when a node resource is found and again right before it is deleted. It
reads the Fastlet Pods and the Sandbox that the labels of the resource name, and decides by the
projected placement: it looks past a Pod that is terminating and past an annotation that was not
projected yet.
-/

namespace FastSandbox.NodeResources

open List

open ControlPlane (Time Sandbox AssignmentEnvelope)

inductive ResourceBackend
  | containerd
  | linuxNetwork
  | oci

/-- The labels of a node resource. No backend stands for the empty name. -/
structure ResourceIdentity where
  backend : Option ResourceBackend
  (resourceID fastletPodUID : String)
  (fastletPodName fastletPodNamespace sandboxUID sandboxName sandboxNamespace : String := "")
  (instanceGeneration assignmentAttempt : ℤ := 0)
  createdAt : Time := 0

structure PodObject extends ControlPlane.Pod where
  (namespaceName name : String)
deriving DecidableEq

structure SandboxObject where
  (namespaceName name : String)
  sandbox : Sandbox
deriving DecidableEq

/-- What the API server holds, and the errors of the two reads if they fail. -/
structure Cluster where
  pods : List PodObject := []
  sandboxes : List SandboxObject := []
  (podError sandboxError : Option String := none)

structure Janitor where
  (kubeClient k8sClient : Bool := true)
  orphanTimeoutSetting : ℤ := 0
  now : Time

variable (j : Janitor) (c : Cluster) (r : ResourceIdentity)

/-- Thirty seconds by default. -/
def Janitor.orphanTimeout : ℤ :=
  if 0 < j.orphanTimeoutSetting then j.orphanTimeoutSetting else 30000000000

inductive CleanupReason
  | orphanGracePeriod
  | fastletPodStillExists
  | unboundResourceFromLostPod
  | sandboxIdentityMissing
  | sandboxUnassigned
  | assignmentMoved
  | invalidResourceFence
  | resourceFenceSuperseded
  | resourceFenceAheadOfControlPlane
  | sandboxMarkedLost
  | assignmentStillAuthoritative
deriving DecidableEq

structure CleanupDecision where
  eligible : Bool
  reason : CleanupReason
deriving DecidableEq

/-! ## The decision -/

/-- The Pods the read returns: the one of the labelled name, or all of them. -/
def Cluster.podsFor : List PodObject :=
  if r.fastletPodName ≠ "" ∧ r.fastletPodNamespace ≠ "" then
    (c.pods.find? fun pod =>
      pod.namespaceName = r.fastletPodNamespace ∧ pod.name = r.fastletPodName).toList
  else c.pods

def exactFastletPodExists : Except String Bool :=
  if !j.kubeClient then .error "Kubernetes Pod client is not configured"
  else match c.podError with
  | some err => .error err
  | none => .ok ((c.podsFor r).any fun pod => pod.uid = r.fastletPodUID && !pod.deleting)

/-- The Sandbox the read returns: the one of the labelled name, or the first with the UID. -/
def Cluster.sandboxFor : Option SandboxObject :=
  if r.sandboxName ≠ "" ∧ r.sandboxNamespace ≠ "" then
    c.sandboxes.find? fun o => o.namespaceName = r.sandboxNamespace ∧ o.name = r.sandboxName
  else c.sandboxes.find? fun o => o.sandbox.uid = r.sandboxUID

def findSandbox :
    Except String (Option Sandbox) :=
  if !j.k8sClient then .error "Sandbox client is not configured"
  else match c.sandboxError with
  | some err => .error err
  | none => .ok ((c.sandboxFor r).map SandboxObject.sandbox)

def lost (sb : Sandbox) : Bool :=
  sb.status.runtime.state = .unavailable && sb.status.placement.recovery.isSome

/-- The second half of `cleanupDecision`, for a Sandbox that was found. -/
def sandboxDecision (sb : Sandbox) : CleanupDecision :=
  let placement := sb.status.placement
  let currentGeneration := max sb.status.runtime.generation 1
  if sb.uid ≠ r.sandboxUID then ⟨true, .sandboxIdentityMissing⟩
  else if placement.fastletName = "" then ⟨true, .sandboxUnassigned⟩
  else if placement.fastletPodUID ≠ r.fastletPodUID then ⟨true, .assignmentMoved⟩
  else if r.instanceGeneration ≤ 0 ∨ r.assignmentAttempt ≤ 0 then ⟨false, .invalidResourceFence⟩
  else if r.instanceGeneration < currentGeneration ∨ r.assignmentAttempt < placement.attempt then
    ⟨true, .resourceFenceSuperseded⟩
  else if currentGeneration < r.instanceGeneration ∨ placement.attempt < r.assignmentAttempt then
    ⟨false, .resourceFenceAheadOfControlPlane⟩
  else if lost sb then ⟨true, .sandboxMarkedLost⟩
  else ⟨false, .assignmentStillAuthoritative⟩

def cleanupDecision :
    Except String CleanupDecision :=
  if r.backend = none ∨ r.resourceID = "" ∨ r.fastletPodUID = "" then
    .error "resource is missing backend, ID, or Fastlet Pod UID"
  else if r.createdAt = 0 ∨ (j.now : ℤ) - r.createdAt < j.orphanTimeout then
    .ok ⟨false, .orphanGracePeriod⟩
  else match exactFastletPodExists j c r with
  | .error err => .error err
  | .ok true => .ok ⟨false, .fastletPodStillExists⟩
  | .ok false =>
    if r.sandboxUID = "" then .ok ⟨true, .unboundResourceFromLostPod⟩
    else match findSandbox j c r with
    | .error err => .error err
    | .ok none => .ok ⟨true, .sandboxIdentityMissing⟩
    | .ok (some sb) => .ok (sandboxDecision r sb)

/-! ## What an eligible resource may still be -/

/-- The exact Fastlet Pod is still there, terminating or not. -/
def PodExists : Prop := ∃ pod ∈ c.pods, pod.uid = r.fastletPodUID

/-- The resource is the runtime of the Sandbox's effective assignment. An annotation next to a
placement that does not project it is none: `EffectiveAssignment` fails. The resource is then
eligible by the placement alone, even if it is the runtime of the annotation. -/
def EffectiveRuntime (sb : Sandbox) : Prop :=
  ∃ e : AssignmentEnvelope, sb.effectiveAssignment = .ok (some e) ∧
    e.fastletPodUID = r.fastletPodUID ∧ e.instanceGeneration = r.instanceGeneration ∧
    e.attempt = r.assignmentAttempt

/-- A Sandbox of the labelled UID is there with the property. -/
def Cluster.HasSandbox (P : SandboxObject → Prop) : Prop :=
  r.sandboxUID ≠ "" ∧ ∃ o ∈ c.sandboxes, o.sandbox.uid = r.sandboxUID ∧ P o

/-- The resource may go: its Pod is gone and no Sandbox is assigned to it, or the Sandbox is
recorded as lost. -/
def SafeToClean : Prop :=
  (¬ PodExists c r ∧ ¬ c.HasSandbox r fun o => EffectiveRuntime r o.sandbox) ∨
    c.HasSandbox r fun o => lost o.sandbox

/-- The Pod is there, but terminating or not under the labelled name. -/
def PodOverlooked : Prop :=
  ∃ pod ∈ c.pods, pod.uid = r.fastletPodUID ∧ (pod.deleting ∨ pod ∉ c.podsFor r)

/-- The Sandbox is assigned to the resource, but that was not projected yet, or the Sandbox is not
what the read returns. -/
def AssignmentOverlooked : Prop :=
  c.HasSandbox r fun o => EffectiveRuntime r o.sandbox ∧
    (o.sandbox.status.placement.fastletName = "" ∨ c.sandboxFor r ≠ some o)

section

variable {j : Janitor} {c : Cluster} {r : ResourceIdentity} {d : CleanupDecision}

theorem eligible_cases (h : cleanupDecision j c r = .ok d) (hl : d.eligible) :
    (∀ pod ∈ c.podsFor r, pod.uid = r.fastletPodUID → pod.deleting) ∧
      (r.sandboxUID ≠ "" → ∀ o, c.sandboxFor r = some o →
        (sandboxDecision r o.sandbox).eligible) := by
  unfold cleanupDecision at h
  split at h
  · cases h
  split at h
  · cases h
    cases hl
  unfold exactFastletPodExists at h
  split at h
  · cases h
  · cases h
    cases hl
  rename_i he
  have hd : ∀ pod ∈ c.podsFor r, pod.uid = r.fastletPodUID → pod.deleting := by
    intro pod hp hu
    split_ifs at he
    split at he
    · cases he
    · have ha := any_eq_false.mp (Except.ok.inj he) pod hp
      simpa [hu] using ha
  refine ⟨hd, fun hu o ho => ?_⟩
  rw [if_neg hu] at h
  unfold findSandbox at h
  rw [ho] at h
  split at h
  · cases h
  · rename_i hf
    split_ifs at hf
    split at hf <;> cases hf
  · rename_i hf
    split_ifs at hf
    split at hf <;> cases hf
    cases h
    exact hl

/-- A Sandbox whose projected assignment is the resource is given up only once it is lost. -/
theorem lost_of_eligible {sb : Sandbox} (hu : sb.uid = r.sandboxUID)
    (hn : sb.status.placement.fastletName ≠ "") (hf : EffectiveRuntime r sb)
    (h : (sandboxDecision r sb).eligible) : lost sb := by
  obtain ⟨e, he, hd, _, ha⟩ := hf
  -- an effective assignment next to a projected placement is that placement
  obtain ⟨hp', ha', hg'⟩ : sb.status.placement.fastletPodUID = e.fastletPodUID ∧
      sb.status.placement.attempt = e.attempt ∧
      sb.status.runtime.generation = e.instanceGeneration := by
    unfold Sandbox.effectiveAssignment at he
    split at he
    · cases he
    rename_i hv
    rw [Except.ok.inj he] at hv
    unfold ControlPlane.validateStatusProjection at hv
    dsimp only at hv
    have hr : sb.status.projects e := by
      by_contra hnot
      rw [if_neg (not_or.mpr ⟨hn, hnot⟩)] at hv
      cases hv
    simp only [ControlPlane.SandboxStatus.projects, Bool.and_eq_true, decide_eq_true_eq] at hr
    exact ⟨hr.1.1.1.2, hr.1.1.2, hr.1.2⟩
  have ho := e.one_le_instanceGeneration
  have ho' := e.one_le_attempt
  have hx : max sb.status.runtime.generation 1 = r.instanceGeneration := by omega
  unfold sandboxDecision at h
  rw [if_neg (not_not.mpr hu), if_neg hn, if_neg (not_not.mpr (hp'.trans hd)), hx,
    ha'.trans ha, if_neg (by omega), if_neg (by omega), if_neg (by omega)] at h
  split_ifs at h with hl
  exact hl

/-- **When an eligible resource may go.** It may exactly if the reads overlooked neither its Pod
nor an assignment of its Sandbox, or the Sandbox is recorded as lost. -/
theorem eligible_safe_iff (h : cleanupDecision j c r = .ok d) (heligible : d.eligible = true) :
    SafeToClean c r ↔ (¬ PodOverlooked c r ∧ ¬ AssignmentOverlooked c r) ∨
      c.HasSandbox r fun o => lost o.sandbox = true := by
  obtain ⟨ho, hs⟩ := eligible_cases h heligible
  constructor
  · rintro (⟨hp, hh⟩ | hl)
    · refine .inl ⟨?_, ?_⟩
      · rintro ⟨pod, hm, hu, -⟩
        exact hp ⟨pod, hm, hu⟩
      · rintro ⟨hne, o, hm, hu, he, -⟩
        exact hh ⟨hne, o, hm, hu, he⟩
    · exact .inr hl
  · rintro (⟨hp, hh⟩ | hl)
    · by_cases hh' : c.HasSandbox r fun o => EffectiveRuntime r o.sandbox
      · -- the Sandbox was read, so the decision rests on its projected placement
        obtain ⟨hne, o, hm, hu, he⟩ := hh'
        have hn : o.sandbox.status.placement.fastletName ≠ "" ∧ c.sandboxFor r = some o := by
          by_contra hnot
          refine hh ⟨hne, o, hm, hu, he, ?_⟩
          rwa [not_and_or, not_not] at hnot
        exact .inr ⟨hne, o, hm, hu, lost_of_eligible hu hn.1 he (hs hne o hn.2)⟩
      · refine .inl ⟨?_, hh'⟩
        rintro ⟨pod, hm, hu⟩
        refine hp ⟨pod, hm, hu, ?_⟩
        by_cases hr : pod ∈ c.podsFor r
        · exact .inl (ho pod hr hu)
        · exact .inr hr
    · exact .inr hl

end

def firstRuntime : ResourceIdentity where
  backend := some .containerd
  resourceID := "container-1"
  fastletPodUID := "pod-a"
  sandboxUID := "uid-1"
  instanceGeneration := 1
  assignmentAttempt := 1
  createdAt := 1

def laterJanitor : Janitor where
  now := 30000000001

/-- A Sandbox whose annotation is not projected yet. -/
def unprojected (podUID : String) (attempt : ℤ) : SandboxObject where
  namespaceName := "default"
  name := "sandbox-1"
  sandbox :=
    { uid := "uid-1"
      assignment := ControlPlane.assignmentForCandidate
        ⟨"fastlet-a", podUID, "10.0.0.1", "", "runtime", "resource", "infra"⟩ attempt 1 1 "id-1" }

def projected (o : SandboxObject) : SandboxObject :=
  { o with sandbox := { o.sandbox with status := o.sandbox.assignment.elim {} (.project {}) } }

/-- The Pod is terminating and the annotation is not projected yet: the runtime of the effective
assignment is eligible. -/
theorem effective_runtime_eligible :
    ¬ ∀ (j : Janitor) (c : Cluster) (r : ResourceIdentity) (d : CleanupDecision),
      cleanupDecision j c r = .ok d → d.eligible = true → SafeToClean c r := by
  intro ha
  have hs := ha laterJanitor
    { pods := [{ uid := "pod-a", deleting := true, namespaceName := "pool", name := "fastlet-a" }]
      sandboxes := [unprojected "pod-a" 1] }
    firstRuntime ⟨true, .sandboxUnassigned⟩ (by decide) rfl
  rcases hs with ⟨-, hh⟩ | ⟨-, o, hm, -, hl⟩
  · exact hh ⟨by decide, unprojected "pod-a" 1, mem_singleton_self _, rfl, _, rfl, rfl, rfl, rfl⟩
  · rw [mem_singleton.mp hm] at hl
    cases hl

/-- The Pod was replaced, and the Sandbox has moved to its successor. -/
def successor : Cluster where
  pods := [{ uid := "pod-b", deleting := false, namespaceName := "pool", name := "fastlet-a" }]
  sandboxes := [projected (unprojected "pod-b" 2)]

theorem moved_safe :
    cleanupDecision laterJanitor successor firstRuntime = .ok ⟨true, .assignmentMoved⟩ ∧
      SafeToClean successor firstRuntime := by
  have h : cleanupDecision laterJanitor successor firstRuntime = .ok ⟨true, .assignmentMoved⟩ := by
    decide
  refine ⟨h, (eligible_safe_iff h rfl).mpr (.inl ⟨?_, ?_⟩)⟩
  · rintro ⟨pod, hm, hu, -⟩
    rw [mem_singleton.mp hm] at hu
    exact absurd hu (by decide)
  · rintro ⟨-, o, hm, -, ⟨e, he, hu, -⟩, -⟩
    rw [mem_singleton.mp hm] at he
    cases he
    exact absurd hu (by decide)

end FastSandbox.NodeResources
