import FastSandbox.Placement.Slots

/-!
# Snapshots and rejections

Heartbeats and feedback carry versioned snapshots of a Fastlet's resource admission. Within one
epoch the stored revision never falls. A rejection leaves a fence at its revision, and what arrives
at or below the fence should not undo it.
-/

namespace FastSandbox.Placement

open Fastlet (Ref AdmissionState)
open Interleaving FastletInfo Option Bool Nat System

/-! ## What the messages do to a slot -/

/-- State and reason of the stored snapshot. -/
def FastletInfo.verdict (info : FastletInfo) : Option (AdmissionState × AdmissionReason) :=
  info.admission.resources.map fun status => (status.state, status.reason)

/-- The parts of a slot this file is about are as before. -/
structure Steady (info info' : FastletInfo) : Prop where
  podUID : info'.podUID = info.podUID
  resources : info'.admission.resources = info.admission.resources
  fence : info'.resourceFence = info.resourceFence
  rejectedUntil : info'.rejectedUntil = info.rejectedUntil

section Effects

variable {info info' info'' : FastletInfo}

theorem Steady.refl : Steady info info := ⟨rfl, rfl, rfl, rfl⟩

theorem Steady.trans (h : Steady info info') (h' : Steady info' info'') : Steady info info'' :=
  ⟨h'.podUID.trans h.podUID, h'.resources.trans h.resources, h'.fence.trans h.fence,
    h'.rejectedUntil.trans h.rejectedUntil⟩

theorem cleared_congr (he : info'.admission.resources = info.admission.resources)
    (hf : info'.resourceFence = info.resourceFence) :
    info'.resourceRejectionCleared = info.resourceRejectionCleared := by
  unfold resourceRejectionCleared
  rw [he, hf]

theorem steady_applyAdmissionResources (lib : Library) (info : FastletInfo) :
    Steady info (info.applyAdmissionResources lib) := by
  unfold applyAdmissionResources
  split
  · exact .refl
  · split
    · split_ifs <;> exact ⟨rfl, rfl, rfl, rfl⟩
    · exact ⟨rfl, rfl, rfl, rfl⟩

theorem steady_applyCache (lib : Library) (info : FastletInfo) (cache : CacheSnapshot) :
    Steady info (info.applyCache lib cache) := by
  unfold applyCache
  split_ifs <;> exact ⟨rfl, rfl, rfl, rfl⟩

theorem steady_recordSandbox (info : FastletInfo) (sandbox : Option SandboxStatus) :
    Steady info (info.recordSandbox sandbox) := by
  unfold recordSandbox
  split
  · exact .refl
  · split_ifs <;> exact ⟨rfl, rfl, rfl, rfl⟩

theorem steady_reserveLocal {demand : ResourceDemand} (h : info.reserveLocal demand = some info') :
    Steady info info' := by
  unfold reserveLocal at h
  dsimp only at h
  split_ifs at h <;> cases h <;> exact ⟨rfl, rfl, rfl, rfl⟩

theorem steady_upsert {pod : Pod} (h : info.podUID = pod.uid) :
    Steady info (info.upsert (fastletInfoFromPod pod)) := by
  have hne : info.podUID ≠ "" := h ▸ pod.uid_ne
  unfold upsert
  rw [if_pos ⟨hne, h⟩]
  exact ⟨h.symm, rfl, rfl, rfl⟩

/-- The last part of both messages: `RejectedUntil` is reset if the rejection is superseded. -/
theorem clearRejection_rejectedUntil (info : FastletInfo) : info.clearRejection.rejectedUntil =
      if info.resourceRejectionCleared then 0 else info.rejectedUntil := by
  unfold clearRejection
  split_ifs <;> rfl

/-- A change that leaves the slot's Pod and fence alone and ends in the reset. -/
structure Refreshed (info : FastletInfo) (resources : Option ResourceAdmissionStatus)
    (info' : FastletInfo) : Prop where
  podUID : info'.podUID = info.podUID
  resources : info'.admission.resources = resources
  fence : info'.resourceFence = info.resourceFence
  rejectedUntil : info'.rejectedUntil =
    if info'.resourceRejectionCleared then 0 else info.rejectedUntil

variable {resources : Option ResourceAdmissionStatus}

theorem refreshed_clearRejection (hu : info'.podUID = info.podUID)
    (he : info'.admission.resources = resources) (hf : info'.resourceFence = info.resourceFence)
    (hr : info'.rejectedUntil = info.rejectedUntil) :
    Refreshed info resources info'.clearRejection := by
  have hs : info'.clearRejection.admission.resources = info'.admission.resources ∧
      info'.clearRejection.resourceFence = info'.resourceFence ∧
      info'.clearRejection.podUID = info'.podUID := by
    unfold clearRejection
    split_ifs <;> exact ⟨rfl, rfl, rfl⟩
  refine ⟨hs.2.2.trans hu, hs.1.trans he, hs.2.1.trans hf, ?_⟩
  rw [clearRejection_rejectedUntil, cleared_congr hs.1 hs.2.1, hr]

/-- The snapshot stored after a heartbeat. -/
def FastletInfo.afterHeartbeat (info : FastletInfo) (incoming : AdmissionStatus) :
    Option ResourceAdmissionStatus :=
  match incoming.resources with
  | none => info.admission.resources
  | some status => if info.acceptsHeartbeat status then some status else info.admission.resources

theorem applyHeartbeatAdmission_effect (info : FastletInfo) (incoming : AdmissionStatus)
    (observedAt : Time) : (info.applyHeartbeatAdmission incoming observedAt).podUID = info.podUID ∧
      (info.applyHeartbeatAdmission incoming observedAt).admission.resources =
        info.afterHeartbeat incoming ∧
      (info.applyHeartbeatAdmission incoming observedAt).resourceFence = info.resourceFence ∧
      (info.applyHeartbeatAdmission incoming observedAt).rejectedUntil = info.rejectedUntil := by
  unfold applyHeartbeatAdmission afterHeartbeat
  cases hn : incoming.resources with
  | none =>
    split_ifs with hnn
    · exact ⟨rfl, hn.trans (isNone_iff_eq_none.mp hnn).symm, rfl, rfl⟩
    · exact ⟨rfl, rfl, rfl, rfl⟩
  | some =>
    dsimp only
    split_ifs
    · exact ⟨rfl, hn, rfl, rfl⟩
    · exact ⟨rfl, hn, rfl, rfl⟩
    · exact ⟨rfl, rfl, rfl, rfl⟩
    · exact ⟨rfl, rfl, rfl, rfl⟩

variable {expectedPodUID : String} {heartbeat : HeartbeatResponse}

theorem applyHeartbeat_of_error (lib : Library) (observedAt : Time)
    (h : info.heartbeatError expectedPodUID heartbeat ≠ none) :
    Steady info (info.applyHeartbeat lib expectedPodUID heartbeat observedAt).1 := by
  unfold applyHeartbeat
  split
  · exact ⟨rfl, rfl, rfl, rfl⟩
  · exact .refl
  · rename_i hn
    exact absurd hn h

theorem applyHeartbeat_of_none (lib : Library) (observedAt : Time)
    (h : info.heartbeatError expectedPodUID heartbeat = none) :
    Refreshed info (info.afterHeartbeat heartbeat.admission)
      (info.applyHeartbeat lib expectedPodUID heartbeat observedAt).1 := by
  unfold applyHeartbeat
  rw [h]
  obtain ⟨hu, he, hf, hj⟩ :=
    applyHeartbeatAdmission_effect (info.applyReadiness heartbeat) heartbeat.admission observedAt
  have hr := (steady_applyAdmissionResources lib
    ((info.applyReadiness heartbeat).applyHeartbeatAdmission heartbeat.admission observedAt)).trans
    (steady_applyCache lib _ heartbeat.cache)
  exact refreshed_clearRejection (hr.podUID.trans hu) (hr.resources.trans he)
    (hr.fence.trans hf) (hr.rejectedUntil.trans hj)

/-- The snapshot a feedback carries. -/
def LocalFeedback.status (feedback : LocalFeedback) : Option ResourceAdmissionStatus :=
  feedback.admission.bind fun admission => admission.resources

/-- A feedback whose snapshot was taken over or is missing: the slot holds `resources` and `fence`,
and the code decides about `RejectedUntil`. -/
structure Settled (info : FastletInfo) (feedback : LocalFeedback)
    (resources : Option ResourceAdmissionStatus) (fence : ResourceRevision) (info' : FastletInfo) :
    Prop where
  podUID : info'.podUID = info.podUID
  resources : info'.admission.resources = resources
  fence : info'.resourceFence = fence
  rejectedUntil : info'.rejectedUntil =
    if FastletInfo.penalizes feedback.code then feedback.observedAt + feedback.retryAfter.toNat
    else if info'.resourceRejectionCleared then 0 else info.rejectedUntil

theorem settleRejection_effect {feedback : LocalFeedback} {fence : ResourceRevision}
    (hu : info'.podUID = info.podUID) (he : info'.admission.resources = resources)
    (hf : info'.resourceFence = fence) (hr : info'.rejectedUntil = info.rejectedUntil) :
    Settled info feedback resources fence
      ((info'.recordSandbox feedback.sandbox).settleRejection feedback) := by
  have hs := steady_recordSandbox info' feedback.sandbox
  unfold settleRejection
  split_ifs with hc
  · exact ⟨hs.podUID.trans hu, hs.resources.trans he, hs.fence.trans hf, (if_pos hc).symm⟩
  · have hl := refreshed_clearRejection hs.podUID hs.resources hs.fence hs.rejectedUntil
    refine ⟨hl.podUID.trans hu, hl.resources.trans he, hl.fence.trans hf, ?_⟩
    rw [if_neg hc, hl.rejectedUntil, hr]

inductive FeedbackEffect (info : FastletInfo) (feedback : LocalFeedback) (info' : FastletInfo) :
    Prop
  | refused (h : info' = info)
      (hrefused : info.podUID ≠ feedback.podUID ∨
        ∃ status, feedback.status = some status ∧ info.acceptsFeedback status feedback = false)
  | plain (hstatus : feedback.status = none)
      (h : Settled info feedback info.admission.resources info.resourceFence info')
  | accepted (status : ResourceAdmissionStatus) (hstatus : feedback.status = some status)
      (huid : feedback.podUID ≠ "" → info.podUID = feedback.podUID)
      (haccepts : info.acceptsFeedback status feedback)
      (h : Settled info feedback (some status)
        (if FastletInfo.fences status feedback.code then ⟨status.epoch, status.revision⟩
          else info.resourceFence) info')

theorem recordFeedback_effect (lib : Library) (info : FastletInfo) (feedback : LocalFeedback) :
    FeedbackEffect info feedback (info.recordFeedback lib feedback) := by
  unfold recordFeedback
  split_ifs with hu
  · exact .refused rfl (.inl hu.2)
  split
  · rename_i hn
    refine .plain ?_ (settleRejection_effect rfl rfl rfl rfl)
    unfold LocalFeedback.status
    cases ha : feedback.admission with
    | none => rfl
    | some =>
      rw [ha] at hn
      exact map_eq_none_iff.mp hn
  · rename_i incoming status hse
    have hs : feedback.status = some status ∧ incoming.resources = some status := by
      obtain ⟨admission, ha, hm⟩ := bind_eq_some_iff.mp hse
      obtain ⟨_, he, hp⟩ := map_eq_some_iff.mp hm
      cases hp
      refine ⟨?_, he⟩
      unfold LocalFeedback.status
      rw [ha]
      exact he
    split_ifs with hc
    · have hr := steady_applyAdmissionResources lib
        (info.applyFeedbackAdmission incoming status feedback)
      exact .accepted status hs.1 (fun hne => not_not.mp fun h => hu ⟨hne, h⟩) hc
        (settleRejection_effect hr.podUID (hr.resources.trans hs.2) hr.fence hr.rejectedUntil)
    · exact .refused rfl (.inr ⟨status, hs.1, not_eq_true _ ▸ hc⟩)

end Effects

/-! ## One epoch -/

/-- The slot of one Pod, all of whose snapshots are of one epoch. Before the Pod is known nothing
is stored. -/
structure SlotOk (uid epoch : String) (info : FastletInfo) : Prop where
  pod : info.podUID = "" ∨ info.podUID = uid
  fresh : info.podUID ≠ uid → info.admission.resources = none ∧ info.resourceFence = {}
  stored : ∀ status, info.admission.resources = some status → status.epoch = epoch

/-- The stored revision does not fall. -/
def Later (info info' : FastletInfo) : Prop :=
  ∀ status, info.admission.resources = some status →
    ∃ status', info'.admission.resources = some status' ∧ status.revision ≤ status'.revision

/-- A rejection at revision `R` is fenced, and the stored snapshot is not older than the fence. -/
structure Fenced (epoch : String) (R : ℕ) (info : FastletInfo) : Prop where
  epoch : info.resourceFence.epoch = epoch
  revision : R ≤ info.resourceFence.revision
  stored : ∃ status, info.admission.resources = some status ∧
    info.resourceFence.revision ≤ status.revision

inductive SlotMove (lib : Library) (uid epoch : String) (info : FastletInfo) : FastletInfo → Prop
  | steady (info' : FastletInfo) (h : Steady info info') : SlotMove lib uid epoch info info'
  | upsert (pod : Pod) (huid : pod.uid = uid) :
      SlotMove lib uid epoch info (info.upsert (fastletInfoFromPod pod))
  | heartbeat (expectedPodUID : String) (heartbeat : HeartbeatResponse) (observedAt : Time)
      (hepoch : ∀ status, heartbeat.admission.resources = some status → status.epoch = epoch) :
      SlotMove lib uid epoch info (info.applyHeartbeat lib expectedPodUID heartbeat observedAt).1
  | feedback (feedback : LocalFeedback) (huid : feedback.podUID = uid)
      (hepoch : ∀ status, feedback.status = some status → status.epoch = epoch) :
      SlotMove lib uid epoch info (info.recordFeedback lib feedback)

section Slots

variable {lib : Library} {uid epoch : String} {info info' : FastletInfo} {R : ℕ}

theorem Later.of_eq (h : info'.admission.resources = info.admission.resources) :
    Later info info' := fun status hs => ⟨status, h.trans hs, le_rfl⟩

theorem SlotOk.of_steady (hok : SlotOk uid epoch info) (h : Steady info info') :
    SlotOk uid epoch info' where
  pod := by
    rw [h.podUID]
    exact hok.pod
  fresh := by
    rw [h.podUID, h.resources, h.fence]
    exact hok.fresh
  stored := by
    rw [h.resources]
    exact hok.stored

theorem SlotOk.of_known (hk : info.podUID = uid) (hu : info'.podUID = info.podUID)
    (ho : ∀ status, info'.admission.resources = some status → status.epoch = epoch) :
    SlotOk uid epoch info' where
  pod := .inr (hu.trans hk)
  fresh hne := absurd (hu.trans hk) hne
  stored := ho

theorem Fenced.of_later (hf : Fenced epoch R info)
    (he : info'.resourceFence = info.resourceFence) (hl : Later info info') :
    Fenced epoch R info' := by
  obtain ⟨status, ht, hle⟩ := hf.stored
  obtain ⟨status', hs', hle'⟩ := hl status ht
  constructor
  · rw [he]
    exact hf.epoch
  · rw [he]
    exact hf.revision
  · rw [he]
    exact ⟨status', hs', hle.trans hle'⟩

theorem Fenced.known (hf : Fenced epoch R info) (hok : SlotOk uid epoch info) :
    info.podUID = uid := by
  by_contra hne
  obtain ⟨_, hs, -⟩ := hf.stored
  rw [(hok.fresh hne).1] at hs
  cases hs

variable {status current : ResourceAdmissionStatus}

theorem acceptsHeartbeat_later (he : status.epoch = current.epoch)
    (hc : info.admission.resources = some current) (h : info.acceptsHeartbeat status) :
    current.revision ≤ status.revision := by
  unfold acceptsHeartbeat at h
  rw [hc] at h
  split_ifs at h
  · simp only [and_eq_true, decide_eq_true_eq] at h
    exact h.1.1.2.ge
  · simpa [he] using h

variable {feedback : LocalFeedback}

theorem acceptsFeedback_later (he : status.epoch = current.epoch)
    (hc : info.admission.resources = some current) :
    info.acceptsFeedback status feedback ↔ current.revision ≤ status.revision := by
  unfold acceptsFeedback
  rw [hc]
  dsimp only
  rw [if_pos he, decide_eq_true_iff]

variable {incoming : AdmissionStatus}

section

variable (hok : SlotOk uid epoch info)
include hok

theorem afterHeartbeat_later
    (he : ∀ status, incoming.resources = some status → status.epoch = epoch) :
    (∀ status, info.afterHeartbeat incoming = some status → status.epoch = epoch) ∧
      ∀ status, info.admission.resources = some status →
        ∃ status', info.afterHeartbeat incoming = some status' ∧
          status.revision ≤ status'.revision := by
  unfold afterHeartbeat
  cases hn : incoming.resources with
  | none => exact ⟨hok.stored, fun status hs => ⟨status, hs, le_rfl⟩⟩
  | some status =>
    dsimp only
    split_ifs with ha
    · refine ⟨fun status' heq => ?_, fun current hc => ?_⟩
      · cases heq
        exact he status hn
      · have hm := (he status hn).trans (hok.stored current hc).symm
        exact ⟨status, rfl, acceptsHeartbeat_later hm hc ha⟩
    · exact ⟨hok.stored, fun status hs => ⟨status, hs, le_rfl⟩⟩

theorem Steady.spec (h : Steady info info') :
    SlotOk uid epoch info' ∧ Later info info' ∧ ∀ R, Fenced epoch R info → Fenced epoch R info' :=
  ⟨hok.of_steady h, .of_eq h.resources, fun _ hR => hR.of_later h.fence (.of_eq h.resources)⟩

/-- **One move.** The slot stays well formed, its revision does not fall and its fences stay. -/
theorem SlotMove.spec (h : SlotMove lib uid epoch info info') :
    SlotOk uid epoch info' ∧ Later info info' ∧
      ∀ R, Fenced epoch R info → Fenced epoch R info' := by
  cases h with
  | steady info' h => exact h.spec hok
  | upsert pod hu =>
    by_cases hm : info.podUID = pod.uid
    · exact (steady_upsert hm).spec hok
    have hne : info.podUID ≠ uid := hu ▸ hm
    have hin : info.upsert (fastletInfoFromPod pod) = fastletInfoFromPod pod :=
      if_neg fun h => hm h.2
    rw [hin]
    refine ⟨⟨.inr hu, fun h => absurd hu h, nofun⟩, fun status ht => ?_, fun R hR => ?_⟩
    · rw [(hok.fresh hne).1] at ht
      cases ht
    · exact absurd (hR.known hok) hne
  | heartbeat expectedPodUID heartbeat observedAt ho =>
    by_cases he : info.heartbeatError expectedPodUID heartbeat = none
    · have h := applyHeartbeat_of_none lib observedAt he
      obtain ⟨hso, hl⟩ := afterHeartbeat_later hok ho
      rw [← h.resources] at hso
      have hla' : Later info (info.applyHeartbeat lib expectedPodUID heartbeat observedAt).1 := by
        intro status ht
        rw [h.resources]
        exact hl status ht
      -- a Pod that is not known accepts no heartbeat
      have hk : info.podUID = uid := by
        refine hok.pod.resolve_left fun hem => ?_
        unfold heartbeatError at he
        rw [if_pos (.inl hem)] at he
        cases he
      exact ⟨.of_known hk h.podUID hso, hla', fun R hR => hR.of_later h.fence hla'⟩
    · exact (applyHeartbeat_of_error lib observedAt he).spec hok
  | feedback feedback hu ho =>
    cases recordFeedback_effect lib info feedback with
    | refused h =>
      rw [h]
      exact Steady.refl.spec hok
    | plain ht h =>
      have hl : Later info (info.recordFeedback lib feedback) := .of_eq h.resources
      refine ⟨⟨?_, ?_, ?_⟩, hl, fun R hR => hR.of_later h.fence hl⟩
      · rw [h.podUID]
        exact hok.pod
      · rw [h.podUID, h.resources, h.fence]
        exact hok.fresh
      · rw [h.resources]
        exact hok.stored
    | accepted status ht hp ha h =>
      have hk : info.podUID = uid := by
        rcases hok.pod with hem | hk
        · by_cases hne : feedback.podUID = ""
          · rw [hem, ← hu, hne]
          · exact (hp hne).trans hu
        · exact hk
      have hep' := ho status ht
      have hl : Later info (info.recordFeedback lib feedback) := by
        intro current hc
        have hm := hep'.trans (hok.stored current hc).symm
        exact ⟨status, h.resources, (acceptsFeedback_later hm hc).mp ha⟩
      refine ⟨.of_known hk h.podUID ?_, hl, fun R hR => ?_⟩
      · rw [h.resources]
        rintro _ ⟨⟩
        exact hep'
      by_cases hf : fences status feedback.code
      · have hfe := h.fence
        rw [if_pos hf] at hfe
        obtain ⟨current, hc, hle⟩ := hR.stored
        obtain ⟨_, hs', hle'⟩ := hl current hc
        rw [h.resources] at hs'
        cases hs'
        refine ⟨?_, ?_, status, h.resources, ?_⟩
        · rw [hfe]
          exact hep'
        · rw [hfe]
          exact (hR.revision.trans hle).trans hle'
        · rw [hfe]
      · have hfe := h.fence
        rw [if_neg hf] at hfe
        exact hR.of_later hfe hl

end

/-! ## At or below a fence -/

/-- The verdict is as before, and `RejectedUntil` was not reset before its time. -/
structure Undisturbed (info info' : FastletInfo) (now : Time) : Prop where
  verdict : info'.verdict = info.verdict
  deadline : info'.rejectedUntil = 0 → info.rejectedUntil ≤ now

theorem undisturbed_of_steady (h : Steady info info') (now : Time) :
    Undisturbed info info' now where
  verdict := by
    unfold verdict
    rw [h.resources]
  deadline hz := by
    rw [← h.rejectedUntil, hz]
    exact zero_le _

/-- A message that ends in the reset of `RejectedUntil` and keeps the snapshot's place and verdict
keeps the rejection exactly if the reset does not apply or comes after the deadline. -/
theorem undisturbed_iff_of_reset {now : Time} (hv : info'.verdict = info.verdict)
    (hl : info'.resourceRejectionCleared = info.resourceRejectionCleared)
    (hr : info'.rejectedUntil = if info'.resourceRejectionCleared then 0 else info.rejectedUntil) :
    Undisturbed info info' now ↔
      info.resourceRejectionCleared = false ∨ info.rejectedUntil ≤ now := by
  rw [hl] at hr
  cases hb : info.resourceRejectionCleared with
  | true =>
    rw [hb, if_pos rfl] at hr
    constructor
    · exact fun h => .inr (h.deadline hr)
    · exact fun h => ⟨hv, fun _ => h.resolve_left nofun⟩
  | false =>
    rw [hb, if_neg nofun] at hr
    refine iff_of_true ⟨hv, fun hz => ?_⟩ (.inl rfl)
    rw [← hr, hz]
    exact zero_le _

theorem afterHeartbeat_fenced (hf : Fenced epoch R info)
    (hs : incoming.resources = some status) (he : status.epoch = epoch)
    (hle : status.revision ≤ R) : ∃ current after, info.admission.resources = some current ∧
      info.afterHeartbeat incoming = some after ∧ after.epoch = current.epoch ∧
      after.revision = current.revision ∧ after.state = current.state ∧
      after.reason = current.reason := by
  obtain ⟨current, hc, -⟩ := hf.stored
  have ht : status.epoch = info.resourceFence.epoch ∧
      status.revision ≤ info.resourceFence.revision :=
    ⟨he.trans hf.epoch.symm, hle.trans hf.revision⟩
  unfold afterHeartbeat
  rw [hs]
  dsimp only
  split_ifs with ha
  · unfold acceptsHeartbeat at ha
    rw [if_pos ht, hc] at ha
    simp only [and_eq_true, decide_eq_true_eq] at ha
    obtain ⟨⟨⟨h₁, h₂⟩, h3⟩, h4⟩ := ha
    exact ⟨current, status, hc, rfl, h₁, h₂, h3.symm, h4.symm⟩
  · exact ⟨current, current, hc, hc, rfl, rfl, rfl, rfl⟩

theorem cleared_of_same {after : ResourceAdmissionStatus}
    (hc : info.admission.resources = some current) (ha : info'.admission.resources = some after)
    (hf : info'.resourceFence = info.resourceFence) (he : after.epoch = current.epoch)
    (hv : after.revision = current.revision) (hs : after.state = current.state) :
    info'.resourceRejectionCleared = info.resourceRejectionCleared := by
  unfold resourceRejectionCleared
  rw [hc, ha, hf]
  dsimp only
  rw [he, hv, hs]

theorem heartbeat_undisturbed_iff {expectedPodUID : String} {heartbeat : HeartbeatResponse}
    {observedAt : Time} (hf : Fenced epoch R info)
    (hs : heartbeat.admission.resources = some status) (ho : status.epoch = epoch)
    (hle : status.revision ≤ R) :
    Undisturbed info (info.applyHeartbeat lib expectedPodUID heartbeat observedAt).1 observedAt ↔
      info.heartbeatError expectedPodUID heartbeat ≠ none ∨
        info.resourceRejectionCleared = false ∨ info.rejectedUntil ≤ observedAt := by
  by_cases he : info.heartbeatError expectedPodUID heartbeat = none
  · have h := applyHeartbeat_of_none lib observedAt he
    obtain ⟨_, _, hc, ha, h₁, h₂, h3, h4⟩ := afterHeartbeat_fenced hf hs ho hle
    have hr := h.resources.trans ha
    rw [undisturbed_iff_of_reset ?_ (cleared_of_same hc hr h.fence h₁ h₂ h3) h.rejectedUntil]
    · exact (or_iff_right (not_not.mpr he)).symm
    · unfold verdict
      rw [hr, hc, map_some, map_some, h3, h4]
  · exact iff_of_true (undisturbed_of_steady (applyHeartbeat_of_error lib observedAt he) _)
      (.inl he)

theorem feedback_undisturbed_iff (hok : SlotOk uid epoch info) (hd : Fenced epoch R info)
    (hu : feedback.podUID = uid) (hre : 0 < feedback.retryAfter)
    (ht : feedback.status = some status) (ho : status.epoch = epoch) (hle : status.revision ≤ R) :
    Undisturbed info (info.recordFeedback lib feedback) feedback.observedAt ↔
      (info.acceptsFeedback status feedback →
        info.verdict = some (status.state, status.reason) ∧
        (penalizes feedback.code ∨ info.resourceRejectionCleared = false ∨
          info.rejectedUntil ≤ feedback.observedAt)) := by
  cases recordFeedback_effect lib info feedback with
  | refused h hf =>
    rw [h]
    refine iff_of_true (undisturbed_of_steady .refl _) fun ha => ?_
    rcases hf with hot | ⟨status', hs', hf⟩
    · exact absurd ((hd.known hok).trans hu.symm) hot
    rw [ht] at hs'
    cases hs'
    rw [ha] at hf
    cases hf
  | plain hn =>
    rw [hn] at ht
    cases ht
  | accepted status' hs' _ ha h =>
    rw [ht] at hs'
    cases hs'
    obtain ⟨current, hcu, _⟩ := hd.stored
    have hm := ho.trans (hok.stored current hcu).symm
    -- the feedback, the fence and the stored snapshot are of one revision
    have hv : status.revision = current.revision := by
      have h₁ := (acceptsFeedback_later hm hcu).mp ha
      have h₂ := hd.revision
      omega
    have hfe' : (info.recordFeedback lib feedback).resourceFence = info.resourceFence := by
      rw [h.fence]
      split_ifs
      · have hp' : status.epoch = info.resourceFence.epoch := ho.trans hd.epoch.symm
        have hr' : status.revision = info.resourceFence.revision := by
          have h₂ := hd.revision
          omega
        rw [hp', hr']
      · rfl
    have hvt : (info.recordFeedback lib feedback).verdict = some (status.state, status.reason) := by
      unfold verdict
      rw [h.resources]
      rfl
    rw [imp_iff_right ha]
    by_cases he : info.verdict = some (status.state, status.reason)
    · rw [and_iff_right he]
      have hst : status.state = current.state := by
        unfold verdict at he
        rw [hcu] at he
        exact (congrArg Prod.fst (some.inj he)).symm
      have hl := cleared_of_same hcu h.resources hfe' hm hv hst
      by_cases hc : penalizes feedback.code
      · have hj := h.rejectedUntil
        rw [if_pos hc] at hj
        have hpos : 0 < feedback.retryAfter.toNat := Int.lt_toNat.mpr hre
        refine iff_of_true ⟨hvt.trans he.symm, fun hz => ?_⟩ (.inl hc)
        rw [hj] at hz
        exact absurd hz (Nat.add_pos_right _ hpos).ne'
      · have hj := h.rejectedUntil
        rw [if_neg hc] at hj
        rw [undisturbed_iff_of_reset (hvt.trans he.symm) hl hj]
        exact (or_iff_right hc).symm
    · refine iff_of_false (fun h => he ?_) fun h => he h.1
      rw [← h.verdict, hvt]

end Slots

/-! ## Runs against one Pod -/

/-- The run is against one Pod UID behind the ID, and all snapshots for it carry one epoch. -/
def onePod (id : FastletID) (uid epoch : String) (_ : InMemoryRegistry) (t : Task) (_ : Time) :
    Prop :=
  match t with
  | .call (.removeIfPodUID id' _) => id' ≠ id
  | .upsertAt _ pod => (fastletInfoFromPod pod).id = id → pod.uid = uid
  | .heartbeatAt _ id' _ heartbeat _ =>
    id' = id → ∀ status ∈ heartbeat.admission.resources, status.epoch = epoch
  | .feedbackAt _ id' feedback =>
    id' = id → feedback.podUID = uid ∧ ∀ status ∈ feedback.status, status.epoch = epoch
  | _ => True

instance (id : FastletID) (uid epoch : String) (s : InMemoryRegistry) (t : Task) (now : Time) :
    Decidable (onePod id uid epoch s t now) := by
  unfold onePod
  split <;> infer_instance

section

variable {lib : Library} {id : FastletID} {uid epoch : String} {s s' : InMemoryRegistry} {t : Task}
  {ts : List Task} {now : Time} {p : Ref}

theorem slotMove_modify {q : Ref} {f : FastletInfo → FastletInfo}
    (h : q = p → SlotMove lib uid epoch (s.slots p) (f (s.slots p))) :
    SlotMove lib uid epoch (s.slots p) ((s.modify q f).slots p) := by
  by_cases hp : p = q
  · subst hp
    rw [slots_modify_self]
    exact h rfl
  · rw [slots_modify_of_ne f hp]
    exact .steady _ .refl

/-- **A section, seen from the registered slot.** -/
theorem step_slotMove (hs : s.Placed) (ht : Pointed s t) (ho : onePod id uid epoch s t now)
    (h : Step lib s t s' ts) (hp : s.lookup id = some p) :
    s'.lookup id = some p ∧ SlotMove lib uid epoch (s.slots p) (s'.slots p) := by
  -- a call that works on this slot looked for this ID
  have hi : ∀ {q id'}, t.slot = some (q, id') → q = p → id' = id := by
    intro q id' hl hq
    rw [hq] at hl
    exact ((ht.held p id' hl).single id hp).symm
  cases h with
  | done | lookReserve | lookUpsert | lookHeartbeat | lookFeedback | lookRelease =>
    exact ⟨hp, .steady _ .refl⟩
  | register pod hn =>
    have hne : id ≠ (fastletInfoFromPod pod).id := by
      rintro rfl
      rw [hn] at hp
      cases hp
    refine ⟨(lookup_register_of_ne hne).trans hp, ?_⟩
    rw [slots_register_of_ne (hs.known id p hp).ne]
    exact .steady _ .refl
  | forget => exact ⟨(lookup_forget_of_ne fun heq => ho heq.symm).trans hp, .steady _ .refl⟩
  | releaseNone => exact ⟨hp, .steady _ .refl⟩
  | reserve q id' demand info hin =>
    refine ⟨hp, ?_⟩
    rw [slots_enter]
    refine slotMove_modify fun hq => .steady _ ?_
    subst hq
    exact steady_reserveLocal hin
  | release =>
    refine ⟨hp, ?_⟩
    rw [slots_settle]
    exact slotMove_modify fun _ => .steady _ ⟨rfl, rfl, rfl, rfl⟩
  | upsert q pod => exact ⟨hp, slotMove_modify fun hq => .upsert pod (ho (hi rfl hq))⟩
  | heartbeat q id' expectedPodUID heartbeat observedAt =>
    exact ⟨hp, slotMove_modify fun hq =>
      .heartbeat expectedPodUID heartbeat observedAt (ho (hi rfl hq))⟩
  | feedback q id' feedback =>
    refine ⟨hp, slotMove_modify fun hq => ?_⟩
    obtain ⟨hu, he⟩ := ho (hi rfl hq)
    exact .feedback feedback hu he

theorem slotOk_empty (uid epoch : String) : SlotOk uid epoch {} where
  pod := .inl rfl
  fresh _ := ⟨rfl, rfl⟩
  stored _ h := nomatch h

/-- The slot registered for the ID is well formed. -/
def Watched (id : FastletID) (uid epoch : String) (s : InMemoryRegistry) : Prop :=
  ∀ p, s.lookup id = some p → SlotOk uid epoch (s.slots p)

theorem watched_step (hs : s.Placed) (ht : Pointed s t) (hw : Watched id uid epoch s)
    (ho : onePod id uid epoch s t now) (h : Step lib s t s' ts) : Watched id uid epoch s' := by
  intro p hp'
  cases hl : s.lookup id with
  | some =>
    obtain ⟨hq, hm⟩ := step_slotMove hs ht ho h hl
    rw [hq] at hp'
    cases hp'
    exact (hm.spec (hw p hl)).1
  | none =>
    -- the ID is new
    have hnew : s'.lookup id = none ∨ s'.slots p = {} := by
      cases h with
      | register pod hn =>
        by_cases hi : id = (fastletInfoFromPod pod).id
        · subst hi
          rw [lookup_register_self] at hp'
          cases hp'
          exact .inr slots_register_self
        · exact .inl ((lookup_register_of_ne hi).trans hl)
      | forget id' =>
        rw [lookup_of_forget hp'] at hl
        cases hl
      | done | lookReserve | lookUpsert | lookHeartbeat | lookFeedback | lookRelease | reserve
      | releaseNone | release | upsert | heartbeat | feedback => exact .inl hl
    rcases hnew with hn | hsl
    · rw [hn] at hp'
      cases hp'
    · rw [hsl]
      exact slotOk_empty uid epoch

end

variable {lib : Library} {id : FastletID} {uid epoch : String} {w w' : World InMemoryRegistry Task}
  {p : Ref}

theorem placed_of_reaches {G : InMemoryRegistry → Task → Time → Prop}
    (h : (system lib).Reaches G start w) :
    System.Holds InMemoryRegistry.Placed Pointed (fun _ _ => True) w :=
  (placement_outline lib).reaches (.start placed_start) (h.mono fun _ _ _ _ => trivial)

theorem watched_of_reaches (h : (system lib).Reaches (onePod id uid epoch) start w) :
    Watched id uid epoch w.shared :=
  (placement_outline lib).keeps (J := Watched id uid epoch) (fun _ _ _ _ => trivial)
    (fun hs ht hw ho h => watched_step hs ht hw ho (advance_step h)) (.start placed_start)
    nofun h

theorem slot_keeps {J : FastletInfo → Prop}
    (hJ : ∀ {info info' : FastletInfo}, SlotOk uid epoch info → J info →
      SlotMove lib uid epoch info info' → J info')
    (h : (system lib).Reaches (onePod id uid epoch) start w)
    (h' : (system lib).Reaches (onePod id uid epoch) w w') (hp : w.shared.lookup id = some p)
    (hj : J (w.shared.slots p)) : w'.shared.lookup id = some p ∧ J (w'.shared.slots p) := by
  have hr := placed_of_reaches h
  have hk := (placement_outline lib).keeps (fun _ _ _ _ => trivial)
    (J := fun s => s.lookup id = some p ∧ SlotOk uid epoch (s.slots p) ∧ J (s.slots p))
    (fun hs ht hj ho ha => by
      obtain ⟨hl, hok, hj⟩ := hj
      obtain ⟨hl', hm⟩ := step_slotMove hs ht ho (advance_step ha) hl
      exact ⟨hl', (hm.spec hok).1, hJ hok hj hm⟩)
    hr ⟨hp, watched_of_reaches h p hp, hj⟩ h'
  exact ⟨hk.1, hk.2.2⟩

theorem Later.trans {info info' info'' : FastletInfo} (h : Later info info')
    (h' : Later info' info'') : Later info info'' := by
  intro status hst
  obtain ⟨status', ht', hle⟩ := h status hst
  obtain ⟨status'', hs'', hle'⟩ := h' status' ht'
  exact ⟨status'', hs'', hle.trans hle'⟩

/-- A feedback that rejects on grounds of resources is accepted at revision `R`. -/
structure Rejects (info : FastletInfo) (feedback : LocalFeedback) (R : ℕ) : Prop where
  pod : info.podUID = feedback.podUID
  status : ∃ status, feedback.status = some status ∧ status.revision = R ∧
    FastletInfo.fences status feedback.code ∧ info.acceptsFeedback status feedback

theorem fenced_of_rejects {info : FastletInfo} {feedback : LocalFeedback} {R : ℕ}
    (hj : Rejects info feedback R) (ho : ∀ status ∈ feedback.status, status.epoch = epoch) :
    Fenced epoch R (info.recordFeedback lib feedback) := by
  obtain ⟨hp, status, ht, hv, hf, ha⟩ := hj
  cases recordFeedback_effect lib info feedback with
  | refused _ he =>
    rcases he with hot | ⟨status', hs', he⟩
    · exact absurd hp hot
    rw [ht] at hs'
    cases hs'
    rw [ha] at he
    cases he
  | plain hn =>
    rw [hn] at ht
    cases ht
  | accepted status' hs' _ _ h =>
    rw [ht] at hs'
    cases hs'
    have hfe := h.fence
    rw [if_pos hf] at hfe
    refine ⟨?_, ?_, status, h.resources, ?_⟩
    · rw [hfe]
      exact ho status ht
    · rw [hfe]
      exact hv.ge
    · rw [hfe]

/-- Earlier in the run, a rejecting feedback was accepted at revision `R`. -/
structure RejectedAt (lib : Library) (id : FastletID) (uid epoch : String) (p : Ref) (R : ℕ)
    (w : World InMemoryRegistry Task) : Prop where
  run : ∃ w₁ w₂ n now feedback, (system lib).Reaches (onePod id uid epoch) start w₁ ∧
    w₁.tasks[n]? = some (.feedbackAt p id feedback) ∧
    onePod id uid epoch w₁.shared (.feedbackAt p id feedback) now ∧
    (system lib).step w₁ (.run n now) = some w₂ ∧ w₁.shared.lookup id = some p ∧
    Rejects (w₁.shared.slots p) feedback R ∧ (system lib).Reaches (onePod id uid epoch) w₂ w

theorem RejectedAt.fenced {R : ℕ} (h : RejectedAt lib id uid epoch p R w) :
    w.shared.lookup id = some p ∧ Fenced epoch R (w.shared.slots p) := by
  obtain ⟨w₁, _, n, _, feedback, h₁, hn, ho, hs, hp, he, h₂⟩ := h.run
  have hr := h₁.run hn ho hs
  obtain ⟨t, _, _, _, _, hg, ha, -, rfl⟩ := step_run_cases hs
  rw [hn] at hg
  cases hg
  cases ha
  have hf : Fenced epoch R
      ((w₁.shared.modify p fun info => info.recordFeedback lib feedback).slots p) := by
    rw [slots_modify_self]
    exact fenced_of_rejects he (ho rfl).2
  exact slot_keeps (fun hok hR hm => (hm.spec hok).2.2 R hR) hr h₂ hp hf

/-- The snapshot a heartbeat or a feedback carries, and when it was observed. -/
def Task.snapshot : Task → Option (ResourceAdmissionStatus × Time)
  | .heartbeatAt _ _ _ heartbeat observedAt =>
    heartbeat.admission.resources.map fun status => (status, observedAt)
  | .feedbackAt _ _ feedback => feedback.status.map fun status => (status, feedback.observedAt)
  | _ => none

/-- The message leaves a rejection in force: a heartbeat if it is refused, if the stored snapshot
does not supersede the rejection, or if the rejection is over; a feedback, if it is accepted, in
addition only if it repeats the stored verdict, and also if it rejects itself. -/
def keepsRejection (info : FastletInfo) : Task → Prop
  | .heartbeatAt _ _ expectedPodUID heartbeat observedAt =>
    info.heartbeatError expectedPodUID heartbeat ≠ none ∨
      info.resourceRejectionCleared = false ∨ info.rejectedUntil ≤ observedAt
  | .feedbackAt _ _ feedback => ∀ status ∈ feedback.status,
    info.acceptsFeedback status feedback →
      info.verdict = some (status.state, status.reason) ∧
      (FastletInfo.penalizes feedback.code ∨ info.resourceRejectionCleared = false ∨
        info.rejectedUntil ≤ feedback.observedAt)
  | _ => True

/-- **Snapshots of one Pod and one epoch.** The stored revision never falls. Once a rejecting
feedback was accepted at revision `R`, a heartbeat or a feedback at a revision up to `R` leaves the
stored verdict, and `RejectedUntil` before its deadline, exactly under `keepsRejection`. -/
theorem snapshots_fenced (h : (system lib).Reaches (onePod id uid epoch) start w)
    (hp : w.shared.lookup id = some p) : (∀ w', (system lib).Reaches (onePod id uid epoch) w w' →
      w'.shared.lookup id = some p ∧ Later (w.shared.slots p) (w'.shared.slots p)) ∧
    ∀ R n now t w' status observedAt, RejectedAt lib id uid epoch p R w →
      w.tasks[n]? = some t → onePod id uid epoch w.shared t now →
      (system lib).step w (.run n now) = some w' → t.slot = some (p, id) →
      t.snapshot = some (status, observedAt) → status.revision ≤ R →
      (Undisturbed (w.shared.slots p) (w'.shared.slots p) observedAt ↔
        keepsRejection (w.shared.slots p) t) := by
  constructor
  · intro w' h'
    exact slot_keeps (fun hok ht hm => ht.trans (hm.spec hok).2.1) h h' hp (.of_eq rfl)
  intro R n now t w' status observedAt hr hn hon hst hl ha hle
  have hok := watched_of_reaches h p hp
  have hf := hr.fenced.2
  have ho := (placed_of_reaches h).task t (List.mem_of_getElem? hn)
  obtain ⟨_, _, _, _, _, hg, hd, -, rfl⟩ := step_run_cases hst
  rw [hn] at hg
  cases hg
  cases t with
  | heartbeatAt =>
    cases hl
    cases hd
    obtain ⟨status', hs, hi⟩ := map_eq_some_iff.mp ha
    cases hi
    rw [slots_modify_self]
    exact heartbeat_undisturbed_iff hf hs (hon rfl status hs) hle
  | feedbackAt =>
    cases hl
    cases hd
    obtain ⟨status', hs, hi⟩ := map_eq_some_iff.mp ha
    cases hi
    rw [slots_modify_self]
    obtain ⟨hu, he⟩ := hon rfl
    rw [feedback_undisturbed_iff hok hf hu ho.complete hs (he status hs) hle]
    constructor
    · intro hk status' hs'
      rw [mem_def, hs] at hs'
      cases hs'
      exact hk
    · exact fun hk => hk status hs
  | call | reserveAt | holding | releaseAt | upsertAt => cases ha

/-! ## A late heartbeat -/

/-- The Fastlet rejects a Create for want of capacity, at revision 2. -/
def sampleRejection : LocalFeedback where
  podUID := "pod-a"
  code := some .capacityRejected
  admission := some
    { capacity := 2, used := 2, resources := some { sampleStatus with revision := 2 } }
  observedAt := 10
  retryAfter := 100

/-- It is open again at revision 3, and refuses the next Create because its runtime is not
available. -/
def laterRejection : LocalFeedback where
  podUID := "pod-a"
  code := some .runtimeUnavailable
  admission := some { capacity := 2, resources := some { sampleStatus with revision := 3 } }
  observedAt := 20
  retryAfter := 100

/-- A heartbeat from before the first rejection, at revision 1. -/
def lateHeartbeat : HeartbeatResponse := { sampleHeartbeat with sequence := 2 }

/-- The first rejection has its slot. -/
def firstRejection : List (Event Call Time) :=
  sampleFastlet ++ [.spawn (.recordFeedback "fastlet-1" sampleRejection), .run 0 10]

/-- What the sample runs have in common: the first rejection is accepted, and a late heartbeat
is about to be applied. -/
structure LateHeartbeat (w₁ w₃ : World InMemoryRegistry Task) : Prop where
  rejection : w₁.tasks[0]? = some (.feedbackAt 0 "fastlet-1" sampleRejection)
  lookup : w₁.shared.lookup "fastlet-1" = some 0
  pod : (w₁.shared.slots 0).podUID = "pod-a"
  accepts : (w₁.shared.slots 0).acceptsFeedback
    { sampleStatus with revision := 2 } sampleRejection =
    true
  heartbeat : w₃.tasks[0]? = some (.heartbeatAt 0 "fastlet-1" "pod-a" lateHeartbeat 30)

instance (w₁ w₃ : World InMemoryRegistry Task) : Decidable (LateHeartbeat w₁ w₃) :=
  decidable_of_iff (_ ∧ _ ∧ _ ∧ _ ∧ _)
    ⟨fun ⟨h₁, h₂, h3, h4, h5⟩ => ⟨h₁, h₂, h3, h4, h5⟩,
      fun ⟨h₁, h₂, h3, h4, h5⟩ => ⟨h₁, h₂, h3, h4, h5⟩⟩

theorem LateHeartbeat.rejectedAt {w₁ w₂ w₃ : World InMemoryRegistry Task} (h : LateHeartbeat w₁ w₃)
    (h₁ : (system sampleLibrary).Reaches (onePod "fastlet-1" "pod-a" "epoch-1") start w₁)
    (hs : (system sampleLibrary).step w₁ (.run 0 11) = some w₂)
    (h₂ : (system sampleLibrary).Reaches (onePod "fastlet-1" "pod-a" "epoch-1") w₂ w₃) :
    (system sampleLibrary).Reaches (onePod "fastlet-1" "pod-a" "epoch-1") start w₃ ∧
      RejectedAt sampleLibrary "fastlet-1" "pod-a" "epoch-1" 0 2 w₃ ∧
      onePod "fastlet-1" "pod-a" "epoch-1" w₃.shared
        (.heartbeatAt 0 "fastlet-1" "pod-a" lateHeartbeat 30) 31 := by
  have ho : onePod "fastlet-1" "pod-a" "epoch-1" w₁.shared
      (.feedbackAt 0 "fastlet-1" sampleRejection) 11 := by
    unfold onePod
    decide
  refine ⟨(h₁.run h.rejection ho hs).trans h₂, ?_, ?_⟩
  · exact ⟨w₁, w₂, 0, 11, sampleRejection, h₁, h.rejection, ho, hs, h.lookup,
      ⟨h.pod, { sampleStatus with revision := 2 }, rfl, rfl, rfl, h.accepts⟩, h₂⟩
  · unfold onePod
    decide

/-- A late heartbeat that meets the rejection it was older than. -/
theorem late_heartbeat_kept : ∃ w w' : World InMemoryRegistry Task,
      (system sampleLibrary).step w (.run 0 31) = some w' ∧
      (w.shared.slots 0).rejectedUntil = 110 ∧
      Undisturbed (w.shared.slots 0) (w'.shared.slots 0) 30 := by
  obtain ⟨w₁, _, w₃, w₄, h₁, hs, h₂, hs', ht⟩ := exists_steps_of_runMeeting
    (S := system sampleLibrary) (G := onePod "fastlet-1" "pod-a" "epoch-1") (w := start)
    firstRejection (.run 0 11)
    [.spawn (.applyHeartbeat "fastlet-1" "pod-a" lateHeartbeat 30), .run 0 30] (.run 0 31)
    (fun w₁ w₃ _ => decide (LateHeartbeat w₁ w₃ ∧ w₃.shared.lookup "fastlet-1" = some 0 ∧
      (w₃.shared.slots 0).rejectedUntil = 110 ∧
      (w₃.shared.slots 0).resourceRejectionCleared = false)) (by decide +kernel)
  obtain ⟨hl, hp, hr, hc⟩ := of_decide_eq_true ht
  obtain ⟨h, ha, ho⟩ := hl.rejectedAt h₁ hs h₂
  exact ⟨w₃, w₄, hs', hr, ((snapshots_fenced h hp).2 2 0 31 _ w₄ sampleStatus 30 ha
    hl.heartbeat ho hs' rfl rfl (by decide)).mpr (.inr (.inl hc))⟩

/-- After the first rejection the Fastlet is open again at a later revision and rejects for another
reason: the late heartbeat lifts that rejection before its deadline. -/
theorem late_heartbeat_lifts_rejection :
    ¬ ∀ (lib : Library) (id : FastletID) (uid epoch : String) (w : World InMemoryRegistry Task)
      (p : Ref), (system lib).Reaches (onePod id uid epoch) start w →
      w.shared.lookup id = some p →
      (∀ w', (system lib).Reaches (onePod id uid epoch) w w' →
        w'.shared.lookup id = some p ∧ Later (w.shared.slots p) (w'.shared.slots p)) ∧
      ∀ R n now t w' status observedAt, RejectedAt lib id uid epoch p R w →
        w.tasks[n]? = some t → onePod id uid epoch w.shared t now →
        (system lib).step w (.run n now) = some w' → t.slot = some (p, id) →
        t.snapshot = some (status, observedAt) → status.revision ≤ R →
        Undisturbed (w.shared.slots p) (w'.shared.slots p) observedAt := by
  intro hal
  obtain ⟨w₁, _, w₃, w₄, h₁, hs, h₂, hs', ht⟩ := exists_steps_of_runMeeting
    (S := system sampleLibrary) (G := onePod "fastlet-1" "pod-a" "epoch-1") (w := start)
    firstRejection (.run 0 11)
    [.spawn (.recordFeedback "fastlet-1" laterRejection), .run 0 20, .run 0 21,
      .spawn (.applyHeartbeat "fastlet-1" "pod-a" lateHeartbeat 30), .run 0 30] (.run 0 31)
    (fun w₁ w₃ w₄ => decide (LateHeartbeat w₁ w₃ ∧ w₃.shared.lookup "fastlet-1" = some 0 ∧
      (w₃.shared.slots 0).rejectedUntil = 120 ∧ (w₄.shared.slots 0).rejectedUntil = 0))
    (by decide +kernel)
  obtain ⟨hl, hp, hb, ha⟩ := of_decide_eq_true ht
  obtain ⟨h, hat, ho⟩ := hl.rejectedAt h₁ hs h₂
  have hu := (hal sampleLibrary _ _ _ w₃ 0 h hp).2 2 0 31 _ w₄ sampleStatus 30 hat
    hl.heartbeat ho hs' rfl rfl (by decide)
  have hd := hu.deadline ha
  rw [hb] at hd
  exact absurd hd (by decide)

end FastSandbox.Placement
