import FastSandbox.Placement.Slots
import Mathlib.Algebra.Order.BigOperators.Group.Finset

/-!
# The ledger of reservations

A slot's in-flight count and resources stand for the outstanding reservations against its Pod. The
code finds the slot to release by its ID alone, so this holds as long as a reservation is made and
released at the registered slot of one and the same Pod, and no Pod comes back to a fresh slot
while reservations against it are outstanding.
-/

namespace FastSandbox.Placement

open Fastlet (Ref ComputeResources)
open Interleaving Finset List Nat

/-! ## The ledger of one slot -/

/-- What a demand adds to the resource ledger. -/
def counted (demand : ResourceDemand) : ResourceDemand :=
  if FastletInfo.demands demand then demand else 0

theorem counted_nonneg (demand : ResourceDemand) :
    0 ≤ (counted demand).cpu ∧ 0 ≤ (counted demand).memory := by
  unfold counted
  split_ifs with h
  · unfold FastletInfo.demands at h
    rw [Bool.and_eq_true, decide_eq_true_iff, decide_eq_true_iff] at h
    exact ⟨h.1.le, h.2.le⟩
  · exact ⟨le_refl 0, le_refl 0⟩

/-- The slot's ledger stands for the reservations `rs`. -/
structure Ledger (info : FastletInfo) (rs : Finset Reservation) : Prop where
  slots : info.inFlightSlots = rs.card
  cpu : info.inFlightResources.cpu = ∑ r ∈ rs, (counted r.demand).cpu
  memory : info.inFlightResources.memory = ∑ r ∈ rs, (counted r.demand).memory

variable {info info' : FastletInfo} {rs : Finset Reservation}

theorem Ledger.of_eq (h : Ledger info rs) (hl : info'.inFlightSlots = info.inFlightSlots)
    (he : info'.inFlightResources = info.inFlightResources) : Ledger info' rs where
  slots := hl.trans h.slots
  cpu := by rw [he, h.cpu]
  memory := by rw [he, h.memory]

theorem ledger_empty (hl : info.inFlightSlots = 0) (he : info.inFlightResources = 0) :
    Ledger info ∅ where
  slots := hl
  cpu := by
    rw [he]
    rfl
  memory := by
    rw [he]
    rfl

theorem reserveLocal_eq {demand : ResourceDemand} (h : info.reserveLocal demand = some info') :
    info'.podUID = info.podUID ∧ info'.inFlightSlots = info.inFlightSlots + 1 ∧
      info'.inFlightResources = info.inFlightResources + counted demand := by
  unfold FastletInfo.reserveLocal at h
  unfold counted
  dsimp only at h
  split_ifs at h with _ hd
  · cases h
    rw [if_pos hd]
    exact ⟨rfl, rfl, rfl⟩
  · cases h
    rw [if_neg hd]
    refine ⟨rfl, rfl, ?_⟩
    show info.inFlightResources = ⟨info.inFlightResources.cpu + 0,
      info.inFlightResources.memory + 0⟩
    rw [add_zero, add_zero]

variable {r : Reservation}

theorem Ledger.reserve (h : Ledger info rs) (hr : r ∉ rs)
    (hin : info.reserveLocal r.demand = some info') : Ledger info' (insert r rs) := by
  obtain ⟨-, hl, he⟩ := reserveLocal_eq hin
  constructor
  · rw [hl, h.slots, card_insert_of_notMem hr]
    rfl
  · rw [he, sum_insert hr, ← h.cpu]
    exact add_comm _ _
  · rw [he, sum_insert hr, ← h.memory]
    exact add_comm _ _

theorem Ledger.release (h : Ledger info rs) (hr : r ∈ rs) :
    Ledger (info.releaseLocal r.demand) (rs.erase r) := by
  -- one reservation is left, so the count is not stopped at zero
  have hc : rs.card = (rs.erase r).card + 1 := (card_erase_add_one hr).symm
  have he : (info.releaseLocal r.demand).inFlightResources.cpu =
        info.inFlightResources.cpu - (counted r.demand).cpu ∧
      (info.releaseLocal r.demand).inFlightResources.memory =
        info.inFlightResources.memory - (counted r.demand).memory := by
    unfold FastletInfo.releaseLocal counted
    dsimp only
    split_ifs
    · exact ⟨rfl, rfl⟩
    · exact ⟨(sub_zero _).symm, (sub_zero _).symm⟩
  constructor
  · have hpos : 0 < info.inFlightSlots := by
      rw [h.slots, hc]
      exact Int.natCast_pos.mpr (succ_pos _)
    show (if 0 < info.inFlightSlots then info.inFlightSlots - 1 else info.inFlightSlots) = _
    rw [if_pos hpos, h.slots, hc, cast_succ, add_sub_cancel_right]
  · rw [he.1, h.cpu, ← sum_erase_add rs _ hr, add_sub_cancel_right]
  · rw [he.2, h.memory, ← sum_erase_add rs _ hr, add_sub_cancel_right]

/-- Heartbeats and feedback leave the ledger and the Pod alone. -/
structure Untouched (info info' : FastletInfo) : Prop where
  podUID : info'.podUID = info.podUID
  slots : info'.inFlightSlots = info.inFlightSlots
  resources : info'.inFlightResources = info.inFlightResources

section

open FastletInfo

theorem Untouched.refl {info : FastletInfo} : Untouched info info := ⟨rfl, rfl, rfl⟩

theorem Untouched.trans {info info' info'' : FastletInfo} (h : Untouched info info')
    (h' : Untouched info' info'') : Untouched info info'' :=
  ⟨h'.podUID.trans h.podUID, h'.slots.trans h.slots, h'.resources.trans h.resources⟩

variable (lib : Library) (info : FastletInfo)

theorem untouched_applyAdmissionResources : Untouched info (info.applyAdmissionResources lib) := by
  unfold applyAdmissionResources
  split
  · exact .refl
  · split
    · split_ifs <;> exact ⟨rfl, rfl, rfl⟩
    · exact ⟨rfl, rfl, rfl⟩

theorem untouched_applyHeartbeatAdmission (incoming : AdmissionStatus)
    (observedAt : Time) : Untouched info (info.applyHeartbeatAdmission incoming observedAt) := by
  unfold applyHeartbeatAdmission
  split
  · split_ifs <;> exact ⟨rfl, rfl, rfl⟩
  · dsimp only
    split_ifs <;> exact ⟨rfl, rfl, rfl⟩

theorem untouched_applyCache (cache : CacheSnapshot) :
    Untouched info (info.applyCache lib cache) := by
  unfold applyCache
  split_ifs <;> exact ⟨rfl, rfl, rfl⟩

theorem untouched_clearRejection : Untouched info info.clearRejection := by
  unfold clearRejection
  split_ifs <;> exact ⟨rfl, rfl, rfl⟩

theorem untouched_applyHeartbeat (expectedPodUID : String)
    (heartbeat : HeartbeatResponse) (observedAt : Time) :
    Untouched info (info.applyHeartbeat lib expectedPodUID heartbeat observedAt).1 := by
  unfold applyHeartbeat
  split
  · exact ⟨rfl, rfl, rfl⟩
  · exact .refl
  refine Untouched.trans ?_ (untouched_clearRejection _)
  have hr : Untouched info (info.applyReadiness heartbeat) := ⟨rfl, rfl, rfl⟩
  have hd := untouched_applyHeartbeatAdmission (info.applyReadiness heartbeat)
    heartbeat.admission observedAt
  have he := untouched_applyAdmissionResources lib
    ((info.applyReadiness heartbeat).applyHeartbeatAdmission heartbeat.admission observedAt)
  have ha := ((hr.trans hd).trans he).trans (untouched_applyCache lib _ heartbeat.cache)
  exact ⟨ha.podUID, ha.slots, ha.resources⟩

theorem untouched_recordSandbox (sandbox : Option SandboxStatus) :
    Untouched info (info.recordSandbox sandbox) := by
  unfold recordSandbox
  split
  · exact .refl
  · split_ifs <;> exact ⟨rfl, rfl, rfl⟩

theorem untouched_settleRejection (feedback : LocalFeedback) :
    Untouched info (info.settleRejection feedback) := by
  unfold settleRejection
  split_ifs
  · exact ⟨rfl, rfl, rfl⟩
  · exact untouched_clearRejection info

theorem untouched_recordFeedback (feedback : LocalFeedback) :
    Untouched info (info.recordFeedback lib feedback) := by
  have he : ∀ info : FastletInfo,
      Untouched info ((info.recordSandbox feedback.sandbox).settleRejection feedback) :=
    fun info => (untouched_recordSandbox info _).trans (untouched_settleRejection _ feedback)
  unfold recordFeedback
  split_ifs
  · exact .refl
  split
  · exact he info
  rename_i incoming status _
  split_ifs
  · have ha : Untouched info (info.applyFeedbackAdmission incoming status feedback) :=
      ⟨rfl, rfl, rfl⟩
    exact (ha.trans (untouched_applyAdmissionResources lib _)).trans (he _)
  · exact .refl

end

/-! ## The registry's ledgers -/

namespace InMemoryRegistry

def against (s : InMemoryRegistry) (id : FastletID) (podUID : String) : Finset Reservation :=
  s.outstanding.filter fun r => r.id = id ∧ r.podUID = podUID

/-- No reservation against the Pod is outstanding. -/
def Clear (s : InMemoryRegistry) (id : FastletID) (podUID : String) : Prop :=
  s.against id podUID = ∅

instance (s : InMemoryRegistry) (id : FastletID) (podUID : String) :
    Decidable (s.Clear id podUID) :=
  inferInstanceAs (Decidable (s.against id podUID = ∅))

/-- The registered slots' ledgers stand for the outstanding reservations. -/
structure Valid (s : InMemoryRegistry) : Prop extends s.Placed where
  tokens : ∀ r ∈ s.outstanding, r.token < s.tokens
  ledger : ∀ id p, s.lookup id = some p → Ledger (s.slots p) (s.against id (s.slots p).podUID)

/-- No other slot is registered for the reservation's Pod. -/
def Bound (s : InMemoryRegistry) (p : Ref) (r : Reservation) : Prop :=
  ∀ q, s.lookup r.id = some q → (s.slots q).podUID = r.podUID → q = p

end InMemoryRegistry

open InMemoryRegistry

def Task.reservation : Task → Option Reservation
  | .holding r | .releaseAt _ r => some r
  | _ => none

/-- What a call knows about the slot it looked up, and about its reservation. -/
def TaskOk (s : InMemoryRegistry) : Task → Prop
  | .reserveAt p id _ => s.Held p id
  | .upsertAt p pod => s.Held p (fastletInfoFromPod pod).id
  | .holding r => r ∈ s.outstanding
  | .releaseAt p r => r ∈ s.outstanding ∧ s.Held p r.id ∧ s.Bound p r
  | _ => True

/-- Two calls never hold the same reservation. -/
def Apart (t u : Task) : Prop := ∀ r, t.reservation = some r → u.reservation ≠ some r

/-- **The condition.** Reservations are made at a registered slot, and released at a slot of the
Pod they were made against unless the slot was removed; and a slot takes up a Pod with an empty
ledger only while no reservation against that Pod is outstanding. -/
def ledgerUndisturbed (s : InMemoryRegistry) (t : Task) (_ : Time) : Prop :=
  match t with
  | .reserveAt p id _ => s.lookup id = some p
  | .releaseAt p r => s.lookup r.id = some p → (s.slots p).podUID = r.podUID
  | .call (.upsertPod pod) =>
    s.lookup (fastletInfoFromPod pod).id = none → s.Clear (fastletInfoFromPod pod).id ""
  | .upsertAt p pod => (s.slots p).podUID = pod.uid ∨ s.Clear (fastletInfoFromPod pod).id pod.uid
  | _ => True

instance (s : InMemoryRegistry) (t : Task) (now : Time) :
    Decidable (ledgerUndisturbed s t now) := by
  unfold ledgerUndisturbed
  rcases t with ⟨⟩
  case call q => rcases q with ⟨⟩ <;> infer_instance
  all_goals infer_instance

section Operations

variable {s s' : InMemoryRegistry} {p : Ref} {id : FastletID} {r : Reservation}
  {f : FastletInfo → FastletInfo}

theorem bound_modify (h : s.Bound p r) {q : Ref}
    (hf : (f (s.slots q)).podUID = (s.slots q).podUID) : (s.modify q f).Bound p r := by
  intro q' hq' hi
  by_cases heq : q' = q
  · subst heq
    rw [slots_modify_self, hf] at hi
    exact h q' hq' hi
  · rw [slots_modify_of_ne f heq] at hi
    exact h q' hq' hi

variable {podUID : String}

theorem not_clear_of_mem (hr : r ∈ s.outstanding) (hd : r.id = id) (hi : r.podUID = podUID) :
    ¬ s.Clear id podUID := by
  intro hl
  have he : r ∈ s.against id podUID := mem_filter.mpr ⟨hr, hd, hi⟩
  rw [hl] at he
  exact notMem_empty r he

theorem notMem_against (h : ¬ (r.id = id ∧ r.podUID = podUID)) :
    r ∉ s.against id podUID := fun he => h (mem_filter.mp he).2

theorem against_settle (r : Reservation) (id : FastletID) (podUID : String) :
    (s.settle r).against id podUID = (s.against id podUID).erase r := filter_erase _ _ _

theorem against_enter_self (r : Reservation) :
    (s.enter r).against r.id r.podUID = insert r (s.against r.id r.podUID) := by
  exact (filter_insert _ _ _).trans (if_pos ⟨rfl, rfl⟩)

theorem against_enter_of_ne (h : r.id ≠ id) :
    (s.enter r).against id podUID = s.against id podUID := by
  exact (filter_insert _ _ _).trans (if_neg fun heq => h heq.1)

variable {demand : ResourceDemand} {info : FastletInfo}

variable {pod : Pod}

theorem untouched_upsert (h : info.podUID = pod.uid) :
    Untouched info (info.upsert (fastletInfoFromPod pod)) := by
  have hne : info.podUID ≠ "" := h ▸ pod.uid_ne
  unfold FastletInfo.upsert
  rw [if_pos ⟨hne, h⟩]
  exact ⟨h.symm, rfl, rfl⟩

theorem upsert_of_ne (h : info.podUID ≠ pod.uid) :
    info.upsert (fastletInfoFromPod pod) = fastletInfoFromPod pod :=
  if_neg fun hm => h hm.2

section

variable (hs : s.Valid)
include hs

theorem valid_untouched (hf : Untouched (s.slots p) (f (s.slots p))) : (s.modify p f).Valid where
  known := hs.known
  single := hs.single
  tokens := hs.tokens
  ledger := by
    intro id q hq
    by_cases hp : q = p
    · subst hp
      rw [slots_modify_self, hf.podUID]
      exact (hs.ledger id q hq).of_eq hf.slots hf.resources
    · rw [slots_modify_of_ne f hp]
      exact hs.ledger id q hq

/-! ## One section -/

theorem valid_register (hl : s.Clear id "") : (s.register id).Valid where
  toPlaced := placed_register hs.toPlaced id
  tokens := hs.tokens
  ledger := by
    intro id' q hq
    by_cases hi : id' = id
    · rw [hi, lookup_register_self] at hq
      cases hq
      rw [hi, slots_register_self]
      have he : (s.register id).against id "" = ∅ := hl
      rw [he]
      exact ledger_empty rfl rfl
    · obtain ⟨hq', hne⟩ := lookup_of_register hs.toPlaced hi hq
      rw [slots_register_of_ne hne]
      exact hs.ledger id' q hq'

theorem valid_forget (id : FastletID) : (s.forget id).Valid where
  toPlaced := placed_forget hs.toPlaced id
  tokens := hs.tokens
  ledger id' q hq := hs.ledger id' q (lookup_of_forget hq)

theorem token_fresh (p : Ref) (id : FastletID) (demand : ResourceDemand) :
    s.reservation p id demand ∉ s.outstanding := fun h => lt_irrefl _ (hs.tokens _ h)

theorem valid_reserve (hp : s.lookup id = some p)
    (hin : (s.slots p).reserveLocal demand = some info) :
    ((s.modify p fun _ => info).enter (s.reservation p id demand)).Valid where
  known := hs.known
  single := hs.single
  tokens := by
    intro r hr
    rcases mem_insert.mp hr with rfl | hr
    · exact lt_succ_self _
    · exact (hs.tokens r hr).trans (lt_succ_self _)
  ledger := by
    intro id' q hq
    by_cases hqp : q = p
    · subst hqp
      have hi : id' = id := hs.single id' id q hq hp
      subst hi
      rw [slots_enter, slots_modify_self, (reserveLocal_eq hin).1]
      have hf : s.reservation q id' demand ∉ s.against id' (s.slots q).podUID :=
        fun he => token_fresh hs q id' demand (mem_filter.mp he).1
      have ha := against_enter_self (s := s.modify q fun _ => info) (s.reservation q id' demand)
      have hl := (hs.ledger id' q hq).reserve hf hin
      exact Eq.subst (motive := Ledger info) ha.symm hl
    · have hi : id ≠ id' := by
        rintro rfl
        have hq' : s.lookup id = some q := hq
        rw [hp] at hq'
        exact hqp (Option.some.inj hq').symm
      rw [slots_enter, slots_modify_of_ne _ hqp, against_enter_of_ne hi]
      exact hs.ledger id' q hq

theorem valid_release (hr : r ∈ s.outstanding) (hh : s.Held p r.id)
    (hb : s.Bound p r) (hp : s.lookup r.id = some p → (s.slots p).podUID = r.podUID) :
    ((s.modify p fun info => info.releaseLocal r.demand).settle r).Valid where
  known := hs.known
  single := hs.single
  tokens r' hr' := hs.tokens r' (mem_of_mem_erase hr')
  ledger := by
    intro id q hq
    have hq' : s.lookup id = some q := hq
    rw [against_settle, slots_settle]
    by_cases hqp : q = p
    · subst hqp
      have hd : id = r.id := hh.single id hq'
      subst hd
      rw [slots_modify_self]
      exact (hs.ledger r.id q hq').release (mem_filter.mpr ⟨hr, rfl, (hp hq').symm⟩)
    · rw [slots_modify_of_ne _ hqp]
      have hnot : r ∉ s.against id (s.slots q).podUID := by
        refine notMem_against ?_
        rintro ⟨rfl, hi⟩
        exact hqp (hb q hq' hi.symm)
      have hl := hs.ledger id q hq'
      rw [← erase_eq_of_notMem hnot] at hl
      exact hl

theorem valid_settle (hn : s.lookup r.id = none) : (s.settle r).Valid where
  known := hs.known
  single := hs.single
  tokens r' hr' := hs.tokens r' (mem_of_mem_erase hr')
  ledger := by
    intro id q hq
    have hq' : s.lookup id = some q := hq
    have hnot : r ∉ s.against id (s.slots q).podUID := by
      refine notMem_against ?_
      rintro ⟨rfl, -⟩
      rw [hn] at hq'
      cases hq'
    rw [against_settle, slots_settle, erase_eq_of_notMem hnot]
    exact hs.ledger id q hq'

theorem valid_upsert (hh : s.Held p (fastletInfoFromPod pod).id)
    (hl : (s.slots p).podUID = pod.uid ∨ s.Clear (fastletInfoFromPod pod).id pod.uid) :
    (s.modify p fun info => info.upsert (fastletInfoFromPod pod)).Valid := by
  by_cases hm : (s.slots p).podUID = pod.uid
  · exact valid_untouched hs (untouched_upsert hm)
  refine ⟨⟨hs.known, hs.single⟩, hs.tokens, fun id q hq => ?_⟩
  by_cases hp : q = p
  · subst hp
    have hi : id = (fastletInfoFromPod pod).id := hh.single id hq
    subst hi
    rw [slots_modify_self, upsert_of_ne hm]
    have he : s.against (fastletInfoFromPod pod).id pod.uid = ∅ := hl.resolve_left hm
    show Ledger _ (s.against (fastletInfoFromPod pod).id pod.uid)
    rw [he]
    exact ledger_empty rfl rfl
  · rw [slots_modify_of_ne _ hp]
    exact hs.ledger id q hq

end

/-! ## The other calls -/

variable {u : Task}

variable (hu : TaskOk s u)
include hu

theorem taskOk_frame (ho : ∀ r, u.reservation = some r → r ∈ s.outstanding → r ∈ s'.outstanding)
    (hh : ∀ p id, s.Held p id → s'.Held p id)
    (hb : ∀ p r, r ∈ s.outstanding → s.Bound p r → s'.Bound p r) : TaskOk s' u := by
  cases u with
  | call | heartbeatAt | feedbackAt => trivial
  | reserveAt p id => exact hh p id hu
  | holding r => exact ho r rfl hu
  | releaseAt p r => exact ⟨ho r rfl hu.1, hh p r.id hu.2.1, hb p r hu.1 hu.2.2⟩
  | upsertAt p => exact hh p _ hu

theorem frame_untouched (hf : Untouched (s.slots p) (f (s.slots p))) : TaskOk (s.modify p f) u :=
  taskOk_frame hu (fun _ _ hr => hr) (fun _ _ h => h.of_lookup le_rfl fun _ h => h)
    fun _ _ _ h => bound_modify h hf.podUID

theorem frame_settle (ha : u.reservation ≠ some r) : TaskOk (s.settle r) u := by
  refine taskOk_frame hu (fun _ hr' he => ?_) (fun _ _ h => h.of_lookup le_rfl fun _ h => h)
    fun _ _ _ h => h
  exact mem_erase.mpr ⟨fun heq => ha (heq ▸ hr'), he⟩

theorem frame_enter : TaskOk (s.enter r) u :=
  taskOk_frame hu (fun _ _ => mem_insert_of_mem)
    (fun _ _ h => h.of_lookup le_rfl fun _ h => h) fun _ _ _ h => h

theorem frame_forget : TaskOk (s.forget id) u :=
  taskOk_frame hu (fun _ _ h => h) (fun _ _ h => h.of_lookup le_rfl fun _ => lookup_of_forget)
    fun _ _ _ h q hq => h q (lookup_of_forget hq)

theorem frame_register (hs : s.Valid) (hl : s.Clear id "") : TaskOk (s.register id) u := by
  refine taskOk_frame hu (fun _ _ h => h) (fun _ _ h => held_register h id) ?_
  intro p r hr hb q hq hi
  by_cases hd : r.id = id
  · rw [hd, lookup_register_self] at hq
    cases hq
    rw [slots_register_self] at hi
    exact absurd hl (not_clear_of_mem hr hd hi.symm)
  · rw [lookup_register_of_ne hd] at hq
    rw [slots_register_of_ne (hs.known _ q hq).ne] at hi
    exact hb q hq hi

theorem frame_upsert (hh : s.Held p (fastletInfoFromPod pod).id)
    (hl : (s.slots p).podUID = pod.uid ∨ s.Clear (fastletInfoFromPod pod).id pod.uid) :
    TaskOk (s.modify p fun info => info.upsert (fastletInfoFromPod pod)) u := by
  by_cases hm : (s.slots p).podUID = pod.uid
  · exact frame_untouched hu (untouched_upsert hm)
  refine taskOk_frame hu (fun _ _ h => h) (fun _ _ h => h.of_lookup le_rfl fun _ h => h) ?_
  intro _ r hr hb q hq hi
  by_cases hp : q = p
  · -- the slot cannot have taken up the Pod of an outstanding reservation
    subst hp
    rw [slots_modify_self, upsert_of_ne hm] at hi
    exact absurd (hl.resolve_left hm) (not_clear_of_mem hr (hh.single r.id hq) hi.symm)
  · rw [slots_modify_of_ne _ hp] at hi
    exact hb q hq hi

theorem frame_reserve (hin : (s.slots p).reserveLocal demand = some info) :
    TaskOk ((s.modify p fun _ => info).enter r) u :=
  frame_enter <| taskOk_frame hu (fun _ _ h => h) (fun _ _ h => h.of_lookup le_rfl fun _ h => h)
    fun _ _ _ h => bound_modify h (reserveLocal_eq hin).1

theorem frame_release (ha : u.reservation ≠ some r) :
    TaskOk ((s.modify p fun info => info.releaseLocal r.demand).settle r) u :=
  frame_settle (taskOk_frame hu (fun _ _ h => h) (fun _ _ h => h.of_lookup le_rfl fun _ h => h)
    fun _ _ _ h => bound_modify h rfl) ha

end Operations

/-! ## Runs -/

variable {s s' : InMemoryRegistry} {t u : Task}

theorem taskOk_singleton (h : TaskOk s t) : ∀ t' ∈ [t], TaskOk s t' := by
  intro t' ht'
  rw [List.mem_singleton.mp ht']
  exact h

theorem step_local {lib : Library} {ts : List Task} {now : Time} (hs : s.Valid) (ht : TaskOk s t)
    (hg : ledgerUndisturbed s t now) (h : Step lib s t s' ts) :
    s'.Valid ∧ (∀ t' ∈ ts, TaskOk s' t') ∧ ts.Pairwise Apart := by
  cases h with
  | done => exact ⟨hs, forall_mem_nil _, .nil⟩
  | lookReserve id demand p hp | lookUpsert pod p hp =>
    exact ⟨hs, taskOk_singleton (held_of_lookup hs.toPlaced hp), pairwise_singleton _ _⟩
  | register pod hp =>
    have hs' := valid_register hs (hg hp)
    exact ⟨hs', taskOk_singleton (held_of_lookup hs'.toPlaced lookup_register_self),
      pairwise_singleton _ _⟩
  | forget id => exact ⟨valid_forget hs id, forall_mem_nil _, .nil⟩
  | lookHeartbeat | lookFeedback => exact ⟨hs, taskOk_singleton trivial, pairwise_singleton _ _⟩
  | reserve p id demand info hin =>
    exact ⟨valid_reserve hs hg hin, taskOk_singleton (mem_insert_self _ _), pairwise_singleton _ _⟩
  | releaseNone r hp => exact ⟨valid_settle hs hp, forall_mem_nil _, .nil⟩
  | lookRelease r p hp =>
    have hb : s.Bound p r := by
      intro q hq _
      rw [hp] at hq
      exact (Option.some.inj hq).symm
    exact ⟨hs, taskOk_singleton ⟨ht, held_of_lookup hs.toPlaced hp, hb⟩, pairwise_singleton _ _⟩
  | release => exact ⟨valid_release hs ht.1 ht.2.1 ht.2.2 hg, forall_mem_nil _, .nil⟩
  | upsert => exact ⟨valid_upsert hs ht hg, forall_mem_nil _, .nil⟩
  | heartbeat =>
    exact ⟨valid_untouched hs (untouched_applyHeartbeat lib _ _ _ _), forall_mem_nil _, .nil⟩
  | feedback =>
    exact ⟨valid_untouched hs (untouched_recordFeedback lib _ _), List.forall_mem_nil _, .nil⟩

theorem apart_of_none (h : t.reservation = none) : Apart t u := by
  intro r hr
  rw [h] at hr
  cases hr

theorem apart_singleton (h : Apart t u) : ∀ t' ∈ [t], Apart t' u := by
  intro t' ht'
  rw [List.mem_singleton.mp ht']
  exact h

theorem mem_of_reservation (hu : TaskOk s u) (h : u.reservation = some r) : r ∈ s.outstanding := by
  cases u with
  | holding =>
    cases h
    exact hu
  | releaseAt =>
    cases h
    exact hu.1
  | call | reserveAt | upsertAt | heartbeatAt | feedbackAt => cases h

theorem step_frame {lib : Library} {ts : List Task} {now : Time} (hs : s.Valid) (ht : TaskOk s t)
    (hu : TaskOk s u) (ha : Apart t u) (hg : ledgerUndisturbed s t now)
    (h : Step lib s t s' ts) : TaskOk s' u ∧ ∀ t' ∈ ts, Apart t' u := by
  cases h with
  | done => exact ⟨hu, forall_mem_nil _⟩
  | lookReserve | lookUpsert | lookHeartbeat | lookFeedback =>
    exact ⟨hu, apart_singleton (apart_of_none rfl)⟩
  | register pod hp => exact ⟨frame_register hu hs (hg hp), apart_singleton (apart_of_none rfl)⟩
  | forget => exact ⟨frame_forget hu, forall_mem_nil _⟩
  | reserve p id demand info hin =>
    refine ⟨frame_reserve hu hin, apart_singleton fun r hr hr' => ?_⟩
    -- the other call's reservation is older
    cases hr
    exact token_fresh hs p id demand (mem_of_reservation hu hr')
  | releaseNone r => exact ⟨frame_settle hu (ha r rfl), forall_mem_nil _⟩
  | lookRelease => exact ⟨hu, apart_singleton ha⟩
  | release p r => exact ⟨frame_release hu (ha r rfl), forall_mem_nil _⟩
  | upsert => exact ⟨frame_upsert hu ht hg, forall_mem_nil _⟩
  | heartbeat => exact ⟨frame_untouched hu (untouched_applyHeartbeat lib _ _ _ _), forall_mem_nil _⟩
  | feedback => exact ⟨frame_untouched hu (untouched_recordFeedback lib _ _), forall_mem_nil _⟩

theorem reservation_outline (lib : Library) :
    System.Outline (system lib) ledgerUndisturbed Valid TaskOk Apart where
  symm h r hu ht := h r ht hu
  entry_holds _ _ := trivial
  entry_compat _ _ := apart_of_none rfl
  local_step hs ht hg h := step_local hs ht hg (advance_step h)
  frame_step hs ht hu hc hg h := step_frame hs ht hu hc hg (advance_step h)

theorem valid_start : InMemoryRegistry.Valid {} where
  toPlaced := placed_start
  tokens _ h := absurd h (notMem_empty _)
  ledger _ _ h := nomatch h

/-- **The in-flight ledger.** In every run that does not disturb it, the ledger of a registered
slot is not negative, counts every outstanding reservation against the slot's Pod, and is empty
when there is none. -/
theorem inFlight_accounted {lib : Library} {w : World InMemoryRegistry Task}
    (h : (system lib).Reaches ledgerUndisturbed start w) {id : FastletID} {p : Ref}
    (hp : w.shared.lookup id = some p) : 0 ≤ (w.shared.slots p).inFlightResources.cpu ∧
      0 ≤ (w.shared.slots p).inFlightResources.memory ∧
      (w.shared.against id (w.shared.slots p).podUID).card ≤ (w.shared.slots p).inFlightSlots ∧
      (w.shared.against id (w.shared.slots p).podUID = ∅ →
        (w.shared.slots p).inFlightSlots = 0 ∧ (w.shared.slots p).inFlightResources = 0) := by
  have hs := ((reservation_outline lib).reaches (.start valid_start) h).inv
  have hl := hs.ledger id p hp
  refine ⟨?_, ?_, hl.slots.ge, fun hn => ?_⟩
  · rw [hl.cpu]
    exact sum_nonneg fun r _ => (counted_nonneg r.demand).1
  · rw [hl.memory]
    exact sum_nonneg fun r _ => (counted_nonneg r.demand).2
  · rw [hn] at hl
    exact ⟨hl.slots, congrArg₂ ComputeResources.mk hl.cpu hl.memory⟩

/-! ## Replacement of a Pod -/

/-- The Pod that takes the place of the first one. -/
def replacementPod : Pod where
  name := "fastlet-1"
  uid := "pod-b"
  uid_ne := by decide

/-- A Create holds a reservation at the first Pod. -/
def sampleReservation : List (Event Call Time) :=
  sampleFastlet ++ [.spawn (.create "fastlet-1" ⟨1, 1⟩), .run 0 3, .run 0 3]

/-- One reservation at a Pod that stays. -/
theorem inFlight_accounted_one :
    ∃ w : World InMemoryRegistry Task, (w.shared.against "fastlet-1" "pod-a").card = 1 ∧
      (1 : ℤ) ≤ (w.shared.slots 0).inFlightSlots := by
  obtain ⟨w, h, ht⟩ := System.exists_reaches_of_runMeeting (S := system sampleLibrary)
    (G := ledgerUndisturbed) (w := start) sampleReservation
    (fun w => decide (w.shared.lookup "fastlet-1" = some 0 ∧ (w.shared.slots 0).podUID = "pod-a" ∧
      (w.shared.against "fastlet-1" "pod-a").card = 1)) (by decide +kernel)
  obtain ⟨hp, hi, hc⟩ := of_decide_eq_true ht
  have ha := (inFlight_accounted h hp).2.2.1
  rw [hi, hc] at ha
  exact ⟨w, hc, ha⟩

/-- A Pod is replaced while a Create holds a reservation at it: the release is charged to the new
Pod. -/
theorem inFlight_negative : ¬ ∀ (lib : Library) (w : World InMemoryRegistry Task),
      (system lib).Reaches System.anyStep start w → ∀ id p, w.shared.lookup id = some p →
        0 ≤ (w.shared.slots p).inFlightResources.cpu ∧
        0 ≤ (w.shared.slots p).inFlightResources.memory ∧
        (w.shared.against id (w.shared.slots p).podUID).card ≤ (w.shared.slots p).inFlightSlots ∧
        (w.shared.against id (w.shared.slots p).podUID = ∅ →
          (w.shared.slots p).inFlightSlots = 0 ∧ (w.shared.slots p).inFlightResources = 0) := by
  intro ha
  obtain ⟨w, _, h, _, ht⟩ := System.exists_reaches_of_runs (S := system sampleLibrary)
    (w := start) (sampleReservation ++ [.spawn (.upsertPod replacementPod), .run 1 4, .run 1 4,
      .run 0 5, .run 0 5]) []
    (fun w _ => decide (w.shared.lookup "fastlet-1" = some 0 ∧
      (w.shared.slots 0).inFlightResources.cpu = -1)) (by decide +kernel)
  obtain ⟨hp, hc⟩ := of_decide_eq_true ht
  have hn := (ha sampleLibrary w h "fastlet-1" 0 hp).1
  rw [hc] at hn
  exact absurd hn (by decide)

end FastSandbox.Placement
