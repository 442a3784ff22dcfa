import FastSandbox.Placement.Registry

/-!
# Slots and their IDs

A slot is registered under one ID, and a call that looked a slot up works on a slot of its own ID
for as long as it runs, registered or not.
-/

namespace FastSandbox.Placement

open Fastlet (Ref)
open Function Interleaving List Nat

namespace InMemoryRegistry

/-- Registered slots exist, and each under one ID only. -/
structure Placed (s : InMemoryRegistry) : Prop where
  known : ∀ id p, s.lookup id = some p → p < s.next
  single : ∀ id id' p, s.lookup id = some p → s.lookup id' = some p → id = id'

/-- The slot was looked up under the ID. -/
structure Held (s : InMemoryRegistry) (p : Ref) (id : FastletID) : Prop where
  known : p < s.next
  single : ∀ id', s.lookup id' = some p → id' = id

end InMemoryRegistry

section

variable {s s' : InMemoryRegistry} {p : Ref} {id : FastletID} {r : Reservation}

theorem lookup_register_self : (s.register id).lookup id = some s.next := AList.lookup_insert _

variable {id' : FastletID}

theorem lookup_register_of_ne (h : id' ≠ id) :
    (s.register id).lookup id' = s.lookup id' := AList.lookup_insert_ne h

theorem lookup_forget_self : (s.forget id).lookup id = none := AList.lookup_erase _ _

theorem lookup_forget_of_ne (h : id' ≠ id) :
    (s.forget id).lookup id' = s.lookup id' := AList.lookup_erase_ne h

theorem lookup_of_forget (h : (s.forget id).lookup id' = some p) : s.lookup id' = some p := by
  by_cases hi : id' = id
  · rw [hi, lookup_forget_self] at h
    cases h
  · rwa [lookup_forget_of_ne hi] at h

theorem slots_modify_self (f : FastletInfo → FastletInfo) :
    (s.modify p f).slots p = f (s.slots p) := update_self _ _ _

theorem slots_modify_of_ne {q : Ref} (f : FastletInfo → FastletInfo) (h : q ≠ p) :
    (s.modify p f).slots q = s.slots q := update_of_ne h _ _

theorem slots_register_self : (s.register id).slots s.next = {} := update_self _ _ _

theorem slots_register_of_ne {q : Ref} (h : q ≠ s.next) :
    (s.register id).slots q = s.slots q := update_of_ne h _ _

theorem slots_enter : (s.enter r).slots = s.slots := rfl

theorem slots_settle : (s.settle r).slots = s.slots := rfl

theorem InMemoryRegistry.Held.of_lookup (h : s.Held p id) (hn : s.next ≤ s'.next)
    (hl : ∀ id', s'.lookup id' = some p → s.lookup id' = some p) : s'.Held p id :=
  ⟨h.known.trans_le hn, fun id' hi => h.single id' (hl id' hi)⟩

theorem held_register (h : s.Held p id) (id' : FastletID) : (s.register id').Held p id := by
  refine h.of_lookup (le_succ _) fun id'' hi => ?_
  by_cases heq : id'' = id'
  · -- the new slot is none that was looked up before
    rw [heq, lookup_register_self] at hi
    exact absurd (Option.some.inj hi).symm h.known.ne
  · rwa [lookup_register_of_ne heq] at hi

theorem held_of_lookup (hs : s.Placed) (h : s.lookup id = some p) : s.Held p id :=
  ⟨hs.known id p h, fun id' h' => hs.single id' id p h' h⟩

theorem lookup_of_register (hs : s.Placed) (hi : id' ≠ id)
    (h : (s.register id).lookup id' = some p) : s.lookup id' = some p ∧ p ≠ s.next := by
  rw [lookup_register_of_ne hi] at h
  exact ⟨h, (hs.known id' p h).ne⟩

theorem placed_register (hs : s.Placed) (id : FastletID) : (s.register id).Placed := by
  constructor
  · intro id' q hq
    by_cases hi : id' = id
    · rw [hi, lookup_register_self] at hq
      cases hq
      exact lt_succ_self _
    · exact (hs.known id' q (lookup_of_register hs hi hq).1).trans (lt_succ_self _)
  · intro id1 id2 q h1 h2
    by_cases hi1 : id1 = id <;> by_cases hi2 : id2 = id
    · rw [hi1, hi2]
    · rw [hi1, lookup_register_self] at h1
      cases h1
      exact absurd rfl (lookup_of_register hs hi2 h2).2
    · rw [hi2, lookup_register_self] at h2
      cases h2
      exact absurd rfl (lookup_of_register hs hi1 h1).2
    · exact hs.single id1 id2 q (lookup_of_register hs hi1 h1).1 (lookup_of_register hs hi2 h2).1

theorem placed_forget (hs : s.Placed) (id : FastletID) : (s.forget id).Placed where
  known id' q hq := hs.known id' q (lookup_of_forget hq)
  single id1 id2 q h1 h2 := hs.single id1 id2 q (lookup_of_forget h1) (lookup_of_forget h2)

end

/-! ## Calls and their slots -/

/-- The slot a call looked up, and the ID it looked for. -/
def Task.slot : Task → Option (Ref × FastletID)
  | .reserveAt p id _ | .heartbeatAt p id .. | .feedbackAt p id _ => some (p, id)
  | .releaseAt p r => some (p, r.id)
  | .upsertAt p pod => some (p, (fastletInfoFromPod pod).id)
  | .call _ | .holding _ => none

/-- The defaults of a feedback are filled in before it looks for its slot. -/
def Task.Complete : Task → Prop
  | .feedbackAt _ _ feedback => 0 < feedback.retryAfter
  | _ => True

/-- The call works on a slot of its own ID, and its defaults are filled in. -/
structure Pointed (s : InMemoryRegistry) (t : Task) : Prop where
  held : ∀ p id, t.slot = some (p, id) → s.Held p id
  complete : t.Complete

theorem retryAfter_complete (feedback : LocalFeedback) (now : Time) :
    0 < (feedback.complete now).retryAfter := by
  unfold LocalFeedback.complete
  dsimp only
  split_ifs with h
  · norm_num
  · exact not_le.mp h

variable {s s' : InMemoryRegistry} {t : Task}

theorem pointed_of_slot {p : Ref} {id : FastletID} (hs : t.slot = some (p, id))
    (hh : s.Held p id) (ho : t.Complete) : ∀ t' ∈ [t], Pointed s t' := by
  intro t' ht'
  rw [mem_singleton.mp ht']
  refine ⟨fun _ _ h => ?_, ho⟩
  rw [hs] at h
  cases h
  exact hh

theorem pointed_of_none (h : t.slot = none) : Pointed s t where
  held p id hs := by
    rw [h] at hs
    cases hs
  complete := by
    cases t with
    | feedbackAt => cases h
    | call | reserveAt | holding | releaseAt | upsertAt | heartbeatAt => trivial

theorem step_pointed {lib : Library} {ts : List Task} (hs : s.Placed) (h : Step lib s t s' ts) :
    s'.Placed ∧ ∀ t' ∈ ts, Pointed s' t' := by
  cases h with
  | done => exact ⟨hs, forall_mem_nil _⟩
  | lookReserve id demand p hp | lookUpsert pod p hp | lookRelease r p hp
  | lookHeartbeat id _ _ _ p hp => exact ⟨hs, pointed_of_slot rfl (held_of_lookup hs hp) trivial⟩
  | register pod =>
    have hs' := placed_register hs (fastletInfoFromPod pod).id
    exact ⟨hs', pointed_of_slot rfl (held_of_lookup hs' lookup_register_self) trivial⟩
  | forget id => exact ⟨placed_forget hs id, forall_mem_nil _⟩
  | lookFeedback id feedback now p hp =>
    exact ⟨hs, pointed_of_slot rfl (held_of_lookup hs hp) (retryAfter_complete feedback now)⟩
  | reserve =>
    refine ⟨⟨hs.known, hs.single⟩, fun t' ht' => ?_⟩
    rw [mem_singleton.mp ht']
    exact pointed_of_none rfl
  | releaseNone | release | upsert | heartbeat | feedback =>
    exact ⟨⟨hs.known, hs.single⟩, forall_mem_nil _⟩

theorem step_held {lib : Library} {ts : List Task} {p : Ref} {id : FastletID}
    (h : Step lib s t s' ts) (hh : s.Held p id) : s'.Held p id := by
  cases h with
  | register => exact held_register hh _
  | forget => exact hh.of_lookup le_rfl fun _ => lookup_of_forget
  | done | lookReserve | lookUpsert | lookHeartbeat | lookFeedback | lookRelease => exact hh
  | reserve | releaseNone | release | upsert | heartbeat | feedback => exact ⟨hh.known, hh.single⟩

theorem placement_outline (lib : Library) :
    System.Outline (system lib) System.anyStep InMemoryRegistry.Placed Pointed
      (fun _ _ => True) where
  symm _ := trivial
  entry_holds _ _ := pointed_of_none rfl
  entry_compat _ _ := trivial
  local_step hs _ _ h := by
    obtain ⟨hs', ht⟩ := step_pointed hs (advance_step h)
    exact ⟨hs', ht, pairwise_of_forall fun _ _ => trivial⟩
  frame_step _ _ hu _ _ h :=
    ⟨⟨fun p id hl => step_held (advance_step h) (hu.held p id hl), hu.complete⟩, fun _ _ => trivial⟩

theorem placed_start : InMemoryRegistry.Placed {} where
  known _ _ h := nomatch h
  single _ _ _ h := nomatch h

/-! ## A Fastlet with two slots -/

def sampleLibrary : Library where
  parseQuantity text := if text = "4" then some 4 else if text = "0" then some 0 else none
  normalizeInventory images := images

def samplePod : Pod where
  name := "fastlet-1"
  uid := "pod-a"
  uid_ne := by decide

def sampleStatus : ResourceAdmissionStatus where
  version := "v2"
  epoch := "epoch-1"
  revision := 1
  capacity := ⟨"4", "4"⟩
  committed := ⟨"0", "0"⟩
  state := .open
  reason := .unset

def sampleHeartbeat : HeartbeatResponse where
  fastletPodUID := "pod-a"
  admission := { capacity := 2, resources := some sampleStatus }
  sequence := 1
  cache := { epoch := "cache-1", revision := 1 }

/-- The Pod is known, and its first heartbeat was applied. -/
def sampleFastlet : List (Event Call Time) :=
  [.spawn (.upsertPod samplePod), .run 0 1, .run 0 1,
    .spawn (.applyHeartbeat "fastlet-1" "pod-a" sampleHeartbeat 2), .run 0 2, .run 0 2]

/-! ## Calls keep to their Fastlet -/

/-- The Fastlet a call is about. -/
def Task.target : Task → FastletID
  | .call (.create id _) | .call (.removeIfPodUID id _) | .call (.applyHeartbeat id ..)
  | .call (.recordFeedback id _) | .reserveAt _ id _ | .heartbeatAt _ id ..
  | .feedbackAt _ id _ => id
  | .call (.upsertPod pod) | .upsertAt _ pod => (fastletInfoFromPod pod).id
  | .holding r | .releaseAt _ r => r.id

section

variable {lib : Library} {id : FastletID} {p : Ref}

theorem step_apart {ts : List Task} (hs : s.Placed) (ht : Pointed s t) (h : Step lib s t s' ts)
    (hp : s.lookup id = some p) (hi : t.target ≠ id) :
    s'.lookup id = some p ∧ s'.slots p = s.slots p := by
  have hq : ∀ q id', t.slot = some (q, id') → id' ≠ id → p ≠ q := by
    rintro q id' hl hne rfl
    exact hne ((ht.held p id' hl).single id hp).symm
  cases h with
  | register =>
    exact ⟨(lookup_register_of_ne hi.symm).trans hp, slots_register_of_ne (hs.known id p hp).ne⟩
  | forget => exact ⟨(lookup_forget_of_ne hi.symm).trans hp, rfl⟩
  | reserve | release | upsert | heartbeat | feedback =>
    exact ⟨hp, update_of_ne (hq _ _ rfl hi) _ _⟩
  | _ => exact ⟨hp, rfl⟩

/-- **Calls keep to their Fastlet.** However long ago they looked their slot up, and whatever was
removed and registered since, they leave the slot of every other Fastlet as it is. -/
theorem others_undisturbed {w w' : World InMemoryRegistry Task}
    (h : (system lib).Reaches System.anyStep start w) (hp : w.shared.lookup id = some p)
    (hr : (system lib).Reaches (fun _ t _ => t.target ≠ id) w w') :
    w'.shared.lookup id = some p ∧ w'.shared.slots p = w.shared.slots p := by
  induction hr with
  | refl => exact ⟨hp, rfl⟩
  | @tail w1 w2 ev hr ha hs ih =>
    have hw := (placement_outline lib).reaches (.start placed_start)
      (h.trans (hr.mono fun _ _ _ _ => trivial))
    cases ev with
    | spawn =>
      cases hs
      exact ih
    | run =>
      obtain ⟨t, _, _, _, _, hg, hd, -, rfl⟩ := System.step_run_cases hs
      have hf := step_apart hw.inv (hw.task t (mem_of_getElem? hg)) (advance_step hd) ih.1 (ha t hg)
      exact ⟨hf.1, hf.2.trans ih.2⟩

end

/-- A second Fastlet is registered and removed again. -/
theorem second_fastlet_apart : ∃ w w' : World InMemoryRegistry Task,
    w.shared.lookup "fastlet-1" = some 0 ∧ w'.shared.slots 0 = w.shared.slots 0 := by
  obtain ⟨w, h, ht⟩ := System.exists_reaches_of_run (S := system sampleLibrary) (w := start)
    sampleFastlet (fun w => decide (w.shared.lookup "fastlet-1" = some 0) &&
      ((system sampleLibrary).runMeeting (fun _ t _ => t.target ≠ "fastlet-1") w
        [.spawn (.upsertPod { samplePod with name := "fastlet-2" }), .run 0 3,
          .spawn (.removeIfPodUID "fastlet-2" ""), .run 1 3, .run 0 4]).isSome) (by decide)
  obtain ⟨hl, hs⟩ := Bool.and_eq_true_iff.mp ht
  obtain ⟨w', hw⟩ := Option.isSome_iff_exists.mp hs
  have hp := of_decide_eq_true hl
  exact ⟨w, w', hp, (others_undisturbed h hp (System.reaches_of_runMeeting hw)).2⟩

end FastSandbox.Placement
