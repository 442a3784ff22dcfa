import FastSandbox.Network.Targets

/-!
# Reuse of addresses

An address is free when no slot in memory has it. It must stay in memory, or come back from a
file, for as long as a namespace with that address exists. `destroyFailedSlot` only logs the error
of a failed `Destroy`, after which `prepareOne` drops the reservation; this and the cases in which
a namespace outlives its file are excluded below.
-/

namespace FastSandbox.Network

open DataPlane (StringMap)
open Interleaving Finset

/-- The clean-up of a failed preparation succeeds, and slots are prepared only when every stored
slot whose namespace exists is in memory. -/
def CleansUp (s : State) (p : Place) (c : Choice) : Prop :=
  Named s p c ∧
    match p, c with
    | .discard _ _, .driver ok => ok
    | .prepareOne, .generated (some _) => ∀ id ∈ s.live, id ∈ s.files.keys → id ∈ s.slots.keys
    | _, _ => True

instance (s : State) (p : Place) (c : Choice) : Decidable (CleansUp s p c) := by
  unfold CleansUp
  rcases p with ⟨⟩
  case discard => rcases c with ⟨⟩ <;> infer_instance
  case prepareOne =>
    rcases c with ⟨⟩
    case generated id => rcases id with ⟨⟩ <;> infer_instance
    all_goals infer_instance
  all_goals infer_instance

/-- A crash finds a file for every namespace. -/
def Filed (s : State) : Prop := s.live ⊆ s.files.keys

instance : DecidablePred Filed := fun s => inferInstanceAs (Decidable (s.live ⊆ s.files.keys))

/-- Every namespace is in memory, in a file, or in the hands of the call that prepares it. -/
def Covered (s : State) : Prop :=
  ∀ id ∈ s.live, id ∈ s.slots.keys ∨ id ∈ s.files.keys ∨ s.preparing = some id

/-- The slot whose file or map entry a call is about to remove. -/
def Place.removes : Place → Option String
  | deleteFile id _ | forget id _ => some id
  | _ => none

/-- The slot of a failed preparation whose namespace has been destroyed. -/
def Place.dropped : Place → Option Slot
  | dropFile slot | unreserve slot _ => some slot
  | _ => none

/-- What is removed has no namespace, unless it is being prepared for a closed manager. -/
structure Removable (s : State) (p : Place) : Prop where
  removes : ∀ id, p.removes = some id → id ∉ s.live ∨ (s.preparing = some id ∧ s.closed)
  dropped : ∀ slot, p.dropped = some slot → slot.id ∉ s.live

section Addresses

variable {cfg : Config} {s s' : State} {p q : Place} {c : Choice} {ps : List Place}

variable {id : String}

theorem Place.removes_target (h : p.removes = some id) : id ∈ p.targets := by
  cases p <;> cases h <;> exact mem_insert_self _ _

variable {slot : Slot}

theorem Place.dropped_prep (h : p.dropped = some slot) : p.prep = some slot := by
  cases p <;> cases h <;> rfl

theorem Cont.after_removes (k : Cont) : k.after.removes = none := by
  cases k <;> rfl

theorem Cont.after_dropped (k : Cont) : k.after.dropped = none := by
  cases k <;> rfl

theorem Leads.removable (h : Leads s p q) : Removable s q := by
  have hn : q.removes = none ∧ q.dropped = none := by
    cases h with
    | absent _ _ hq | stuck _ hq =>
      rw [Cont.mem_next hq]
      exact ⟨Cont.after_removes _, Cont.after_dropped _⟩
    | _ => exact ⟨rfl, rfl⟩
  refine ⟨fun _ hi => ?_, fun slot hs => ?_⟩
  · rw [hn.1] at hi
    cases hi
  · rw [hn.2] at hs
    cases hs

theorem mem_keys_insert {m : StringMap Slot} {key : String} (h : id ∈ m.keys) :
    id ∈ (m.insert key slot).keys := by
  rw [keys_insert]
  exact mem_insert_of_mem h

variable {gone : String}

theorem mem_keys_erase {m : StringMap Slot} (hne : id ≠ gone) (h : id ∈ m.keys) :
    id ∈ (m.erase gone).keys := by
  rw [Finmap.keys_erase]
  exact mem_erase.mpr ⟨hne, h⟩

theorem mem_keys_save {w : Written} (h : id ∈ s.files.keys) : id ∈ (s.save slot w).files.keys := by
  simp only [State.save]
  split
  · exact mem_keys_insert h
  · exact h

theorem mem_keys_delete {w : Written} (hne : id ≠ gone) (h : id ∈ s.files.keys) :
    id ∈ (s.delete gone w).files.keys := by
  simp only [State.delete]
  split
  · exact mem_keys_erase hne h
  · exact h

theorem Covered.keep (h : Covered s) (hs : s.slots.keys ⊆ s'.slots.keys)
    (hf : ∀ {id : String}, id ∈ s.files.keys → id ∈ s'.files.keys) (hp : s'.preparing = s.preparing)
    (hl : ∀ {id : String}, id ∈ s'.live → id ∈ s.live ∨ s.preparing = some id) : Covered s' := by
  intro id hi
  rw [hp]
  rcases hl hi with hold | hr
  · rcases h id hold with he | he | he
    · exact .inl (hs he)
    · exact .inr (.inl (hf he))
    · exact .inr (.inr he)
  · exact .inr (.inr hr)

theorem Covered.remove (h : Covered s) (hg : gone ∈ s'.live → s'.preparing = some gone)
    (hs : ∀ {id : String}, id ≠ gone → id ∈ s.slots.keys → id ∈ s'.slots.keys)
    (hf : ∀ {id : String}, id ≠ gone → id ∈ s.files.keys → id ∈ s'.files.keys)
    (hp : ∀ {id : String}, id ≠ gone → s.preparing = some id → s'.preparing = some id)
    (hl : s'.live = s.live) : Covered s' := by
  intro id hi
  by_cases hne : id = gone
  · subst hne
    exact .inr (.inr (hg hi))
  rcases h id (hl ▸ hi) with he | he | he
  · exact .inl (hs hne he)
  · exact .inr (.inl (hf hne he))
  · exact .inr (.inr (hp hne he))

theorem Removable.of_none (he : p.removes = none) (hd : p.dropped = none) : Removable s p := by
  refine ⟨fun _ hi => ?_, fun slot hs => ?_⟩
  · rw [he] at hi
    cases hi
  · rw [hd] at hs
    cases hs

variable (turn : Turn cfg s p c s' ps)
include turn

theorem Turn.live (h : id ∈ s'.live) : id ∈ s.live ∨ ∃ slot, p = .prepare slot ∧ slot.id = id := by
  cases turn with
  | destroys => exact .inl (mem_of_mem_erase h)
  | prepares slot | spoils slot =>
    rcases mem_insert.mp h with rfl | hold
    · exact .inr ⟨slot, rfl, rfl⟩
    · exact .inl hold
  | discards =>
    split at h
    · exact .inl (mem_of_mem_erase h)
    · exact .inl h
  | _ => exact .inl h

theorem Turn.covered (hI : Ledger s) (hT : Placed s p)
    (hJ : Covered s) (hR : Removable s p) (hG : CleansUp s p c) : Covered s' := by
  have hs : ∀ {id : String}, id ∈ s.live → id ∈ s.live ∨ s.preparing = some id := .inl
  have hg : ∀ {id : String}, p.removes = some id → id ∈ s.live → s.preparing = some id := by
    intro id hi he
    rcases hR.removes id hi with hnot | ⟨hp, -⟩
    · exact absurd he hnot
    · exact hp
  cases turn with
  | inserts =>
    have hm := (hI.unused hG.1.1).1
    refine hJ.keep ?_ (fun h => h) rfl hs
    rw [hm, Finmap.keys_empty]
    exact empty_subset _
  | binds | marks | guests => exact hJ.keep (fun _ => mem_keys_insert) mem_keys_save rfl hs
  | strands | misses | saves | unsaved => exact hJ.keep (Finset.Subset.refl _) mem_keys_save rfl hs
  | destroys =>
    exact hJ.keep (Finset.Subset.refl _) (fun h => h) rfl fun h => .inl (mem_of_mem_erase h)
  | deletes id k | lingers id k =>
    exact hJ.remove (hg rfl) (fun _ h => h) mem_keys_delete (fun _ h => h) rfl
  | forgets => exact hJ.remove (hg rfl) mem_keys_erase (fun _ h => h) (fun _ h => h) rfl
  | @reserves id ip hf =>
    intro other hot
    rcases hJ other hot with he | he | he
    · exact .inl (mem_keys_insert he)
    · exact .inr (.inl he)
    · rw [hf] at he
      cases he
  | prepares slot | spoils slot =>
    refine hJ.keep (Finset.Subset.refl _) (fun h => h) rfl fun {id} h => ?_
    rcases mem_insert.mp h with rfl | hold
    · exact .inr (hT.prep slot rfl).1
    · exact .inl hold
  | publishes slot =>
    intro id hi
    rcases hJ id hi with he | he | he
    · exact .inl (mem_keys_insert he)
    · exact .inr (.inl he)
    rw [(hT.prep slot rfl).1] at he
    cases he
    refine .inl ?_
    show slot.id ∈ (s.slots.insert slot.id slot).keys
    rw [keys_insert]
    exact mem_insert_self _ _
  | discards =>
    refine hJ.keep (Finset.Subset.refl _) (fun h => h) rfl fun {id} h => .inl ?_
    split at h
    · exact mem_of_mem_erase h
    · exact h
  | drops slot =>
    exact hJ.remove (fun h => absurd h (hR.dropped slot rfl)) (fun _ h => h) mem_keys_delete
      (fun _ h => h) rfl
  | unreserves slot =>
    refine hJ.remove (fun h => absurd h (hR.dropped slot rfl)) mem_keys_erase (fun _ h => h) ?_ rfl
    intro id hne h
    rw [(hT.prep slot rfl).1] at h
    cases h
    exact absurd rfl hne
  | _ => exact hJ.keep (Finset.Subset.refl _) (fun h => h) rfl hs

theorem Turn.removable (hR : Removable s p) (hG : CleansUp s p c) : ∀ q ∈ ps, Removable s' q := by
  intro q hq
  have hn : ∀ {k : Cont} {ok : Bool}, q ∈ k.next ok → Removable s' q := by
    intro k ok he
    rw [Cont.mem_next he]
    exact .of_none (Cont.after_removes k) (Cont.after_dropped k)
  cases turn with
  | glances c hp hps => exact (hps q hq).removable
  | inserts hps =>
    rw [(hps q hq).1]
    exact .of_none rfl rfl
  | returns | binds | strands | guests => cases hq
  | misses | lingers | forgets => exact hn hq
  | destroys =>
    cases List.mem_singleton.mp hq
    refine ⟨fun id hi => ?_, fun slot' hs' => nomatch hs'⟩
    cases hi
    exact .inl (notMem_erase _ _)
  | deletes =>
    cases List.mem_singleton.mp hq
    exact ⟨fun id' hi' => hR.removes id' hi', fun slot' hs' => nomatch hs'⟩
  | discards slot raced ok hq0 =>
    have ho : ok := hG.2
    subst ho
    have hg : slot.id ∉ s.live.erase slot.id := notMem_erase _ _
    rcases hq0 with rfl | rfl <;> cases List.mem_singleton.mp hq <;>
      refine ⟨(fun id hi => nomatch hi), fun slot' hs' => ?_⟩ <;> cases hs' <;> exact hg
  | drops slot =>
    cases List.mem_singleton.mp hq
    refine ⟨(fun id hi => nomatch hi), fun slot' hs' => ?_⟩
    cases hs'
    exact hR.dropped slot rfl
  | unreserves slot more hps =>
    rw [hps q hq]
    exact .of_none rfl rfl
  | _ =>
    cases List.mem_singleton.mp hq
    exact .of_none rfl rfl

theorem Turn.preparing_ends : s'.preparing = s.preparing ∨ s.closed = false ∨ s.preparing = none ∨
      ∃ slot, p.dropped = some slot ∧ s'.live = s.live := by
  cases turn with
  | reserves hf => exact .inr (.inr (.inl hf))
  | publishes slot ho => exact .inr (.inl ho)
  | unreserves slot => exact .inr (.inr (.inr ⟨slot, rfl, rfl⟩))
  | _ => exact .inl rfl

theorem Turn.removable_frame (hT : Placed s p) (hC : Apart p q) (hl : Clear s q)
    (hR : Removable s p) (hQ : Removable s q) : Removable s' q := by
  refine ⟨fun id hi => ?_, fun slot hs hm => ?_⟩
  · have ht := Place.removes_target hi
    rcases hQ.removes id hi with hnot | ⟨he, hc⟩
    · by_cases hm : id ∈ s'.live
      · obtain hold | ⟨slot, rfl, rfl⟩ := turn.live hm
        · exact absurd hold hnot
        -- only `Close` destroys a slot whose namespace is still being prepared
        have he := (hT.prep slot rfl).1
        have hcl : q.closes := by
          by_contra ho
          exact hl.targets (Bool.eq_false_iff.mpr ho) _ ht he
        have hc := turn.closed (hl.closed hcl)
        rcases turn.preparing with heq | hp | hn
        · exact .inr ⟨heq.trans he, hc⟩
        · cases turn with
          | glances c hr => exact absurd hr hp
          | prepares | spoils => exact .inr ⟨he, hc⟩
        · rw [hn] at he
          cases he
      · exact .inl hm
    · rcases turn.preparing_ends with heq | ho | hn | ⟨slot, hs, hv⟩
      · exact .inr ⟨heq.trans he, turn.closed hc⟩
      · rw [hc] at ho
        cases ho
      · rw [hn] at he
        cases he
      have hsm := (hT.prep slot (Place.dropped_prep hs)).1
      rw [he] at hsm
      cases hsm
      rw [hv]
      exact .inl (hR.dropped slot hs)
  · obtain hold | ⟨_, rfl, -⟩ := turn.live hm
    · exact hQ.dropped slot hs hold
    · have hq := hC.resolve_left (by simp [Place.prep])
      rw [Place.dropped_prep hs] at hq
      cases hq

theorem Turn.new_address (hI : Ledger s) (hJ : Covered s) (hG : CleansUp s p c)
    {other : String} (hi : id ∈ s'.given) (hnew : id ∉ s.given)
    (hot : other ∈ s.live) : s'.address id ≠ s.address other := by
  cases turn with
  | @reserves key ip hr hrm hp hk =>
    have hk : id = key := (mem_insert.mp hi).resolve_right hnew
    subst hk
    have ha : (s.reserve (cfg.newSlot id ip)).address id = some ip := Function.update_self _ _ _
    have hm : other ∈ s.slots.keys := by
      rcases hJ other hot with hs | hf | he
      · exact hs
      · exact hG.2 other hot hf
      · rw [hr] at he
        cases he
    obtain ⟨_, hl⟩ := Finmap.mem_iff.mp (Finmap.mem_keys.mp hm)
    obtain ⟨-, -, ho⟩ := reserved_fits id hrm hp
    rw [ha, (hI.slots_given hl).2.2]
    exact (ho hl).symm
  | _ => exact absurd hi hnew

end Addresses

theorem covered_extension (cfg : Config) : System.Extension (manager cfg) CleansUp Ledger
      (fun s p => Placed s p ∧ Clear s p) Apart Covered Removable where
  entry_holds e _ _ := by
    refine .of_none ?_ ?_ <;> cases e <;> rfl
  local_step hI hT hJ hR hG ha :=
    ⟨(advance_turn ha).covered hI hT.1 hJ hR hG, (advance_turn ha).removable hR hG⟩
  frame_step _ hT hU hC _ hR hQ _ ha := (advance_turn ha).removable_frame hT.1 hC hU.2 hR hQ

theorem covered_outline (cfg : Config) :
    System.Outline (manager cfg) CleansUp (fun s => Ledger s ∧ Covered s)
      (fun s p => (Placed s p ∧ Clear s p) ∧ Removable s p) Apart :=
  (clear_outline cfg).extend (fun _ _ _ hG => hG.1) (covered_extension cfg)

abbrev Cleaned (cfg : Config) : Process State → Job Place Call → Choice → Prop :=
  (manager cfg).OnJobs CleansUp Filed

/-- **An address is given to a new slot** only when no namespace with that address exists. -/
theorem new_address_is_free {cfg : Config} {files : StringMap Slot}
    (hfiles : ∀ {id : String} {slot : Slot}, files.lookup id = some slot → slot.id = id)
    {w w' : World (Process State) (Job Place Call)} {ev : Event (Option Call) Choice}
    (h : (system cfg).Reaches (Cleaned cfg) (boot files) w)
    (ha : System.Allowed (Cleaned cfg) w ev) (hs : (system cfg).step w ev = some w')
    {id : String} (hid : id ∈ w'.shared.memory.given) (hnew : id ∉ w.shared.memory.given) :
    ∀ other ∈ w.shared.memory.live,
      w'.shared.memory.address id ≠ w.shared.memory.address other := by
  have ht : Ledger (.start files) ∧ Covered (.start files) :=
    ⟨ledger_start hfiles, fun id hid => .inr (.inl hid)⟩
  have hr : ∀ {s : State}, Filed s → Ledger s ∧ Covered s → Ledger s.reset ∧ Covered s.reset :=
    fun hf hI => ⟨hI.1.reset, fun id hid => .inr (.inl (hf hid))⟩
  have hw := holds_of_reaches (covered_outline cfg) hr ht h
  intro other ho
  obtain hm | hm | ⟨p, c, _, hd, -, hG⟩ := step_cases (covered_outline cfg) hw ha hs
  · rw [hm] at hid
    exact absurd hid hnew
  · rw [hm] at hid
    exact absurd hid hnew
  · exact (advance_turn hd).new_address hw.inv.1 hw.inv.2 hG hid hnew ho

/-- Acquired, released and replenished: the new slot gets the old address once it is free. -/
theorem released_address_returns : ∃ w w' ev,
    (system samplePod).Reaches (Cleaned samplePod) (boot ∅) w ∧
    (system samplePod).step w ev = some w' ∧ "b" ∈ w'.shared.memory.given ∧
    w'.shared.memory.address "b" = w'.shared.memory.address "a" ∧ ∀ other ∈ w.shared.memory.live,
      w'.shared.memory.address "b" ≠ w.shared.memory.address other := by
  obtain ⟨w, w', hr, ha, hs, ht⟩ := System.exists_step_of_runMeeting
    (S := system samplePod) (G := Cleaned samplePod) (w := boot ∅)
    ([.spawn (some .replenish), .run 0 .go] ++ (preparing 0 "a").dropLast ++
      [.spawn (some (.acquire (sampleOwner "u"))), .run 1 (.acquired none .ok),
        .spawn (some (.release (sampleOwner "u"))), .run 1 (.found (some "a")),
        .run 1 (.store .ok), .run 1 .go, .run 1 (.driver true), .run 1 (.store .ok), .run 1 .go,
        .run 0 .go])
    0 (.generated (some "b"))
    (fun w w' => decide ("b" ∉ w.shared.memory.given ∧ "b" ∈ w'.shared.memory.given ∧
      w'.shared.memory.address "b" = w'.shared.memory.address "a")) (by decide)
  obtain ⟨hnew, hi, heq⟩ := of_decide_eq_true ht
  refine ⟨w, w', .run 0 (.generated (some "b")), hr, hs, hi, heq, ?_⟩
  refine new_address_is_free (fun hl => ?_) hr ha hs hi hnew
  rw [Finmap.lookup_empty] at hl
  cases hl

/-- A prepared slot cannot be saved, and its namespace cannot be destroyed: the next slot gets the
address of that namespace. -/
theorem leaked_address_reused : ∃ w w' ev, (system samplePod).Reaches System.anyStep (boot ∅) w ∧
    (system samplePod).step w ev = some w' ∧ "b" ∉ w.shared.memory.given ∧
    "b" ∈ w'.shared.memory.given ∧ "a" ∈ w.shared.memory.live ∧
    w'.shared.memory.address "b" = w.shared.memory.address "a" := by
  obtain ⟨w, w', hr, hs, ht⟩ := System.exists_step_of_run
    (S := system samplePod) (w := boot ∅)
    [.spawn (some .replenish), .run 0 .go, .run 0 (.generated (some "a")), .run 0 (.driver true),
      .run 0 (.store (.failed false)), .run 0 (.driver false), .run 0 .go,
      .spawn (some .replenish), .run 0 .go]
    (.run 0 (.generated (some "b")))
    (fun w w' => decide ("b" ∉ w.shared.memory.given ∧ "b" ∈ w'.shared.memory.given ∧
      "a" ∈ w.shared.memory.live ∧
      w'.shared.memory.address "b" = w.shared.memory.address "a")) (by decide)
  exact ⟨w, w', _, hr, hs, of_decide_eq_true ht⟩

end FastSandbox.Network
