import FastSandbox.Network.Targets

/-!
# Acquire and the destruction of slots

`Reconcile`, `Release` and `Initialize` mark a slot as Destroying before they call the driver's
`Destroy`, so `Acquire` passes it over. `Close` destroys slots in whatever phase they are, and
`Acquire` does not look at whether the manager is closed.
-/

namespace FastSandbox.Network

open DataPlane (StringMap)
open Interleaving List Bool

/-- A slot that `Acquire` may return to the owner: a Clean one, or one that is the owner's. -/
def Slot.givenTo (owner : Owner) (slot : Slot) : Bool :=
  slot.phase = .clean ∨ State.boundExactly owner slot

/-- An `Acquire` that comes after `Close` has begun meets no slot that it could return. -/
def AcquiresOpen (s : State) (p : Place) (c : Choice) : Prop :=
  Named s p c ∧
    match p with
    | .acquire owner => s.closed → s.finds (Slot.givenTo owner) none
    | _ => True

instance (s : State) (p : Place) (c : Choice) : Decidable (AcquiresOpen s p c) := by
  unfold AcquiresOpen
  split <;> infer_instance

/-- Memory shows the slot as Destroying, if it shows it at all. -/
def Down (s : State) (id : String) : Prop :=
  ∀ slot, s.slots.lookup id = some slot → slot.phase = .destroying

/-- A slot on which `Destroy` was called is Destroying, or the manager is closed. -/
def TornDown (s : State) : Prop := ∀ id ∈ s.torn, id ∈ s.given ∧ (Down s id ∨ s.closed)

/-- The slot of a preparation that may still be published. -/
def Place.rising : Place → Option Slot
  | prepare slot | saveClean slot | publish slot => some slot
  | _ => none

/-- The slot that a call other than `Close` is about to destroy. -/
def Place.condemned : Place → Option String
  | readSlot id k => if k.closes then none else some id
  | _ => none

structure Doomed (s : State) (p : Place) : Prop where
  rising : ∀ slot, p.rising = some slot → slot.id ∉ s.torn ∨ s.closed
  condemned : ∀ id, p.condemned = some id → Down s id

section Teardown

variable {cfg : Config} {s s' : State} {p q : Place} {c : Choice} {ps : List Place}

theorem Place.rising_prep {slot : Slot} (h : p.rising = some slot) : p.prep = some slot := by
  cases p <;> cases h <;> rfl

variable {id : String}

theorem Place.condemned_target (h : p.condemned = some id) : id ∈ p.targets ∧ p.closes = false := by
  cases p with
  | readSlot key k =>
    simp only [Place.condemned] at h
    split at h
    · cases h
    · rename_i hl
      cases h
      exact ⟨Finset.mem_insert_self _ _, eq_false_iff.mpr hl⟩
  | _ => cases h

theorem Down.insert {slot : Slot} (h : Down s id)
    (hs : slot.id = id → slot.phase = .destroying) {other : Slot}
    (hl : (s.slots.insert slot.id slot).lookup id = some other) : other.phase = .destroying := by
  obtain ⟨rfl, rfl⟩ | ⟨-, hold⟩ := lookup_insert_cases hl
  · exact hs rfl
  · exact h other hold

theorem Cont.after_rising (k : Cont) : k.after.rising = none := by
  cases k <;> rfl

theorem Cont.after_condemned (k : Cont) : k.after.condemned = none := by
  cases k <;> rfl

theorem Doomed.of_none (hr : p.rising = none) (ho : p.condemned = none) : Doomed s p := by
  refine ⟨fun _ hs => ?_, fun id hi => ?_⟩
  · rw [hr] at hs
    cases hs
  · rw [ho] at hi
    cases hi

theorem Doomed.readSlot (k : Cont) (h : Down s id) : Doomed s (.readSlot id k) := by
  refine ⟨nofun, fun id' hi' => ?_⟩
  simp only [Place.condemned] at hi'
  split at hi'
  · cases hi'
  · cases hi'
    exact h

theorem Leads.doomed (h : Leads s p q) : Doomed s q := by
  cases h with
  | @interrupted slot rest hp =>
    refine .readSlot _ fun other hl => ?_
    rw [State.current, hl, Option.getD_some] at hp
    exact hp
  | @marked id slot k hk hp =>
    refine .readSlot _ fun other hl => ?_
    rw [hk] at hl
    cases hl
    exact hp
  | absent _ _ hq | stuck _ hq =>
    rw [Cont.mem_next hq]
    exact .of_none (Cont.after_rising _) (Cont.after_condemned _)
  | _ => exact .of_none rfl rfl

/-- Where `Acquire` may return the slot it meets, `Close` has not begun. -/
theorem AcquiresOpen.open {owner : Owner} {slot : Slot} (hG : AcquiresOpen s (.acquire owner) c)
    (hl : s.slots.lookup id = some slot) (hg : slot.givenTo owner) : s.closed = false := by
  by_contra hc
  have hn := State.finds_none (hG.2 (eq_true_of_not_eq_false hc)) rfl hl
  rw [hg] at hn
  cases hn

variable (turn : Turn cfg s p c s' ps)
include turn

/-- A slot that is Destroying stays so until it is removed, unless it is under preparation. -/
theorem Turn.down (hI : Ledger s) (hG : Orderly s p c)
    (h : Down s id) (hg : id ∈ s.given) (hs : s.used)
    (hu : ∀ slot, p = .publish slot → s.closed = false → slot.id ≠ id) : Down s' id := by
  have he : ∀ {gone : String}, ∀ slot, (s.slots.erase gone).lookup id = some slot →
      slot.phase = .destroying := fun slot hl => h slot (lookup_erase_cases hl).2
  cases turn with
  | inserts =>
    have hn : s.used = false := hG
    rw [hs] at hn
    cases hn
  | @binds key slot owner found hv hnn hlk hp =>
    refine fun other hl => h.insert (fun heq => ?_) hl
    have hk : key = id := (hI.slots_given hlk).1.symm.trans heq
    subst hk
    rw [h slot hlk] at hp
    cases hp
  | @guests applied current w hlk hb =>
    refine fun other hl => h.insert (fun heq => ?_) hl
    subst heq
    have hp := (of_decide_eq_true hb).1
    rw [h current hlk] at hp
    cases hp
  | marks | reserves => exact fun other hl => h.insert (fun _ => rfl) hl
  | forgets | unreserves => exact he
  | publishes slot ho => exact fun other hl => h.insert (fun heq => absurd heq (hu slot rfl ho)) hl
  | _ => exact h

/-- `Destroy` is called on a slot that a call has condemned, that `Close` takes from the map, or
whose preparation is being discarded. -/
theorem Turn.torn (h : id ∈ s'.torn) : id ∈ s.torn ∨
      (id ∈ p.targets ∧ s'.slots = s.slots ∧ (p.condemned = some id ∨ p.closes)) ∨
      ∃ slot, p.prep = some slot ∧ slot.id = id ∧ s'.slots = s.slots := by
  cases turn with
  | @tears key slot k =>
    rcases Finset.mem_insert.mp h with rfl | hold
    · refine .inr (.inl ⟨Finset.mem_insert_self _ _, rfl, ?_⟩)
      cases hl : k.closes with
      | true => exact .inr hl
      | false => exact .inl (by simp [Place.condemned, hl])
    · exact .inl hold
  | spoils slot | unsaved slot | races slot =>
    rcases Finset.mem_insert.mp h with rfl | hold
    · exact .inr (.inr ⟨slot, rfl, rfl, rfl⟩)
    · exact .inl hold
  | _ => exact .inl h

theorem Turn.tornDown (hI : Ledger s) (hT : Placed s p)
    (hcl : Clear s p) (hJ : TornDown s) (hD : Doomed s p) (hG : Orderly s p c) : TornDown s' := by
  intro id hi
  have hg := (turn.grows hI hT hG).given
  obtain hold | ⟨ht, hs, hw⟩ | ⟨slot, hr, rfl, hs⟩ := turn.torn hi
  · obtain ⟨he, hd⟩ := hJ id hold
    refine ⟨hg he, ?_⟩
    rcases hd with hd | hc
    · have hus : s.used := by
        by_contra hu
        rw [(hI.unused (eq_false_iff.mpr hu)).2.2] at hold
        cases hold
      refine .inl (turn.down hI hG hd he hus ?_)
      rintro slot rfl hop rfl
      rcases hD.rising slot rfl with hnot | hc
      · exact hnot hold
      · rw [hop] at hc
        cases hc
    · exact .inr (turn.closed hc)
  · refine ⟨hg (hT.targets id ht).2, ?_⟩
    rcases hw with ho | hcs
    · refine .inl fun slot hl => ?_
      rw [hs] at hl
      exact hD.condemned id ho slot hl
    · exact .inr (turn.closed (hcl.closed hcs))
  · obtain ⟨hp, -, -, hn⟩ := hT.prep slot hr
    refine ⟨hg hn.2.1, .inl fun other hl => ?_⟩
    rw [hs] at hl
    exact ((hI.reserved hp).2 other hl).1

theorem Turn.doomed (hI : Ledger s) (hJ : TornDown s)
    (hD : Doomed s p) (hG : Orderly s p c) : ∀ q ∈ ps, Doomed s' q := by
  intro q hq
  have hn : ∀ {k : Cont} {ok : Bool}, q ∈ k.next ok → Doomed s' q := by
    intro k ok he
    rw [Cont.mem_next he]
    exact .of_none (Cont.after_rising k) (Cont.after_condemned k)
  cases turn with
  | glances c hp hs => exact (hs q hq).doomed
  | inserts hs =>
    rw [(hs q hq).1]
    exact .of_none rfl rfl
  | returns | binds | strands | guests => cases hq
  | misses | lingers | forgets => exact hn hq
  | @marks id slot k hk =>
    cases mem_singleton.mp hq
    have ho := (hI.slots_given hk).1
    subst ho
    refine .readSlot k fun _ hl => ?_
    obtain ⟨-, rfl⟩ | ⟨hne, -⟩ := lookup_insert_cases hl
    · rfl
    · exact absurd rfl hne
  | @reserves id =>
    cases mem_singleton.mp hq
    refine ⟨fun slot ht => .inl fun hr => ?_, fun id' hi' => nomatch hi'⟩
    cases ht
    have hf : id ∉ s.given := hG
    exact hf (hJ id hr).1
  | prepares slot | saves slot =>
    cases mem_singleton.mp hq
    exact ⟨fun slot' ht' => hD.rising slot' ht', fun id' hi' => nomatch hi'⟩
  | unreserves slot more hs =>
    rw [hs q hq]
    exact .of_none rfl rfl
  | discards slot raced ok hq0 =>
    rcases hq0 with rfl | rfl <;> cases mem_singleton.mp hq <;> exact .of_none rfl rfl
  | _ =>
    cases mem_singleton.mp hq
    exact .of_none rfl rfl

theorem Turn.doomed_frame (hI : Ledger s) (hT : Placed s p)
    (hU : Placed s q) (hC : Apart p q) (hc : Clear s p) (hc' : Clear s q)
    (hQ : Doomed s q) (hG : Orderly s p c) : Doomed s' q := by
  refine ⟨fun slot hs => ?_, fun id hi => ?_⟩
  · have hr := Place.rising_prep hs
    have he := (hU.prep slot hr).1
    rcases hQ.rising slot hs with hnot | hd
    · by_cases htr : slot.id ∈ s'.torn
      · obtain hold | ⟨ht, -, _⟩ | ⟨_, hp, -, -⟩ := turn.torn htr
        · exact absurd hold hnot
        · have hl : p.closes := by
            by_contra ho
            exact hc.targets (eq_false_iff.mpr ho) _ ht he
          exact .inr (turn.closed (hc.closed hl))
        · have hq := hC.resolve_left (by rw [hp]; simp)
          rw [hr] at hq
          cases hq
      · exact .inl htr
    · exact .inr (turn.closed hd)
  · obtain ⟨ht, hl⟩ := Place.condemned_target hi
    obtain ⟨hu, hg⟩ := hU.targets id ht
    refine turn.down hI hG (hQ.condemned id hi) hg hu ?_
    rintro slot rfl - rfl
    exact hc'.targets hl _ ht (hT.prep slot rfl).1

end Teardown

theorem teardown_extension (cfg : Config) : System.Extension (manager cfg) AcquiresOpen Ledger
      (fun s p => Placed s p ∧ Clear s p) Apart TornDown Doomed where
  entry_holds e _ _ := by
    refine .of_none ?_ ?_ <;> cases e <;> rfl
  local_step hI hT hJ hD hG ha :=
    ⟨(advance_turn ha).tornDown hI hT.1 hT.2 hJ hD hG.1.1, (advance_turn ha).doomed hI hJ hD hG.1.1⟩
  frame_step hI hT hU hC _ _ hQ hG ha :=
    (advance_turn ha).doomed_frame hI hT.1 hU.1 hC hT.2 hU.2 hQ hG.1.1

theorem teardown_outline (cfg : Config) :
    System.Outline (manager cfg) AcquiresOpen (fun s => Ledger s ∧ TornDown s)
      (fun s p => (Placed s p ∧ Clear s p) ∧ Doomed s p) Apart :=
  (clear_outline cfg).extend (fun _ _ _ hG => hG.1) (teardown_extension cfg)

abbrev Unclosed (cfg : Config) : Process State → Job Place Call → Choice → Prop :=
  (manager cfg).OnJobs AcquiresOpen fun _ => True

/-- **What `Acquire` returns** has not been handed to the driver's `Destroy`, and `Close` has not
begun. -/
theorem acquired_slot_is_whole {cfg : Config} {files : StringMap Slot}
    (hfiles : ∀ {id : String} {slot : Slot}, files.lookup id = some slot → slot.id = id)
    {w w' : World (Process State) (Job Place Call)} {ev : Event (Option Call) Choice}
    (h : (system cfg).Reaches (Unclosed cfg) (boot files) w)
    (ha : System.Allowed (Unclosed cfg) w ev) (hs : (system cfg).step w ev = some w')
    {owner : Owner} {slot : Slot}
    (hanswer : w'.shared.memory.answers = w.shared.memory.answers ++ [(owner, slot)]) :
    slot.id ∉ w.shared.memory.torn ∧ w.shared.memory.closed = false := by
  have hst : Ledger (.start files) ∧ TornDown (.start files) :=
    ⟨ledger_start hfiles, fun id hi => by cases hi⟩
  have hr : ∀ {s : State}, True → Ledger s ∧ TornDown s → Ledger s.reset ∧ TornDown s.reset :=
    fun _ hI => ⟨hI.1.reset, fun id hi => by cases hi⟩
  have hw := holds_of_reaches (teardown_outline cfg) hr hst h
  obtain hm | hm | ⟨p, c, _, hv, -, hG⟩ := step_cases (teardown_outline cfg) hw ha hs
  · rw [hm] at hanswer
    simp at hanswer
  · rw [hm] at hanswer
    simp [State.reset] at hanswer
  obtain hm | ⟨_, _, _, key, slot₀, _, rfl, rfl, hl, hre, hn, hca⟩ := (advance_turn hv).answers
  · rw [hm] at hanswer
    simp at hanswer
  rw [hn] at hanswer
  cases append_cancel_left hanswer
  have ho : w.shared.memory.closed = false := by
    refine hG.open hl (decide_eq_true ?_)
    exact hca.symm.imp_right decide_eq_true
  refine ⟨fun ht => ?_, ho⟩
  rw [hre, (hw.inv.1.slots_given hl).1] at ht
  rcases (hw.inv.2 key ht).2 with hd | hc
  · rcases hca with ⟨hb, -⟩ | he
    · rw [hd slot₀ hl] at hb
      cases hb
    · rw [hd slot₀ hl] at he
      cases he
  · rw [ho] at hc
    cases hc

/-- A slot is prepared, acquired and released while another one is acquired. -/
theorem acquired_beside_release : ∃ w w' ev,
    (system samplePod).Reaches (Unclosed samplePod) (boot storedOne) w ∧
    (system samplePod).step w ev = some w' ∧ "a" ∈ w.shared.memory.torn ∧
    ∃ slot, w'.shared.memory.answers = w.shared.memory.answers ++ [(sampleOwner "v", slot)] ∧
      slot.id ∉ w.shared.memory.torn ∧ w.shared.memory.closed = false := by
  obtain ⟨w, w', hr, ha, hs, ht⟩ := System.exists_step_of_runMeeting
    (S := system samplePod) (G := Unclosed samplePod) (w := boot storedOne)
    (loading [sampleSlot "a" 0xac1e0002] ++ preparing 0 "b" ++
      [.spawn (some (.acquire (sampleOwner "u"))), .run 0 (.acquired none .ok),
        .spawn (some (.release (sampleOwner "u"))), .run 0 (.found (some "a")),
        .run 0 (.store .ok), .run 0 .go, .spawn (some (.acquire (sampleOwner "v")))])
    1 (.acquired none .ok)
    (fun w w' => decide ("a" ∈ w.shared.memory.torn ∧ w'.shared.memory.answers =
      w.shared.memory.answers ++
        [(sampleOwner "v", (sampleSlot "b" 0xac1e0003).boundBy (sampleOwner "v"))])) (by decide)
  obtain ⟨ho, hn⟩ := of_decide_eq_true ht
  refine ⟨w, w', .run 1 (.acquired none .ok), hr, hs, ho, _, hn, ?_⟩
  refine acquired_slot_is_whole (fun {id slot} hl => ?_) hr ha hs hn
  obtain ⟨rfl, rfl⟩ | ⟨-, hl⟩ := lookup_insert_cases hl
  · rfl
  · cases hl

/-- `Acquire` returns a Clean slot on which `Close` has just called `Destroy`. -/
theorem closed_slot_acquired : ∃ w w' ev,
    (system samplePod).Reaches System.anyStep (boot storedOne) w ∧
    (system samplePod).step w ev = some w' ∧ w.shared.memory.closed = true ∧
    ∃ slot, w'.shared.memory.answers = w.shared.memory.answers ++ [(sampleOwner "u", slot)] ∧
      slot.id ∈ w.shared.memory.torn := by
  obtain ⟨w, w', hr, hs, ht⟩ := System.exists_step_of_run
    (S := system samplePod) (w := boot storedOne)
    (loading [sampleSlot "a" 0xac1e0002] ++
      [.spawn (some .close), .run 1 .go, .run 1 .go, .run 1 .go, .run 1 .go,
        .spawn (some (.acquire (sampleOwner "u")))])
    (.run 2 (.acquired none .ok))
    (fun w w' => decide (w.shared.memory.closed = true ∧ "a" ∈ w.shared.memory.torn ∧
      w'.shared.memory.answers = w.shared.memory.answers ++
        [(sampleOwner "u", (sampleSlot "a" 0xac1e0002).boundBy (sampleOwner "u"))])) (by decide)
  obtain ⟨hc, ho, ha⟩ := of_decide_eq_true ht
  exact ⟨w, w', _, hr, hs, hc, _, ha, ho⟩

end FastSandbox.Network
