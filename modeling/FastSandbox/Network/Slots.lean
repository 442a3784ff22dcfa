import FastSandbox.Network.Ledger

/-!
# Capacity, addresses and ownership of the slots in memory

A slot is reserved in memory before its namespace is prepared and removed again on every failure
path, so the map stays within the capacity, its addresses stay distinct, and `Acquire` never binds
a second slot to a Sandbox. What `Initialize` loads is not held to any of this: it puts the stored
slots into the map before it compares their number with the capacity, and it does not look at
their addresses or owners.
-/

namespace FastSandbox.Network

open DataPlane (StringMap)
open Interleaving Finmap State Nat

structure Tidy (cfg : Config) (s : State) : Prop where
  count : s.slots.keys.card ≤ cfg.capacity
  usable : ∀ {id : String} {slot : Slot}, s.slots.lookup id = some slot →
    ∃ ip, slot.ip = some ip ∧ cfg.ipam.Usable ip
  distinct : ∀ {id id' : String} {slot slot' : Slot}, s.slots.lookup id = some slot →
    s.slots.lookup id' = some slot' → slot.ip = slot'.ip → id = id'
  boundOnce : ∀ {id id' : String} {slot slot' : Slot}, s.slots.lookup id = some slot →
    s.slots.lookup id' = some slot' → slot.phase = .bound → slot'.phase = .bound →
    slot.owner.sandboxUID = slot'.owner.sandboxUID → id = id'

/-- Stored slots that a manager can take over. -/
structure Sound (cfg : Config) (loaded : List Slot) : Prop where
  count : loaded.length ≤ cfg.capacity
  usable : ∀ slot ∈ loaded, ∃ ip ∈ slot.ip, cfg.ipam.Usable ip
  distinct : loaded.Pairwise fun slot slot' => slot.ip ≠ slot'.ip
  boundOnce : loaded.Pairwise fun slot slot' =>
    ¬ (slot.phase = .bound ∧ slot'.phase = .bound ∧ slot.owner.sandboxUID = slot'.owner.sandboxUID)

instance (cfg : Config) (loaded : List Slot) : Decidable (Sound cfg loaded) :=
  decidable_of_iff
    (loaded.length ≤ cfg.capacity ∧ (∀ slot ∈ loaded, ∃ ip ∈ slot.ip, cfg.ipam.Usable ip) ∧
      (loaded.Pairwise fun slot slot' => slot.ip ≠ slot'.ip) ∧
      loaded.Pairwise fun slot slot' =>
        ¬ (slot.phase = .bound ∧ slot'.phase = .bound ∧
          slot.owner.sandboxUID = slot'.owner.sandboxUID))
    ⟨fun ⟨h1, h2, h3, h4⟩ => ⟨h1, h2, h3, h4⟩,
      fun h => ⟨h.count, h.usable, h.distinct, h.boundOnce⟩⟩

/-- `Initialize` comes first and finds sound slots, and IDs are not repeated. -/
def LoadsSound (cfg : Config) (s : State) (p : Place) (c : Choice) : Prop :=
  Orderly s p c ∧ ∀ loaded ∈ p.stored, Sound cfg loaded

instance (cfg : Config) (s : State) (p : Place) (c : Choice) : Decidable (LoadsSound cfg s p c) :=
  inferInstanceAs (Decidable (_ ∧ _))

/-! ## How the map changes -/

/-- Slots disappear or go on to a later phase; none is added or bound. -/
def Fades (m m' : StringMap Slot) : Prop :=
  ∀ {id : String} {slot' : Slot}, m'.lookup id = some slot' →
    ∃ slot, m.lookup id = some slot ∧ slot.ip = slot'.ip ∧
      (slot'.phase = .bound → slot.phase = .bound ∧ slot.owner = slot'.owner)

/-- The sections that add or bind slots. -/
inductive Fills (cfg : Config) (s : State) : Place → State → Prop
  | inserts (loaded : List Slot) : Fills cfg s (.insertLoaded loaded)
      { s with slots := (State.insertStored cfg s.slots loaded).1, used := true }
  | binds {id : String} {slot : Slot} {owner : Owner}
      (hnone : ∀ id slot, s.slots.lookup id = some slot →
        State.boundTo owner.sandboxUID slot = false)
      (hlookup : s.slots.lookup id = some slot) : Fills cfg s (.acquire owner)
        (((s.save (slot.boundBy owner) .ok).put (slot.boundBy owner)).answer owner
          (slot.boundBy owner))
  | reserves {id : String} {ip : ℕ} (hfree : s.preparing = none)
      (hroom : s.slots.keys.card < cfg.capacity) (hip : cfg.ipam.allocate s.usedIP = some ip) :
      Fills cfg s .prepareOne (s.reserve (cfg.newSlot id ip))
  | publishes (slot : Slot) : Fills cfg s (.publish slot) { s.put slot with preparing := none }

variable {slot : Slot}

section

variable {m m' : StringMap Slot}

theorem Fades.refl (m : StringMap Slot) : Fades m m := fun h => ⟨_, h, rfl, fun hb => ⟨hb, rfl⟩⟩

theorem Fades.erase (m : StringMap Slot) (id : String) : Fades m (m.erase id) :=
  fun h => ⟨_, (lookup_erase_cases h).2, rfl, fun hb => ⟨hb, rfl⟩⟩

theorem Fades.insert (slot' : Slot) (hl : m.lookup slot'.id = some slot) (hi : slot.ip = slot'.ip)
    (hb : slot'.phase = .bound → slot.phase = .bound ∧ slot.owner = slot'.owner) :
    Fades m (m.insert slot'.id slot') := by
  intro id _ h
  obtain ⟨rfl, rfl⟩ | ⟨-, hold⟩ := lookup_insert_cases h
  · exact ⟨slot, hl, hi, hb⟩
  · exact Fades.refl m hold

theorem Fades.keys (h : Fades m m') : m'.keys ⊆ m.keys := by
  intro _ hi
  obtain ⟨_, hk'⟩ := mem_iff.mp (mem_keys.mp hi)
  obtain ⟨_, hl, -⟩ := h hk'
  exact mem_keys.mpr (mem_of_lookup_eq_some hl)

theorem keys_insert (id : String) (slot : Slot) :
    (m.insert id slot).keys = Insert.insert id m.keys := by
  ext other
  rw [Finset.mem_insert, mem_keys, mem_insert, mem_keys]

theorem card_insertStored (cfg : Config) (loaded : List Slot) (slots : StringMap Slot) :
    (insertStored cfg slots loaded).1.keys.card ≤ slots.keys.card + loaded.length := by
  induction loaded generalizing slots with
  | nil => exact le_refl _
  | cons slot rest ih =>
    unfold insertStored
    split
    · have hr := ih (slots.insert slot.id slot)
      have hc := Finset.card_insert_le slot.id slots.keys
      rw [keys_insert] at hr
      rw [List.length_cons]
      omega
    · exact le_add_right _ _

end

section Tidy

variable {cfg : Config} {s s' : State} {p q : Place} {c : Choice} {ps : List Place}

theorem Turn.slots_cases (turn : Turn cfg s p c s' ps) (hI : Ledger s) (hT : Placed s p) :
    Fades s.slots s'.slots ∨ Fills cfg s p s' := by
  cases turn with
  | inserts => exact .inr (.inserts _)
  | binds found hv hn hl => exact .inr (.binds hn hl)
  | @guests applied current w hl hb =>
    obtain ⟨hp, hw⟩ := of_decide_eq_true hb
    have hi : current.ip = applied.ip := (hI.slots_given hl).2.2.symm.trans (hT.guest applied rfl).2
    exact .inl (Fades.insert applied hl hi fun _ => ⟨hp, hw⟩)
  | @marks id slot k hl =>
    have ho := (hI.slots_given hl).1
    subst ho
    exact .inl (Fades.insert slot.marked hl rfl nofun)
  | forgets id => exact .inl (Fades.erase _ id)
  | reserves hf hr hi => exact .inr (.reserves hf hr hi)
  | publishes slot => exact .inr (.publishes slot)
  | unreserves slot => exact .inl (Fades.erase _ slot.id)
  | _ => exact .inl (Fades.refl _)

theorem Tidy.fades (h : Tidy cfg s) (hf : Fades s.slots s'.slots) : Tidy cfg s' where
  count := (Finset.card_le_card hf.keys).trans h.count
  usable hk' := by
    obtain ⟨slot, ho, hi, -⟩ := hf hk'
    exact hi ▸ h.usable ho
  distinct hl hl' heq := by
    obtain ⟨slot, ho, hi, -⟩ := hf hl
    obtain ⟨slot', hk', hi', -⟩ := hf hl'
    exact h.distinct ho hk' (hi.trans (heq.trans hi'.symm))
  boundOnce hl hl' hb hb' heq := by
    obtain ⟨slot, ho, -, hd⟩ := hf hl
    obtain ⟨slot', hk', -, hd'⟩ := hf hl'
    refine h.boundOnce ho hk' (hd hb).1 (hd' hb').1 ?_
    rw [(hd hb).2, (hd' hb').2, heq]

theorem Tidy.put (h : Tidy cfg s) (slot : Slot)
    (hr : (s.slots.keys.erase slot.id).card < cfg.capacity)
    (hu : ∃ ip, slot.ip = some ip ∧ cfg.ipam.Usable ip)
    (hw : ∀ {id : String} {other : Slot}, id ≠ slot.id → s.slots.lookup id = some other →
      other.ip ≠ slot.ip) (hp : slot.phase ≠ .bound) : Tidy cfg (s.put slot) where
  count := by
    show ((s.slots.insert slot.id slot).keys).card ≤ cfg.capacity
    have hc := Finset.card_erase_add_one (Finset.mem_insert_self slot.id s.slots.keys)
    rw [Finset.erase_insert_eq_erase] at hc
    rw [keys_insert, ← hc]
    exact hr
  usable ho := by
    obtain ⟨-, rfl⟩ | ⟨-, hold⟩ := lookup_insert_cases ho
    · exact hu
    · exact h.usable hold
  distinct hl hl' heq := by
    obtain ⟨rfl, rfl⟩ | ⟨hne, hold⟩ := lookup_insert_cases hl <;>
      obtain ⟨rfl, rfl⟩ | ⟨hne', hold'⟩ := lookup_insert_cases hl'
    · rfl
    · exact absurd heq.symm (hw hne' hold')
    · exact absurd heq (hw hne hold)
    · exact h.distinct hold hold' heq
  boundOnce hl hl' hb hb' heq := by
    obtain ⟨rfl, rfl⟩ | ⟨hne, hold⟩ := lookup_insert_cases hl <;>
      obtain ⟨rfl, rfl⟩ | ⟨hne', hold'⟩ := lookup_insert_cases hl'
    · rfl
    · exact absurd hb hp
    · exact absurd hb' hp
    · exact h.boundOnce hold hold' hb hb' heq

theorem Tidy.bind (h : Tidy cfg s) {owner : Owner} (ho : s.slots.lookup slot.id = some slot)
    (hn : ∀ id slot, s.slots.lookup id = some slot → boundTo owner.sandboxUID slot = false) :
    Tidy cfg (s.put (slot.boundBy owner)) := by
  have hot : ∀ {id : String} {other : Slot}, s.slots.lookup id = some other →
      other.phase = .bound → other.owner.sandboxUID ≠ owner.sandboxUID := by
    intro id other hl hb heq
    have hf := of_decide_eq_false (hn id other hl)
    exact hf ⟨hb, heq⟩
  have hold : ∀ {id : String} {other : Slot},
      (s.put (slot.boundBy owner)).slots.lookup id = some other →
      ∃ old, s.slots.lookup id = some old ∧ old.ip = other.ip := by
    intro id other hl
    obtain ⟨rfl, rfl⟩ | ⟨-, hl⟩ := lookup_insert_cases hl
    · exact ⟨slot, ho, rfl⟩
    · exact ⟨other, hl, rfl⟩
  refine ⟨?_, ?_, ?_, ?_⟩
  · show ((s.slots.insert slot.id (slot.boundBy owner)).keys).card ≤ cfg.capacity
    rw [keys_insert, Finset.insert_eq_of_mem (mem_keys.mpr (mem_of_lookup_eq_some ho))]
    exact h.count
  · intro id other hl
    obtain ⟨old, hl, hi⟩ := hold hl
    exact hi ▸ h.usable hl
  · intro id id' other other' hl hl' heq
    obtain ⟨old, hl, hi⟩ := hold hl
    obtain ⟨_, hl', hi'⟩ := hold hl'
    exact h.distinct hl hl' (hi.trans (heq.trans hi'.symm))
  · intro id id' other other' hl hl' hb hb' heq
    obtain ⟨rfl, rfl⟩ | ⟨_, hl⟩ := lookup_insert_cases hl <;>
      obtain ⟨rfl, rfl⟩ | ⟨_, hl'⟩ := lookup_insert_cases hl'
    · rfl
    · exact absurd heq.symm (hot hl' hb')
    · exact absurd heq (hot hl hb)
    · exact h.boundOnce hl hl' hb hb' heq

theorem Sound.tidy {loaded : List Slot} (h : Sound cfg loaded) (hm : s.slots = ∅) :
    Tidy cfg { s with slots := (insertStored cfg s.slots loaded).1, used := true } := by
  have ho : ∀ {id : String} {slot : Slot},
      (insertStored cfg s.slots loaded).1.lookup id = some slot →
      slot ∈ loaded ∧ slot.id = id := by
    intro id slot hl
    rcases lookup_insertStored hl with hold | he
    · rw [hm, lookup_empty] at hold
      cases hold
    · exact he
  refine ⟨?_, ?_, ?_, ?_⟩
  · have hc := card_insertStored cfg loaded s.slots
    rw [hm, keys_empty, Finset.card_empty, zero_add] at hc
    rw [hm]
    exact hc.trans h.count
  · intro id slot hl
    obtain ⟨ip, hi, hu⟩ := h.usable slot (ho hl).1
    exact ⟨ip, hi, hu⟩
  · intro id id' slot slot' hl hl' heq
    obtain ⟨he, rfl⟩ := ho hl
    obtain ⟨he', rfl⟩ := ho hl'
    by_contra hne
    have : Std.Symm fun slot slot' : Slot => slot.ip ≠ slot'.ip := ⟨fun _ _ h => h.symm⟩
    exact h.distinct.forall he he' (fun h => hne (congrArg Slot.id h)) heq
  · intro id id' slot slot' hl hl' hb hb' heq
    obtain ⟨he, rfl⟩ := ho hl
    obtain ⟨he', rfl⟩ := ho hl'
    by_contra hne
    have : Std.Symm fun slot slot' : Slot => ¬ (slot.phase = .bound ∧ slot'.phase = .bound ∧
        slot.owner.sandboxUID = slot'.owner.sandboxUID) :=
      ⟨fun _ _ h h' => h ⟨h'.2.1, h'.1, h'.2.2.symm⟩⟩
    exact h.boundOnce.forall he he' (fun h => hne (congrArg Slot.id h)) ⟨hb, hb', heq⟩

/-! ## The slot under preparation -/

/-- The slot that a call prepares fits beside those in the map. -/
def Fits (cfg : Config) (s : State) (p : Place) : Prop :=
  ∀ slot, p.prep = some slot → (s.slots.keys.erase slot.id).card < cfg.capacity ∧
    (∃ ip, slot.ip = some ip ∧ cfg.ipam.Usable ip) ∧
    ∀ id other, id ≠ slot.id → s.slots.lookup id = some other → other.ip ≠ slot.ip

/-- The map keeps no other slots and addresses than it had. -/
def Narrows (m m' : StringMap Slot) : Prop :=
  ∀ {id : String} {slot' : Slot}, m'.lookup id = some slot' →
    ∃ slot, m.lookup id = some slot ∧ slot.ip = slot'.ip

theorem Fades.narrows {m m' : StringMap Slot} (h : Fades m m') : Narrows m m' := by
  intro _ _ hl
  obtain ⟨slot, hl, hi, -⟩ := h hl
  exact ⟨slot, hl, hi⟩

theorem Fits.narrows (h : Fits cfg s p) (hn : Narrows s.slots s'.slots)
    (hp : ∀ slot, q.prep = some slot → p.prep = some slot) : Fits cfg s' q := by
  intro slot hs
  obtain ⟨hr, hu, ho⟩ := h slot (hp slot hs)
  refine ⟨lt_of_le_of_lt (Finset.card_le_card ?_) hr, hu, fun id _ hne hl' => ?_⟩
  · refine Finset.erase_subset_erase _ fun id hi => ?_
    obtain ⟨_, hl'⟩ := mem_iff.mp (mem_keys.mp hi)
    obtain ⟨slot, hl, -⟩ := hn hl'
    exact mem_keys.mpr (mem_of_lookup_eq_some hl)
  · obtain ⟨other, hl, hip⟩ := hn hl'
    exact hip ▸ ho id other hne hl

theorem Fits.of_prep_none (h : p.prep = none) : Fits cfg s p := by
  intro _ hs
  rw [h] at hs
  cases hs

theorem reserved_fits (id : String) {ip : ℕ} (hr : s.slots.keys.card < cfg.capacity)
    (hi : cfg.ipam.allocate s.usedIP = some ip) :
    (s.slots.keys.erase id).card < cfg.capacity ∧ cfg.ipam.Usable ip ∧
      ∀ {id' : String} {other : Slot}, s.slots.lookup id' = some other → other.ip ≠ some ip := by
  obtain ⟨hu, hn⟩ := IPv4IPAM.allocate_usable cfg.ipam_new hi
  refine ⟨lt_of_le_of_lt (Finset.card_le_card (Finset.erase_subset _ _)) hr, hu, ?_⟩
  intro id' other hl heq
  refine of_decide_eq_false hn ⟨id', ?_, ?_⟩
  · exact mem_keys.mpr (mem_of_lookup_eq_some hl)
  · rw [hl, Option.any_some]
    exact decide_eq_true heq

theorem Fills.tidy (h : Fills cfg s p s') (hI : Ledger s) (hT : Placed s p)
    (hG : LoadsSound cfg s p c) (ht : Tidy cfg s) (hf : Fits cfg s p) : Tidy cfg s' := by
  cases h with
  | inserts loaded =>
    have hun : s.used = false := hG.1
    exact (hG.2 loaded rfl).tidy (hI.unused hun).1
  | @binds id slot owner hn ho =>
    have hw := (hI.slots_given ho).1
    subst hw
    have hb := ht.bind ho hn
    exact ⟨hb.count, hb.usable, hb.distinct, hb.boundOnce⟩
  | @reserves id ip hfr hr hi =>
    obtain ⟨hr', ha, hw⟩ := reserved_fits id hr hi
    have hu := ht.put (cfg.newSlot id ip).marked hr' ⟨ip, rfl, ha⟩ (fun _ => hw) nofun
    exact ⟨hu.count, hu.usable, hu.distinct, hu.boundOnce⟩
  | publishes slot =>
    obtain ⟨hr, ha, hw⟩ := hf slot rfl
    have hu := ht.put slot hr ha (fun hne hl => hw _ _ hne hl)
      (by rw [(hT.prep slot rfl).2.1]; decide)
    exact ⟨hu.count, hu.usable, hu.distinct, hu.boundOnce⟩

theorem Turn.prep_from (turn : Turn cfg s p c s' ps) (hq : q ∈ ps) (hs : q.prep = some slot) :
    (p.prep = some slot ∧ s'.slots = s.slots) ∨ ∃ id ip, p = .prepareOne ∧
      c = .generated (some id) ∧
      slot = cfg.newSlot id ip ∧ s' = s.reserve slot ∧ s.preparing = none ∧
      s.slots.keys.card < cfg.capacity ∧ cfg.ipam.allocate s.usedIP = some ip ∧
      s.slots.lookup id = none := by
  have hn : ∀ {k : Cont} {ok : Bool}, q ∈ k.next ok → False := by
    intro k ok he
    rw [Cont.mem_next he, Cont.after_prep] at hs
    cases hs
  cases turn with
  | glances c hp hps =>
    rw [(hps q hq).prep] at hs
    cases hs
  | inserts hps =>
    rw [(hps q hq).1] at hs
    cases hs
  | returns | binds | strands | guests => cases hq
  | misses | lingers | forgets => exact (hn hq).elim
  | reserves hf hr hip hi =>
    cases List.mem_singleton.mp hq
    cases hs
    exact .inr ⟨_, _, rfl, rfl, rfl, rfl, hf, hr, hip, hi⟩
  | unreserves slot more hps =>
    rw [hps q hq] at hs
    cases hs
  | discards slot raced ok hq0 =>
    rcases hq0 with rfl | rfl
    · cases List.mem_singleton.mp hq
      exact .inl ⟨hs, rfl⟩
    · cases List.mem_singleton.mp hq
      exact .inl ⟨hs, rfl⟩
  | marks | tears | destroys | deletes | publishes | closes =>
    cases List.mem_singleton.mp hq
    cases hs
  | prepares | spoils | saves | unsaved | races | drops =>
    cases List.mem_singleton.mp hq
    exact .inl ⟨hs, rfl⟩

theorem Turn.narrows (turn : Turn cfg s p c s' ps) (hI : Ledger s) (hT : Placed s p)
    (hG : Orderly s p c) {id : String} (he : s.preparing = some id) :
    Narrows s.slots s'.slots ∨ p.prep ≠ none := by
  rcases turn.slots_cases hI hT with hf | hi
  · exact .inl hf.narrows
  cases hi with
  | inserts =>
    have hu : s.used = false := hG
    rw [(hI.unused hu).2.1] at he
    cases he
  | @binds id slot owner hn ho =>
    have hw := (hI.slots_given ho).1
    subst hw
    refine .inl fun {_ slot'} hl => ?_
    obtain ⟨rfl, rfl⟩ | ⟨-, hl⟩ := lookup_insert_cases hl
    · exact ⟨slot, ho, rfl⟩
    · exact ⟨slot', hl, rfl⟩
  | reserves hr =>
    rw [hr] at he
    cases he
  | publishes => exact .inr (by simp [Place.prep])

theorem tidy_extension (cfg : Config) :
    System.Extension (manager cfg) (LoadsSound cfg) Ledger Placed Apart (Tidy cfg) (Fits cfg) where
  entry_holds e _ _ := by
    refine .of_prep_none ?_
    cases e <;> rfl
  local_step := by
    intro s s' p c ps hI hT hd ht hG ha
    have turn := advance_turn ha
    refine ⟨?_, fun q hq slot hs => ?_⟩
    · rcases turn.slots_cases hI hT with hf | hi
      · exact hd.fades hf
      · exact hi.tidy hI hT hG hd ht
    obtain ⟨hp, hsl⟩ | ⟨id, ip, -, -, rfl, rfl, -, hr, hip, _⟩ := turn.prep_from hq hs
    · rw [hsl]
      exact ht slot hp
    obtain ⟨hr', hu, ho⟩ := reserved_fits id hr hip
    refine ⟨?_, ⟨ip, rfl, hu⟩, fun _ _ hne hl => ?_⟩
    · show ((s.slots.insert id _).keys.erase id).card < cfg.capacity
      rw [keys_insert, Finset.erase_insert_eq_erase]
      exact hr'
    · obtain ⟨rfl, -⟩ | ⟨-, hl⟩ := lookup_insert_cases hl
      · exact absurd rfl hne
      · exact ho hl
  frame_step := by
    intro s s' p q c ps hI hT hU hC hd ht ht' hG ha
    have turn := advance_turn ha
    by_cases hq : q.prep = none
    · exact .of_prep_none hq
    obtain ⟨slot, hs⟩ := Option.ne_none_iff_exists'.mp hq
    rcases turn.narrows hI hT hG.1 (hU.prep slot hs).1 with hn | hp
    · exact ht'.narrows hn fun _ h => h
    · exact absurd (hC.resolve_left hp) hq

theorem Tidy.of_empty (h : s.slots = ∅) : Tidy cfg s := by
  have hn : ∀ {id : String} {slot : Slot}, s.slots.lookup id ≠ some slot := by
    intro id slot hl
    rw [h, lookup_empty] at hl
    cases hl
  refine ⟨?_, fun hl => absurd hl hn, fun hl => absurd hl hn, fun hl => absurd hl hn⟩
  rw [h]
  exact zero_le _

end Tidy

/-- **The slots in memory** stay within the capacity, with distinct usable addresses and one Bound
slot per Sandbox, in every run in which `Initialize` finds sound slots. -/
theorem slots_tidy {cfg : Config} {files : StringMap Slot}
    (hfiles : ∀ {id : String} {slot : Slot}, files.lookup id = some slot → slot.id = id)
    {w : World (Process State) (Job Place Call)}
    (h : (system cfg).Reaches ((manager cfg).OnJobs (LoadsSound cfg) fun _ => True)
      (boot files) w) :
    Tidy cfg w.shared.memory := by
  have ho := (ledger_outline cfg).extend (fun _ _ _ hG => hG.1) (tidy_extension cfg)
  exact (holds_of_reaches ho (fun _ hI => ⟨hI.1.reset, Tidy.of_empty rfl⟩)
    ⟨ledger_start hfiles, Tidy.of_empty rfl⟩ h).inv.2

/-! ## Two runs -/

/-- A Pod with room for two slots in `172.30.0.0/29`. -/
def samplePod : Config where
  capacity := 2
  podUID := "pod"
  netNSName id := "fsb" ++ id
  guestDataPlane := false
  privateCIDR := { addr := 0xac1e0000, bits := 29 }
  ipam := ⟨{ addr := 0xac1e0000, bits := 29 }, 0xac1e0001, none⟩
  capacity_pos := Nat.two_pos
  podUID_ne := by decide
  ipam_new := by decide

def sampleSlot (id : String) (ip : ℕ) : Slot := samplePod.newSlot id ip

def sampleOwner (uid : String) : Owner where
  sandboxUID := uid
  instanceGeneration := 1
  runtimeInstanceID := uid
  assignmentAttempt := 1

abbrev Script := List (Event (Option Call) Choice)

/-- `Initialize` on sound slots, up to the check whether there is room for more. -/
def loading (stored : List Slot) : Script :=
  [.spawn (some .initializeSlots), .run 0 (.loaded (some stored)), .run 0 .go] ++
    stored.flatMap (fun _ => [.run 0 .go, .run 0 (.driver true)]) ++ [.run 0 .go, .run 0 .go]

/-- `prepareOne` by the call at `i`, and its return to the loop of `Replenish`. -/
def preparing (i : ℕ) (id : String) : Script :=
  [.run i (.generated (some id)), .run i (.driver true), .run i (.store .ok), .run i .go,
    .run i .go]

def storedOne : StringMap Slot := (∅ : StringMap Slot).insert "a" (sampleSlot "a" 0xac1e0002)

/-- A stored slot and a prepared one, both acquired. -/
theorem replenished_pool_tidy : ∃ w,
    (system samplePod).Reaches ((manager samplePod).OnJobs (LoadsSound samplePod) fun _ => True)
      (boot storedOne) w ∧ w.shared.memory.answers.length = 2 ∧ Tidy samplePod w.shared.memory := by
  obtain ⟨w, hr, ht⟩ := System.exists_reaches_of_runMeeting
    (S := system samplePod) (G := (manager samplePod).OnJobs (LoadsSound samplePod) fun _ => True)
    (w := boot storedOne)
    (loading [sampleSlot "a" 0xac1e0002] ++ preparing 0 "b" ++
      [.spawn (some (.acquire (sampleOwner "u"))), .run 0 (.acquired none .ok),
        .spawn (some (.acquire (sampleOwner "v"))), .run 0 (.acquired none .ok)])
    (fun w => w.shared.memory.answers.length == 2) (by decide)
  refine ⟨w, hr, by simpa using ht, slots_tidy ?_ hr⟩
  intro _ _ hl
  obtain ⟨rfl, rfl⟩ | ⟨-, hl⟩ := lookup_insert_cases hl
  · rfl
  · cases hl

/-- Three stored slots with distinct addresses of the network: one is the gateway's, and two are
Bound to generations of one Sandbox. -/
def storedThree : List Slot :=
  [sampleSlot "a" 0xac1e0001, (sampleSlot "b" 0xac1e0002).boundBy (sampleOwner "u"),
    (sampleSlot "c" 0xac1e0003).boundBy { sampleOwner "u" with instanceGeneration := 2 }]

/-- `Initialize` takes them all into a pool of two. -/
theorem initialize_overfills_pool : (storedThree.Pairwise fun slot slot' => slot.ip ≠ slot'.ip) ∧
    (∀ slot ∈ storedThree, ∃ ip ∈ slot.ip, samplePod.ipam.cidr.contains ip = true) ∧
    ∃ w, (system samplePod).Reaches System.anyStep
        (boot (storedThree.foldl (fun m slot => m.insert slot.id slot) ∅)) w ∧
      samplePod.capacity < w.shared.memory.slots.keys.card ∧
      (∃ slot, w.shared.memory.slots.lookup "a" = some slot ∧
        slot.ip = some samplePod.ipam.gateway) ∧
      (∃ slot slot', w.shared.memory.slots.lookup "b" = some slot ∧
        w.shared.memory.slots.lookup "c" = some slot' ∧ slot.phase = .bound ∧
        slot'.phase = .bound ∧ slot.owner.sandboxUID = slot'.owner.sandboxUID) := by
  refine ⟨by decide, by decide, ?_⟩
  obtain ⟨w, hr, ht⟩ := System.exists_reaches_of_run
    (S := system samplePod) (w := boot (storedThree.foldl (fun m slot => m.insert slot.id slot) ∅))
    [.spawn (some .initializeSlots), .run 0 (.loaded (some storedThree)), .run 0 .go]
    (fun w => decide (samplePod.capacity < w.shared.memory.slots.keys.card ∧
      w.shared.memory.slots.lookup "a" = storedThree[0]? ∧
      w.shared.memory.slots.lookup "b" = storedThree[1]? ∧
      w.shared.memory.slots.lookup "c" = storedThree[2]?)) (by decide)
  obtain ⟨ho, ha, hb, hc⟩ := of_decide_eq_true ht
  exact ⟨w, hr, ho, ⟨_, ha, rfl⟩, _, _, hb, hc, rfl, rfl, rfl⟩

end FastSandbox.Network
