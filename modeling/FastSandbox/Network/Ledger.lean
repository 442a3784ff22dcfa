import FastSandbox.Network.Sections

/-!
# What every call of the slot manager relies on

IDs are given out once and keep their address. One call at a time prepares a slot; until it is
published, the map shows that slot only as Destroying and without an owner. These facts need two
things from the manager's user: the ID generator does not repeat itself, and `Initialize` is the
first call to change a new manager.
-/

namespace FastSandbox.Network

open DataPlane (StringMap)
open Function Interleaving Finset Cont Option Bool System

section

variable {α : Type} {m : StringMap α} {k id : String} {v x : α}

theorem lookup_insert_cases (h : (m.insert k v).lookup id = some x) :
    (id = k ∧ x = v) ∨ (id ≠ k ∧ m.lookup id = some x) := by
  by_cases hi : id = k
  · subst hi
    rw [Finmap.lookup_insert] at h
    cases h
    exact .inl ⟨rfl, rfl⟩
  · rw [Finmap.lookup_insert_of_ne _ hi] at h
    exact .inr ⟨hi, h⟩

theorem lookup_erase_cases (h : (m.erase k).lookup id = some x) :
    id ≠ k ∧ m.lookup id = some x := by
  by_cases hi : id = k
  · subst hi
    rw [Finmap.lookup_erase] at h
    cases h
  · rw [Finmap.lookup_erase_ne hi] at h
    exact ⟨hi, h⟩

end

variable {cfg : Config}

theorem lookup_insertStored {loaded : List Slot} {slots : StringMap Slot} {id : String}
    {slot : Slot} (h : (State.insertStored cfg slots loaded).1.lookup id = some slot) :
    slots.lookup id = some slot ∨ (slot ∈ loaded ∧ slot.id = id) := by
  induction loaded generalizing slots with
  | nil => exact .inl h
  | cons first rest ih =>
    unfold State.insertStored at h
    split at h
    · rcases ih h with he | ⟨he, hi⟩
      · obtain ⟨rfl, rfl⟩ | ⟨-, hold⟩ := lookup_insert_cases he
        · exact .inr ⟨List.mem_cons_self, rfl⟩
        · exact .inl hold
      · exact .inr ⟨List.mem_cons_of_mem _ he, hi⟩
    · exact .inl h

/-! ## The ledger -/

/-- What is asked of the manager's user. -/
def Orderly (s : State) : Place → Choice → Prop
  | .prepareOne, .generated (some id) => id ∉ s.given
  | .insertLoaded _, _ => s.used = false
  | _, _ => True

instance (s : State) (p : Place) (c : Choice) : Decidable (Orderly s p c) := by
  unfold Orderly
  split <;> infer_instance

/-- A slot stands under its own ID, with the address that came with it. -/
def Given (s : State) (id : String) (slot : Slot) : Prop :=
  slot.id = id ∧ id ∈ s.given ∧ s.address id = slot.ip

/-- Every ID in use was given out, for the address it has. -/
structure Ledger (s : State) : Prop where
  slots_given : ∀ {id : String} {slot : Slot}, s.slots.lookup id = some slot → Given s id slot
  files_given : ∀ {id : String} {slot : Slot}, s.files.lookup id = some slot → Given s id slot
  reserved : ∀ {id : String}, s.preparing = some id → id ∈ s.given ∧
    ∀ slot, s.slots.lookup id = some slot → slot.phase = .destroying ∧ slot.owner = {}
  unused : s.used = false → s.slots = ∅ ∧ s.preparing = none ∧ s.torn = ∅
  live_given : s.live ⊆ s.given

/-- What a call may rely on at its place. -/
structure Placed (s : State) (p : Place) : Prop where
  targets : ∀ id ∈ p.targets, s.used ∧ id ∈ s.given
  prep : ∀ slot, p.prep = some slot → s.preparing = some slot.id ∧ slot.phase = .clean ∧
    slot.owner = {} ∧ Given s slot.id slot
  guest : ∀ slot, p.guest = some slot → slot.phase = .bound ∧ s.address slot.id = slot.ip
  stored : ∀ loaded, p.stored = some loaded → s.used = false →
    ∀ slot ∈ loaded, s.files.lookup slot.id = some slot

/-- At most one of two calls prepares a slot. -/
def Apart (p q : Place) : Prop := p.prep = none ∨ q.prep = none

/-- What no section takes back. -/
structure Grows (s s' : State) : Prop where
  used : s.used → s'.used
  given : s.given ⊆ s'.given
  address : ∀ id ∈ s.given, s'.address id = s.address id
  files : s'.used = false → s'.files = s.files

section Ledger

variable {cfg : Config} {s s' : State} {p q : Place} {c : Choice} {ps : List Place}

theorem Grows.refl (s : State) : Grows s s :=
  ⟨id, Finset.Subset.refl _, fun _ _ => rfl, fun _ => rfl⟩

variable {id gone : String} {file slot : Slot}

theorem Given.grows (hg : Grows s s') (h : Given s id slot) : Given s' id slot :=
  ⟨h.1, hg.given h.2.1, (hg.address id h.2.1).trans h.2.2⟩

theorem Given.boundBy (h : Given s slot.id slot) (owner : Owner) :
    Given s (slot.boundBy owner).id (slot.boundBy owner) := h

theorem Given.marked (h : Given s slot.id slot) : Given s slot.marked.id slot.marked := h

theorem Ledger.used_of_lookup (hI : Ledger s) (h : s.slots.lookup id = some slot) : s.used := by
  by_contra hu
  rw [(hI.unused (eq_false_iff.mpr hu)).1, Finmap.lookup_empty] at h
  cases h

theorem Ledger.used_of_preparing (hI : Ledger s) (h : s.preparing = some id) : s.used := by
  by_contra hu
  rw [(hI.unused (eq_false_iff.mpr hu)).2.1] at h
  cases h

theorem Turn.grows (turn : Turn cfg s p c s' ps) (hI : Ledger s) (hT : Placed s p)
    (hG : Orderly s p c) : Grows s s' := by
  -- sections that write a file belong to calls that have found or reserved a slot
  have hk : ∀ {s1 : State}, s1.given = s.given → s1.address = s.address → s1.used = s.used →
      (s.used ∨ s1.files = s.files) → Grows s s1 := by
    intro s1 hg ha hu hf
    refine ⟨hu.trans, hg ▸ Finset.Subset.refl _, fun id _ => by rw [ha], fun h => ?_⟩
    rcases hf with ht | heq
    · rw [hu, ht] at h
      cases h
    · exact heq
  have htg : ∀ {id : String}, id ∈ p.targets → s.used := fun h => (hT.targets _ h).1
  have hp : ∀ {slot : Slot}, p.prep = some slot → s.used :=
    fun h => hI.used_of_preparing (hT.prep _ h).1
  cases turn with
  | glances => exact .refl s
  | inserts => exact ⟨fun _ => rfl, Finset.Subset.refl _, fun _ _ => rfl, nofun⟩
  | returns | tears | destroys | forgets | prepares | spoils | publishes | races | discards
  | unreserves | closes => exact hk rfl rfl rfl (.inr rfl)
  | binds _ _ _ hl => exact hk rfl rfl rfl (.inl (hI.used_of_lookup hl))
  | strands _ _ _ hl => exact hk rfl rfl rfl (.inl (hI.used_of_lookup hl))
  | guests _ hl => exact hk rfl rfl rfl (.inl (hI.used_of_lookup hl))
  | marks _ hl => exact hk rfl rfl rfl (.inl (hI.used_of_lookup hl))
  | misses _ _ hl => exact hk rfl rfl rfl (.inl (hI.used_of_lookup hl))
  | deletes | lingers => exact hk rfl rfl rfl (.inl (htg (mem_insert_self _ _)))
  | @reserves id =>
    have hr : id ∉ s.given := hG
    refine ⟨fun _ => rfl, subset_insert _ _, fun id' hi' => ?_, nofun⟩
    have hne : id' ≠ id := fun h => hr (h ▸ hi')
    exact update_of_ne hne _ _
  | saves | unsaved | drops => exact hk rfl rfl rfl (.inl (hp rfl))

/-- An entry of the map, and what it may be while its ID is being prepared. -/
def Entry (s : State) (id : String) (slot : Slot) : Prop :=
  Given s id slot ∧ (s.preparing = some id → slot.phase = .destroying ∧ slot.owner = {})

section

variable (hI : Ledger s)
include hI

section

variable (h : s.slots.lookup id = some slot)
include h

theorem Ledger.entry : Entry s id slot := ⟨hI.slots_given h, fun hp => (hI.reserved hp).2 slot h⟩

theorem Ledger.given_of_lookup : Given s slot.id slot := by
  obtain ⟨rfl, h⟩ := hI.slots_given h
  exact ⟨rfl, h⟩

theorem Ledger.not_preparing (hh : slot.phase ≠ .destroying) : s.preparing ≠ some id :=
  fun hp => hh ((hI.reserved hp).2 slot h).1

end

theorem Ledger.entry_put (hs : Entry s slot.id slot) {other : Slot}
    (h : (s.slots.insert slot.id slot).lookup id = some other) : Entry s id other := by
  obtain ⟨rfl, rfl⟩ | ⟨-, hold⟩ := lookup_insert_cases h
  · exact hs
  · exact hI.entry hold

theorem Ledger.entry_erase (h : (s.slots.erase gone).lookup id = some slot) : Entry s id slot :=
  hI.entry (lookup_erase_cases h).2

theorem Ledger.files_save (hs : Given s slot.id slot) (w : Written)
    (h : (s.save slot w).files.lookup id = some file) : Given s id file := by
  simp only [State.save] at h
  split at h
  · obtain ⟨rfl, rfl⟩ | ⟨-, hold⟩ := lookup_insert_cases h
    · exact hs
    · exact hI.files_given hold
  · exact hI.files_given h

theorem Ledger.files_delete {w : Written} (h : (s.delete gone w).files.lookup id = some file)
    : Given s id file := by
  simp only [State.delete] at h
  split at h
  · exact hI.files_given (lookup_erase_cases h).2
  · exact hI.files_given h

theorem Ledger.keep (hg : Grows s s') (hv : s'.given = s.given)
    (hl : ∀ {id : String} {slot : Slot}, s'.slots.lookup id = some slot → Entry s id slot)
    (hf : ∀ {id : String} {slot : Slot}, s'.files.lookup id = some slot → Given s id slot)
    (he : s'.preparing = s.preparing ∨ s'.preparing = none)
    (hun : s'.used ∨ (s'.slots = s.slots ∧ s'.torn = s.torn)) (hlv : s'.live ⊆ s.given)
    : Ledger s' where
  slots_given h := (hl h).1.grows hg
  files_given h := (hf h).grows hg
  reserved {id} h := by
    rcases he with heq | hn
    · rw [heq] at h
      exact ⟨hv ▸ (hI.reserved h).1, fun slot hst => (hl hst).2 h⟩
    · rw [hn] at h
      cases h
  unused h := by
    have hs : s.used = false := by
      by_contra hu
      rw [hg.used (eq_true_of_not_eq_false hu)] at h
      cases h
    obtain ⟨hl0, he0, ht0⟩ := hI.unused hs
    rcases hun with hu | ⟨hl', ht'⟩
    · rw [hu] at h
      cases h
    refine ⟨hl'.trans hl0, ?_, ht'.trans ht0⟩
    rcases he with heq | hn
    · exact heq.trans he0
    · exact hn
  live_given := hv ▸ hlv

end

/-! ## Places -/

theorem Place.guest_target (h : p.guest = some slot) : slot.id ∈ p.targets := by
  cases p <;> cases h <;> exact mem_singleton_self _

/-- Where a call may have a slot from that it did not hold before. -/
def Found (s : State) (p : Place) (id : String) : Prop :=
  ∃ slot, s.slots.lookup id = some slot ∧
    (slot.phase = .bound ∨ p = .findTarget slot.owner ∨ p = .closeSnapshot)

theorem mem_ids_of_mem {rest : List Slot} (h : id ∈ (rest.map Slot.id).toFinset) :
    id ∈ ((slot :: rest).map Slot.id).toFinset := by
  rw [List.map_cons, List.toFinset_cons]
  exact mem_insert_of_mem h

theorem mem_ids_self (slot : Slot) (rest : List Slot) :
    slot.id ∈ ((slot :: rest).map Slot.id).toFinset := by
  rw [List.map_cons, List.toFinset_cons]
  exact mem_insert_self _ _

section

variable (h : Leads s p q)
include h

theorem Leads.targets (hI : Ledger s) (hi : id ∈ q.targets) : id ∈ p.targets ∨ Found s p id := by
  cases h with
  | loads | checked | reconciled | room | full | again => cases hi
  | @interrupted slot rest | asks slot rest | orphan owners slot rest =>
    rcases mem_insert.mp hi with rfl | hr
    · exact .inl (mem_ids_self slot rest)
    · exact .inl (mem_ids_of_mem hr)
  | valid => exact .inl (mem_insert_of_mem hi)
  | invalid | applied | marked => exact .inl hi
  | @lists bound owners hl =>
    obtain ⟨slot, he, rfl⟩ := List.mem_map.mp (List.mem_toFinset.mp hi)
    have hb := (of_decide_eq_true hl).2
    have hk := hb.2 slot he
    have hm' : slot.id ∈ (bound.map Slot.id).toFinset := hi
    rw [hb.1] at hm'
    have hf := mem_filter.mp hm'
    rw [hk, any_some] at hf
    exact .inr ⟨slot, hk, .inl (of_decide_eq_true hf.2)⟩
  | agrees => exact .inl (mem_ids_of_mem hi)
  | @findsGuest id' slot owner guestIP hk hb =>
    rw [Place.targets, mem_singleton] at hi
    have ho := (hI.slots_given hk).1
    subst hi
    subst ho
    exact .inr ⟨slot, hk, .inl (of_decide_eq_true hb).1⟩
  | @findsTarget id' slot hk =>
    rcases mem_insert.mp hi with rfl | hr
    · have ho := (hI.slots_given hk).1
      subst ho
      exact .inr ⟨slot, hk, .inr (.inl rfl)⟩
    · cases hr
  | absent hp hk hq =>
    rw [mem_next hq, after_targets] at hi
    rcases hp with rfl | rfl
    · exact .inl (mem_insert_of_mem hi)
    · exact .inl (mem_insert_of_mem hi)
  | stuck slot hq =>
    rw [mem_next hq, after_targets] at hi
    exact .inl (mem_insert_of_mem hi)
  | snapshot =>
    obtain ⟨slot, hk⟩ := Finmap.mem_iff.mp (Finmap.mem_keys.mp hi)
    exact .inr ⟨slot, hk, .inr (.inr rfl)⟩
  | closing he =>
    rcases mem_insert.mp hi with rfl | hr
    · exact .inl he
    · exact .inl (mem_of_mem_erase hr)

theorem Leads.prep : q.prep = none := by
  cases h with
  | absent _ _ hq | stuck _ hq =>
    rw [mem_next hq]
    exact after_prep _
  | _ => rfl

theorem Leads.guest (hI : Ledger s) (hT : Placed s p)
    (hg : q.guest = some slot) : slot.phase = .bound ∧ s.address slot.id = slot.ip := by
  cases h with
  | findsGuest guestIP hl hb =>
    cases hg
    exact ⟨(of_decide_eq_true hb).1, (hI.given_of_lookup hl).2.2⟩
  | applied slot =>
    cases hg
    exact hT.guest slot rfl
  | absent _ _ hq | stuck _ hq =>
    rw [mem_next hq, after_guest] at hg
    cases hg
  | _ => cases hg

theorem Leads.stored {loaded : List Slot} (ho : q.stored = some loaded) :
    ∀ slot ∈ loaded, s.files.lookup slot.id = some slot := by
  cases h with
  | loads he =>
    cases ho
    exact (of_decide_eq_true he).2.2
  | absent _ _ hq | stuck _ hq =>
    rw [mem_next hq, after_stored] at ho
    cases ho
  | _ => cases ho

theorem Leads.placed (hI : Ledger s) (hT : Placed s p) : Placed s q where
  targets id hi := by
    rcases h.targets hI hi with hold | ⟨slot, hk, -⟩
    · exact hT.targets id hold
    · exact ⟨hI.used_of_lookup hk, (hI.slots_given hk).2.1⟩
  prep slot hs := by
    rw [h.prep] at hs
    cases hs
  guest _ hs := h.guest hI hT hs
  stored _ hl _ := h.stored hl

end

theorem Placed.of_targets (hp : p.prep = none) (hg : p.guest = none)
    (ho : p.stored = none) (h : ∀ id ∈ p.targets, s.used ∧ id ∈ s.given) : Placed s p where
  targets := h
  prep slot hs := by
    rw [hp] at hs
    cases hs
  guest slot hs := by
    rw [hg] at hs
    cases hs
  stored loaded hl := by
    rw [ho] at hl
    cases hl

theorem Placed.preparing (hp : p.prep = some slot) (he : s.preparing = some slot.id)
    (hh : slot.phase = .clean) (hw : slot.owner = {}) (hv : Given s slot.id slot) : Placed s p := by
  have hot : p.targets = ∅ ∧ p.guest = none ∧ p.stored = none := by
    cases p <;> cases hp <;> exact ⟨rfl, rfl, rfl⟩
  obtain ⟨ha, hg, ho⟩ := hot
  refine ⟨?_, ?_, ?_, ?_⟩
  · rw [ha]
    intro id hi
    cases hi
  · intro slot' h
    rw [hp] at h
    cases h
    exact ⟨he, hh, hw, hv⟩
  · intro slot' h
    rw [hg] at h
    cases h
  · intro _ h
    rw [ho] at h
    cases h

theorem Placed.frame (h : Placed s p) (hg : Grows s s')
    (he : p.prep = none ∨ s'.preparing = s.preparing) : Placed s' p where
  targets id hi := ⟨hg.used (h.targets id hi).1, hg.given (h.targets id hi).2⟩
  prep slot hs := by
    obtain ⟨h1, h2, h3, h4⟩ := h.prep slot hs
    rcases he with hn | heq
    · rw [hn] at hs
      cases hs
    · exact ⟨heq.trans h1, h2, h3, h4.grows hg⟩
  guest slot hs := by
    obtain ⟨h1, h2⟩ := h.guest slot hs
    have hv := (h.targets slot.id (Place.guest_target hs)).2
    exact ⟨h1, (hg.address _ hv).trans h2⟩
  stored loaded hl hu := by
    have hu0 : s.used = false := by
      by_contra h0
      rw [hg.used (eq_true_of_not_eq_false h0)] at hu
      cases hu
    rw [hg.files hu]
    exact h.stored loaded hl hu0

theorem ledger_start {files : StringMap Slot}
    (h : ∀ {id : String} {slot : Slot}, files.lookup id = some slot → slot.id = id) :
    Ledger (.start files) where
  slots_given hl := by
    rw [State.start, Finmap.lookup_empty] at hl
    cases hl
  files_given {id slot} hl := by
    have hf : files.lookup id = some slot := hl
    refine ⟨h hf, Finmap.mem_keys.mpr (Finmap.mem_of_lookup_eq_some hf), ?_⟩
    show (files.lookup id).bind Slot.ip = slot.ip
    rw [hf, bind_some]
  reserved he := nomatch he
  unused _ := ⟨rfl, rfl, rfl⟩
  live_given := Finset.Subset.refl _

theorem Ledger.reset (hI : Ledger s) : Ledger s.reset where
  slots_given hl := by
    rw [State.reset, Finmap.lookup_empty] at hl
    cases hl
  files_given hl := hI.files_given hl
  reserved he := nomatch he
  unused _ := ⟨rfl, rfl, rfl⟩
  live_given := hI.live_given

variable (turn : Turn cfg s p c s' ps)
include turn

theorem Turn.preparing : s'.preparing = s.preparing ∨ p.prep ≠ none ∨ s.preparing = none := by
  cases turn with
  | reserves hf => exact .inr (.inr hf)
  | publishes | unreserves => exact .inr (.inl (by simp [Place.prep]))
  | _ => exact .inl rfl

theorem Turn.placed (hI : Ledger s) (hT : Placed s p)
    (hG : Orderly s p c) : ∀ q ∈ ps, Placed s' q := by
  have hg := turn.grows hI hT hG
  -- a call goes on with targets it had before
  have ho : ∀ {q0 : Place}, q0.prep = none → q0.guest = none → q0.stored = none →
      q0.targets ⊆ p.targets → ∀ q ∈ [q0], Placed s' q := by
    intro q0 hr hu hso hsub q hq
    rw [List.mem_singleton.mp hq]
    refine .of_targets hr hu hso fun id hi => ?_
    obtain ⟨hus, hv⟩ := hT.targets id (hsub hi)
    exact ⟨hg.used hus, hg.given hv⟩
  have hx : ∀ {k : Cont} {ok : Bool}, k.targets ⊆ p.targets → ∀ q ∈ k.next ok, Placed s' q := by
    intro k ok hsub q hq
    refine ho (after_prep k) (after_guest k) (after_stored k) ?_ q
      (List.mem_singleton.mpr (mem_next hq))
    rw [after_targets]
    exact hsub
  have hn : ∀ {q0 : Place}, q0.prep = none → q0.guest = none → q0.stored = none →
      q0.targets = ∅ → Placed s' q0 := by
    intro q0 hr hu hso ha
    refine .of_targets hr hu hso ?_
    rw [ha]
    intro id hi
    cases hi
  -- a preparation goes on with the same slot
  have hr : ∀ {q0 : Place} {slot : Slot}, p.prep = some slot → q0.prep = some slot →
      s'.preparing = s.preparing → ∀ q ∈ [q0], Placed s' q := by
    intro q0 slot hp hq0 heq q hq
    rw [List.mem_singleton.mp hq]
    obtain ⟨h1, h2, h3, h4⟩ := hT.prep slot hp
    exact .preparing hq0 (heq.trans h1) h2 h3 (h4.grows hg)
  cases turn with
  | glances c hp hs => exact fun q hq => (hs q hq).placed hI hT
  | @inserts loaded ps hs =>
    intro q hq
    rw [(hs q hq).1]
    refine .of_targets rfl rfl rfl fun id hi => ?_
    obtain ⟨slot, he, rfl⟩ := List.mem_map.mp (List.mem_toFinset.mp hi)
    exact ⟨rfl, (hI.files_given (hT.stored loaded rfl hG slot he)).2.1⟩
  | returns | binds | strands | guests => simp
  | marks | destroys | deletes => exact ho rfl rfl rfl (Finset.Subset.refl _)
  | misses | lingers | forgets => exact hx (subset_insert _ _)
  | @tears id slot k hl =>
    refine ho rfl rfl rfl ?_
    show insert slot.id k.targets ⊆ insert id k.targets
    rw [(hI.slots_given hl).1]
  | reserves =>
    intro q hq
    rw [List.mem_singleton.mp hq]
    exact .preparing rfl rfl rfl rfl ⟨rfl, mem_insert_self _ _, update_self _ _ _⟩
  | prepares | spoils | saves | unsaved | races | drops => exact hr rfl rfl rfl
  | publishes | closes =>
    intro q hq
    rw [List.mem_singleton.mp hq]
    exact hn rfl rfl rfl rfl
  | discards slot raced ok hq0 =>
    rcases hq0 with rfl | rfl
    · exact hr rfl rfl rfl
    · exact hr rfl rfl rfl
  | unreserves slot more hs =>
    intro q hq
    rw [hs q hq]
    exact hn rfl rfl rfl rfl

theorem Turn.prep :
    (∀ q ∈ ps, q.prep = none) ∨ ((p.prep ≠ none ∨ s.preparing = none) ∧ ∃ q, ps = [q]) := by
  have hn : ∀ {k : Cont} {ok : Bool}, ∀ q ∈ k.next ok, q.prep = none := by
    intro k ok q hq
    rw [mem_next hq]
    exact after_prep k
  have hr : ∀ {q : Place}, p.prep ≠ none →
      (∀ q' ∈ [q], q'.prep = none) ∨ ((p.prep ≠ none ∨ s.preparing = none) ∧ ∃ q', [q] = [q']) :=
    fun h => .inr ⟨.inl h, _, rfl⟩
  cases turn with
  | glances c hp hs => exact .inl fun q hq => (hs q hq).prep
  | inserts hs => exact .inl fun q hq => by rw [(hs q hq).1]; rfl
  | returns | binds | strands | guests => exact .inl (by simp)
  | marks | tears | destroys | deletes | closes =>
    exact .inl fun q hq => by rw [List.mem_singleton.mp hq]; rfl
  | misses | lingers | forgets => exact .inl hn
  | reserves hf => exact .inr ⟨.inr hf, _, rfl⟩
  | unreserves slot more hs => exact .inl fun q hq => by rw [hs q hq]; rfl
  | _ => exact hr (by simp [Place.prep])

theorem Turn.ledger (hI : Ledger s) (hT : Placed s p) (hG : Orderly s p c) : Ledger s' := by
  have hg := turn.grows hI hT hG
  have hn : ∀ {id : String} {slot : Slot}, s.slots.lookup id = some slot → Entry s id slot :=
    hI.entry
  have hr : ∀ {slot : Slot}, p.prep = some slot → s.used :=
    fun h => hI.used_of_preparing (hT.prep _ h).1
  cases turn with
  | glances => exact hI
  | @inserts loaded =>
    have hu : s.used = false := hG
    obtain ⟨_, he, -⟩ := hI.unused hu
    refine hI.keep hg rfl ?_ hI.files_given (.inl rfl) (.inl rfl) hI.live_given
    intro id slot h
    rcases lookup_insertStored h with hold | ⟨hm, rfl⟩
    · exact hI.entry hold
    · refine ⟨hI.files_given (hT.stored loaded rfl hu slot hm), fun hp => ?_⟩
      rw [he] at hp
      cases hp
  | returns | closes =>
    exact hI.keep hg rfl hn hI.files_given (.inl rfl) (.inr ⟨rfl, rfl⟩) hI.live_given
  | @binds id slot owner found hd hnn hl hh =>
    have hv := (hI.given_of_lookup hl).boundBy owner
    have hf : s.preparing ≠ some slot.id := by
      rw [(hI.slots_given hl).1]
      exact hI.not_preparing hl (by rw [hh]; decide)
    exact hI.keep hg rfl (hI.entry_put ⟨hv, fun hp => absurd hp hf⟩)
      (hI.files_save hv .ok) (.inl rfl) (.inl (hI.used_of_lookup hl)) hI.live_given
  | @strands id slot owner found effective hl =>
    have hv := (hI.given_of_lookup hl).boundBy owner
    exact hI.keep hg rfl hn (hI.files_save hv _) (.inl rfl) (.inr ⟨rfl, rfl⟩) hI.live_given
  | @guests applied current w hl hb =>
    have hc := hI.slots_given hl
    have hv : Given s applied.id applied := ⟨rfl, hc.2.1, (hT.guest applied rfl).2⟩
    have hf : s.preparing ≠ some applied.id :=
      hI.not_preparing hl (by rw [(of_decide_eq_true hb).1]; decide)
    exact hI.keep hg rfl (hI.entry_put ⟨hv, fun hp => absurd hp hf⟩)
      (hI.files_save hv w) (.inl rfl) (.inl (hI.used_of_lookup hl)) hI.live_given
  | @marks id slot k hl hh =>
    have hv := (hI.given_of_lookup hl).marked
    have hf : s.preparing ≠ some slot.id := by
      rw [(hI.slots_given hl).1]
      exact hI.not_preparing hl hh
    exact hI.keep hg rfl (hI.entry_put ⟨hv, fun hp => absurd hp hf⟩)
      (hI.files_save hv .ok) (.inl rfl) (.inl (hI.used_of_lookup hl)) hI.live_given
  | @misses id slot k effective hl =>
    have hv := (hI.given_of_lookup hl).marked
    exact hI.keep hg rfl hn (hI.files_save hv _) (.inl rfl) (.inr ⟨rfl, rfl⟩) hI.live_given
  | tears k hl =>
    exact hI.keep hg rfl hn hI.files_given (.inl rfl) (.inl (hI.used_of_lookup hl)) hI.live_given
  | destroys =>
    exact hI.keep hg rfl hn hI.files_given (.inl rfl) (.inr ⟨rfl, rfl⟩)
      ((erase_subset _ _).trans hI.live_given)
  | deletes | lingers | drops =>
    exact hI.keep hg rfl hn hI.files_delete (.inl rfl) (.inr ⟨rfl, rfl⟩) hI.live_given
  | forgets id =>
    exact hI.keep hg rfl hI.entry_erase hI.files_given (.inl rfl)
      (.inl (hT.targets id (mem_insert_self _ _)).1) hI.live_given
  | @reserves id ip =>
    have ht : Given (s.reserve (cfg.newSlot id ip)) id (cfg.newSlot id ip) :=
      ⟨rfl, mem_insert_self _ _, update_self _ _ _⟩
    refine ⟨?_, fun h => (hI.files_given h).grows hg, ?_, nofun, hI.live_given.trans hg.given⟩
    · intro id' slot h
      obtain ⟨rfl, rfl⟩ | ⟨-, hold⟩ := lookup_insert_cases h
      · exact ht
      · exact (hI.slots_given hold).grows hg
    · intro id' h
      cases h
      refine ⟨mem_insert_self _ _, fun slot hl => ?_⟩
      obtain ⟨-, rfl⟩ | ⟨hne, -⟩ := lookup_insert_cases hl
      · exact ⟨rfl, rfl⟩
      · exact absurd rfl hne
  | prepares slot | spoils slot =>
    exact hI.keep hg rfl hn hI.files_given (.inl rfl) (.inl (hr rfl))
      (insert_subset (hT.prep slot rfl).2.2.2.2.1 hI.live_given)
  | saves slot =>
    exact hI.keep hg rfl hn (hI.files_save (hT.prep slot rfl).2.2.2 .ok) (.inl rfl)
      (.inl (hr rfl)) hI.live_given
  | unsaved slot =>
    exact hI.keep hg rfl hn (hI.files_save (hT.prep slot rfl).2.2.2 _) (.inl rfl)
      (.inl (hr rfl)) hI.live_given
  | publishes slot =>
    obtain ⟨he, -, -, hv⟩ := hT.prep slot rfl
    -- the published slot may be anything: nothing is under preparation any more
    refine ⟨?_, fun h => (hI.files_given h).grows hg, nofun, fun h => ?_, hI.live_given⟩
    · intro id _ h
      obtain ⟨rfl, rfl⟩ | ⟨-, hold⟩ := lookup_insert_cases h
      · exact hv
      · exact hI.slots_given hold
    · have hs : s.used = false := h
      rw [hr rfl] at hs
      cases hs
  | races => exact hI.keep hg rfl hn hI.files_given (.inl rfl) (.inl (hr rfl)) hI.live_given
  | discards =>
    refine hI.keep hg rfl hn hI.files_given (.inl rfl) (.inr ⟨rfl, rfl⟩) ?_
    split
    · exact (erase_subset _ _).trans hI.live_given
    · exact hI.live_given
  | unreserves =>
    exact hI.keep hg rfl hI.entry_erase hI.files_given (.inr rfl) (.inl (hr rfl)) hI.live_given

end Ledger

/-- **The ledger is kept by every section**, whatever other calls are in flight. -/
theorem ledger_outline (cfg : Config) :
    System.Outline (manager cfg) Orderly Ledger Placed Apart where
  symm := Or.symm
  entry_holds e _ := by
    refine .of_targets ?_ ?_ ?_ ?_ <;> cases e <;> first | rfl | (intro _ hi; cases hi)
  entry_compat e q := by
    refine .inl ?_
    cases e <;> rfl
  local_step hI hT hG ha := by
    have turn := advance_turn ha
    refine ⟨turn.ledger hI hT hG, turn.placed hI hT hG, ?_⟩
    rcases turn.prep with hn | ⟨-, q, rfl⟩
    · exact List.pairwise_of_forall_mem_list fun q hq _ _ => .inl (hn q hq)
    · exact List.pairwise_singleton _ _
  frame_step := by
    intro s _ p q c _ hI hT hU hC hG ha
    have turn := advance_turn ha
    have hf : s.preparing = none → q.prep = none := by
      intro hn
      by_contra hq
      obtain ⟨slot, hs⟩ := ne_none_iff_exists'.mp hq
      have he := (hU.prep slot hs).1
      rw [hn] at he
      cases he
    refine ⟨hU.frame (turn.grows hI hT hG) ?_, fun p' hp' => ?_⟩
    · rcases turn.preparing with heq | hp | hn
      · exact .inr heq
      · exact .inl (hC.resolve_left hp)
      · exact .inl (hf hn)
    · rcases turn.prep with hn | ⟨hp | hn, -⟩
      · exact .inl (hn p' hp')
      · exact .inr (hC.resolve_left hp)
      · exact .inr (hf hn)

variable {G : State → Place → Choice → Prop} {T : State → Place → Prop}

theorem holds_of_reaches {R I : State → Prop} {files : StringMap Slot}
    {w : World (Process State) (Job Place Call)} (ho : System.Outline (manager cfg) G I T Apart)
    (hr : ∀ {s : State}, R s → I s → I s.reset) (ha : I (.start files))
    (h : (system cfg).Reaches ((manager cfg).OnJobs G R) (boot files) w) :
    System.Holds (fun p : Process State => I p.memory) (System.JobHolds T)
      (System.JobsMeet Apart) w :=
  (ho.restarting hr).reaches (.start ha) h

theorem step_cases {R I : State → Prop} {w w' : World (Process State) (Job Place Call)}
    {ev : Event (Option Call) Choice} (ho : System.Outline (manager cfg) G I T Apart)
    (hw : System.Holds (fun p : Process State => I p.memory) (System.JobHolds T)
      (System.JobsMeet Apart) w)
    (ha : System.Allowed ((manager cfg).OnJobs G R) w ev) (hs : (system cfg).step w ev = some w') :
    w'.shared.memory = w.shared.memory ∨ w'.shared.memory = w.shared.memory.reset ∨
      ∃ p c ps, advance cfg w.shared.memory p c = some (w'.shared.memory, ps) ∧
        T w.shared.memory p ∧ G w.shared.memory p c := by
  cases ev with
  | spawn =>
    cases hs
    exact .inl rfl
  | run i c =>
    obtain ⟨job, _, _, _, _, hge, hd, hta, rfl⟩ := step_run_cases hs
    obtain ⟨-, rfl, -⟩ | ⟨t, _, ts, he, rfl, -, hj⟩ := restarting_cases hd
    · exact .inr (.inl rfl)
    · have hT : System.JobHolds T w.shared job := hw.task job (hta ▸ by simp)
      obtain ⟨ht, hg⟩ := task_of_job (fun e => ho.entry_holds e hw.inv) hj hT (ha job hge)
      exact .inr (.inr ⟨t, c, ts, he, ht, hg⟩)

theorem Turn.answers {s s' : State} {p : Place} {c : Choice} {ps : List Place}
    (turn : Turn cfg s p c s' ps) : s'.answers = s.answers ∨
      ∃ owner found w id slot returned, p = .acquire owner ∧ c = .acquired found w ∧
        s.slots.lookup id = some slot ∧ returned.id = slot.id ∧
        s'.answers = s.answers ++ [(owner, returned)] ∧
        ((slot.phase = .bound ∧ slot.owner = owner) ∨ slot.phase = .clean) := by
  cases turn with
  | @returns id slot found w hl hp =>
    exact .inr ⟨_, found, w, id, slot, slot, rfl, rfl, hl, rfl, rfl, .inl ⟨hp, rfl⟩⟩
  | @binds id slot owner found hv hn hl hp =>
    exact .inr ⟨owner, found, .ok, id, slot, slot.boundBy owner, rfl, rfl, hl, rfl, rfl, .inr hp⟩
  | _ => exact .inl rfl

end FastSandbox.Network
