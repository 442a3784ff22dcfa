import FastSandbox.Network.Ledger

/-!
# Calls that nothing interrupts

The runtime drivers call `Acquire`, `ApplyGuest` and `Release` one after the other for a Sandbox.
Here the sections of such a call are put together to one function of what the environment decides;
`release_reaches` and `applyGuest_reaches` say that each is a run of the manager.
-/

namespace FastSandbox.Network

open Interleaving State System

/-- What the environment decides in one `Release`: which match the loop over the map meets first,
and how the save, the driver's `Destroy` and the deletion of the file end. -/
structure ReleaseFate where
  found : Option String
  save : Written
  destroy : Bool
  delete : Written

/-- The same for `ApplyGuest`. -/
structure GuestFate where
  found : Option String
  driver : Bool
  save : Written

namespace State

variable (s : State)

/-- `destroySlot`, and whether it returns nil. -/
def destroySlot (id : String) (f : ReleaseFate) : State × Bool :=
  match s.slots.lookup id with
  | none => (s, true)
  | some _ =>
    if f.destroy then
      let s' := State.delete { s.tear id with live := s.live.erase id } id f.delete
      if f.delete = .ok then ({ s' with slots := s'.slots.erase id }, true) else (s', false)
    else (s.tear id, false)

/-- `markAndDestroy`, and whether it returns nil. -/
def markAndDestroy (id : String) (f : ReleaseFate) : State × Bool :=
  match s.mark id f.save with
  | (s', .absent) => (s', true)
  | (s', .failed) => (s', false)
  | (s', .marked) => s'.destroySlot id f

/-- `Release`, and whether it returns nil. -/
def release (owner : Owner) (f : ReleaseFate) : Option (State × Bool) :=
  if s.finds (heldBy owner.sandboxUID) f.found then
    match f.found.bind s.slots.lookup with
    | none => some (s, true)
    | some slot => if slot.owner = owner then some (s.markAndDestroy slot.id f) else some (s, false)
  else none

/-- `ApplyGuest`, and whether it returns nil. -/
def applyGuest (cfg : Config) (owner : Owner) (guestIP : String) (f : GuestFate) :
    Option (State × Bool) :=
  if s.finds (boundExactly owner) f.found then
    match f.found.bind s.slots.lookup with
    | none => some (s, false)
    | some slot =>
      if cfg.guestDataPlane && !f.driver then some (s, false)
      else some (s.commitGuest { slot with guestIP } f.save)
  else none

/-- `Lookup`: the Bound slot of a Sandbox that the loop over the map meets first. -/
def lookupBound (uid : String) (found : Option String) : Option (Option Slot) :=
  if s.finds (boundTo uid) found then some (found.bind s.slots.lookup) else none

end State

section Calls

variable {cfg : Config} {s s' : State} {p : Place} {c : Choice} {ps : List Place} {ok : Bool}
  {w : World State Place} {qs : List Place}

theorem alone_reaches (h : (manager cfg).Reaches anyStep w ⟨s, qs ++ [p]⟩)
    (hd : advance cfg s p c = some (s', ps)) : (manager cfg).Reaches anyStep w ⟨s', qs ++ ps⟩ := by
  have hi : (qs ++ [p])[qs.length]? = some p := List.getElem?_concat_length
  have he : (manager cfg).step ⟨s, qs ++ [p]⟩ (.run qs.length c) = some ⟨s', qs ++ ps⟩ := by
    have ha' : (manager cfg).advance s p c = some (s', ps) := hd
    simp [step, ha']
  exact h.run hi trivial he

variable {id gone guestIP : String} {f : ReleaseFate}

theorem destroySlot_reaches (k : Cont)
    (hk : ∀ {slot : Slot}, s.slots.lookup id = some slot → slot.id = id)
    (h : (manager cfg).Reaches anyStep w ⟨s, qs ++ [.readSlot id k]⟩) :
    (manager cfg).Reaches anyStep w
      ⟨(s.destroySlot id f).1, qs ++ k.next (s.destroySlot id f).2⟩ := by
  unfold destroySlot
  cases hl : s.slots.lookup id with
  | none =>
    have hr : advance cfg s (.readSlot id k) .go = some (s, k.next true) := by
      simp only [advance, hl]
    exact alone_reaches h hr
  | some slot =>
    have hi := hk hl
    subst hi
    have hr : advance cfg s (.readSlot slot.id k) .go =
        some (s.tear slot.id, [.destroying slot k]) := by
      simp only [advance, hl]
    have he := alone_reaches h hr
    cases f.destroy with
    | false => exact alone_reaches (c := .driver false) he rfl
    | true =>
      have hd := alone_reaches (c := .driver true) he rfl
      cases f.delete with
      | ok =>
        have hdl := alone_reaches (c := .store .ok) hd rfl
        exact alone_reaches (c := .go) hdl rfl
      | failed effective => exact alone_reaches (c := .store (.failed effective)) hd rfl

variable {slot : Slot}

theorem mark_lookup {w : Written}
    (hk : ∀ {slot : Slot}, s.slots.lookup id = some slot → slot.id = id)
    (h : (s.mark id w).1.slots.lookup id = some slot) : slot.id = id := by
  unfold mark at h
  split at h
  · exact hk h
  rename_i hl
  split at h
  · exact hk h
  split at h
  · obtain ⟨-, rfl⟩ | ⟨-, hold⟩ := lookup_insert_cases h
    · have hi := hk hl
      exact hi
    · exact hk hold
  · exact hk h

theorem markAndDestroy_reaches (k : Cont)
    (hk : ∀ {slot : Slot}, s.slots.lookup id = some slot → slot.id = id)
    (h : (manager cfg).Reaches anyStep w ⟨s, qs ++ [.mark id k]⟩) : (manager cfg).Reaches anyStep w
      ⟨(s.markAndDestroy id f).1, qs ++ k.next (s.markAndDestroy id f).2⟩ := by
  have hk' : ∀ {slot : Slot}, (s.mark id f.save).1.slots.lookup id = some slot → slot.id = id :=
    mark_lookup hk
  have hm : advance cfg s (.mark id k) (.store f.save) =
      match s.mark id f.save with
      | (s', .absent) => some (s', k.next true)
      | (s', .failed) => some (s', k.next false)
      | (s', .marked) => some (s', [.readSlot id k]) := rfl
  unfold markAndDestroy
  generalize s.mark id f.save = r at hk' hm
  obtain ⟨_, outcome⟩ := r
  cases outcome with
  | absent | failed => exact alone_reaches h hm
  | marked => exact destroySlot_reaches k hk' (alone_reaches h hm)

variable {owner : Owner}

/-- **An undisturbed `Release`** is a run of the manager. -/
theorem release_reaches
    (hk : ∀ {id : String} {slot : Slot}, s.slots.lookup id = some slot → slot.id = id)
    (hc : s.release owner f = some (s', ok))
    (h : (manager cfg).Reaches anyStep w ⟨s, qs ++ [.findTarget owner]⟩) :
    ∃ ps, (manager cfg).Reaches anyStep w ⟨s', qs ++ ps⟩ ∧ ∀ p ∈ ps, p = .replenish := by
  unfold release at hc
  split at hc
  · rename_i hi
    split at hc
    · rename_i hn
      cases hc
      have hf : advance cfg s (.findTarget owner) (.found f.found) = some (s, []) := by
        simp only [advance, hi, if_true, hn]
      exact ⟨_, alone_reaches h hf, by simp⟩
    · rename_i slot hs
      have hf : advance cfg s (.findTarget owner) (.found f.found) =
          some (s, if slot.owner = owner then [.mark slot.id .release] else []) := by
        simp only [advance, hi, if_true, hs]
      split at hc
      · rename_i ho
        rw [if_pos ho] at hf
        have he := markAndDestroy_reaches (f := f) .release hk (alone_reaches h hf)
        rw [Option.some.inj hc] at he
        refine ⟨_, he, fun p hp => ?_⟩
        cases ok with
        | false => cases hp
        | true => exact List.mem_singleton.mp hp
      · rename_i ho
        cases hc
        rw [if_neg ho] at hf
        exact ⟨_, alone_reaches h hf, by simp⟩
  · cases hc

/-- **An undisturbed `ApplyGuest`** is a run of the manager. -/
theorem applyGuest_reaches {f : GuestFate} (hc : s.applyGuest cfg owner guestIP f = some (s', ok))
    (h : (manager cfg).Reaches anyStep w ⟨s, qs ++ [.findGuest owner guestIP]⟩) :
    (manager cfg).Reaches anyStep w ⟨s', qs ++ []⟩ := by
  unfold applyGuest at hc
  split at hc
  · rename_i hi
    have hn : advance cfg s (.findGuest owner guestIP) (.found f.found) =
        some (s, (f.found.bind s.slots.lookup).toList.map (.applyGuest · guestIP)) := by
      simp only [advance, hi, if_true]
    split at hc
    · rename_i hnn
      cases hc
      rw [hnn] at hn
      exact alone_reaches h hn
    · rename_i slot hs
      rw [hs] at hn
      have hfd := alone_reaches h hn
      split at hc
      · rename_i hf
        cases hc
        have hd : advance cfg s (.applyGuest slot guestIP) (.driver f.driver) = some (s, []) := by
          simp only [advance, hf, if_true]
        exact alone_reaches hfd hd
      · rename_i hw
        have hd : advance cfg s (.applyGuest slot guestIP) (.driver f.driver) =
            some (s, [.commitGuest { slot with guestIP }]) := by
          simp only [advance, hw, if_false, Bool.false_eq_true]
        have ho : advance cfg s (.commitGuest { slot with guestIP }) (.store f.save) =
            some ((s.commitGuest { slot with guestIP } f.save).1, []) := rfl
        rw [Option.some.inj hc] at ho
        exact alone_reaches (alone_reaches hfd hd) ho
  · cases hc

/-! ## What a call does to the slots of a Sandbox -/

/-- Slots stand under their own IDs. -/
def Keyed (s : State) : Prop :=
  ∀ {id : String} {slot : Slot}, s.slots.lookup id = some slot → slot.id = id

/-- The slot is Bound to the Sandbox, or Destroying after it was. -/
def Owns (s : State) (uid id : String) (slot : Slot) : Prop :=
  s.slots.lookup id = some slot ∧ State.heldBy uid slot

/-- Slots of a Sandbox only disappear, and keep their owner. -/
def Dwindles (uid : String) (s s' : State) : Prop :=
  ∀ id slot', Owns s' uid id slot' → ∃ slot, Owns s uid id slot ∧ slot.owner = slot'.owner

variable {uid : String}

theorem Dwindles.of_slots (h : s'.slots = s.slots) : Dwindles uid s s' :=
  fun _ slot' ⟨hl, hh⟩ => ⟨slot', ⟨h ▸ hl, hh⟩, rfl⟩

theorem Dwindles.of_erase (h : s'.slots = s.slots.erase gone) : Dwindles uid s s' := by
  rintro _ slot' ⟨hl, hh⟩
  rw [h] at hl
  exact ⟨slot', ⟨(lookup_erase_cases hl).2, hh⟩, rfl⟩

theorem Dwindles.trans {s1 : State} (h1 : Dwindles uid s s1) (h2 : Dwindles uid s1 s') :
    Dwindles uid s s' := by
  intro id slot' hw
  obtain ⟨slot1, ho1, heq1⟩ := h2 id slot' hw
  obtain ⟨slot, ho0, heq0⟩ := h1 id slot1 ho1
  exact ⟨slot, ho0, heq0.trans heq1⟩

theorem Dwindles.of_insert (slot' : Slot) (h : s'.slots = s.slots.insert slot'.id slot')
    (hh : heldBy uid slot' →
      ∃ slot, Owns s uid slot'.id slot ∧ slot.owner = slot'.owner) : Dwindles uid s s' := by
  rintro id other ⟨hl, hot⟩
  rw [h] at hl
  obtain ⟨rfl, rfl⟩ | ⟨-, hold⟩ := lookup_insert_cases hl
  · exact hh hot
  · exact ⟨other, ⟨hold, hot⟩, rfl⟩

theorem heldBy_uid (h : heldBy uid slot) : slot.owner.sandboxUID = uid := (of_decide_eq_true h).1

theorem destroySlot_slots (s : State) (id : String) (f : ReleaseFate) :
    ((s.destroySlot id f).1.slots = s.slots ∨ (s.destroySlot id f).1.slots = s.slots.erase id) ∧
    ((s.destroySlot id f).2 → (s.destroySlot id f).1.slots.lookup id = none) := by
  unfold destroySlot
  cases hl : s.slots.lookup id with
  | none => exact ⟨.inl rfl, fun _ => hl⟩
  | some =>
    cases f.destroy with
    | false => exact ⟨.inl rfl, nofun⟩
    | true =>
      cases f.delete with
      | ok => exact ⟨.inr rfl, fun _ => Finmap.lookup_erase _ _⟩
      | failed effective => exact ⟨.inl rfl, nofun⟩

theorem mark_slots (s : State) (id : String) (w : Written) :
    (s.mark id w).1.slots = s.slots ∨ ∃ slot, s.slots.lookup id = some slot ∧
      (s.mark id w).1.slots = s.slots.insert slot.id slot.marked := by
  unfold mark
  split
  · exact .inl rfl
  rename_i slot hl
  split
  · exact .inl rfl
  · split
    · exact .inr ⟨slot, hl, rfl⟩
    · exact .inl rfl

theorem mark_absent {w : Written} (h : (s.mark id w).2 = .absent) :
    (s.mark id w).1.slots.lookup id = none := by
  unfold mark at h ⊢
  split at h
  · rename_i hl
    exact hl
  · split at h
    · cases h
    · split at h <;> cases h

section

variable (hky : Keyed s)
include hky

theorem Keyed.insert (slot : Slot) (h : s'.slots = s.slots.insert slot.id slot) : Keyed s' := by
  intro id _ hl
  rw [h] at hl
  obtain ⟨rfl, rfl⟩ | ⟨-, hold⟩ := lookup_insert_cases hl
  · rfl
  · exact hky hold

theorem Keyed.of_slots (h : s'.slots = s.slots) : Keyed s' := fun hl => hky (h ▸ hl)

theorem Keyed.erase (h : s'.slots = s.slots.erase gone) : Keyed s' := by
  intro _ _ hl
  rw [h] at hl
  exact hky (lookup_erase_cases hl).2

theorem markAndDestroy_spec (f : ReleaseFate) (ho : Owns s uid id slot) :
    Keyed (s.markAndDestroy id f).1 ∧
      Dwindles uid s (s.markAndDestroy id f).1 ∧
      ((s.markAndDestroy id f).2 → (s.markAndDestroy id f).1.slots.lookup id = none) := by
  have hm : Keyed (s.mark id f.save).1 ∧ Dwindles uid s (s.mark id f.save).1 := by
    rcases mark_slots s id f.save with hs | ⟨slot', hl, heq⟩
    · exact ⟨hky.of_slots hs, .of_slots hs⟩
    rw [ho.1] at hl
    cases hl
    have hl : s.slots.lookup slot.marked.id = some slot := by
      have hi := hky ho.1
      rw [show slot.marked.id = id from hi]
      exact ho.1
    exact ⟨hky.insert slot.marked heq, .of_insert slot.marked heq fun _ => ⟨slot, ⟨hl, ho.2⟩, rfl⟩⟩
  have ha : (s.mark id f.save).2 = .absent → (s.mark id f.save).1.slots.lookup id = none :=
    mark_absent
  unfold markAndDestroy
  generalize s.mark id f.save = r at hm ha
  obtain ⟨s1, outcome⟩ := r
  obtain ⟨hk1, hd⟩ := hm
  cases outcome with
  | absent => exact ⟨hk1, hd, fun _ => ha rfl⟩
  | failed => exact ⟨hk1, hd, nofun⟩
  | marked =>
    obtain ⟨hsl, hg⟩ := destroySlot_slots s1 id f
    rcases hsl with hs | he
    · exact ⟨hk1.of_slots hs, hd.trans (.of_slots hs), hg⟩
    · exact ⟨hk1.erase he, hd.trans (.of_erase he), hg⟩

theorem release_spec (h : s.release owner f = some (s', ok)) :
    Keyed s' ∧ Dwindles owner.sandboxUID s s' ∧
      (ok → (∀ id slot, ¬ Owns s owner.sandboxUID id slot) ∨
        ∃ id slot, Owns s owner.sandboxUID id slot ∧ slot.owner = owner ∧
          s'.slots.lookup id = none) := by
  unfold release at h
  split at h
  · rename_i hi
    split at h
    · rename_i hn
      cases h
      refine ⟨hky, .of_slots rfl, fun _ => .inl fun id slot hw => ?_⟩
      have hf := finds_none hi hn hw.1
      rw [hw.2] at hf
      cases hf
    · rename_i slot ht
      split at h
      · rename_i ho
        obtain ⟨id, hl, hh⟩ := finds_some hi ht
        have hd := hky hl
        subst hd
        have hs := markAndDestroy_spec hky f ⟨hl, hh⟩
        rw [Option.some.inj h] at hs
        exact ⟨hs.1, hs.2.1, fun hk => .inr ⟨slot.id, slot, ⟨hl, hh⟩, ho, hs.2.2 hk⟩⟩
      · cases h
        exact ⟨hky, .of_slots rfl, nofun⟩
  · cases h

theorem acquire_spec {found : Option String} {w : Written} {r : Option Slot}
    (h : s.acquire owner found w = some (s', r)) : Keyed s' ∧ (r = none → s'.slots = s.slots) ∧
      (s'.slots = s.slots ∨ ∃ slot, s.slots.lookup slot.id = some slot ∧ slot.phase = .clean ∧
        (∀ id other, s.slots.lookup id = some other → boundTo owner.sandboxUID other = false) ∧
        s'.slots = s.slots.insert slot.id (slot.boundBy owner)) ∧
      ∀ slot, r = some slot → s'.slots.lookup slot.id = some slot ∧ slot.owner = owner ∧
        slot.phase = .bound := by
  unfold acquire at h
  split at h
  · cases h
    exact ⟨hky, fun _ => rfl, .inl rfl, nofun⟩
  split at h
  · rename_i hi
    split at h
    · rename_i slot hs
      obtain ⟨id, hl, hb⟩ := finds_some hi hs
      have hd := hky hl
      subst hd
      split at h
      · rename_i hw
        cases h
        refine ⟨hky, fun _ => rfl, .inl rfl, fun slot' hs' => ?_⟩
        cases hs'
        exact ⟨hl, hw, (of_decide_eq_true hb).1⟩
      · cases h
        exact ⟨hky, fun _ => rfl, .inl rfl, nofun⟩
    · rename_i hn
      split at h
      · cases h
        exact ⟨hky, fun _ => rfl, .inl rfl, nofun⟩
      rename_i slot hf
      obtain ⟨id, hl, hp⟩ := firstClean_some hf
      have hd := hky hl
      subst hd
      split at h
      · cases h
        refine ⟨hky.insert (slot.boundBy owner) rfl, nofun,
          .inr ⟨slot, hl, hp, fun id other ho => finds_none hi hn ho, rfl⟩,
          fun slot' hs' => ?_⟩
        cases hs'
        exact ⟨Finmap.lookup_insert _, rfl, rfl⟩
      · cases h
        exact ⟨hky, fun _ => rfl, .inl rfl, nofun⟩
  · cases h

theorem applyGuest_spec {f : GuestFate}
    (h : s.applyGuest cfg owner guestIP f = some (s', ok)) : Keyed s' ∧ Dwindles uid s s' := by
  unfold applyGuest at h
  split at h
  · rename_i hf
    split at h
    · cases h
      exact ⟨hky, .of_slots rfl⟩
    rename_i slot hs
    obtain ⟨id, hl, _⟩ := finds_some hf hs
    have hi := hky hl
    subst hi
    split at h
    · cases h
      exact ⟨hky, .of_slots rfl⟩
    unfold commitGuest at h
    rw [show s.slots.lookup ({ slot with guestIP } : Slot).id = some slot from hl] at h
    dsimp only at h
    split at h
    · cases h
      exact ⟨hky.insert { slot with guestIP } rfl,
        .of_insert { slot with guestIP } rfl fun hh => ⟨slot, ⟨hl, hh⟩, rfl⟩⟩
    · cases h
      exact ⟨hky, .of_slots rfl⟩
  · cases h

end

/-! ## Sections of other calls -/

/-- A section that gives the Sandbox no slot: it is not one of `Initialize` nor of its own
`Acquire`, and neither a slot under preparation nor a Clean one names it as owner. -/
structure Elsewhere (uid : String) (s : State) (p : Place) : Prop where
  loads : p.stored = none
  acquires : ∀ owner, p = .acquire owner → owner.sandboxUID ≠ uid
  prepares : ∀ slot, p.prep = some slot → State.heldBy uid slot = false
  marks : ∀ id k slot, p = .mark id k → s.slots.lookup id = some slot → slot.phase = .clean →
    slot.owner.sandboxUID ≠ uid

/-- What any number of such sections makes of the manager. -/
inductive Aside (cfg : Config) (uid : String) (s : State) : State → Prop
  | refl : Aside cfg uid s s
  | turn {s1 s' : State} {p : Place} {c : Choice} {ps : List Place} (h : Aside cfg uid s s1)
      (helse : Elsewhere uid s1 p) (hadv : advance cfg s1 p c = some (s', ps)) : Aside cfg uid s s'

theorem heldBy_false (h : slot.owner.sandboxUID ≠ uid) : heldBy uid slot = false :=
  decide_eq_false fun hh => h hh.1

theorem Dwindles.of_unheld (hu : heldBy uid slot = false)
    (h : s'.slots = s.slots.insert slot.id slot) : Dwindles uid s s' :=
  .of_insert slot h fun hh => absurd hh (by simp [hu])

theorem Turn.keyed (hky : Keyed s) (T : Turn cfg s p c s' ps) : Keyed s' := by
  cases T with
  | inserts =>
    intro _ _ hl
    rcases lookup_insertStored hl with hold | ⟨-, rfl⟩
    · exact hky hold
    · rfl
  | binds | guests | marks | reserves | publishes => exact hky.insert _ rfl
  | forgets | unreserves => exact hky.erase rfl
  | _ => exact hky.of_slots rfl

theorem Turn.dwindles (hi : uid ≠ "") (hky : Keyed s) (T : Turn cfg s p c s' ps)
    (he : Elsewhere uid s p) : Dwindles uid s s' := by
  cases T with
  | inserts => cases he.loads
  | binds => exact .of_unheld (heldBy_false (he.acquires _ rfl)) rfl
  | guests w hl hb =>
    rename_i applied current
    obtain ⟨hp, ho⟩ : current.phase = .bound ∧ current.owner = applied.owner := of_decide_eq_true hb
    refine .of_insert applied rfl fun hh => ⟨current, ⟨hl, decide_eq_true ⟨?_, .inl hp⟩⟩, ho⟩
    rw [ho]
    exact heldBy_uid hh
  | marks k hl hp =>
    rename_i id slot
    have hd := hky hl
    subst hd
    refine .of_insert slot.marked rfl fun hh => ⟨slot, ⟨hl, ?_⟩, rfl⟩
    have ho : slot.marked.owner.sandboxUID = uid := heldBy_uid hh
    refine decide_eq_true ⟨ho, ?_⟩
    cases hc : slot.phase with
    | bound => exact .inl rfl
    | destroying => exact .inr rfl
    | clean =>
      have hn : slot.owner.sandboxUID ≠ uid := he.marks _ _ _ rfl hl hc
      exact absurd ho hn
  | forgets | unreserves => exact .of_erase rfl
  | reserves hf hr hip hd =>
    rename_i id ip
    have hu : heldBy uid { cfg.newSlot id ip with phase := .destroying } = false :=
      heldBy_false (Ne.symm hi)
    exact .of_unheld hu rfl
  | publishes slot => exact .of_unheld (he.prepares slot rfl) rfl
  | _ => exact .of_slots rfl

theorem Aside.dwindles (hu : uid ≠ "") (hky : Keyed s) (h : Aside cfg uid s s') :
    Keyed s' ∧ Dwindles uid s s' := by
  induction h with
  | refl => exact ⟨hky, .of_slots rfl⟩
  | turn h he ha ih =>
    obtain ⟨hk1, hd⟩ := ih
    have turn := advance_turn ha
    exact ⟨turn.keyed hk1, hd.trans (turn.dwindles hu hk1 he)⟩

end Calls

end FastSandbox.Network
