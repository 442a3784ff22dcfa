import FastSandbox.Network.Manager

/-!
# What the sections of the slot manager do

`Turn` lists the sections that change something, and `Leads` the places a section that only reads
may go on to. `advance_turn` reads every executed section as one of them.
-/

namespace FastSandbox.Network

open State Option List Bool

/-! ## What a place holds on to -/

/-- The slots a continuation may still destroy. -/
def Cont.targets : Cont → Finset String
  | init rest => (rest.map Slot.id).toFinset
  | reconcile _ rest _ => (rest.map Slot.id).toFinset
  | release => ∅
  | close rest => rest

/-- The slots a call may still destroy, or write. -/
def Place.targets : Place → Finset String
  | checkLoaded rest | reconcile _ rest _ => (rest.map Slot.id).toFinset
  | validate slot rest => insert slot.id (rest.map Slot.id).toFinset
  | applyGuest slot _ | commitGuest slot => {slot.id}
  | mark id k | readSlot id k | deleteFile id k | forget id k => insert id k.targets
  | destroying slot k => insert slot.id k.targets
  | closing rest => rest
  | _ => ∅

def Place.prep : Place → Option Slot
  | prepare slot | saveClean slot | publish slot | discard slot _ | dropFile slot
  | unreserve slot _ => some slot
  | _ => none

/-- The copy of a slot to which `ApplyGuest` adds the guest address. -/
def Place.guest : Place → Option Slot
  | applyGuest slot _ | commitGuest slot => some slot
  | _ => none

/-- The stored slots that `Initialize` is about to put into the map. -/
def Place.stored : Place → Option (List Slot)
  | insertLoaded loaded => some loaded
  | _ => none

/-! ## Sections -/

/-- Where a section that changes nothing may lead. -/
inductive Leads (s : State) : Place → Place → Prop
  | loads {loaded : List Slot} (henum : s.enumerates loaded) :
      Leads s .loadAll (.insertLoaded loaded)
  | checked : Leads s (.checkLoaded []) .replenish
  | interrupted {slot : Slot} (rest : List Slot) (hphase : (s.current slot).phase = .destroying) :
      Leads s (.checkLoaded (slot :: rest)) (.readSlot slot.id (.init rest))
  | asks (slot : Slot) (rest : List Slot) :
      Leads s (.checkLoaded (slot :: rest)) (.validate slot rest)
  | valid (slot : Slot) (rest : List Slot) : Leads s (.validate slot rest) (.checkLoaded rest)
  | invalid (slot : Slot) (rest : List Slot) :
      Leads s (.validate slot rest) (.mark slot.id (.init rest))
  | lists {bound : List Slot} (owners : DataPlane.StringMap Owner) (hlists : s.lists bound) :
      Leads s (.snapshotBound owners) (.reconcile owners bound [])
  | reconciled (owners : DataPlane.StringMap Owner) (seen : List String) :
      Leads s (.reconcile owners [] seen) .replenish
  | orphan (owners : DataPlane.StringMap Owner) (slot : Slot) (rest : List Slot)
      (seen : List String) :
      Leads s (.reconcile owners (slot :: rest) seen) (.mark slot.id (.reconcile owners rest seen))
  | agrees (owners : DataPlane.StringMap Owner) (slot : Slot) (rest : List Slot)
      (seen seen' : List String) :
      Leads s (.reconcile owners (slot :: rest) seen) (.reconcile owners rest seen')
  | findsGuest {id : String} {slot : Slot} {owner : Owner} (guestIP : String)
      (hlookup : s.slots.lookup id = some slot)
      (hbound : State.boundExactly owner slot) :
      Leads s (.findGuest owner guestIP) (.applyGuest slot guestIP)
  | applied (slot : Slot) (guestIP : String) :
      Leads s (.applyGuest slot guestIP) (.commitGuest { slot with guestIP })
  | findsTarget {id : String} {slot : Slot} (hlookup : s.slots.lookup id = some slot)
      (hheld : State.heldBy slot.owner.sandboxUID slot) :
      Leads s (.findTarget slot.owner) (.mark slot.id .release)
  | marked {id : String} {slot : Slot} (k : Cont) (hlookup : s.slots.lookup id = some slot)
      (hphase : slot.phase = .destroying) : Leads s (.mark id k) (.readSlot id k)
  | absent {p q : Place} {id : String} {k : Cont} (hp : p = .mark id k ∨ p = .readSlot id k)
      (hlookup : s.slots.lookup id = none) (hq : q ∈ k.next true) : Leads s p q
  | stuck {q : Place} {k : Cont} (slot : Slot) (hq : q ∈ k.next false) :
      Leads s (.destroying slot k) q
  | room : Leads s .replenish .prepareOne
  | full : Leads s .prepareOne .replenish
  | snapshot : Leads s .closeSnapshot (.closing s.slots.keys)
  | closing {id : String} {rest : Finset String} (hid : id ∈ rest) :
      Leads s (.closing rest) (.readSlot id (.close (rest.erase id)))
  | again (rest : Finset String) : Leads s (.closing rest) .closeSnapshot

/-- The slot that `Acquire` saves and then puts into the map. -/
def Slot.boundBy (slot : Slot) (owner : Owner) : Slot :=
  { slot with phase := .bound, owner := owner }

/-- The slot that `markAndDestroy` saves and then puts into the map. -/
def Slot.marked (slot : Slot) : Slot := { slot with phase := .destroying }

/-- What a section of the manager does, by the choice of its environment. -/
inductive Turn (cfg : Config) (s : State) : Place → Choice → State → List Place → Prop
  | glances {p : Place} {ps : List Place} (c : Choice) (hp : p.prep = none)
      (hps : ∀ q ∈ ps, Leads s p q) : Turn cfg s p c s ps
  | inserts {loaded : List Slot} {ps : List Place}
      (hps : ∀ q ∈ ps, q = .checkLoaded loaded ∧ loaded.length ≤ cfg.capacity) :
      Turn cfg s (.insertLoaded loaded) .go
        { s with slots := (State.insertStored cfg s.slots loaded).1, used := true } ps
  | returns {id : String} {slot : Slot} (found : Option String) (w : Written)
      (hlookup : s.slots.lookup id = some slot) (hphase : slot.phase = .bound) :
      Turn cfg s (.acquire slot.owner) (.acquired found w) (s.answer slot.owner slot) []
  | binds {id : String} {slot : Slot} {owner : Owner} (found : Option String)
      (hvalid : owner.valid)
      (hnone : ∀ id slot, s.slots.lookup id = some slot →
        State.boundTo owner.sandboxUID slot = false)
      (hlookup : s.slots.lookup id = some slot) (hphase : slot.phase = .clean) :
      Turn cfg s (.acquire owner) (.acquired found .ok)
        (((s.save (slot.boundBy owner) .ok).put (slot.boundBy owner)).answer owner
          (slot.boundBy owner)) []
  | strands {id : String} {slot : Slot} (owner : Owner) (found : Option String) (effective : Bool)
      (hlookup : s.slots.lookup id = some slot) (hphase : slot.phase = .clean) :
      Turn cfg s (.acquire owner) (.acquired found (.failed effective))
        (s.save (slot.boundBy owner) (.failed effective)) []
  | guests {applied current : Slot} (w : Written)
      (hlookup : s.slots.lookup applied.id = some current)
      (hbound : State.boundExactly applied.owner current) :
      Turn cfg s (.commitGuest applied) (.store w) ((s.put applied).save applied w) []
  | marks {id : String} {slot : Slot} (k : Cont) (hlookup : s.slots.lookup id = some slot)
      (hphase : slot.phase ≠ .destroying) :
      Turn cfg s (.mark id k) (.store .ok) ((s.save slot.marked .ok).put slot.marked)
        [.readSlot id k]
  | misses {id : String} {slot : Slot} (k : Cont) (effective : Bool)
      (hlookup : s.slots.lookup id = some slot) (hphase : slot.phase ≠ .destroying) :
      Turn cfg s (.mark id k) (.store (.failed effective))
        (s.save slot.marked (.failed effective)) (k.next false)
  | tears {id : String} {slot : Slot} (k : Cont) (hlookup : s.slots.lookup id = some slot) :
      Turn cfg s (.readSlot id k) .go (s.tear id) [.destroying slot k]
  | destroys (slot : Slot) (k : Cont) :
      Turn cfg s (.destroying slot k) (.driver true) { s with live := s.live.erase slot.id }
        [.deleteFile slot.id k]
  | deletes (id : String) (k : Cont) :
      Turn cfg s (.deleteFile id k) (.store .ok) (s.delete id .ok) [.forget id k]
  | lingers (id : String) (k : Cont) (effective : Bool) :
      Turn cfg s (.deleteFile id k) (.store (.failed effective)) (s.delete id (.failed effective))
        (k.next false)
  | forgets (id : String) (k : Cont) :
      Turn cfg s (.forget id k) .go { s with slots := s.slots.erase id } (k.next true)
  | reserves {id : String} {ip : ℕ} (hfree : s.preparing = none)
      (hroom : s.slots.keys.card < cfg.capacity) (hip : cfg.ipam.allocate s.usedIP = some ip)
      (hid : s.slots.lookup id = none) :
      Turn cfg s .prepareOne (.generated (some id)) (s.reserve (cfg.newSlot id ip))
        [.prepare (cfg.newSlot id ip)]
  | prepares (slot : Slot) :
      Turn cfg s (.prepare slot) (.driver true) { s with live := insert slot.id s.live }
        [.saveClean slot]
  | spoils (slot : Slot) :
      Turn cfg s (.prepare slot) (.driver false)
        (State.tear { s with live := insert slot.id s.live } slot.id) [.discard slot false]
  | saves (slot : Slot) :
      Turn cfg s (.saveClean slot) (.store .ok) (s.save slot .ok) [.publish slot]
  | unsaved (slot : Slot) (effective : Bool) :
      Turn cfg s (.saveClean slot) (.store (.failed effective))
        ((s.save slot (.failed effective)).tear slot.id) [.discard slot false]
  | publishes (slot : Slot) (hopen : s.closed = false) :
      Turn cfg s (.publish slot) .go { s.put slot with preparing := none } [.replenish]
  | races (slot : Slot) (hclosed : s.closed) :
      Turn cfg s (.publish slot) .go (s.tear slot.id) [.discard slot true]
  | discards {q : Place} (slot : Slot) (raced ok : Bool)
      (hq : q = .dropFile slot ∨ q = .unreserve slot false) :
      Turn cfg s (.discard slot raced) (.driver ok)
        { s with live := if ok then s.live.erase slot.id else s.live } [q]
  | drops (slot : Slot) (w : Written) :
      Turn cfg s (.dropFile slot) (.store w) (s.delete slot.id w) [.unreserve slot true]
  | unreserves {ps : List Place} (slot : Slot) (more : Bool) (hps : ∀ q ∈ ps, q = .replenish) :
      Turn cfg s (.unreserve slot more) .go
        { s with slots := s.slots.erase slot.id, preparing := none } ps
  | closes : Turn cfg s .close .go { s with closed := true } [.closeSnapshot]

variable {cfg : Config} {s s' : State} {p : Place} {c : Choice} {ps : List Place}

/-- Where a call goes on after a slot has been dealt with, if it does. -/
def Cont.after : Cont → Place
  | init rest => .checkLoaded rest
  | reconcile owners rest seen => .reconcile owners rest seen
  | release => .replenish
  | close rest => .closing rest

theorem Cont.mem_next {k : Cont} {ok : Bool} {q : Place} (hq : q ∈ k.next ok) : q = k.after := by
  cases k <;> cases ok <;> simp_all [Cont.next, Cont.after]

theorem Cont.after_prep (k : Cont) : k.after.prep = none := by
  cases k <;> rfl

theorem Cont.after_guest (k : Cont) : k.after.guest = none := by
  cases k <;> rfl

theorem Cont.after_stored (k : Cont) : k.after.stored = none := by
  cases k <;> rfl

theorem Cont.after_targets (k : Cont) : k.after.targets = k.targets := by
  cases k <;> rfl

variable {found : Option String} {slot : Slot}

theorem State.finds_some {pred : Slot → Bool} (h : s.finds pred found)
    (hs : found.bind s.slots.lookup = some slot) :
    ∃ id, s.slots.lookup id = some slot ∧ pred slot := by
  obtain ⟨id, rfl, hl⟩ := bind_eq_some_iff.mp hs
  refine ⟨id, hl, ?_⟩
  simpa only [finds, hl, any_some] using h

theorem State.finds_none {pred : Slot → Bool} (h : s.finds pred found)
    (hn : found.bind s.slots.lookup = none) {id : String}
    (hl : s.slots.lookup id = some slot) : pred slot = false := by
  cases found with
  | some id' =>
    have he := h
    rw [finds, show s.slots.lookup id' = none from hn] at he
    cases he
  | none =>
    have ha := of_decide_eq_true h id (Finmap.mem_keys.mpr (Finmap.mem_of_lookup_eq_some hl))
    rw [hl, all_some] at ha
    exact (not_eq_true' _).mp ha

theorem State.firstClean_some (h : s.firstClean = some slot) :
    ∃ id, s.slots.lookup id = some slot ∧ slot.phase = .clean := by
  obtain ⟨id, hn, hl⟩ := bind_eq_some_iff.mp h
  have he := (Finset.mem_filter.mp (Finset.mem_of_min hn)).2
  rw [hl, any_some] at he
  exact ⟨id, hl, of_decide_eq_true he⟩

theorem acquire_turn {owner : Owner} {w : Written} {r : Option Slot}
    (h : s.acquire owner found w = some (s', r)) :
    Turn cfg s (.acquire owner) (.acquired found w) s' [] := by
  have ht : Turn cfg s (.acquire owner) (.acquired found w) s [] := .glances _ rfl (by simp)
  unfold acquire at h
  split at h
  · cases h
    exact ht
  rename_i hv
  split at h
  · rename_i hi
    split at h
    · rename_i slot hsl
      obtain ⟨id, hl, hb⟩ := finds_some hi hsl
      split at h
      · rename_i ho
        cases h
        subst ho
        exact .returns found w hl (of_decide_eq_true hb).1
      · cases h
        exact ht
    · rename_i hn
      split at h
      · cases h
        exact ht
      rename_i slot hf
      obtain ⟨id, hl, hp⟩ := firstClean_some hf
      split at h
      · rename_i hw
        cases h
        subst hw
        refine .binds found ?_ (fun id slot hs => finds_none hi hn hs) hl hp
        simpa using hv
      · rename_i hw
        cases h
        cases w with
        | ok => exact absurd rfl hw
        | failed effective => exact .strands owner found effective hl hp
  · cases h

theorem mark_turn {id : String} {k : Cont} {w : Written}
    (h : advance cfg s (.mark id k) (.store w) = some (s', ps)) :
    Turn cfg s (.mark id k) (.store w) s' ps := by
  simp only [advance, mark] at h
  cases hl : s.slots.lookup id with
  | none =>
    rw [hl] at h
    cases h
    exact .glances _ rfl fun q hq => .absent (.inl rfl) hl hq
  | some slot =>
    rw [hl] at h
    by_cases hp : slot.phase = .destroying
    · simp only [hp, if_true] at h
      cases h
      refine .glances _ rfl fun q hq => ?_
      rw [mem_singleton.mp hq]
      exact .marked k hl hp
    · cases w with
      | ok =>
        simp only [hp, if_false, if_true] at h
        cases h
        exact .marks k hl hp
      | failed effective =>
        simp only [hp, if_false, reduceCtorEq] at h
        cases h
        exact .misses k effective hl hp

theorem prepareOne_turn {generated : Option String}
    (h : prepareOne cfg s generated = some (s', ps)) :
    Turn cfg s .prepareOne (.generated generated) s' ps := by
  have hs : Turn cfg s .prepareOne (.generated generated) s [] := .glances _ rfl (by simp)
  unfold prepareOne at h
  split at h
  · cases h
  rename_i hf
  split at h
  · cases h
    refine .glances _ rfl fun q hq => ?_
    rw [mem_singleton.mp hq]
    exact .full
  · split at h
    · rename_i hp
      split at h
      · rename_i hi
        cases h
        exact .reserves (by simpa using hf) (by omega) hp hi.2
      · cases h
        exact hs
    · cases h
      exact hs

theorem advance_turn (h : advance cfg s p c = some (s', ps)) : Turn cfg s p c s' ps := by
  have ho : ∀ {c : Choice} {q : Place}, p.prep = none → Leads s p q → Turn cfg s p c s [q] := by
    intro c q hp hq
    refine .glances c hp fun r hr => ?_
    rw [mem_singleton.mp hr]
    exact hq
  have he : ∀ {c : Choice}, p.prep = none → Turn cfg s p c s [] := fun hp => .glances _ hp (by simp)
  unfold advance at h
  split at h
  case h_1 =>
    cases h
    exact he rfl
  case h_2 loaded =>
    split at h
    · rename_i hen
      cases h
      exact ho rfl (.loads hen)
    · cases h
  case h_3 loaded =>
    cases h
    refine .inserts fun q hq => ?_
    split at hq
    · rename_i hok
      exact ⟨mem_singleton.mp hq, by simpa using (and_eq_true_iff.mp hok).2⟩
    · cases hq
  case h_4 =>
    cases h
    exact ho rfl .checked
  case h_5 slot rest =>
    split at h
    · rename_i hph
      cases h
      exact ho rfl (.interrupted rest hph)
    · cases h
      exact ho rfl (.asks slot rest)
  case h_6 slot rest ok =>
    split at h
    · cases h
      exact ho rfl (.valid slot rest)
    split at h
    · cases h
      exact he rfl
    · cases h
      exact ho rfl (.invalid slot rest)
  case h_7 owners bound =>
    split at h
    · rename_i hl
      cases h
      exact ho rfl (.lists owners hl)
    · cases h
  case h_8 owners seen =>
    cases h
    refine .glances _ rfl fun q hq => ?_
    split at hq
    · rw [mem_singleton.mp hq]
      exact .reconciled owners seen
    · cases hq
  case h_9 owners slot rest seen =>
    split at h
    · cases h
      exact ho rfl (.orphan owners slot rest seen)
    split at h
    · cases h
      exact ho rfl (.agrees owners slot rest seen _)
    · cases h
      exact he rfl
  case h_10 owner found w =>
    obtain ⟨⟨_, r⟩, ha, heq⟩ := map_eq_some_iff.mp h
    cases heq
    exact acquire_turn ha
  case h_11 owner guestIP found =>
    split at h
    · rename_i hf
      cases h
      refine .glances _ rfl fun q hq => ?_
      obtain ⟨slot, hs, rfl⟩ := mem_map.mp hq
      obtain ⟨id, hk, hb⟩ := finds_some hf (mem_toList.mp hs)
      exact .findsGuest guestIP hk hb
    · cases h
  case h_12 slot guestIP ok =>
    split at h
    · cases h
      exact he rfl
    · cases h
      exact ho rfl (.applied slot guestIP)
  case h_13 applied w =>
    cases h
    unfold commitGuest
    split
    · exact he rfl
    rename_i hk
    split
    · rename_i hb
      exact .guests w hk hb
    · exact he rfl
  case h_14 owner found =>
    split at h
    · rename_i hf
      split at h
      · cases h
        exact he rfl
      rename_i slot hs
      obtain ⟨id, hk, hh⟩ := finds_some hf hs
      split at h
      · rename_i hw
        cases h
        subst hw
        exact ho rfl (.findsTarget hk hh)
      · cases h
        exact he rfl
    · cases h
  case h_15 id k w => exact mark_turn h
  case h_16 id k =>
    split at h
    · rename_i hk
      cases h
      exact .glances _ rfl fun q hq => .absent (.inr rfl) hk hq
    · rename_i slot hk
      cases h
      exact .tears k hk
  case h_17 slot k ok =>
    split at h
    · rename_i hok
      cases h
      subst hok
      exact .destroys slot k
    · cases h
      exact .glances _ rfl fun q hq => .stuck slot hq
  case h_18 id k w =>
    cases h
    cases w with
    | ok => exact .deletes id k
    | failed effective => exact .lingers id k effective
  case h_19 id k =>
    cases h
    exact .forgets id k
  case h_20 =>
    cases h
    refine .glances _ rfl fun q hq => ?_
    split at hq
    · cases hq
    · rw [mem_singleton.mp hq]
      exact .room
  case h_21 generated => exact prepareOne_turn h
  case h_22 slot ok =>
    cases ok with
    | true =>
      cases h
      exact .prepares slot
    | false =>
      cases h
      exact .spoils slot
  case h_23 slot w =>
    cases w with
    | ok =>
      cases h
      exact .saves slot
    | failed effective =>
      cases h
      exact .unsaved slot effective
  case h_24 slot =>
    split at h
    · rename_i hc
      cases h
      exact .races slot hc
    · rename_i hop
      cases h
      exact .publishes slot (eq_false_iff.mpr hop)
  case h_25 slot raced ok =>
    cases h
    refine .discards slot raced ok ?_
    cases raced
    · exact .inr rfl
    · exact .inl rfl
  case h_26 slot w =>
    cases h
    exact .drops slot w
  case h_27 slot more =>
    cases h
    refine .unreserves slot more fun q hq => ?_
    cases more with
    | true => exact mem_singleton.mp hq
    | false => cases hq
  case h_28 =>
    split at h
    · cases h
      exact he rfl
    · cases h
      exact .closes
  case h_29 =>
    cases h
    refine .glances _ rfl fun q hq => ?_
    split at hq
    · cases hq
    · rw [mem_singleton.mp hq]
      exact .snapshot
  case h_30 rest =>
    split at h
    · rename_i id hn
      cases h
      exact ho rfl (.closing (Finset.mem_of_min hn))
    · cases h
      exact ho rfl (.again rest)
  case h_31 => cases h

end FastSandbox.Network
