import FastSandbox.DataPlane.RouteSlot

/-!
# The events of the route store

Every change of the store is published under a new revision. A watcher has a channel of 64 places,
and one that does not keep up is closed, so what a subscriber receives is an uninterrupted stretch
of the events since it subscribed. The log of all events is kept here; the store is its replay.
-/

namespace FastSandbox.DataPlane

open Function List Nat

/-- A watcher's channel: the log's length when it subscribed, and what it has received. -/
structure Channel where
  since : ℕ
  (received buffer : List Event := [])
  isOpen : Bool := true

def channelCapacity : ℕ := 64

def Channel.offer (e : Event) (c : Channel) : Channel :=
  if !c.isOpen then c
  else if c.buffer.length < channelCapacity then { c with buffer := c.buffer ++ [e] }
  else { c with isOpen := false }

/-- The next event, also from a channel that was closed. -/
def Channel.receive (c : Channel) : Channel :=
  match c.buffer with
  | [] => c
  | e :: rest => { c with received := c.received ++ [e], buffer := rest }

/-- The store, its watchers, and the log of all events. -/
structure Hub where
  store : Store := {}
  nextWatcher : ℕ := 0
  channels : ℕ → Option Channel := fun _ => none
  log : List Event := []

inductive LookupError
  | notFound
  | draining

def Store.lookup (s : Store) (sandboxUID : String) : Except LookupError Route :=
  match s.loadRoute sandboxUID with
  | none => .error .notFound
  | some route => if route.state = .draining then .error .draining else .ok route

namespace Hub

def publishLocked (h : Hub) (e : Event) : Hub :=
  { h with channels := fun id => (h.channels id).map (·.offer e), log := h.log ++ [e] }

/-- The store after a call, with its event published. -/
def write (h : Hub) : Store × Except RouteError (Option Event) → Hub
  | (store, .ok (some e)) => publishLocked { h with store } e
  | (store, _) => { h with store }

def apply (parseIP : String → Bool) (h : Hub) (route : Route) : Hub :=
  h.write (h.store.apply parseIP route)

def markDraining (h : Hub) (sandboxUID : String) (generation : ℤ) : Hub :=
  h.write (h.store.markDraining sandboxUID generation)

def delete (h : Hub) (sandboxUID : String) (generation : ℤ) : Hub :=
  h.write (h.store.delete sandboxUID generation)

def subscribe (h : Hub) : Hub :=
  { h with
    nextWatcher := h.nextWatcher + 1
    channels := update h.channels (h.nextWatcher + 1) (some { since := h.log.length }) }

def modify (h : Hub) (id : ℕ) (f : Channel → Channel) : Hub :=
  { h with channels := update h.channels id ((h.channels id).map f) }

end Hub

/-- An operation on the store. Reads are left out: they change nothing. -/
inductive Operation
  | apply (route : Route)
  | markDraining (sandboxUID : String) (generation : ℤ)
  | delete (sandboxUID : String) (generation : ℤ)
  | subscribe
  | cancel (id : ℕ)
  | receive (id : ℕ)

def Hub.perform (parseIP : String → Bool) (h : Hub) : Operation → Hub
  | .apply route => h.apply parseIP route
  | .markDraining uid generation => h.markDraining uid generation
  | .delete uid generation => h.delete uid generation
  | .subscribe => h.subscribe
  | .cancel id => h.modify id ({ · with isOpen := false })
  | .receive id => h.modify id Channel.receive

def Hub.run (parseIP : String → Bool) (h : Hub) (ops : List Operation) : Hub :=
  ops.foldl (Hub.perform parseIP) h

/-! ## Contents -/

abbrev Contents := String → Option Route

def Event.replay (contents : Contents) (e : Event) : Contents :=
  update contents e.sandboxUID e.route

def replay (contents : Contents) (events : List Event) : Contents :=
  events.foldl Event.replay contents

/-- The contents after the first events of a log. -/
def contentsAt (log : List Event) (revision : ℕ) : Contents :=
  replay (fun _ => none) (log.take revision)

/-- What a subscriber makes of a snapshot. -/
def contentsOf (routes : List Route) : Contents := fun uid => routes.find? (·.sandboxUID = uid)

/-- The events that a subscriber applies to a snapshot of revision `revision`. -/
def Channel.news (c : Channel) (revision : ℕ) : List Event :=
  c.received.filter (revision < ·.revision)

/-- The revision after some events. -/
def latest (revision : ℕ) (events : List Event) : ℕ := events.getLast?.elim revision (·.revision)

/-! ## What an operation does -/

/-- The event is the whole difference between two states of the store. -/
structure Event.Advances (e : Event) (s s' : Store) : Prop where
  revision : e.revision = s.revision + 1
  revision' : s'.revision = e.revision
  contents : s'.loadRoute = e.replay s.loadRoute
  high : s'.highWater = update s.highWater e.sandboxUID e.routeGeneration
  le : s.highWater e.sandboxUID ≤ e.routeGeneration
  route : ∀ r, e.route = some r → r.sandboxUID = e.sandboxUID ∧
    r.routeGeneration = e.routeGeneration ∧ e.sandboxUID ≠ "" ∧ 0 < e.routeGeneration
  rises : e.route ≠ none → s.highWater e.sandboxUID < e.routeGeneration ∨
    ∃ r, s.loadRoute e.sandboxUID = some r ∧ r.routeGeneration = e.routeGeneration

/-- Active routes stand under their UID, at its high-water mark. -/
def Store.Current (s : Store) : Prop :=
  ∀ uid r, s.loadRoute uid = some r → r.sandboxUID = uid ∧ r.routeGeneration = s.highWater uid ∧
    uid ≠ "" ∧ 0 < r.routeGeneration

inductive Hub.Change (h h' : Hub) : Prop
  | same (hsame : h' = h)
  | published (e : Event) (hadvances : e.Advances h.store h'.store) (hlog : h'.log = h.log ++ [e])
      (hchannels : h'.channels = fun id => (h.channels id).map (·.offer e))
      (hnext : h'.nextWatcher = h.nextWatcher)

section Step

variable {parseIP : String → Bool} {h h' : Hub} {uid : String} {g : ℤ} {route : Route}

variable {s' : Store} {e : Event}

theorem Hub.write_store : ∀ w, (h.write w).store = w.1
  | (_, .ok (some _)) | (_, .ok none) | (_, .error _) => rfl

theorem Hub.Change.write (ha : e.Advances h.store s') : h.Change (h.write (s', .ok (some e))) :=
  .published _ ha rfl rfl rfl

theorem replay_storeRoute (s : Store) (route : Route) :
    (s.storeRoute route).loadRoute = update s.loadRoute route.sandboxUID (some route) := by
  funext uid
  rw [update_apply]
  split
  · rw [‹uid = _›, loadRoute_storeRoute]
  · exact loadRoute_storeRoute_of_ne ‹_›

theorem change_apply (route : Route) : h.Change (h.apply parseIP route) := by
  unfold Hub.apply Store.apply
  cases hv : route.validate parseIP with
  | false => exact .same rfl
  | true =>
    have hpos := validate_generation_pos hv
    have hu : route.sandboxUID ≠ "" := by
      simp only [Route.validate, Bool.and_eq_true, decide_eq_true_eq] at hv
      exact hv.1.1.1.1.1.2
    simp only [Bool.not_true, Bool.false_eq_true, if_false]
    split
    · exact .same rfl
    split
    · split_ifs <;> exact .same rfl
    split_ifs
    · exact .same rfl
    refine .write ⟨rfl, rfl, replay_storeRoute _ route, rfl, ?_, fun r hr => ?_, fun _ => .inl ?_⟩
    · show h.store.highWater route.sandboxUID ≤ route.routeGeneration
      omega
    · cases hr
      exact ⟨rfl, rfl, hu, hpos⟩
    · show h.store.highWater route.sandboxUID < route.routeGeneration
      omega

theorem change_markDraining (hc : h.store.Current) (uid : String) (g : ℤ) :
    h.Change (h.markDraining uid g) := by
  unfold Hub.markDraining Store.markDraining
  split
  · split_ifs <;> exact .same rfl
  rename_i route hl
  split_ifs with hlt hgt
  · exact .same rfl
  · exact .same rfl
  · exact .same rfl
  obtain ⟨rfl, hh, hne, hpos⟩ := hc uid route hl
  obtain rfl : route.routeGeneration = g := le_antisymm (not_lt.mp hlt) (not_lt.mp hgt)
  refine .write ⟨rfl, rfl, ?_, ?_, hh.ge, fun r hr => ?_, fun _ => .inr ⟨route, hl, rfl⟩⟩
  · exact replay_storeRoute _ { route with state := .draining }
  · exact (update_eq_self_iff.mpr hh).symm
  · cases hr
    exact ⟨rfl, rfl, hne, hpos⟩

theorem change_delete (uid : String) (g : ℤ) : h.Change (h.delete uid g) := by
  unfold Hub.delete Store.delete
  split_ifs with hb hs hm
  · exact .same rfl
  · exact .same rfl
  · exact .same rfl
  refine .write ⟨rfl, rfl, funext fun uid' => ?_, rfl, not_lt.mp hs, nofun, fun hn => absurd rfl hn⟩
  show (h.store.active.erase uid).lookup uid' = update h.store.loadRoute uid _ uid'
  rw [update_apply]
  split
  · exact ‹uid' = uid› ▸ AList.lookup_erase ..
  · exact AList.lookup_erase_ne ‹_›

variable {s : Store}

theorem loadRoute_of_lookup {r : Route} (hr : s.lookup uid = .ok r) : s.loadRoute uid = some r := by
  unfold Store.lookup at hr
  split at hr
  · cases hr
  · split_ifs at hr
    cases hr
    assumption

/-! ## Every run -/

/-- What a channel holds is a stretch of the log; an open one has missed nothing. -/
structure Channel.Fits (c : Channel) (log : List Event) : Prop where
  since : c.since ≤ log.length
  stretch : c.received ++ c.buffer <+: log.drop c.since
  whole : c.isOpen → c.received ++ c.buffer = log.drop c.since

/-- The log explains the store and every channel. -/
structure Hub.Sound (h : Hub) : Prop where
  current : h.store.Current
  contents : h.store.loadRoute = contentsAt h.log h.log.length
  revision : h.store.revision = h.log.length
  revisions : ∀ i e, h.log[i]? = some e → e.revision = i + 1
  channels : ∀ id c, h.channels id = some c → c.Fits h.log
  fresh : ∀ id, h.nextWatcher < id → h.channels id = none

/-- Routes up to generation `g` are gone for good. -/
def Store.Barred (s : Store) (uid : String) (g : ℤ) : Prop :=
  uid = "" ∨ g ≤ 0 ∨ g ≤ s.highWater uid ∧ ∀ r, s.loadRoute uid = some r → g < r.routeGeneration

/-- What later states keep of earlier ones. -/
structure Hub.Grows (h h' : Hub) : Prop where
  high : ∀ uid, h.store.highWater uid ≤ h'.store.highWater uid
  barred : ∀ uid g, h.store.Barred uid g → h'.store.Barred uid g
  log : h.log <+: h'.log
  since : ∀ id c, h.channels id = some c → ∃ c', h'.channels id = some c' ∧ c'.since = c.since

variable {c : Channel}

theorem Channel.Fits.offer {log : List Event} (hc : c.Fits log) (e : Event) :
    (c.offer e).Fits (log ++ [e]) ∧ (c.offer e).since = c.since := by
  have hr : (log ++ [e]).drop c.since = log.drop c.since ++ [e] := drop_append_of_le_length hc.since
  have hl : c.since ≤ (log ++ [e]).length := by
    rw [length_append]
    exact hc.since.trans (le_add_right _ _)
  have hs : c.received ++ c.buffer <+: (log ++ [e]).drop c.since := by
    rw [hr]
    exact hc.stretch.trans (prefix_append _ _)
  unfold Channel.offer
  split_ifs with hd hm
  · exact ⟨⟨hl, hs, fun ho => by simp [ho] at hd⟩, rfl⟩
  · have hw : c.received ++ (c.buffer ++ [e]) = (log ++ [e]).drop c.since := by
      rw [hr, ← append_assoc, hc.whole (by simpa using hd)]
    exact ⟨⟨hl, hw ▸ prefix_rfl, fun _ => hw⟩, rfl⟩
  · exact ⟨⟨hl, hs, nofun⟩, rfl⟩

theorem Channel.Fits.receive {log : List Event} (hc : c.Fits log) :
    c.receive.Fits log ∧ c.receive.since = c.since := by
  unfold Channel.receive
  split
  · exact ⟨hc, rfl⟩
  rename_i e rest hb
  have hs : c.received ++ [e] ++ rest = c.received ++ c.buffer := by
    rw [hb, append_assoc]
    rfl
  exact ⟨⟨hc.since, hs ▸ hc.stretch, fun ho => hs.trans (hc.whole ho)⟩, rfl⟩

theorem Event.Advances.current (he : e.Advances s s') (hs : s.Current) : s'.Current := by
  intro uid r hr
  rw [he.contents] at hr
  rw [he.high]
  unfold Event.replay at hr
  by_cases hu : uid = e.sandboxUID
  · subst hu
    rw [update_self] at hr ⊢
    obtain ⟨h1, h2, h3, h4⟩ := he.route r hr
    exact ⟨h1, h2, h3, h2 ▸ h4⟩
  · rw [update_of_ne hu] at hr ⊢
    exact hs uid r hr

theorem Event.Advances.barred (he : e.Advances s s') (hb : s.Barred uid g) : s'.Barred uid g := by
  refine hb.imp id (.imp id fun ⟨hle, ho⟩ => ?_)
  rw [he.contents, he.high]
  unfold Event.replay
  by_cases hu : uid = e.sandboxUID
  · subst hu
    rw [update_self, update_self]
    refine ⟨hle.trans he.le, fun r hr => ?_⟩
    rw [(he.route r hr).2.1]
    rcases he.rises (hr ▸ Option.some_ne_none r) with hlt | ⟨r0, hr0, hg⟩
    · exact hle.trans_lt hlt
    · exact hg ▸ ho r0 hr0
  · rw [update_of_ne hu, update_of_ne hu]
    exact ⟨hle, ho⟩

theorem Hub.Change.numbered (hc : h.Change h') :
    h'.log = h.log ∧ h'.store.revision = h.store.revision ∨
      ∃ e, h'.log = h.log ++ [e] ∧ h'.store.revision = h.store.revision + 1 := by
  cases hc with
  | same hs => exact .inl ⟨hs ▸ rfl, hs ▸ rfl⟩
  | published e he hl => exact .inr ⟨e, hl, he.revision'.trans he.revision⟩

theorem barred_delete (hs : h.store.Current) (uid : String) (g : ℤ) :
    (h.delete uid g).store.Barred uid g := by
  rw [Hub.delete, Hub.write_store]
  unfold Store.delete
  split_ifs with hb hl hm
  · exact hb.imp id .inl
  · exact .inr (.inr ⟨hl.le, fun r hr => (hs uid r hr).2.1 ▸ hl⟩)
  · exact .inr (.inr ⟨hm.1.le, fun r hr => nomatch hm.2.symm.trans hr⟩)
  · have hh : update h.store.highWater uid g uid = g := update_self ..
    have hd : (h.store.active.erase uid).lookup uid = none := AList.lookup_erase ..
    exact .inr (.inr ⟨hh.ge, fun r hr => nomatch hd.symm.trans hr⟩)

theorem Hub.Change.grows (hh : h.Change h') (hs : h.Sound) : h'.Sound ∧ h.Grows h' := by
  cases hh with
  | same hm =>
    subst hm
    exact ⟨hs, fun _ => le_rfl, fun _ _ hb => hb, prefix_rfl, fun _ c hc => ⟨c, hc, rfl⟩⟩
  | published e he ho ha hn =>
    have hl : h'.log.length = h.log.length + 1 := by rw [ho, length_append]; rfl
    refine ⟨⟨he.current hs.current, ?_, ?_, ?_, ?_, ?_⟩,
      ⟨fun uid => ?_, fun _ _ => he.barred, ?_, ?_⟩⟩
    · rw [he.contents, hs.contents]
      unfold contentsAt replay
      rw [take_length, take_length, ho, foldl_append]
      rfl
    · rw [he.revision', he.revision, hs.revision, hl]
    · intro i e' hi
      rw [ho] at hi
      rcases lt_or_ge i h.log.length with hlt | hge
      · rw [getElem?_append_left hlt] at hi
        exact hs.revisions i e' hi
      rw [getElem?_append_right hge] at hi
      obtain ⟨hz, rfl⟩ : i - h.log.length = 0 ∧ e = e' := by
        simpa [getElem?_singleton] using hi
      rw [he.revision, hs.revision]
      omega
    · intro id c hc
      rw [ha] at hc
      obtain ⟨c0, hc0, rfl⟩ := Option.map_eq_some_iff.mp hc
      rw [ho]
      exact ((hs.channels id c0 hc0).offer e).1
    · intro id hd
      rw [ha]
      show Option.map _ (h.channels id) = none
      rw [hs.fresh id (hn ▸ hd)]
      rfl
    · rw [he.high]
      by_cases hu : uid = e.sandboxUID
      · rw [hu, update_self]
        exact he.le
      · rw [update_of_ne hu]
    · exact ho ▸ prefix_append _ _
    · intro id c hc
      rw [ha]
      refine ⟨c.offer e, ?_, ((hs.channels id c hc).offer e).2⟩
      show Option.map _ (h.channels id) = _
      rw [hc]
      rfl

theorem Hub.Sound.setChannel (hs : h.Sound) {id next : ℕ} (hc : c.Fits h.log)
    (hn : h.nextWatcher ≤ next) (hi : id ≤ next)
    (hsn : ∀ c0, h.channels id = some c0 → c.since = c0.since) :
    Hub.Sound { h with nextWatcher := next, channels := update h.channels id (some c) } ∧
      h.Grows { h with nextWatcher := next, channels := update h.channels id (some c) } := by
  have ho : update h.channels id (some c) id = some c := update_self ..
  have hot : ∀ id', id' ≠ id → update h.channels id (some c) id' = h.channels id' :=
    fun _ hne => update_of_ne hne ..
  refine ⟨⟨hs.current, hs.contents, hs.revision, hs.revisions, fun id' c' hc' => ?_,
    fun id' hi' => ?_⟩, fun _ => le_rfl, fun _ _ hb => hb, prefix_rfl, fun id' c' hc' => ?_⟩
  all_goals by_cases heq : id' = id
  · subst heq
    cases ho.symm.trans hc'
    exact hc
  · exact hs.channels id' c' ((hot id' heq).symm.trans hc')
  · exact absurd (heq ▸ hi) (not_le.mpr hi')
  · exact (hot id' heq).trans (hs.fresh id' (lt_of_le_of_lt hn hi'))
  · subst heq
    exact ⟨c, ho, hsn c' hc'⟩
  · exact ⟨c', (hot id' heq).trans hc', rfl⟩

theorem Hub.Sound.modify (hs : h.Sound) (id : ℕ) {f : Channel → Channel}
    (hf : ∀ c : Channel, c.Fits h.log → (f c).Fits h.log ∧ (f c).since = c.since) :
    (h.modify id f).Sound ∧ h.Grows (h.modify id f) := by
  unfold Hub.modify
  cases hc : h.channels id with
  | none =>
    rw [Option.map_none, ← hc, update_eq_self]
    exact Hub.Change.grows (.same rfl) hs
  | some c =>
    obtain ⟨ht, hn⟩ := hf c (hs.channels id c hc)
    refine hs.setChannel ht le_rfl ?_ fun _ hc0 => ?_
    · by_contra hlt
      rw [hs.fresh id (not_le.mp hlt)] at hc
      cases hc
    · rw [hc] at hc0
      cases hc0
      exact hn

/-- **One operation** keeps the store and its watchers together. -/
theorem Hub.Sound.perform (hs : h.Sound) (op : Operation) :
    (h.perform parseIP op).Sound ∧ h.Grows (h.perform parseIP op) := by
  cases op with
  | apply route => exact (change_apply route).grows hs
  | markDraining uid g => exact (change_markDraining hs.current uid g).grows hs
  | delete uid g => exact (change_delete uid g).grows hs
  | subscribe =>
    refine hs.setChannel ⟨le_rfl, ?_, fun _ => ?_⟩ (le_succ _) le_rfl fun c0 hc0 => ?_
    · exact nil_prefix
    · exact drop_length.symm
    · rw [hs.fresh _ (lt_succ_self _)] at hc0
      cases hc0
  | cancel id => exact hs.modify id fun c hc => ⟨⟨hc.since, hc.stretch, nofun⟩, rfl⟩
  | receive id => exact hs.modify id fun c hc => hc.receive

theorem Hub.Sound.run (hs : h.Sound) (ops : List Operation) :
    (h.run parseIP ops).Sound ∧ h.Grows (h.run parseIP ops) := by
  induction ops generalizing h with
  | nil => exact Hub.Change.grows (.same rfl) hs
  | cons op rest ih =>
    obtain ⟨hs₁, h1⟩ : (h.perform parseIP op).Sound ∧ _ := hs.perform op
    obtain ⟨hs₂, h2⟩ := ih hs₁
    refine ⟨hs₂, fun uid => (h1.high uid).trans (h2.high uid), fun uid g hb => ?_,
      h1.log.trans h2.log, fun id c hc => ?_⟩
    · exact h2.barred uid g (h1.barred uid g hb)
    · obtain ⟨c₁, hc₁, hi1⟩ := h1.since id c hc
      obtain ⟨c2, hc2, hi2⟩ := h2.since id c₁ hc₁
      exact ⟨c2, hc2, hi2.trans hi1⟩

theorem Hub.sound_empty : Hub.Sound {} := ⟨nofun, rfl, rfl, nofun, nofun, fun _ _ => rfl⟩

/-! ## Reconstruction -/

theorem Store.Current.contentsOf_snapshot (hs : s.Current) :
    contentsOf s.snapshot = s.loadRoute := by
  have he : ∀ r, r ∈ s.snapshot ↔ s.loadRoute r.sandboxUID = some r := by
    intro r
    unfold Store.snapshot Store.loadRoute
    rw [mem_insertionSort, mem_map]
    constructor
    · rintro ⟨⟨uid, r'⟩, hn, rfl⟩
      have hl := AList.mem_lookup_iff.mpr hn
      rw [(hs uid r' hl).1]
      exact hl
    · exact fun hl => ⟨⟨r.sandboxUID, r⟩, AList.mem_lookup_iff.mp hl, rfl⟩
  funext uid
  unfold contentsOf
  cases hl : s.loadRoute uid with
  | none =>
    refine find?_eq_none.mpr fun r hr hi => ?_
    rw [← of_decide_eq_true hi, (he r).mp hr] at hl
    cases hl
  | some r =>
    have hi := (hs uid r hl).1
    cases hf : s.snapshot.find? (·.sandboxUID = uid) with
    | none =>
      have hr : r ∈ s.snapshot := (he r).mpr (hi ▸ hl)
      exact absurd (decide_eq_true hi) (find?_eq_none.mp hf r hr)
    | some r' =>
      have hu' : r'.sandboxUID = uid := by simpa using find?_some hf
      rw [← hl, ← hu']
      exact ((he r').mp (mem_of_find?_eq_some hf)).symm

theorem filter_eq_drop {since r : ℕ} {events : List Event}
    (hrev : ∀ i e, events[i]? = some e → e.revision = since + i + 1) :
    events.filter (r < ·.revision) = events.drop (r - since) := by
  induction events generalizing since with
  | nil => simp
  | cons e rest ih =>
    have hh : e.revision = since + 1 := hrev 0 e rfl
    have hr : rest.filter (r < ·.revision) = rest.drop (r - (since + 1)) := ih fun i e' hi => by
      rw [hrev (i + 1) e' hi]
      omega
    by_cases hlt : since < r
    · obtain ⟨k, hk⟩ : ∃ k, r - since = k + 1 := ⟨r - since - 1, by omega⟩
      rw [filter_cons_of_neg (by simp; omega), hr, hk, drop_succ_cons]
      congr 1
      omega
    · rw [filter_cons_of_pos (by simp; omega), hr, Nat.sub_eq_zero_of_le (by omega),
        Nat.sub_eq_zero_of_le (by omega)]
      rfl

variable {log events : List Event} {r : ℕ}

section

variable (hrev : ∀ i e, log[i]? = some e → e.revision = i + 1) (heve : events <+: log.drop r)
include hrev heve

theorem revision_of_stretch {i : ℕ} (hi : events[i]? = some e) : e.revision = r + i + 1 := by
  obtain ⟨rest, hr⟩ := heve
  have hl : (events ++ rest)[i]? = some e :=
    (List.getElem?_append_left (List.getElem?_eq_some_iff.mp hi).1).trans hi
  rw [hr, List.getElem?_drop] at hl
  exact hrev _ e hl

theorem replay_stretch : replay (contentsAt log r) events = contentsAt log (latest r events) := by
  have hl : latest r events = r + events.length := by
    unfold latest
    rw [List.getLast?_eq_getElem?]
    cases hs : events[events.length - 1]? with
    | none =>
      have he := List.getElem?_eq_none_iff.mp hs
      show r = _
      omega
    | some e =>
      have hlt := (List.getElem?_eq_some_iff.mp hs).1
      show e.revision = _
      rw [revision_of_stretch hrev heve hs]
      omega
  unfold contentsAt replay
  rw [hl, take_add, foldl_append, ← prefix_iff_eq_take.mp heve]

end

end Step

/-- **The route store and its watchers.** At every point of a run: marks never fall, an active route
is at its mark, what was deleted stays away, and events are numbered by the revisions. A subscriber
that takes a snapshot at that point and later applies what it has received holds the contents of the
last event, of which `contentsAt` is the record; its channel is open only if it missed nothing. -/
theorem routeStore_watched (parseIP : String → Bool) (ops later : List Operation) :
    let h := Hub.run parseIP {} ops
    let h' := h.run parseIP later
    (∀ uid, h.store.highWater uid ≤ h'.store.highWater uid) ∧
    (∀ uid r, h.store.loadRoute uid = some r → r.routeGeneration = h.store.highWater uid) ∧
    (∀ uid g r, ((h.delete uid g).run parseIP later).store.lookup uid = .ok r →
      g < r.routeGeneration) ∧
    (∀ op, (h.perform parseIP op).log = h.log ∧
        (h.perform parseIP op).store.revision = h.store.revision ∨
      ∃ e, (h.perform parseIP op).log = h.log ++ [e] ∧
        (h.perform parseIP op).store.revision = h.store.revision + 1) ∧
    h.store.loadRoute = contentsAt h'.log h.store.revision ∧
    ∀ id c c', h.channels id = some c → h'.channels id = some c' →
      replay (contentsOf h.store.snapshot) (c'.news h.store.revision) =
          contentsAt h'.log (latest h.store.revision (c'.news h.store.revision)) ∧
        c'.received ++ c'.buffer <+: h'.log.drop c.since ∧
        (c'.isOpen = true → c'.received ++ c'.buffer = h'.log.drop c.since) := by
  intro h h'
  obtain ⟨hs, -⟩ : h.Sound ∧ _ := Hub.sound_empty.run ops
  obtain ⟨hs', hg⟩ : h'.Sound ∧ h.Grows h' := hs.run later
  have ho : h.store.loadRoute = contentsAt h'.log h.store.revision := by
    rw [hs.contents, hs.revision]
    unfold contentsAt
    rw [take_length, ← prefix_iff_eq_take.mp hg.log]
  refine ⟨hg.high, fun uid r hr => (hs.current uid r hr).2.1, fun uid g r hr => ?_, fun op => ?_,
    ho, fun id c c' hc hc' => ?_⟩
  · obtain ⟨hs₁, -⟩ := (change_delete uid g).grows hs
    obtain ⟨hs₂, hg₂⟩ : ((h.delete uid g).run parseIP later).Sound ∧ _ := hs₁.run later
    have hl := loadRoute_of_lookup hr
    obtain ⟨-, -, hui, hpos⟩ := hs₂.current uid r hl
    rcases hg₂.barred uid g (barred_delete hs.current uid g) with hm | hle | ⟨-, hu⟩
    · exact absurd hm hui
    · exact hle.trans_lt hpos
    · exact hu r hl
  · cases op with
    | apply route => exact (change_apply route).numbered
    | markDraining uid g => exact (change_markDraining hs.current uid g).numbered
    | delete uid g => exact (change_delete uid g).numbered
    | subscribe | cancel | receive => exact .inl ⟨rfl, rfl⟩
  · obtain ⟨_, hc₁, hi⟩ := hg.since id c hc
    cases hc'.symm.trans hc₁
    have hf := hs'.channels id c' hc'
    have hle : c'.since ≤ h.store.revision := hi ▸ hs.revision ▸ (hs.channels id c hc).since
    refine ⟨?_, hi ▸ hf.stretch, hi ▸ hf.whole⟩
    have he : c'.received <+: h'.log.drop c'.since := (prefix_append _ _).trans hf.stretch
    have hn : c'.news h.store.revision = c'.received.drop (h.store.revision - c'.since) :=
      filter_eq_drop fun _ _ => revision_of_stretch hs'.revisions he
    rw [hs.current.contentsOf_snapshot, ho]
    refine replay_stretch hs'.revisions ?_
    rw [hn]
    have hd := he.drop (h.store.revision - c'.since)
    rwa [drop_drop, Nat.add_sub_cancel' hle] at hd

end FastSandbox.DataPlane
