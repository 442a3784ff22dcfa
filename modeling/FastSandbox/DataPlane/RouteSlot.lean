import FastSandbox.DataPlane.RouteStore

/-!
# The route of one Sandbox at one generation

Seen by a Sandbox whose route generation does not change, the store is a slot: nothing is known of
the Sandbox, or one route is published, or the route was removed. A removed route never comes back
at the same generation. `serve_shows` is the refinement: the store shows the slot's state after
every call.
-/

namespace FastSandbox.DataPlane

open Function Store List Bool

def ProxyCall.target : ProxyCall → Option String
  | .apply route => some route.sandboxUID
  | .markDraining uid _ | .delete uid _ => some uid
  | .snapshot => none

def ProxyCall.generation : ProxyCall → ℤ
  | .apply route => route.routeGeneration
  | .markDraining _ generation | .delete _ generation => generation
  | .snapshot => 0

def ProxyCall.removes : ProxyCall → Bool
  | .markDraining .. | .delete .. => true
  | _ => false

inductive Slot
  | untouched
  | published (route : Route)
  | removed

def Slot.accepts (parseIP : String → Bool) (slot : Slot) (route : Route) : Prop :=
  route.validate parseIP ∧
    match slot with
    | .untouched => True
    | .published current => current = route
    | .removed => False

/-- The store shows a slot for `uid` at generation `g`. A draining route is as good as removed. -/
def Store.Shows (s : Store) (uid : String) (g : ℤ) : Slot → Prop
  | .untouched => s.loadRoute uid = none ∧ s.highWater uid = 0
  | .published route =>
    s.loadRoute uid = some route ∧ s.highWater uid = g ∧ route.routeGeneration = g
  | .removed => s.highWater uid = g ∧ ∀ route, s.loadRoute uid = some route →
      route.routeGeneration = g ∧ route.state = .draining

variable {call : ProxyCall}

section Calls

variable {parseIP : String → Bool} {s : Store} {uid : String} {g : ℤ} {slot : Slot}

theorem loadRoute_storeRoute (route : Route) :
    (s.storeRoute route).loadRoute route.sandboxUID = some route := AList.lookup_insert _

variable {route : Route}

theorem loadRoute_storeRoute_of_ne (h : uid ≠ route.sandboxUID) :
    (s.storeRoute route).loadRoute uid = s.loadRoute uid := AList.lookup_insert_ne h

variable {s' : Store}

theorem Store.Shows.of_eq (h : s.Shows uid g slot) (hl : s'.loadRoute uid = s.loadRoute uid)
    (hh : s'.highWater uid = s.highWater uid) : s'.Shows uid g slot := by
  cases slot <;> unfold Store.Shows at h ⊢ <;> rw [hl, hh] <;> exact h

def Store.Keyed (s : Store) : Prop :=
  ∀ uid route, s.loadRoute uid = some route → route.sandboxUID = uid

theorem keyed_empty : Store.Keyed {} := nofun

/-! ## Publication -/

theorem validate_generation_pos (h : route.validate parseIP) : 0 < route.routeGeneration := by
  unfold Route.validate at h
  simp only [and_eq_true, decide_eq_true_eq] at h
  exact h.1.1.2

theorem sameGeneration_of_load {current : Route} (hl : s.loadRoute route.sandboxUID = some current)
    (hg : current.routeGeneration = route.routeGeneration) :
    s.sameGeneration route = some current := by
  unfold sameGeneration
  rw [hl, Option.filter_some, if_pos (decide_eq_true hg.symm)]

theorem sameGeneration_of_none (hl : s.loadRoute route.sandboxUID = none) :
    s.sameGeneration route = none := by
  unfold sameGeneration
  rw [hl]
  rfl

theorem apply_of_invalid (h : ¬ route.validate parseIP) :
    s.apply parseIP route = (s, .error .conflict) := by
  unfold apply
  rw [not_eq_true] at h
  rw [h]
  rfl

theorem apply_of_accepts (h : s.Shows route.sandboxUID route.routeGeneration slot)
    (ha : slot.accepts parseIP route) : (∃ e, (s.apply parseIP route).2 = .ok e) ∧
      (s.apply parseIP route).1.Shows route.sandboxUID route.routeGeneration
        (.published route) := by
  obtain ⟨hv, hs⟩ := ha
  have hg := validate_generation_pos hv
  unfold apply
  rw [hv, if_neg (show ¬ (!true) from false_ne_true)]
  cases slot with
  | untouched =>
    obtain ⟨hl, hh⟩ := h
    rw [hh, if_neg (not_lt.mpr hg.le), sameGeneration_of_none hl]
    rw [if_neg (fun hz => hz.2 rfl)]
    exact ⟨⟨_, rfl⟩, loadRoute_storeRoute route, update_self _ _ _, rfl⟩
  | published =>
    obtain ⟨hl, hh, he⟩ := h
    rw [hh, if_neg (lt_irrefl _), sameGeneration_of_load hl he]
    dsimp only
    rw [if_pos hs]
    exact ⟨⟨_, rfl⟩, hl.trans (congrArg some hs), hh, rfl⟩
  | removed => exact hs.elim

theorem apply_of_not_accepts (hg : 0 < route.routeGeneration)
    (h : s.Shows route.sandboxUID route.routeGeneration slot)
    (ha : ¬ slot.accepts parseIP route) : (s.apply parseIP route).1 = s ∧
      (∀ e, (s.apply parseIP route).2 = .ok e → slot = .removed ∧ route.state = .draining) := by
  by_cases hv : route.validate parseIP
  · unfold apply
    rw [hv, if_neg (show ¬ (!true) from false_ne_true)]
    cases slot with
    | untouched => exact absurd ⟨hv, trivial⟩ ha
    | published =>
      obtain ⟨hl, hh, he⟩ := h
      rw [hh, if_neg (lt_irrefl _), sameGeneration_of_load hl he]
      dsimp only
      rw [if_neg (fun heq => ha ⟨hv, heq⟩)]
      exact ⟨rfl, nofun⟩
    | removed =>
      obtain ⟨hh, ho⟩ := h
      rw [hh, if_neg (lt_irrefl _)]
      cases hl : s.loadRoute route.sandboxUID with
      | none =>
        rw [sameGeneration_of_none hl]
        rw [if_pos ⟨rfl, hg.ne'⟩]
        exact ⟨rfl, nofun⟩
      | some current =>
        obtain ⟨he, hd⟩ := ho current hl
        rw [sameGeneration_of_load hl he]
        dsimp only
        split_ifs with heq
        · exact ⟨rfl, fun _ _ => ⟨rfl, heq ▸ hd⟩⟩
        · exact ⟨rfl, nofun⟩
  · rw [apply_of_invalid hv]
    exact ⟨rfl, nofun⟩

/-! ## Removal -/

theorem markDraining_shows (hk : s.Keyed) (hg : 0 < g) (h : s.Shows uid g slot) :
    ((∃ e, (s.markDraining uid g).2 = .ok e) ∧ (s.markDraining uid g).1.Shows uid g .removed) ∨
      ((s.markDraining uid g).1 = s ∧ ∃ err, (s.markDraining uid g).2 = .error err) := by
  unfold markDraining
  cases slot with
  | untouched =>
    obtain ⟨hl, hh⟩ := h
    rw [hl, hh]
    rw [if_neg (not_lt.mpr hg.le)]
    exact .inr ⟨rfl, _, rfl⟩
  | published route =>
    obtain ⟨hl, hh, rfl⟩ := h
    rw [hl]
    dsimp only
    rw [if_neg (lt_irrefl _), if_neg (lt_irrefl _)]
    split_ifs with hs
    · refine .inl ⟨⟨_, rfl⟩, hh, fun current hc => ?_⟩
      have hc' : s.loadRoute uid = some current := hc
      rw [hl] at hc'
      cases hc'
      exact ⟨rfl, hs⟩
    · refine .inl ⟨⟨_, rfl⟩, hh, fun current hc => ?_⟩
      have hu := hk uid route hl
      have hr : (s.storeRoute { route with state := .draining }).loadRoute uid =
          some { route with state := .draining } := by
        rw [← hu]
        exact loadRoute_storeRoute _
      rw [hr] at hc
      cases hc
      exact ⟨rfl, rfl⟩
  | removed =>
    obtain ⟨hh, ho⟩ := h
    cases hl : s.loadRoute uid with
    | none =>
      rw [hh, if_neg (lt_irrefl _)]
      exact .inr ⟨rfl, _, rfl⟩
    | some route =>
      obtain ⟨he, hd⟩ := ho route hl
      dsimp only
      rw [he, if_neg (lt_irrefl g), if_neg (lt_irrefl g), if_pos hd]
      exact .inl ⟨⟨_, rfl⟩, hh, ho⟩

theorem delete_shows (hg : 0 < g) (h : s.Shows uid g slot) :
    ((∃ e, (s.delete uid g).2 = .ok e) ∧ (s.delete uid g).1.Shows uid g .removed) ∨
      ((s.delete uid g).1 = s ∧ ∃ err, (s.delete uid g).2 = .error err) := by
  have hh : ¬ g < s.highWater uid := by
    cases slot with
    | untouched => exact h.2 ▸ not_lt.mpr hg.le
    | published => exact h.2.1 ▸ lt_irrefl g
    | removed => exact h.1 ▸ lt_irrefl g
  unfold delete
  by_cases hu : uid = ""
  · rw [if_pos (.inl hu)]
    exact .inr ⟨rfl, _, rfl⟩
  have hf : ¬ (uid = "" ∨ g ≤ 0) := by
    rintro (h' | h')
    · exact hu h'
    · exact not_le.mpr hg h'
  split_ifs with hs
  · refine .inl ⟨⟨_, rfl⟩, hs.1.symm, fun route ho => ?_⟩
    rw [hs.2] at ho
    cases ho
  · refine .inl ⟨⟨_, rfl⟩, update_self _ _ _, fun route ho => ?_⟩
    have he : (s.active.erase uid).lookup uid = some route := ho
    rw [AList.lookup_erase] at he
    cases he

/-! ## Effects -/

inductive Store.Effect (s : Store) : ProxyCall → Store → Prop
  | same (call : ProxyCall) : s.Effect call s
  | applied (route : Route) :
      s.Effect (.apply route) ((s.raise route.sandboxUID route.routeGeneration).storeRoute route)
  | drained (uid : String) (g : ℤ) (route : Route) (h : s.loadRoute uid = some route) :
      s.Effect (.markDraining uid g) (s.storeRoute { route with state := .draining })
  | deleted (uid : String) (g : ℤ) :
      s.Effect (.delete uid g)
        { s.raise uid g with active := s.active.erase uid, revision := s.revision + 1 }

theorem apply_effect (route : Route) : s.Effect (.apply route) (s.apply parseIP route).1 := by
  unfold apply
  cases s.sameGeneration route with
  | some =>
    dsimp only
    split_ifs <;> exact .same _
  | none =>
    dsimp only
    split_ifs
    · exact .same _
    · exact .same _
    · exact .same _
    · exact .applied route

theorem markDraining_effect (g : ℤ) : s.Effect (.markDraining uid g) (s.markDraining uid g).1 := by
  unfold markDraining
  cases hl : s.loadRoute uid with
  | none => split_ifs <;> exact .same _
  | some route =>
    dsimp only
    split_ifs
    · exact .same _
    · exact .same _
    · exact .same _
    · exact .drained uid g route hl

theorem delete_effect (g : ℤ) : s.Effect (.delete uid g) (s.delete uid g).1 := by
  unfold delete
  split_ifs
  · exact .same _
  · exact .same _
  · exact .same _
  · exact .deleted uid g

theorem serve_effect (call : ProxyCall) : s.Effect call (s.serve parseIP call).1 := by
  cases call with
  | apply route =>
    unfold serve
    dsimp only
    split_ifs
    · exact .same _
    · exact apply_effect route
  | markDraining uid g =>
    unfold serve
    dsimp only
    split_ifs
    · exact .same _
    · exact markDraining_effect g
  | delete uid g =>
    unfold serve
    dsimp only
    split_ifs
    · exact .same _
    · exact delete_effect g
  | snapshot => exact .same _

theorem keyed_storeRoute (hk : s.Keyed) (route : Route) : (s.storeRoute route).Keyed := by
  intro uid current hc
  by_cases hu : uid = route.sandboxUID
  · rw [hu, loadRoute_storeRoute] at hc
    cases hc
    exact hu.symm
  · rw [loadRoute_storeRoute_of_ne hu] at hc
    exact hk uid current hc

theorem Store.Effect.keyed (h : s.Effect call s') (hk : s.Keyed) : s'.Keyed := by
  cases h with
  | same => exact hk
  | applied route => exact keyed_storeRoute hk route
  | drained => exact keyed_storeRoute hk _
  | deleted target =>
    intro uid current hc
    have he : (s.active.erase target).lookup uid = some current := hc
    by_cases hu : uid = target
    · rw [hu, AList.lookup_erase] at he
      cases he
    · rw [AList.lookup_erase_ne hu] at he
      exact hk uid current he

theorem Store.Effect.shows_of_ne (h : s.Effect call s') (hk : s.Keyed)
    (hne : call.target ≠ some uid) (hs : s.Shows uid g slot) : s'.Shows uid g slot := by
  cases h with
  | same => exact hs
  | applied route =>
    have hu : uid ≠ route.sandboxUID := fun heq => hne (congrArg some heq.symm)
    exact hs.of_eq (loadRoute_storeRoute_of_ne hu) (update_of_ne hu _ _)
  | drained target g' route hl =>
    have hu : uid ≠ ({ route with state := .draining } : Route).sandboxUID := by
      rw [hk target route hl]
      exact fun heq => hne (congrArg some heq.symm)
    exact hs.of_eq (loadRoute_storeRoute_of_ne hu) rfl
  | deleted target =>
    have hu : uid ≠ target := fun heq => hne (congrArg some heq.symm)
    exact hs.of_eq (AList.lookup_erase_ne hu) (update_of_ne hu _ _)

end Calls

/-! ## Histories -/

/-- A call and whether the proxy accepted it. -/
abbrev History := List (ProxyCall × Bool)

/-- The history tells the slot: what removed it, and what was published before. -/
structure Told (h : History) (uid : String) (slot : Slot) : Prop where
  removed : slot = .removed ↔ ∃ call, (call, true) ∈ h ∧ call.target = some uid ∧ call.removes
  published : slot ≠ .removed → ∀ route : Route,
    slot = .published route ↔ (.apply route, true) ∈ h ∧ route.sandboxUID = uid

theorem told_nil (uid : String) : Told [] uid .untouched where
  removed := ⟨nofun, fun ⟨_, h, _⟩ => absurd h not_mem_nil⟩
  published _ _ := ⟨nofun, fun ⟨h, _⟩ => absurd h not_mem_nil⟩

section

variable {h : History} {uid : String} {slot : Slot} {call : ProxyCall} {ok : Bool}

theorem Told.skip (ht : Told h uid slot) (hs : ok → call.target ≠ some uid) :
    Told ((call, ok) :: h) uid slot := by
  have he : ∀ call', call'.target = some uid →
      ((call', true) ∈ (call, ok) :: h ↔ (call', true) ∈ h) := by
    intro call' hg
    constructor
    · intro hin
      rcases mem_cons.mp hin with heq | hin
      · cases heq
        exact absurd hg (hs rfl)
      · exact hin
    · exact mem_cons_of_mem _
  refine ⟨ht.removed.trans ?_, fun hne route => (ht.published hne route).trans ?_⟩
  · constructor
    · rintro ⟨call', hin, hg, hr⟩
      exact ⟨call', (he call' hg).mpr hin, hg, hr⟩
    · rintro ⟨call', hin, hg, hr⟩
      exact ⟨call', (he call' hg).mp hin, hg, hr⟩
  · constructor
    · rintro ⟨hin, hu⟩
      exact ⟨(he (.apply route) (congrArg some hu)).mpr hin, hu⟩
    · rintro ⟨hin, hu⟩
      exact ⟨(he (.apply route) (congrArg some hu)).mp hin, hu⟩

theorem Told.remove (ht : call.target = some uid) (he : call.removes) :
    Told ((call, true) :: h) uid .removed where
  removed := ⟨fun _ => ⟨call, mem_cons_self, ht, he⟩, fun _ => rfl⟩
  published hne := absurd rfl hne

theorem Told.stays_removed (ht : Told h uid .removed) : Told ((call, ok) :: h) uid .removed where
  removed := by
    obtain ⟨call', hin, hc⟩ := ht.removed.mp rfl
    exact ⟨fun _ => ⟨call', mem_cons_of_mem _ hin, hc⟩, fun _ => rfl⟩
  published hne := absurd rfl hne

variable {parseIP : String → Bool}

theorem Told.publish {route : Route} (ht : Told h route.sandboxUID slot)
    (ha : slot.accepts parseIP route) :
    Told ((.apply route, true) :: h) route.sandboxUID (.published route) := by
  have hne : slot ≠ .removed := by
    rintro rfl
    exact ha.2
  refine ⟨⟨nofun, ?_⟩, fun _ current => ?_⟩
  · rintro ⟨call', hin, hg, he⟩
    rcases mem_cons.mp hin with heq | hin
    · cases heq
      cases he
    · exact absurd (ht.removed.mpr ⟨call', hin, hg, he⟩) hne
  · constructor
    · rintro ⟨⟩
      exact ⟨mem_cons_self, rfl⟩
    rintro ⟨hin, hu⟩
    rcases mem_cons.mp hin with heq | hin
    · cases heq
      rfl
    -- an earlier publication was the same one
    have hs := (ht.published hne current).mpr ⟨hin, hu⟩
    subst hs
    exact congrArg Slot.published (Eq.symm ha.2)

/-- A publication is taken exactly if it is valid, nothing was removed before, and whatever was
published before is the same route. -/
theorem Told.accepts_iff {route : Route} (ht : Told h route.sandboxUID slot) :
    slot.accepts parseIP route ↔ route.validate parseIP ∧
      (∀ call, (call, true) ∈ h → call.target = some route.sandboxUID → call.removes = false) ∧
      ∀ current : Route, (.apply current, true) ∈ h → current.sandboxUID = route.sandboxUID →
        current = route := by
  refine and_congr_right fun _ => ?_
  by_cases hr : slot = .removed
  · obtain ⟨call, hin, hg, he⟩ := ht.removed.mp hr
    subst hr
    refine iff_of_false id ?_
    rintro ⟨hn, -⟩
    rw [hn call hin hg] at he
    cases he
  · have hn : ∀ call, (call, true) ∈ h → call.target = some route.sandboxUID →
        call.removes = false := by
      intro call hin hg
      rw [← not_eq_true]
      exact fun he => hr (ht.removed.mpr ⟨call, hin, hg, he⟩)
    have hu := ht.published hr
    cases slot with
    | untouched =>
      refine iff_of_true trivial ⟨hn, fun current hin hi => ?_⟩
      exact absurd ((hu current).mpr ⟨hin, hi⟩) nofun
    | published current =>
      constructor
      · rintro rfl
        refine ⟨hn, fun other hin hi => ?_⟩
        have heq := (hu other).mpr ⟨hin, hi⟩
        cases heq
        rfl
      · rintro ⟨-, hs⟩
        obtain ⟨hin, hi⟩ := (hu current).mp rfl
        exact hs current hin hi
    | removed => exact absurd rfl hr

end

/-! ## Refinement -/

def accepted {α : Type} (result : Except RouteError α) : Bool :=
  match result with
  | .ok _ => true
  | .error _ => false

/-- **The store refines the slot.** If every call about the Sandbox carries the generation `g`, the
store goes on to show the slot the history tells. -/
theorem serve_shows {parseIP : String → Bool} {s : Store} {h : History} {uid : String} {g : ℤ}
    {slot : Slot} (hk : s.Keyed) (hg : 0 < g)
    (hc : call.target = some uid → call.generation = g) (hs : s.Shows uid g slot)
    (hl : Told h uid slot) : ∃ slot', (s.serve parseIP call).1.Shows uid g slot' ∧
      Told ((call, accepted (s.serve parseIP call).2) :: h) uid slot' := by
  by_cases ht : call.target = some uid
  · have hn := hc ht
    cases call with
    | snapshot => cases ht
    | apply route =>
      cases ht
      have he' : route.routeGeneration = g := hn
      subst he'
      unfold serve
      dsimp only
      rw [if_neg (not_le.mpr hg)]
      by_cases ha : slot.accepts parseIP route
      · obtain ⟨⟨_, ho⟩, hs'⟩ := apply_of_accepts hs ha
        refine ⟨.published route, hs', ?_⟩
        rw [ho]
        exact hl.publish ha
      · obtain ⟨hm, hnot⟩ := apply_of_not_accepts hg hs ha
        refine ⟨slot, by rw [hm]; exact hs, ?_⟩
        cases hrs : (s.apply parseIP route).2 with
        | error err => exact hl.skip nofun
        | ok done =>
          have hrm := (hnot _ hrs).1
          subst hrm
          exact hl.stays_removed
    | markDraining target generation =>
      cases ht
      have he' : generation = g := hn
      subst he'
      unfold serve
      dsimp only
      rw [if_neg (not_le.mpr hg)]
      rcases markDraining_shows hk hg hs with ⟨⟨_, ho⟩, hs'⟩ | ⟨hm, _, hr⟩
      · refine ⟨.removed, hs', ?_⟩
        rw [ho]
        exact .remove rfl rfl
      · refine ⟨slot, by rw [hm]; exact hs, ?_⟩
        rw [hr]
        exact hl.skip nofun
    | delete target generation =>
      cases ht
      have he' : generation = g := hn
      subst he'
      unfold serve
      dsimp only
      rw [if_neg (not_le.mpr hg)]
      rcases delete_shows hg hs with ⟨⟨_, ho⟩, hs'⟩ | ⟨hm, _, hr⟩
      · refine ⟨.removed, hs', ?_⟩
        rw [ho]
        exact .remove rfl rfl
      · refine ⟨slot, by rw [hm]; exact hs, ?_⟩
        rw [hr]
        exact hl.skip nofun
  · exact ⟨slot, (serve_effect call).shows_of_ne hk ht hs, hl.skip fun _ => ht⟩

theorem serve_apply_accepted_iff (parseIP : String → Bool) {s : Store} {slot : Slot} (route : Route)
    (hs : s.Shows route.sandboxUID route.routeGeneration slot)
    (hg : 0 < route.routeGeneration) (hr : route.state = .ready) :
    accepted (s.serve parseIP (.apply route)).2 ↔ slot.accepts parseIP route := by
  unfold serve
  dsimp only
  rw [if_neg (not_le.mpr hg)]
  by_cases ha : slot.accepts parseIP route
  · obtain ⟨⟨_, ho⟩, -⟩ := apply_of_accepts hs ha
    rw [ho]
    exact iff_of_true rfl ha
  obtain ⟨-, hnot⟩ := apply_of_not_accepts hg hs ha
  refine iff_of_false ?_ ha
  cases hrs : (s.apply parseIP route).2 with
  | error => exact false_ne_true
  | ok =>
    have hd := (hnot _ hrs).2
    rw [hr] at hd
    cases hd

end FastSandbox.DataPlane
