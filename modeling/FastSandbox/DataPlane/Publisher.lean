import FastSandbox.DataPlane.RouteSlot

/-!
# The route publisher

`RemoveRoute` and `ReconcileRoutes` are sequences of calls on the control socket, each fenced on
its own. Here nobody else writes, and every call is answered. A removal that meets an older
generation is refused by `MarkDraining` and never gets to its deletion.
-/

namespace FastSandbox.DataPlane

open Function List Store

/-- The store after any calls. -/
def reached (parseIP : String → Bool) (calls : List ProxyCall) : Store :=
  calls.foldl (fun s call => (s.serve parseIP call).1) {}

/-- The error of a call, unless it is an HTTP 404. -/
def refusal {α : Type} : Except RouteError α → Option RouteError
  | .ok _ => none
  | .error err => if err.statusCode = 404 then none else some err

/-- The call that deletes a route of the snapshot. -/
def Route.deletion (r : Route) : ProxyCall := .delete r.sandboxUID r.routeGeneration

/-- The call of `ApplyRoute`. -/
def applyRoute (p : RoutePublication) : ProxyCall := .apply (routeFromPublication p)

namespace Store

variable (parseIP : String → Bool) (s : Store)

def removeRoute (p : RoutePublication) : Store × Option RouteError :=
  let drained := s.serve parseIP (.markDraining p.sandboxUID p.routeGeneration)
  match refusal drained.2 with
  | some err => (drained.1, some err)
  | none =>
    let deleted := drained.1.serve parseIP (.delete p.sandboxUID p.routeGeneration)
    (deleted.1, refusal deleted.2)

/-- Calls up to the first error. -/
def serveAll (s : Store) : List ProxyCall → Store × Option RouteError
  | [] => (s, none)
  | call :: calls =>
    match s.serve parseIP call with
    | (s', .ok _) => s'.serveAll calls
    | (s', .error err) => (s', some err)

/-- `ReconcileRoutes` deletes the routes of Sandboxes that are not desired, then applies. -/
def reconcileRoutes (publications : List RoutePublication) : Store × Option RouteError :=
  let undesired := s.snapshot.filter fun r => publications.all (·.sandboxUID ≠ r.sandboxUID)
  s.serveAll parseIP (undesired.map Route.deletion ++ publications.map applyRoute)

/-- The route is removed, and its generation is the high-water mark. -/
def Removes (p : RoutePublication) : Prop :=
  (s.removeRoute parseIP p).2 = none ∧
    (s.removeRoute parseIP p).1.loadRoute p.sandboxUID = none ∧
    (s.removeRoute parseIP p).1.highWater p.sandboxUID = p.routeGeneration

/-- If there is no error, the active routes are the publications. -/
def Reconciles (publications : List RoutePublication) : Prop :=
  (s.reconcileRoutes parseIP publications).2 = none → ∀ uid route,
    (s.reconcileRoutes parseIP publications).1.loadRoute uid = some route ↔
      ∃ p ∈ publications, p.sandboxUID = uid ∧ routeFromPublication p = route

end Store

variable {parseIP : String → Bool} {s : Store} {p : RoutePublication} {uid : String} {g : ℤ}

theorem serve_delete (parseIP : String → Bool) (hg : 0 < g) (hh : s.highWater uid ≤ g) :
    if uid = "" then refusal (s.serve parseIP (.delete uid g)).2 ≠ none
    else refusal (s.serve parseIP (.delete uid g)).2 = none ∧
      (s.serve parseIP (.delete uid g)).1.loadRoute uid = none ∧
      (s.serve parseIP (.delete uid g)).1.highWater uid = g := by
  simp only [serve, delete, hg.not_ge, hh.not_gt, or_false, if_false]
  split_ifs with hu h
  · simp [refusal, Except.map, RouteError.statusCode]
  · exact ⟨rfl, h.2, h.1.symm⟩
  · exact ⟨rfl, AList.lookup_erase _ _, update_self _ _ _⟩

theorem serve_markDraining (parseIP : String → Bool) (hh : s.highWater uid ≤ g) :
    (s.serve parseIP (.markDraining uid g)).1.highWater = s.highWater ∧
      (refusal (s.serve parseIP (.markDraining uid g)).2 = none ↔
        0 < g ∧ ∀ r, s.loadRoute uid = some r → r.routeGeneration = g) := by
  simp only [serve, markDraining]
  cases s.loadRoute uid with
  | none | some => grind [refusal, Except.map, RouteError.statusCode, storeRoute]

theorem removes_iff (hh : s.highWater p.sandboxUID ≤ p.routeGeneration) :
    s.Removes parseIP p ↔ p.sandboxUID ≠ "" ∧ 0 < p.routeGeneration ∧
      ∀ r, s.loadRoute p.sandboxUID = some r → r.routeGeneration = p.routeGeneration := by
  obtain ⟨hg, hr⟩ := serve_markDraining parseIP hh
  unfold Removes removeRoute
  rw [← hr]
  cases hd : refusal (s.serve parseIP (.markDraining p.sandboxUID p.routeGeneration)).2 with
  | some => simp [hd]
  | none =>
    have he := serve_delete parseIP (hr.mp hd).1 (hg ▸ hh)
    simp only [hd]
    split_ifs at he with hu
    · exact iff_of_false (fun h => he h.1) fun h => h.1 hu
    · exact iff_of_true he ⟨hu, trivial⟩

/-! ## Reconciliation -/

theorem reached_keyed (calls : List ProxyCall) : (reached parseIP calls).Keyed := by
  have hr : ∀ s : Store, s.Keyed →
      (calls.foldl (fun s call => (s.serve parseIP call).1) s).Keyed := by
    induction calls with
    | nil => exact fun _ h => h
    | cons call calls ih => exact fun s h => ih _ ((serve_effect call).keyed h)
  exact hr {} keyed_empty

/-- What an accepted deletion or application leaves at its UID. -/
def ProxyCall.result : ProxyCall → Option (String × Option Route)
  | .delete uid _ => some (uid, none)
  | .apply r => some (r.sandboxUID, some r)
  | .markDraining .. | .snapshot => none

variable {call : ProxyCall} {calls : List ProxyCall} {new : Option Route}

theorem serve_contents {l : List Route} (hc : call.result = some (uid, new))
    (h : (s.serve parseIP call).2 = .ok l) (u : String) :
    (s.serve parseIP call).1.loadRoute u = if u = uid then new else s.loadRoute u := by
  cases call with
  | delete uid g =>
    cases hc
    simp only [serve, delete] at h ⊢
    grind [loadRoute, Store.raise, AList.lookup_erase, AList.lookup_erase_ne, Except.map]
  | apply r =>
    cases hc
    simp only [serve, apply, sameGeneration] at h ⊢
    grind [loadRoute, storeRoute, Store.raise, AList.lookup_insert, AList.lookup_insert_ne,
      Except.map, Option.filter_eq_some_iff]
  | markDraining | snapshot => cases hc

theorem serveAll_cons (hc : call.result = some (uid, new))
    (h : (s.serveAll parseIP (call :: calls)).2 = none) :
    ∃ s₁ : Store, (∀ u, s₁.loadRoute u = if u = uid then new else s.loadRoute u) ∧
      s.serveAll parseIP (call :: calls) = s₁.serveAll parseIP calls := by
  rw [serveAll] at h ⊢
  rcases hs : s.serve parseIP call with ⟨s₁, err | l⟩
  · rw [hs] at h
    cases h
  · have hn := serve_contents hc (congrArg Prod.snd hs)
    rw [hs] at hn
    exact ⟨s₁, hn, rfl⟩

theorem serveAll_deletions {routes : List Route}
    (h : (s.serveAll parseIP (routes.map Route.deletion ++ calls)).2 = none) :
    ∃ s₁ : Store, (∀ uid r, s₁.loadRoute uid = some r →
        s.loadRoute uid = some r ∧ ∀ r' ∈ routes, r'.sandboxUID ≠ uid) ∧
      s.serveAll parseIP (routes.map Route.deletion ++ calls) = s₁.serveAll parseIP calls := by
  induction routes generalizing s with
  | nil => exact ⟨s, by simp, rfl⟩
  | cons r routes ih =>
    rw [map_cons, cons_append] at h ⊢
    obtain ⟨s₁, h₁, heq⟩ := serveAll_cons rfl h
    rw [heq] at h ⊢
    obtain ⟨s₂, h₂, heq⟩ := ih h
    refine ⟨s₂, fun uid r' hr' => ?_, heq⟩
    obtain ⟨hl, hne⟩ := h₂ uid r' hr'
    rw [h₁] at hl
    split_ifs at hl with hu
    exact ⟨hl, forall_mem_cons.mpr ⟨Ne.symm hu, hne⟩⟩

variable {publications : List RoutePublication}

theorem serveAll_applications (hn : (publications.map (·.sandboxUID)).Nodup)
    (h : (s.serveAll parseIP (publications.map applyRoute)).2 = none) (uid : String)
    (route : Route) :
    (s.serveAll parseIP (publications.map applyRoute)).1.loadRoute uid = some route ↔
      (∃ p ∈ publications, p.sandboxUID = uid ∧ routeFromPublication p = route) ∨
        (∀ p ∈ publications, p.sandboxUID ≠ uid) ∧ s.loadRoute uid = some route := by
  induction publications generalizing s with
  | nil => simp [serveAll]
  | cons p publications ih =>
    rw [map_cons, nodup_cons, mem_map] at hn
    obtain ⟨s₁, h₁, heq⟩ := serveAll_cons rfl h
    rw [map_cons, heq] at h ⊢
    rw [ih hn.2 h, h₁]
    grind [routeFromPublication]

theorem reconciles (hk : s.Keyed) (hn : (publications.map (·.sandboxUID)).Nodup) :
    s.Reconciles parseIP publications := by
  intro h uid route
  unfold reconcileRoutes at h ⊢
  obtain ⟨s₁, h₁, heq⟩ := serveAll_deletions h
  rw [heq] at h ⊢
  rw [serveAll_applications hn h]
  refine or_iff_left_of_imp fun ⟨hnn, hl⟩ => ?_
  -- a route that nobody desires was deleted
  obtain ⟨hl, hd⟩ := h₁ uid route hl
  have hu := hk uid route hl
  refine absurd hu (hd route (mem_filter.mpr ⟨?_, by simpa [hu] using hnn⟩))
  unfold snapshot
  rw [mem_insertionSort, mem_map]
  exact ⟨⟨uid, route⟩, AList.mem_lookup_iff.mp hl, rfl⟩

/-- **The publisher does what it is asked.** A removal whose generation is not behind takes the
route away and leaves its generation as the mark, exactly if it has a key and no other generation
is active; a reconciliation that succeeds leaves exactly the publications. -/
theorem publisher_iff (parseIP : String → Bool) (calls : List ProxyCall) (p : RoutePublication) :
    let s := reached parseIP calls
    (s.highWater p.sandboxUID ≤ p.routeGeneration → s.Removes parseIP p) ∧
      (∀ publications : List RoutePublication, (publications.map (·.sandboxUID)).Nodup →
        s.Reconciles parseIP publications) ↔
    (s.highWater p.sandboxUID ≤ p.routeGeneration → p.sandboxUID ≠ "" ∧ 0 < p.routeGeneration ∧
      ∀ r, s.loadRoute p.sandboxUID = some r → r.routeGeneration = p.routeGeneration) := by
  intro s
  rw [and_iff_left fun _ => reconciles (reached_keyed calls)]
  exact forall_congr' removes_iff

def sampleRoute (generation : ℤ) : RoutePublication :=
  ⟨"ns", "sb", "pod", 1, generation, ⟨accessKindDirectIP, "10.0.0.2", ""⟩, ∅⟩

/-- The removal of generation 2 is refused while generation 1 is active, which goes on serving. -/
theorem older_route_stays : let s := reached (fun _ => true) [applyRoute (sampleRoute 1)]
    s.highWater "sb" ≤ 2 ∧ s.removeRoute (fun _ => true) (sampleRoute 2) = (s, some .conflict) ∧
      s.loadRoute "sb" = some (routeFromPublication (sampleRoute 1)) :=
  ⟨by decide, rfl, rfl⟩

end FastSandbox.DataPlane
