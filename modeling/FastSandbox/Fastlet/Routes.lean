import FastSandbox.DataPlane.RouteSlot
import FastSandbox.Fastlet.Finality

/-!
# Routes along a run

The proxy's store remembers a removal for good, so a Sandbox that keeps its route generation can
publish its route only until the route is removed for the first time, whatever the reason was.
-/

namespace FastSandbox.Fastlet

open DataPlane List Bool
open Interleaving

/-- What the proxy executed since it was last started, newest first. -/
def servedCalls : List Entry → History
  | [] => []
  | .proxyRestarted :: _ => []
  | .served call result :: log => (call, accepted result) :: servedCalls log
  | _ :: log => servedCalls log

/-- The Sandbox has kept one route generation since the proxy was started. -/
def OneGeneration (h : History) (uid : String) (g : ℤ) : Prop :=
  ∀ served ∈ h, served.1.target = some uid → served.1.generation = g

instance (h : History) (uid : String) (g : ℤ) : Decidable (OneGeneration h uid g) :=
  inferInstanceAs (Decidable (∀ served ∈ h, served.1.target = some uid → served.1.generation = g))

/-- The proxy's store shows every Sandbox of one generation as the log tells it. -/
structure Routed (m : Manager) : Prop where
  keyed : m.proxy.Keyed
  shows : ∀ uid g, 0 < g → OneGeneration (servedCalls m.log) uid g →
    ∃ slot, m.proxy.Shows uid g slot ∧ Told (servedCalls m.log) uid slot

theorem Routed.of_quiet {m m' : Manager} (h : Routed m) (hp : m'.proxy = m.proxy)
    (hl : servedCalls m'.log = servedCalls m.log) : Routed m' := by
  constructor
  · rw [hp]
    exact h.keyed
  · rw [hp, hl]
    exact h.shows

theorem routed_fresh {m : Manager} (hp : m.proxy = {}) (hl : servedCalls m.log = []) :
    Routed m := by
  constructor
  · rw [hp]
    exact keyed_empty
  · intro uid g _ _
    rw [hp, hl]
    exact ⟨.untouched, ⟨rfl, rfl⟩, told_nil uid⟩

theorem routed_step {cfg : Config} {m : Manager} {t : Task} {c : Choice} {out : Manager × List Task}
    (hr : m.registry.Valid) (ht : TaskOk cfg m.registry t) (hm : Routed m)
    (h : advance cfg m t c = some out) : Routed out.1 := by
  cases (advance_section hr ht h).logged with
  | quiet hq => exact hm.of_quiet hq.proxy (congrArg servedCalls hq.log)
  | created _ _ _ hl hp | accepted _ _ hl hp | deleted _ _ hl hp
  | inspected _ _ hl hp => exact hm.of_quiet hp (by rw [hl]; rfl)
  | restarted _ hl hp => exact routed_fresh hp (by rw [hl]; rfl)
  | served call hl hp =>
    constructor
    · rw [hp]
      exact (serve_effect call).keyed hm.keyed
    intro uid g hg ho
    rw [hl] at ho ⊢
    obtain ⟨_, hs, htl⟩ := hm.shows uid g hg fun served hin => ho served (mem_cons_of_mem _ hin)
    rw [hp]
    exact serve_shows hm.keyed hg (ho _ mem_cons_self) hs htl

theorem routed_of_reaches {cfg : Config} {instances : List String} {w : World Manager Task}
    (h : (system cfg).Reaches System.anyStep (start cfg instances) w) : Routed w.shared :=
  (discipline cfg).keeps (fun _ _ _ h => h)
    (fun hr ht hm _ h => routed_step hr ht hm h) (start_holds cfg instances)
    (routed_fresh rfl rfl) h

/-- **When a publication is accepted.** A Sandbox keeps its route generation. In every run, its
publication is accepted exactly if the route is valid, no removal of its route was accepted since
the proxy was started, and every route accepted for it since then was this one. -/
theorem publication_accepted_iff {cfg : Config} {instances : List String}
    {w w' : World Manager Task} {n : ℕ} {c : Choice} {publication : RoutePublication}
    {result : Except RouteError (List Route)}
    (h : (system cfg).Reaches System.anyStep (start cfg instances) w)
    (hstep : (system cfg).step w (.run n c) = some w') (hlog : w'.shared.log =
      .served (.apply (routeFromPublication publication)) result :: w.shared.log)
    (hone : OneGeneration (servedCalls w.shared.log) publication.sandboxUID
      publication.routeGeneration) : accepted result = true ↔
      (routeFromPublication publication).validate cfg.parseIP = true ∧
      (∀ call, (call, true) ∈ servedCalls w.shared.log →
        call.target = some publication.sandboxUID → call.removes = false) ∧
      ∀ current : Route, (.apply current, true) ∈ servedCalls w.shared.log →
        current.sandboxUID = publication.sandboxUID →
        current = routeFromPublication publication := by
  have hw := holds_of_reaches h
  obtain ⟨t, _, _, _, _, hn, ha, -, rfl⟩ := System.step_run_cases hstep
  -- the entry is the store's own answer
  have hr : result = (w.shared.proxy.serve cfg.parseIP
      (.apply (routeFromPublication publication))).2 := by
    cases (advance_section hw.inv (hw.task t (mem_of_getElem? hn)) ha).logged with
    | served call hl' =>
      have heq := hl'.symm.trans hlog
      cases heq
      rfl
    | quiet hq => exact absurd (hlog.symm.trans hq.log) (cons_ne_self _ _)
    | created _ _ _ hl' | accepted _ _ hl' | deleted _ _ hl' | inspected _ _ hl'
    | restarted _ hl' =>
      have heq := hl'.symm.trans hlog
      cases heq
  rw [hr]
  by_cases hg : 0 < publication.routeGeneration
  · obtain ⟨_, hs, ht⟩ := (routed_of_reaches h).shows _ _ hg hone
    have ho := serve_apply_accepted_iff cfg.parseIP (routeFromPublication publication) hs hg rfl
    exact ho.trans ht.accepts_iff
  refine iff_of_false ?_ fun hv => hg (validate_generation_pos hv.1)
  have hle : (routeFromPublication publication).routeGeneration ≤ 0 := not_lt.mp hg
  unfold Store.serve
  dsimp only
  rw [if_pos hle]
  exact false_ne_true

/-! ## Loss and recovery -/

/-- A Fastlet that initializes Infra Components and publishes routes. -/
def routedConfig : Config where
  capacity := 1
  capacity_pos := Nat.one_pos
  fastletPodUID := "pod-1"
  infraManager := true
  routePublisher := true

def routedRequest : CreateSandboxRequest where
  identity := { sampleIdentity with fastletPodUID := "pod-1" }

def sampleServices : List ServiceEndpoint :=
  [{ component := "agent", protocol := "http", port := 8080 }]

/-- The artifacts are prepared and the empty proxy is reconciled. -/
def preparation : List (Event Call Choice) :=
  [.spawn .prepareInfra, .run 0 .go, .run 0 .go, .run 0 (.answer none), .run 0 .go, .run 0 .go,
    .run 0 .go, .run 0 .go, .run 0 .go, .run 0 .go, .run 0 (.proxy true), .run 0 .go, .run 0 .go,
    .run 0 .go, .run 0 .go]

/-- A Sandbox is created, up to its data-plane worker. -/
def routedCreation : List (Event Call Choice) :=
  preparation ++ [.spawn (.create routedRequest), .run 0 (.admission true true), .run 0 .go,
    .run 0 (.ensured (.ok sampleServices) true), .run 0 .go, .run 0 .go, .run 0 .go, .run 1 .go,
    .run 1 .go]

/-- One pass of the worker, up to the publication. -/
def dataPlanePass : List (Event Call Choice) :=
  [.run 0 .go, .run 0 .go, .run 0 (.infra sampleServices none), .run 0 .go, .run 0 .go, .run 0 .go,
    .run 0 .go, .run 0 .go,
    .run 0 (.access (.ok { kind := accessKindDirectIP, address := "10.0.0.1" }))]

/-- The health monitor meets a failing component, and the route is removed. -/
def healthLoss : List (Event Call Choice) :=
  [.run 0 .go, .run 0 .go, .run 0 .go, .run 0 .go, .run 0 .go,
    .run 0 (.infra sampleServices (some "connection refused")), .run 0 .go, .run 0 .go, .run 0 .go,
    .run 0 (.proxy true), .run 0 (.proxy true)]

def samplePublication : RoutePublication where
  sandboxNamespace := "default"
  sandboxUID := "uid-1"
  fastletPodUID := "pod-1"
  assignmentAttempt := 1
  routeGeneration := 1
  access := { kind := accessKindDirectIP, address := "10.0.0.1" }
  components := componentRoutes sampleServices

/-- The log after a step, when the step published the sample route. -/
def publishesSample (result : Except RouteError (List Route)) (w w' : World Manager Task) : Bool :=
  decide (w'.shared.log =
    .served (.apply (routeFromPublication samplePublication)) result :: w.shared.log)

/-- The publication is executed when its caller has given up, and the worker comes again. -/
def lateAnswer : List (Event Call Choice) :=
  [.run 0 (.proxy false), .run 1 .go, .run 0 .go, .run 0 .go, .run 0 .go, .run 0 .go, .run 0 .go,
    .run 0 .go, .run 0 .go, .run 0 .go,
    .run 0 (.access (.ok { kind := accessKindDirectIP, address := "10.0.0.1" }))]

theorem repeated_publication_accepted : ∃ w w' : World Manager Task, ∃ result,
      (system routedConfig).step w (.run 0 (.proxy true)) = some w' ∧
      w'.shared.log =
        .served (.apply (routeFromPublication samplePublication)) result :: w.shared.log ∧
      accepted result = true := by
  obtain ⟨w, w', h, hp, he⟩ := System.exists_step_of_run (S := system routedConfig)
    (w := start routedConfig []) (routedCreation ++ dataPlanePass ++ lateAnswer)
    (.run 0 (.proxy true)) (fun w w' => publishesSample (.ok []) w w' &&
      decide (servedCalls w.shared.log =
        [(.apply (routeFromPublication samplePublication), true), (.snapshot, true)]))
    (by decide +kernel)
  rw [and_eq_true] at he
  have hl := of_decide_eq_true he.1
  have hs := of_decide_eq_true he.2
  refine ⟨w, w', _, hp, hl, (publication_accepted_iff h hp hl ?_).mpr ⟨by decide, ?_, ?_⟩⟩
  · rw [hs]
    decide
  · rw [hs]
    intro call hin _
    rcases mem_pair.mp hin with hc | hc <;> cases hc <;> rfl
  · rw [hs]
    intro current hin _
    rcases mem_pair.mp hin with hc | hc <;> cases hc
    rfl

def Entry.isAccepted : Entry → Bool
  | .accepted _ => true
  | _ => false

/-- The same route, removed when its components failed and published again when they are healthy,
is refused, although nobody asked for the Sandbox's deletion. -/
theorem republication_refused :
    ¬ ∀ (cfg : Config) (instances : List String) (w w' : World Manager Task) (n : ℕ) (c : Choice)
      (publication : RoutePublication) (result : Except RouteError (List Route)),
      (system cfg).Reaches System.anyStep (start cfg instances) w →
      (system cfg).step w (.run n c) = some w' →
      w'.shared.log = .served (.apply (routeFromPublication publication)) result :: w.shared.log →
      OneGeneration (servedCalls w.shared.log) publication.sandboxUID publication.routeGeneration →
      (∀ entry ∈ w.shared.log, entry.isAccepted = false) →
      (routeFromPublication publication).validate cfg.parseIP = true → accepted result = true := by
  intro hl
  obtain ⟨w, w', h, hs, ht⟩ := System.exists_step_of_run (S := system routedConfig)
    (w := start routedConfig [])
    (routedCreation ++ dataPlanePass ++ [.run 0 (.proxy true)] ++ healthLoss ++ dataPlanePass)
    (.run 0 (.proxy true))
    (fun w w' => publishesSample (.error .stale) w w' &&
      decide (OneGeneration (servedCalls w.shared.log) "uid-1" 1 ∧
        ∀ entry ∈ w.shared.log, entry.isAccepted = false)) (by decide +kernel)
  rw [and_eq_true] at ht
  obtain ⟨ho, hk⟩ := of_decide_eq_true ht.2
  have ha := hl routedConfig [] w w' _ _ samplePublication _ h hs
    (of_decide_eq_true ht.1) ho hk (by decide)
  cases ha

end FastSandbox.Fastlet
