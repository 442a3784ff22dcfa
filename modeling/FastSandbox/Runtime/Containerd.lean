import FastSandbox.Network.Slots
import FastSandbox.Runtime.Contract

/-!
# The containerd driver

`EnsureSandbox` creates the container of a Sandbox in a network slot, and `DeleteSandbox` removes
it and releases the slot. Every remote call may fail, and one that changes something may have done
so although it reports an error: this is also what happens once the create context has expired.
The state kept here is that of one Sandbox ID.

`DeleteSandbox` verifies that the container is gone before it calls `Release`. `EnsureSandbox`
calls `Release` after every failed `CreateSandbox`, and `released_beside_container` says exactly
when a container is still there at that point.
-/

namespace FastSandbox.Runtime.Containerd

open Option
open Fastlet (RuntimeSandboxConfig)
open Network (Owner State Written ReleaseFate)

/-- The objects of one Sandbox in containerd. A container carries its configuration as labels. -/
structure Daemon where
  container : Option RuntimeSandboxConfig := none
  (task snapshot : Bool := false)

structure Node where
  daemon : Daemon
  network : State

/-- A call of the network manager's `Release`, and what containerd held at that time. -/
structure Releasing where
  owner : Owner
  daemon : Daemon

/-- How a driver call ends: the node, whether the error is nil, and its calls of `Release`. -/
structure Outcome where
  node : Node
  ok : Bool
  releases : List Releasing := []

namespace Daemon

variable (d : Daemon)

def deleteTask (w : Written) : Daemon := { d with task := d.task && !w.effective }

/-- `container.Delete` with snapshot cleanup. -/
def deleteContainer (w : Written) : Daemon :=
  { d with
    container := if w.effective then none else d.container
    snapshot := d.snapshot && !w.effective }

def removeSnapshot (w : Written) : Daemon := { d with snapshot := d.snapshot && !w.effective }

/-! ## Deletion -/

/-- The fate of each step of `DeleteSandbox`. `load`, `verify` and `stat` say whether containerd
answers at all; that it does not know the object is an answer. -/
structure DeleteFate where
  lookup : Option String
  load : Bool
  (deleteTask deleteContainer removeSnapshot : Written)
  (verify stat residualProcess cgroup infra : Bool)
  release : ReleaseFate

/-- `ensureContainerdSandboxAbsent`. Errors of the cleanup itself do not matter if verification
then finds nothing. -/
def ensureAbsent (f : DeleteFate) : Daemon × Bool :=
  if !f.load then (d, false)
  else
    let d1 := if d.container.isSome then
      (d.deleteTask f.deleteTask).deleteContainer f.deleteContainer else d
    let d2 := d1.removeSnapshot f.removeSnapshot
    (d2, f.verify && d2.container.isNone && f.stat && !d2.snapshot)

/-! ## Creation -/

/-- The fate of each step of `CreateSandbox`. `snapshotLeft` is what a failed `NewContainer` leaves
of the snapshot it prepares. -/
structure CreateFate where
  (image spec : Bool)
  newContainer : Written
  (snapshotLeft logDir logFile : Bool)
  (newTask start deleteTask deleteContainer : Written)

/-- `CreateSandbox`, and whether its error is nil. `NewContainer` fails if the Sandbox has a
container or a snapshot already. -/
def createSandbox (config : RuntimeSandboxConfig) (f : CreateFate) : Daemon × Bool :=
  if !f.image || !f.spec || d.container.isSome || d.snapshot then (d, false)
  else
    match f.newContainer with
    | .failed false => ({ d with snapshot := f.snapshotLeft }, false)
    | .failed true => ({ d with container := some config, snapshot := true }, false)
    | .ok =>
      let d := { d with container := some config, snapshot := true }
      -- neither of these two returns deletes the container
      if !f.logDir || !f.logFile then (d, false)
      else
        let d := { d with task := f.newTask.effective }
        if f.newTask ≠ .ok then (d.deleteContainer f.deleteContainer, false)
        else if f.start ≠ .ok then
          ((d.deleteTask f.deleteTask).deleteContainer f.deleteContainer, false)
        else (d, true)

end Daemon

open Daemon (DeleteFate CreateFate)

variable (n : Node) (config : RuntimeSandboxConfig) (f : EnsureFate)

/-- `DeleteSandbox`; `none` if the fate names a slot that `Lookup` or `Release` cannot meet. -/
def deleteSandbox (sandboxID : String) (f : DeleteFate) : Option Outcome :=
  (n.network.lookupBound sandboxID f.lookup).bind fun slot =>
    let (d, absent) := n.daemon.ensureAbsent f
    if !absent || !f.residualProcess || !f.cgroup then
      some { node := { n with daemon := d }, ok := false }
    else
      match slot with
      | none => some { node := { n with daemon := d }, ok := f.infra }
      | some slot =>
        if slot.owner.sandboxUID = "" then some { node := { n with daemon := d }, ok := f.infra }
        else
          (n.network.release slot.owner f.release).map fun (s, ok) =>
            { node := ⟨d, s⟩, ok := f.infra && ok, releases := [⟨slot.owner, d⟩] }

structure EnsureFate where
  (load info : Bool)
  replace : DeleteFate
  found : Option String
  save : Written
  create : CreateFate
  release : ReleaseFate

inductive Inspection
  | notFound
  | failed
  | found (existing : RuntimeSandboxConfig)

/-- `InspectSandbox`, as far as `EnsureSandbox` reads it. Any error of `LoadContainer` counts as
not found. -/
def inspectSandbox (d : Daemon) (f : EnsureFate) : Inspection :=
  if !f.load then .notFound
  else
    match d.container with
    | none => .notFound
    | some existing => if f.info then .found existing else .failed

/-- The part of `EnsureSandbox` after the inspection found nothing to keep. -/
def createInSlot : Option Outcome :=
  (n.network.acquire (networkOwner config) f.found f.save).bind fun (s, slot) =>
    match slot with
    | none => some { node := { n with network := s }, ok := false }
    | some _ =>
      let (d, created) := n.daemon.createSandbox config f.create
      if created then some { node := ⟨d, s⟩, ok := true }
      else
        (s.release (networkOwner config) f.release).map fun (s', _) =>
          { node := ⟨d, s'⟩, ok := false, releases := [⟨networkOwner config, d⟩] }

def ensureSandbox : Option Outcome :=
  match inspectSandbox n.daemon f with
  | .failed => some { node := n, ok := false }
  | .notFound => createInSlot n config f
  | .found existing =>
    if existing.identity = config.identity then
      some { node := n, ok := validateProfile existing config }
    else
      (deleteSandbox n config.identity.sandboxUID f.replace).bind fun stale =>
        if stale.ok then
          (createInSlot stale.node config f).map fun out =>
            { out with releases := stale.releases ++ out.releases }
        else some stale

/-! ## Releases beside a container -/

/-- A slot was released while containerd had a container of the Sandbox. -/
def Beside (releases : List Releasing) : Prop := ∃ r ∈ releases, r.daemon.container.isSome

/-- The failures of `CreateSandbox` after which a container is left. -/
def Leftover (d : Daemon) (f : CreateFate) : Prop :=
  d.container.isSome ∨
    (f.image ∧ f.spec ∧ d.snapshot = false ∧
      (f.newContainer = .failed true ∨
        (f.newContainer = .ok ∧
          (f.logDir = false ∨ f.logFile = false ∨
            ((f.newTask ≠ .ok ∨ f.start ≠ .ok) ∧ f.deleteContainer.effective = false)))))

def Acquires (network : State) : Prop :=
  ∃ s slot, network.acquire (networkOwner config) f.found f.save = some (s, some slot)

/-- The steps by which `DeleteSandbox` gets rid of a container all work. -/
def Removes (f : DeleteFate) : Prop :=
  f.load ∧ f.deleteContainer.effective ∧ f.verify ∧ f.stat ∧ f.residualProcess ∧ f.cgroup ∧ f.infra

/-- `DeleteSandbox` finds no slot, or releases the one it finds. -/
def Vacates (uid : String) (f : DeleteFate) (network network' : State) : Prop :=
  ∃ slot, network.lookupBound uid f.lookup = some slot ∧
    match slot.filter (·.owner.sandboxUID ≠ "") with
    | none => network' = network
    | some slot => network.release slot.owner f.release = some (network', true)

/-- The failures of `EnsureSandbox` that leave a container in a released slot: `CreateSandbox` runs
because the container was not found, or after a stale one was deleted, and leaves a container. -/
def LeavesContainer : Prop :=
  ((f.load = false ∨ n.daemon.container = none) ∧ Acquires config f n.network ∧
      Leftover n.daemon f.create) ∨
    ∃ existing network, f.load ∧ n.daemon.container = some existing ∧ f.info ∧
      existing.identity ≠ config.identity ∧ Removes f.replace ∧
      Vacates config.identity.sandboxUID f.replace n.network network ∧
      Acquires config f network ∧ Leftover {} f.create

section Releases

variable {n : Node} {d : Daemon} {config : RuntimeSandboxConfig} {out : Outcome}

theorem ensureAbsent_ok {f : DeleteFate} (h : (d.ensureAbsent f).2) :
    (d.ensureAbsent f).1.container = none ∧ (d.ensureAbsent f).1.snapshot = false := by
  unfold Daemon.ensureAbsent at h ⊢
  cases hl : f.load with
  | false =>
    rw [hl] at h
    cases h
  | true =>
    simp only [hl, Bool.not_true, Bool.false_eq_true, if_false, Bool.and_eq_true,
      isNone_iff_eq_none, Bool.not_eq_true'] at h ⊢
    exact ⟨h.1.1.2, h.2⟩

theorem ensureAbsent_iff {f : DeleteFate} (hc : d.container.isSome) :
    (d.ensureAbsent f).2 ↔ f.load ∧ f.deleteContainer.effective ∧ f.verify ∧ f.stat := by
  unfold Daemon.ensureAbsent Daemon.removeSnapshot Daemon.deleteContainer Daemon.deleteTask
  cases f.load with
  | false => simp
  | true =>
    obtain ⟨_, ho⟩ := isSome_iff_exists.mp hc
    cases f.deleteContainer.effective <;> simp [ho]

theorem not_beside_nil : ¬ Beside [] := by
  rintro ⟨r, hr, -⟩
  cases hr

theorem beside_singleton {r : Releasing} : Beside [r] ↔ r.daemon.container.isSome := by
  simp [Beside]

/-- `DeleteSandbox` fails before it releases anything, or the container and its snapshot are
gone. -/
theorem deleteSandbox_absent {sandboxID : String} {f : DeleteFate}
    (h : deleteSandbox n sandboxID f = some out) : (out.ok = false ∧ out.releases = []) ∨
      (out.node.daemon.container = none ∧ out.node.daemon.snapshot = false) ∧
        ∀ r ∈ out.releases, r.daemon = out.node.daemon := by
  obtain ⟨_, -, h⟩ := bind_eq_some_iff.mp h
  dsimp only at h
  split at h
  · cases h
    exact .inl ⟨rfl, rfl⟩
  rename_i ho
  have ha : (n.daemon.ensureAbsent f).2 := by
    by_contra hne
    simp [Bool.eq_false_iff.mpr hne] at ho
  refine .inr ?_
  split at h
  · cases h
    exact ⟨ensureAbsent_ok ha, by simp⟩
  split at h
  · cases h
    exact ⟨ensureAbsent_ok ha, by simp⟩
  obtain ⟨⟨s, _⟩, -, heq⟩ := map_eq_some_iff.mp h
  cases heq
  exact ⟨ensureAbsent_ok ha, by simp⟩

theorem deleteSandbox_releases {sandboxID : String} {f : DeleteFate}
    (h : deleteSandbox n sandboxID f = some out) : ¬ Beside out.releases := by
  rintro ⟨r, hr, hs⟩
  rcases deleteSandbox_absent h with ⟨-, hn⟩ | ⟨⟨hc, -⟩, ha⟩
  · rw [hn] at hr
    cases hr
  · rw [ha r hr, hc] at hs
    cases hs

theorem deleteSandbox_ok {uid : String} {f : DeleteFate} (hc : n.daemon.container.isSome)
    (h : deleteSandbox n uid f = some out) (s : State) :
    out.ok ∧ out.node.network = s ↔ Removes f ∧ Vacates uid f n.network s := by
  obtain ⟨slot, hl, h⟩ := bind_eq_some_iff.mp h
  have ha := ensureAbsent_iff (f := f) hc
  unfold Removes Vacates
  simp only [hl, some.injEq, exists_eq_left']
  dsimp only at h
  split at h
  · cases h
    grind
  split at h
  · cases h
    grind
  split at h
  · cases h
    grind
  obtain ⟨⟨s', ok⟩, hr, heq⟩ := map_eq_some_iff.mp h
  cases heq
  grind

theorem deleteContainer_leaves {w : Written} : (d.deleteContainer w).container.isSome ↔
      w.effective = false ∧ d.container.isSome := by
  unfold Daemon.deleteContainer
  cases w.effective <;> simp

theorem createSandbox_leaves (config : RuntimeSandboxConfig) {f : CreateFate} :
    (d.createSandbox config f).2 = false ∧
      (d.createSandbox config f).1.container.isSome ↔ Leftover d f := by
  unfold Daemon.createSandbox Leftover
  cases ho : d.container with
  | some => simp [ho]
  | none =>
    by_cases hr : f.image ∧ f.spec ∧ d.snapshot = false
    · obtain ⟨hi, hs, hn⟩ := hr
      simp only [hi, hs, hn]
      cases f.newContainer with
      | failed effective => cases effective <;> simp
      | ok =>
        cases f.logDir with
        | false => simp
        | true =>
          cases f.logFile with
          | false => simp
          | true =>
            by_cases ht : f.newTask = .ok
            · by_cases ha : f.start = .ok
              · simp [ht, ha]
              · simp [ht, ha, deleteContainer_leaves, Daemon.deleteTask]
            · simp [ht, deleteContainer_leaves]
    · have hso : (!f.image || !f.spec || (none : Option RuntimeSandboxConfig).isSome ||
          d.snapshot) := by
        cases hi : f.image <;> cases hs : f.spec <;> cases hn : d.snapshot <;>
          simp_all
      rw [if_pos hso]
      simp only [ho, isSome_none, Bool.false_eq_true, and_false, false_or, false_iff]
      exact fun h => hr ⟨h.1, h.2.1, h.2.2.1⟩

theorem createInSlot_releases {f : EnsureFate} (h : createInSlot n config f = some out) :
    Beside out.releases ↔ Acquires config f n.network ∧ Leftover n.daemon f.create := by
  obtain ⟨⟨s, slot⟩, ha, h⟩ := bind_eq_some_iff.mp h
  cases slot with
  | none =>
    cases h
    refine ⟨fun hb => absurd hb not_beside_nil, ?_⟩
    rintro ⟨⟨s', _, ha'⟩, -⟩
    rw [ha] at ha'
    cases ha'
  | some slot =>
    have hac : Acquires config f n.network := ⟨s, slot, ha⟩
    rw [← createSandbox_leaves config]
    dsimp only at h
    cases hc : (n.daemon.createSandbox config f.create).2 with
    | true =>
      rw [hc, if_pos rfl] at h
      cases h
      simp [not_beside_nil]
    | false =>
      rw [hc, if_neg Bool.false_ne_true] at h
      obtain ⟨⟨s', _⟩, -, heq⟩ := map_eq_some_iff.mp h
      cases heq
      rw [beside_singleton]
      simp [hac]

theorem beside_append {r1 r2 : List Releasing} : Beside (r1 ++ r2) ↔ Beside r1 ∨ Beside r2 := by
  simp only [Beside, List.mem_append, or_and_right, exists_or]

/-- After a stale container was deleted, only the creation can release a slot beside one. -/
theorem replace_releases {f : EnsureFate} (ho : n.daemon.container.isSome)
    (h : ((deleteSandbox n config.identity.sandboxUID f.replace).bind fun stale =>
      if stale.ok then (createInSlot stale.node config f).map fun out =>
        { out with releases := stale.releases ++ out.releases } else some stale) = some out) :
    Beside out.releases ↔ ∃ network, Removes f.replace ∧
      Vacates config.identity.sandboxUID f.replace n.network network ∧
      Acquires config f network ∧ Leftover {} f.create := by
  obtain ⟨stale, hdl, hr⟩ := bind_eq_some_iff.mp h
  have hl := deleteSandbox_releases hdl
  have hv := deleteSandbox_ok ho hdl
  cases hok : stale.ok with
  | false =>
    rw [hok] at hr hv
    cases hr
    refine iff_of_false hl ?_
    rintro ⟨network, hm, hw, -⟩
    exact absurd ((hv network).mpr ⟨hm, hw⟩).1 Bool.false_ne_true
  | true =>
    rw [hok] at hr hv
    obtain ⟨_, hc, heq⟩ := map_eq_some_iff.mp hr
    cases heq
    obtain ⟨⟨hn, hp⟩, -⟩ := (deleteSandbox_absent hdl).resolve_left (by simp [hok])
    have hd : Leftover stale.node.daemon f.create ↔ Leftover {} f.create := by
      simp [Leftover, hn, hp]
    obtain ⟨hm, hw⟩ := (hv _).mp ⟨rfl, rfl⟩
    rw [beside_append, createInSlot_releases hc, hd]
    constructor
    · rintro (hb | hb)
      · exact absurd hb hl
      · exact ⟨_, hm, hw, hb⟩
    · rintro ⟨network, hm, hw, hb⟩
      obtain ⟨-, rfl⟩ := (hv network).mpr ⟨hm, hw⟩
      exact .inr hb

theorem ensureSandbox_releases {f : EnsureFate} (h : ensureSandbox n config f = some out) :
    Beside out.releases ↔ LeavesContainer n config f := by
  unfold ensureSandbox inspectSandbox at h
  unfold LeavesContainer
  cases hd : f.load with
  | false =>
    rw [hd] at h
    simp [createInSlot_releases (n := n) h]
  | true =>
    cases ho : n.daemon.container with
    | none =>
      rw [hd, ho] at h
      simp [createInSlot_releases (n := n) h]
    | some existing =>
      cases hin : f.info with
      | false =>
        rw [hd, ho, hin] at h
        cases h
        simp [not_beside_nil]
      | true =>
        rw [hd, ho, hin] at h
        by_cases hs : existing.identity = config.identity
        · have hk : some ({ node := n, ok := validateProfile existing config } : Outcome) =
              some out := (if_pos hs).symm.trans h
          cases hk
          simp [not_beside_nil, hs]
        · rw [replace_releases (by rw [ho]; rfl) ((if_neg hs).symm.trans h)]
          simp [hs]

end Releases

/-- **When a slot is released beside a container**: `DeleteSandbox` never does, and `EnsureSandbox`
does so exactly when `CreateSandbox` fails in a way that leaves one. -/
theorem released_beside_container (n : Node) :
    (∀ {sandboxID : String} {f : DeleteFate} {out : Outcome},
      deleteSandbox n sandboxID f = some out → ¬ Beside out.releases) ∧
    ∀ {config : RuntimeSandboxConfig} {f : EnsureFate} {out : Outcome},
      ensureSandbox n config f = some out → (Beside out.releases ↔ LeavesContainer n config f) :=
  ⟨deleteSandbox_releases, ensureSandbox_releases⟩

/-! ## Two creations -/

/-- A node with one Clean slot and nothing in containerd. -/
def sampleNode : Node where
  daemon := {}
  network := { State.start Network.storedOne with slots := Network.storedOne, used := true }

def sampleSandbox : RuntimeSandboxConfig where
  identity := { sandboxUID := "u", instanceGeneration := 1, assignmentAttempt := 1 }

def workingRelease : ReleaseFate := ⟨some "a", .ok, true, .ok⟩

def workingDelete : DeleteFate where
  lookup := some "a"
  load := true
  deleteTask := .ok
  deleteContainer := .ok
  removeSnapshot := .ok
  verify := true
  stat := true
  residualProcess := true
  cgroup := true
  infra := true
  release := workingRelease

/-- Every step of `CreateSandbox` works, up to opening the log file. -/
def creating (logFile : Bool) : EnsureFate where
  load := true
  info := true
  replace := workingDelete
  found := none
  save := .ok
  create := {
    image := true, spec := true, newContainer := .ok, snapshotLeft := false, logDir := true,
    logFile, newTask := .ok, start := .failed false, deleteTask := .ok, deleteContainer := .ok }
  release := workingRelease

instance (releases : List Releasing) : Decidable (Beside releases) :=
  inferInstanceAs (Decidable (∃ r ∈ releases, _))

/-- A task that does not start: the container is deleted before the slot is released. -/
theorem failed_start_released_clear : ∃ out,
    ensureSandbox sampleNode sampleSandbox (creating true) = some out ∧
      out.releases.length = 1 ∧ ¬ Beside out.releases := by
  have hr : (ensureSandbox sampleNode sampleSandbox (creating true)).map
      (fun out => out.releases.length) = some 1 := by decide
  obtain ⟨out, ho, hl⟩ := map_eq_some_iff.mp hr
  refine ⟨out, ho, hl, fun hb => ?_⟩
  obtain ⟨-, -, he⟩ | ⟨_, -, -, hc, -⟩ := ((released_beside_container sampleNode).2 ho).mp hb
  · simp [Leftover, creating, sampleNode, Written.effective] at he
  · cases hc

/-- The log file cannot be opened: the slot is destroyed and the container stays. -/
theorem log_failure_releases_slot : ∃ out,
    ensureSandbox sampleNode sampleSandbox (creating false) = some out ∧ Beside out.releases ∧
      out.node.daemon.container = some sampleSandbox ∧
      out.node.network.slots.lookup "a" = none := by
  have hr : (ensureSandbox sampleNode sampleSandbox (creating false)).map
      (fun out => decide (Beside out.releases ∧ out.node.daemon.container = some sampleSandbox ∧
        out.node.network.slots.lookup "a" = none)) = some true := by decide
  obtain ⟨out, ho, ht⟩ := map_eq_some_iff.mp hr
  exact ⟨out, ho, of_decide_eq_true ht⟩

end FastSandbox.Runtime.Containerd
