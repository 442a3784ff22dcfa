import FastSandbox.Network.Slots
import FastSandbox.Runtime.Contract

/-!
# The Firecracker driver

`EnsureSandbox` restores a microVM in a network slot and keeps what it needs to undo this in a
state file; `DeleteSandbox` derives the slot to release from that file. Every step may fail. The
node kept here is that of one Sandbox: its state file and the network manager.

A failed `EnsureSandbox` ignores the error of its own `Release` and removes the state file, and the
cleanup of a stale VM looks only for a Bound slot. `deleted_sandbox_holds_no_slot` says that
nothing else lets a slot outlive a successful `DeleteSandbox`.
-/

namespace FastSandbox.Runtime.Firecracker

open Option
open Fastlet (SandboxIdentity RuntimeSandboxConfig)
open Network (Owner Slot State Written ReleaseFate GuestFate Keyed Owns Dwindles Aside)

inductive VMPhase
  | starting
  | running
  | stopped
  | failed
deriving DecidableEq

/-- `meta.json`, as far as the slot depends on it. -/
structure SandboxState where
  config : RuntimeSandboxConfig
  phase : VMPhase

structure Node where
  network : State
  state : Option SandboxState

/-- How a driver call ends: the node, and whether the error is nil. -/
structure Outcome where
  node : Node
  ok : Bool

namespace Node

variable (n : Node)

/-- `saveState` replaces the file by renaming a new one. -/
def saveState (state : SandboxState) (w : Written) : Node :=
  { n with state := if w.effective then some state else n.state }

def removeSandboxDir (w : Written) : Node :=
  { n with state := if w.effective then none else n.state }

end Node

def isSafeIDCharacter (c : Char) : Bool :=
  ('a' ≤ c ∧ c ≤ 'z') ∨ ('A' ≤ c ∧ c ≤ 'Z') ∨ ('0' ≤ c ∧ c ≤ '9') ∨ c = '-' ∨ c = '_' ∨ c = '.'

def validateSandboxID (id : String) : Bool :=
  id ≠ "" ∧ id ≠ "." ∧ id ≠ ".." ∧ id.toList.all isSafeIDCharacter

/-- The check at the start of `EnsureSandbox`. -/
def complete (identity : SandboxIdentity) : Bool :=
  identity.sandboxUID ≠ "" ∧ identity.fastletPodUID ≠ "" ∧ 0 < identity.instanceGeneration ∧
    identity.runtimeInstanceID ≠ "" ∧ 0 < identity.assignmentAttempt

/-- Work of the network manager for other Sandboxes and for the pool. -/
structure Maintenance (cfg : Network.Config) (uid : String) where
  run : State → State
  aside : ∀ s, Aside cfg uid s (run s)

/-! ## Creation -/

/-- The fate of each step of `EnsureSandbox` once it has a slot. -/
structure BootFate where
  guestIP : Option String
  applyGuest : GuestFate
  (prepareInstance infra : Bool)
  saveStarting : Written
  (cgroup launch : Bool)
  savePID : Written
  (socket kvm configure resume : Bool)
  saveRunning : Written
  release : ReleaseFate
  removeDir : Written

/-- `releaseSlot`, which ignores the result, and the return of an error. -/
def rollback (n : Node) (owner : Owner) (f : ReleaseFate) : Option Outcome :=
  (n.network.release owner f).map fun (s, _) => { node := { n with network := s }, ok := false }

/-- The same once a failure also removes the state directory. -/
def abandon (n : Node) (owner : Owner) (f : BootFate) : Option Outcome :=
  (rollback n owner f.release).map fun out =>
    { out with node := out.node.removeSandboxDir f.removeDir }

/-- `EnsureSandbox` from the staged instance on. -/
def launchVM (n : Node) (config : RuntimeSandboxConfig) (f : BootFate) : Option Outcome :=
  let owner := networkOwner config
  if !f.infra then abandon n owner f
  else
    let n := n.saveState ⟨config, .starting⟩ f.saveStarting
    if f.saveStarting ≠ .ok || !f.cgroup || !f.launch then abandon n owner f
    else
      -- the PID is saved
      let n := n.saveState ⟨config, .starting⟩ f.savePID
      if f.savePID ≠ .ok || !f.socket || !f.kvm || !f.configure || !f.resume then
        abandon n owner f
      else
        let n := n.saveState ⟨config, .running⟩ f.saveRunning
        if f.saveRunning ≠ .ok then abandon n owner f else some { node := n, ok := true }

/-- `EnsureSandbox` from the acquired slot on. -/
def boot (cfg : Network.Config) (n : Node) (config : RuntimeSandboxConfig) (f : BootFate) :
    Option Outcome :=
  let owner := networkOwner config
  match f.guestIP with
  | none => rollback n owner f.release
  | some guestIP =>
    (n.network.applyGuest cfg owner guestIP f.applyGuest).bind fun (s, applied) =>
      let n := { n with network := s }
      if !applied || !f.prepareInstance then rollback n owner f.release else launchVM n config f

structure StaleFate (cfg : Network.Config) (uid : String) where
  lookup : Option String
  release : ReleaseFate
  replenish : Maintenance cfg uid
  (replenished cgroup releaseOCI : Bool)
  removeDir : Written

/-- `cleanupStale`. `Lookup` finds Bound slots only. -/
def cleanupStale {cfg : Network.Config} {uid : String} (n : Node) (existing : SandboxState)
    (f : StaleFate cfg uid) : Option Outcome :=
  let remove (n : Node) : Outcome :=
    if !f.cgroup || !f.releaseOCI then { node := n, ok := false }
    else { node := n.removeSandboxDir f.removeDir, ok := f.removeDir = .ok }
  (n.network.lookupBound existing.config.identity.sandboxUID f.lookup).bind fun slot =>
    match slot with
    | none => some (remove n)
    | some _ =>
      (n.network.release (networkOwner existing.config) f.release).map fun (s, released) =>
        if !released then { node := { n with network := s }, ok := false }
        else
          let n := { n with network := f.replenish.run s }
          if !f.replenished then { node := n, ok := false } else remove n

/-- The fate of each step of `EnsureSandbox`. `load` says whether the state file can be read; that
there is none is an answer. -/
structure EnsureFate (cfg : Network.Config) (uid : String) where
  (reference image directory load alive recoverCgroup : Bool)
  stale : StaleFate cfg uid
  (redirectory prepareOCI : Bool)
  found : Option String
  save : Written
  boot : BootFate

/-- `EnsureSandbox` from the point where no VM is to be kept. -/
def create {cfg : Network.Config} {uid : String} (n : Node) (config : RuntimeSandboxConfig)
    (f : EnsureFate cfg uid) : Option Outcome :=
  if !f.prepareOCI then some { node := n, ok := false }
  else
    (n.network.acquire (networkOwner config) f.found f.save).bind fun (s, slot) =>
      let n := { n with network := s }
      match slot with
      | none => some { node := n, ok := false }
      | some _ => boot cfg n config f.boot

def ensureSandbox {cfg : Network.Config} {uid : String} (n : Node) (config : RuntimeSandboxConfig)
    (f : EnsureFate cfg uid) : Option Outcome :=
  if !complete config.identity || !f.reference || !f.image ||
      !validateSandboxID config.identity.sandboxUID || !f.directory then
    some { node := n, ok := false }
  else
    match if f.load then n.state else none with
    | none => create n config f
    | some existing =>
      if f.alive && existing.config.identity = config.identity then
        some { node := n, ok := validateProfile existing.config config && f.recoverCgroup }
      else
        (cleanupStale n existing f.stale).bind fun stale =>
          if !stale.ok || !f.redirectory then some { stale with ok := false }
          else create stale.node config f

/-! ## Deletion -/

structure DeleteFate where
  (load confirmAbsent : Bool)
  release : ReleaseFate
  (reference cgroup releaseOCI : Bool)
  (saveRetained removeDir : Written)

/-- `deleteSandbox`. With an expected identity it is `CleanupTerminalFailure`, which keeps the
state file. -/
def deleteSandbox (n : Node) (sandboxID : String) (expected : Option SandboxIdentity)
    (f : DeleteFate) : Option Outcome :=
  if !validateSandboxID sandboxID || !f.load then some { node := n, ok := false }
  else
    match n.state with
    | none => some { node := n, ok := expected.isNone && f.releaseOCI && f.cgroup }
    | some state =>
      if (expected.isSome && state.phase ≠ .failed) ||
          expected.any (· ≠ state.config.identity) ||
          (state.phase = .failed && !f.confirmAbsent) then
        some { node := n, ok := false }
      else
        (n.network.release (networkOwner state.config) f.release).map fun (s, released) =>
          let n := { n with network := s }
          if !released || !f.reference || !f.cgroup || !f.releaseOCI then { node := n, ok := false }
          else if expected.isSome then
            { node := n.saveState state f.saveRetained, ok := f.saveRetained = .ok }
          else { node := n.removeSandboxDir f.removeDir, ok := true }

def recordTerminalFailure (n : Node) (identity : SandboxIdentity) (load : Bool) (w : Written) :
    Outcome :=
  match if load then n.state else none with
  | none => { node := n, ok := false }
  | some state =>
    if state.config.identity ≠ identity || state.phase = .starting then { node := n, ok := false }
    else { node := n.saveState { state with phase := .failed } w, ok := w = .ok }

/-! ## Runs of one Sandbox -/

/-- A driver call for the Sandbox, or what goes on in the network manager between two of them. -/
inductive Call (cfg : Network.Config) (uid : String)
  | ensure (config : RuntimeSandboxConfig) (huid : config.identity.sandboxUID = uid)
      (f : EnsureFate cfg uid)
  | delete (f : DeleteFate)
  | recordTerminalFailure (identity : SandboxIdentity) (load : Bool) (w : Written)
  | cleanupTerminalFailure (identity : SandboxIdentity) (f : DeleteFate)
  | others (m : Maintenance cfg uid)

def Call.run {cfg : Network.Config} {uid : String} (n : Node) : Call cfg uid → Option Outcome
  | ensure config _ f => ensureSandbox n config f
  | delete f => deleteSandbox n uid none f
  | recordTerminalFailure identity load w =>
    some (Firecracker.recordTerminalFailure n identity load w)
  | cleanupTerminalFailure identity f => deleteSandbox n uid (some identity) f
  | others m => some { node := { n with network := m.run n.network }, ok := true }

variable (uid : String) (s : State)

/-- No slot of the Sandbox is Destroying. -/
def Settled : Prop := ∀ id slot, Owns s uid id slot → slot.phase = .bound

/-- A `Release` saves, destroys and deletes the slot it finds. -/
def Works (f : ReleaseFate) : Prop := f.save = .ok ∧ f.destroy ∧ f.delete = .ok

/-- `EnsureSandbox` is not called while a slot of the Sandbox is Destroying, and the `Release` in
its rollback works. -/
def Orderly {cfg : Network.Config} {uid : String} (n : Node) : Call cfg uid → Prop
  | .ensure _ _ f => Settled uid n.network ∧ Works f.boot.release
  | _ => True

inductive Reaches (cfg : Network.Config) (uid : String) (n₀ : Node) : Node → Prop
  | refl : Reaches cfg uid n₀ n₀
  | call {n : Node} {c : Call cfg uid} {out : Outcome} (h : Reaches cfg uid n₀ n)
      (hrun : c.run n = some out) (horderly : Orderly n c) : Reaches cfg uid n₀ out.node

/-- A node that has not seen the Sandbox. -/
structure Fresh (uid : String) (n : Node) : Prop where
  state : n.state = none
  keyed : Keyed n.network
  unowned : ∀ id slot, ¬ Owns n.network uid id slot

/-! ## The state file names the slot -/

/-- The Sandbox has no slot. -/
def Free : Prop := ∀ id slot, ¬ Owns s uid id slot

def Single : Prop := ∀ id slot id' slot', Owns s uid id slot → Owns s uid id' slot' → id = id'

def OwnedBy (owner : Owner) (s : State) : Prop := ∀ id slot, Owns s uid id slot → slot.owner = owner

/-- The state file is of the Sandbox. -/
def Named (n : Node) : Prop :=
  ∀ state, n.state = some state → state.config.identity.sandboxUID = uid

/-- What holds between the driver's calls: the Sandbox has at most one slot, and then the state
file names its owner. -/
structure Recorded (uid : String) (n : Node) : Prop where
  keyed : Keyed n.network
  single : Single uid n.network
  filed : ∀ id slot, Owns n.network uid id slot →
    ∃ state, n.state = some state ∧ networkOwner state.config = slot.owner
  named : Named uid n

section

variable {cfg : Network.Config} {uid : String} {s s' : State} {owner : Owner}

theorem Free.single (h : Free uid s) : Single uid s := fun id slot _ _ ho _ => absurd ho (h id slot)

theorem Free.settled (h : Free uid s) : Settled uid s := fun id slot ho => absurd ho (h id slot)

theorem Free.dwindles (h : Free uid s) (hd : Dwindles uid s s') : Free uid s' := by
  intro id slot hw
  obtain ⟨slot', ho', -⟩ := hd id slot hw
  exact h id slot' ho'

theorem Single.dwindles (h : Single uid s) (hd : Dwindles uid s s') : Single uid s' := by
  intro id slot id' slot' hw ho'
  obtain ⟨_, hw, -⟩ := hd id slot hw
  obtain ⟨_, ho', -⟩ := hd id' slot' ho'
  exact h _ _ _ _ hw ho'

theorem OwnedBy.dwindles (h : OwnedBy uid owner s) (hd : Dwindles uid s s') :
    OwnedBy uid owner s' := by
  intro id slot' ho
  obtain ⟨slot, ho, heq⟩ := hd id slot' ho
  exact heq.symm.trans (h id slot ho)

section

variable (huid : owner.sandboxUID = uid) (hky : Keyed s) (hsin : Single uid s)
include huid hky hsin

theorem release_frees {f : ReleaseFate}
    (h : s.release owner f = some (s', true)) : Free uid s' := by
  subst huid
  obtain ⟨-, hd, hg⟩ := Network.release_spec hky h
  rcases hg rfl with hf | ⟨id, slot, hw, -, hn⟩
  · exact Free.dwindles hf hd
  intro id' slot' ho'
  obtain ⟨_, ho'', -⟩ := hd id' slot' ho'
  have hi := hsin _ _ _ _ hw ho''
  subst hi
  have hl := ho'.1
  rw [hn] at hl
  cases hl

theorem acquire_single {found : Option String} {w : Written} {slot : Slot} (he : Settled uid s)
    (h : s.acquire owner found w = some (s', some slot)) :
    Single uid s' ∧ OwnedBy uid owner s' := by
  subst huid
  obtain ⟨_, -, hsl, hl⟩ := Network.acquire_spec hky h
  obtain ⟨hk, hw, hp⟩ := hl slot rfl
  have ho : Owns s' owner.sandboxUID slot.id slot :=
    ⟨hk, decide_eq_true ⟨congrArg (·.sandboxUID) hw, .inl hp⟩⟩
  have hs' : Single owner.sandboxUID s' := by
    rcases hsl with hm | ⟨clean, hc, -, hu, hn⟩
    · exact hsin.dwindles (.of_slots hm)
    -- no slot was Bound to the Sandbox, so it had none
    have hf : Free owner.sandboxUID s := by
      intro id other hot
      have hb : State.boundTo owner.sandboxUID other :=
        decide_eq_true ⟨he id other hot, Network.heldBy_uid hot.2⟩
      rw [hu id other hot.1] at hb
      cases hb
    have hon : ∀ id other, Owns s' owner.sandboxUID id other → id = clean.id := by
      rintro id other ⟨hot, hh⟩
      rw [hn] at hot
      obtain ⟨rfl, -⟩ | ⟨-, hold⟩ := Network.lookup_insert_cases hot
      · rfl
      · exact absurd ⟨hold, hh⟩ (hf id other)
    intro id other id' other' h1 h2
    exact (hon id other h1).trans (hon id' other' h2).symm
  refine ⟨hs', fun id other hot => ?_⟩
  have hi := hs' _ _ _ _ hot ho
  subst hi
  have heq := hot.1.symm.trans hk
  cases heq
  exact hw

end

theorem markAndDestroy_works {id : String} {f : ReleaseFate} (hf : Works f) :
    (s.markAndDestroy id f).2 := by
  obtain ⟨hs, hd, he⟩ := hf
  have hm : (s.mark id f.save).2 ≠ .failed := by
    rw [hs]
    unfold State.mark
    split
    · simp
    · split_ifs <;> simp_all
  unfold State.markAndDestroy
  split
  · rfl
  · rename_i hr
    rw [hr] at hm
    exact absurd rfl hm
  · unfold State.destroySlot
    split
    · rfl
    · simp [hd, he]

theorem release_works {f : ReleaseFate} {released : Bool} (hf : Works f)
    (ho : OwnedBy owner.sandboxUID owner s) (h : s.release owner f = some (s', released)) :
    released := by
  unfold State.release at h
  split at h
  · rename_i hi
    split at h
    · cases h
      rfl
    rename_i slot ht
    obtain ⟨id, hl, hh⟩ := State.finds_some hi ht
    rw [if_pos (ho id slot ⟨hl, hh⟩)] at h
    have hk : (s.markAndDestroy slot.id f).2 := markAndDestroy_works hf
    rwa [some.inj h] at hk
  · cases h

theorem Recorded.of_free {n : Node} (hky : Keyed n.network) (hf : Free uid n.network)
    (hn : Named uid n) : Recorded uid n where
  keyed := hky
  single := hf.single
  filed := fun id slot ho => absurd ho (hf id slot)
  named := hn

theorem Recorded.dwindles {n : Node} (h : Recorded uid n) (hky : Keyed s')
    (hd : Dwindles uid n.network s') : Recorded uid { n with network := s' } where
  keyed := hky
  single := h.single.dwindles hd
  filed := by
    intro id slot' ho
    obtain ⟨slot, ho, heq⟩ := hd id slot' ho
    obtain ⟨state, hs, hw⟩ := h.filed id slot ho
    exact ⟨state, hs, hw.trans heq⟩
  named := h.named

theorem networkOwner_uid (config : RuntimeSandboxConfig) :
    (networkOwner config).sandboxUID = config.identity.sandboxUID := rfl

end

section Steps

variable {cfg : Network.Config} {uid : String} {n : Node} {config : RuntimeSandboxConfig}
  {out : Outcome}

theorem Named.saveState (h : Named uid n) {state : SandboxState}
    (hs : state.config.identity.sandboxUID = uid) (w : Written) :
    Named uid (n.saveState state w) := by
  intro state' hs'
  simp only [Node.saveState] at hs'
  split at hs'
  · cases hs'
    exact hs
  · exact h state' hs'

theorem Named.removeSandboxDir (h : Named uid n) (w : Written) :
    Named uid (n.removeSandboxDir w) := by
  intro state hs
  simp only [Node.removeSandboxDir] at hs
  split at hs
  · cases hs
  · exact h state hs

/-- The node between `Acquire` and the last step of `EnsureSandbox`. -/
structure Booting (uid : String) (owner : Owner) (n : Node) : Prop where
  keyed : Keyed n.network
  single : Single uid n.network
  owned : OwnedBy uid owner n.network
  named : Named uid n

variable {owner : Owner}

theorem Booting.saveState (h : Booting uid owner n) (huid : config.identity.sandboxUID = uid)
    (phase : VMPhase) (w : Written) : Booting uid owner (n.saveState ⟨config, phase⟩ w) :=
  ⟨h.keyed, h.single, h.owned, Named.saveState h.named huid w⟩

section

variable {f : BootFate} (hwk : Works f.release)
include hwk

/-- A rollback whose `Release` works leaves the Sandbox without a slot. -/
theorem rollback_free (huid : owner.sandboxUID = uid) (h : Booting uid owner n)
    (hr : rollback n owner f.release = some out) :
    Keyed out.node.network ∧ Free uid out.node.network ∧ Named uid out.node := by
  obtain ⟨⟨s, released⟩, hl, heq⟩ := map_eq_some_iff.mp hr
  cases heq
  subst huid
  obtain rfl : released = true := release_works hwk h.owned hl
  exact ⟨(Network.release_spec h.keyed hl).1, release_frees rfl h.keyed h.single hl, h.named⟩

theorem rollback_recorded (huid : owner.sandboxUID = uid) (h : Booting uid owner n)
    (hr : rollback n owner f.release = some out) : Recorded uid out.node := by
  obtain ⟨hk, hf, hn⟩ := rollback_free hwk huid h hr
  exact .of_free hk hf hn

theorem abandon_recorded (huid : owner.sandboxUID = uid) (h : Booting uid owner n)
    (hr : abandon n owner f = some out) : Recorded uid out.node := by
  obtain ⟨_, ho, heq⟩ := map_eq_some_iff.mp hr
  cases heq
  obtain ⟨hk, hf, hn⟩ := rollback_free hwk huid h ho
  exact .of_free hk hf (hn.removeSandboxDir f.removeDir)

variable (huid : config.identity.sandboxUID = uid)
include huid

theorem launchVM_recorded (h : Booting uid (networkOwner config) n)
    (hr : launchVM n config f = some out) : Recorded uid out.node := by
  unfold launchVM at hr
  split at hr
  · exact abandon_recorded hwk huid h hr
  have h1 := h.saveState huid .starting f.saveStarting
  split at hr
  · exact abandon_recorded hwk huid h1 hr
  have h2 := h1.saveState huid .starting f.savePID
  split at hr
  · exact abandon_recorded hwk huid h2 hr
  have h3 := h2.saveState huid .running f.saveRunning
  split at hr
  · exact abandon_recorded hwk huid h3 hr
  rename_i ha
  cases hr
  have hs : f.saveRunning = .ok := by simpa using ha
  refine ⟨h3.keyed, h3.single, fun id slot ho => ?_, h3.named⟩
  refine ⟨⟨config, .running⟩, ?_, (h3.owned id slot ho).symm⟩
  simp [Node.saveState, hs, Written.effective]

theorem boot_recorded (h : Booting uid (networkOwner config) n)
    (hr : boot cfg n config f = some out) : Recorded uid out.node := by
  unfold boot at hr
  split at hr
  · exact rollback_recorded hwk huid h hr
  obtain ⟨⟨s, _⟩, hg, hr⟩ := bind_eq_some_iff.mp hr
  obtain ⟨hky, hd⟩ : Keyed s ∧ Dwindles uid n.network s := Network.applyGuest_spec h.keyed hg
  have h1 : Booting uid (networkOwner config) { n with network := s } :=
    ⟨hky, h.single.dwindles hd, h.owned.dwindles hd, h.named⟩
  dsimp only at hr
  split at hr
  · exact rollback_recorded hwk huid h1 hr
  · exact launchVM_recorded hwk huid h1 hr

omit hwk in
theorem create_recorded {f : EnsureFate cfg uid} (hwk : Works f.boot.release) (h : Recorded uid n)
    (he : Settled uid n.network) (hr : create n config f = some out) : Recorded uid out.node := by
  unfold create at hr
  split at hr
  · cases hr
    exact h
  obtain ⟨⟨s, slot⟩, ha, hr⟩ := bind_eq_some_iff.mp hr
  obtain ⟨hky, hf, -, -⟩ := Network.acquire_spec h.keyed ha
  cases slot with
  | none =>
    cases hr
    exact h.dwindles hky (.of_slots (hf rfl))
  | some =>
    obtain ⟨hsin, ho⟩ := acquire_single huid h.keyed h.single he ha
    have hb : Booting uid (networkOwner config) { n with network := s } := ⟨hky, hsin, ho, h.named⟩
    exact boot_recorded hwk huid hb hr

end

theorem cleanupStale_recorded {existing : SandboxState} {f : StaleFate cfg uid} (huid : uid ≠ "")
    (h : Recorded uid n) (hs : Settled uid n.network) (ht : n.state = some existing)
    (hr : cleanupStale n existing f = some out) :
    Recorded uid out.node ∧ (out.ok → Free uid out.node.network) := by
  have hx := h.named existing ht
  obtain ⟨slot, hl, hr⟩ := bind_eq_some_iff.mp hr
  rw [hx] at hl
  -- the end of the function, on a node whose Sandbox is free
  have he : ∀ (m : Node), Keyed m.network → Named uid m → Free uid m.network →
      ∀ (out : Outcome), (if !f.cgroup || !f.releaseOCI then { node := m, ok := false }
        else { node := m.removeSandboxDir f.removeDir, ok := f.removeDir = .ok }) = out →
      Recorded uid out.node ∧ (out.ok → Free uid out.node.network) := by
    intro m hky hn hf out ho
    split at ho <;> cases ho
    · exact ⟨.of_free hky hf hn, fun _ => hf⟩
    · exact ⟨.of_free hky hf (hn.removeSandboxDir f.removeDir), fun _ => hf⟩
  cases slot with
  | none =>
    have hf : Free uid n.network := by
      intro id other hot
      unfold State.lookupBound at hl
      split at hl
      · rename_i hi
        have hu := State.finds_none hi (some.inj hl) hot.1
        have hb : State.boundTo uid other :=
          decide_eq_true ⟨hs id other hot, Network.heldBy_uid hot.2⟩
        rw [hu] at hb
        cases hb
      · cases hl
    exact he n h.keyed h.named hf out (some.inj hr)
  | some =>
    obtain ⟨⟨s, released⟩, hrl, ho⟩ := map_eq_some_iff.mp hr
    obtain ⟨hky, hd, -⟩ := Network.release_spec h.keyed hrl
    rw [networkOwner_uid, hx] at hd
    cases released with
    | false =>
      cases ho
      exact ⟨h.dwindles hky hd, nofun⟩
    | true =>
      have hf := release_frees hx h.keyed h.single hrl
      obtain ⟨hk', hd'⟩ := (f.replenish.aside s).dwindles huid hky
      have hf' := hf.dwindles hd'
      simp only [Bool.not_true, Bool.false_eq_true, if_false] at ho
      split at ho
      · cases ho
        exact ⟨.of_free hk' hf' h.named, nofun⟩
      · exact he { n with network := f.replenish.run s } hk' h.named hf' out ho

theorem ensureSandbox_recorded {f : EnsureFate cfg uid} (huid : config.identity.sandboxUID = uid)
    (h : Recorded uid n) (he : Settled uid n.network) (hwk : Works f.boot.release)
    (hr : ensureSandbox n config f = some out) : Recorded uid out.node := by
  unfold ensureSandbox at hr
  split at hr
  · cases hr
    exact h
  rename_i hv
  have hne : uid ≠ "" := by
    intro hm
    simp [validateSandboxID, huid, hm] at hv
  split at hr
  · exact create_recorded huid hwk h he hr
  rename_i existing hx
  split at hr
  · cases hr
    exact h
  obtain ⟨stale, ha, hr⟩ := bind_eq_some_iff.mp hr
  have hs : n.state = some existing := by
    split at hx
    · exact hx
    · cases hx
  obtain ⟨hd, hfe⟩ := cleanupStale_recorded hne h he hs ha
  split at hr
  · cases hr
    exact hd
  rename_i ho
  have ho : stale.ok := by
    by_contra hf
    simp [Bool.eq_false_iff.mpr hf] at ho
  exact create_recorded huid hwk hd (hfe ho).settled hr

theorem deleteSandbox_recorded {expected : Option SandboxIdentity} {f : DeleteFate}
    (h : Recorded uid n) (hr : deleteSandbox n uid expected f = some out) :
    Recorded uid out.node ∧ (out.ok → Free uid out.node.network) := by
  unfold deleteSandbox at hr
  split at hr
  · cases hr
    exact ⟨h, nofun⟩
  split at hr
  · rename_i hs
    cases hr
    refine ⟨h, fun _ id slot hw => ?_⟩
    obtain ⟨state, hf, -⟩ := h.filed id slot hw
    rw [hs] at hf
    cases hf
  · rename_i state hs
    have huid := h.named state hs
    split at hr
    · cases hr
      exact ⟨h, nofun⟩
    obtain ⟨⟨s, released⟩, hl, ho⟩ := map_eq_some_iff.mp hr
    obtain ⟨hky, hd, -⟩ := Network.release_spec h.keyed hl
    rw [networkOwner_uid, huid] at hd
    cases released with
    | false =>
      cases ho
      exact ⟨h.dwindles hky hd, nofun⟩
    | true =>
      have he := release_frees huid h.keyed h.single hl
      have hn : Named uid { n with network := s } := h.named
      dsimp only at ho
      split at ho
      · cases ho
        exact ⟨.of_free hky he hn, nofun⟩
      · split at ho <;> cases ho
        · exact ⟨.of_free hky he (hn.saveState huid _), fun _ => he⟩
        · exact ⟨.of_free hky he (hn.removeSandboxDir _), fun _ => he⟩

theorem recordTerminalFailure_recorded {identity : SandboxIdentity} {load : Bool} {w : Written}
    (h : Recorded uid n) : Recorded uid (recordTerminalFailure n identity load w).node := by
  unfold recordTerminalFailure
  split
  · exact h
  rename_i state hs
  have hs : n.state = some state := by
    split at hs
    · exact hs
    · cases hs
  split
  · exact h
  have huid : ({ state with phase := .failed } : SandboxState).config.identity.sandboxUID = uid :=
    h.named state hs
  have hn := Named.saveState h.named huid w
  refine ⟨h.keyed, h.single, fun id slot ho => ?_, hn⟩
  obtain ⟨_, hs', how⟩ := h.filed id slot ho
  rw [hs] at hs'
  cases hs'
  cases hw : w.effective with
  | true => exact ⟨{ state with phase := .failed }, by simp [Node.saveState, hw], how⟩
  | false => exact ⟨state, by simp [Node.saveState, hw, hs], how⟩

theorem Call.recorded {c : Call cfg uid} (huid : uid ≠ "") (h : Recorded uid n)
    (hr : c.run n = some out) (ho : Orderly n c) : Recorded uid out.node := by
  cases c with
  | ensure config hc => exact ensureSandbox_recorded hc h ho.1 ho.2 hr
  | delete | cleanupTerminalFailure => exact (deleteSandbox_recorded h hr).1
  | recordTerminalFailure =>
    cases hr
    exact recordTerminalFailure_recorded h
  | others m =>
    cases hr
    obtain ⟨hky, hd⟩ := (m.aside n.network).dwindles huid h.keyed
    exact h.dwindles hky hd

theorem Reaches.recorded {n₀ : Node} (huid : uid ≠ "") (hf : Fresh uid n₀)
    (h : Reaches cfg uid n₀ n) : Recorded uid n := by
  induction h with
  | refl =>
    refine .of_free hf.keyed hf.unowned fun state hs => ?_
    rw [hf.state] at hs
    cases hs
  | call h hr ho ih => exact Call.recorded huid ih hr ho

/-- **A deleted Sandbox holds no slot**: in every run from a node that has not seen the Sandbox, if
no `EnsureSandbox` starts while a slot of it is Destroying and every rollback releases its slot,
then no slot is left, Bound or Destroying, when `DeleteSandbox` returns nil. -/
theorem deleted_sandbox_holds_no_slot {n₀ : Node} {f : DeleteFate} (hfresh : Fresh uid n₀)
    (h : Reaches cfg uid n₀ n) (hrun : deleteSandbox n uid none f = some out)
    (hok : out.ok = true) (id : String) (slot : Slot) : ¬ Owns out.node.network uid id slot := by
  have huid : uid ≠ "" := by
    intro he
    simp only [deleteSandbox, validateSandboxID, he] at hrun
    cases hrun
    cases hok
  exact (deleteSandbox_recorded (h.recorded huid hfresh) hrun).2 hok id slot

end Steps

/-! ## Two runs -/

/-- A node with one Clean slot and no state file. -/
def sampleNode : Node where
  network := { State.start Network.storedOne with slots := Network.storedOne, used := true }
  state := none

def sampleSandbox : RuntimeSandboxConfig where
  identity := {
    sandboxUID := "u", instanceGeneration := 1, runtimeInstanceID := "r", assignmentAttempt := 1,
    fastletPodUID := "pod" }

/-- `Release` finds slot `a`; its namespace is destroyed or not. -/
def releasing (destroy : Bool) : ReleaseFate := ⟨some "a", .ok, destroy, .ok⟩

def idle : Maintenance Network.samplePod "u" := ⟨id, fun _ => .refl⟩

/-- Everything works up to the launch, and so does the rest if `launch` does. -/
def ensuring (launch destroy : Bool) : EnsureFate Network.samplePod "u" where
  reference := true
  image := true
  directory := true
  load := true
  alive := false
  recoverCgroup := true
  stale := ⟨none, releasing true, idle, true, true, true, .ok⟩
  redirectory := true
  prepareOCI := true
  found := none
  save := .ok
  boot := {
    guestIP := some "10.0.0.2", applyGuest := ⟨some "a", true, .ok⟩, prepareInstance := true,
    infra := true, saveStarting := .ok, cgroup := true, launch, savePID := .ok, socket := true,
    kvm := true, configure := true, resume := true, saveRunning := .ok,
    release := releasing destroy, removeDir := .ok }

def deleting (found : Option String) : DeleteFate where
  load := true
  confirmAbsent := true
  release := ⟨found, .ok, true, .ok⟩
  reference := true
  cgroup := true
  releaseOCI := true
  saveRetained := .ok
  removeDir := .ok

theorem sampleNode_fresh : Fresh "u" sampleNode where
  state := rfl
  keyed := by
    intro id slot hl
    obtain ⟨rfl, rfl⟩ | ⟨-, hold⟩ := Network.lookup_insert_cases hl
    · rfl
    · cases hold
  unowned := by
    rintro id slot ⟨hl, hh⟩
    obtain ⟨rfl, rfl⟩ | ⟨-, hold⟩ := Network.lookup_insert_cases hl
    · cases hh
    · cases hold

theorem created_and_deleted : ∃ n out, Reaches Network.samplePod "u" sampleNode n ∧
    (n.network.slots.lookup "a").map (·.phase) = some .bound ∧
    deleteSandbox n "u" none (deleting (some "a")) = some out ∧ out.ok = true ∧
    ∀ id slot, ¬ Owns out.node.network "u" id slot := by
  have hu : (ensureSandbox sampleNode sampleSandbox (ensuring true true)).map (fun created =>
      ((created.node.network.slots.lookup "a").map (·.phase),
        (deleteSandbox created.node "u" none (deleting (some "a"))).map (·.ok))) =
      some (some .bound, some true) := by decide
  obtain ⟨created, hc, ht⟩ := map_eq_some_iff.mp hu
  have hp : (created.node.network.slots.lookup "a").map (·.phase) = some .bound :=
    congrArg (·.1) ht
  have he : (deleteSandbox created.node "u" none (deleting (some "a"))).map (·.ok) =
      some true := congrArg (·.2) ht
  obtain ⟨out, hd, hk⟩ := map_eq_some_iff.mp he
  have hr : Reaches Network.samplePod "u" sampleNode created.node := by
    refine Reaches.call (c := .ensure sampleSandbox rfl (ensuring true true)) .refl hc
      ⟨fun id slot ho => absurd ho (sampleNode_fresh.unowned id slot), ?_⟩
    exact ⟨rfl, rfl, rfl⟩
  exact ⟨created.node, out, hr, hp, hd, hk, deleted_sandbox_holds_no_slot sampleNode_fresh hr hd hk⟩

/-- The VM is not launched and the slot's namespace is not destroyed in the rollback, which removes
the state file all the same: `DeleteSandbox` finds no file and returns nil. -/
theorem failed_rollback_leaks_slot : Fresh "u" sampleNode ∧ ∃ created out slot,
    ensureSandbox sampleNode sampleSandbox (ensuring false false) = some created ∧
    deleteSandbox created.node "u" none (deleting (some "a")) = some out ∧ out.ok = true ∧
    Owns out.node.network "u" "a" slot ∧ slot.phase = .destroying := by
  have hr : (ensureSandbox sampleNode sampleSandbox (ensuring false false)).bind (fun created =>
      (deleteSandbox created.node "u" none (deleting (some "a"))).bind fun out =>
        (out.node.network.slots.lookup "a").map fun slot =>
          (out.ok, State.heldBy "u" slot, slot.phase)) =
      some (true, true, .destroying) := by decide
  obtain ⟨created, hc, hr⟩ := bind_eq_some_iff.mp hr
  obtain ⟨out, hd, hr⟩ := bind_eq_some_iff.mp hr
  obtain ⟨slot, hl, ht⟩ := map_eq_some_iff.mp hr
  exact ⟨sampleNode_fresh, created, out, slot, hc, hd, congrArg (·.1) ht,
    ⟨hl, congrArg (·.2.1) ht⟩, congrArg (·.2.2) ht⟩

end FastSandbox.Runtime.Firecracker
