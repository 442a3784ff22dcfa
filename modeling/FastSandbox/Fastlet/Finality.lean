import FastSandbox.Fastlet.Discipline

/-!
# Deletions are final

An accepted Delete leaves a tombstone. From then on no Create at or below its fence gets a
placeholder, and a record at or below it is never put to use again.
-/

namespace FastSandbox.Fastlet

open List
open Interleaving

/-! ## Tombstones stand for the accepted deletions -/

/-- Every accepted Delete is covered by its tombstone. -/
def Remembered (m : Manager) : Prop :=
  ∀ i, .accepted i ∈ m.log → covers (m.tombstones i.sandboxUID) i

variable {cfg : Config} {out : Manager × List Task}

theorem remembered_step {m : Manager} {t : Task} {c : Choice} (hr : m.registry.Valid)
    (ht : TaskOk cfg m.registry t) (hm : Remembered m) (h : advance cfg m t c = some out) :
    Remembered out.1 := by
  have he := advance_section hr ht h
  -- tombstones only rise
  have hg : ∀ uid i, covers (m.tombstones uid) i → covers (out.1.tombstones uid) i :=
    he.move.grows.covers
  have hold : ∀ i, .accepted i ∈ m.log → covers (out.1.tombstones i.sandboxUID) i :=
    fun i hi => hg _ i (hm i hi)
  intro i hi
  cases he.logged with
  | quiet hq =>
    rw [hq.log] at hi
    exact hold i hi
  | accepted j ht hl hp hc =>
    rw [hl] at hi
    rcases mem_cons.mp hi with heq | hi
    · cases heq
      exact hc
    · exact hold i hi
  | created _ _ _ hl | deleted _ _ hl | inspected _ _ hl | served _ hl
  | restarted _ hl =>
    rw [hl] at hi
    rcases mem_cons.mp hi with heq | hi
    · cases heq
    · exact hold i hi

theorem remembered_of_reaches {instances : List String} {w : World Manager Task}
    (h : (system cfg).Reaches System.anyStep (start cfg instances) w) : Remembered w.shared :=
  (discipline cfg).keeps (fun _ _ _ h => h)
    (fun hr ht hm _ h => remembered_step hr ht hm h) (start_holds cfg instances)
    (fun _ hi => absurd hi not_mem_nil) h

/-! ## A deleted record is not put to use again -/

/-- The record is deleted and out of use. -/
structure OutOfUse (p : Ref) (r : Registry) : Prop where
  known : p < r.next
  covered : r.Covered p
  phase : runtimeCreatedPhase (r.phase p) = false

theorem OutOfUse.move {t : Task} {r r' : Registry} {p : Ref} (h : OutOfUse p r)
    (hm : Move cfg t r r') : OutOfUse p r' := by
  obtain ⟨hlt, ho, hh⟩ := h
  refine ⟨hlt.trans_le hm.grows.next, hm.grows.covered hlt ho, ?_⟩
  have he : ∀ q phase, (q = p → runtimeCreatedPhase phase = false) →
      runtimeCreatedPhase ((r.setPhase q phase).phase p) = false := by
    intro q phase hq
    by_cases hp : p = q
    · subst hp
      rw [Registry.phase_setPhase_self]
      exact hq rfl
    · rwa [Registry.phase_setPhase_of_ne hp]
  cases hm with
  | same | discard | acceptAbsent | claim | release | ensured | teardown | inventory => exact hh
  | work phase hwr =>
    show runtimeCreatedPhase (phase p) = false
    rcases hwr p with heq | ⟨-, hr, -⟩
    · rwa [heq]
    · rw [hh] at hr
      cases hr
  | reserve | commit | commitDeleted =>
    show runtimeCreatedPhase (Function.update r.phase r.next _ p) = false
    rwa [Function.update_of_ne hlt.ne]
  | build q phase hq hne hb =>
    refine he q phase fun _ => ?_
    rcases hb with rfl | rfl | rfl <;> rfl
  | giveUp q | fail q | failed q => exact he q _ fun _ => rfl
  | retry q phase hq hu hre =>
    refine he q phase fun _ => ?_
    rcases hre with rfl | rfl <;> rfl
  | delete q phase hw hu hc' hd =>
    exact he q phase fun _ => created_of_ending (ending_of_deleting hd)
  | deleteCleared q phase hw hu hc' hd =>
    refine he q phase fun hqp => ?_
    subst hqp
    rcases hd with rfl | hd
    · exact hh
    · exact created_of_ending (ending_of_deleting hd)
  | accept q => exact he q .terminating fun _ => rfl
  | adopt _ records => rwa [Registry.phase_adopt_of_lt records hlt]

theorem registry_keeps {J : Registry → Prop}
    (hJ : ∀ {t : Task} {r r' : Registry}, J r → Move cfg t r r' → J r') {w w' : World Manager Task}
    (hw : System.Holds (fun m => m.registry.Valid) (fun m t => TaskOk cfg m.registry t) Apart w)
    (hj : J w.shared.registry) (h : (system cfg).Reaches System.anyStep w w') :
    J w'.shared.registry :=
  (discipline cfg).keeps (fun _ _ _ h => h)
    (fun hr ht hm _ h => hJ hm (advance_section hr ht h).move) hw hj h

/-! ## Creates below the fence -/

variable {req : CreateSandboxRequest}

theorem prepareCreateInput_rank {input : RuntimeSandboxConfig}
    (h : prepareCreateInput cfg req = .ok input) : input.identity.rank = req.identity.rank := by
  unfold prepareCreateInput at h
  split at h
  · cases h
  dsimp only at h
  split at h
  · cases h
  split at h
  · cases h
  split at h
  · cases h
  · cases h
    split_ifs <;> rfl

theorem beginCreate_sandboxes (cfg : Config) (m : Manager) (req : CreateSandboxRequest)
    (actionsReady resourceAvailable : Bool)
    (hc : covers (m.tombstones req.identity.sandboxUID) req.identity) :
    (beginCreate cfg m req actionsReady resourceAvailable).1.sandboxes = m.sandboxes := by
  unfold beginCreate
  split
  · rfl
  rename_i input hn
  unfold reserveSandboxForCreate
  cases admissionGate cfg m req actionsReady with
  | some => rfl
  | none =>
    cases m.lookup input.identity.sandboxUID with
    | none =>
      cases hgt : capacityGate cfg m input resourceAvailable with
      | some failure => rfl
      | none =>
        have hf := not_covers_of_capacityGate hgt
        rw [prepareCreateInput_uid hn] at hf
        exact absurd (covers_of_rank_le hc (prepareCreateInput_rank hn).le) hf
    | some p =>
      dsimp only
      split_ifs
      · rfl
      · cases createExisting cfg m p input <;> rfl

theorem advance_create {m : Manager} {c : Choice}
    (h : advance cfg m (.call (.create req)) c = some out) :
    ∃ actionsReady resourceAvailable, c = .admission actionsReady resourceAvailable ∧
      out = beginCreate cfg m req actionsReady resourceAvailable := by
  cases c with
  | admission => exact ⟨_, _, rfl, (Option.some.inj h).symm⟩
  | _ => cases h

/-- **Deletions are final.** Once a Delete for `i` has recorded its tombstone, a record at or
below the fence of `i` is in no phase of use at any later time, and a Create at or below it
installs no placeholder. -/
theorem deletion_final {cfg : Config} {instances : List String} {w₁ w₂ : World Manager Task}
    {i : SandboxIdentity} (h₁ : (system cfg).Reaches System.anyStep (start cfg instances) w₁)
    (hacc : .accepted i ∈ w₁.shared.log) (h₂ : (system cfg).Reaches System.anyStep w₁ w₂) :
    (∀ p, w₁.shared.lookup i.sandboxUID = some p →
      (w₁.shared.config p).identity.rank ≤ i.rank →
      runtimeCreatedPhase (w₂.shared.phase p) = false) ∧
    ∀ (n : ℕ) (c : Choice) (req : CreateSandboxRequest) (w₃ : World Manager Task),
      w₂.tasks[n]? = some (.call (.create req)) → req.identity.sandboxUID = i.sandboxUID →
      req.identity.rank ≤ i.rank → (system cfg).step w₂ (.run n c) = some w₃ →
      w₃.shared.sandboxes = w₂.shared.sandboxes := by
  have hw₁ := holds_of_reaches h₁
  constructor
  · intro p he hr
    obtain ⟨hlt, hu⟩ := hw₁.inv.keyed _ p he
    have hcu : w₁.shared.registry.Current p := by
      unfold Registry.Current
      rw [hu]
      exact he
    have hc : w₁.shared.registry.Covered p := by
      unfold Registry.Covered
      rw [hu]
      exact covers_of_rank_le (remembered_of_reaches h₁ i hacc) hr
    have hp := created_of_ending (hw₁.inv.covered p hcu hc)
    have ho : OutOfUse p w₁.shared.registry := ⟨hlt, hc, hp⟩
    exact (registry_keeps OutOfUse.move hw₁ ho h₂).phase
  · intro n c req w₃ hn hu hr ht
    -- the tombstone still stands
    have ha₂ : covers (w₂.shared.tombstones i.sandboxUID) i :=
      registry_keeps (fun hc hm => hm.grows.covers _ _ hc) hw₁ (remembered_of_reaches h₁ i hacc) h₂
    obtain ⟨t, _, _, _, _, hg, hd, -, rfl⟩ := System.step_run_cases ht
    rw [hn] at hg
    cases hg
    obtain ⟨actionsReady, resourceAvailable, -, ho⟩ := advance_create hd
    have hc : covers (w₂.shared.tombstones req.identity.sandboxUID) req.identity := by
      rw [hu]
      exact covers_of_rank_le ha₂ hr
    have hs := beginCreate_sandboxes cfg w₂.shared req actionsReady resourceAvailable hc
    rw [← ho] at hs
    exact hs

/-- A Fastlet with one slot and nothing optional. -/
def smallConfig : Config where
  capacity := 1
  capacity_pos := Nat.one_pos

def sampleIdentity : SandboxIdentity where
  sandboxUID := "uid-1"
  sandboxNamespace := "default"
  name := "sandbox"
  instanceGeneration := 1
  runtimeInstanceID := "instance-1"
  assignmentAttempt := 1
  routeGeneration := 1

def sampleRequest : CreateSandboxRequest where
  identity := sampleIdentity

/-- One Sandbox is created and runs. -/
def sampleCreation : List (Event Call Choice) :=
  [.spawn (.create sampleRequest), .run 0 (.admission true true), .run 0 .go,
    .run 0 (.ensured (.ok []) true), .run 0 .go, .run 0 .go, .run 0 .go]

def callsCreate (req : CreateSandboxRequest) (w : World Manager Task) : Bool :=
  match w.tasks[0]? with
  | some (Task.call (.create req')) => decide (req' = req)
  | _ => false

theorem task_of_callsCreate {req : CreateSandboxRequest} {w : World Manager Task}
    (h : callsCreate req w) : w.tasks[0]? = some (.call (.create req)) := by
  unfold callsCreate at h
  split at h
  · rename_i req' hq
    rw [of_decide_eq_true h] at hq
    exact hq
  · cases h

/-- The deletion of a running Sandbox, and a late retry of its Create. -/
theorem deletion_final_retry :
    ∃ w₁ w₂ : World Manager Task, .accepted sampleIdentity ∈ w₁.shared.log ∧
      w₁.shared.lookup "uid-1" = some 1 ∧ runtimeCreatedPhase (w₂.shared.phase 1) = false ∧
      w₂.tasks[0]? = some (.call (.create sampleRequest)) ∧
      ∀ c w₃, (system smallConfig).step w₂ (.run 0 c) = some w₃ →
        w₃.shared.sandboxes = w₂.shared.sandboxes := by
  obtain ⟨w₁, w₂, h₁, h₂, hs⟩ := System.exists_reaches_of_runs (S := system smallConfig)
    (w := start smallConfig []) (sampleCreation ++ [.spawn (.delete sampleIdentity), .run 0 .go])
    [.run 0 .go, .run 0 .go, .run 0 (.teardown none false), .run 0 .go, .run 0 .go,
      .spawn (.create sampleRequest)]
    (fun (w₁ w₂ : World Manager Task) => decide (.accepted sampleIdentity ∈ w₁.shared.log ∧
      w₁.shared.lookup "uid-1" = some 1 ∧ (w₁.shared.config 1).identity = sampleIdentity) &&
      callsCreate sampleRequest w₂) (by decide)
  rw [Bool.and_eq_true, decide_eq_true_eq] at hs
  obtain ⟨⟨ha, he, hc⟩, ht⟩ := hs
  have ht' := task_of_callsCreate ht
  obtain ⟨hp, hr⟩ := deletion_final h₁ ha h₂
  refine ⟨w₁, w₂, ha, he, hp 1 he (by rw [hc]), ht', ?_⟩
  intro c w₃ hst
  exact hr 0 c sampleRequest w₃ ht' rfl (le_refl _) hst

/-- **Every runtime instance is managed.** Once a recovery is over, each instance has its record,
unless the listing that was recovered from left it out. A record whose deletion was accepted is on
its way out, and nothing else looks like one. No record is created twice, deleted twice, or deleted
while it is created. -/
theorem instances_managed {cfg : Config} {instances : List String} {w : World Manager Task}
    (h : (system cfg).Reaches System.anyStep (start cfg instances) w) :
    (w.shared.recovering = false → ∀ uid ∈ w.shared.instances ++ w.shared.unlisted,
      uid ∉ w.shared.unlisted → ∃ p,
        w.shared.lookup uid = some p ∧ (w.shared.config p).identity.sandboxUID = uid) ∧
    (∀ uid p, w.shared.lookup uid = some p →
      (deletingPhase (w.shared.phase p) →
        covers (w.shared.tombstones uid) (w.shared.config p).identity) ∧
      (covers (w.shared.tombstones uid) (w.shared.config p).identity →
        endingPhase (w.shared.phase p))) ∧
    w.tasks.Pairwise Apart := by
  have hw := holds_of_reaches h
  have hk : ∀ uid p, w.shared.lookup uid = some p →
      (w.shared.config p).identity.sandboxUID = uid := fun uid p hl => (hw.inv.keyed uid p hl).2
  refine ⟨fun hr uid hu hl => ?_, fun uid p hl => ?_, hw.compat⟩
  · have hi := (mem_append.mp hu).resolve_right hl
    obtain ⟨p, hp⟩ := Option.ne_none_iff_exists'.mp (hw.inv.held hr uid hi)
    exact ⟨p, hp, hk uid p hp⟩
  · obtain rfl := hk uid p hl
    exact ⟨hw.inv.deleting p hl, hw.inv.covered p hl⟩

/-- The Sandbox runs, and its Delete is accepted. -/
theorem deleted_instance_managed : ∃ w : World Manager Task, w.shared.instances = ["uid-1"] ∧
    ∃ p, w.shared.lookup "uid-1" = some p ∧ endingPhase (w.shared.phase p) := by
  obtain ⟨w, hw, ht⟩ := System.exists_reaches_of_run (S := system smallConfig)
    (w := start smallConfig []) (sampleCreation ++ [.spawn (.delete sampleIdentity), .run 0 .go])
    (fun w => decide (w.shared.instances = ["uid-1"] ∧ w.shared.recovering = false ∧
      w.shared.lookup "uid-1" = some 1 ∧ deletingPhase (w.shared.phase 1))) (by decide)
  obtain ⟨hi, hr, hl, hd⟩ := of_decide_eq_true ht
  obtain ⟨hm, hp, -⟩ := instances_managed hw
  obtain ⟨hc, he⟩ := hp "uid-1" 1 hl
  exact ⟨w, hi, 1, hl, he (hc hd)⟩

end FastSandbox.Fastlet
