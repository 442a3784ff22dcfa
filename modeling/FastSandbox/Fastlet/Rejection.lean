import FastSandbox.Fastlet.Finality

/-!
# What a rejected Create says

`REJECTED_BEFORE_SIDE_EFFECTS` licenses the control plane to move a Sandbox elsewhere. An answer
that was given after the Sandbox was looked up is true of what the manager knows; the gates before
the lookup give it without looking, and an instance that the runtime did not list is not known.
-/

namespace FastSandbox.Fastlet

open List Bool
open Interleaving

/-- A valid Create finds the gates open that are asked before its Sandbox is looked up: recovery is
over, the runtime and the Infra artifacts are ready, and so are the Actions it depends on. -/
structure GatesOpen (cfg : Config) (m : Manager) (req : CreateSandboxRequest)
    (actionsReady : Bool) : Prop where
  valid : ∃ input, prepareCreateInput cfg req = .ok input
  recovered : m.recovering = false
  runtimeReady : m.runtimeReady
  infraReady : m.infraReady
  actions : match cfg.actionManager with
    | none => req.actionBindings = []
    | some actions => actions.apiVersion = Action.apiVersionV1 ∨ actions.required = false ∨
        actionsReady

theorem GatesOpen.admissionGate_eq {cfg : Config} {m : Manager} {req : CreateSandboxRequest}
    {actionsReady : Bool} (h : GatesOpen cfg m req actionsReady) :
    admissionGate cfg m req actionsReady = none := by
  have ha := h.actions
  unfold admissionGate
  rw [h.recovered, h.runtimeReady, h.infraReady]
  cases hm : cfg.actionManager with
  | none =>
    rw [hm] at ha
    simp [show req.actionBindings = [] from ha]
  | some actions =>
    rw [hm] at ha
    simpa [or_iff_not_imp_left] using ha

/-! ## Answers that are no rejection -/

variable {cfg : Config} {m : Manager}

theorem createExisting_disposition {p : Ref} {requested : RuntimeSandboxConfig}
    {response : CreateSandboxResponse} (h : createExisting cfg m p requested = .error response) :
    response.disposition ≠ .rejectedBeforeSideEffects := by
  unfold createExisting at h
  dsimp only at h
  split at h
  · rename_i hf
    cases h
    exact fence_disposition hf
  · split at h
    · cases h
      exact nofun
    · split at h
      all_goals first | cases h; exact nofun | cases h

/-! ## Rejections that are true -/

section

variable {cfg : Config} {m : Manager} {c : Creation} {t : Task}

/-- The section wrote the rejection of `req`. -/
def Rejects (m m' : Manager) (req : CreateSandboxRequest) : Prop :=
  ∃ response, m'.log = .created req response :: m.log ∧
    response.disposition = .rejectedBeforeSideEffects

variable {req req' : CreateSandboxRequest}

theorem Rejects.of_write {m1 : Manager} {response : CreateSandboxResponse}
    (h : Rejects m (m1.write (.created req' response)) req) :
    req' = req ∧ response.disposition = .rejectedBeforeSideEffects := by
  obtain ⟨_, hl, hd⟩ := h
  obtain ⟨he, -⟩ := List.cons.inj hl
  cases he
  exact ⟨rfl, hd⟩

theorem not_rejects_of_quiet {m' : Manager} (hq : Quiet m m') : ¬ Rejects m m' req := by
  rintro ⟨_, hl, -⟩
  rw [hq.log] at hl
  exact absurd hl.symm (cons_ne_self _ _)

theorem beginCreate_rejects {actionsReady resourceAvailable : Bool} (hr : m.registry.Valid)
    (hgates : GatesOpen cfg m req actionsReady) (hlisted : req.identity.sandboxUID ∉ m.unlisted)
    (h : Rejects m (beginCreate cfg m req actionsReady resourceAvailable).1 req') :
    Absent (beginCreate cfg m req actionsReady resourceAvailable).1 req.identity.sandboxUID := by
  unfold beginCreate at h ⊢
  split at h
  · rename_i hn
    obtain ⟨_, hv⟩ := hgates.valid
    rw [hn] at hv
    cases hv
  rename_i input hn
  unfold reserveSandboxForCreate at h ⊢
  rw [hgates.admissionGate_eq] at h ⊢
  cases hl : m.lookup input.identity.sandboxUID with
  | none =>
    rw [hl] at h
    cases ha : capacityGate cfg m input resourceAvailable with
    | some refusal =>
      rw [prepareCreateInput_uid hn] at hl
      exact ⟨hl, fun he => hr.held hgates.recovered _ he hl, hlisted⟩
    | none =>
      rw [ha] at h
      exact absurd h (not_rejects_of_quiet ⟨rfl, rfl⟩)
  | some p =>
    rw [hl] at h
    dsimp only at h ⊢
    split_ifs at h
    · exact absurd h (not_rejects_of_quiet ⟨rfl, rfl⟩)
    cases hx : createExisting cfg m p input with
    | error response =>
      rw [hx] at h
      exact absurd (Rejects.of_write h).2 (createExisting_disposition hx)
    | ok success =>
      rw [hx] at h
      exact absurd h (not_rejects_of_quiet ⟨rfl, rfl⟩)

end

/-! ## Every rejection -/

/-- The listing of the runtime that was recovered from did not leave the Sandbox out, and a Create
that is answered at once finds the gates open. -/
def Licensed (cfg : Config) (m : Manager) (t : Task) (c : Choice) (req : CreateSandboxRequest) :
    Prop :=
  req.identity.sandboxUID ∉ m.unlisted ∧ ∀ actionsReady resourceAvailable,
    t = .call (.create req) → c = .admission actionsReady resourceAvailable →
    GatesOpen cfg m req actionsReady

variable {req : CreateSandboxRequest}

theorem advance_rejects {t : Task} {c : Choice} {out : Manager × List Task}
    (hr : m.registry.Valid) (ht : TaskOk cfg m.registry t) (h : advance cfg m t c = some out)
    (hj : Rejects m out.1 req) (hi : Licensed cfg m t c req) :
    Absent out.1 req.identity.sandboxUID := by
  -- which Create is answered is read off the log
  have ha : t = .call (.create req) ∨ Absent out.1 req.identity.sandboxUID := by
    obtain ⟨response, hg, hd⟩ := hj
    cases (advance_section hr ht h).logged with
    | created req' response' _ hl' _ hrj =>
      rw [hl'] at hg
      cases hg
      exact (hrj hd).imp_right fun ha => ha hi.1
    | quiet hq =>
      rw [hq.log] at hg
      exact absurd hg.symm (cons_ne_self _ _)
    | accepted _ _ hl' | deleted _ _ hl' | inspected _ _ hl' | served _ hl'
    | restarted _ hl' =>
      rw [hl'] at hg
      cases hg
  rcases ha with rfl | ha
  · obtain ⟨actionsReady, resourceAvailable, rfl, rfl⟩ := advance_create h
    exact beginCreate_rejects hr (hi.2 _ _ rfl rfl) hi.1 hj
  · exact ha

/-- **What a rejected Create says.** A Create answered `REJECTED_BEFORE_SIDE_EFFECTS` has left
neither an entry nor an instance, if the answer was licensed. -/
theorem rejection_absent {cfg : Config} {instances : List String} {w w' : World Manager Task}
    {n : ℕ} {t : Task} {c : Choice} {req : CreateSandboxRequest} {response : CreateSandboxResponse}
    (h : (system cfg).Reaches System.anyStep (start cfg instances) w) (hn : w.tasks[n]? = some t)
    (hstep : (system cfg).step w (.run n c) = some w')
    (hlog : w'.shared.log = .created req response :: w.shared.log)
    (hdisp : response.disposition = .rejectedBeforeSideEffects)
    (hlicensed : Licensed cfg w.shared t c req) : Absent w'.shared req.identity.sandboxUID := by
  have hw := holds_of_reaches h
  obtain ⟨_, _, _, _, _, hg, ha, _, rfl⟩ := System.step_run_cases hstep
  rw [hn] at hg
  cases hg
  have hm : t ∈ w.tasks := mem_of_getElem? hn
  exact advance_rejects hw.inv (hw.task t hm) ha ⟨response, hlog, hdisp⟩ hlicensed

/-- A second Sandbox for a Fastlet with one slot. -/
def secondRequest : CreateSandboxRequest where
  identity := { sampleIdentity with sandboxUID := "uid-2", runtimeInstanceID := "instance-2" }

/-- The log after a step, when the step wrote a rejection. -/
def writesRejection (req : CreateSandboxRequest) (w w' : World Manager Task) : Bool :=
  match w'.shared.log with
  | .created req' response :: rest =>
    decide (req' = req ∧ response.disposition = .rejectedBeforeSideEffects ∧ rest = w.shared.log)
  | _ => false

theorem rejects_of_writesRejection {w w' : World Manager Task}
    (h : writesRejection req w w') : Rejects w.shared w'.shared req := by
  unfold writesRejection at h
  split at h
  · rename_i response _ hl
    obtain ⟨rfl, hd, rfl⟩ := of_decide_eq_true h
    exact ⟨response, hl, hd⟩
  · cases h

/-- The one slot is taken: the second Sandbox is refused, and it is nowhere. -/
theorem rejection_absent_full : ∃ w w' : World Manager Task,
      (system smallConfig).step w (.run 0 (.admission true true)) = some w' ∧
      Rejects w.shared w'.shared secondRequest ∧ Absent w'.shared "uid-2" := by
  obtain ⟨w, w', h, hs, he⟩ := System.exists_step_of_run (S := system smallConfig)
    (w := start smallConfig []) (sampleCreation ++ [.spawn (.create secondRequest)])
    (.run 0 (.admission true true))
    (fun (w w' : World Manager Task) => writesRejection secondRequest w w' &&
      decide (w.shared.unlisted = [] ∧ w.shared.recovering = false ∧ w.shared.runtimeReady ∧
        w.shared.infraReady) && callsCreate secondRequest w) (by decide)
  rw [and_eq_true, and_eq_true] at he
  obtain ⟨⟨hw, hready⟩, ht⟩ := he
  obtain ⟨hlisted, hr, hu, hi⟩ := of_decide_eq_true hready
  have hj := rejects_of_writesRejection hw
  refine ⟨w, w', hs, hj, ?_⟩
  obtain ⟨_, ho, hd⟩ := hj
  refine rejection_absent h (task_of_callsCreate ht) hs ho hd ⟨by simp [hlisted], ?_⟩
  intro _ _ _ _
  exact ⟨⟨_, rfl⟩, hr, hu, hi, rfl⟩

/-- A Fastlet that recovers its runtime's inventory before it admits anything. -/
def recoveringConfig : Config where
  capacity := 1
  capacity_pos := Nat.one_pos
  recoverOnStart := true

/-- A Create retried while the Fastlet is still recovering is rejected before side effects, and
the runtime holds the Sandbox. -/
theorem rejection_of_held_sandbox :
    ¬ ∀ (cfg : Config) (instances : List String) (w w' : World Manager Task) (n : ℕ) (c : Choice)
      (req : CreateSandboxRequest) (response : CreateSandboxResponse),
      (system cfg).Reaches System.anyStep (start cfg instances) w →
      (system cfg).step w (.run n c) = some w' →
      w'.shared.log = .created req response :: w.shared.log →
      response.disposition = .rejectedBeforeSideEffects →
      Absent w'.shared req.identity.sandboxUID := by
  intro ha
  obtain ⟨w, w', h, hs, ht⟩ := System.exists_step_of_run (S := system recoveringConfig)
    (w := start recoveringConfig ["uid-1"]) [.spawn (.create sampleRequest)]
    (.run 1 (.admission true true))
    (fun (w w' : World Manager Task) => writesRejection sampleRequest w w' &&
      decide ("uid-1" ∈ w'.shared.instances)) (by decide)
  rw [and_eq_true] at ht
  obtain ⟨response, hl, hd⟩ := rejects_of_writesRejection ht.1
  exact (ha _ _ w w' _ _ _ response h hs hl hd).2.1 (of_decide_eq_true ht.2)

end FastSandbox.Fastlet
