import FastSandbox.ControlPlane.AssignmentOrder

/-!
# Whose runtime a status shows

A reconcile asks the Fastlet of the assignment it has read, and writes the answer into whatever
version of the object is current by then. A terminal failure is written only over the assignment it
was observed for; every other observation is written unseen.
-/

namespace FastSandbox.ControlPlane

open Fastlet (SandboxIdentity)
open Interleaving Threads List

/-- The observation is one of this identity's runtime. -/
def Observation.names (observed : Observation) (id : SandboxIdentity) : Bool :=
  observed.sandboxID = id.sandboxUID && observed.instanceGeneration = id.instanceGeneration &&
    observed.runtimeInstanceID = id.runtimeInstanceID &&
    observed.assignmentAttempt = id.assignmentAttempt &&
    observed.routeGeneration = id.routeGeneration

/-- The observation that an operation has written into the status. -/
def Record.projected (r : Record) : Option Observation :=
  match r.op with
  | .modify _ (.observe _ observed) _ | .modify _ (.failure _ observed) _ =>
    if r.after = r.before then none else some observed
  | _ => none

/-- Every observation was written over the assignment it is about. -/
def Attributed (trace : List Record) : Prop :=
  ∀ r ∈ trace, ∀ observed, r.projected = some observed →
    ∃ sb, r.before = some sb ∧ observedMatchesAssignment sb.uid sb.assignment observed

/-! ## What the projection relies on -/

/-- A report is about the identity that was asked for. -/
def faithful : (q : Ask) → q.Ans → Bool
  | .awaitCreate request => fun (reply : CreateReply) =>
    (reply.response.bind (·.2)).all (·.names request.identity)
  | .awaitInspect id => fun (reply : InspectReply) => reply.sandbox.all (·.names id)
  | _ => fun _ => true

/-- Fastlets report about the identity they are asked for, and an observation is written while the
annotation still is the one that was asked for. -/
def Undisplaced {ν χ : Type} (E : Environment ν χ) (s : Cluster ν) (i : ℕ) :
    Op → Decision χ → Prop
  | .ask q, .world c => ∀ out ∈ E.step s.env q c, faithful q out.2
  | .modify _ (.observe ..) _, _ => ∀ sb ∈ s.object,
      (latestReport (s.past i)).map Prod.fst = sb.assignment.map (·.identity sb.uid)
  | _, _ => True

instance {ν χ : Type} (E : Environment ν χ) (s : Cluster ν) (i : ℕ) (op : Op) (d : Decision χ) :
    Decidable (Undisplaced E s i op d) := by
  unfold Undisplaced
  split
  all_goals infer_instance

/-! ## Runs -/

def Record.Faithful (r : Record) : Prop :=
  ∀ id observed, reported r.entry = some (id, some observed) → observed.names id

variable {observed : Observation}

theorem reported_faithful {q : Ask} {x : q.Ans} (h : faithful q x) {id : SandboxIdentity}
    (he : reported ⟨.ask q, x⟩ = some (id, some observed)) : observed.names id := by
  cases q with
  | awaitCreate request =>
    obtain ⟨rfl, hs⟩ := Prod.mk.inj (Option.some.inj he)
    have ha : ((CreateReply.response x).bind (·.2)).all (·.names request.identity) := h
    rw [hs] at ha
    exact ha
  | awaitInspect id' =>
    obtain ⟨rfl, hs⟩ := Prod.mk.inj (Option.some.inj he)
    have ha : (InspectReply.sandbox x).all (·.names id') := h
    rw [hs] at ha
    exact ha
  | getPod | send | awaitDelete | awaitCheckpoint | candidates | registered | resolve
  | reserveLocal | createActive | now | newID | world => cases he

section

variable {ν χ : Type} {E : Environment ν χ} {s s' : Cluster ν} {i : ℕ} {op : Op} {d : Decision χ}

theorem faithful_handle {x : Ans op} (hG : Undisplaced E s i op d)
    (h : Cluster.handle E s i op d = some (s', x)) (before after : Option Sandbox) :
    Record.Faithful ⟨i, op, x, before, after⟩ := by
  intro _ _ he
  cases op with
  | ask =>
    obtain ⟨c, env, rfl, hs⟩ := Cluster.handle_ask h
    exact reported_faithful (hG (env, x) hs) he
  | get | modify | patch | create | delete | edit | dequeue | answer => cases he

/-- **A write** of an observation finds the assignment that the observation is about. -/
theorem attributed_handle {x : Ans op} (hps : ∀ r ∈ s.trace, r.Faithful) (hw : op.WellFormed)
    (hj : Justified (s.past i) op) (hG : Undisplaced E s i op d)
    (h : Cluster.handle E s i op d = some (s', x))
    (ho : Record.projected ⟨i, op, x, s.object, s'.object⟩ = some observed) :
    ∃ sb, s.object = some sb ∧ observedMatchesAssignment sb.uid sb.assignment observed := by
  have hc := (handle_change h).1
  unfold Record.projected at ho
  dsimp only at ho
  split at ho
  · rename_i asked o f
    split_ifs at ho with hs
    cases ho
    cases hc with
    | same hb => exact absurd hb hs
    | created sb uid hop => cases hop
    | wrote g sb sb' hl hb =>
      obtain ⟨uid, hp⟩ := hj
      obtain ⟨_, hen, heq⟩ := exists_of_findSome?_eq_some hp
      obtain ⟨r, hr, -, rfl⟩ := Cluster.mem_past.mp hen
      have hn : observed.names (asked.identity uid) := hps r hr _ _ heq
      -- the annotation is that of the report
      have hu : (latestReport (s.past i)).map Prod.fst =
          sb.assignment.map (·.identity sb.uid) := hG sb hb
      rw [hp] at hu
      obtain ⟨e, he, hd⟩ := Option.map_eq_some_iff.mp hu.symm
      refine ⟨sb, hb, ?_⟩
      rw [he]
      show observed.names (e.identity sb.uid)
      rw [show e.identity sb.uid = asked.identity uid from hd]
      exact hn
  · split_ifs at ho with hs
    cases ho
    cases hc with
    | same hb => exact absurd hb hs
    | created sb uid hop => cases hop
    | wrote g sb sb' hl hb hwr =>
      cases hl
      obtain ⟨uid, rfl⟩ := hw
      exact ⟨sb, hb, (failing_write hwr).1⟩
  · cases ho

/-- **A status shows the runtime of its assignment.** In every run in which Fastlets report about
the identity they are asked for and no observation is written after its annotation is gone, every
write of an observation finds the assignment that the observation is about. -/
theorem projected_observation_attributed (digest : String → String) (E : Environment ν χ) (env : ν)
    {w : World (Shared (Cluster ν)) (Task Actor Op Ans)}
    (h : (system digest E).Reaches (Meets (Undisplaced E)) (start env) w) :
    Attributed w.shared.state.trace := by
  have hi : (∀ r ∈ w.shared.state.trace, r.Faithful) ∧ Attributed w.shared.state.trace := by
    refine invariant_of_reaches digest
      (J := fun s => (∀ r ∈ s.trace, r.Faithful) ∧ Attributed s.trace) ?_ (fun _ h => h)
      ⟨forall_mem_nil _, forall_mem_nil _⟩ h
    intro s i _ d _ x ⟨hs, ha⟩ _ hw hj hG hh
    rw [(handle_change hh).2]
    refine ⟨forall_mem_cons.mpr ⟨faithful_handle hG hh _ _, hs⟩,
      forall_mem_cons.mpr ⟨fun _ hp => ?_, ha⟩⟩
    exact attributed_handle hs hw hj hG hh hp
  exact hi.2

end

section

/-- The first Fastlet reports the runtime it is creating for the first assignment. -/
def firstReport : Observation where
  sandboxID := "uid-1"
  instanceGeneration := 1
  runtimeInstanceID := "id-1"
  assignmentAttempt := 1
  routeGeneration := 1
  runtimeState := .creating

/-- A reconcile of another replica finds the first assignment, and creates its runtime. -/
def ensuring (thread : ℕ) : Script :=
  [.spawn .reconcile, goOn thread, goOn thread, goOn thread, told thread .now (0 : ℕ), goOn thread,
    goOn thread, goOn thread, goOn thread, told thread .createActive false,
    told thread (.registered "fastlet-a") (some fastletA),
    told thread (.send (.inspect firstRequest.identity)) (),
    told thread (.awaitInspect firstRequest.identity)
      ⟨none, some (.fastlet .rejectedBeforeSideEffects .notFound "")⟩,
    told thread (.registered "fastlet-a") (some fastletA), told thread .resolve none,
    told thread .reserveLocal .reserved, told thread .resolve none,
    told thread (.send (.create firstRequest)) (),
    told thread (.awaitCreate firstRequest) ⟨some (.created, some firstReport), none⟩]

/-- FastPath has no room for the first Fastlet, and moves the assignment to the second. -/
def refusal : Script := [told 0 .reserveLocal .refused, told 0 .newID "id-2", goOn 0]

/-- The assignment stays while the reconcile runs. -/
theorem first_report_attributed : ∃ w : World (Shared (Cluster Unit)) (Task Actor Op Ans),
      w.shared.state.trace.filterMap Record.projected = [firstReport] ∧
        Attributed w.shared.state.trace := by
  obtain ⟨w, h, ht⟩ := System.exists_reaches_of_runMeeting (S := system id anyWorld)
    (G := Meets (Undisplaced anyWorld)) (w := start ())
    (creation [fastletA, fastletB] ++ ensuring 1 ++ [goOn 1])
    (fun w => decide (w.shared.state.trace.filterMap Record.projected = [firstReport]))
    (by decide)
  exact ⟨w, of_decide_eq_true ht, projected_observation_attributed id anyWorld () h⟩

/-- The observation of the first assignment's runtime is written over the second assignment. -/
theorem report_projected_after_move : ¬ ∀ w : World (Shared (Cluster Unit)) (Task Actor Op Ans),
      (system id anyWorld).Reaches System.anyStep (start ()) w → Attributed w.shared.state.trace :=
  System.not_forall_reaches
    (fun w => w.shared.state.trace.all fun r => r.projected.all fun observed =>
      r.before.any fun sb => observedMatchesAssignment sb.uid sb.assignment observed)
    (fun w h => by
      refine all_eq_true.mpr fun r hr => ?_
      cases hp : r.projected with
      | none => rfl
      | some observed =>
        obtain ⟨sb, hs, hm⟩ := h r hr observed hp
        rw [hs]
        exact hm) (start ())
    (creation [fastletA, fastletB] ++ ensuring 1 ++ refusal ++ [goOn 1]) (by decide)

end

end FastSandbox.ControlPlane
