import FastSandbox.Pool.Scaling

/-!
# The stabilization window

A resource-aware pass may shrink its Pool only once the Pool has had excess capacity for a whole
window. The start of the window is the transition time of a condition that a pass writes after it
has created its Pods. A pass that saw demand but stopped before leaves the old window running.
-/

namespace FastSandbox.Pool

open Placement (Time)
open Interleaving PoolState List

/-- The time of a pass that saw no excess. -/
def Planning.demandAt : Planning → Option Time
  | .planned now baseline desired => if desired < baseline then none else some now
  | .target .. => none

/-- The time of a pass that goes on with a target below its baseline. -/
def Planning.shrinksAt : Planning → Option Time
  | .planned .. => none
  | .target now baseline desired => if desired < baseline then some now else none

/-- A pass that shrinks comes more than the window after every earlier one that saw no excess. -/
def Stabilized (window : ℕ) (plannings : List Planning) : Prop :=
  plannings.Pairwise fun late early =>
    ∀ now ∈ late.shrinksAt, ∀ t ∈ early.demandAt, t + window < now

instance (window : ℕ) (plannings : List Planning) : Decidable (Stabilized window plannings) :=
  inferInstanceAs (Decidable (plannings.Pairwise _))

/-- The passes that saw no excess came before `t`. -/
def DemandBefore (plannings : List Planning) (t : Time) : Prop :=
  ∀ e ∈ plannings, ∀ t' ∈ e.demandAt, t' < t

instance (plannings : List Planning) (t : Time) : Decidable (DemandBefore plannings t) :=
  inferInstanceAs (Decidable (∀ e ∈ plannings, ∀ t' ∈ e.demandAt, t' < t))

/-- The pass gets as far as the status, and writes it. -/
def completes (r : Settings) (p : PassRead) (plan : ScalePlan) (f : Fates) : Bool :=
  f.capacityWritten && f.statusWritten &&
    ((passTarget r p plan).1 - p.view.pods.length).toNat ≤ f.uids.length &&
    !needsPlannedUpgradeSurge p.view.pods (passTarget r p plan).1 p.templateHash

/-- A pass reads the condition that is stored. One that sees no excess completes; one that turns
the condition on comes in a later second than those. -/
def Attentive (lib : Library) (r : Settings) (overhead : ResourceList) (s : PoolState) :
    Step → Unit → Prop
  | .pass p f, _ =>
    p.candidate = s.candidate ∧ ∀ plan ∈ planScale lib r overhead p.view,
      if plan.desiredPods < plan.baseline p.view then
        s.candidate.any (·.status) ∨ DemandBefore s.plannings (wholeSecond p.view.now)
      else completes r p plan f
  | .settle .., _ => True

instance (lib : Library) (r : Settings) (overhead : ResourceList) (s : PoolState) (e : Step)
    (c : Unit) : Decidable (Attentive lib r overhead s e c) :=
  match e with
  | .pass .. => inferInstanceAs (Decidable (_ ∧ _))
  | .settle .. => .isTrue trivial

/-! ## One pass -/

section

variable {r : Settings} {p : PassRead} {plan : ScalePlan} {f : Fates} {s : PoolState}

theorem stabilize_of_demand {current desired : ℤ} (h : current ≤ desired) :
    (stabilizeResourceAwareScaleDown r p current desired).1 = desired ∧
      (stabilizeResourceAwareScaleDown r p current desired).2.status = false := by
  simp [stabilizeResourceAwareScaleDown, h]

/-- With excess, the target stays at the baseline until the condition has been on for the length of
the window. -/
theorem stabilize_of_excess {current desired : ℤ} (h : desired < current) :
    (p.candidate.any (·.status) = false →
        (stabilizeResourceAwareScaleDown r p current desired).2.lastTransitionTime = p.view.now) ∧
      ((stabilizeResourceAwareScaleDown r p current desired).1 < current →
        ∃ c ∈ p.candidate, c.status ∧ c.lastTransitionTime + r.window ≤ p.view.now) := by
  unfold stabilizeResourceAwareScaleDown
  rw [if_neg (not_le.2 h)]
  cases p.candidate with
  | none => simp
  | some c =>
    cases hs : c.status with
    | false => simp [hs]
    | true =>
      dsimp only
      split_ifs <;> simp_all

theorem writeCandidate_on {stored : Option Condition} {new c : Condition} {changed : Bool}
    (hc : c ∈ writeCandidate stored stored (some new) changed) (hs : c.status) :
    new.status ∧ ((∃ old ∈ stored, old.status ∧ c.lastTransitionTime = old.lastTransitionTime) ∨
      stored.any (·.status) = false ∧
        c.lastTransitionTime = wholeSecond new.lastTransitionTime) := by
  cases stored with
  | none | some =>
    simp only [writeCandidate, conditionMatches, setStatusCondition] at hc
    grind

theorem startDrains_frame (s : PoolState) (now : Time) (selections : List (Pod × DrainReason)) :
    (selections.foldl (startDrain now) s).candidate = s.candidate ∧
      (selections.foldl (startDrain now) s).plannings = s.plannings := by
  induction selections generalizing s with
  | nil => exact ⟨rfl, rfl⟩
  | cons selection rest ih => exact ih _

theorem reconcileDraining_frame (s : PoolState) (target : ℤ) :
    (s.reconcileDraining p plan target f).candidate = s.candidate ∧
      (s.reconcileDraining p plan target f).plannings = s.plannings := by
  unfold reconcileDraining
  dsimp only
  split_ifs
  · exact ⟨rfl, rfl⟩
  · exact ⟨rfl, rfl⟩
  · exact startDrains_frame ..
  · exact ⟨rfl, rfl⟩

theorem scale_candidate : (s.scale r p plan f).candidate = if completes r p plan f then
      writeCandidate s.candidate p.candidate (passTarget r p plan).2 f.statusChanged
    else s.candidate := by
  have hn : ∀ (s : PoolState) e, (s.note plan e).candidate = s.candidate := by
    intro s e
    unfold note
    split <;> rfl
  unfold scale completes
  grind [create, reconcileDraining_frame]

/-- After a pass the condition is on since the time it was on before, or the pass turned it on. A
completed pass that saw no excess leaves it off. -/
theorem scale_candidate_on {c : Condition} (hr : p.candidate = s.candidate)
    (hc : c ∈ (s.scale r p plan f).candidate) (hs : c.status) :
    (plan.resourceAware → completes r p plan f → plan.desiredPods < plan.baseline p.view) ∧
      ((∃ old ∈ s.candidate, old.status ∧ c.lastTransitionTime = old.lastTransitionTime) ∨
        plan.desiredPods < plan.baseline p.view ∧ s.candidate.any (·.status) = false ∧
          c.lastTransitionTime = wholeSecond p.view.now) := by
  have hd := @stabilize_of_demand r p (plan.baseline p.view) plan.desiredPods
  have he := @stabilize_of_excess r p (plan.baseline p.view) plan.desiredPods
  have ho := @writeCandidate_on s.candidate
    (stabilizeResourceAwareScaleDown r p (plan.baseline p.view) plan.desiredPods).2 c
    f.statusChanged
  rw [scale_candidate] at hc
  unfold passTarget at hc
  grind [writeCandidate]

def addedPlannings (r : Settings) (p : PassRead) (plan : ScalePlan) (f : Fates) : List Planning :=
  if plan.resourceAware then
    (if f.capacityWritten then
      [.target p.view.now (plan.baseline p.view) (passTarget r p plan).1] else []) ++
      [.planned p.view.now (plan.baseline p.view) plan.desiredPods]
  else []

theorem scale_plannings :
    (s.scale r p plan f).plannings = addedPlannings r p plan f ++ s.plannings := by
  unfold scale addedPlannings
  grind [create, note, reconcileDraining_frame]

theorem shrinksAt_added {now : Time} {e : Planning} (he : e ∈ addedPlannings r p plan f)
    (hn : now ∈ e.shrinksAt) : plan.desiredPods < plan.baseline p.view ∧
      ∃ c ∈ p.candidate, c.status ∧ c.lastTransitionTime + r.window ≤ now := by
  have hx := @stabilize_of_excess r p (plan.baseline p.view) plan.desiredPods
  have hd := @stabilize_of_demand r p (plan.baseline p.view) plan.desiredPods
  unfold addedPlannings passTarget at he
  grind [Planning.shrinksAt]

theorem demandAt_added {t : Time} {e : Planning} (he : e ∈ addedPlannings r p plan f)
    (ht : t ∈ e.demandAt) : plan.resourceAware ∧ ¬ plan.desiredPods < plan.baseline p.view := by
  unfold addedPlannings at he
  grind [Planning.demandAt]

end

/-! ## Whole runs -/

section

variable {lib : Library} {r : Settings} {overhead : ResourceList} {s s' : PoolState}

/-- While the condition is on, the passes that saw no excess are older than it. -/
def WindowHolds (r : Settings) (s : PoolState) : Prop :=
  Stabilized r.window s.plannings ∧
    ∀ c ∈ s.candidate, c.status → DemandBefore s.plannings c.lastTransitionTime

theorem scale_windowHolds {p : PassRead} {plan : ScalePlan} {f : Fates} (hs : WindowHolds r s)
    (hr : p.candidate = s.candidate) (hG : if plan.desiredPods < plan.baseline p.view then
        s.candidate.any (·.status) ∨ DemandBefore s.plannings (wholeSecond p.view.now)
      else completes r p plan f) : WindowHolds r (s.scale r p plan f) := by
  obtain ⟨hsa, hold⟩ := hs
  refine ⟨scale_plannings ▸ pairwise_append.2 ⟨?_, hsa, fun late hlt early ha now hn t ht => ?_⟩,
    fun c hc hst e he t ht => ?_⟩
  · refine pairwise_of_forall_mem_list fun late hlt early ha now hn t ht => ?_
    exact absurd (shrinksAt_added hlt hn).1 (demandAt_added ha ht).2
  · obtain ⟨-, c, hc, hst, hw⟩ := shrinksAt_added hlt hn
    rw [hr] at hc
    exact (Nat.add_lt_add_right (hold c hc hst early ha t ht) _).trans_le hw
  obtain ⟨ho, hon⟩ := scale_candidate_on hr hc hst
  rw [scale_plannings] at he
  have hb : e ∈ s.plannings := by
    refine (mem_append.1 he).resolve_left fun he => ?_
    obtain ⟨haw, hd⟩ := demandAt_added he ht
    rw [if_neg hd] at hG
    exact hd (ho haw hG)
  rcases hon with ⟨old, hold', hst', hm⟩ | ⟨hx, hso, hm⟩
  · rw [hm]
    exact hold old hold' hst' e hb t ht
  · rw [if_pos hx, hso] at hG
    rw [hm]
    exact hG.resolve_left Bool.false_ne_true e hb t ht

theorem window_outline (lib : Library) (r : Settings) (overhead : ResourceList) :
    System.Outline (system lib r overhead) (Attentive lib r overhead) (WindowHolds r)
      (fun _ _ => True) fun _ _ => True := by
  refine outline_of_passes (fun hs hG _ hl => scale_windowHolds hs hG.1 (hG.2 _ hl)) ?_
  intro s _ _ _ hs hp
  obtain ⟨-, hp⟩ := Option.ite_none_right_eq_some.1 hp
  cases hp
  exact hs

end

/-- **Scale-down is stabilized** in every run whose passes are attentive. -/
theorem scaleDown_stabilized (lib : Library) (r : Settings) (overhead : ResourceList)
    (s₀ : PoolState) (h₀ : s₀.plannings = []) {w : World PoolState Step}
    (h : (system lib r overhead).Reaches (Attentive lib r overhead) ⟨s₀, []⟩ w) :
    Stabilized r.window w.shared.plannings := by
  have hs₀ : WindowHolds r s₀ := by simp [WindowHolds, Stabilized, DemandBefore, h₀]
  exact ((window_outline lib r overhead).reaches (.start hs₀) h).inv.1

/-! ### One idle Fastlet -/

def idlePod : Pod := { name := "a", uid := "a", templateHash := "h" }

/-- A pass over a Pool with one idle Fastlet, `seconds` after the start of the clock. -/
def idlePass (seconds : ℕ) (sandboxes : List Sandbox) (candidate : Option Condition) :
    PassRead where
  view := {
    pool := samplePool, pods := [idlePod], sandboxes, now := seconds * 10 ^ 9
    registry := [{ podName := "a", podUID := "a", poolName := "pool"
                   lastHeartbeat := seconds * 10 ^ 9, resourceReceivedAt := seconds * 10 ^ 9 }] }
  candidate
  templateHash := "h"

/-- The condition that the first pass writes. -/
def idleCandidate : Condition := (stabilizeResourceAwareScaleDown {} (idlePass 1 [] none) 1 0).2

/-- The Pool has excess for a minute and shrinks. -/
theorem idle_minute_shrinks : ∃ w, (system unaryLibrary {} {}).Reaches
    (Attentive unaryLibrary {} {}) ⟨{ pods := [idlePod] }, []⟩ w ∧
      w.shared.plannings.any (·.shrinksAt.isSome) = true ∧
      Stabilized (Settings.window {}) w.shared.plannings := by
  obtain ⟨w, hw, hs⟩ := System.exists_reaches_of_runMeeting (S := system unaryLibrary {} {})
    (G := Attentive unaryLibrary {} {}) (w := ⟨{ pods := [idlePod] }, []⟩)
    [.spawn (.pass (idlePass 1 [] none) {}), .run 0 (),
      .spawn (.pass (idlePass 70 [] idleCandidate) {}), .run 0 ()]
    (fun w => w.shared.plannings.any (·.shrinksAt.isSome)) (by decide +kernel)
  exact ⟨w, hw, hs, scaleDown_stabilized unaryLibrary {} {} { pods := [idlePod] } rfl hw⟩

/-- At 50 s a Sandbox needs a second Fastlet, whose Pod cannot be created. At 70 s it is gone, and
the window of the first pass has passed. -/
theorem failed_creation_forgotten : ¬ ∀ w, (system unaryLibrary {} {}).Reaches System.anyStep
    ⟨{ pods := [idlePod] }, []⟩ w → Stabilized (Settings.window {}) w.shared.plannings := by
  let evs : List (Event Step Unit) := [.spawn (.pass (idlePass 1 [] none) {}), .run 0 (),
    .spawn (.pass (idlePass 50 [{ poolRef := "pool" }] idleCandidate) {}), .run 0 (),
    .spawn (.pass (idlePass 70 [] idleCandidate) {}), .run 0 ()]
  refine System.not_forall_reaches (S := system unaryLibrary {} {})
    (fun w => decide (Stabilized (Settings.window {}) w.shared.plannings))
    (fun _ => decide_eq_true) _ evs ?_
  decide +kernel

end FastSandbox.Pool
