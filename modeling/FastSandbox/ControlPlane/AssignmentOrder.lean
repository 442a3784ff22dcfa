import FastSandbox.ControlPlane.Effects
import FastSandbox.ControlPlane.Provenance

/-!
# The order of assignments

Fastlets fence by the pair (InstanceGeneration, Attempt), so the pairs written for one Sandbox
have to increase. The status keeps the highest pair while there is no annotation; a write that
seeds its pair from anything else, or an annotation that goes before the status has its pair,
breaks the order.
-/

namespace FastSandbox.ControlPlane

open Record SandboxStatus List Option
open Interleaving Threads

/-! ## What a write does to the fence -/

theorem toLex_le_of_le {a b a' b' : ℤ} (ha : a ≤ a') (hb : b ≤ b') :
    toLex (a, b) ≤ toLex (a', b') := by
  rw [Prod.Lex.toLex_le_toLex]
  rcases ha.lt_or_eq with hlt | heq
  · exact .inl hlt
  · exact .inr ⟨heq, hb⟩

/-- The highest pair that the object shows. -/
def Sandbox.fence (sb : Sandbox) : ℤ ×ₗ ℤ :=
  match sb.assignment with
  | some e => e.fence
  | none => sb.status.fence

variable {a sb sb' : Sandbox} {e : AssignmentEnvelope}

theorem Sandbox.fence_of_some (h : sb.assignment = some e) : sb.fence = e.fence := by
  unfold Sandbox.fence
  rw [h]

theorem Sandbox.fence_of_none (h : sb.assignment = none) : sb.fence = sb.status.fence := by
  unfold Sandbox.fence
  rw [h]

/-- A new version of the same object, whose fence does not fall and rises with a new
assignment. -/
structure Sandbox.Rises (sb sb' : Sandbox) : Prop where
  uid : sb'.uid = sb.uid
  fence : sb.fence ≤ sb'.fence
  assigned : ∀ e, sb'.assignment = some e → sb.assignment ≠ some e → sb.fence < e.fence

theorem Sandbox.Rises.of_status (hu : sb'.uid = sb.uid)
    (ha : sb'.assignment = sb.assignment) (hf : sb.status.fence ≤ sb'.status.fence) :
    sb.Rises sb' := by
  refine ⟨hu, ?_, fun e he hne => absurd (ha ▸ he) hne⟩
  cases h : sb.assignment with
  | none =>
    rw [fence_of_none h, fence_of_none (ha.trans h)]
    exact hf
  | some => rw [fence_of_some h, fence_of_some (ha.trans h)]

theorem SandboxStatus.SamePlacement.fence {st st' : SandboxStatus} (h : st.SamePlacement st') :
    st'.fence = st.fence := by
  unfold SandboxStatus.fence
  rw [h.generation, h.attempt]

theorem Sandbox.Rises.mutated {mutate : SandboxStatus → SandboxStatus} (h : sb.Mutated mutate sb')
    (hf : sb.status.fence ≤ (mutate sb.status).fence) : sb.Rises sb' := by
  refine .of_status (by rw [h.eq]) h.assignment ?_
  have heq : sb'.status.fence = (mutate sb.status).fence := by
    unfold SandboxStatus.fence
    rw [h.runtime, h.placement]
  rw [heq]
  exact hf

theorem SandboxStatus.clear_self_fence (st : SandboxStatus) (c : Clearing) :
    (st.clear st c).fence = toLex (c.generation, c.attempt) := by
  unfold clear fence
  dsimp only
  split_ifs with hg ha ha
  · rw [hg, ha]
  · rw [hg]
  · rw [ha]
  · rfl

theorem SandboxStatus.le_clearing (st : SandboxStatus) (envelope : Option AssignmentEnvelope)
    (adv : Bool) : st.runtime.generation ≤ (st.clearing envelope adv).generation ∧
      st.placement.attempt ≤ (st.clearing envelope adv).attempt := by
  unfold clearing nextInstanceGeneration
  cases envelope with
  | none | some =>
    dsimp only [Option.elim]
    split_ifs
    all_goals omega

theorem SandboxStatus.lt_clearing (st : SandboxStatus) (envelope : Option AssignmentEnvelope) :
    st.runtime.generation < (st.clearing envelope true).generation := by
  unfold clearing nextInstanceGeneration
  cases envelope with
  | none | some =>
    dsimp only [Option.elim]
    rw [if_pos rfl]
    omega

/-! ## The discipline -/

/-- A version of the object has had an assignment. -/
def Cluster.Assigned {ν : Type} (s : Cluster ν) (uid : String) : Prop :=
  ∃ v ∈ s.versions, v.uid = uid ∧ v.assignment ≠ none

instance {ν : Type} (s : Cluster ν) (uid : String) : Decidable (s.Assigned uid) :=
  inferInstanceAs (Decidable (∃ v ∈ s.versions, _))

/-- What keeps the pairs in order. An initial annotation that was seeded from a version is written
while the status still has the pair of that version; one that FastPath has planned goes to an object
that was never assigned. An annotation is removed once the status has its pair; and the status patch
that follows finds the version it was computed from. -/
def Disciplined {ν : Type} (s : Cluster ν) : Op → Prop
  | .modify _ (.assign none _) _ => ∀ sb ∈ s.object, sb.assignment = none → ¬ s.Assigned sb.uid
  | .modify _ (.assign (some read) _) _ =>
    ∀ sb ∈ s.object, sb.assignment = none → sb.status.fence = read.status.fence
  | .modify _ (.remove _ e) _ => ∀ sb ∈ s.object, sb.assignment = some e → e.fence ≤ sb.status.fence
  | .patch _ read _ => ∀ sb ∈ s.object, sb = read
  | _ => True

instance {ν : Type} (s : Cluster ν) (op : Op) : Decidable (Disciplined s op) := by
  unfold Disciplined
  split
  all_goals infer_instance

section

variable {ν : Type} {s : Cluster ν} {op : Op} {sb sb' : Sandbox}

/-- **The seed** is above the pair in the status, if the object was assigned before. -/
theorem seed_lt {cached : Bool} {read : Option Sandbox} {f : Sandbox → Verdict}
    (hw : Op.WellFormed (.modify cached (.assign read e) f))
    (hd : Disciplined s (.modify cached (.assign read e) f)) (ho : s.object = some sb)
    (hn : sb.assignment = none) (ha : s.Assigned sb.uid) : sb.status.fence < e.fence := by
  cases read with
  | none => exact absurd ha (hd sb ho hn)
  | some read =>
    obtain ⟨hg, ha⟩ := hw.2 read rfl
    rw [hd sb ho hn]
    unfold AssignmentEnvelope.fence SandboxStatus.fence
    rw [Prod.Lex.toLex_lt_toLex, hg, ha]
    omega

/-- **What a disciplined write does to the fence** of an object that was assigned before. -/
theorem rises_of_effect (hw : op.WellFormed) (hd : Disciplined s op) (ho : s.object = some sb)
    (ha : s.Assigned sb.uid) (hf : op.Effect sb sb') : sb.Rises sb' := by
  have hm : sb ∈ s.object := ho
  -- most writes touch neither the annotation nor the placement
  have hq : op.assigns = false → op.places = false → sb.Rises sb' := fun h1 h2 =>
    .of_status hf.keeps.1 (hf.assignment_eq h1) (hf.samePlacement h2).fence.ge
  cases op with
  | modify cached kind =>
    cases kind with
    | assign read e =>
      obtain ⟨-, hn, rfl⟩ := hf
      have hlt : sb.fence < e.fence := by
        rw [Sandbox.fence_of_none hn]
        exact seed_lt hw hd ho hn ha
      refine ⟨rfl, hlt.le, fun e' he' _ => ?_⟩
      cases he'
      exact hlt
    | advance expected next =>
      obtain ⟨-, hs, rfl, hg, ha⟩ := hf
      have hlt : sb.fence < next.fence := by
        rw [Sandbox.fence_of_some hs]
        unfold AssignmentEnvelope.fence
        rw [Prod.Lex.toLex_lt_toLex]
        exact .inr ⟨hg.symm, by dsimp only; omega⟩
      refine ⟨rfl, hlt.le, fun e' he' _ => ?_⟩
      cases he'
      exact hlt
    | remove cause expected =>
      obtain ⟨hs, rfl⟩ := hf
      refine ⟨rfl, ?_, fun e' he' _ => nomatch he'⟩
      rw [Sandbox.fence_of_some hs]
      exact hd sb hm hs
    | project =>
      obtain ⟨e, hs, rfl⟩ := hf
      refine ⟨rfl, ?_, fun e' he' hne => absurd he' hne⟩
      have hs' : { sb with status := sb.status.project e }.assignment = some e := hs
      rw [Sandbox.fence_of_some hs, Sandbox.fence_of_some hs']
    | reset seen => exact .mutated hf (toLex_le_of_le (le_max_left _ _) le_rfl)
    | _ => exact hq rfl rfl
  | patch cause read =>
    cases hf
    obtain ⟨hn, -, envelope, rfl⟩ := hw
    obtain rfl : sb = read := hd sb hm
    refine .of_status rfl rfl ?_
    rw [clear_self_fence]
    obtain ⟨hg, ha⟩ := sb.status.le_clearing envelope _
    exact toLex_le_of_le hg ha
  | _ => exact hq rfl rfl

end

/-! ## The assignments of a run -/

/-- The assignment that an operation newly wrote for a UID. -/
def Record.assigns (uid : String) (r : Record) : Option AssignmentEnvelope :=
  match r.after with
  | none => none
  | some a =>
    if a.uid = uid ∧ ¬ ∃ b ∈ r.before, b.uid = uid ∧ b.assignment = a.assignment then a.assignment
    else none

/-- All assignments written for a UID, latest first. -/
def assignments (trace : List Record) (uid : String) : List AssignmentEnvelope :=
  trace.filterMap (Record.assigns uid)

/-- Every assignment is above all earlier ones of its UID. -/
def Ordered (trace : List Record) : Prop :=
  ∀ uid, (assignments trace uid).Pairwise fun later earlier => earlier.fence < later.fence

theorem assignments_cons (r : Record) (trace : List Record) (uid : String) :
    assignments (r :: trace) uid = (r.assigns uid).toList ++ assignments trace uid := by
  unfold assignments
  rw [filterMap_cons]
  cases r.assigns uid with
  | none | some => rfl

variable {r : Record}

theorem assigns_of_same (uid : String) (h : r.after = r.before) : r.assigns uid = none := by
  unfold assigns
  split
  · rfl
  rename_i a ha
  refine if_neg fun hc => hc.2 ⟨a, ?_, hc.1, rfl⟩
  rw [← h]
  exact ha

theorem assigns_of_removed (uid : String) (h : r.after = none) : r.assigns uid = none := by
  unfold assigns
  rw [h]

theorem assigns_of_other {uid : String} (h : r.after = some a) (hne : a.uid ≠ uid) :
    r.assigns uid = none := by
  unfold assigns
  rw [h]
  exact if_neg fun hc => hne hc.1

theorem assigns_of_some {b : Sandbox} (hf : r.before = some b) (ha : r.after = some a)
    (hu : a.uid = b.uid) (h : r.assigns a.uid = some e) :
    a.assignment = some e ∧ b.assignment ≠ some e := by
  unfold assigns at h
  rw [ha] at h
  dsimp only at h
  split_ifs at h with hc
  refine ⟨h, fun hb => hc.2 ⟨b, hf, hu.symm, ?_⟩⟩
  rw [hb, h]

theorem assigns_mem {uid : String} (ha : r.after = some a) (h : r.assigns uid = some e) :
    a.assignment = some e := by
  unfold assigns at h
  rw [ha] at h
  dsimp only at h
  split_ifs at h
  exact h

section Run

variable {ν χ : Type} {E : Environment ν χ} {s s' : Cluster ν} {i : ℕ} {op : Op} {d : Decision χ}

/-- The assignments are in order and below what the object shows, and a version has each. -/
structure Fenced (s : Cluster ν) : Prop where
  ordered : Ordered s.trace
  below : ∀ sb, s.object = some sb → ∀ e ∈ assignments s.trace sb.uid, e.fence ≤ sb.fence
  known : ∀ sb, s.object = some sb → sb ∈ s.versions
  written : ∀ uid, ∀ e ∈ assignments s.trace uid, ∃ v ∈ s.versions, v.uid = uid ∧
    v.assignment = some e

theorem Fenced.assigned (h : Fenced s) {uid : String} (he : e ∈ assignments s.trace uid) :
    s.Assigned uid := by
  obtain ⟨v, hv, hu, ha⟩ := h.written uid e he
  exact ⟨v, hv, hu, by simp [ha]⟩

variable {x : Ans op}

theorem Fenced.of_quiet (h : Fenced s) (ht : s'.trace = ⟨i, op, x, s.object, s'.object⟩ :: s.trace)
    (hn : ∀ uid, assigns uid ⟨i, op, x, s.object, s'.object⟩ = none)
    (ho : ∀ sb, s'.object = some sb → s.object = some sb)
    (hv : s'.versions = s.versions) : Fenced s' := by
  have hl : ∀ uid, assignments s'.trace uid = assignments s.trace uid := by
    intro uid
    rw [ht, assignments_cons, hn]
    rfl
  refine ⟨?_, ?_, ?_, ?_⟩
  · intro uid
    rw [hl]
    exact h.ordered uid
  · intro sb hs
    rw [hl]
    exact h.below sb (ho sb hs)
  · intro sb hs
    rw [hv]
    exact h.known sb (ho sb hs)
  · intro uid
    rw [hl, hv]
    exact h.written uid

/-- A new version of an object whose assignment, if it is new, is above all earlier ones. -/
theorem Fenced.version (h : Fenced s) (ht : s'.trace = ⟨i, op, x, s.object, s'.object⟩ :: s.trace)
    (ho : s'.object = some a) (hv : s'.versions = a :: s.versions)
    (hf : ∀ e ∈ assignments s.trace a.uid, e.fence ≤ a.fence)
    (hlt : ∀ e, assigns a.uid ⟨i, op, x, s.object, s'.object⟩ = some e →
      ∀ e' ∈ assignments s.trace a.uid, e'.fence < e.fence) : Fenced s' := by
  have hnew : ∀ uid e, assigns uid ⟨i, op, x, s.object, s'.object⟩ = some e →
      uid = a.uid ∧ a.assignment = some e := by
    intro uid e he
    refine ⟨?_, assigns_mem ho he⟩
    by_contra hne
    rw [assigns_of_other ho (Ne.symm hne)] at he
    cases he
  refine ⟨?_, ?_, ?_, ?_⟩
  · intro uid
    rw [ht, assignments_cons]
    refine pairwise_append.mpr ⟨?_, h.ordered uid, ?_⟩
    · cases assigns uid ⟨i, op, x, s.object, s'.object⟩ with
      | none => exact .nil
      | some => exact pairwise_singleton _ _
    · intro e he e' he'
      have he := mem_toList.mp he
      obtain ⟨rfl, -⟩ := hnew uid e he
      exact hlt e he e' he'
  · intro b hb e he
    rw [ho] at hb
    cases hb
    rw [ht, assignments_cons] at he
    rcases mem_append.mp he with he | he
    · exact (Sandbox.fence_of_some (hnew _ e (mem_toList.mp he)).2).ge
    · exact hf e he
  · intro b hb
    rw [ho] at hb
    cases hb
    rw [hv]
    exact mem_cons_self
  · intro uid e he
    rw [ht, assignments_cons] at he
    rw [hv]
    rcases mem_append.mp he with he | he
    · obtain ⟨rfl, ha⟩ := hnew uid e (mem_toList.mp he)
      exact ⟨a, mem_cons_self, rfl, ha⟩
    · obtain ⟨v, hv, h⟩ := h.written uid e he
      exact ⟨v, mem_cons_of_mem _ hv, h⟩

theorem fenced_write {sb sb' : Sandbox} (h : Fenced s) (hob : s.object = some sb)
    (hu : sb'.uid = sb.uid) (hr : s.Assigned sb.uid → sb.Rises sb')
    (hob' : s'.object = (s.store sb').object) (hve : s'.versions = (s.store sb').versions)
    (ht : s'.trace = ⟨i, op, x, s.object, s'.object⟩ :: s.trace) : Fenced s' := by
  rcases s.store_cases sb' with ⟨ho, hd⟩ | ⟨hg, hk, -⟩
  · rw [ho] at hob'
    rw [hd] at hve
    have hu' : (s.stored sb').uid = sb.uid := hu
    refine h.version ht hob' hve (fun e he => ?_) fun e he e' he' => ?_
    · rw [hu'] at he
      exact (h.below sb hob e he).trans (hr (h.assigned he)).fence
    · rw [hu'] at he'
      obtain ⟨hs, hold⟩ := assigns_of_some hob hob' hu' he
      exact (h.below sb hob e' he').trans_lt ((hr (h.assigned he')).assigned e hs hold)
  · rw [hg] at hob'
    rw [hk] at hve
    refine h.of_quiet ht (fun uid => assigns_of_removed uid hob') (fun a ha => ?_) hve
    rw [hob'] at ha
    cases ha

theorem fenced_create {sb : Sandbox} (h : Fenced s) (hf : ∀ v ∈ s.versions, v.uid ≠ sb.uid)
    (hb' : s'.object = some sb) (hve : s'.versions = sb :: s.versions)
    (ht : s'.trace = ⟨i, op, x, s.object, s'.object⟩ :: s.trace) : Fenced s' := by
  have hm : ∀ e, e ∉ assignments s.trace sb.uid := fun e he => by
    obtain ⟨v, hv, hu, -⟩ := h.written _ e he
    exact hf v hv hu
  exact h.version ht hb' hve (fun e he => absurd he (hm e)) fun _ _ e he => absurd he (hm e)

theorem fenced_handle (hw : op.WellFormed) (h : Fenced s) (hd : Disciplined s op)
    (hh : Cluster.handle E s i op d = some (s', x)) : Fenced s' := by
  obtain ⟨hc, ht⟩ := handle_change hh
  cases hc with
  | same ho hv => exact h.of_quiet ht (fun uid => assigns_of_same uid ho) (fun sb hs => ho ▸ hs) hv
  | wrote f sb sb' hl ho hr ho' hv =>
    have he := Op.effect_of_write hw hl hr
    exact fenced_write h ho he.keeps.1 (fun ha => rises_of_effect hw hd ho ha he) ho' hv ht
  | created sb uid hp ho hu hf ho' hv => exact fenced_create h hf ho' hv ht

/-- **Assignments are written in order.** In every disciplined run, each assignment annotation
carries a pair above those of all annotations written earlier for the UID. -/
theorem assignments_ordered (digest : String → String) (E : Environment ν χ) (env : ν)
    {w : World (Shared (Cluster ν)) (Task Actor Op Ans)}
    (h : (system digest E).Reaches (Meets fun s _ op _ => Disciplined s op) (start env) w) :
    Ordered w.shared.state.trace := by
  have hs : Fenced ({ env } : Cluster ν) :=
    ⟨fun _ => .nil, fun _ h => (nomatch h), fun _ h => (nomatch h), fun _ _ h => (nomatch h)⟩
  have hi : Fenced w.shared.state :=
    invariant_of_reaches digest (fun hJ _ hw _ hG hh => fenced_handle hw hJ hG hh)
      (fun _ hJ => ⟨hJ.ordered, hJ.below, hJ.known, hJ.written⟩) hs h
  exact hi.ordered

end Run

/-! ## Two runs -/

section

def fastletB : Candidate := { fastletA with podName := "fastlet-b", podUID := "pod-b" }

/-- It finds the Pod lost and sets a deadline; after it the assignment is cleared. -/
def podLoss : Script :=
  [.spawn .reconcile, goOn 0, goOn 0, goOn 0, told 0 .now (0 : ℕ), told 0 .createActive false,
    told 0 (.getPod "fastlet-a") .absent, told 0 .now (0 : ℕ), goOn 0, crash 0,
    .spawn .reconcile, goOn 0, goOn 0, goOn 0, told 0 .now (0 : ℕ), told 0 .createActive false,
    told 0 (.getPod "fastlet-a") .absent, told 0 .now (60000000000 : ℕ), goOn 0, goOn 0, goOn 0,
    goOn 0, crash 0]

/-- The next reconcile seeds the pair from the cleared status. -/
def reassignment : Script :=
  [.spawn .reconcile, goOn 0, goOn 0, goOn 0, told 0 .now (60000000000 : ℕ), goOn 0,
    told 0 (.candidates []) (.ok [fastletB]), told 0 .newID "id-2", goOn 0]

theorem assignments_ordered_replaced :
    ∃ w : World (Shared (Cluster Unit)) (Task Actor Op Ans),
      (assignments w.shared.state.trace "uid-1").map (fun e => (e.instanceGeneration, e.attempt)) =
        [(2, 2), (1, 1)] ∧ Ordered w.shared.state.trace := by
  obtain ⟨w, h, ht⟩ := System.exists_reaches_of_runMeeting (S := system id anyWorld)
    (G := Meets fun s _ op _ => Disciplined s op) (w := start ())
    (creation [fastletA] ++ [crash 0] ++ projection ++ podLoss ++ reassignment)
    (fun w => decide ((assignments w.shared.state.trace "uid-1").map
      (fun e => (e.instanceGeneration, e.attempt)) = [(2, 2), (1, 1)])) (by decide)
  exact ⟨w, of_decide_eq_true ht, assignments_ordered id anyWorld () h⟩

/-- A retry of the first call finds no annotation and writes the one it planned. -/
def lateRetry : Script :=
  [.spawn (.createSandbox sampleCall), goOn 0, told 0 (.candidates []) (.ok [fastletA]),
    told 0 .newID "id-2", .run 0 (.go (.fail false)), goOn 0, goOn 0]

theorem late_retry_repeats : ¬ ∀ w : World (Shared (Cluster Unit)) (Task Actor Op Ans),
      (system id anyWorld).Reaches System.anyStep (start ()) w → Ordered w.shared.state.trace :=
  System.not_forall_reaches
    (fun w => decide ((assignments w.shared.state.trace "uid-1").Pairwise
      fun later earlier => earlier.fence < later.fence))
    (fun _ h => decide_eq_true (h "uid-1")) (start ())
    (creation [fastletA] ++ [crash 0] ++ projection ++ podLoss ++ lateRetry) (by decide)

end

end FastSandbox.ControlPlane
