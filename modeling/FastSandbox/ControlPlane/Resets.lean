import FastSandbox.ControlPlane.AssignmentOrder

/-!
# What an accepted reset leaves behind

A reset asks for a new instance. The reconcile deletes the runtime of the assignment, removes the
annotation, raises the instance generation and then accepts the revision; whether there is anything
to delete it decides from the status alone, so an annotation that is not projected yet survives.
-/

namespace FastSandbox.ControlPlane

open Interleaving Threads List

/-! ## Requests and their acceptance -/

/-- The operation requests the reset `t` while `e` is the assignment. -/
def Record.Requests (r : Record) (uid : String) (t : Time) (e : AssignmentEnvelope) : Prop :=
  (∃ a ∈ r.after, a.uid = uid ∧ a.spec.resetRevision = some t ∧ a.assignment = some e) ∧
    ∀ b ∈ r.before, b.uid = uid → b.spec.resetRevision ≠ some t

/-- The operation accepts the reset `t`, and none as late was accepted before. -/
def Record.Accepts (r : Record) (uid : String) (t : Time) : Prop :=
  ∃ b ∈ r.before, ∃ a ∈ r.after, b.uid = uid ∧ a.uid = uid ∧
    a.status.runtime.acceptedResetRevision = some t ∧
    b.status.runtime.acceptedResetRevision.all (· < t)

instance (r : Record) (uid : String) (t : Time) (e : AssignmentEnvelope) :
    Decidable (r.Requests uid t e) := inferInstanceAs (Decidable (_ ∧ _))

instance (r : Record) (uid : String) (t : Time) : Decidable (r.Accepts uid t) :=
  inferInstanceAs (Decidable (∃ b ∈ r.before, _))

def PodLookup.terminating : PodLookup → Bool
  | .found pod => pod.deleting
  | .absent | .failed => false

/-- The Pod with this UID does not exist any more. -/
def PodLookup.replaced (uid : String) : PodLookup → Bool
  | .absent => true
  | .failed => false
  | .found pod => pod.uid ≠ uid

def pastOf (trace : List Record) (j : ℕ) : Past := (trace.filter (·.thread = j)).map Record.entry

/-- A reconcile has found the runtime gone: it was deleted and not found any more, or its Pod is
gone. -/
def FoundGone (trace : List Record) (uid : String) (e : AssignmentEnvelope) : Prop :=
  ∃ j, Confirmed (pastOf trace j) (e.identity uid) ∨
    ∃ x : PodLookup, ⟨.ask (.getPod e.fastletName), x⟩ ∈ pastOf trace j ∧ x.replaced e.fastletPodUID

/-- When a reset is accepted, the runtime of the assignment at its request was found gone and is
not assigned any more, and every Create that is sent later has a larger generation. -/
def ResetSound (trace : List Record) : Prop :=
  ∀ later r earlier, trace = later ++ r :: earlier → ∀ uid t, r.Accepts uid t →
    ∀ q ∈ earlier, ∀ e, q.Requests uid t e →
      FoundGone earlier uid e ∧ (∀ a ∈ r.after, a.assignment ≠ some e) ∧
        ∀ c ∈ later, ∀ request, c.op = .ask (.send (.create request)) →
          request.identity.sandboxUID = uid →
            e.instanceGeneration < request.identity.instanceGeneration

/-! ## What a reset relies on -/

/-- Every revision in `o` is in `o'`, or a later one. -/
def Covers (o o' : Option Time) : Prop := ∀ t ∈ o, ∃ t' ∈ o', t ≤ t'

instance (o o' : Option Time) : Decidable (Covers o o') := inferInstanceAs (Decidable (∀ t ∈ o, _))

/-- An assignment is given up for this cause once its runtime was found gone. -/
def Cause.confirmed : Cause → Bool
  | .expiration | .reset | .release => true
  | .podLost | .paused => false

/-- A reset is accepted while annotation and Fastlet are those of the version it was decided from,
which shows its annotation in the status, and not after a later one. While it is pending, no
assignment moves, an annotation goes only after its runtime was found gone, while the status shows
it and the object is the one that was seen, and a status is cleared only for a cause that makes room
for a new instance. No request is taken back, no Create is sent for an assignment that is gone, and
no Pod is found that is about to go. -/
def ResetOrdered {ν χ : Type} (E : Environment ν χ) (s : Cluster ν) (i : ℕ) :
    Op → Decision χ → Prop
  | .modify _ (.reset seen) _, _ => ∀ sb ∈ s.object,
      (∀ e ∈ seen.assignment, seen.status.projects e) ∧ sb.assignment = seen.assignment ∧
      sb.status.placement.fastletName = seen.status.placement.fastletName ∧
      Covers sb.status.runtime.acceptedResetRevision seen.spec.resetRevision
  | .modify _ (.advance ..) _, _ => ∀ sb ∈ s.object, sb.resetPending = false
  | .modify _ (.remove cause e) _, _ => ∀ sb ∈ s.object, sb.resetPending →
      cause.confirmed ∧ sb.status.projects e ∧
        ∀ entry ∈ s.past i, ∀ v ∈ shown entry.1 entry.2, v.uid = sb.uid
  | .patch cause _ _, _ => ∀ sb ∈ s.object, sb.resetPending → cause.renews
  | .edit spec, _ => ∀ sb ∈ s.object, Covers sb.spec.resetRevision spec.resetRevision
  | .ask (.send (.create request)), _ =>
      ∃ sb ∈ s.object, ∃ e ∈ sb.assignment, request.identity = e.identity sb.uid
  | .ask (.getPod name), .world c =>
      ∀ out ∈ E.step s.env (.getPod name) c, PodLookup.terminating out.2 = false
  | _, _ => True

def Unhurried {ν χ : Type} (E : Environment ν χ) (s : Cluster ν) (i : ℕ) (op : Op)
    (d : Decision χ) : Prop := Disciplined s op ∧ ResetOrdered E s i op d

instance {ν χ : Type} (E : Environment ν χ) (s : Cluster ν) (i : ℕ) (op : Op) (d : Decision χ) :
    Decidable (ResetOrdered E s i op d) := by
  unfold ResetOrdered
  rcases op with ⟨⟩
  case modify k _ => rcases k with ⟨⟩ <;> infer_instance
  case ask q =>
    rcases q with ⟨⟩
    case send r => rcases r with ⟨⟩ <;> infer_instance
    case getPod => rcases d with ⟨⟩ <;> infer_instance
    all_goals infer_instance
  all_goals infer_instance

instance {ν χ : Type} (E : Environment ν χ) (s : Cluster ν) (i : ℕ) (op : Op) (d : Decision χ) :
    Decidable (Unhurried E s i op d) := inferInstanceAs (Decidable (_ ∧ _))

/-! ## From a request to its acceptance -/

/-- The object has gone beyond the assignment: it has a later one, or none and a status that is
cleared only for a new generation. -/
structure Sandbox.Beyond (sb : Sandbox) (e : AssignmentEnvelope) : Prop where
  assigned : ∀ e', sb.assignment = some e' → e.fence < e'.fence
  cleared : sb.assignment = none → e.fence ≤ sb.status.fence
  renewed : sb.assignment = none → sb.status.placement.fastletName = "" →
    e.instanceGeneration < sb.status.runtime.generation

/-- While the reset is pending, the assignment is still there, or was found gone. -/
def Awaiting (trace : List Record) (sb : Sandbox) (e : AssignmentEnvelope) : Prop :=
  sb.assignment = some e ∨ FoundGone trace sb.uid e ∧ sb.Beyond e

theorem resetPending_of_later {sb : Sandbox} {t : Time} (hs : ∃ t' ∈ sb.spec.resetRevision, t ≤ t')
    (ha : sb.status.runtime.acceptedResetRevision.all (· < t)) : sb.resetPending := by
  obtain ⟨t', ht', hle⟩ := hs
  unfold Sandbox.resetPending
  rw [show sb.spec.resetRevision = some t' from ht']
  cases h : sb.status.runtime.acceptedResetRevision with
  | none => rfl
  | some =>
    rw [h] at ha
    exact decide_eq_true (lt_of_lt_of_le (of_decide_eq_true ha) hle)

variable {e : AssignmentEnvelope}

theorem fence_of_projects {st : SandboxStatus} (h : st.projects e) :
    st.fence = e.fence ∧ st.placement.fastletName ≠ "" := by
  unfold SandboxStatus.projects at h
  simp only [Bool.and_eq_true, decide_eq_true_eq] at h
  obtain ⟨⟨⟨⟨hn, -⟩, ha⟩, hg⟩, -⟩ := h
  refine ⟨?_, ?_⟩
  · unfold SandboxStatus.fence AssignmentEnvelope.fence
    rw [hg, ha]
  · rw [hn]
    exact e.fastletName_ne

theorem Sandbox.Beyond.of_same {sb sb' : Sandbox} (h : sb.Beyond e)
    (ha : sb'.assignment = sb.assignment)
    (hm : sb'.status.placement.fastletName = sb.status.placement.fastletName)
    (ht : sb'.status.placement.attempt = sb.status.placement.attempt)
    (hg : sb.status.runtime.generation ≤ sb'.status.runtime.generation) : sb'.Beyond e where
  assigned := by
    rw [ha]
    exact h.assigned
  cleared := by
    rw [ha]
    exact fun hn => (h.cleared hn).trans (toLex_le_of_le hg ht.ge)
  renewed := by
    rw [ha, hm]
    exact fun hn hl => (h.renewed hn hl).trans_le hg

section Step

variable {ν χ : Type} {E : Environment ν χ} {s s' : Cluster ν} {i : ℕ} {op : Op} {d : Decision χ}
  {sb sb' : Sandbox} {e : AssignmentEnvelope}

theorem Sandbox.Beyond.effect (h : sb.Beyond e) (hwf : op.WellFormed) (hG : Unhurried E s i op d)
    (hob : s.object = some sb) (ha : s.Assigned sb.uid) (hp : sb.resetPending)
    (hef : op.Effect sb sb') : sb'.Beyond e := by
  have hm : sb ∈ s.object := hob
  obtain ⟨hd, ho⟩ := hG
  have hq : op.assigns = false → op.places = false → sb'.Beyond e := fun h1 h2 =>
    have hsm := hef.samePlacement h2
    h.of_same (hef.assignment_eq h1) hsm.fastletName hsm.attempt hsm.generation.ge
  cases op with
  | modify cached kind =>
    cases kind with
    | assign read e' =>
      obtain ⟨-, hn, rfl⟩ := hef
      refine ⟨fun e'' he'' => ?_, fun hn' => (nomatch hn'), fun hn' => (nomatch hn')⟩
      cases he''
      exact (h.cleared hn).trans_lt (seed_lt hwf hd hob hn ha)
    | advance expected next =>
      rw [show sb.resetPending = false from ho sb hm] at hp
      cases hp
    | remove cause e' =>
      obtain ⟨hs, rfl⟩ := hef
      obtain ⟨-, hj, -⟩ := ho sb hm hp
      obtain ⟨hf, hnm⟩ := fence_of_projects hj
      refine ⟨fun e'' he'' => (nomatch he''), fun _ => ?_, fun _ hl => absurd hl hnm⟩
      exact ((h.assigned e' hs).trans_eq hf.symm).le
    | project =>
      obtain ⟨e', hs, rfl⟩ := hef
      have hnot : ¬ ({ sb with status := sb.status.project e' } : Sandbox).assignment = none := by
        intro hn
        rw [show sb.assignment = none from hn] at hs
        cases hs
      exact ⟨h.assigned, fun hn => absurd hn hnot, fun hn => absurd hn hnot⟩
    | reset seen =>
      have hu : sb.Mutated (resetAccepted seen) sb' := hef
      refine h.of_same hu.assignment ?_ ?_ ?_
      · rw [hu.placement]
        rfl
      · rw [hu.placement]
        rfl
      · rw [hu.runtime]
        exact le_max_left _ _
    | _ => exact hq rfl rfl
  | patch cause read =>
    cases hef
    obtain ⟨hn, hnm, envelope, rfl⟩ := hwf
    obtain rfl : sb = read := hd sb hm
    rw [show cause.renews = true from ho sb hm hp]
    have hg := sb.status.lt_clearing envelope
    have hf := sb.status.clear_self_fence (sb.status.clearing envelope true)
    obtain ⟨hle, ha⟩ := sb.status.le_clearing envelope true
    refine ⟨fun e' he' => ?_, fun _ => ?_, fun _ _ => ?_⟩
    · rw [show sb.assignment = some e' from he'] at hn
      cases hn
    · rw [hf]
      exact (h.cleared hn).trans (toLex_le_of_le hle ha)
    have hnew : (sb.status.clear sb.status (sb.status.clearing envelope true)).runtime.generation =
        (sb.status.clearing envelope true).generation := if_neg (Ne.symm hg.ne)
    rw [hnew]
    exact ((Prod.Lex.monotone_fst _ _ (h.cleared hn))).trans_lt hg
  | _ => exact hq rfl rfl

theorem covers_all {o o' : Option Time} (h : Covers o o') {t : Time}
    (ha : o'.all (· < t)) : o.all (· < t) := by
  cases o with
  | none => rfl
  | some t1 =>
    obtain ⟨t2, ht2, hle⟩ := h t1 rfl
    rw [show o' = some t2 from ht2] at ha
    exact decide_eq_true (lt_of_le_of_lt hle (of_decide_eq_true ha))

variable (hj : Justified (s.past i) op) (hG : Unhurried E s i op d) (hob : s.object = some sb)
  (hef : op.Effect sb sb')

section

include hj hG hob hef

theorem accepted_of_effect :
    sb'.status.runtime.acceptedResetRevision = sb.status.runtime.acceptedResetRevision ∨
      sb.assignment = none ∧ sb.status.placement.fastletName = "" ∧
        Covers sb.status.runtime.acceptedResetRevision
          sb'.status.runtime.acceptedResetRevision ∧ sb'.assignment = none ∧
        sb.status.runtime.generation ≤ sb'.status.runtime.generation := by
  have he : sb ∈ s.object := hob
  cases op with
  | modify cached kind =>
    cases kind with
    | reset seen =>
      right
      have hu : sb.Mutated (resetAccepted seen) sb' := hef
      obtain ⟨hp, ha, hf, hc⟩ := hG.2 sb he
      have hm : seen.status.placement.fastletName = "" := hj.2
      have hn : seen.assignment = none :=
        Option.eq_none_iff_forall_not_mem.mpr fun e he => (fence_of_projects (hp e he)).2 hm
      rw [hm] at hf
      rw [hn] at ha
      refine ⟨ha, hf, ?_, hu.assignment.trans ha, ?_⟩
      · rw [hu.runtime]
        exact hc
      · rw [hu.runtime]
        exact le_max_left _ _
    | project =>
      obtain ⟨e, -, rfl⟩ := hef
      exact .inl rfl
    | _ => exact .inl (hef.samePlacement rfl).accepted
  | patch =>
    cases hef
    exact .inl rfl
  | _ => exact .inl (hef.samePlacement rfl).accepted

theorem accepted_all_of_effect {t : Time}
    (ha : sb'.status.runtime.acceptedResetRevision.all (· < t)) :
    sb.status.runtime.acceptedResetRevision.all (· < t) := by
  rcases accepted_of_effect hj hG hob hef with hs | ⟨-, -, hc, -⟩
  · rw [← hs]
    exact ha
  · exact covers_all hc ha

end

include hG hob hef in
theorem requested_of_effect {t : Time} (h : ∃ t' ∈ sb.spec.resetRevision, t ≤ t') :
    ∃ t' ∈ sb'.spec.resetRevision, t ≤ t' := by
  have he : sb ∈ s.object := hob
  cases op with
  | modify =>
    rw [WriteKind.Effect.frame hef]
    exact h
  | patch =>
    cases hef
    exact h
  | delete =>
    obtain ⟨-, -, rfl⟩ := hef
    exact h
  | edit =>
    cases hef
    obtain ⟨t', ht', hle⟩ := h
    obtain ⟨t'', ht'', hle'⟩ := hG.2 sb he t' ht'
    exact ⟨t'', ht'', hle.trans hle'⟩
  | get | create | ask | dequeue | answer => exact hef.elim

end Step

/-! ## Evidence -/

def seesTerminating : (Σ op, Ans op) → Bool
  | ⟨.ask (.getPod _), x⟩ => PodLookup.terminating x
  | _ => false

section

variable {trace : List Record} {uid : String} {e : AssignmentEnvelope}

theorem pastOf_suffix (r : Record) (trace : List Record) (j : ℕ) :
    pastOf trace j <:+ pastOf (r :: trace) j := by
  unfold pastOf
  rw [filter_cons]
  split_ifs
  · rw [map_cons]
    exact suffix_cons _ _
  · exact suffix_refl _

theorem FoundGone.cons (h : FoundGone trace uid e) (r : Record) : FoundGone (r :: trace) uid e := by
  obtain ⟨j, h⟩ := h
  refine ⟨j, h.imp (·.mono (pastOf_suffix r trace j)) ?_⟩
  exact fun ⟨x, hx, he⟩ => ⟨x, (pastOf_suffix r trace j).subset hx, he⟩

theorem replaced_of_lost {x : PodLookup} (h : x.lost uid) (hd : x.terminating = false) :
    x.replaced uid := by
  cases x with
  | absent => rfl
  | failed => cases h
  | found pod =>
    have ho : (decide (pod.uid ≠ uid) || pod.deleting) := h
    rw [show pod.deleting = false from hd, Bool.or_false] at ho
    exact ho

/-- **Grounds are evidence**, as long as no Pod is found that is about to go. -/
theorem foundGone_of_grounds {ν : Type} {s : Cluster ν} {i : ℕ} {cause : Cause} {seen : Sandbox}
    (hd : ∀ r ∈ s.trace, seesTerminating r.entry = false) (ha : cause.confirmed)
    (h : cause.Grounds (s.past i) seen e) : FoundGone s.trace seen.uid e := by
  have hg : GoneFor (s.past i) seen e := by
    cases cause with
    | expiration | reset | release => exact h
    | podLost | paused => cases ha
  rcases hg with ho | ⟨-, x, hx, hl⟩
  · exact ⟨i, .inl ho⟩
  refine ⟨i, .inr ⟨x, hx, replaced_of_lost hl ?_⟩⟩
  obtain ⟨r, hr, -, heq⟩ := Cluster.mem_past.mp hx
  have hs := hd r hr
  rw [heq] at hs
  exact hs

/-- An accepted request. -/
def Superseded (trace : List Record) (uid : String) (e : AssignmentEnvelope) : Prop :=
  ∃ later r earlier t q, trace = later ++ r :: earlier ∧ r.Accepts uid t ∧ q ∈ earlier ∧
    q.Requests uid t e

theorem superseded_cons {r : Record} (h : Superseded (r :: trace) uid e) :
    Superseded trace uid e ∨ ∃ t, r.Accepts uid t ∧ ∃ q ∈ trace, q.Requests uid t e := by
  obtain ⟨later, r', earlier, t, q, heq, ha, hq, hr⟩ := h
  cases later with
  | nil =>
    cases heq
    exact .inr ⟨t, ha, q, hq, hr⟩
  | cons c later =>
    obtain ⟨-, rfl⟩ := List.cons.inj heq
    exact .inl ⟨later, r', earlier, t, q, rfl, ha, hq, hr⟩

theorem Superseded.requested (h : Superseded trace uid e) :
    ∃ q ∈ trace, ∃ t, q.Requests uid t e := by
  obtain ⟨_, r, _, t, q, rfl, -, hq, hr⟩ := h
  exact ⟨q, mem_append_right _ (mem_cons_of_mem _ hq), t, hr⟩

theorem ResetSound.cons {r : Record} (h : ResetSound trace)
    (hac : ∀ uid t, r.Accepts uid t → ∀ q ∈ trace, ∀ e, q.Requests uid t e →
      FoundGone trace uid e ∧ ∀ a ∈ r.after, a.assignment ≠ some e)
    (he : ∀ request, r.op = .ask (.send (.create request)) → ∀ e,
      Superseded trace request.identity.sandboxUID e →
        e.instanceGeneration < request.identity.instanceGeneration) : ResetSound (r :: trace) := by
  intro later r' earlier heq uid t ha' q hq e hr
  cases later with
  | nil =>
    cases heq
    obtain ⟨hg, hnot⟩ := hac uid t ha' q hq e hr
    exact ⟨hg, hnot, fun _ hc => nomatch hc⟩
  | cons c later =>
    obtain ⟨rfl, rfl⟩ := List.cons.inj heq
    obtain ⟨hg, hnot, hl⟩ := h later r' earlier rfl uid t ha' q hq e hr
    refine ⟨hg, hnot, fun c' hc' request ho hu => ?_⟩
    rcases mem_cons.mp hc' with rfl | hc'
    · refine he request ho e ?_
      rw [hu]
      exact ⟨later, r', earlier, t, q, rfl, ha', hq, hr⟩
    · exact hl c' hc' request ho hu

end

/-! ## Runs -/

section Runs

variable {ν χ : Type} {E : Environment ν χ} {s s' : Cluster ν} {i : ℕ} {op : Op} {d : Decision χ}
  {sb sb' : Sandbox}

structure Resetting (s : Cluster ν) : Prop where
  sound : ResetSound s.trace
  steady : ∀ r ∈ s.trace, seesTerminating r.entry = false
  known : ∀ sb ∈ s.object, sb ∈ s.versions
  recorded : ∀ r ∈ s.trace, ∀ a ∈ r.after, a ∈ s.versions
  pending : ∀ q ∈ s.trace, ∀ uid t e, q.Requests uid t e → ∀ sb ∈ s.object, sb.uid = uid →
    sb.status.runtime.acceptedResetRevision.all (· < t) →
      (∃ t' ∈ sb.spec.resetRevision, t ≤ t') ∧ Awaiting s.trace sb e
  renewed : ∀ uid e, Superseded s.trace uid e → ∀ sb ∈ s.object, sb.uid = uid →
    e.instanceGeneration < (ofLex sb.fence).1

variable {e : AssignmentEnvelope}

theorem Resetting.assigned (hJ : Resetting s) {q : Record} (hq : q ∈ s.trace) {uid : String}
    {t : Time} (hr : q.Requests uid t e) : s.Assigned uid := by
  obtain ⟨⟨a, ha, hu, -, he⟩, -⟩ := hr
  exact ⟨a, hJ.recorded q hq a ha, hu, by simp [he]⟩

theorem awaiting_of_effect (hJ : Resetting s) (hwf : op.WellFormed)
    (hj : Justified (s.past i) op) (hG : Unhurried E s i op d)
    (hob : s.object = some sb) (hk : s.Assigned sb.uid) (hp : sb.resetPending)
    (hef : op.Effect sb sb') (h : Awaiting s.trace sb e) : Awaiting s.trace sb' e := by
  have hm : sb ∈ s.object := hob
  have hi : sb'.uid = sb.uid := hef.keeps.1
  rcases h with ha | ⟨hg, hb⟩
  · have hq : op.assigns = false → Awaiting s.trace sb' e :=
      fun hop => .inl ((hef.assignment_eq hop).trans ha)
    cases op with
    | modify cached kind =>
      cases kind with
      | assign =>
        obtain ⟨-, hn, -⟩ := hef
        rw [ha] at hn
        cases hn
      | advance expected next =>
        rw [show sb.resetPending = false from hG.2 sb hm] at hp
        cases hp
      | remove cause e' =>
        right
        obtain ⟨hs, rfl⟩ := hef
        rw [ha] at hs
        cases hs
        obtain ⟨hu, hpj, hsm⟩ := hG.2 sb hm hp
        obtain ⟨seen, ⟨entry, hen, hsn⟩, -, ho⟩ := hj
        obtain ⟨hf, hnm⟩ := fence_of_projects hpj
        refine ⟨?_, ⟨fun e' he' => (nomatch he'), fun _ => hf.ge, fun _ hl => absurd hl hnm⟩⟩
        rw [← hsm entry hen seen hsn]
        exact foundGone_of_grounds hJ.steady hu ho
      | _ => exact hq rfl
    | _ => exact hq rfl
  · refine .inr ⟨?_, hb.effect hwf hG hob hk hp hef⟩
    rw [hi]
    exact hg

theorem Awaiting.cons {trace : List Record} (h : Awaiting trace sb e) (r : Record) :
    Awaiting (r :: trace) sb e :=
  h.imp id fun ⟨hg, hb⟩ => ⟨hg.cons r, hb⟩

theorem Awaiting.stored {trace : List Record} (h : Awaiting trace sb e) :
    Awaiting trace (s.stored sb) e :=
  h.imp id fun ⟨hg, hb⟩ => ⟨hg, hb.assigned, hb.cleared, hb.renewed⟩

variable {x : Ans op} {uid : String}

theorem accepts_write (hwf : op.WellFormed) (hch : Change s op s') {t : Time}
    (h : Record.Accepts ⟨i, op, x, s.object, s'.object⟩ uid t) :
    ∃ sb sb', s.object = some sb ∧ s'.object = some (s.stored sb') ∧ op.Effect sb sb' ∧
      sb.uid = uid ∧ sb'.status.runtime.acceptedResetRevision = some t ∧
      sb.status.runtime.acceptedResetRevision.all (· < t) := by
  obtain ⟨b, hb, a, ha, hbd, -, hd, hl⟩ := h
  have hb' : s.object = some b := hb
  rcases hch.object_cases hwf ha with hs | ⟨_, sb', hob, hef, rfl⟩ | ⟨hn, -⟩
  · rw [hs] at hb'
    cases hb'
    rw [hd] at hl
    exact absurd (of_decide_eq_true hl) (lt_irrefl t)
  · rw [hob] at hb'
    cases hb'
    exact ⟨b, sb', hob, ha, hef, hbd, hd, hl⟩
  · rw [hn] at hb'
    cases hb'

section

variable (hJ : Resetting s) (hwf : op.WellFormed) (hG : Unhurried E s i op d) (hch : Change s op s')
include hJ hwf hG hch

section

variable (hj : Justified (s.past i) op)
include hj

/-- **An accepted reset** has left nothing of the assignment it was requested for. -/
theorem accepts_renewed {t : Time}
    (h : Record.Accepts ⟨i, op, x, s.object, s'.object⟩ uid t) {q : Record} (hq : q ∈ s.trace)
    (hr : q.Requests uid t e) : FoundGone s.trace uid e ∧ ∀ a ∈ s'.object, a.assignment = none ∧
      e.instanceGeneration < a.status.runtime.generation := by
  obtain ⟨sb, _, hob, ho', hef, hu, hd, hl⟩ := accepts_write hwf hch h
  have hw := (hJ.pending q hq uid t e hr sb hob hu hl).2
  rcases accepted_of_effect hj hG hob hef with hsm | ⟨hn, hm, -, hn', hg⟩
  · rw [← hsm, hd] at hl
    exact absurd (of_decide_eq_true hl) (lt_irrefl t)
  rcases hw with hs | ⟨hgn, hb⟩
  · rw [hs] at hn
    cases hn
  refine ⟨hu ▸ hgn, fun a ha => ?_⟩
  rw [ho'] at ha
  cases ha
  exact ⟨hn', (hb.renewed hn hm).trans_le hg⟩

theorem pending_of_change {q : Record} (hq : q ∈ s.trace) {t : Time}
    (hr : q.Requests uid t e) (hb : s'.object = some sb) (hi : sb.uid = uid)
    (hl : sb.status.runtime.acceptedResetRevision.all (· < t)) :
    (∃ t' ∈ sb.spec.resetRevision, t ≤ t') ∧
      Awaiting (⟨i, op, x, s.object, s'.object⟩ :: s.trace) sb e := by
  rcases hch.object_cases hwf hb with hm | ⟨sb0, _, hob, hef, rfl⟩ | ⟨-, hf⟩
  · obtain ⟨hs, hw⟩ := hJ.pending q hq uid t e hr sb hm hi hl
    exact ⟨hs, hw.cons _⟩
  · have hu0 : sb0.uid = uid := hef.keeps.1.symm.trans hi
    have hl0 := accepted_all_of_effect hj hG hob hef hl
    have hk := hJ.assigned hq hr
    rw [← hu0] at hk
    obtain ⟨hs, hw⟩ := hJ.pending q hq uid t e hr sb0 hob hu0 hl0
    have hp := resetPending_of_later hs hl0
    exact ⟨requested_of_effect hG hob hef hs,
      (awaiting_of_effect hJ hwf hj hG hob hk hp hef hw).stored.cons _⟩
  · obtain ⟨v, hv, hvd, -⟩ := hJ.assigned hq hr
    exact absurd (hvd.trans hi.symm) (hf v hv)

end

theorem renewed_of_change (h : Superseded s.trace uid e) (hs : s'.object = some sb)
    (hu : sb.uid = uid) : e.instanceGeneration < (ofLex sb.fence).1 := by
  obtain ⟨q, hq, t, hrq⟩ := h.requested
  have hk := hJ.assigned hq hrq
  rcases hch.object_cases hwf hs with hm | ⟨sb0, _, hob, hef, rfl⟩ | ⟨-, hf⟩
  · exact hJ.renewed uid e h sb hm hu
  · have hu0 : sb0.uid = uid := hef.keeps.1.symm.trans hu
    rw [← hu0] at hk
    have hold := hJ.renewed uid e h sb0 hob hu0
    exact hold.trans_le (Prod.Lex.monotone_fst _ _ (rises_of_effect hwf hG.1 hob hk hef).fence)
  · obtain ⟨v, hv, hvd, -⟩ := hk
    exact absurd (hvd.trans hu.symm) (hf v hv)

end

theorem steady_handle (hG : Unhurried E s i op d) (h : Cluster.handle E s i op d = some (s', x)) :
    seesTerminating ⟨op, x⟩ = false := by
  cases op with
  | ask q =>
    cases q with
    | getPod name =>
      obtain ⟨c, env, rfl, hs⟩ := Cluster.handle_ask h
      exact hG.2 (env, x) hs
    | _ => rfl
  | _ => rfl

theorem resetting_handle (hJ : Resetting s) (hwf : op.WellFormed)
    (hj : Justified (s.past i) op) (hG : Unhurried E s i op d)
    (h : Cluster.handle E s i op d = some (s', x)) : Resetting s' := by
  obtain ⟨hch, ht⟩ := handle_change h
  have hk := hch.known hJ.known
  refine ⟨?_, ?_, hk, ?_, ?_, ?_⟩
  · rw [ht]
    refine hJ.sound.cons (fun uid t hc q hq e hrq => ?_) fun request ho e hu => ?_
    · obtain ⟨hg, hf⟩ := accepts_renewed hJ hwf hG hch hj hc hq hrq
      refine ⟨hg, fun a ha has => ?_⟩
      rw [(hf a ha).1] at has
      cases has
    · cases ho
      obtain ⟨sb, hs, _, he', hd⟩ := hG.2
      rw [hd] at hu ⊢
      have hlt := hJ.renewed _ e hu sb hs rfl
      rw [Sandbox.fence_of_some he'] at hlt
      exact hlt
  · rw [ht]
    exact forall_mem_cons.mpr ⟨steady_handle hG h, hJ.steady⟩
  · rw [ht]
    exact forall_mem_cons.mpr ⟨hk, fun r hr a ha => hch.versions_subset (hJ.recorded r hr a ha)⟩
  · rw [ht]
    intro q hq uid t e hrq sb hs hi hl
    rcases mem_cons.mp hq with rfl | hq
    · obtain ⟨⟨a, ha, -, hre, has⟩, -⟩ := hrq
      have ha' : s'.object = some a := ha
      rw [ha'] at hs
      cases hs
      exact ⟨⟨t, hre, le_refl t⟩, .inl has⟩
    · exact pending_of_change hJ hwf hG hch hj hq hrq hs hi hl
  · rw [ht]
    intro uid e hu sb hs hi
    rcases superseded_cons hu with hu | ⟨t, hc, q, hq, hrq⟩
    · exact renewed_of_change hJ hwf hG hch hu hs hi
    · obtain ⟨hn, hlt⟩ := (accepts_renewed hJ hwf hG hch hj hc hq hrq).2 sb hs
      rw [Sandbox.fence_of_none hn]
      exact hlt

/-- **Resets are sound.** In every run that is ordered as above, whenever a reset is accepted, the
runtime of the assignment at its request was found gone, that assignment is not in the annotation,
and every Create sent later has a larger instance generation. -/
theorem accepted_reset_sound (digest : String → String) (E : Environment ν χ) (env : ν)
    {w : World (Shared (Cluster ν)) (Task Actor Op Ans)}
    (h : (system digest E).Reaches (Meets (Unhurried E)) (start env) w) :
    ResetSound w.shared.state.trace := by
  have hs : Resetting ({ env } : Cluster ν) :=
    { sound := fun _ r _ heq => by simp at heq
      steady := fun _ hr => nomatch hr
      known := fun _ h => nomatch h
      recorded := fun _ hr => nomatch hr
      pending := fun _ hq => nomatch hq
      renewed := fun _ _ _ _ h => nomatch h }
  have hi : Resetting w.shared.state :=
    invariant_of_reaches digest
      (fun hJ _ hwf hj hG hh => resetting_handle hJ hwf hj hG hh)
      (fun _ hJ => ⟨hJ.sound, hJ.steady, hJ.known, hJ.recorded, hJ.pending, hJ.renewed⟩) hs h
  exact hi.sound

end Runs

section

/-- The assignment is projected when the reset is asked for. -/
theorem projected_reset_sound : ∃ w : World (Shared (Cluster Unit)) (Task Actor Op Ans),
      sentCreates w.shared.state.trace = [renewedRequest] ∧ ResetSound w.shared.state.trace := by
  obtain ⟨w, h, ht⟩ := System.exists_reaches_of_runMeeting (S := system id anyWorld)
    (G := Meets (Unhurried anyWorld)) (w := start ())
    (creation [fastletA] ++ [crash 0] ++ projection ++ resetRequest ++ resetRun ++
      [told 0 (.send (.create renewedRequest)) ()])
    (fun w => decide (sentCreates w.shared.state.trace = [renewedRequest])) (by decide)
  exact ⟨w, of_decide_eq_true ht, accepted_reset_sound id anyWorld () h⟩

def firstAssignment : AssignmentEnvelope where
  fastletName := "fastlet-a"
  fastletPodUID := "pod-a"
  attempt := 1
  instanceGeneration := 1
  routeGeneration := 1
  runtimeInstanceID := "id-1"
  runtimeProfileHash := "runtime"
  resourceProfileHash := "resource"
  infraRevision := "infra"
  fastletName_ne := by decide
  fastletPodUID_ne := by decide
  one_le_attempt := by decide
  one_le_instanceGeneration := by decide
  one_le_routeGeneration := by decide
  runtimeInstanceID_ne := by decide
  runtimeProfileHash_ne := by decide
  resourceProfileHash_ne := by decide
  infraRevision_ne := by decide

/-- The assignment is not projected yet, and the reset is accepted with the annotation in place. -/
theorem unprojected_reset_unsound : ¬ ∀ w : World (Shared (Cluster Unit)) (Task Actor Op Ans),
      (system id anyWorld).Reaches System.anyStep (start ()) w →
        ResetSound w.shared.state.trace := by
  intro ho
  obtain ⟨w, he, ht⟩ := System.exists_reaches_of_run (S := system id anyWorld)
    (w := start ())
    (creation [fastletA] ++ [crash 0] ++ resetRequest ++
      [.spawn .reconcile, goOn 0, goOn 0, goOn 0, told 0 .now (0 : ℕ), goOn 0])
    (fun w => decide (∃ r ∈ w.shared.state.trace.head?, r.Accepts "uid-1" 5 ∧
      (∃ q ∈ w.shared.state.trace.tail, q.Requests "uid-1" 5 firstAssignment) ∧
      ∃ a ∈ r.after, a.assignment = some firstAssignment)) (by decide)
  obtain ⟨r, hl, hc, ⟨q, hq, hr⟩, a, ha, hs⟩ := of_decide_eq_true ht
  have h := ho w he [] r _ (List.eq_cons_of_mem_head? hl) "uid-1" 5 hc q hq firstAssignment hr
  exact h.2.1 a ha hs

end

end FastSandbox.ControlPlane
