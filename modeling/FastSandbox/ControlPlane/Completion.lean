import FastSandbox.ControlPlane.AssignmentOrder

/-!
# Deletion, expiration and reset come to an end

A reconcile that is not disturbed, while every call succeeds and the Fastlet no longer knows the
runtime. What it finds in the annotation and the status decides whether it gets through: a status
that still names a Fastlet, without an annotation, stops it for good.
-/

namespace FastSandbox.ControlPlane

open Interleaving Threads Cluster SandboxStatus

/-! ## An undisturbed run -/

/-- A world whose answers are fixed. -/
def scripted (answers : (q : Ask) → q.Ans) : Environment Unit Unit where
  step _ q _ := some ((), answers q)

/-- Every operation is served from the current version. -/
def undisturbed : Op → Decision Unit
  | .ask _ => .world ()
  | _ => .current

/-- The API server holds one version of the object. -/
def holding (sb : Sandbox) : Cluster Unit :=
  { object := some sb, versions := [sb], revision := sb.resourceVersion, env := () }

/-- Run alone with these answers, the program ends with `Q`. -/
abbrev Alone {α : Type} (answers : (q : Ask) → q.Ans) (s : Cluster Unit) (p : Program α)
    (Q : Cluster Unit → α → Prop) : Prop :=
  (machine (scripted answers)).Ends undisturbed 0 s p Q

/-- Every call succeeds, and the Fastlet of the assignment, which is registered, answers an Inspect
with NotFound. -/
structure Smooth (answers : (q : Ask) → q.Ans) (assignment : Option AssignmentEnvelope)
    (now : Time) : Prop where
  now : answers .now = now
  registered : ∀ e, assignment = some e →
    ∃ c : Candidate, answers (.registered e.fastletName) = some c ∧ c.serves e
  deleted : ∀ id, answers (.awaitDelete id) = none
  notFound : ∀ id, ∃ disposition message, InspectReply.error (answers (.awaitInspect id)) =
    some (.fastlet disposition .notFound message)

variable {kind : WriteKind}

section

variable {answers : (q : Ask) → q.Ans} {s : Cluster Unit} {sb sb' : Sandbox}

theorem alone_perform {op : Op} {s1 : Cluster Unit} {x : Ans op} {Q : Cluster Unit → Ans op → Prop}
    (h : serve (scripted answers) s 0 op (undisturbed op) = some (s1, x))
    (hQ : ∀ s' : Cluster Unit, s'.object = s1.object → Q s' x) :
    Alone answers s (perform op) Q := by
  have hh : (machine (scripted answers)).handle s 0 op (undisturbed op) =
      some ({ s1 with trace := ⟨0, op, x, s.object, s1.object⟩ :: s.trace }, x) := by
    show (serve (scripted answers) s 0 op (undisturbed op)).map _ = _
    rw [h]
    rfl
  exact .perform hh (hQ _ rfl)

theorem alone_ask {q : Ask} {Q : Cluster Unit → q.Ans → Prop} (hf : s.fair q (answers q))
    (hQ : ∀ s' : Cluster Unit, s'.object = s.object → Q s' (answers q)) :
    Alone answers s (ask q) Q := by
  have hs : serve (scripted answers) s 0 (.ask q) (.world ()) =
      some ({ s with issued := s.issue q (answers q), env := () }, answers q) := by
    show (if s.fair q (answers q) then some _ else none) = _
    rw [if_pos hf]
  exact alone_perform hs hQ

section

variable (h : s.object = some sb)
include h

theorem alone_get {source : Source} {Q : Cluster Unit → Fetched → Prop}
    (hQ : ∀ s' : Cluster Unit, s'.object = some sb → Q s' (.found sb)) :
    Alone answers s (get source) Q := by
  have hv : serve (scripted answers) s 0 (.get source) .current = some (s, Fetched.found sb) := by
    show (some (s.object.elim Fetched.absent Fetched.found)).map _ = _
    rw [h]
    rfl
  exact alone_perform hv fun s' hs' => hQ s' (hs'.trans h)

variable {f : Sandbox → Verdict}

theorem apply_of_write (hf : f sb = .write sb') :
    s.apply f = s.store sb' ∧ s.outcome f = .written (s.stored sb') := by
  unfold apply outcome
  simp only [h, hf, and_self]

theorem apply_of_stop {r : Stop} (hf : f sb = .stop r) :
    s.apply f = s ∧ s.outcome f = .stopped r := by
  unfold apply outcome
  simp only [h, hf, and_self]

variable {Q : Cluster Unit → Modified → Prop}

theorem alone_modify {cached : Bool} (hf : f sb = .write sb')
    (hQ : ∀ s' : Cluster Unit, s'.object = (s.store sb').object → Q s' (.written (s.stored sb'))) :
    Alone answers s (modify cached kind f) Q := by
  have hs : serve (scripted answers) s 0 (.modify cached kind f) .current =
      some (s.store sb', Modified.written (s.stored sb')) := by
    obtain ⟨ha, ho⟩ := apply_of_write h hf
    rw [← ha, ← ho]
    rfl
  exact alone_perform hs hQ

theorem alone_modify_stop {cached : Bool} {r : Stop} (hf : f sb = .stop r)
    (hQ : ∀ s' : Cluster Unit, s'.object = some sb → Q s' (.stopped r)) :
    Alone answers s (modify cached kind f) Q := by
  have hv : serve (scripted answers) s 0 (.modify cached kind f) .current =
      some (s, Modified.stopped r) := by
    obtain ⟨ha, ho⟩ := apply_of_stop h hf
    show some (s.apply f, s.outcome f) = _
    rw [ha, ho]
  exact alone_perform hv fun s' hs' => hQ s' (hs'.trans h)

theorem alone_patch {cause : Cause} {read : Sandbox} {c : Clearing}
    (hQ : ∀ s' : Cluster Unit,
      s'.object = (s.store { sb with status := sb.status.clear read.status c }).object →
        Q s' (.written (s.stored { sb with status := sb.status.clear read.status c }))) :
    Alone answers s (patch cause read c) Q := by
  have hs : serve (scripted answers) s 0 (.patch cause read c) .current =
      some (s.store { sb with status := sb.status.clear read.status c },
        Modified.written (s.stored { sb with status := sb.status.clear read.status c })) := by
    obtain ⟨ha, ho⟩ := apply_of_write (f := patching read c) h rfl
    rw [← ha, ← ho]
    rfl
  exact alone_perform hs hQ

end

theorem store_object_of_finalizer (s : Cluster Unit) (sb : Sandbox) (h : sb.cleanupFinalizer) :
    (s.store sb).object = some (s.stored sb) := by
  rcases s.store_cases sb with ⟨ho, -⟩ | ⟨-, -, -, hn⟩
  · exact ho
  · rw [h] at hn
    cases hn

end

/-! ## The steps of a cleanup -/

/-- A later version of the object: the status of the assignment may have changed. -/
structure Sandbox.Continues (sb sb' : Sandbox) : Prop where
  uid : sb'.uid = sb.uid
  spec : sb'.spec = sb.spec
  deleting : sb'.deleting = sb.deleting
  finalizer : sb'.cleanupFinalizer = sb.cleanupFinalizer
  accepted : sb'.status.runtime.acceptedResetRevision = sb.status.runtime.acceptedResetRevision

theorem projects_project (st : SandboxStatus) (e : AssignmentEnvelope) :
    (st.project e).projects e := by
  unfold project projects
  simp

variable {e : AssignmentEnvelope}

theorem fastletName_of_projects {st : SandboxStatus} (h : st.projects e) :
    st.placement.fastletName ≠ "" := by
  unfold projects at h
  simp only [Bool.and_eq_true, decide_eq_true_eq] at h
  rw [h.1.1.1.1]
  exact e.fastletName_ne

variable {sb : Sandbox}

theorem effectiveAssignment_of_projects (hasg : sb.assignment = some e)
    (hpj : sb.status.projects e) : sb.effectiveAssignment = .ok (some e) := by
  unfold Sandbox.effectiveAssignment validateStatusProjection
  rw [hasg]
  dsimp only
  rw [if_pos (.inr hpj)]

section Steps

variable {answers : (q : Ask) → q.Ans} {s : Cluster Unit} {sb : Sandbox} {e : AssignmentEnvelope}
  {now : Time}

variable {purpose : Purpose}

theorem ensureRuntimeDeleted_of_none (hnn : sb.assignment = none)
    (hn : sb.status.placement.fastletName = "") :
    ensureRuntimeDeleted sb purpose = pure (.ok (true, sb)) := by
  unfold ensureRuntimeDeleted Sandbox.effectiveAssignment validateStatusProjection
  rw [hnn]
  rw [if_neg (not_not.mpr hn)]

theorem ensureRuntimeDeleted_of_half (hnn : sb.assignment = none)
    (hn : sb.status.placement.fastletName ≠ "") :
    ensureRuntimeDeleted sb purpose = pure (.error .annotationMissing) := by
  unfold ensureRuntimeDeleted Sandbox.effectiveAssignment validateStatusProjection
  rw [hnn]
  rw [if_pos hn]

variable (h : s.object = some sb)
include h

section

variable (hasg : sb.assignment = some e) (hpj : sb.status.projects e)
  (hsmooth : Smooth answers (some e) now)
include hasg hpj hsmooth

theorem alone_assignedTarget :
    Alone answers s (assignedTarget sb) fun s' r => r = .ok e ∧ s'.object = some sb := by
  obtain ⟨c, hc, he⟩ := hsmooth.registered e rfl
  unfold assignedTarget
  rw [effectiveAssignment_of_projects hasg hpj]
  refine .bind (alone_ask rfl fun s' hs' => ?_)
  rw [hc]
  dsimp only
  rw [if_pos he]
  exact .pure ⟨rfl, hs'.trans h⟩

theorem alone_ensureAssignedRuntimeDeleted :
    Alone answers s (ensureAssignedRuntimeDeleted sb purpose) fun s' r =>
      r = .ok true ∧ s'.object = some sb := by
  have hd : ∀ s : Cluster Unit, s.object = some sb →
      Alone answers s (deleteRuntime sb purpose) fun s' r => r = .ok () ∧ s'.object = some sb := by
    intro s h
    refine .bind ((alone_assignedTarget h hasg hpj hsmooth).mono ?_)
    rintro s1 _ ⟨rfl, h1⟩
    refine .bind (alone_ask rfl fun s2 h2 => .bind (alone_ask rfl fun s3 h3 => ?_))
    rw [hsmooth.deleted]
    exact .pure ⟨rfl, (h3.trans h2).trans h1⟩
  have hg : ∀ s : Cluster Unit, s.object = some sb →
      Alone answers s (runtimeGone sb) fun s' r => r = .ok true ∧ s'.object = some sb := by
    intro s h
    refine .bind (.bind ((alone_assignedTarget h hasg hpj hsmooth).mono ?_))
    rintro s1 _ ⟨rfl, h1⟩
    refine .bind (alone_ask rfl fun s2 h2 => .bind (alone_ask rfl fun s3 h3 => .pure ?_))
    obtain ⟨disposition, message, he⟩ := hsmooth.notFound (e.identity sb.uid)
    have hr : InspectReply.result (answers (.awaitInspect (e.identity sb.uid))) =
        .error (.fastlet disposition .notFound message) := by
      unfold InspectReply.result
      rw [he]
      rfl
    rw [hr]
    exact .pure ⟨rfl, (h3.trans h2).trans h1⟩
  refine .bind ((hd s h).mono ?_)
  rintro s1 _ ⟨rfl, h1⟩
  refine .bind ((hg s1 h1).mono ?_)
  rintro s2 _ ⟨rfl, h2⟩
  exact .pure ⟨rfl, h2⟩

end

variable (hfinalizer : sb.cleanupFinalizer)
include hfinalizer

theorem alone_patchStatus {mutate : SandboxStatus → SandboxStatus} :
    Alone answers s (patchStatus kind mutate) fun s' r => r = .ok () ∧ ∃ sb', s'.object = some sb' ∧
      sb'.assignment = sb.assignment ∧ sb'.spec = sb.spec ∧
      sb'.status.runtime = (mutate sb.status).runtime ∧
      sb'.status.placement.fastletName = (mutate sb.status).placement.fastletName := by
  cases hv : mutating mutate sb with
  | write sb' =>
    have hu := mutating_write hv
    have hf' : sb'.cleanupFinalizer := by
      rw [hu.eq]
      exact hfinalizer
    refine .bind (alone_modify h hv fun s' hs' => .pure ⟨rfl, ?_⟩)
    rw [store_object_of_finalizer s sb' hf'] at hs'
    refine ⟨_, hs', hu.assignment, ?_, hu.runtime,
      congrArg PlacementStatus.fastletName hu.placement⟩
    show sb'.spec = sb.spec
    rw [hu.eq]
  | stop =>
    have hm : sb.status.runtime = (mutate sb.status).runtime ∧
        sb.status.placement = (mutate sb.status).placement := by
      unfold mutating at hv
      dsimp only at hv
      split_ifs at hv with heq
      exact ⟨(congrArg runtime heq).symm, (congrArg placement heq).symm⟩
    exact .bind (alone_modify_stop h hv fun s' hs' =>
      .pure ⟨rfl, sb, hs', rfl, rfl, hm.1, congrArg _ hm.2⟩)

variable (hasg : sb.assignment = some e)
include hasg

theorem alone_projectAssignmentToStatus :
    Alone answers s (projectAssignmentToStatus true) fun s' r => ∃ sb', r = .ok sb' ∧
      s'.object = some sb' ∧ sb.Continues sb' ∧ sb'.assignment = some e ∧
      sb'.status.projects e := by
  by_cases hpj : sb.status.projects e
  · have ht : projecting sb = .stop (.found sb) := by
      unfold projecting
      rw [hasg]
      exact if_pos hpj
    refine .bind (alone_modify_stop h ht fun s' hs' => ?_)
    exact .pure ⟨sb, rfl, hs', ⟨rfl, rfl, rfl, rfl, rfl⟩, hasg, hpj⟩
  · have hw : projecting sb = .write { sb with status := sb.status.project e } := by
      unfold projecting
      rw [hasg]
      exact if_neg hpj
    refine .bind (alone_modify h hw fun s' hs' => ?_)
    rw [store_object_of_finalizer s { sb with status := sb.status.project e } hfinalizer] at hs'
    have ha' : (s.stored { sb with status := sb.status.project e }).assignment = some e := hasg
    have hp' : (s.stored { sb with status := sb.status.project e }).status.projects e =
        true := projects_project sb.status e
    refine .bind (.bind (alone_get hs' fun _ hs'' => .pure ?_))
    have he := effectiveAssignment_of_projects ha' hp'
    dsimp only
    rw [he]
    exact .pure ⟨_, rfl, hs'', ⟨rfl, rfl, rfl, rfl, rfl⟩, ha', hp'⟩

theorem alone_ensureRuntimeDeleted (hsmooth : Smooth answers (some e) now) :
    Alone answers s (ensureRuntimeDeleted sb purpose) fun s' r => ∃ sb', r = .ok (true, sb') ∧
      s'.object = some sb' ∧ sb.Continues sb' ∧ sb'.assignment = some e ∧
      sb'.status.projects e := by
  unfold ensureRuntimeDeleted
  rw [hasg]
  refine .bind ((alone_projectAssignmentToStatus h hfinalizer hasg).mono ?_)
  rintro _ _ ⟨sb1, rfl, h1, hc, ha1, hp1⟩
  dsimp only
  rw [if_neg (not_not.mpr hc.uid)]
  refine .bind ((alone_ensureAssignedRuntimeDeleted h1 ha1 hp1 hsmooth).mono ?_)
  rintro _ _ ⟨rfl, h2⟩
  exact .pure ⟨sb1, rfl, h2, hc, ha1, hp1⟩

theorem alone_clearAssignment {cause : Cause} {adv : Bool} (hpj : sb.status.projects e) :
    Alone answers s (clearAssignment sb cause adv) fun s' r => ∃ sb', r = .ok sb' ∧
      s'.object = some sb' ∧ sb.Continues sb' ∧ sb'.assignment = none ∧
      sb'.status.placement.fastletName = "" := by
  have hw : removing e sb = .write { sb with assignment := none } := by
    unfold removing
    rw [hasg]
    exact if_pos rfl
  unfold clearAssignment
  rw [hasg]
  refine .bind (.bind (alone_modify h hw fun _ h1 => ?_))
  rw [store_object_of_finalizer s { sb with assignment := none } hfinalizer] at h1
  refine .bind (.bind (alone_get h1 fun _ h2 => .pure (.pure ?_)))
  refine .bind (alone_get h2 fun s3 h3 => ?_)
  have hn : (s.stored { sb with assignment := none }).status.placement.fastletName ≠ "" :=
    fastletName_of_projects hpj
  dsimp only
  rw [if_neg (by exact Bool.false_ne_true), if_neg hn]
  refine .bind (alone_patch h3 fun _ h4 => .pure ?_)
  have h5 := h4.trans (store_object_of_finalizer s3 _ (by exact hfinalizer))
  exact ⟨_, rfl, h5, ⟨rfl, rfl, rfl, rfl, rfl⟩, rfl, if_neg hn⟩

end Steps

/-! ## Completion -/

/-- The object is being deleted, has a reset pending or has expired. A deleted object without its
finalizer would be gone. -/
structure Due (sb : Sandbox) (now : Time) : Prop where
  cause : sb.deleting ∨ sb.resetPending ∨ sb.expirationPending now
  kept : sb.deleting → sb.cleanupFinalizer

/-- What is due has been done: the object is gone, the reset accepted, or the runtime stopped and
its assignment cleared. -/
def Completed (sb : Sandbox) (s : Cluster Unit) : Prop :=
  if sb.deleting then s.object = none
  else ∃ sb', s.object = some sb' ∧
    if sb.resetPending then sb'.resetPending = false
    else sb'.status.runtime.state = .stopped ∧ sb'.assignment = none ∧
      sb'.status.placement.fastletName = ""

/-- `n + 1` reconciles, one after the other; the result is that of the last. -/
def reconciles (digest : String → String) : ℕ → Program Reconciled
  | 0 => reconcile digest
  | n + 1 => do
    let _ ← reconcile digest
    reconciles digest n

/-- The status names a Fastlet, and there is no annotation. -/
def HalfCleared (sb : Sandbox) : Prop := sb.assignment = none ∧ sb.status.placement.fastletName ≠ ""

/-- A half-cleared Sandbox with its finalizer is stuck: a reconcile that reads it does nothing and
returns an error. -/
theorem reconcileVersion_of_half (digest : String → String) {now : Time} (hu : Due sb now)
    (hfinalizer : sb.cleanupFinalizer) (hhalf : HalfCleared sb) :
    reconcileVersion digest sb now = pure (.error .annotationMissing) := by
  have hde : ∀ purpose, ensureRuntimeDeleted sb purpose = pure (.error .annotationMissing) :=
    fun _ => ensureRuntimeDeleted_of_half hhalf.1 hhalf.2
  have hn : (!sb.cleanupFinalizer) = false := by rw [hfinalizer]; rfl
  unfold reconcileVersion
  by_cases hd : sb.deleting
  · rw [if_pos hd]
    unfold reconcileDeletion
    rw [hn, hde]
    rfl
  · rw [if_neg hd, hn, if_neg Bool.false_ne_true]
    by_cases he : sb.resetPending
    · rw [if_pos he]
      unfold reconcileReset
      rw [if_neg hhalf.2, hde]
      rfl
    · rw [if_neg he, if_pos ((hu.cause.resolve_left hd).resolve_left he)]
      unfold reconcileExpiration
      rw [hde]
      rfl

section Completion

variable {answers : (q : Ask) → q.Ans} {s : Cluster Unit} {sb : Sandbox} {now : Time}

section Steps

variable (h : s.object = some sb) (hfinalizer : sb.cleanupFinalizer)

theorem resetPending_of_accepted
    (h : sb.status.runtime.acceptedResetRevision = sb.spec.resetRevision) :
    sb.resetPending = false := by
  unfold Sandbox.resetPending
  rw [h]
  cases sb.spec.resetRevision with
  | none => rfl
  | some revision => exact decide_eq_false (lt_irrefl revision)

include h hfinalizer

theorem alone_acceptReset :
    Alone answers s (patchStatus (.reset sb) (resetAccepted sb)) fun s' r => r = .ok () ∧
      ∃ sb', s'.object = some sb' ∧ sb'.resetPending = false := by
  refine (alone_patchStatus h hfinalizer).mono ?_
  rintro s' r ⟨rfl, sb', h', -, hs, hr, -⟩
  refine ⟨rfl, sb', h', resetPending_of_accepted ?_⟩
  rw [hr, hs]
  rfl

theorem alone_expire (hnn : sb.assignment = none) (hn : sb.status.placement.fastletName = "") :
    Alone answers s (patchStatus .expire (expired sb.generation)) fun s' r => r = .ok () ∧
      ∃ sb', s'.object = some sb' ∧ sb'.status.runtime.state = .stopped ∧ sb'.assignment = none ∧
        sb'.status.placement.fastletName = "" := by
  refine (alone_patchStatus h hfinalizer).mono ?_
  rintro s' r ⟨rfl, sb', h', hasg, -, hr, hl⟩
  refine ⟨rfl, sb', h', ?_, hasg.trans hnn, hl.trans hn⟩
  rw [hr]
  rfl

variable (hsmooth : Smooth answers sb.assignment now) (hhalf : ¬ HalfCleared sb)

include hsmooth hhalf

theorem alone_deleted {purpose : Purpose} :
    Alone answers s (ensureRuntimeDeleted sb purpose) fun s' r => ∃ sb', r = .ok (true, sb') ∧
      s'.object = some sb' ∧ sb.Continues sb' ∧ sb'.assignment = sb.assignment ∧
      (∀ e, sb'.assignment = some e → sb'.status.projects e) ∧
      (sb'.assignment = none → sb'.status.placement.fastletName = "") := by
  cases hasg : sb.assignment with
  | none =>
    have hn : sb.status.placement.fastletName = "" := by
      by_contra hne
      exact hhalf ⟨hasg, hne⟩
    rw [ensureRuntimeDeleted_of_none hasg hn]
    refine .pure ⟨sb, rfl, h, ⟨rfl, rfl, rfl, rfl, rfl⟩, hasg, ?_, fun _ => hn⟩
    intro e he
    rw [hasg] at he
    cases he
  | some =>
    rw [hasg] at hsmooth
    refine (alone_ensureRuntimeDeleted h hfinalizer hasg hsmooth).mono ?_
    rintro s' _ ⟨sb', rfl, h', hc, ha', hpj⟩
    refine ⟨sb', rfl, h', hc, ha', ?_, ?_⟩
    · intro _ he'
      rw [ha'] at he'
      cases he'
      exact hpj
    · intro hnn
      rw [ha'] at hnn
      cases hnn

theorem alone_reconcileDeletion (hd : sb.deleting) :
    Alone answers s (reconcileDeletion sb) fun s' r => r = .ok () ∧ s'.object = none := by
  unfold reconcileDeletion
  rw [hfinalizer]
  refine .bind ((alone_deleted h hfinalizer hsmooth hhalf).mono ?_)
  rintro _ _ ⟨sb1, rfl, h1, hc, -⟩
  have hw : finalizing sb1 sb1 = .write { sb1 with cleanupFinalizer := false } := by
    exact if_neg (not_or.mpr ⟨not_not.mpr rfl, not_not.mpr rfl⟩)
  refine .bind (alone_modify h1 hw fun _ h2 => .pure ⟨rfl, ?_⟩)
  rw [h2]
  exact congrArg object (if_pos ⟨hc.deleting.trans hd, rfl⟩)

theorem alone_reconcileReset : Alone answers s (reconcileReset sb) fun s' r => r = .ok () ∧
      ∃ sb', s'.object = some sb' ∧ sb'.resetPending = false := by
  unfold reconcileReset
  split_ifs with hn
  · exact alone_acceptReset h hfinalizer
  refine .bind ((alone_deleted h hfinalizer hsmooth hhalf).mono ?_)
  rintro _ _ ⟨_, rfl, h1, hc, hasg, hpj, -⟩
  have hf1 := hc.finalizer.trans hfinalizer
  -- the status names a Fastlet, so there is an annotation
  obtain ⟨e, he⟩ : ∃ e, sb.assignment = some e := by
    refine Option.ne_none_iff_exists'.mp fun hnn => hhalf ⟨hnn, hn⟩
  rw [he] at hasg
  refine .bind ((alone_clearAssignment h1 hf1 hasg (hpj e hasg)).mono ?_)
  rintro _ _ ⟨_, rfl, h2, hc2, -, -⟩
  exact alone_acceptReset h2 (hc2.finalizer.trans hf1)

theorem alone_reconcileExpiration :
    Alone answers s (reconcileExpiration sb) fun s' r => r = .ok () ∧
      ∃ sb', s'.object = some sb' ∧ sb'.status.runtime.state = .stopped ∧ sb'.assignment = none ∧
        sb'.status.placement.fastletName = "" := by
  refine .bind ((alone_deleted h hfinalizer hsmooth hhalf).mono ?_)
  rintro _ _ ⟨sb1, rfl, h1, hc, -, hpj, hn⟩
  have hf1 := hc.finalizer.trans hfinalizer
  dsimp only
  cases hasg : sb1.assignment with
  | none =>
    rw [if_pos (hn hasg)]
    exact alone_expire h1 hf1 hasg (hn hasg)
  | some e =>
    rw [if_neg (fastletName_of_projects (hpj e hasg))]
    refine .bind ((alone_clearAssignment h1 hf1 hasg (hpj e hasg)).mono ?_)
    rintro _ _ ⟨_, rfl, h2, hc2, hnn, hn2⟩
    exact alone_expire h2 (hc2.finalizer.trans hf1) hnn hn2

theorem alone_reconcileVersion (digest : String → String) (hu : Due sb now) :
    Alone answers s (reconcileVersion digest sb now) fun s' r => r = .ok () ∧ Completed sb s' := by
  have hn : (!sb.cleanupFinalizer) = false := by rw [hfinalizer]; rfl
  unfold reconcileVersion Completed
  by_cases hd : sb.deleting
  · simp only [hd, if_true]
    exact alone_reconcileDeletion h hfinalizer hsmooth hhalf hd
  rw [if_neg hd, hn, if_neg Bool.false_ne_true]
  by_cases he : sb.resetPending
  · simp only [hd, he, if_true]
    exact alone_reconcileReset h hfinalizer hsmooth hhalf
  · rw [if_neg he, if_pos ((hu.cause.resolve_left hd).resolve_left he)]
    simp only [hd, he]
    exact alone_reconcileExpiration h hfinalizer hsmooth hhalf

end Steps

variable (digest : String → String)

theorem alone_reconcile {Q : Cluster Unit → Reconciled → Prop}
    (h : s.object = some sb) (hn : answers .now = now)
    (hQ : ∀ s' : Cluster Unit, s'.object = some sb →
      Alone answers s' (reconcileVersion digest sb now) Q) :
    Alone answers s (reconcile digest) Q := by
  have hd : serve (scripted answers) s 0 .dequeue .current =
      some ({ s with busy := 0 :: s.busy }, ()) := rfl
  refine .bind (alone_perform hd fun _ h1 => ?_)
  refine .bind (alone_get (h1.trans h) fun _ h2 => ?_)
  refine .bind (alone_ask rfl fun s3 h3 => ?_)
  rw [hn]
  exact hQ s3 (h3.trans h2)

/-- The object with the finalizer. -/
def Sandbox.protect (sb : Sandbox) (version : ℕ) : Sandbox :=
  { sb with cleanupFinalizer := true, resourceVersion := version }

theorem alone_reconcile_protect (h : s.object = some sb)
    (hu : Due sb now) (hfinalizer : sb.cleanupFinalizer = false) (hn : answers .now = now) :
    Alone answers s (reconcile digest) fun s' r => r = .ok () ∧
      ∃ version, s'.object = some (sb.protect version) := by
  refine alone_reconcile digest h hn fun s1 h1 => ?_
  have hd : ¬ sb.deleting := by
    intro hd
    rw [hu.kept hd] at hfinalizer
    cases hfinalizer
  have ho : (!sb.cleanupFinalizer) := by rw [hfinalizer]; rfl
  have hw : protecting sb sb = .write { sb with cleanupFinalizer := true } := if_pos rfl
  unfold reconcileVersion
  rw [if_neg hd, if_pos ho]
  refine .bind (alone_modify h1 hw fun _ h2 => .pure ⟨rfl, s1.revision + 1, ?_⟩)
  exact h2.trans (store_object_of_finalizer s1 _ rfl)

theorem Due.protect (hd : Due sb now) (version : ℕ) : Due (sb.protect version) now :=
  ⟨hd.cause, fun _ => rfl⟩

theorem alone_reconciles (h : s.object = some sb) (hd : Due sb now)
    (hsmooth : Smooth answers sb.assignment now) (hhalf : ¬ HalfCleared sb) :
    ∃ n, Alone answers s (reconciles digest n) fun s' r => r = .ok () ∧ Completed sb s' := by
  by_cases hfinalizer : sb.cleanupFinalizer
  · exact ⟨0, alone_reconcile digest h hsmooth.now fun s1 h1 =>
      alone_reconcileVersion h1 hfinalizer hsmooth hhalf digest hd⟩
  refine ⟨1, .bind ((alone_reconcile_protect digest h hd (by simpa using hfinalizer)
    hsmooth.now).mono ?_)⟩
  rintro s1 _ ⟨-, version, h1⟩
  exact alone_reconcile digest h1 hsmooth.now fun _ h2 =>
    alone_reconcileVersion h2 rfl hsmooth hhalf digest (hd.protect version)

theorem alone_reconciles_of_half (n : ℕ) (h : s.object = some sb)
    (hd : Due sb now) (hhalf : HalfCleared sb) (hn : answers .now = now) :
    Alone answers s (reconciles digest n) fun s' _ =>
      ∃ sb', s'.object = some sb' ∧ HalfCleared sb' ∧ sb'.resetPending = sb.resetPending := by
  have ho : ∀ (s : Cluster Unit) (sb : Sandbox), s.object = some sb → Due sb now →
      HalfCleared sb → Alone answers s (reconcile digest) fun s' _ => ∃ sb',
        s'.object = some sb' ∧ Due sb' now ∧ HalfCleared sb' ∧
          sb'.resetPending = sb.resetPending := by
    intro s sb h hd hhalf
    by_cases hfinalizer : sb.cleanupFinalizer
    · refine alone_reconcile digest h hn fun s1 h1 => ?_
      rw [reconcileVersion_of_half digest hd hfinalizer hhalf]
      exact .pure ⟨sb, h1, hd, hhalf, rfl⟩
    · refine (alone_reconcile_protect digest h hd (by simpa using hfinalizer) hn).mono ?_
      rintro s1 _ ⟨-, version, h1⟩
      exact ⟨_, h1, hd.protect version, hhalf, rfl⟩
  induction n generalizing s sb with
  | zero =>
    refine (ho s sb h hd hhalf).mono ?_
    rintro s' r ⟨sb', h', -, hh', he⟩
    exact ⟨sb', h', hh', he⟩
  | succ n ih =>
    refine .bind ((ho s sb h hd hhalf).mono ?_)
    rintro s' r ⟨sb', h', hd', hh', he⟩
    refine (ih h' hd' hh').mono ?_
    rintro _ _ ⟨sb'', h'', hh'', hr'⟩
    exact ⟨sb'', h'', hh'', hr'.trans he⟩

theorem not_completed_of_half {sb' : Sandbox} (h : s.object = some sb') (hhalf : HalfCleared sb')
    (he : sb'.resetPending = sb.resetPending) : ¬ Completed sb s := by
  unfold Completed
  rw [h]
  split_ifs with hd hp
  · exact nofun
  · rintro ⟨sb'', heq, hn⟩
    cases heq
    rw [he, hp] at hn
    cases hn
  · rintro ⟨sb'', heq, -, -, hm⟩
    cases heq
    exact hhalf.2 hm

/-- **When a cleanup comes to an end.** Whatever version of the object is stored: reconciles of a
Sandbox that is being deleted, reset or expired, while all calls succeed and the Fastlet answers
NotFound, complete exactly when the Sandbox is not half-cleared. -/
theorem reconciles_complete_iff (digest : String → String) (answers : (q : Ask) → q.Ans)
    {sb : Sandbox} {now : Time} (hdue : Due sb now) (hsmooth : Smooth answers sb.assignment now) :
    (∃ n, Alone answers (holding sb) (reconciles digest n) fun s' r =>
      r = .ok () ∧ Completed sb s') ↔ ¬ HalfCleared sb := by
  constructor
  · rintro ⟨n, s', r, hr, -, hd⟩ hhalf
    obtain ⟨_, _, hr', _, h', hh', he⟩ :=
      alone_reconciles_of_half digest n (s := holding sb) rfl hdue hhalf hsmooth.now
    rw [hr] at hr'
    cases hr'
    exact not_completed_of_half h' hh' he hd
  · exact alone_reconciles digest rfl hdue hsmooth

end Completion

/-- All calls succeed, and the Fastlet knows no runtime. -/
def calm : (q : Ask) → q.Ans
  | .getPod _ => PodLookup.absent
  | .send _ => ()
  | .awaitCreate _ => (⟨none, none⟩ : CreateReply)
  | .awaitInspect _ => (⟨none, some (.fastlet .unknown .notFound "")⟩ : InspectReply)
  | .awaitDelete _ => (none : Option CallError)
  | .awaitCheckpoint _ => (.error .transport : SnapshotReply)
  | .candidates _ => (.ok [] : Except Failure (List Candidate))
  | .registered _ => some fastletA
  | .resolve => (none : Option Failure)
  | .reserveLocal => LocalReservation.reserved
  | .createActive => false
  | .now => (0 : ℕ)
  | .newID => "id"
  | .world => ()

/-- A deletion whose assignment was never projected. -/
def unprojected : Sandbox where
  uid := "uid-1"
  deleting := true
  cleanupFinalizer := true
  assignment := assignmentForCandidate fastletA 1 1 1 "id-1"

theorem reconciles_complete_unprojected :
    ∃ n, Alone calm (holding unprojected) (reconciles id n) fun s' r =>
      r = .ok () ∧ Completed unprojected s' := by
  have hd : Due unprojected 0 := ⟨.inl rfl, fun _ => rfl⟩
  have hsmooth : Smooth calm unprojected.assignment 0 := by
    refine ⟨rfl, fun e he => ⟨fastletA, rfl, ?_⟩, fun _ => rfl, fun _ => ⟨_, _, rfl⟩⟩
    cases he
    decide
  exact (reconciles_complete_iff id calm hd hsmooth).mpr fun hhalf => nomatch hhalf.1

/-- The Pod is lost; the controller stops between the two writes of `ClearAssignment`. -/
def interruptedClear : Script :=
  [.spawn .reconcile, goOn 0, goOn 0, goOn 0, told 0 .now (0 : ℕ), told 0 .createActive false,
    told 0 (.getPod "fastlet-a") .absent, told 0 .now (0 : ℕ), goOn 0, crash 0,
    .spawn .reconcile, goOn 0, goOn 0, goOn 0, told 0 .now (0 : ℕ), told 0 .createActive false,
    told 0 (.getPod "fastlet-a") .absent, told 0 .now (60000000000 : ℕ), goOn 0, crash 0]

def userDeletion : Script := [.spawn (.delete "uid-1"), goOn 0, goOn 0]

/-- **A deletion that never ends.** After a crash inside `ClearAssignment` every reconcile of the
deleted Sandbox returns the same error. -/
theorem interrupted_clear_sticks :
    ∃ (w : World (Shared (Cluster Unit)) (Task Actor Op Ans)) (sb : Sandbox),
      (system id anyWorld).Reaches System.anyStep (start ()) w ∧
        w.shared.state.object = some sb ∧ sb.deleting = true ∧
        ∀ now, reconcileVersion id sb now = pure (.error .annotationMissing) := by
  have ht : ∃ w, (system id anyWorld).Reaches System.anyStep (start ()) w ∧
      (w.shared.state.object.any fun sb => sb.deleting && sb.cleanupFinalizer &&
        sb.assignment = none && sb.status.placement.fastletName ≠ "") = true :=
    System.exists_reaches_of_run
      (creation [fastletA] ++ [crash 0] ++ projection ++ interruptedClear ++ userDeletion) _
      (by decide)
  obtain ⟨w, hr, hw⟩ := ht
  cases ho : w.shared.state.object with
  | none =>
    rw [ho] at hw
    cases hw
  | some sb =>
    rw [ho] at hw
    simp only [Option.any_some, Bool.and_eq_true, decide_eq_true_eq] at hw
    obtain ⟨⟨⟨hd, hfinalizer⟩, he⟩, hn⟩ := hw
    exact ⟨w, sb, hr, ho, hd,
      fun now => reconcileVersion_of_half id ⟨.inl hd, fun _ => hfinalizer⟩ hfinalizer ⟨he, hn⟩⟩

end FastSandbox.ControlPlane
