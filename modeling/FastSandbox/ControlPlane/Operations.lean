import FastSandbox.ControlPlane.Machine

/-!
# What an operation can do

`Op.closure` is the read-modify-write an operation performs at the current version, and
`Op.WellFormed` says which closure goes with which kind of write. A served operation leaves the
object alone, stores what its closure writes, or creates the object.
-/

namespace FastSandbox.ControlPlane

open Cluster List Option

/-! ## Status updates that leave the assignment's fields alone -/

/-- The two statuses project the same assignment, and have accepted the same reset. -/
structure SandboxStatus.SamePlacement (st st' : SandboxStatus) : Prop where
  attempt : st'.placement.attempt = st.placement.attempt
  fastletName : st'.placement.fastletName = st.placement.fastletName
  fastletPodUID : st'.placement.fastletPodUID = st.placement.fastletPodUID
  generation : st'.runtime.generation = st.runtime.generation
  routeGeneration : st'.dataPlane.routeGeneration = st.dataPlane.routeGeneration
  accepted : st'.runtime.acceptedResetRevision = st.runtime.acceptedResetRevision

/-- They also have the same pause lineage. -/
structure SandboxStatus.Agree (st st' : SandboxStatus) : Prop extends st.SamePlacement st' where
  pauseAttempt : st'.runtime.pauseAttempt = st.runtime.pauseAttempt
  checkpoint : st'.runtime.checkpoint = st.runtime.checkpoint

theorem SandboxStatus.SamePlacement.trans {st1 st2 st3 : SandboxStatus}
    (h1 : st1.SamePlacement st2) (h2 : st2.SamePlacement st3) : st1.SamePlacement st3 where
  attempt := h2.attempt.trans h1.attempt
  fastletName := h2.fastletName.trans h1.fastletName
  fastletPodUID := h2.fastletPodUID.trans h1.fastletPodUID
  generation := h2.generation.trans h1.generation
  routeGeneration := h2.routeGeneration.trans h1.routeGeneration
  accepted := h2.accepted.trans h1.accepted

/-- An update of the business state only. -/
def Plain (mutate : SandboxStatus → SandboxStatus) : Prop :=
  ∀ st : SandboxStatus, st.Agree (mutate st)

theorem SandboxStatus.Agree.of_eq {st st' : SandboxStatus}
    (hl : st'.placement = { st.placement with recovery := st'.placement.recovery })
    (hr : st'.runtime =
      { st.runtime with state := st'.runtime.state, message := st'.runtime.message })
    (hd : st'.dataPlane.routeGeneration = st.dataPlane.routeGeneration) : st.Agree st' := by
  refine ⟨⟨?_, ?_, ?_, ?_, hd, ?_⟩, ?_, ?_⟩
  iterate 3 rw [hl]
  all_goals rw [hr]

variable (generation : ℤ) (reason : String) (message : String)

theorem plain_waiting {runtimeState : RuntimeState} {dataPlaneState : DataPlaneState}
    {generation : ℤ} {reason message resuming : String} :
    Plain (waiting runtimeState dataPlaneState generation reason message resuming) := by
  intro _
  unfold waiting
  split <;> exact .of_eq rfl rfl rfl

/-! The other updates of the controller leave the placement alone, too; only a reset raises the
generation and accepts its revision. -/

theorem samePlacement_projectObserved (st : SandboxStatus) (sb : Sandbox) (observed : Observation) :
    st.SamePlacement (st.projectObserved sb observed) := by
  unfold SandboxStatus.projectObserved
  dsimp only
  split_ifs
  all_goals exact ⟨rfl, rfl, rfl, rfl, rfl, rfl⟩

theorem samePlacement_projectResume (st : SandboxStatus) (sb : Sandbox) (observed : Observation) :
    st.SamePlacement (st.projectResume sb observed) := by
  unfold SandboxStatus.projectResume
  split
  · exact ⟨rfl, rfl, rfl, rfl, rfl, rfl⟩
  · split <;> exact ⟨rfl, rfl, rfl, rfl, rfl, rfl⟩

theorem samePlacement_observedStatus {assigned : Sandbox} {observed : Observation}
    {st : SandboxStatus} : st.SamePlacement (observedStatus assigned observed st) :=
  (samePlacement_projectObserved st assigned observed).trans (samePlacement_projectResume _ _ _)

/-! ## Well-formed operations -/

/-- The read-modify-write of an operation. -/
def Op.closure : Op → Option (Sandbox → Verdict)
  | .modify _ _ f => some f
  | .patch _ read c => some (Cluster.patching read c)
  | .delete uid _ => some (Cluster.deleting uid)
  | .edit spec => some (Cluster.editing spec)
  | .get _ | .create _ | .ask _ | .dequeue | .answer .. => none

def WriteKind.Closure (f : Sandbox → Verdict) : WriteKind → Prop
  | .protect => ∃ sb, f = protecting sb
  | .finalize seen => f = finalizing seen
  | .assign read desired => f = initializing desired ∧ ∀ sb ∈ read,
      desired.instanceGeneration = max sb.status.runtime.generation 1 ∧
        desired.attempt = sb.status.placement.attempt + 1
  | .advance expected next => f = advancing expected next ∧
      next.instanceGeneration = expected.instanceGeneration ∧ next.attempt = expected.attempt + 1
  | .remove _ expected => f = removing expected
  | .project => f = projecting
  | .observe _ observed => ∃ assigned, f = mutating (observedStatus assigned observed)
  | .failure _ observed => ∃ uid, f = failing uid observed
  | .reset seen => f = mutating (resetAccepted seen)
  | .expire => ∃ generation, f = mutating (expired generation)
  | .checkpoint c => ∃ generation, f = mutating (checkpointed c generation)
  | .pauseRetry => ∃ generation reason message, f = mutating (retryStatus generation reason message)
  | .status => ∃ mutate, f = mutating mutate ∧ Plain mutate

/-- An assignment is given up for this cause to make room for a new instance. -/
def Cause.renews : Cause → Bool
  | .expiration | .reset | .podLost => true
  | .release | .paused => false

def Op.WellFormed : Op → Prop
  | .modify _ kind f => kind.Closure f
  | .patch cause read c => read.assignment = none ∧ read.status.placement.fastletName ≠ "" ∧
      ∃ envelope, c = read.status.clearing envelope cause.renews
  | _ => True

/-! ## What the programs perform

The assignment package, the orchestrator and the reconciler only read, write what is well-formed
and ask. A property of all these operations is one of whatever these programs perform. -/

/-- The property holds of reads, well-formed writes and questions. -/
class Admits (P : Op → Prop) : Prop where
  get : ∀ source, P (.get source)
  modify : ∀ {cached kind f}, kind.Closure f → P (.modify cached kind f)
  patch : ∀ {cause read c}, Op.WellFormed (.patch cause read c) → P (.patch cause read c)
  ask : ∀ q, P (.ask q)

instance : Admits Op.WellFormed where
  get _ := trivial
  modify h := h
  patch h := h
  ask _ := trivial

theorem assignmentForCandidate_eq {c : Candidate} {attempt generation route : ℤ} {id : String}
    {e : AssignmentEnvelope} (h : assignmentForCandidate c attempt generation route id = some e) :
    e.attempt = attempt ∧ e.instanceGeneration = generation ∧ e.routeGeneration = route ∧
      e.runtimeInstanceID = id ∧ e.fastletName = c.podName ∧ e.fastletPodUID = c.podUID := by
  unfold assignmentForCandidate at h
  split_ifs at h
  cases h
  exact ⟨rfl, rfl, rfl, rfl, rfl, rfl⟩

/-! ## What serving an operation does -/

section Serve

variable {ν χ : Type} {E : Environment ν χ} {s s' : Cluster ν} {i : ℕ} {op : Op} {d : Decision χ}

inductive Change (s : Cluster ν) (op : Op) (s' : Cluster ν) : Prop
  | same (hobject : s'.object = s.object) (hversions : s'.versions = s.versions)
      (hrevision : s'.revision = s.revision)
  | wrote (f : Sandbox → Verdict) (sb sb' : Sandbox) (hclosure : op.closure = some f)
      (hobject : s.object = some sb) (hwrite : f sb = .write sb')
      (hobject' : s'.object = (s.store sb').object)
      (hversions : s'.versions = (s.store sb').versions)
      (hrevision : s'.revision = s.revision + 1)
  | created (sb : Sandbox) (uid : String) (hop : op = .create sb) (hobject : s.object = none)
      (huid : uid ≠ "") (hfresh : ∀ v ∈ s.versions, v.uid ≠ uid)
      (hobject' : s'.object = some (s.stored (Cluster.admitted sb uid)))
      (hversions : s'.versions = s.stored (Cluster.admitted sb uid) :: s.versions)
      (hrevision : s'.revision = s.revision + 1)

/-- The change an operation makes; no thread ends in it. -/
def Served (s : Cluster ν) (op : Op) (s' : Cluster ν) : Prop := Change s op s' ∧ s'.ended = s.ended

theorem Served.same (ho : s'.object = s.object) (hv : s'.versions = s.versions)
    (he : s'.revision = s.revision) (hn : s'.ended = s.ended) : Served s op s' :=
  ⟨.same ho hv he, hn⟩

theorem Cluster.store_keeps (s : Cluster ν) (sb : Sandbox) :
    (s.store sb).revision = s.revision + 1 ∧ (s.store sb).ended = s.ended := by
  unfold Cluster.store
  split_ifs <;> exact ⟨rfl, rfl⟩

theorem Served.apply {f : Sandbox → Verdict} (hf : op.closure = some f) :
    Served s op (s.apply f) := by
  unfold Cluster.apply
  cases ho : s.object with
  | none => exact .same rfl rfl rfl rfl
  | some sb =>
    dsimp only
    cases hw : f sb with
    | stop r => exact .same rfl rfl rfl rfl
    | write sb' =>
      obtain ⟨he, hn⟩ := s.store_keeps sb'
      exact ⟨.wrote f sb sb' hf ho hw rfl rfl he, hn⟩

theorem Served.serveModify {cached : Bool} {f : Sandbox → Verdict} {x : Modified}
    (hf : op.closure = some f) (h : s.serveModify cached f d = some (s', x)) : Served s op s' := by
  cases d with
  | current =>
    cases h
    exact .apply hf
  | cached =>
    simp only [serveModify] at h
    split_ifs at h
    split at h
    · cases h
      exact .same rfl rfl rfl rfl
    · cases h
  | missing =>
    simp only [Cluster.serveModify] at h
    split_ifs at h
    cases h
    exact .same rfl rfl rfl rfl
  | fail applied =>
    cases h
    cases applied
    · exact .same rfl rfl rfl rfl
    · exact .apply hf
  | created | world => cases h

theorem Served.serveCreate {sb : Sandbox} {x : Created}
    (h : s.serveCreate sb d = some (s', x)) : Served s (.create sb) s' := by
  cases d with
  | created uid =>
    simp only [Cluster.serveCreate] at h
    split_ifs at h with ho
    all_goals
      obtain ⟨hn, hu, hf⟩ := ho
      cases h
      exact ⟨.created sb uid rfl hn hu hf rfl rfl rfl, rfl⟩
  | fail =>
    cases h
    exact .same rfl rfl rfl rfl
  | current | cached n | missing | world c => cases h

theorem Served.serveDelete {uid : String} {rollback : Bool} {x : Deleted}
    (h : s.serveDelete uid d = some (s', x)) : Served s (.delete uid rollback) s' := by
  cases d with
  | current =>
    cases h
    exact .apply rfl
  | fail applied =>
    cases h
    cases applied
    · exact .same rfl rfl rfl rfl
    · exact .apply rfl
  | cached n | missing | created uid lost | world c => cases h

theorem Served.serveEdit {spec : SandboxSpec} {x : Unit}
    (h : s.serveEdit spec d = some (s', x)) : Served s (.edit spec) s' := by
  cases d with
  | current =>
    cases h
    exact .apply rfl
  | fail =>
    cases h
    exact .same rfl rfl rfl rfl
  | cached n | missing | created uid lost | world c => cases h

theorem Served.serveAsk {q : Ask} {x : q.Ans} (h : s.serveAsk E q d = some (s', x)) :
    Served s op s' := by
  cases d with
  | world =>
    simp only [serveAsk] at h
    split at h
    · cases h
    · split_ifs at h
      cases h
      exact .same rfl rfl rfl rfl
  | current | fail applied | cached n | missing | created uid lost => cases h

theorem Cluster.serveNote_eq {x : Unit} (h : s.serveNote d = some (s', x)) : s' = s := by
  cases d with
  | current =>
    cases h
    rfl
  | world c | fail applied | cached n | missing | created uid lost => cases h

theorem Served.serve {x : Ans op} (h : serve E s i op d = some (s', x)) : Served s op s' := by
  cases op with
  | get =>
    obtain ⟨y, -, hp⟩ := map_eq_some_iff.mp h
    cases hp
    exact .same rfl rfl rfl rfl
  | modify | patch => exact .serveModify rfl h
  | create => exact .serveCreate h
  | delete => exact .serveDelete h
  | edit => exact .serveEdit h
  | ask => exact .serveAsk h
  | dequeue | answer =>
    rw [serveNote_eq h]
    exact .same rfl rfl rfl rfl

/-- **What a served operation does**: it changes the object in one of three ways, and is
recorded. -/
theorem handle_change {x : Ans op} (h : handle E s i op d = some (s', x)) :
    Change s op s' ∧ s'.trace = ⟨i, op, x, s.object, s'.object⟩ :: s.trace := by
  obtain ⟨⟨_, y⟩, hs, hp⟩ := map_eq_some_iff.mp h
  cases hp
  refine ⟨?_, rfl⟩
  cases (Served.serve hs).1 with
  | same h1 h2 h3 => exact .same h1 h2 h3
  | wrote f sb sb' h1 h2 h3 h4 h5 h6 => exact .wrote f sb sb' h1 h2 h3 h4 h5 h6
  | created sb uid h1 h2 h3 h4 h5 h6 h7 => exact .created sb uid h1 h2 h3 h4 h5 h6 h7

theorem Cluster.handle_ended {x : Ans op} (h : handle E s i op d = some (s', x)) :
    s'.ended = s.ended := by
  obtain ⟨⟨_, y⟩, hs, hp⟩ := map_eq_some_iff.mp h
  cases hp
  exact (Served.serve hs).2

theorem Cluster.store_cases (s : Cluster ν) (sb : Sandbox) :
    (s.store sb).object = some (s.stored sb) ∧ (s.store sb).versions = s.stored sb :: s.versions ∨
      (s.store sb).object = none ∧ (s.store sb).versions = s.versions ∧ sb.deleting ∧
        sb.cleanupFinalizer = false := by
  unfold store
  split_ifs with he
  · exact .inr ⟨rfl, rfl, he.1, by simpa using he.2⟩
  · exact .inl ⟨rfl, rfl⟩

theorem Change.versions_subset (h : Change s op s') : s.versions ⊆ s'.versions := by
  cases h with
  | same _ hv => exact hv ▸ List.Subset.refl _
  | wrote f sb sb' _ _ _ _ hv =>
    rw [hv]
    rcases s.store_cases sb' with ⟨-, ha⟩ | ⟨-, hk, -⟩
    · rw [ha]
      exact subset_cons_self _ _
    · rw [hk]
      exact List.Subset.refl _
  | created sb uid _ _ _ _ _ hv =>
    rw [hv]
    exact subset_cons_self _ _

theorem Change.known (h : Change s op s') (hk : ∀ sb ∈ s.object, sb ∈ s.versions) :
    ∀ sb ∈ s'.object, sb ∈ s'.versions := by
  cases h with
  | same hb hv =>
    rw [hb, hv]
    exact hk
  | wrote f sb sb' _ _ _ hb' hv =>
    rw [hb', hv]
    rcases s.store_cases sb' with ⟨ho, ha⟩ | ⟨hg, -, -⟩
    · rw [ho, ha]
      exact fun _ heq => by cases heq; exact mem_cons_self
    · rw [hg]
      exact fun _ heq => nomatch heq
  | created sb uid _ _ _ _ hb' hv =>
    rw [hb', hv]
    exact fun _ heq => by cases heq; exact mem_cons_self

end Serve

end FastSandbox.ControlPlane
