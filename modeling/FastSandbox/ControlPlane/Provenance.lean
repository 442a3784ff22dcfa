import FastSandbox.ControlPlane.Operations

/-!
# Why an operation is performed

What a thread has read and been told before it removes an annotation, accepts a reset, drops the
finalizer, projects an observation or sends a Create. The programs are checked once, against what a
thread remembers of its own operations; a property of runs then needs one argument per operation.
-/

namespace FastSandbox.ControlPlane

open Cluster List Option
open Fastlet (SandboxIdentity)
open Interleaving Threads

abbrev Past := History Op Ans

/-! ## What a thread remembers -/

def Fetched.shown : Fetched → Option Sandbox
  | .found sb => some sb
  | .absent | .failed => none

def Modified.shown : Modified → Option Sandbox
  | .written sb | .stopped (.found sb) => some sb
  | .stopped (.failure _) | .absent | .failed => none

def Created.shown : Created → Option Sandbox
  | .created sb => some sb
  | .failed => none

/-- The version of the object that an answer shows. -/
def shown : (op : Op) → Ans op → Option Sandbox
  | .get _ => Fetched.shown
  | .modify .. => Modified.shown
  | .patch .. => Modified.shown
  | .create _ => Created.shown
  | .delete .. => fun _ => none
  | .edit _ => fun _ => none
  | .ask _ => fun _ => none
  | .dequeue => fun _ => none
  | .answer .. => fun _ => none

variable (l : Past) (sb : Sandbox)

def Shown : Prop := ∃ entry ∈ l, shown entry.1 entry.2 = some sb

/-- A Delete of the identity was answered, and an Inspect after it found nothing. -/
def Confirmed (id : SandboxIdentity) : Prop :=
  ∃ (earlier : Past) (reply : InspectReply) (disposition : Fastlet.CreateDisposition)
    (message : String),
    ⟨.ask (.awaitInspect id), reply⟩ :: earlier <:+ l ∧
      reply.error = some (.fastlet disposition .notFound message) ∧
      ⟨.ask (.awaitDelete id), (none : Option CallError)⟩ ∈ earlier

/-- A lookup that counts as the loss of the Pod with this UID. -/
def PodLookup.lost (uid : String) : PodLookup → Bool
  | .absent => true
  | .failed => false
  | .found pod => pod.uid ≠ uid || pod.deleting

/-- The thread found the Pod lost. -/
def Lost (name uid : String) : Prop := ∃ x : PodLookup, ⟨.ask (.getPod name), x⟩ ∈ l ∧ x.lost uid

/-- The runtime of the assignment counts as gone. -/
def GoneFor (e : AssignmentEnvelope) : Prop :=
  Confirmed l (e.identity sb.uid) ∨ sb.status.projects e ∧ Lost l e.fastletName e.fastletPodUID

/-- Nothing is left of the runtime: there is no assignment, or its runtime is gone. -/
def Cleared : Prop :=
  sb.assignment = none ∧ sb.status.placement.fastletName = "" ∨
    ∃ e, sb.assignment = some e ∧ GoneFor l sb e

/-- An answer about an identity, and the observation in it. -/
def reported : (Σ op, Ans op) → Option (SandboxIdentity × Option Observation)
  | ⟨.ask (.awaitCreate request), reply⟩ =>
    some (request.identity, (CreateReply.response reply).bind (·.2))
  | ⟨.ask (.awaitInspect id), reply⟩ => some (id, InspectReply.sandbox reply)
  | _ => none

/-- The latest answer about an identity. -/
def latestReport : Option (SandboxIdentity × Option Observation) := l.findSome? reported

section

variable {l l' : Past} {sb : Sandbox} {e : AssignmentEnvelope} {id : SandboxIdentity}
  {name uid : String}

theorem Shown.mono (h : Shown l sb) (hl : l <:+ l') : Shown l' sb := by
  obtain ⟨entry, he, heq⟩ := h
  exact ⟨entry, hl.subset he, heq⟩

theorem Confirmed.mono (h : Confirmed l id) (hl : l <:+ l') : Confirmed l' id := by
  obtain ⟨earlier, reply, disposition, message, hu, he, hd⟩ := h
  exact ⟨earlier, reply, disposition, message, hu.trans hl, he, hd⟩

theorem Lost.mono (h : Lost l name uid) (hl : l <:+ l') : Lost l' name uid := by
  obtain ⟨x, hx, hs⟩ := h
  exact ⟨x, hl.subset hx, hs⟩

theorem GoneFor.mono (h : GoneFor l sb e) (hl : l <:+ l') : GoneFor l' sb e :=
  h.imp (·.mono hl) fun ⟨hp, hs⟩ => ⟨hp, hs.mono hl⟩

end

/-! ## Grounds -/

/-- On what grounds an assignment is given up. -/
def Cause.Grounds (e : AssignmentEnvelope) : Cause → Prop
  | .expiration | .reset | .release => GoneFor l sb e
  | .podLost => sb.status.placement.fastletName ≠ "" ∧
      Lost l sb.status.placement.fastletName sb.status.placement.fastletPodUID
  | .paused => sb.status.runtime.state = .paused

/-- What a thread knows when it performs an operation. -/
def Justified (l : Past) : Op → Prop
  | .modify _ (.observe asked observed) _ | .modify _ (.failure asked observed) _ =>
    ∃ uid, latestReport l = some (asked.identity uid, some observed)
  | .modify _ (.remove cause e) _ =>
    ∃ sb, Shown l sb ∧ sb.assignment = some e ∧ cause.Grounds l sb e
  | .modify _ (.finalize seen) _ => Shown l seen ∧ Cleared l seen
  | .modify _ (.reset seen) _ => Shown l seen ∧ seen.status.placement.fastletName = ""
  | .patch _ read _ => Shown l read
  | .ask (.send (.create request)) =>
    ∃ sb e, Shown l sb ∧ sb.assignment = some e ∧ request = sb.createRequest e
  | .ask (.send (.delete id _)) => ∃ sb e, Shown l sb ∧ sb.assignment = some e ∧
      id = e.identity sb.uid
  | _ => True

/-- What the answer to an update says about the version it was applied to. -/
def Answered (f : Sandbox → Verdict) : Modified → Prop
  | .written sb' =>
    ∃ sb new, f sb = .write new ∧ sb' = { new with resourceVersion := sb'.resourceVersion }
  | .stopped r => ∃ sb, f sb = .stop r
  | .absent | .failed => True

def Truthful : (op : Op) → Ans op → Prop
  | .modify _ _ f => Answered f
  | .patch _ read c => Answered (Cluster.patching read c)
  | _ => fun _ => True

/-- The program performs only what is justified and has the property `P`, and `Q` holds at its
end. -/
abbrev Follows (P : Op → Prop) {α : Type} (p : Program α) (Q : Past → α → Prop) (l : Past) : Prop :=
  Along (Local.remembering (fun _ => Truthful) fun l op => Justified l op ∧ P op) p Q l

/-- The program performs only what is justified and has the property `P`. -/
abbrev Keeps (P : Op → Prop) {α : Type} (p : Program α) (l : Past) : Prop :=
  Follows P p (fun _ _ => True) l

/-- What is returned, unless it is an error, satisfies `Q`. -/
def OnOk {ε α : Type} (Q : α → Prop) : Except ε α → Prop
  | .ok a => Q a
  | .error _ => True

theorem OnOk.imp {ε α : Type} {Q Q' : α → Prop} {r : Except ε α} (h : OnOk Q r)
    (hQ : ∀ a, Q a → Q' a) : OnOk Q' r := by
  cases r with
  | ok a => exact hQ a h
  | error => trivial

theorem elim_of_forall {α : Type} {Q : α → Prop} {o : Option α} (h : ∀ a, o = some a → Q a) :
    o.elim True Q := by
  cases o with
  | none => trivial
  | some a => exact h a rfl

section

variable {P : Op → Prop} {l : Past}

theorem shown_head (op : Op) (x : Ans op) : (shown op x).elim True (Shown (⟨op, x⟩ :: l)) :=
  elim_of_forall fun _ h => ⟨⟨op, x⟩, mem_cons_self, h⟩

variable [Admits P]

theorem follows_get (source : Source) :
    Follows P (get source) (fun l' r => r.shown.elim True (Shown l')) l :=
  .perform ⟨trivial, Admits.get source⟩ fun x _ => shown_head (.get source) x

theorem follows_modify {cached : Bool} {kind : WriteKind} {f : Sandbox → Verdict}
    (hf : kind.Closure f) (h : Justified l (.modify cached kind f)) :
    Follows P (modify cached kind f)
      (fun l' r => Answered f r ∧ r.shown.elim True (Shown l')) l :=
  .perform ⟨h, Admits.modify hf⟩ fun x hx => ⟨hx, shown_head (.modify cached kind f) x⟩

variable {mutate : SandboxStatus → SandboxStatus}

theorem follows_patchStatus {kind : WriteKind} (hf : kind.Closure (mutating mutate))
    (h : Justified l (.modify true kind (mutating mutate))) : Keeps P (patchStatus kind mutate) l :=
  .then (follows_modify hf h) fun
    | _, .written _, _, _ | _, .stopped _, _, _ | _, .absent, _, _ | _, .failed, _, _ => trivial

theorem follows_patchPlain (h : Plain mutate) : Keeps P (patchStatus .status mutate) l :=
  follows_patchStatus ⟨mutate, rfl, h⟩ trivial

theorem follows_ask {q : Ask} (h : Justified l (.ask q)) :
    Follows P (ask q) (fun l' x => l' = ⟨.ask q, x⟩ :: l) l :=
  .perform ⟨h, Admits.ask q⟩ fun _ _ => rfl

end

/-! ## The assignment package and the orchestrator -/

section Orchestrator

variable {P : Op → Prop} [Admits P] {l : Past} {sb : Sandbox} {e : AssignmentEnvelope}
  {a : Option AssignmentEnvelope}

theorem effectiveAssignment_ok (h : sb.effectiveAssignment = .ok a) : sb.assignment = a := by
  unfold Sandbox.effectiveAssignment at h
  split at h
  · cases h
  · cases h
    rfl

theorem projects_of_effective (h : sb.effectiveAssignment = .ok a)
    (hn : sb.status.placement.fastletName ≠ "") :
    ∃ e, sb.assignment = some e ∧ sb.status.projects e := by
  unfold Sandbox.effectiveAssignment validateStatusProjection at h
  cases ha : sb.assignment with
  | none =>
    rw [ha] at h
    rw [if_pos hn] at h
    cases h
  | some e =>
    rw [ha] at h
    dsimp only at h
    split_ifs at h with ho
    exact ⟨e, rfl, ho.resolve_left hn⟩

theorem effectiveAssignment_error {err : Failure} (h : sb.effectiveAssignment = .error err) :
    err = .annotationMissing ∨ err = .projectionConflict := by
  unfold Sandbox.effectiveAssignment validateStatusProjection at h
  cases ha : sb.assignment with
  | none =>
    rw [ha] at h
    split_ifs at h
    cases h
    exact .inl rfl
  | some =>
    rw [ha] at h
    dsimp only at h
    split_ifs at h
    cases h
    exact .inr rfl

theorem follows_reread (source : Source) :
    Follows P (reread source) (fun l' => OnOk (Shown l')) l :=
  .then (follows_get source) fun
    | _, .found _, _, h => h
    | _, .absent, _, _ | _, .failed, _, _ => trivial

theorem follows_initializeAssignment {read : Option Sandbox} {desired : AssignmentEnvelope}
    (hs : ∀ sb ∈ read, desired.instanceGeneration = max sb.status.runtime.generation 1 ∧
      desired.attempt = sb.status.placement.attempt + 1) :
    Follows P (initializeAssignment read desired)
      (fun l' => OnOk (Shown l' ·.1)) l :=
  .then (follows_modify ⟨rfl, hs⟩ trivial) fun
    | _, .written _, _, _ => .then (follows_reread .api) fun
      | _, .ok _, _, h => h
      | _, .error _, _, _ => trivial
    | _, .stopped (.found _), _, h => h.2
    | _, .stopped (.failure _), _, _ | _, .absent, _, _ | _, .failed, _, _ => trivial

theorem follows_projectAssignmentToStatus (cached : Bool) :
    Follows P (projectAssignmentToStatus cached) (fun l' => OnOk (Shown l')) l := by
  refine .then (follows_modify rfl trivial) fun
    | _, .written _, _, _ => .then (follows_reread _) fun
      | _, .ok _, _, h => ?_
      | _, .error _, _, _ => trivial
    | _, .stopped (.found _), _, h => h.2
    | _, .stopped (.failure _), _, _ | _, .absent, _, _ | _, .failed, _, _ => trivial
  dsimp only
  split
  · exact h
  · exact trivial

theorem follows_casAssignment {expected next : AssignmentEnvelope}
    (hg : next.instanceGeneration = expected.instanceGeneration)
    (ha : next.attempt = expected.attempt + 1) :
    Follows P (casAssignment expected next) (fun l' => OnOk (Shown l')) l :=
  .then (follows_modify ⟨rfl, hg, ha⟩ trivial) fun
    | _, .written _, _, h => h.2
    | _, .stopped (.failure _), _, _ | _, .stopped (.found _), _, _ | _, .absent, _, _
    | _, .failed, _, _ => trivial

theorem follows_removeAssignment {cause : Cause}
    (h : Justified l (.modify false (.remove cause e) (removing e))) :
    Keeps P (removeAssignment cause e) l :=
  .then (follows_modify rfl h) fun
    | _, .written _, _, _ => .then (follows_reread .api) fun
      | _, .ok _, _, _ | _, .error _, _, _ => trivial
    | _, .stopped (.found _), _, _ | _, .stopped (.failure _), _, _ | _, .absent, _, _
    | _, .failed, _, _ => trivial

theorem follows_clearAssignmentProjection {cause : Cause} {envelope : Option AssignmentEnvelope} :
    Follows P (clearAssignmentProjection cause envelope cause.renews)
      (fun l' => OnOk fun sb => Shown l' sb ∧ sb.status.placement.fastletName = "") l := by
  refine .then (follows_get .api) fun
    | _, .absent, _, _ | _, .failed, _, _ => trivial
    | l', .found sb, _, h => ?_
  have hsh : Shown l' sb := h
  refine .ite (fun _ => trivial) fun ha => .ite (fun hn => ⟨hsh, hn⟩) fun hn => ?_
  have hnn : sb.assignment = none := not_isSome_iff_eq_none.mp ha
  have hp : Follows P (patch cause sb (sb.status.clearing envelope cause.renews)) (fun l' r =>
      Answered (patching sb (sb.status.clearing envelope cause.renews)) r ∧
        r.shown.elim True (Shown l')) l' :=
    .perform ⟨hsh, Admits.patch ⟨hnn, hn, envelope, rfl⟩⟩ fun x hx =>
      ⟨hx, shown_head (.patch cause sb _) x⟩
  refine .then hp fun
    | _, .written _, _, ⟨⟨current, new, hr, heq⟩, hw⟩ => ⟨hw, ?_⟩
    | _, .stopped _, _, _ | _, .absent, _, _ | _, .failed, _, _ => trivial
  cases hr
  rw [heq]
  exact if_neg hn

theorem follows_clearAssignment {cause : Cause} (hsh : Shown l sb)
    (ho : ∀ e, sb.assignment = some e → cause.Grounds l sb e) :
    Follows P (clearAssignment sb cause cause.renews)
      (fun l' => OnOk fun sb => Shown l' sb ∧ sb.status.placement.fastletName = "") l := by
  unfold clearAssignment
  split
  · exact .ite (fun hn => ⟨hsh, hn⟩) fun _ => follows_clearAssignmentProjection
  rename_i e he
  exact .then (follows_removeAssignment ⟨sb, hsh, he, ho e he⟩) fun
    | _, .error _, _, _ => trivial
    | _, .ok _, _, _ => follows_clearAssignmentProjection

theorem follows_assignFresh (current : Sandbox) (preferred : Option CheckpointStatus) :
    Follows P (assignFresh current preferred)
      (fun l' => OnOk (Shown l' ·.1)) l := by
  refine .then (follows_ask trivial) fun
    | _, .error _, _, _ => trivial
    | _, .ok ranked, _, _ => ?_
  dsimp only
  split
  · exact trivial
  refine .then (follows_ask trivial) fun _ _ _ _ => ?_
  split
  · exact trivial
  rename_i he
  obtain ⟨ha, hg, -⟩ := assignmentForCandidate_eq he
  refine .then (follows_initializeAssignment fun _ h => ?_) fun
    | _, .error _, _, _ => trivial
    | _, .ok (_, _), _, _ => .then (follows_projectAssignmentToStatus _) fun
      | _, .ok _, _, h => h
      | _, .error _, _, _ => trivial
  cases h
  exact ⟨hg, ha⟩

theorem follows_assignDeclarativePreferring (sb : Sandbox) (preferred : Option CheckpointStatus) :
    Follows P (assignDeclarativePreferring sb preferred)
      (fun l' => OnOk (Shown l' ·.1)) l :=
  .then (follows_get .api) fun
    | _, .absent, _, _ | _, .failed, _, _ => trivial
    | _, .found _, _, _ => .ite (fun _ => trivial) fun _ =>
      .ite
        (fun _ => .then (follows_projectAssignmentToStatus _) fun
          | _, .ok _, _, h => h
          | _, .error _, _, _ => trivial)
        fun _ => follows_assignFresh _ _

theorem follows_reassignDeclarativeAfterRejection (sb : Sandbox) :
    Keeps P (reassignDeclarativeAfterRejection sb) l := by
  unfold reassignDeclarativeAfterRejection
  split
  · trivial
  refine .then (follows_ask trivial) fun _ x _ _ => ?_
  split
  · trivial
  · trivial
  split
  · trivial
  refine .then (follows_ask trivial) fun _ _ _ _ => ?_
  split
  · trivial
  rename_i hn
  obtain ⟨ha, hg, -⟩ := assignmentForCandidate_eq hn
  exact .then (follows_casAssignment hg ha) fun
    | _, .ok _, _, _ | _, .error _, _, _ => trivial

/-- What `assignedTarget` tells: the assignment, or that the two are consistent but the Fastlet
is unavailable, or another error. -/
theorem follows_assignedTarget (sb : Sandbox) : Follows P (assignedTarget sb) (fun _ r =>
      (∀ e, r = .ok e → sb.effectiveAssignment = .ok (some e)) ∧
      ∀ err, r = .error err → err.isNotFound = false ∧
        (err = .fastletUnavailable → ∃ a, sb.effectiveAssignment = .ok a)) l := by
  unfold assignedTarget
  split
  · rename_i err her
    refine .pure ⟨fun e he => (nomatch he), fun err' hr' => ?_⟩
    cases hr'
    rcases effectiveAssignment_error her with rfl | rfl
    · exact ⟨rfl, nofun⟩
    · exact ⟨rfl, nofun⟩
  · rename_i hn
    refine .pure ⟨fun e he => (nomatch he), fun err' hr' => ?_⟩
    cases hr'
    exact ⟨rfl, fun _ => ⟨none, hn⟩⟩
  · rename_i e he
    have hu : ∀ err : Failure, Except.error (ε := Failure) (α := AssignmentEnvelope)
        .fastletUnavailable = .error err → err.isNotFound = false ∧
        (err = .fastletUnavailable → ∃ a, sb.effectiveAssignment = .ok a) := by
      intro err her
      cases her
      exact ⟨rfl, fun _ => ⟨some e, he⟩⟩
    refine .then (follows_ask trivial) fun
      | _, none, _, _ => .pure ⟨nofun, hu⟩
      | _, some _, _, _ => .ite (fun _ => .pure ⟨fun e' he' => ?_, fun _ h =>
          (nomatch h)⟩) fun _ => .pure ⟨nofun, hu⟩
    cases he'
    exact he

/-- The runtime call whose answer carries an observation. -/
def Observed (l : Past) (sb : Sandbox) (observed : Observation) : Prop :=
  ∃ e, sb.assignment = some e ∧ latestReport l = some (e.identity sb.uid, some observed)

theorem follows_callCreate (hsh : Shown l sb) (he : sb.assignment = some e) :
    Follows P (callCreate sb e) (fun l' r => r.1.elim True (Observed l' sb)) l := by
  refine .then (follows_ask ⟨sb, e, hsh, he, rfl⟩) fun _ _ _ _ =>
    .then (follows_ask trivial) fun l' reply _ hl' => ?_
  have hp : ∀ observed, (CreateReply.response reply).bind (·.2) = some observed →
      Observed l' sb observed := by
    intro observed ho
    refine ⟨e, he, ?_⟩
    rw [hl', ← ho]
    rfl
  split
  · rename_i observed ha
    refine hp observed ?_
    unfold CreateReply.accepted at ha
    split at ha
    · rename_i hr _
      split_ifs at ha
      cases ha
      rw [hr]
      rfl
    · cases ha
  · refine .pure ?_
    cases hr : (CreateReply.response reply).bind (·.2) with
    | none => trivial
    | some observed => exact hp observed hr

theorem follows_createRuntimeOnTarget {declarative : Bool} (hsh : Shown l sb)
    (he : sb.assignment = some e) :
    Follows P (createRuntimeOnTarget sb e declarative)
      (fun l' r => r.1.elim True (Observed l' sb)) l := by
  have hr : Keeps P (reserveFor sb) l := by
    unfold reserveFor
    split
    · trivial
    · trivial
    · exact .perform ⟨trivial, Admits.ask _⟩ fun _ _ => trivial
  refine .then hr fun
    | _, .refused, _, _ => .ite (fun _ => trivial) fun _ => trivial
    | _, .notNeeded, hl, _ => ?_
    | _, .reserved, hl, _ => ?_
  all_goals
    refine .then (follows_ask trivial) ?_
    rintro _ (_ | _) hl' _
    · exact follows_callCreate ((hsh.mono hl).mono hl') he
    · trivial

theorem follows_ensureRuntime (hsh : Shown l sb) :
    Follows P (ensureRuntime sb) (fun l' => OnOk (Observed l' sb)) l :=
  .then (follows_assignedTarget sb) fun
    | _, .error _, _, _ => trivial
    | _, .ok _, hl1, ht => .then (follows_ask trivial) fun
      | _, some _, _, _ => trivial
      | _, none, hl2, _ => .then
        (follows_createRuntimeOnTarget ((hsh.mono hl1).mono hl2)
          (effectiveAssignment_ok (ht.1 _ rfl))) fun
        | _, (some _, _), _, h => h
        | _, (none, none), _, _ => trivial
        | _, (none, some _), _, _ => trivial

/-- Since `l`, an Inspect of the identity found nothing. -/
def NotFoundSince (l l' : Past) (id : SandboxIdentity) : Prop :=
  ∃ (earlier : Past) (reply : InspectReply) (disposition : Fastlet.CreateDisposition)
    (message : String),
    l <:+ earlier ∧ ⟨.ask (.awaitInspect id), reply⟩ :: earlier <:+ l' ∧
      reply.error = some (.fastlet disposition .notFound message)

theorem follows_observeRuntime (sb : Sandbox) : Follows P (observeRuntime sb) (fun l' r =>
      OnOk (Observed l' sb) r ∧ (∀ err, r = .error err → err.isNotFound →
        ∃ e, sb.assignment = some e ∧ NotFoundSince l l' (e.identity sb.uid)) ∧
      (r = .error .fastletUnavailable → ∃ a, sb.effectiveAssignment = .ok a)) l := by
  refine .then (follows_assignedTarget sb) fun
    | _, .error err, _, ht => ?_
    | l1, .ok e, hl1, ht => .then (follows_ask trivial) fun
      | l2, _, hl2, _ => .then (follows_ask trivial) fun _ reply _ hlt => ?_
  · refine .pure ⟨trivial, fun _ hr' hnot => ?_, fun hr => ?_⟩
    · cases hr'
      rw [(ht.2 err rfl).1] at hnot
      cases hnot
    · cases hr
      exact (ht.2 _ rfl).2 rfl
  · have he := effectiveAssignment_ok (ht.1 e rfl)
    refine .pure ⟨?_, fun err hr hnot => ⟨e, he, ?_⟩, fun _ => ⟨some e, ht.1 e rfl⟩⟩
    · unfold InspectReply.result
      split
      · trivial
      · rename_i hs
        refine ⟨e, he, ?_⟩
        rw [hlt, ← hs]
        rfl
      · trivial
    · unfold InspectReply.result at hr
      split at hr
      · rename_i callError hc
        cases hr
        cases callError with
        | fastlet disposition code message =>
          cases code with
          | notFound =>
            refine ⟨l2, reply, disposition, message, hl1.trans hl2, ?_, hc⟩
            rw [hlt]
          | _ => cases hnot
        | transport => cases hnot
      · cases hr
      · cases hr
        cases hnot

theorem follows_reconcileBindings (sb : Sandbox) :
    Follows P (reconcileBindings sb) (fun l' => OnOk (Observed l' sb)) l := by
  refine .then (follows_ask trivial) fun
    | _, some _, _, _ => trivial
    | _, none, _, _ => .then (follows_assignedTarget sb) fun
      | _, .error _, _, _ => trivial
      | _, .ok e, _, ht => .then (follows_ask trivial) fun
        | _, _, _, _ => .then (follows_ask trivial) fun _ _ _ hlt => ?_
  split
  · rename_i hs
    refine ⟨e, effectiveAssignment_ok (ht.1 e rfl), ?_⟩
    rw [hlt, ← hs]
    rfl
  · exact trivial
  · exact trivial

theorem follows_deleteRuntime {purpose : Purpose} (hsh : Shown l sb) :
    Follows P (deleteRuntime sb purpose) (fun l' r =>
      (r = .ok () → ∃ e, sb.effectiveAssignment = .ok (some e) ∧
        ⟨.ask (.awaitDelete (e.identity sb.uid)), (none : Option CallError)⟩ ∈ l') ∧
      (r = .error .fastletUnavailable → ∃ a, sb.effectiveAssignment = .ok a)) l := by
  refine .then (follows_assignedTarget sb) fun
    | _, .error err, _, ht => ?_
    | _, .ok e, hl1, ht => .then
      (follows_ask ⟨sb, e, hsh.mono hl1, effectiveAssignment_ok (ht.1 e rfl), rfl⟩) fun
      | _, _, _, _ => .then (follows_ask trivial) fun
        | _, some err, _, _ => ?_
        | _, none, _, hlt => ?_
  · refine .pure ⟨nofun, fun he => ?_⟩
    cases he
    exact (ht.2 _ rfl).2 rfl
  · exact .pure ⟨nofun, fun _ => ⟨some e, ht.1 e rfl⟩⟩
  · refine .pure ⟨fun _ => ⟨e, ht.1 e rfl, ?_⟩, nofun⟩
    rw [hlt]
    exact mem_cons_self

theorem follows_runtimeGone (sb : Sandbox) : Follows P (runtimeGone sb) (fun l' r =>
      (r = .ok true → ∃ e, sb.assignment = some e ∧ NotFoundSince l l' (e.identity sb.uid)) ∧
      (r = .error .fastletUnavailable → ∃ a, sb.effectiveAssignment = .ok a)) l := by
  refine .then (follows_observeRuntime sb) fun
    | _, .ok _, _, _ => .pure ⟨nofun, nofun⟩
    | _, .error err, _, h => .ite
      (fun hnot => .pure ⟨fun _ => h.2.1 err rfl hnot, nofun⟩)
      fun _ => .pure ⟨nofun, fun he => h.2.2 ?_⟩
  cases he
  rfl

theorem follows_checkpointCall {sb : Sandbox} {call : CheckpointCall} {id : String} :
    Keeps P (checkpointCall sb call id) l := by
  have ht : ∀ l, Keeps P (snapshotTarget sb) l := by
    intro l
    unfold snapshotTarget
    split
    · trivial
    · trivial
    · exact .then (follows_ask trivial) fun
        | _, none, _, _ => trivial
        | _, some _, _, _ => .ite (fun _ => trivial) fun _ => trivial
  exact .then (ht l) fun
    | _, .error _, _, _ => trivial
    | _, .ok _, _, _ => .then (follows_ask trivial) fun
      | _, _, _, _ => .then (follows_ask trivial) fun
        | _, .ok _, _, _ | _, .error _, _, _ => trivial

end Orchestrator

/-! ## The reconciler -/

section Reconciler

variable {P : Op → Prop} [Admits P] {l : Past} {sb : Sandbox} {e : AssignmentEnvelope}

theorem follows_assignedPodLost (sb : Sandbox) :
    Follows P (assignedPodLost sb) (fun l' => OnOk fun lost => lost →
      sb.status.placement.fastletName ≠ "" ∧
        Lost l' sb.status.placement.fastletName sb.status.placement.fastletPodUID) l := by
  refine .ite (fun _ => .pure nofun) fun hn =>
    .then (follows_ask trivial) fun
    | _, .absent, _, hlt => .pure fun _ => ⟨hn, .absent, ?_, rfl⟩
    | _, .failed, _, _ => trivial
    | _, .found pod, _, hlt => .pure fun hl => ⟨hn, .found pod, ?_, ?_⟩
  · rw [hlt]
    exact mem_cons_self
  · rw [hlt]
    exact mem_cons_self
  · exact hl

theorem follows_ensureFailed (assigned : Sandbox) (err : Failure) :
    Keeps P (ensureFailed assigned err) l := by
  refine .ite (fun _ => follows_patchPlain plain_waiting) fun _ => .ite
    (fun _ => .then (follows_reassignDeclarativeAfterRejection _) fun
      | _, .error _, _, _ | _, .ok true, _, _ => trivial
      | _, .ok false, _, _ => .then (follows_patchPlain plain_waiting) fun _ _ _ _ => trivial)
    fun _ => ?_
  split
  · exact .then (follows_patchPlain fun _ => .of_eq rfl rfl rfl) fun _ _ _ _ => trivial
  · trivial
  · trivial

variable {assigned : Sandbox} {observed : Observation}

theorem follows_projectObservation {asked : AssignmentEnvelope} {uid : String}
    (h : latestReport l = some (asked.identity uid, some observed)) :
    Keeps P (projectObservation assigned asked observed) l :=
  .ite
    (fun _ => .then (follows_modify ⟨_, rfl⟩ ⟨uid, h⟩) fun
      | _, .written _, _, _ | _, .stopped (.found _), _, _ | _, .stopped (.failure _), _, _
      | _, .absent, _, _ | _, .failed, _, _ => trivial)
    fun _ => follows_patchStatus ⟨_, rfl⟩ ⟨uid, h⟩

theorem follows_ensureObserved (h : Observed l assigned observed) :
    Keeps P (ensureObserved assigned observed) l := by
  unfold ensureObserved
  obtain ⟨e, he, hp⟩ := h
  split
  · trivial
  rename_i ha
  rw [he] at ha
  cases ha
  refine .ite (fun _ => .then (follows_reconcileBindings assigned) fun _ r _ hb => ?_)
    fun _ => follows_projectObservation hp
  split
  · exact follows_patchPlain ((fun _ => .of_eq rfl rfl rfl))
  · trivial
  obtain ⟨_, he', hr'⟩ := hb
  rw [he] at he'
  cases he'
  exact follows_projectObservation hr'

theorem follows_assignFailed (sb : Sandbox) (err : Failure) : Keeps P (assignFailed sb err) l := by
  unfold assignFailed
  split
  · exact follows_patchPlain fun _ => .of_eq rfl rfl rfl
  · exact .then (follows_patchPlain fun _ => .of_eq rfl rfl rfl) fun
      | _, .error _, _, _ => trivial
      | _, .ok _, _, _ => .then (follows_patchPlain plain_waiting) fun _ _ _ _ => trivial
  · exact follows_patchPlain plain_waiting
  · trivial

theorem follows_retryPause {sb : Sandbox} {id reason message : String} :
    Keeps P (retryPause sb id reason message) l :=
  .then follows_checkpointCall fun _ _ _ _ => follows_patchStatus ⟨_, _, _, rfl⟩ trivial

theorem follows_handlePauseCallError {sb : Sandbox} {err : Failure ⊕ SnapshotCallError} :
    Keeps P (handlePauseCallError sb err) l := by
  unfold handlePauseCallError
  split
  · exact follows_patchPlain fun _ => .of_eq rfl rfl rfl
  · trivial
  · trivial
  · exact .ite (fun _ => follows_patchPlain fun _ => .of_eq rfl rfl rfl) fun _ => trivial

variable (hsh : Shown l sb)
include hsh

/-- **The runtime is gone** for one of two reasons: the Fastlet said so, or its Pod is lost. -/
theorem follows_ensureAssignedRuntimeDeleted {purpose : Purpose} :
    Follows P (ensureAssignedRuntimeDeleted sb purpose) (fun l' => OnOk fun gone => gone →
      ∃ e, sb.assignment = some e ∧ GoneFor l' sb e) l := by
  -- the Pod of a consistent status is that of the assignment
  have hs : ∀ {l'} {a : Option AssignmentEnvelope}, sb.effectiveAssignment = .ok a →
      sb.status.placement.fastletName ≠ "" ∧
        Lost l' sb.status.placement.fastletName sb.status.placement.fastletPodUID →
      ∃ e, sb.assignment = some e ∧ GoneFor l' sb e := by
    rintro l' a ha ⟨hn, hs⟩
    obtain ⟨e, he, hp⟩ := projects_of_effective ha hn
    refine ⟨e, he, .inr ⟨hp, ?_⟩⟩
    unfold SandboxStatus.projects at hp
    simp only [Bool.and_eq_true, decide_eq_true_eq] at hp
    rw [hp.1.1.1.1, hp.1.1.1.2] at hs
    exact hs
  refine .then (follows_deleteRuntime hsh) fun _ r _ hd => ?_
  split
  · obtain ⟨a, ha⟩ := hd.2 rfl
    exact (follows_assignedPodLost sb).mono fun _ _ h => h.imp fun _ h hr => hs ha (h hr)
  · trivial
  obtain ⟨e, he, hm⟩ := hd.1 rfl
  refine .then (follows_runtimeGone sb) fun _ r _ hg => ?_
  split
  · refine .pure fun hr => ?_
    obtain ⟨_, he', earlier, reply, disposition, message, hl, hu, her⟩ := hg.1 (congrArg _ hr)
    rw [effectiveAssignment_ok he] at he'
    cases he'
    exact ⟨e, effectiveAssignment_ok he, .inl ⟨earlier, reply, disposition, message, hu, her,
      hl.subset hm⟩⟩
  · exact .then (follows_assignedPodLost sb) fun
      | _, .error _, _, _ => trivial
      | _, .ok true, _, h => .pure fun _ => hs he (h rfl)
      | _, .ok false, _, _ => trivial
  · trivial

theorem follows_ensureRuntimeDeleted {purpose : Purpose} :
    Follows P (ensureRuntimeDeleted sb purpose) (fun l' => OnOk fun r => r.1 →
      Shown l' r.2 ∧ Cleared l' r.2) l := by
  unfold ensureRuntimeDeleted
  split
  · rename_i hn
    split
    · exact trivial
    rename_i a ha
    refine .pure fun _ => ⟨hsh, .inl ⟨hn, ?_⟩⟩
    by_contra hm
    obtain ⟨e, he, -⟩ := projects_of_effective ha hm
    rw [hn] at he
    cases he
  · exact .then (follows_projectAssignmentToStatus true) fun
      | _, .error _, _, _ => trivial
      | _, .ok projected, _, h => .ite (fun _ => trivial) fun _ =>
        .then (follows_ensureAssignedRuntimeDeleted h) fun
        | _, .error _, _, _ => trivial
        | _, .ok _, hl, hg => .pure fun hr => ⟨Shown.mono h hl, .inr (hg hr)⟩

theorem follows_clearAssignment_of_cleared {cause : Cause}
    (ha : ∀ {l' : Past} {e}, GoneFor l' sb e → cause.Grounds l' sb e) (hl : Cleared l sb) :
    Follows P (clearAssignment sb cause cause.renews)
      (fun l' => OnOk fun sb => Shown l' sb ∧ sb.status.placement.fastletName = "") l := by
  refine follows_clearAssignment hsh fun e he => ha ?_
  rcases hl with ⟨hn, -⟩ | ⟨e', he', hg⟩
  · rw [hn] at he
    cases he
  · rw [he'] at he
    cases he
    exact hg

theorem follows_reconcileDeletion : Keeps P (reconcileDeletion sb) l :=
  .ite (fun _ => trivial) fun _ => .then (follows_ensureRuntimeDeleted hsh) fun
    | _, .error _, _, _ => trivial
    | _, .ok (false, _), _, _ =>
      .then (follows_patchPlain fun _ => .of_eq rfl rfl rfl) fun _ _ _ _ => trivial
    | _, .ok (true, _), _, h => .then (follows_modify rfl (h rfl)) fun
      | _, .written _, _, _ | _, .absent, _, _ | _, .stopped (.failure _), _, _
      | _, .stopped (.found _), _, _ | _, .failed, _, _ => trivial

theorem follows_reconcileExpiration : Keeps P (reconcileExpiration sb) l :=
  .then (follows_ensureRuntimeDeleted hsh) fun
    | _, .error _, _, _ | _, .ok (false, _), _, _ => trivial
    | _, .ok (true, _), _, h =>
      .ite (fun _ => follows_patchStatus ⟨_, rfl⟩ trivial) fun _ =>
        .then (follows_clearAssignment_of_cleared (h rfl).1 id (h rfl).2) fun
        | _, .error _, _, _ => trivial
        | _, .ok _, _, _ => follows_patchStatus ⟨_, rfl⟩ trivial

theorem follows_reconcileReset : Keeps P (reconcileReset sb) l :=
  .ite (fun hn => follows_patchStatus rfl ⟨hsh, hn⟩) fun _ =>
    .then (follows_ensureRuntimeDeleted hsh) fun
    | _, .error _, _, _ | _, .ok (false, _), _, _ => trivial
    | _, .ok (true, _), _, h =>
      .then (follows_clearAssignment_of_cleared (h rfl).1 id (h rfl).2) fun
      | _, .error _, _, _ => trivial
      | _, .ok _, _, h => follows_patchStatus rfl h

theorem follows_reconcileTerminalRuntimeFailure :
    Keeps P (reconcileTerminalRuntimeFailure sb) l := by
  refine .then (follows_ensureAssignedRuntimeDeleted hsh) fun _ r _ _ => ?_
  split
  all_goals trivial

theorem follows_reconcilePodLost
    (hs : sb.status.placement.fastletName ≠ "" ∧
      Lost l sb.status.placement.fastletName sb.status.placement.fastletPodUID)
    : Keeps P (reconcilePodLost sb) l := by
  refine .then (follows_ask trivial) fun l' _ hl _ => ?_
  have ho : ∀ e, sb.assignment = some e → Cause.podLost.Grounds l' sb e :=
    fun _ _ => ⟨hs.1, hs.2.mono hl⟩
  split
  · exact follows_patchPlain fun _ => .of_eq rfl rfl rfl
  exact .ite (fun _ => trivial) fun _ => .ite
    (fun _ => .ite (fun _ => trivial) fun _ =>
      .then (follows_clearAssignment (hsh.mono hl) ho) fun
      | _, .ok _, _, _ | _, .error _, _, _ => trivial)
    fun _ => follows_patchPlain fun _ => .of_eq rfl rfl rfl

theorem follows_ensureOrObserve {newlyAssigned : Bool} :
    Follows P (ensureOrObserve sb newlyAssigned) (fun l' => OnOk (Observed l' sb)) l :=
  .ite (fun _ => follows_ensureRuntime hsh) fun _ => .then (follows_observeRuntime sb) fun
    | _, .ok _, _, h => h.1
    | _, .error _, hl, _ => .ite (fun _ => follows_ensureRuntime (hsh.mono hl)) fun _ => trivial

theorem follows_ensureAssigned {newlyAssigned : Bool} :
    Keeps P (ensureAssigned sb newlyAssigned) l :=
  .then (follows_patchPlain fun _ => .of_eq rfl rfl rfl) fun
    | _, .error _, _, _ => trivial
    | _, .ok _, hl1, _ => .then (follows_ask trivial) fun _ _ hl2 _ =>
      .ite (fun _ => trivial) fun _ =>
        .then (follows_ensureOrObserve ((hsh.mono hl1).mono hl2)) fun
        | _, .error _, _, _ => follows_ensureFailed _ _
        | _, .ok _, _, h => follows_ensureObserved h

theorem follows_reconcileEnsure : Keeps P (reconcileEnsure sb) l := by
  have hs : Follows P (statusPodLost sb) (fun l' => OnOk fun lost => lost →
      sb.status.placement.fastletName ≠ "" ∧
        Lost l' sb.status.placement.fastletName sb.status.placement.fastletPodUID) l :=
    .ite (fun _ => .pure nofun) fun _ =>
      .then (follows_ask trivial) fun _ _ _ _ =>
        .ite (fun _ => .pure nofun) fun _ => follows_assignedPodLost sb
  exact .then hs fun
    | _, .error _, _, _ => trivial
    | _, .ok true, hl, h => follows_reconcilePodLost (hsh.mono hl) (h rfl)
    | _, .ok false, _, _ => .then (follows_assignDeclarativePreferring _ _) fun
      | _, .error _, _, _ => follows_assignFailed _ _
      | _, .ok (_, _), _, h => follows_ensureAssigned h

theorem follows_finishRelease (hg : ∀ e, sb.assignment = some e → GoneFor l sb e) :
    Keeps P (finishRelease sb) l :=
  .then (follows_clearAssignment hsh hg) fun
    | _, .error _, _, _ => trivial
    | _, .ok _, _, _ => follows_patchPlain fun _ => .of_eq rfl rfl rfl

theorem follows_releasePausedRuntime {id : String} : Keeps P (releasePausedRuntime sb id) l := by
  unfold releasePausedRuntime
  split
  · rename_i hn
    refine follows_finishRelease hsh fun e he => ?_
    rw [hn] at he
    cases he
  · refine .then (follows_ensureRuntimeDeleted hsh) fun
      | _, .error _, _, _ | _, .ok (false, _), _, _ => trivial
      | _, .ok (true, _), _, h => .then follows_checkpointCall fun _ _ hl _ =>
        follows_finishRelease ((h rfl).1.mono hl) fun e he => ?_
    rcases (h rfl).2 with ⟨hn, -⟩ | ⟨e', he', hg⟩
    · rw [hn] at he
      cases he
    · rw [he'] at he
      cases he
      exact hg.mono hl

theorem follows_projectPauseObservation {id : String} {observed : SnapshotStatus} :
    Keeps P (projectPauseObservation sb id observed) l := by
  have he : Keeps P (persistPauseCheckpoint sb id observed) l := by
    unfold persistPauseCheckpoint
    split
    · trivial
    · trivial
    · exact .then (follows_patchStatus ⟨_, rfl⟩ trivial) fun
        | _, .error _, _, _ => trivial
        | _, .ok _, hl, _ => follows_releasePausedRuntime (hsh.mono hl)
  unfold projectPauseObservation
  split
  · exact he
  · exact follows_retryPause
  all_goals exact follows_patchPlain fun _ => .of_eq rfl rfl rfl

variable (digest : String → String)

theorem follows_triggerPause : Keeps P (triggerPause digest sb) l :=
  .then follows_checkpointCall fun
    | _, .error _, _, _ => follows_handlePauseCallError
    | _, .ok _, hl, _ => follows_projectPauseObservation (hsh.mono hl)

theorem follows_observePause : Keeps P (observePause digest sb) l := by
  refine .then follows_checkpointCall fun _ r hl _ => ?_
  split
  · exact follows_retryPause
  · exact follows_handlePauseCallError
  · exact follows_projectPauseObservation (hsh.mono hl)

theorem follows_reconcilePause : Keeps P (reconcilePause digest sb) l := by
  unfold reconcilePause
  split
  · rename_i ha
    exact .ite (fun _ => trivial) fun _ =>
      .then (follows_clearAssignment hsh fun _ _ => ha) fun
      | _, .error _, _, _ | _, .ok _, _, _ => trivial
  · split
    · exact follows_releasePausedRuntime hsh
    · exact follows_observePause hsh digest
  · exact follows_triggerPause hsh digest
  iterate 5 exact follows_reconcileEnsure hsh
  all_goals exact follows_patchPlain fun _ => .of_eq rfl rfl rfl

theorem follows_reconcileVersion {now : Time} : Keeps P (reconcileVersion digest sb now) l := by
  refine .ite (fun _ => follows_reconcileDeletion hsh) fun _ => .ite
    (fun _ => .then (follows_modify ⟨_, rfl⟩ trivial) fun
      | _, .written _, _, _ | _, .stopped _, _, _ | _, .absent, _, _ | _, .failed, _, _ => trivial)
    fun _ => .ite (fun _ => follows_reconcileReset hsh) fun _ =>
      .ite (fun _ => follows_reconcileExpiration hsh) fun _ =>
        .ite (fun _ => follows_reconcileTerminalRuntimeFailure hsh) fun _ => ?_
  split
  · exact follows_releasePausedRuntime hsh
  · exact .ite (fun _ => follows_reconcilePause hsh digest) fun _ => follows_reconcileEnsure hsh

omit hsh in
theorem follows_reconcile (hd : P .dequeue) : Keeps P (reconcile digest) l :=
  .then (.perform (Q := fun _ _ => True) ⟨trivial, hd⟩ fun _ _ => trivial) fun _ _ _ _ =>
    .then (follows_get .cache) fun
    | _, .absent, _, _ | _, .failed, _, _ => trivial
    | _, .found _, _, h => .then (follows_ask trivial) fun _ _ hl _ =>
      follows_reconcileVersion (Shown.mono h hl) digest

end Reconciler

/-! ## FastPath -/

section FastPath

variable {P : Op → Prop} [Admits P] {l : Past}

def Loaded.Shows (l : Past) : Loaded → Prop
  | .accepted a => Shown l a.sandbox
  | .missing | .unassigned | .refused => True

theorem follows_protectIntent {sb : Sandbox} (hsh : Shown l sb) :
    Follows P (protectIntent sb) (fun l' r => r.elim True (Shown l')) l :=
  .ite (fun _ => hsh) fun _ =>
    .then (follows_modify ⟨_, rfl⟩ trivial) fun
    | _, .written _, _, h => h.2
    | _, .stopped _, _, _ | _, .absent, _, _ | _, .failed, _, _ => trivial

theorem follows_acceptLoaded {sb : Sandbox} (hsh : Shown l sb) :
    Follows P (acceptLoaded sb) Loaded.Shows l := by
  unfold acceptLoaded
  split
  · exact trivial
  · exact .then (follows_ask trivial) fun
      | _, none, _, _ => trivial
      | _, some _, hl, _ => hsh.mono hl

variable (call : CreateSandboxCall)

theorem follows_loadExistingCreateIntent (plan : Option AssignmentEnvelope) :
    Follows P (loadExistingCreateIntent call plan)
      Loaded.Shows l := by
  refine .then (follows_get .intent) fun
    | _, .absent, _, _ | _, .failed, _, _ => trivial
    | _, .found existing, _, h => .ite (fun _ => trivial)
      fun _ => .then (follows_protectIntent h) fun
      | _, none, _, _ => trivial
      | l', some existing, _, h => ?_
  dsimp only
  split
  · exact .then (follows_initializeAssignment fun _ h => nomatch h) fun
      | _, .error _, _, _ => trivial
      | _, .ok (_, _), _, h => follows_acceptLoaded h
  · exact follows_acceptLoaded h

theorem follows_finishRejectedCreate (accepted : AcceptedCreate) :
    Keeps Op.WellFormed (finishRejectedCreate accepted) l :=
  .ite (fun _ => trivial) fun _ =>
    .then (.perform (Q := fun _ _ => True) ⟨trivial, trivial⟩ fun _ _ => trivial) fun
    | _, .deleted, _, _ | _, .absent, _, _ | _, .failed, _, _ => trivial

variable {accepted : AcceptedCreate}

theorem follows_createRuntimeOnCandidate {candidate : Candidate}
    (hsh : Shown l accepted.sandbox) : Keeps P (createRuntimeOnCandidate accepted candidate) l :=
  .ite (fun _ => trivial) fun he => .ite
    (fun _ => (follows_createRuntimeOnTarget hsh (not_not.mp he)).mono fun _ _ _ => trivial)
    fun _ => trivial

theorem follows_assignCandidate {candidate : Candidate} {first : Bool}
    (hsh : Shown l accepted.sandbox) : Follows P (assignCandidate accepted candidate first)
      (fun l' r => r.elim True (Shown l' ·.sandbox)) l := by
  refine .ite (fun _ => hsh) fun _ => .then (follows_ask trivial) fun _ _ _ _ => ?_
  split
  · exact trivial
  rename_i hn
  obtain ⟨ha, hg, -⟩ := assignmentForCandidate_eq hn
  exact .then (follows_casAssignment hg ha) fun
    | _, .ok _, _, h => h
    | _, .error _, _, _ => trivial

theorem follows_provisionRuntime {pending : List Candidate} {tried : List String} {first : Bool}
    (budget : ℕ) (hsh : Shown l accepted.sandbox) :
    Keeps Op.WellFormed (provisionRuntime accepted pending tried first budget) l := by
  induction budget generalizing l accepted pending tried first with
  | zero => trivial
  | succ budget ih =>
    unfold provisionRuntime
    split
    · trivial
    refine .then (follows_assignCandidate hsh) fun _ _ _ ho => ?_
    split
    · trivial
    have hs1 := ho
    refine .then (follows_createRuntimeOnCandidate hs1) fun _ r hl2 _ => ?_
    split
    · trivial
    · trivial
    refine .ite (fun _ => trivial) fun _ =>
      .ite (fun _ => follows_finishRejectedCreate _) fun _ =>
        .ite (fun _ => ih (hs1.mono hl2)) fun _ =>
          .ite (fun _ => .then (follows_ask trivial) fun l3 more hl3 _ => ?_) fun _ =>
            follows_finishRejectedCreate _
    split
    · exact follows_finishRejectedCreate _
    · trivial
    · exact follows_finishRejectedCreate _
    · exact ih ((hs1.mono hl2).mono hl3)

theorem follows_resumeIntent : Keeps Op.WellFormed (resumeIntent call) l :=
  .then (follows_loadExistingCreateIntent _ _) fun
    | _, .missing, _, _ | _, .unassigned, _, _ | _, .refused, _, _ => trivial
    | _, .accepted _, _, h => .then (follows_provisionRuntime _ h) fun _ _ _ _ => trivial

theorem follows_acceptIntent (ranked : List Candidate) (plan : AssignmentEnvelope) :
    Keeps Op.WellFormed (acceptIntent call ranked plan) l := by
  have hc : Follows Op.WellFormed (create (call.planned plan))
      (fun l' r => r.shown.elim True (Shown l')) l :=
    .perform ⟨trivial, trivial⟩ fun x _ => shown_head (.create _) x
  exact .then hc fun
    | _, .created _, _, h => .then (follows_provisionRuntime _ h) fun _ _ _ _ => trivial
    | _, .failed, _, _ => .then (follows_loadExistingCreateIntent _ _) fun
      | _, .missing, _, _ | _, .unassigned, _, _ | _, .refused, _, _ => trivial
      | _, .accepted _, _, h => .then (follows_provisionRuntime _ h) fun _ _ _ _ => trivial

theorem follows_createSandbox : Keeps Op.WellFormed (createSandbox call) l := by
  refine .then (follows_ask trivial) fun _ r _ _ => ?_
  split
  · exact follows_resumeIntent _
  · exact follows_resumeIntent _
  · trivial
  refine .then (follows_ask trivial) fun _ _ _ _ => ?_
  split
  · trivial
  · exact follows_acceptIntent _ _ _

/-- **Every operation of every program is justified and well-formed.** -/
theorem follows_program (digest : String → String) (a : Actor) :
    Keeps Op.WellFormed (a.program digest) l :=
  match a with
  | .reconcile => .then (follows_reconcile digest trivial) fun _ _ _ _ => trivial
  | .createSandbox c => .then (follows_createSandbox c) fun _ (_, _) _ _ =>
    .perform ⟨trivial, trivial⟩ fun _ _ => trivial
  | .declare _ => .then (.perform (Q := fun _ _ => True) ⟨trivial, trivial⟩ fun _ _ => trivial)
    fun _ _ _ _ => trivial
  | .edit _ => .perform ⟨trivial, trivial⟩ fun _ _ => trivial
  | .delete _ => .then (.perform (Q := fun _ _ => True) ⟨trivial, trivial⟩ fun _ _ => trivial)
    fun _ _ _ _ => trivial
  | .world => .perform ⟨trivial, trivial⟩ fun _ _ => trivial

end FastPath

/-! ## Runs -/

def Record.entry (r : Record) : Σ op, Ans op := ⟨r.op, r.answer⟩

section Runs

variable {ν χ : Type} {E : Environment ν χ} {s s' : Cluster ν} {i : ℕ} {op : Op} {d : Decision χ}

theorem Cluster.answered_outcome (s : Cluster ν) (f : Sandbox → Verdict) :
    Answered f (s.outcome f) := by
  unfold outcome
  split
  · trivial
  rename_i sb _
  split
  · rename_i r hs
    exact ⟨sb, hs⟩
  · rename_i new hw
    exact ⟨sb, new, hw, rfl⟩

theorem Cluster.serveModify_answered {cached : Bool} {f : Sandbox → Verdict} {x : Modified}
    (h : s.serveModify cached f d = some (s', x)) : Answered f x := by
  cases d with
  | current =>
    cases h
    exact s.answered_outcome f
  | cached n =>
    simp only [serveModify] at h
    split_ifs at h
    split at h
    · rename_i r hs
      cases h
      obtain ⟨v, -, hv⟩ := map_eq_some_iff.mp hs
      exact ⟨v, hv⟩
    · cases h
  | missing =>
    simp only [serveModify] at h
    split_ifs at h
    cases h
    trivial
  | fail =>
    cases h
    trivial
  | created | world => cases h

theorem Cluster.handle_truthful {x : Ans op} (h : handle E s i op d = some (s', x)) :
    Truthful op x := by
  obtain ⟨⟨_, y⟩, hs, hp⟩ := map_eq_some_iff.mp h
  cases hp
  cases op with
  | modify | patch => exact serveModify_answered hs
  | _ => trivial

theorem Cluster.handle_ask {q : Ask} {x : q.Ans} (h : handle E s i (.ask q) d = some (s', x)) :
    ∃ c env, d = .world c ∧ E.step s.env q c = some (env, x) := by
  obtain ⟨⟨s1, y⟩, hs, hp⟩ := map_eq_some_iff.mp h
  obtain ⟨-, rfl⟩ := Prod.mk.inj hp
  cases d with
  | world c =>
    have ha : s.serveAsk E q (.world c) = some (s1, y) := hs
    simp only [serveAsk] at ha
    split at ha
    · cases ha
    rename_i env z ht
    split_ifs at ha
    cases ha
    exact ⟨c, env, rfl, ht⟩
  | current | fail applied | cached n | missing | created uid lost => cases hs

theorem Cluster.past_cons {r : Record} (ht : s'.trace = r :: s.trace) (j : ℕ) :
    s'.past j = if r.thread = j then ⟨r.op, r.answer⟩ :: s.past j else s.past j := by
  unfold past
  rw [ht, filter_cons]
  by_cases hj : r.thread = j
  · simp [hj]
  · simp [hj]

theorem recording (E : Environment ν χ) : (machine E).Recording past ended where
  own h := by
    rw [past_cons (handle_change h).2]
    exact if_pos rfl
  others h j hj := by
    rw [past_cons (handle_change h).2]
    exact if_neg (Ne.symm hj)
  stays h := handle_ended h
  leave_past _ _ := rfl
  leave_ended _ _ := rfl

variable {G : Cluster ν → ℕ → Op → Decision χ → Prop} {J : Cluster ν → Prop}
  {w : World (Shared (Cluster ν)) (Task Actor Op Ans)}

/-- **The rule for histories.** The programs are checked against what a thread remembers, and an
invariant is checked for the operations and answers that they rely on. -/
theorem invariant_of_histories (digest : String → String) {T : Past → (op : Op) → Ans op → Prop}
    {P : Past → Op → Prop}
    (hen : ∀ a : Actor, Along (Local.remembering (fun l op x => T l op x ∧ Truthful op x) P)
      (a.program digest) (fun _ _ => True) [])
    (ht : ∀ {s i op d s' x}, J s → i ∉ s.ended → op.WellFormed → P (s.past i) op → G s i op d →
      handle E s i op d = some (s', x) → J s' ∧ T (s.past i) op x)
    (hl : ∀ {s} (i : ℕ), J s → J (s.leave i)) {env : ν} (ha : J { env })
    (h : (system digest E).Reaches (Meets G) (start env) w) : J w.shared.state := by
  have hs := (recording E).sound
    (fun hJ hi hP hG hh =>
      have hn := ht hJ hi hP.2.2 hP.1 hG hh
      have hu := handle_truthful hh
      ⟨hn.1, ⟨hn.2, hu⟩, hu⟩) hl
    fun a _ => ((hen a).and (follows_program digest a)).mono fun _ _ _ => trivial
  have he : ∀ j ∈ (start env).shared.state.ended, j < 0 := nofun
  exact (hs.sound.outline.reaches (.start ⟨fun _ _ => rfl, he, ha⟩) h).inv.2.2

/-- **The rule for invariants of a run**: each is checked for a justified operation of a thread
that has not ended. -/
theorem invariant_of_reaches (digest : String → String)
    (hs : ∀ {s i op d s' x}, J s → i ∉ s.ended → op.WellFormed → Justified (s.past i) op →
      G s i op d → handle E s i op d = some (s', x) → J s')
    (hl : ∀ {s} (i : ℕ), J s → J (s.leave i)) {env : ν} (ha : J { env })
    (h : (system digest E).Reaches (Meets G) (start env) w) : J w.shared.state :=
  invariant_of_histories digest (T := fun _ _ _ => True)
    (fun a => (follows_program digest a).weaken (fun _ _ hP => hP.1) fun _ _ _ hx => hx.2)
    (fun hJ hi hw hP hG hh => ⟨hs hJ hi hw hP hG hh, trivial⟩) hl ha h

theorem Cluster.mem_past {entry : Σ op, Ans op} :
    entry ∈ s.past i ↔ ∃ r ∈ s.trace, r.thread = i ∧ r.entry = entry := by
  constructor
  · intro h
    obtain ⟨r, hr, rfl⟩ := mem_map.mp h
    obtain ⟨he, ht⟩ := mem_filter.mp hr
    exact ⟨r, he, of_decide_eq_true ht, rfl⟩
  · rintro ⟨r, hr, ht, rfl⟩
    exact mem_map.mpr ⟨r, mem_filter.mpr ⟨hr, decide_eq_true ht⟩, rfl⟩

end Runs

/-! ## The grounds of every operation -/

/-- Every operation is justified by the earlier ones of its thread. -/
def Grounded : List Record → Prop
  | [] => True
  | r :: earlier =>
    Justified ((earlier.filter (·.thread = r.thread)).map Record.entry) r.op ∧ Grounded earlier

/-- **Nothing is done without grounds.** -/
theorem operations_grounded {ν χ : Type} (digest : String → String) (E : Environment ν χ) (env : ν)
    {w : World (Shared (Cluster ν)) (Task Actor Op Ans)}
    (h : (system digest E).Reaches System.anyStep (start env) w) :
    Grounded w.shared.state.trace := by
  have hm : (system digest E).Reaches (Meets fun _ _ _ _ => True) (start env) w :=
    h.mono fun _ _ _ _ => by unfold Meets; split <;> trivial
  refine invariant_of_reaches digest (J := fun s => Grounded s.trace) ?_ (fun _ hJ => hJ) trivial hm
  intro s i op d s' x hJ _ _ hj _ hh
  rw [(handle_change hh).2]
  exact ⟨hj, hJ⟩

/-! ### Scripts -/

def fastletA : Candidate where
  podName := "fastlet-a"
  podUID := "pod-a"
  podIP := "10.0.0.1"
  runtimeProfileHash := "runtime"
  resourceProfileHash := "resource"
  infraRevision := "infra"

def sampleCall : CreateSandboxCall where
  requestID := "request-1"
  createSpecHash := "hash"
  spec := { failurePolicy := .autoRecreate }

/-- The steps of a script. `thread` is the place in the list of threads. -/
abbrev Script := List (Event Actor (Choice (Decision (Σ q : Ask, q.Ans))))

/-- The thread's operation is served from the current version. -/
def goOn (thread : ℕ) : Event Actor (Choice (Decision (Σ q : Ask, q.Ans))) :=
  .run thread (.go .current)

/-- The thread's question is answered. -/
def told (thread : ℕ) (q : Ask) (x : q.Ans) :
    Event Actor (Choice (Decision (Σ q : Ask, q.Ans))) :=
  .run thread (.go (.world ⟨q, x⟩))

def crash (thread : ℕ) : Event Actor (Choice (Decision (Σ q : Ask, q.Ans))) := .run thread .stop

def creation (ranked : List Candidate) : Script :=
  [.spawn (.createSandbox sampleCall), goOn 0, told 0 (.candidates []) (.ok ranked),
    told 0 .newID "id-1", .run 0 (.go (.created "uid-1" false))]

def firstRequest : CreateRequest where
  requestID := "request-1"
  identity :=
    { sandboxUID := "uid-1"
      instanceGeneration := 1
      runtimeInstanceID := "id-1"
      assignmentAttempt := 1
      routeGeneration := 1
      fastletPodUID := "pod-a" }
  specGeneration := 1
  restore := none

def projection : Script :=
  [.spawn .reconcile, goOn 0, goOn 0, goOn 0, told 0 .now (0 : ℕ), goOn 0, goOn 0, crash 0]

def resetRequest : Script :=
  [.spawn (.edit { sampleCall.spec with resetRevision := some 5 }), goOn 0, goOn 0, goOn 0]

/-- A reconcile deletes the runtime, finds it gone, clears the assignment and accepts the reset;
the next one assigns again and sends a Create. -/
def resetRun : Script :=
  [.spawn .reconcile, goOn 0, goOn 0, goOn 0, told 0 .now (0 : ℕ), goOn 0,
    told 0 (.registered "fastlet-a") (some fastletA),
    told 0 (.send (.delete firstRequest.identity .reset)) (),
    told 0 (.awaitDelete firstRequest.identity) none,
    told 0 (.registered "fastlet-a") (some fastletA),
    told 0 (.send (.inspect firstRequest.identity)) (),
    told 0 (.awaitInspect firstRequest.identity)
      ⟨none, some (.fastlet .rejectedBeforeSideEffects .notFound "")⟩,
    goOn 0, goOn 0, goOn 0, goOn 0, goOn 0, goOn 0,
    .spawn .reconcile, goOn 0, goOn 0, goOn 0, told 0 .now (0 : ℕ), goOn 0,
    told 0 (.candidates []) (.ok [fastletA]), told 0 .newID "id-2", goOn 0, goOn 0, goOn 0, goOn 0,
    goOn 0, told 0 .createActive false, told 0 (.registered "fastlet-a") (some fastletA),
    told 0 .resolve none, told 0 .reserveLocal .reserved, told 0 .resolve none]

def renewedRequest : CreateRequest where
  requestID := "request-1"
  identity :=
    { sandboxUID := "uid-1"
      instanceGeneration := 2
      runtimeInstanceID := "id-2"
      assignmentAttempt := 2
      routeGeneration := 2
      fastletPodUID := "pod-a" }
  specGeneration := 2
  restore := none

def sentCreates (trace : List Record) : List CreateRequest :=
  trace.filterMap fun r =>
    match r.op with
    | .ask (.send (.create request)) => some request
    | _ => none

/-- A reset: the runtime is deleted and found gone before the assignment is given up. -/
theorem reset_grounded : ∃ w : World (Shared (Cluster Unit)) (Task Actor Op Ans),
      sentCreates w.shared.state.trace = [renewedRequest] ∧ Grounded w.shared.state.trace := by
  obtain ⟨w, h, ht⟩ := System.exists_reaches_of_run (S := system id anyWorld) (w := start ())
    (creation [fastletA] ++ [crash 0] ++ projection ++ resetRequest ++ resetRun ++
      [told 0 (.send (.create renewedRequest)) ()])
    (fun w => decide (sentCreates w.shared.state.trace = [renewedRequest])) (by decide)
  exact ⟨w, of_decide_eq_true ht, operations_grounded id anyWorld () h⟩

end FastSandbox.ControlPlane
