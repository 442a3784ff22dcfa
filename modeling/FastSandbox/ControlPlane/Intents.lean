import FastSandbox.ControlPlane.AssignmentOrder

/-!
# Who may undo a Create

Calls of CreateSandbox with one request ID share an object. The call that created it rolls it back
when all its candidates have rejected; a replay that has taken the object up meanwhile may have been
admitted on the same assignment, and the rollback asks only for the UID.
-/

namespace FastSandbox.ControlPlane

open List Cluster Record Bool
open Interleaving Threads

/-! ## What a call has done -/

/-- The UID of the object that a call has created. -/
def creates : (Σ op, Ans op) → Option String
  | ⟨.create _, x⟩ => (Created.shown x).map (·.uid)
  | _ => none

/-- The UID of the intent that a call takes up: its own, or one it finds and that is not deleted. -/
def takes : (Σ op, Ans op) → Option String
  | ⟨.create _, x⟩ => (Created.shown x).map (·.uid)
  | ⟨.get .intent, x⟩ => (Fetched.shown x).bind fun sb => if sb.deleting then none else some sb.uid
  | _ => none

/-- The UID whose Create a Fastlet has accepted. -/
def accepts : (Σ op, Ans op) → Option String
  | ⟨.ask (.awaitCreate request), x⟩ =>
    (CreateReply.accepted x).map fun _ => request.identity.sandboxUID
  | _ => none

def Deleted.succeeded : Deleted → Bool
  | .deleted | .absent => true
  | .failed => false

/-- The UID that a rollback was told to be deleted. -/
def rollsBack : (Σ op, Ans op) → Option String
  | ⟨.delete uid true, x⟩ => if Deleted.succeeded x then some uid else none
  | _ => none

/-- The UID for which a call returns success. -/
def Op.succeeds : Op → Option String
  | .answer (.success uid) _ => some uid
  | _ => none

def Op.exhausts : Op → Option String
  | .answer .resourceExhausted own => own
  | _ => none

/-- Neither a rollback nor the end of a call. -/
def Op.harmless : Op → Bool
  | .delete _ true | .answer .. => false
  | _ => true

instance : Admits fun op => op.harmless = true where
  get _ := rfl
  modify _ := rfl
  patch _ := rfl
  ask _ := rfl

/-- An operation that takes the object of the call's intent to be the current one. -/
def Op.addressed : Op → Bool
  | .get .api | .modify false .protect _ | .modify false (.assign ..) _
  | .modify false (.advance ..) _ => true
  | _ => false

def Did (what : (Σ op, Ans op) → Option String) (l : Past) (uid : String) : Prop :=
  ∃ entry ∈ l, what entry = some uid

theorem Did.mono {what : (Σ op, Ans op) → Option String} {l l' : Past} {uid : String}
    (h : Did what l uid) (hl : l <:+ l') : Did what l' uid := by
  obtain ⟨entry, he, heq⟩ := h
  exact ⟨entry, hl.subset he, heq⟩

/-- The call has taken the intent up, and nothing else has come of it. -/
structure Holding (l : Past) (uid : String) : Prop where
  took : Did takes l uid
  clean : ∀ entry ∈ l, entry.1.harmless

theorem Holding.added {l l' : Past} {uid : String} (h : Holding l uid)
    (hl : Added (fun op => op.harmless) l l') : Holding l' uid :=
  ⟨h.took.mono hl.suffix, fun entry he => (hl.mem he).elim id (h.clean entry)⟩

/-! ## What FastPath checks -/

/-- What a call knows when it rolls back or answers. -/
def Entitled (l : Past) : Op → Prop
  | .delete uid true => Did creates l uid ∧ Holding l uid
  | .answer (.success uid) _ => Did accepts l uid ∧ Holding l uid
  | .answer .resourceExhausted (some uid) => Did rollsBack l uid
  | _ => True

/-- The registry ranks no Fastlet twice, and none that was tried. -/
def ranked : (op : Op) → Ans op → Prop
  | .ask (.candidates excluded) => fun (found : Except Failure (List Candidate)) =>
    ∀ list, found = .ok list → (list.map (·.podName)).Nodup ∧ ∀ c ∈ list, c.podName ∉ excluded
  | _ => fun _ => True

/-- The answers that a call relies on: the object is the one it has taken up. -/
def Consistent (l : Past) (op : Op) (x : Ans op) : Prop :=
  (op.addressed → ∀ uid, Did takes l uid → ∀ sb, shown op x = some sb → sb.uid = uid) ∧ ranked op x

abbrev Serves {α : Type} (p : Program α) (Q : Past → α → Prop) (l : Past) : Prop :=
  Along (Local.remembering (fun l op x => Consistent l op x ∧ Truthful op x) Entitled) p Q l

/-- The program neither rolls back nor ends the call. -/
abbrev Works {α : Type} (p : Program α) (Q : Past → α → Prop) (l : Past) : Prop :=
  Along (Local.remembering (fun l op x => Consistent l op x ∧ Truthful op x)
    fun _ op => op.harmless) p Q l

section

variable {l : Past} {α β : Type}

theorem entitled_of_harmless {op : Op} (h : op.harmless) : Entitled l op := by
  unfold Entitled
  split
  · cases h
  · cases h
  · cases h
  · trivial

variable {p q : Program α} {Q : Past → α → Prop}

/-- What is done before the end leaves the call in charge of its intent. -/
theorem Works.serves (h : Works p Q l) :
    Serves p (fun l' a => Added (fun op => op.harmless) l l' ∧ Q l' a) l :=
  (h.recall fun _ _ ho => ho).weaken (fun _ _ ho => entitled_of_harmless ho) fun _ _ _ hx => hx

theorem serves_then {f : α → Program β} {Q' : Past → β → Prop} (hp : Works p Q l)
    (hf : ∀ l' a, Added (fun op => op.harmless) l l' → Q l' a → Serves (f a) Q' l') :
    Serves (p >>= f) Q' l :=
  .bind (hp.serves.mono fun l' a h => hf l' a h.1 h.2)

theorem works_ask {q : Ask} : Works (ask q) (fun _ _ => True) l := .perform rfl fun _ _ => trivial

variable {uid : String}

theorem works_modify {cached : Bool} {kind : WriteKind} {f : Sandbox → Verdict}
    (h : Did takes l uid) (ha : (Op.modify cached kind f).addressed) :
    Works (modify cached kind f) (fun _ r => r.shown.elim True (·.uid = uid)) l :=
  .perform rfl fun _ hx => elim_of_forall (hx.1.1 ha uid h)

theorem works_reread (h : Did takes l uid) :
    Works (reread .api) (fun _ => OnOk (·.uid = uid)) l := by
  have hg : Works (get .api) (fun _ r => r.shown.elim True (·.uid = uid)) l :=
    .perform rfl fun _ hx => elim_of_forall (hx.1.1 rfl uid h)
  exact .then hg fun
    | _, .found _, _, h => h
    | _, .absent, _, _ | _, .failed, _, _ => trivial

end

/-! ## The programs -/

section FastPath

variable {l : Past} {uid : String}

theorem works_initializeAssignment (desired : AssignmentEnvelope) (h : Did takes l uid) :
    Works (initializeAssignment none desired)
      (fun _ => OnOk (·.1.uid = uid)) l :=
  .then (works_modify h rfl) fun
    | _, .written _, hl, _ => .then (works_reread (h.mono hl)) fun
      | _, .ok _, _, h => h
      | _, .error _, _, _ => trivial
    | _, .stopped (.found _), _, h => h
    | _, .stopped (.failure _), _, _ | _, .absent, _, _ | _, .failed, _, _ => trivial

theorem works_casAssignment (expected next : AssignmentEnvelope) (h : Did takes l uid) :
    Works (casAssignment expected next) (fun _ => OnOk (·.uid = uid)) l :=
  .then (works_modify h rfl) fun
    | _, .written _, _, h => h
    | _, .stopped (.failure _), _, _ | _, .stopped (.found _), _, _ | _, .absent, _, _
    | _, .failed, _, _ => trivial

theorem works_protectIntent {sb : Sandbox} (h : Did takes l uid) (hu : sb.uid = uid) :
    Works (protectIntent sb) (fun _ r => r.elim True (·.uid = uid)) l :=
  .ite (fun _ => hu) fun _ =>
    .then (works_modify h rfl) fun
    | _, .written _, _, h => h
    | _, .stopped _, _, _ | _, .absent, _, _ | _, .failed, _, _ => trivial

/-- What a replay goes on with: an intent it holds and has not created, with one candidate. -/
def Replays (l : Past) (a : AcceptedCreate) : Prop :=
  Holding l a.sandbox.uid ∧ a.created = false ∧ ∃ c, a.candidates = [c]

def Loaded.Replays (l : Past) : Loaded → Prop
  | .accepted a => ControlPlane.Replays l a
  | .missing | .unassigned | .refused => True

theorem serves_acceptLoaded {sb : Sandbox} (h : Holding l sb.uid) :
    Serves (acceptLoaded sb) Loaded.Replays l := by
  unfold acceptLoaded
  split
  · exact trivial
  · exact serves_then works_ask fun
      | _, none, _, _ => trivial
      | _, some c, hl, _ => ⟨h.added hl, rfl, c, rfl⟩

theorem adopts_deleting {call : CreateSandboxCall} {existing : Sandbox}
    (h : call.adopts existing) : existing.deleting = false := by
  unfold CreateSandboxCall.adopts at h
  simp only [and_eq_true, not_eq_true'] at h
  exact h.2

variable (call : CreateSandboxCall)

/-- How a call that holds an intent may end. -/
def Concluded (created : Bool) (uid : String) (l : Past) : CreateAnswer → Prop
  | .success uid' => uid' = uid ∧ Did accepts l uid ∧ Holding l uid
  | .resourceExhausted => created → Did rollsBack l uid
  | .refused => True

variable {accepted : AcceptedCreate}

theorem serves_finishRejectedCreate (hu : accepted.sandbox.uid = uid) (hh : Holding l uid)
    (hc : accepted.created → Did creates l uid) :
    Serves (finishRejectedCreate accepted) (Concluded accepted.created uid) l := by
  refine .ite (fun _ => trivial) fun hw => ?_
  have ho' : accepted.created := by simpa using hw
  have hd : Serves (delete accepted.sandbox.uid true) (fun l' r =>
      Deleted.succeeded r → Did rollsBack l' uid) l := by
    rw [hu]
    refine .perform ⟨hc ho', hh⟩ fun r _ hr => ⟨_, mem_cons_self, ?_⟩
    exact if_pos hr
  exact .then hd fun
    | _, .deleted, _, h | _, .absent, _, h => .pure fun _ => h rfl
    | _, .failed, _, _ => trivial

theorem works_callCreate (sb : Sandbox) (e : AssignmentEnvelope) :
    Works (callCreate sb e) (fun l' r => r.2 = none → Did accepts l' sb.uid) l := by
  have ha : ∀ l', Works (ask (.awaitCreate (sb.createRequest e))) (fun l'' reply =>
      ∀ o, CreateReply.accepted reply = some o → Did accepts l'' sb.uid) l' := by
    refine fun l' => .perform rfl fun reply _ o ho => ⟨_, mem_cons_self, ?_⟩
    show (CreateReply.accepted reply).map (fun _ => sb.uid) = some sb.uid
    rw [ho]
    rfl
  refine .then works_ask fun l1 _ _ _ => .then (ha l1) fun
    l2 reply _ h => ?_
  split
  · rename_i o ho
    exact .pure fun _ => h o ho
  · exact .pure nofun

theorem works_createRuntimeOnTarget (sb : Sandbox) (e : AssignmentEnvelope) (declarative : Bool) :
    Works (createRuntimeOnTarget sb e declarative)
      (fun l' r => r.2 = none → Did accepts l' sb.uid) l := by
  have he : Works (reserveFor sb) (fun _ _ => True) l := by
    unfold reserveFor
    split
    · trivial
    · trivial
    · exact .perform rfl fun _ _ => trivial
  refine .then he fun
    | _, .refused, _, _ => .ite (fun _ => .pure nofun) fun _ => .pure nofun
    | _, .notNeeded, _, _ => ?_
    | _, .reserved, _, _ => ?_
  all_goals
    refine .then works_ask ?_
    rintro _ (_ | _) _ _
    · exact works_callCreate sb e
    · exact .pure nofun

theorem works_createRuntimeOnCandidate (accepted : AcceptedCreate) (candidate : Candidate) :
    Works (createRuntimeOnCandidate accepted candidate)
      (fun l' r => r.2 = none → Did accepts l' accepted.sandbox.uid) l :=
  .ite (fun _ => .pure nofun) fun _ => .ite
    (fun _ => works_createRuntimeOnTarget _ _ _) fun _ => .pure nofun

theorem works_assignCandidate {candidate : Candidate} {first : Bool}
    (hu : accepted.sandbox.uid = uid) (h : Did takes l uid) :
    Works (assignCandidate accepted candidate first)
      (fun _ r => r.elim True fun a => a.sandbox.uid = uid ∧ a.created = accepted.created) l := by
  refine .ite (fun _ => ⟨hu, rfl⟩) fun _ => .then works_ask fun _ _ hl _ => ?_
  split
  · exact trivial
  · exact .then (works_casAssignment _ _ (h.mono hl)) fun
      | _, .ok _, _, h => ⟨h, rfl⟩
      | _, .error _, _, _ => trivial

theorem works_candidates (excluded : List String) : Works (candidates excluded)
      (fun _ r => ∀ list, r = .ok list →
        (list.map (·.podName)).Nodup ∧ ∀ c ∈ list, c.podName ∉ excluded) l :=
  .perform rfl fun _ hx => hx.1.2

/-- **The loop of `provisionRuntime`.** As long as there is an untried candidate, it ends with an
accepted Create, with a rollback, or without a word about the intent. -/
theorem serves_provisionRuntime {pending : List Candidate} {tried : List String} {first : Bool}
    {budget : ℕ} (hi : accepted.sandbox.uid = uid) (hh : Holding l uid)
    (hr : accepted.created → Did creates l uid) (hb : budget ≠ 0)
    (hp : pending ≠ []) (hd : (pending.map (·.podName)).Nodup)
    (hn : ∀ c ∈ pending, c.podName ∉ tried) :
    Serves (provisionRuntime accepted pending tried first budget)
      (Concluded accepted.created uid) l := by
  induction budget generalizing l accepted pending tried first with
  | zero => exact absurd rfl hb
  | succ budget ih =>
    unfold provisionRuntime
    obtain ⟨candidate, rest, rfl⟩ := exists_cons_of_ne_nil hp
    have hhd : (candidate :: rest).dropWhile (tried.contains ·.podName) = candidate :: rest := by
      have hn' := hn candidate mem_cons_self
      simp [hn']
    rw [hhd]
    rw [map_cons, nodup_cons] at hd
    refine serves_then (works_assignCandidate hi hh.took) ?_
    rintro l1 (_ | moved) hl1 ho
    · trivial
    obtain ⟨hu1, hsm⟩ := ho
    rw [← hsm] at hr ⊢
    refine serves_then (works_createRuntimeOnCandidate moved candidate) fun l2 r hl2 ha => ?_
    have hh2 := (hh.added hl1).added hl2
    have hr2 : moved.created → Did creates l2 uid :=
      fun h => ((hr h).mono hl1.suffix).mono hl2.suffix
    split
    · rw [hu1] at ha ⊢
      exact .pure ⟨rfl, ha rfl, hh2⟩
    · trivial
    refine .ite (fun _ => trivial) fun _ => .ite
      (fun _ => serves_finishRejectedCreate hu1 hh2 hr2) fun hb' =>
        .ite (fun hrs => ih hu1 hh2 hr2 hb' hrs hd.2 ?_)
          fun _ => .ite (fun _ => serves_then (works_candidates _)
            fun l3 _ hl3 hmr => ?_)
            fun _ => serves_finishRejectedCreate hu1 hh2 hr2
    · intro c hc he
      rcases mem_cons.mp he with heq | he
      · exact hd.1 (heq ▸ mem_map_of_mem hc)
      · exact hn c (mem_cons_of_mem _ hc) he
    · have hh3 := hh2.added hl3
      have hr3 : moved.created → Did creates l3 uid := fun h => (hr2 h).mono hl3.suffix
      split
      · exact serves_finishRejectedCreate hu1 hh3 hr3
      · trivial
      · exact serves_finishRejectedCreate hu1 hh3 hr3
      rename_i list hs
      obtain ⟨hlt, hli⟩ := hmr list rfl
      refine ih hu1 hh3 hr3 hb' ?_ ?_ ?_
      · intro hm
        rcases take_eq_nil_iff.mp hm with h | h
        · exact hb' h
        · exact hs h
      · rw [map_take]
        exact hlt.sublist (take_sublist _ _)
      · exact fun c hc => hli c ((take_sublist _ _).subset hc)

theorem Concluded.entitled {created : Bool} {own : Option String} {answer : CreateAnswer}
    (h : Concluded created uid l answer) (ho : ∀ uid', own = some uid' → created ∧ uid' = uid) :
    Entitled l (.answer answer own) := by
  cases answer with
  | success =>
    obtain ⟨rfl, ha, hh⟩ := h
    exact ⟨ha, hh⟩
  | resourceExhausted =>
    cases own with
    | none => trivial
    | some uid' =>
      obtain ⟨hc, rfl⟩ := ho uid' rfl
      exact h hc
  | refused => trivial

theorem serves_replay {a : AcceptedCreate} (h : Replays l a) :
    Serves a.provision (fun l' answer => Entitled l' (.answer answer none)) l := by
  obtain ⟨hh, hc, c, ha⟩ := h
  unfold AcceptedCreate.provision
  rw [ha]
  have hnot : a.created → Did creates l a.sandbox.uid := by
    intro ho
    rw [hc] at ho
    cases ho
  have hn : ([c].map (·.podName)).Nodup := nodup_singleton _
  have hu : ∀ c' ∈ [c], c'.podName ∉ ([] : List String) := fun _ _ => not_mem_nil
  refine (serves_provisionRuntime rfl hh hnot (by decide) (cons_ne_nil _ _) hn
    hu).mono fun _ _ h => h.entitled fun _ heq => nomatch heq

section

variable (hcl : ∀ entry ∈ l, entry.1.harmless)
include hcl

theorem serves_loadExistingCreateIntent (plan : Option AssignmentEnvelope) :
    Serves (loadExistingCreateIntent call plan) Loaded.Replays l := by
  have hg : Serves (get .intent) (fun l' r => ∀ sb, r = .found sb → sb.deleting = false →
      Holding l' sb.uid) l := by
    refine .perform trivial fun r _ sb hr hd => ⟨⟨_, mem_cons_self, ?_⟩,
      forall_mem_cons.mpr ⟨rfl, hcl⟩⟩
    rw [hr]
    show (if sb.deleting then none else some sb.uid) = some sb.uid
    rw [hd]
    rfl
  refine .then hg fun
    | _, .absent, _, _ | _, .failed, _, _ => trivial
    | l1, .found existing, _, h => .ite (fun _ => trivial) fun ha => ?_
  have hh := h existing rfl (adopts_deleting (by simpa using ha))
  refine serves_then (works_protectIntent hh.took rfl) fun
    | _, none, _, _ => trivial
    | l2, some existing2, hl2, hi => ?_
  have hh2 : Holding l2 existing2.uid := by
    rw [show existing2.uid = existing.uid from hi]
    exact hh.added hl2
  dsimp only
  split
  · refine serves_then (works_initializeAssignment _ hh2.took) fun
      | _, .error _, _, _ => trivial
      | l3, .ok (existing3, _), hl3, hu3 => ?_
    refine serves_acceptLoaded ?_
    rw [show existing3.uid = existing2.uid from hu3]
    exact hh2.added hl3
  · exact serves_acceptLoaded hh2

theorem serves_resumeIntent :
    Serves (resumeIntent call) (fun l' r => Entitled l' (.answer r.1 r.2)) l :=
  .then (serves_loadExistingCreateIntent call hcl none) fun
    | _, .missing, _, _ | _, .unassigned, _, _ | _, .refused, _, _ => trivial
    | _, .accepted _, _, h => .then (serves_replay h) fun _ _ _ h => .pure h

theorem serves_acceptIntent {ranked : List Candidate} (plan : AssignmentEnvelope)
    (ha : ranked ≠ []) (hn : (ranked.map (·.podName)).Nodup) :
    Serves (acceptIntent call ranked plan) (fun l' r => Entitled l' (.answer r.1 r.2)) l := by
  have hc : Serves (create (call.planned plan)) (fun l' r =>
      (∀ entry ∈ l', entry.1.harmless) ∧
        ∀ sb, r = .created sb → Did creates l' sb.uid ∧ Did takes l' sb.uid) l := by
    refine .perform trivial fun r _ => ⟨forall_mem_cons.mpr ⟨rfl, hcl⟩, fun sb hr => ?_⟩
    rw [hr]
    exact ⟨⟨_, mem_cons_self, rfl⟩, _, mem_cons_self, rfl⟩
  refine .then hc fun
    | l1, .created sb, _, h => .then (serves_provisionRuntime rfl ⟨(h.2 sb rfl).2, h.1⟩
        (fun _ => (h.2 sb rfl).1) (by decide) ha hn fun _ _ => not_mem_nil) fun
      _ _ _ h => .pure (h.entitled fun _ heq => ?_)
    | _, .failed, _, h => .then (serves_loadExistingCreateIntent call h.1 (some plan)) fun
      | _, .missing, _, _ | _, .unassigned, _, _ | _, .refused, _, _ => trivial
      | _, .accepted _, _, h => .then (serves_replay h) fun _ _ _ h => .pure h
  cases heq
  exact ⟨rfl, rfl⟩

theorem serves_createSandbox :
    Serves (createSandbox call) (fun l' r => Entitled l' (.answer r.1 r.2)) l := by
  have he : ∀ {l'}, Added (fun op => op.harmless) l l' → ∀ entry ∈ l', entry.1.harmless :=
    fun hl entry hn => (hl.mem hn).elim id (hcl entry)
  refine serves_then (works_candidates []) fun _ r hl1 ha => ?_
  split
  · exact serves_resumeIntent call (he hl1)
  · exact serves_resumeIntent call (he hl1)
  · trivial
  refine serves_then works_ask fun _ _ hl2 _ => ?_
  split
  · trivial
  · refine serves_acceptIntent call ?_ _ (cons_ne_nil _ _) (ha _ rfl).1
    exact fun entry hn => (hl2.mem hn).elim id (he hl1 entry)

end

theorem serves_reconcile (digest : String → String) :
    Serves (reconcile digest) (fun _ _ => True) l :=
  (follows_reconcile digest (P := fun op => op.harmless) rfl).weaken
    (fun _ _ h => entitled_of_harmless h.2) fun _ _ _ hx => hx.2

/-- **Every call is entitled to its rollback and its answer.** -/
theorem serves_program (digest : String → String) (a : Actor) :
    Serves (a.program digest) (fun _ _ => True) [] :=
  match a with
  | .reconcile => .then (serves_reconcile digest) fun _ _ _ _ => trivial
  | .createSandbox c => .then (serves_createSandbox c (forall_mem_nil _)) fun _ (_, _) _ h =>
    .perform h fun _ _ => trivial
  | .declare _ => .then (.perform (Q := fun _ _ => True) trivial fun _ _ => trivial)
    fun _ _ _ _ => trivial
  | .edit _ => .perform trivial fun _ _ => trivial
  | .delete _ => .then (.perform (Q := fun _ _ => True) trivial fun _ _ => trivial)
    fun _ _ _ _ => trivial
  | .world => .perform trivial fun _ _ => trivial

end FastPath

/-! ## Runs -/

/-- The UID of the intent that a rollback has removed, or was told to be removed. -/
def Record.rolledBack (r : Record) : Option String :=
  match r.op with
  | .delete uid true => if rollsBack r.entry = none ∧ r.after = r.before then none else some uid
  | _ => none

/-- No intent is both reported as a success and rolled back; and whoever created an intent and is
told that resources are exhausted finds it deleted. -/
structure Honoured (trace : List Record) : Prop where
  exclusive : ∀ r ∈ trace, ∀ r' ∈ trace, ∀ uid, r.op.succeeds = some uid → r'.rolledBack ≠ some uid
  exhausted : ∀ r ∈ trace, ∀ uid, r.op.exhausts = some uid →
    ∀ sb ∈ r.before, sb.uid = uid → sb.deleting

/-- A rollback finds no other call that has taken the intent up and still runs, or whose Create a
Fastlet has accepted; and as long as a call runs, the object is the one it has taken up. -/
def Undisputed {ν : Type} (s : Cluster ν) (i : ℕ) : Op → Prop
  | .delete uid true => ∀ r ∈ s.trace, r.thread ≠ i → takes r.entry = some uid →
      r.thread ∈ s.ended ∧ ∀ r' ∈ s.trace, r'.thread = r.thread → accepts r'.entry ≠ some uid
  | op => op.addressed → ∀ r ∈ s.trace, r.thread = i → ∀ uid ∈ takes r.entry,
      ∀ sb ∈ s.object, sb.uid = uid

instance {ν : Type} (s : Cluster ν) (i : ℕ) (op : Op) : Decidable (Undisputed s i op) := by
  unfold Undisputed
  split
  all_goals infer_instance

section Runs

variable {ν χ : Type} {E : Environment ν χ} {s s' : Cluster ν} {i : ℕ} {op : Op} {d : Decision χ}
  {uid : String}

/-- The object of this UID is deleted, or gone for good. -/
def Dead (s : Cluster ν) (uid : String) : Prop :=
  (∃ v ∈ s.versions, v.uid = uid) ∧ ∀ sb ∈ s.object, sb.uid = uid → sb.deleting

structure Custody (s : Cluster ν) : Prop extends Honoured s.trace where
  known : ∀ sb ∈ s.object, sb ∈ s.versions
  taken : ∀ r ∈ s.trace, ∀ uid, takes r.entry = some uid → ∃ v ∈ s.versions, v.uid = uid
  dead : ∀ r ∈ s.trace, ∀ uid, r.rolledBack = some uid → Dead s uid
  settled : ∀ r ∈ s.trace, ∀ uid, r.rolledBack = some uid →
    ∀ r' ∈ s.trace, takes r'.entry = some uid → r'.thread ∈ s.ended ∨ r'.thread = r.thread
  earned : ∀ r ∈ s.trace, ∀ uid, r.op.succeeds = some uid →
    Did takes (s.past r.thread) uid ∧ Did accepts (s.past r.thread) uid

/-! ### One operation -/

theorem Dead.change (h : Dead s uid) (hw : op.WellFormed) (hc : Change s op s') : Dead s' uid := by
  obtain ⟨⟨v, hv, hvd⟩, hd⟩ := h
  refine ⟨⟨v, hc.versions_subset hv, hvd⟩, fun a ha hau => ?_⟩
  rcases hc.object_cases hw ha with hs | ⟨sb, _, ho, he, rfl⟩ | ⟨-, hf⟩
  · exact hd a hs hau
  · obtain ⟨hu, hk⟩ := he.keeps
    exact hk (hd sb ho (hu.symm.trans hau))
  · exact absurd (hvd.trans hau.symm) (hf v hv)

variable {x : Ans op} {sb sb' : Sandbox}

theorem store_deleting (h : sb'.deleting) : ∀ sb ∈ (s.store sb').object, sb.deleting := by
  rcases s.store_cases sb' with ⟨ho, -⟩ | ⟨hg, -⟩
  · rw [ho]
    exact fun _ heq => by cases heq; exact h
  · rw [hg]
    exact fun _ heq => nomatch heq

theorem apply_deleting (s : Cluster ν) (uid : String) :
    ∀ sb ∈ (s.apply (deleting uid)).object, sb.uid = uid → sb.deleting := by
  unfold apply
  split
  · rename_i hn
    rw [hn]
    exact fun _ heq => nomatch heq
  rename_i sb0 ho
  split
  · rename_i r ht
    rw [ho]
    intro sb hs hu
    cases hs
    unfold deleting at ht
    rw [if_neg (not_not.mpr hu)] at ht
    split_ifs at ht with hd
    exact hd
  · rename_i new hw
    have he : (Op.delete uid true).Effect sb0 new := Op.effect_of_write trivial rfl hw
    obtain ⟨-, -, rfl⟩ := he
    exact fun sb hs _ => store_deleting rfl sb hs

theorem stop_found_eq {cached : Bool} {kind : WriteKind} {f : Sandbox → Verdict}
    (hw : kind.Closure f) (ha : (Op.modify cached kind f).addressed)
    (h : f sb = .stop (.found sb')) : sb' = sb := by
  cases kind with
  | protect =>
    obtain ⟨_, rfl⟩ := hw
    unfold protecting at h
    split_ifs at h
    cases h
  | assign =>
    rw [hw.1] at h
    unfold initializing at h
    split at h
    · cases h
    split at h
    · cases h
      rfl
    · cases h
  | advance expected next =>
    rw [show f = advancing expected next from hw.1] at h
    unfold advancing at h
    split at h
    · cases h
    split at h
    · cases h
    · split at h
      · cases h
      · split at h <;> cases h
  | finalize | remove | project | observe | failure | reset | expire | checkpoint | pauseRetry
  | status => cases cached <;> cases ha

theorem ranked_of_fair {q : Ask} {x : q.Ans} (h : s.fair q x) : ranked (.ask q) x := by
  cases q with
  | candidates excluded =>
    intro list hl
    rw [hl] at h
    have hb : (decide (list.map (·.podName)).Nodup && list.all (·.podName ∉ excluded)) := h
    rw [and_eq_true, decide_eq_true_eq, all_eq_true] at hb
    exact ⟨hb.1, fun c hc => of_decide_eq_true (hb.2 c hc)⟩
  | getPod | send | awaitCreate | awaitInspect | awaitDelete | awaitCheckpoint | registered
  | resolve
  | reserveLocal | createActive | now | newID | world => trivial

section

variable (h : handle E s i op d = some (s', x))
include h

theorem handle_takes (ht : takes ⟨op, x⟩ = some uid) :
    (∀ v ∈ s.versions, v.uid ≠ uid) ∧ (∃ v ∈ s'.versions, v.uid = uid) ∨
      ∃ sb ∈ s.object, sb.uid = uid ∧ sb.deleting = false := by
  obtain ⟨⟨s1, y⟩, hs, hp⟩ := Option.map_eq_some_iff.mp h
  cases hp
  cases op with
  | create sb =>
    left
    have hc : s.serveCreate sb d = some (s1, x) := hs
    cases d with
    | created uid' lost =>
      simp only [Cluster.serveCreate] at hc
      split_ifs at hc with hk
      · cases hc
        cases ht
      · cases hc
        cases ht
        exact ⟨hk.2.2, _, mem_cons_self, rfl⟩
    | fail applied =>
      cases hc
      cases ht
    | current | cached n | missing | world c => cases hc
  | get source =>
    cases source with
    | intent =>
      right
      obtain ⟨y, hf, hp⟩ := Option.map_eq_some_iff.mp hs
      cases hp
      cases d with
      | current =>
        cases hf
        cases ho : s.object with
        | none =>
          rw [ho] at ht
          cases ht
        | some sb =>
          rw [ho] at ht
          have hi : (if sb.deleting then none else some sb.uid) = some uid := ht
          split_ifs at hi with hd
          cases hi
          exact ⟨sb, rfl, rfl, eq_false_of_not_eq_true hd⟩
      | fail applied =>
        cases hf
        cases ht
      | cached n | missing | created uid' lost | world c => cases hf
    | cache | api => cases ht
  | modify | patch | delete | edit | ask | dequeue | answer => cases ht

theorem handle_rolledBack (hb : rolledBack ⟨i, op, x, s.object, s'.object⟩ = some uid) :
    op = .delete uid true ∧ ∀ sb ∈ s'.object, sb.uid = uid → sb.deleting := by
  obtain ⟨⟨s1, y⟩, hs, hp⟩ := Option.map_eq_some_iff.mp h
  cases hp
  unfold rolledBack at hb
  dsimp only at hb
  split at hb
  · split_ifs at hb with hlt
    cases hb
    refine ⟨rfl, ?_⟩
    have hd : s.serveDelete uid d = some (s1, x) := hs
    cases d with
    | current =>
      cases hd
      exact apply_deleting s uid
    | fail applied =>
      cases hd
      cases applied with
      | true => exact apply_deleting s uid
      | false => exact absurd ⟨rfl, rfl⟩ hlt
    | cached n | missing | created uid' lost | world c => cases hd
  · cases hb

theorem handle_addressed (hw : op.WellFormed) (ha : op.addressed)
    (hs : shown op x = some sb) : ∃ sb0 ∈ s.object, sb.uid = sb0.uid := by
  obtain ⟨⟨s1, y⟩, hv, hp⟩ := Option.map_eq_some_iff.mp h
  cases hp
  cases op with
  | get source =>
    cases source with
    | api =>
      obtain ⟨z, hf, hp⟩ := Option.map_eq_some_iff.mp hv
      cases hp
      cases d with
      | current =>
        cases hf
        cases hb : s.object with
        | none =>
          rw [hb] at hs
          cases hs
        | some sb0 =>
          rw [hb] at hs
          cases hs
          exact ⟨sb, rfl, rfl⟩
      | fail applied =>
        cases hf
        cases hs
      | cached n | missing | created uid' lost | world c => cases hf
    | cache | intent => cases ha
  | modify cached kind f =>
    have hc : cached = false := by
      cases cached with
      | false => rfl
      | true => cases kind <;> cases ha
    subst hc
    have hd : s.serveModify false f d = some (s1, x) := hv
    cases d with
    | current =>
      cases hd
      have ho : (s.outcome f).shown = some sb := hs
      unfold outcome at ho
      split at ho
      · cases ho
      rename_i sb0 hb
      refine ⟨sb0, hb, ?_⟩
      split at ho
      · rename_i r ht
        cases r with
        | failure err => cases ho
        | found sb1 =>
          cases ho
          rw [stop_found_eq hw ha ht]
      · rename_i new hr
        cases ho
        have he : (Op.modify false kind f).Effect sb0 new := Op.effect_of_write hw rfl hr
        exact he.keeps.1
    | fail applied =>
      cases hd
      cases hs
    | cached n | missing | created uid' lost | world c => cases hd
  | create | patch | delete | edit | ask | dequeue | answer => cases ha

theorem handle_ranked : ranked op x := by
  obtain ⟨⟨s1, y⟩, hs, hp⟩ := Option.map_eq_some_iff.mp h
  cases hp
  cases op with
  | ask q =>
    have ha : s.serveAsk E q d = some (s1, x) := hs
    cases d with
    | world c =>
      simp only [serveAsk] at ha
      split at ha
      · cases ha
      · split_ifs at ha with hf
        cases ha
        exact ranked_of_fair hf
    | current | fail applied | cached n | missing | created uid lost => cases ha
  | get | modify | patch | create | delete | edit | dequeue | answer => trivial

theorem handle_consistent (hw : op.WellFormed) (hG : Undisputed s i op) :
    Consistent (s.past i) op x := by
  refine ⟨fun ha uid hd _ hs => ?_, handle_ranked h⟩
  obtain ⟨sb0, ho, hu⟩ := handle_addressed h hw ha hs
  obtain ⟨_, he, hk⟩ := hd
  obtain ⟨r, hr, ht, rfl⟩ := mem_past.mp he
  unfold Undisputed at hG
  split at hG
  · cases ha
  · rw [hu]
    exact hG ha r hr ht uid hk sb0 ho

end

/-! ### Whole runs -/

variable {r : Record}

theorem rolledBack_of_rollsBack (h : rollsBack r.entry = some uid) : r.rolledBack = some uid := by
  obtain ⟨_, op, x, _, _⟩ := r
  cases op with
  | delete uid' rollback =>
    cases rollback with
    | true =>
      unfold rolledBack
      dsimp only
      rw [h, if_neg (fun hb => nomatch hb.1)]
      have hi : (if Deleted.succeeded x then some uid' else none) = some uid := h
      split_ifs at hi
      exact hi
    | false => cases h
  | get | modify | patch | create | edit | ask | dequeue | answer => cases h

theorem rolledBack_op (h : r.rolledBack = some uid) : r.op = .delete uid true := by
  unfold rolledBack at h
  split at h
  · rename_i ho
    split_ifs at h
    cases h
    exact ho
  · cases h

theorem Did.trace {what : (Σ op, Ans op) → Option String} (h : Did what (s.past i) uid) :
    ∃ r ∈ s.trace, r.thread = i ∧ what r.entry = some uid := by
  obtain ⟨entry, he, heq⟩ := h
  obtain ⟨r, hr, ht, rfl⟩ := mem_past.mp he
  exact ⟨r, hr, ht, heq⟩

theorem Entitled.of_succeeds {l : Past} (h : Entitled l op) (ho : op.succeeds = some uid) :
    Did accepts l uid ∧ Holding l uid := by
  cases op with
  | answer a =>
    cases a with
    | success uid' =>
      cases ho
      exact h
    | resourceExhausted | refused => cases ho
  | get | modify | patch | create | delete | edit | ask | dequeue => cases ho

theorem Entitled.of_exhausts {l : Past} (h : Entitled l op) (ho : op.exhausts = some uid) :
    Did rollsBack l uid := by
  cases op with
  | answer a =>
    cases a with
    | resourceExhausted =>
      cases ho
      exact h
    | success | refused => cases ho
  | get | modify | patch | create | delete | edit | ask | dequeue => cases ho

theorem succeeds_not_harmless (h : op.succeeds = some uid) : op.harmless = false := by
  cases op with
  | answer => rfl
  | get | modify | patch | create | delete | edit | ask | dequeue => cases h

theorem takes_of_creates {entry : Σ op, Ans op} (h : creates entry = some uid) :
    takes entry = some uid := by
  obtain ⟨op, x⟩ := entry
  cases op with
  | create => exact h
  | get | modify | patch | delete | edit | ask | dequeue | answer => cases h

theorem not_rolledBack_of_success (hJ : Custody s) (hi : i ∉ s.ended)
    (hh : Holding (s.past i) uid) (hr : r ∈ s.trace) : r.rolledBack ≠ some uid := by
  intro hb
  obtain ⟨r', hr', ht, hk⟩ := hh.took.trace
  rcases hJ.settled r hr uid hb r' hr' hk with he | hs
  · exact hi (ht ▸ he)
  have hm : r.entry ∈ s.past i := mem_past.mpr ⟨r, hr, hs ▸ ht, rfl⟩
  have ha : r.op.harmless := hh.clean r.entry hm
  rw [rolledBack_op hb] at ha
  cases ha

theorem not_success_of_rollback (hJ : Custody s) (hh : Holding (s.past i) uid)
    (hG : Undisputed s i (.delete uid true)) (hr : r ∈ s.trace) : r.op.succeeds ≠ some uid := by
  intro hu
  by_cases ht : r.thread = i
  · have he : r.entry ∈ s.past i := mem_past.mpr ⟨r, hr, ht, rfl⟩
    have ha : r.op.harmless := hh.clean r.entry he
    rw [succeeds_not_harmless hu] at ha
    cases ha
  · obtain ⟨hto, hd⟩ := hJ.earned r hr uid hu
    obtain ⟨r1, hr1, ht1, hk⟩ := hto.trace
    obtain ⟨r2, hr2, ht2, hc⟩ := hd.trace
    have ho := hG r1 hr1 (ht1 ▸ ht) hk
    exact ho.2 r2 hr2 (ht2.trans ht1.symm) hc

theorem custody_handle (hJ : Custody s) (hi : i ∉ s.ended) (hw : op.WellFormed)
    (hP : Entitled (s.past i) op) (hG : Undisputed s i op)
    (h : handle E s i op d = some (s', x)) : Custody s' := by
  obtain ⟨hc, htr⟩ := handle_change h
  have hn : s'.ended = s.ended := handle_ended h
  have hp : ∀ j, s.past j <:+ s'.past j := by
    intro j
    rw [past_cons htr]
    split_ifs
    · exact suffix_cons _ _
    · exact suffix_refl _
  -- what the new record is, if it is a rollback
  have ho : ∀ uid, rolledBack ⟨i, op, x, s.object, s'.object⟩ = some uid →
      Did creates (s.past i) uid ∧ Holding (s.past i) uid ∧ Undisputed s i (.delete uid true) := by
    intro uid hb
    obtain ⟨rfl, -⟩ := handle_rolledBack h hb
    exact ⟨hP.1, hP.2, hG⟩
  have hno : ∀ uid uid', rolledBack ⟨i, op, x, s.object, s'.object⟩ = some uid →
      takes ⟨op, x⟩ ≠ some uid' := by
    intro uid uid' hb ht
    obtain ⟨rfl, -⟩ := handle_rolledBack h hb
    cases ht
  refine ⟨⟨?_, ?_⟩, hc.known hJ.known, ?_, ?_, ?_, ?_⟩
  · -- exclusive
    rw [htr]
    intro r hr r' hr' uid hu hb
    rcases mem_cons.mp hr with rfl | hr
    · rcases mem_cons.mp hr' with rfl | hr'
      · obtain ⟨rfl, -⟩ := handle_rolledBack h hb
        cases hu
      · exact not_rolledBack_of_success hJ hi (hP.of_succeeds hu).2 hr' hb
    · rcases mem_cons.mp hr' with rfl | hr'
      · obtain ⟨-, hh, hG'⟩ := ho uid hb
        exact not_success_of_rollback hJ hh hG' hr hu
      · exact hJ.exclusive r hr r' hr' uid hu hb
  · -- exhausted
    rw [htr]
    intro r hr uid he
    rcases mem_cons.mp hr with rfl | hr
    · obtain ⟨r, hr, -, hb⟩ := (hP.of_exhausts he).trace
      exact (hJ.dead r hr uid (rolledBack_of_rollsBack hb)).2
    · exact hJ.exhausted r hr uid he
  · -- taken
    rw [htr]
    intro r hr uid ht
    rcases mem_cons.mp hr with rfl | hr
    · rcases handle_takes h ht with ⟨-, hnew⟩ | ⟨sb, hs, hd, -⟩
      · exact hnew
      · exact ⟨sb, hc.versions_subset (hJ.known sb hs), hd⟩
    · obtain ⟨v, hv, hd⟩ := hJ.taken r hr uid ht
      exact ⟨v, hc.versions_subset hv, hd⟩
  · -- dead
    rw [htr]
    intro r hr uid hb
    rcases mem_cons.mp hr with rfl | hr
    · obtain ⟨r', hr', -, hcr⟩ := (ho uid hb).1.trace
      obtain ⟨v, hv, hd⟩ := hJ.taken r' hr' uid (takes_of_creates hcr)
      exact ⟨⟨v, hc.versions_subset hv, hd⟩, (handle_rolledBack h hb).2⟩
    · exact (hJ.dead r hr uid hb).change hw hc
  · -- settled
    rw [htr, hn]
    intro r hr uid hb r' hr' ht
    rcases mem_cons.mp hr with rfl | hr
    · rcases mem_cons.mp hr' with rfl | hr'
      · exact absurd ht (hno uid uid hb)
      · by_cases hth : r'.thread = i
        · exact .inr hth
        · exact .inl ((ho uid hb).2.2 r' hr' hth ht).1
    · rcases mem_cons.mp hr' with rfl | hr'
      · obtain ⟨⟨v, hv, hvd⟩, hg⟩ := hJ.dead r hr uid hb
        rcases handle_takes h ht with ⟨hf, -⟩ | ⟨sb, hs, hd, hl⟩
        · exact absurd hvd (hf v hv)
        · rw [hg sb hs hd] at hl
          cases hl
      · exact hJ.settled r hr uid hb r' hr' ht
  · -- earned
    rw [htr]
    intro r hr uid hu
    rcases mem_cons.mp hr with rfl | hr
    · obtain ⟨ha, hh⟩ := hP.of_succeeds hu
      exact ⟨hh.took.mono (hp i), ha.mono (hp i)⟩
    · obtain ⟨hto, ha⟩ := hJ.earned r hr uid hu
      exact ⟨hto.mono (hp _), ha.mono (hp _)⟩

theorem custody_leave (hJ : Custody s) (i : ℕ) : Custody (s.leave i) where
  exclusive := hJ.exclusive
  exhausted := hJ.exhausted
  known := hJ.known
  taken := hJ.taken
  dead := hJ.dead
  settled r hr uid hb r' hr' ht := (hJ.settled r hr uid hb r' hr' ht).imp (mem_cons_of_mem _) id
  earned := hJ.earned

/-- **Successes are kept.** In every run in which no rollback meets another call that holds the
intent or had its Create accepted, and the object of a running call is not replaced, no call deletes
an intent for which another has returned success, and ResourceExhausted is returned for one's own
intent only when it is deleted. -/
theorem success_not_rolledBack (digest : String → String) (E : Environment ν χ) (env : ν)
    {w : World (Shared (Cluster ν)) (Task Actor Op Ans)}
    (h : (system digest E).Reaches (Meets fun s i op _ => Undisputed s i op) (start env) w) :
    Honoured w.shared.state.trace := by
  have hs : Custody ({ env } : Cluster ν) :=
    { exclusive := fun _ hr => nomatch hr
      exhausted := fun _ hr => nomatch hr
      known := fun _ h => nomatch h
      taken := fun _ hr => nomatch hr
      dead := fun _ hr => nomatch hr
      settled := fun _ hr => nomatch hr
      earned := fun _ hr => nomatch hr }
  have hn : Custody w.shared.state :=
    invariant_of_histories digest (serves_program digest)
      (fun hJ hi hw hP hG hh => ⟨custody_handle hJ hi hw hP hG hh,
        handle_consistent hh hw hG⟩) (fun i hJ => custody_leave hJ i) hs h
  exact hn.toHonoured

end Runs

section

/-- A replay finds the intent and sends its Create. -/
def replay : Script :=
  [.spawn (.createSandbox sampleCall), goOn 1, told 1 (.candidates []) (.ok [fastletA]),
    told 1 .newID "id-2", .run 1 (.go (.fail false)), goOn 1,
    told 1 (.registered "fastlet-a") (some fastletA), told 1 .reserveLocal .reserved,
    told 1 .resolve none, told 1 (.send (.create firstRequest)) ()]

/-- The Create of the replay is accepted. -/
def acceptance : Script :=
  [told 1 (.awaitCreate firstRequest)
      ⟨some (.created, some
        { sandboxID := "uid-1"
          instanceGeneration := 1
          runtimeInstanceID := "id-1"
          assignmentAttempt := 1
          routeGeneration := 1
          runtimeState := .creating }), none⟩,
    goOn 1]

/-- The creator has no room for the only Fastlet, and rolls back. -/
def rollback : Script :=
  [told 0 .reserveLocal .refused, told 0 (.candidates ["fastlet-a"]) (.error .noCandidate), goOn 0,
    goOn 0]

/-- The replay has ended without an answer when the creator rolls the intent back. -/
theorem abandoned_replay_honoured : ∃ w : World (Shared (Cluster Unit)) (Task Actor Op Ans),
      w.shared.state.trace.filterMap (·.op.exhausts) = ["uid-1"] ∧
        Honoured w.shared.state.trace := by
  obtain ⟨w, h, ht⟩ := System.exists_reaches_of_runMeeting (S := system id anyWorld)
    (G := Meets fun s i op _ => Undisputed s i op) (w := start ())
    (creation [fastletA] ++ replay ++ [crash 1] ++ rollback)
    (fun w => decide (w.shared.state.trace.filterMap (·.op.exhausts) = ["uid-1"])) (by decide)
  exact ⟨w, of_decide_eq_true ht, success_not_rolledBack id anyWorld () h⟩

/-- The replay has returned success when the creator deletes the intent. -/
theorem replayed_intent_deleted : ¬ ∀ w : World (Shared (Cluster Unit)) (Task Actor Op Ans),
      (system id anyWorld).Reaches System.anyStep (start ()) w → Honoured w.shared.state.trace :=
  System.not_forall_reaches
    (fun w => w.shared.state.trace.all fun r => w.shared.state.trace.all fun r' =>
      r.op.succeeds.all fun uid => r'.rolledBack ≠ some uid)
    (fun w h => by
      refine all_eq_true.mpr fun r hr => all_eq_true.mpr fun r' hr' => ?_
      cases hs : r.op.succeeds with
      | none => rfl
      | some uid => exact decide_eq_true (h.exclusive r hr r' hr' uid hs)) (start ())
    (creation [fastletA] ++ replay ++ acceptance ++ rollback) (by decide)

end

end FastSandbox.ControlPlane
