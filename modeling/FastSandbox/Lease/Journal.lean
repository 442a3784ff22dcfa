import FastSandbox.Lease.State

/-!
# What a journal says

The committed executions of a journal are the intents that a result follows. `recover` applies
exactly these, in the order of their results, and what it rebuilds shows their effects: a pin
count and a set of leases.
-/

namespace FastSandbox.Lease

open DataPlane (StringMap)
open LineLog List Option Tables Bool
open Function

/-! ## Committed executions -/

structure Commit where
  req : Request
  result : Result

/-- The open intents after one more line. -/
def track (intents : Intents) : JournalEntry → Intents
  | .intent req =>
    if req.id.requestID = "" then intents
    else update intents req.id.requestID (some req)
  | .result requestID _ _ => update intents requestID none

/-- What one more line commits. -/
def committed (intents : Intents) : JournalEntry → List Commit
  | .intent _ => []
  | .result requestID _ result => ((intents requestID).map fun req => ⟨req, result⟩).toList

def commitsFrom : Intents → List JournalEntry → List Commit
  | _, [] => []
  | intents, e :: es => committed intents e ++ commitsFrom (track intents e) es

def commits (es : List JournalEntry) : List Commit := commitsFrom (fun _ => none) es

def openIntents (es : List JournalEntry) : Intents := es.foldl track fun _ => none

theorem commitsFrom_append (intents : Intents) (es : List JournalEntry) (e : JournalEntry) :
    commitsFrom intents (es ++ [e]) =
      commitsFrom intents es ++ committed (es.foldl track intents) e := by
  induction es generalizing intents with
  | nil => exact append_nil _
  | cons e' es ih =>
    rw [cons_append, commitsFrom, ih, commitsFrom, append_assoc]
    rfl

section

variable (es : List JournalEntry) (e : JournalEntry)
include es e

theorem commits_append : commits (es ++ [e]) = commits es ++ committed (openIntents es) e :=
  commitsFrom_append _ es e

theorem openIntents_append : openIntents (es ++ [e]) = track (openIntents es) e := foldl_append

end

variable {es : List JournalEntry}

variable {c : Commit}

theorem mem_commitsFrom {intents : Intents} (h : c ∈ commitsFrom intents es) :
    (∃ requestID, intents requestID = some c.req) ∨ .intent c.req ∈ es := by
  induction es generalizing intents with
  | nil => cases h
  | cons e es ih =>
    rcases mem_append.mp h with h | h
    · cases e with
      | intent req => cases h
      | result requestID op result =>
        simp only [committed, mem_toList, map_eq_some_iff] at h
        obtain ⟨req, he, rfl⟩ := h
        exact .inl ⟨requestID, he⟩
    · rcases ih h with ⟨requestID, he⟩ | hm
      · cases e with
        | intent req =>
          simp only [track] at he
          split_ifs at he
          · exact .inl ⟨requestID, he⟩
          by_cases hi : requestID = req.id.requestID
          · rw [hi, update_self] at he
            cases he
            exact .inr mem_cons_self
          · rw [update_of_ne hi] at he
            exact .inl ⟨requestID, he⟩
        | result requestID' op result =>
          simp only [track] at he
          by_cases hi : requestID = requestID'
          · rw [hi, update_self] at he
            cases he
          · rw [update_of_ne hi] at he
            exact .inl ⟨requestID, he⟩
      · exact .inr (mem_cons_of_mem _ hm)

theorem intent_mem_of_commits (h : c ∈ commits es) : .intent c.req ∈ es := by
  rcases mem_commitsFrom h with ⟨_, hn⟩ | he
  · cases hn
  · exact he

/-! ## Recovery applies the committed executions -/

def Tables.replay (s : Tables) (cs : List Commit) : Option Tables :=
  cs.foldlM (fun s c => s.replayApply c.req c.result) s

theorem Tables.replay_append (s : Tables) (cs cs' : List Commit) :
    s.replay (cs ++ cs') = (s.replay cs).bind (·.replay cs') := foldlM_append

theorem visit_eq (intents : Intents) (s : Tables) (e : JournalEntry) :
    visit (intents, s) e = (s.replay (committed intents e)).map (track intents e, ·) := by
  cases e with
  | intent =>
    simp only [visit, committed, track, replay, foldlM_nil]
    split_ifs <;> rfl
  | result requestID op result =>
    simp only [visit, committed, track, replay]
    cases intents requestID with
    | none => rfl
    | some req =>
      simp only [map_some, toList_some, foldlM_cons, foldlM_nil]
      cases s.replayApply req result with
      | none => rfl
      | some s' => rfl

theorem foldlM_visit (es : List JournalEntry) (intents : Intents) (s : Tables) :
    es.foldlM visit (intents, s) =
      (s.replay (commitsFrom intents es)).map (es.foldl track intents, ·) := by
  induction es generalizing intents s with
  | nil => rfl
  | cons e es ih =>
    rw [foldlM_cons, visit_eq, commitsFrom, replay_append]
    cases s.replay (committed intents e) with
    | none => rfl
    | some s' => exact ih (track intents e) s'

variable {β : Type} [DecidableEq β] {codec : Codec JournalEntry β} {file : List β}

theorem recover_eq (h : entries codec file = some es) :
    recover codec file = replay {} (commits es) := by
  unfold recover
  rw [h]
  show (es.foldlM visit ((fun _ => none), {})).map Prod.snd = _
  rw [foldlM_visit, Option.map_map]
  exact Option.map_id'

/-! ## Effects -/

/-- What the calls are for: how often each image is pinned, and the leases. -/
structure Effects where
  pins : String → ℕ := fun _ => 0
  leases : StringMap DeviceLease := ∅

def Effects.add (e : Effects) (c : Commit) : Effects :=
  match c.req.operation with
  | .pinImage image => { e with pins := update e.pins image (e.pins image + 1) }
  | .unpinImage image => { e with pins := update e.pins image (e.pins image - 1) }
  | .leaseDevices .. => { e with leases := e.leases.insert c.result.lease.leaseID c.result.lease }
  | .releaseDevices leaseID => { e with leases := e.leases.erase leaseID }

def effects (cs : List Commit) : Effects := cs.foldl Effects.add {}

def Tables.pinCount (s : Tables) (image : String) : ℤ := ((s.images image).getD {}).pinCount

/-- The tables hold these pins and leases. -/
structure Tables.Shows (s : Tables) (e : Effects) : Prop where
  pins : ∀ image, s.pinCount image = e.pins image
  leases : s.leases = e.leases

variable {cs : List Commit} {image : String}

namespace Tables

theorem pinCount_setImage (s : Tables) (image : String) (refs : ImageRefs) (image' : String) :
    (s.setImage image refs).pinCount image' =
      if image' = image then refs.pinCount else s.pinCount image' := by
  unfold pinCount setImage
  dsimp only
  rw [update_apply]
  split_ifs <;> rfl

variable {s : Tables} {e : Effects}

section

variable (h : s.Shows e)
include h

theorem Shows.setImage {refs : ImageRefs} (hr : refs.pinCount = s.pinCount image) :
    (s.setImage image refs).Shows e where
  pins image' := by
    rw [pinCount_setImage]
    split_ifs with hi
    · rw [hr, ← hi]
      exact h.pins image'
    · exact h.pins image'
  leases := h.leases

theorem Shows.complete (requestID : String) (c : Completed) :
    (s.complete requestID c).Shows e := ⟨h.pins, h.leases⟩

theorem Shows.bumpPin {delta : ℤ} {n : ℕ} (hi : image ≠ "")
    (hn : max (s.pinCount image + delta) 0 = n) : ∃ s', s.bumpPin image delta = some s' ∧
      s'.Shows { e with pins := update e.pins image n } := by
  refine ⟨_, if_neg hi, ?_, h.leases⟩
  intro image'
  dsimp only
  rw [pinCount_setImage, update_apply]
  split_ifs
  · exact hn
  · exact h.pins image'

theorem Shows.addLease (lease : DeviceLease) :
    (s.addLease lease).Shows { e with leases := e.leases.insert lease.leaseID lease } := by
  have he : Tables.Shows
      { s with
        leases := s.leases.insert lease.leaseID lease
        bySandbox := update s.bySandbox lease.sandboxID (some lease.leaseID) }
      { e with leases := e.leases.insert lease.leaseID lease } :=
    ⟨h.pins, congrArg (·.insert lease.leaseID lease) h.leases⟩
  exact he.setImage rfl

theorem Shows.dropLease (leaseID : String) (count : ℤ → ℤ) :
    (s.dropLease leaseID count).Shows { e with leases := e.leases.erase leaseID } := by
  unfold Tables.dropLease
  cases hl : s.leases.lookup leaseID with
  | none =>
    -- an unknown lease has no effect to undo
    refine ⟨h.pins, ?_⟩
    rw [← h.leases]
    refine Finmap.ext_lookup fun id => ?_
    by_cases hi : id = leaseID
    · rw [hi, hl, Finmap.lookup_erase]
    · rw [Finmap.lookup_erase_ne hi]
  | some lease =>
    have hd : Tables.Shows
        { s with
          leases := s.leases.erase leaseID
          bySandbox := update s.bySandbox lease.sandboxID none }
        { e with leases := e.leases.erase leaseID } :=
      ⟨h.pins, congrArg (·.erase leaseID) h.leases⟩
    dsimp only
    cases hr : s.images lease.image with
    | none => exact hd
    | some refs =>
      refine hd.setImage ?_
      unfold pinCount
      rw [hr]
      rfl

theorem Shows.replayApply (hc : ∀ text ∈ c.req.operation.required, text ≠ "") :
    ∃ s', s.replayApply c.req c.result = some s' ∧ s'.Shows (e.add c) := by
  unfold Tables.replayApply Effects.add
  cases ho : c.req.operation with
  | pinImage image =>
    rw [ho] at hc
    have hn : max (s.pinCount image + 1) 0 = ((e.pins image + 1 : ℕ) : ℤ) := by
      rw [h.pins image]
      omega
    obtain ⟨s', hs', hss⟩ := h.bumpPin (hc image mem_cons_self) hn
    dsimp only
    rw [hs']
    exact ⟨_, rfl, hss.complete _ _⟩
  | unpinImage image =>
    rw [ho] at hc
    have hn : max (s.pinCount image + -1) 0 = ((e.pins image - 1 : ℕ) : ℤ) := by
      rw [h.pins image]
      omega
    obtain ⟨s', hs', hss⟩ := h.bumpPin (hc image mem_cons_self) hn
    dsimp only
    rw [hs']
    exact ⟨_, rfl, hss.complete _ _⟩
  | leaseDevices => exact ⟨_, rfl, (h.addLease _).complete _ _⟩
  | releaseDevices leaseID => exact ⟨_, rfl, (h.dropLease leaseID _).complete _ _⟩

theorem Shows.replay (hcs : ∀ c ∈ cs, ∀ text ∈ c.req.operation.required, text ≠ "") :
    ∃ s', s.replay cs = some s' ∧ s'.Shows (cs.foldl Effects.add e) := by
  induction cs generalizing s e with
  | nil => exact ⟨s, rfl, h⟩
  | cons c cs ih =>
    obtain ⟨_, hs1, h1⟩ := h.replayApply (hcs c mem_cons_self)
    obtain ⟨s2, hs2, h2⟩ := ih h1 fun c' hc' => hcs c' (mem_cons_of_mem _ hc')
    refine ⟨s2, ?_, h2⟩
    unfold replay at hs2 ⊢
    rw [foldlM_cons, hs1]
    exact hs2

end

end Tables

/-! ## Completed requests -/

/-- What is remembered of a committed execution. -/
def Commit.completed (c : Commit) : Completed where
  op := c.req.operation.op
  podUID := c.req.id.podUID
  pinDigest :=
    match c.req.operation with
    | .pinImage _ => c.result.manifestDigest
    | _ => ""
  lease :=
    match c.req.operation with
    | .leaseDevices .. => some c.result.lease
    | _ => none

/-- The completed requests: a request ID stands for its last execution. -/
def remember (completed : String → Option Completed) (c : Commit) : String → Option Completed :=
  update completed c.req.id.requestID (some c.completed)

def remembered (cs : List Commit) : String → Option Completed := cs.foldl remember fun _ => none

theorem exists_commit_of_remembered {requestID : String} {entry : Completed}
    (h : remembered cs requestID = some entry) :
    ∃ c ∈ cs, c.req.id.requestID = requestID ∧ c.completed = entry := by
  induction cs using reverseRecOn with
  | nil => cases h
  | append_singleton cs c ih =>
    rw [remembered, foldl_append] at h
    change update (remembered cs) c.req.id.requestID (some c.completed) requestID = _ at h
    rw [update_apply] at h
    split_ifs at h with hi
    · exact ⟨c, mem_append_right _ mem_cons_self, hi.symm, some.inj h⟩
    · obtain ⟨c', hc', hf⟩ := ih h
      exact ⟨c', mem_append_left _ hc', hf⟩

namespace Tables

theorem completed_dropLease (s : Tables) (leaseID : String) (count : ℤ → ℤ) :
    (s.dropLease leaseID count).completed = s.completed := by
  unfold dropLease
  cases s.leases.lookup leaseID with
  | none => rfl
  | some lease =>
    dsimp only
    cases s.images lease.image <;> rfl

variable {s s' : Tables}

theorem completed_bumpPin {delta : ℤ} (h : s.bumpPin image delta = some s') :
    s'.completed = s.completed := by
  unfold bumpPin at h
  split_ifs at h
  cases h
  rfl

theorem completed_replayApply (h : s.replayApply c.req c.result = some s') :
    s'.completed = remember s.completed c := by
  obtain ⟨req, result⟩ := c
  obtain ⟨_, operation⟩ := req
  cases operation with
  | pinImage image | unpinImage image =>
    obtain ⟨_, hs1, rfl⟩ := map_eq_some_iff.mp h
    exact congrArg (remember · _) (completed_bumpPin hs1)
  | leaseDevices =>
    cases h
    rfl
  | releaseDevices leaseID =>
    cases h
    exact congrArg (remember · _) (completed_dropLease s leaseID _)

theorem completed_replay (h : s.replay cs = some s') :
    s'.completed = cs.foldl remember s.completed := by
  induction cs generalizing s with
  | nil =>
    cases h
    rfl
  | cons c cs ih =>
    obtain ⟨_, hs1, hs'⟩ := bind_eq_some_iff.mp h
    rw [ih hs', completed_replayApply hs1]
    rfl

end Tables

theorem ne_empty_of_not_blank {text : String} (h : blank text = false) : text ≠ "" := by
  rintro rfl
  exact absurd h (by decide)

theorem Request.required_ne_empty {req : Request} (h : req.valid) :
    ∀ text ∈ req.operation.required, text ≠ "" := by
  intro text ht
  unfold Request.valid at h
  rw [and_eq_true] at h
  have := all_eq_true.mp h.2 text ht
  exact ne_empty_of_not_blank ((not_eq_true' _).mp this)

theorem Request.requestID_ne_empty {req : Request} (h : req.valid) : req.id.requestID ≠ "" := by
  unfold Request.valid at h
  rw [and_eq_true, and_eq_true] at h
  exact ne_empty_of_not_blank ((not_eq_true' _).mp h.1.2)

/-- **Recovery** of a journal of valid requests succeeds, and rebuilds the effects of its
committed executions. -/
theorem recover_shows (hs : entries codec file = some es)
    (hv : ∀ req, .intent req ∈ es → req.valid) :
    ∃ s, recover codec file = some s ∧ s.Shows (effects (commits es)) := by
  rw [recover_eq hs]
  have he : Tables.Shows {} {} := ⟨fun _ => rfl, rfl⟩
  exact he.replay fun c hc => Request.required_ne_empty (hv c.req (intent_mem_of_commits hc))

theorem recover_completed {s : Tables} (he : entries codec file = some es)
    (h : recover codec file = some s) : s.completed = remembered (commits es) := by
  rw [recover_eq he] at h
  exact completed_replay h

end FastSandbox.Lease
