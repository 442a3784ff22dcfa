import FastSandbox.Lease.Flights

/-!
# Who a request ID belongs to

A request ID belongs to the Pod and the operation that used it first. `run` compares the completed
table's entry with the caller's Pod and operation. A call that joins an execution in flight compares
nothing, and `rememberCompleted` compares the Pod only; and an ID that was used and not completed,
or whose entry a restart has lost, is free for anyone. Apart from these a call is answered with a
nil error only under an ID that is its own.
-/

namespace FastSandbox.Lease

open Interleaving LineLog Option Completed List System
open Function

variable {β : Type} [DecidableEq β]

/-- A call is of the first user of its request ID, or the ID is completed; where an existing lease
is handed out, it is completed for another Pod. And no line is appended to an unfinished one. -/
def Bound (codec : Codec JournalEntry β) (s : Agent β) (t : Task) (c : Choice) : Prop :=
  Tidy codec s t c ∧
    match t with
    | .at _ req .begin => (∀ user ∈ s.users req.id.requestID, user = req.owner) ∨
        ∀ m ∈ s.memory, (m.tables.completed req.id.requestID).isSome
    | .at _ req (.rememberCompleted _) => (∀ user ∈ s.users req.id.requestID, user = req.owner) ∨
        ∀ m ∈ s.memory, (m.tables.completed req.id.requestID).any (·.podUID ≠ req.id.podUID)
    | _ => True

instance (codec : Codec JournalEntry β) (s : Agent β) (t : Task) (c : Choice) :
    Decidable (Bound codec s t c) := by
  unfold Bound
  split <;> infer_instance

/-! ## Results and their owners -/

/-- A lease is handed to the Pod it names. -/
def Result.For (result : Result) (owner : String × Op) : Prop :=
  owner.2 = .leaseDevices → result.lease.podUID = owner.1

theorem result_for (req : Request) (effect : SideEffect) : (req.result effect).For req.owner := by
  intro hp
  unfold Request.result
  cases ho : req.operation with
  | leaseDevices => rfl
  | pinImage | unpinImage | releaseDevices =>
    unfold Request.owner at hp
    rw [ho] at hp
    cases hp

variable {result : Result} {lease : DeviceLease}

theorem Result.For.answer {req : Request} (h : result.For req.owner)
    (ha : req.operation.answer result = .leased lease) : lease.podUID = req.id.podUID := by
  unfold Result.For Request.owner at h
  cases ho : req.operation with
  | leaseDevices =>
    rw [ho] at h ha
    cases ha
    exact h rfl
  | pinImage | unpinImage | releaseDevices =>
    rw [ho] at ha
    cases ha

theorem Commit.result_for {c : Commit} (h : ∃ effect, c.result = c.req.result effect) :
    c.completed.result.For c.completed.owner := by
  obtain ⟨effect, he⟩ := h
  intro hp
  have hf := FastSandbox.Lease.result_for c.req effect hp
  rw [← he] at hf
  unfold Commit.completed result at *
  cases ho : c.req.operation with
  | leaseDevices => exact hf
  | pinImage | unpinImage | releaseDevices =>
    simp only [owner, ho, Operation.op, reduceCtorEq] at hp

theorem setResult_owner (c : Completed) (result : Result) :
    (c.setResult result).owner = c.owner := by
  unfold setResult
  split <;> rfl

theorem setResult_for (req : Request) (effect : SideEffect) (c : Completed)
    (hc : c.owner = req.owner) : (c.setResult (req.result effect)).result.For req.owner := by
  intro hp
  have hf := result_for req effect hp
  have ho : c.op = .leaseDevices := (congrArg Prod.snd hc).trans hp
  unfold Request.result at hf ⊢
  unfold Request.owner at hp
  cases hn : req.operation with
  | leaseDevices =>
    simp only [setResult, result, ho, Result.lease]
    rfl
  | pinImage | unpinImage | releaseDevices =>
    rw [hn] at hp
    cases hp

/-! ## The users of request IDs -/

abbrev Users := String → Option (String × Op)

/-- What is completed, and what an execution in flight has answered, is of the first user. -/
structure Users.Own (users : Users) (m : Memory) : Prop where
  entries : ∀ requestID entry, m.tables.completed requestID = some entry →
    users requestID = some entry.owner ∧ entry.result.For entry.owner
  outcomes : ∀ p result, (m.pending p).outcome = some (.ok result) →
    ∃ user, users (m.pending p).requestID = some user ∧ result.For user

/-- What a call knows of its request ID between two sections. -/
def Owns (users : Users) (req : Request) : Place → Prop
  | .execute _ | .commit _ _ | .wait _ => users req.id.requestID = some req.owner
  | .finish _ outcome => users req.id.requestID = some req.owner ∧
      ∀ result, outcome = .ok result → result.For req.owner
  | .rememberCompleted lease => lease.podUID = req.id.podUID ∧ req.operation.op = .leaseDevices
  | _ => True

section

variable {users users' : Users} {m m' : Memory} {req : Request} {place : Place} {requestID : String}

theorem Owns.mono (h : Owns users req place)
    (hu : ∀ requestID user, users requestID = some user → users' requestID = some user) :
    Owns users' req place := by
  cases place with
  | execute | commit | wait => exact hu _ _ h
  | finish => exact ⟨hu _ _ h.1, h.2⟩
  | lockSandbox | findLease | rememberCompleted | checkOwner | begin => exact h

theorem Users.Own.mono (h : users.Own m)
    (hu : ∀ requestID user, users requestID = some user → users' requestID = some user) :
    users'.Own m where
  entries requestID entry he := (h.entries requestID entry he).imp_left (hu _ _)
  outcomes p result hr := by
    obtain ⟨user, ho, hf⟩ := h.outcomes p result hr
    exact ⟨user, hu _ _ ho, hf⟩

theorem Users.Own.congr (h : users.Own m) (hf : m'.toFlights = m.toFlights)
    (ht : m'.tables.completed = m.tables.completed) : users.Own m' where
  entries := by
    rw [ht]
    exact h.entries
  outcomes := by
    rw [hf]
    exact h.outcomes

theorem Users.Own.leave (h : users.Own m) (req : Request) : users.Own (m.leave req) :=
  h.congr (m.toFlights_leave req) (congrArg Tables.completed (m.tables_leave req))

theorem Users.Own.complete {entry : Completed} (h : users.Own m) (hf : m'.toFlights = m.toFlights)
    (ht : m'.tables.completed = update m.tables.completed requestID (some entry))
    (hu : users requestID = some entry.owner) (he : entry.result.For entry.owner) :
    users.Own m' where
  entries requestID' entry' he' := by
    rw [ht, update_apply] at he'
    split_ifs at he' with heq
    · cases he'
      exact ⟨heq ▸ hu, he⟩
    · exact h.entries requestID' entry' he'
  outcomes := by
    rw [hf]
    exact h.outcomes

theorem Tables.completed_apply (s : Tables) (operation : Operation) (result : Result) :
    (s.apply operation result).completed = s.completed := by
  cases operation with
  | pinImage | leaseDevices => rfl
  | unpinImage =>
    simp only [Tables.apply]
    split <;> rfl
  | releaseDevices leaseID => exact s.completed_dropLease leaseID _

/-- The entry a commit remembers. -/
def Request.entry (req : Request) (result : Result) : Completed :=
  Completed.setResult { op := req.operation.op, podUID := req.id.podUID } result

theorem Memory.completed_applied (m : Memory) (req : Request) (result : Result) :
    (m.applied req result).tables.completed =
      update m.tables.completed req.id.requestID (some (req.entry result)) := by
  show update (m.tables.apply req.operation result).completed _ _ = _
  rw [Tables.completed_apply]
  rfl

end

/-! ## One section -/

section Sections

variable {codec : Codec JournalEntry β} {s : Agent β} {m : Memory} {es : List JournalEntry}
  {req : Request} {place : Place} {c : Choice} {e : Effect}

omit [DecidableEq β] in
theorem use_mono {requestID : String} {user : String × Op} (h : s.users requestID = some user) :
    (s.use req).users requestID = some user := by
  show update s.users _ _ requestID = some user
  rw [update_apply]
  split_ifs with heq
  · rw [← heq, h]
    rfl
  · exact h

omit [DecidableEq β] in
theorem use_self (h : ∀ user ∈ s.users req.id.requestID, user = req.owner) :
    (s.use req).users req.id.requestID = some req.owner := by
  show update s.users _ _ _ = _
  rw [update_self]
  cases hu : s.users req.id.requestID with
  | none => rfl
  | some user =>
    rw [h user hu]
    rfl

/-- A call that finds its request ID not completed uses its own. -/
theorem Bound.begins (h : Bound codec s (.at s.incarnation req .begin) c) (hm : s.memory = some m)
    (hr : m.replayed req = none) : (s.use req).users req.id.requestID = some req.owner := by
  refine use_self (h.2.resolve_right fun hc => ?_)
  have hs := hc m hm
  rw [map_eq_none_iff.mp hr] at hs
  cases hs

theorem Bound.remembers {m' : Memory}
    (h : Bound codec s (.at s.incarnation req (.rememberCompleted lease)) c)
    (hm : s.memory = some m) (hr : m.remember req lease = .ok m') :
    (s.use req).users req.id.requestID = some req.owner := by
  refine use_self (h.2.resolve_right fun hc => ?_)
  have hs := hc m hm
  rcases Memory.remember_cases hr with ⟨-, entry, he, hp⟩ | ⟨hn, -⟩
  · rw [he, any_some] at hs
    exact of_decide_eq_true hs hp
  · rw [hn] at hs
    cases hs

variable (h : Turn m req place c e) (hm : s.memory = some m)
  (hb : Bound codec s (.at s.incarnation req place) c) (hs : Standing m.toFlights es req place)
  (ho : Users.Own s.users m) (hos : Owns s.users req place)
include h hm hb hs ho hos

/-- **One section** keeps what belongs to the first users, and its call knows what it needs at the
next one. -/
theorem Turn.own (hk : m.toFlights.Keyed) (he : place.Executed req) :
    Users.Own (s.use req).users e.memory ∧
    ∀ place' ∈ e.next, Owns (s.use req).users req place' := by
  have hu : ∀ requestID user, s.users requestID = some user →
      (s.use req).users requestID = some user := fun _ _ => use_mono
  replace ho := ho.mono hu
  replace hos := hos.mono hu
  cases h with
  | locks => exact ⟨ho.congr rfl rfl, by rintro place' ⟨⟩; trivial⟩
  | unleased | owns => exact ⟨ho, by rintro place' ⟨⟩; trivial⟩
  | leased ha hy hl hd =>
    refine ⟨ho, ?_⟩
    rintro place' ⟨⟩
    refine ⟨hd, ?_⟩
    cases hop : req.operation with
    | leaseDevices => rfl
    | pinImage | unpinImage | releaseDevices =>
      rw [hop] at ha
      cases ha
  | @remembers lease m' hr =>
    refine ⟨Users.Own.leave ?_ req, by rintro place' ⟨⟩⟩
    rcases Memory.remember_cases hr with ⟨rfl, -⟩ | ⟨-, rfl⟩
    · exact ho
    · refine ho.complete rfl rfl ?_ fun _ => hos.1
      rw [hb.remembers hm hr]
      exact congrArg some (Prod.ext rfl hos.2)
  | refuses | replays | strands | waits => exact ⟨ho.leave req, by rintro place' ⟨⟩⟩
  | joins outcome hr =>
    refine ⟨ho, ?_⟩
    rintro place' ⟨⟩
    exact hb.begins hm hr
  | opens hr =>
    refine ⟨⟨ho.entries, fun p result hp => ?_⟩, ?_⟩
    · change (update m.pending m.next _ p).outcome = _ at hp
      show ∃ user, (s.use req).users (update m.pending m.next _ p).requestID = _ ∧ _
      by_cases heq : p = m.next
      · rw [heq, update_self] at hp
        cases hp
      · rw [update_of_ne heq] at hp ⊢
        exact ho.outcomes p result hp
    · rintro place' ⟨⟩
      exact hb.begins hm hr
  | executes =>
    refine ⟨ho, ?_⟩
    rintro place' ⟨⟩
    exact hos
  | fails =>
    refine ⟨ho, ?_⟩
    rintro place' ⟨⟩
    exact ⟨hos, nofun⟩
  | settles p result =>
    obtain ⟨effect, rfl⟩ := he
    have hw : (req.entry (req.result effect)).owner = req.owner := setResult_owner _ _
    refine ⟨ho.complete rfl (m.completed_applied req _) ?_ ?_, ?_⟩
    · rw [hw]
      exact hos
    · rw [hw]
      exact setResult_for req effect _ rfl
    · rintro place' ⟨⟩
      refine ⟨hos, fun result hr => ?_⟩
      unfold commitOutcome at hr
      split_ifs at hr
      cases hr
      exact result_for req effect
  | finishes p outcome =>
    refine ⟨Users.Own.leave (m := { m with toFlights := m.finish req.id.requestID p outcome })
      ⟨ho.entries, fun q result hr => ?_⟩ req, by rintro place' ⟨⟩⟩
    rw [Flights.requestID_finish]
    change (update m.pending p { m.pending p with outcome := some outcome } q).outcome = _ at hr
    by_cases hq : q = p
    · subst hq
      rw [update_self] at hr
      rw [hk.owner _ _ hs]
      exact ⟨req.owner, hos.1, hos.2 result (some.inj hr)⟩
    · rw [update_of_ne hq] at hr
      exact ho.outcomes q result hr

/-- **An answer** with a nil error is given under an ID that is the caller's. -/
theorem Turn.answer_owned (ha : e.answer = some (.ok result)) :
    (s.use req).users req.id.requestID = some req.owner ∧ result.For req.owner := by
  cases h with
  | remembers hr =>
    cases ha
    exact ⟨hb.remembers hm hr, fun _ => hos.1⟩
  | replays outcome hr =>
    cases ha
    obtain ⟨entry, he, hw, rfl⟩ := Memory.replayed_ok hr
    obtain ⟨hu, hf⟩ := ho.entries _ entry he
    rw [hw] at hu hf
    exact ⟨use_mono hu, hf⟩
  | finishes =>
    cases ha
    exact ⟨use_mono hos.1, hos.2 result rfl⟩
  | waits p hot =>
    cases ha
    obtain ⟨user, hu, hf⟩ := ho.outcomes p result hot
    have hw : s.users req.id.requestID = some req.owner := hos
    rw [hs.2, hw] at hu
    cases hu
    exact ⟨use_mono hw, hf⟩
  | locks | unleased | leased | refuses | owns | joins | opens | strands | executes | fails
  | settles => cases ha

end Sections

/-! ## Runs -/

section Runs

variable {codec : Codec JournalEntry β}

/-- Memory and journal hold what belongs to the first users. -/
structure Owned (codec : Codec JournalEntry β) (s : Agent β) : Prop where
  memory : ∀ m ∈ s.memory, Users.Own s.users m
  journal : ∀ es, entries codec s.file = some es → ∀ commit ∈ commits es,
    s.users commit.req.id.requestID = some commit.req.owner

def TaskOwns (s : Agent β) : Task → Prop
  | .at _ req place => Owns s.users req place
  | _ => True

theorem owned_start : Owned codec ({} : Agent β) where
  memory := by simp
  journal es he commit hc := by
    cases (show some [] = some es from he)
    cases hc

theorem Owned.new {s : Agent β} {es : List JournalEntry} (h : Owned codec s)
    (hk : Kept codec s es) : Owned codec (s.new codec) where
  memory := by
    intro m hm
    obtain ⟨_, ht, rfl⟩ := map_eq_some_iff.mp hm
    refine ⟨fun _ _ he => ?_, nofun⟩
    rw [recover_completed hk.entries ht] at he
    obtain ⟨commit, ho, rfl, rfl⟩ := exists_commit_of_remembered he
    exact ⟨h.journal es hk.entries commit ho, Commit.result_for (hk.executed commit ho)⟩
  journal es' he' := h.journal es' ((entries_truncate s.file).symm.trans he')

theorem ownership_extension :
    System.Extension (system codec) (Bound codec) (fun s => ∃ es, Kept codec s es)
      (TaskStands codec) Apart (Owned codec) TaskOwns where
  entry_holds := by
    rintro s (req | _) - - <;> trivial
  local_step := by
    rintro s s' t c ts ⟨es, hk⟩ ht ho hos hb hd
    cases advance_step hd with
    | restart => exact ⟨ho.new hk, nofun⟩
    | reject => exact ⟨ho, nofun⟩
    | accept req =>
      refine ⟨ho, fun t' ht' => ?_⟩
      rw [mem_singleton.mp ht']
      cases req.operation <;> trivial
    | «section» req place m s' next hm hc =>
      have hs := ht.2.2.2 rfl m hm es hk.entries
      obtain ⟨e, es', he, rfl, rfl⟩ := exists_section hc hm hk.entries hb.1
      obtain ⟨hm', hn⟩ := he.turn.own hm hb hs (ho.memory m hm) hos (hk.flights m hm) ht.2.1
      refine ⟨⟨?_, fun es'' hes'' commit hcm => ?_⟩, fun t' ht' => ?_⟩
      · rintro m' ⟨⟩
        exact hm'
      · cases he.entries.symm.trans hes''
        rcases he.move.commits_mem hs hcm with hold | ⟨p, result, rfl, rfl⟩
        · exact use_mono (ho.journal es hk.entries commit hold)
        · exact use_mono hos
      · obtain ⟨place', hp', rfl⟩ := map_eq_some_iff.mp (mem_toList.mp ht')
        exact hn place' hp'
  frame_step := by
    rintro s s' t u c ts ⟨es, hk⟩ - - - - - hu - hd
    cases advance_step hd with
    | restart | reject | accept => exact hu
    | «section» req place m s' next hm hc =>
      obtain ⟨e, -, rfl, rfl⟩ := sections_turn hc hm
      cases u with
      | call | restart => trivial
      | «at» => exact hu.mono fun _ _ => use_mono

theorem answered_append {answered : List (Request × Result)} {req' req : Request}
    {answer : Option (Except Failure Result)}
    (h : answeredWith answered req' answer = answered ++ [(req, result)]) :
    req' = req ∧ ∃ value, answer = some (.ok value) ∧ req.operation.answer value = result := by
  unfold answeredWith at h
  split at h
  · rename_i value
    have hp := append_cancel_left h
    cases hp
    exact ⟨rfl, value, rfl, rfl⟩
  · exact absurd (congrArg List.length h) (by simp)

/-- **A request ID answers only its owner.** In a run in which a call that comes with the request ID
of another Pod or operation finds it completed, a call returns a nil error only if its Pod and
operation were the first to use its ID, and a lease it returns is the caller's. -/
theorem request_id_answers_owner {w w' : World (Agent β) Task} {ev : Event Call Choice}
    {req : Request} {result : Result} (hr : (system codec).Reaches (Bound codec) start w)
    (hallowed : System.Allowed (Bound codec) w ev) (hstep : (system codec).step w ev = some w')
    (hanswer : w'.shared.answered = w.shared.answered ++ [(req, result)]) :
    w'.shared.users req.id.requestID = some req.owner ∧
      ∀ lease, result = .leased lease → lease.podUID = req.id.podUID := by
  have ho := flights_outline.extend (fun _ _ _ h => h.1) (@ownership_extension β _ codec)
  have hw := ho.reaches (.start ⟨kept_start, owned_start⟩) hr
  cases ev with
  | spawn =>
    cases hstep
    exact absurd (congrArg List.length hanswer) (by simp)
  | run =>
    obtain ⟨t, s', _, _, _, hg, ha, _, rfl⟩ := step_run_cases hstep
    have ht := hw.task t (mem_of_getElem? hg)
    have hb := hallowed t hg
    obtain ⟨⟨es, hk⟩, hom⟩ := hw.inv
    cases advance_step ha with
    | restart | reject | accept => exact absurd (congrArg List.length hanswer) (by simp [Agent.new])
    | «section» req' place m s' next hm hc =>
      obtain ⟨e, hu, rfl, rfl⟩ := sections_turn hc hm
      obtain ⟨rfl, _, hv, rfl⟩ := answered_append hanswer
      obtain ⟨huse, hf⟩ := hu.answer_owned hm hb (ht.1.2.2.2 rfl m hm es hk.entries)
        (hom.memory m hm) ht.2 hv
      exact ⟨huse, fun lease => hf.answer⟩

end Runs

/-! ## A retry that joins its own call, and a call that joins another Pod's -/

/-- The pin is repeated while it executes and the repetition joins it; then another Pod comes with
the same request ID, and is refused. -/
theorem repeated_pin_answers_owner : ∃ w w' : World (Agent (Option JournalEntry)) Task,
      w'.shared.answered = w.shared.answered ++ [(samplePin, .pinned "digest")] ∧
      w.tasks.length = 2 ∧ w'.shared.users "request" = some ("pod", .pinImage) := by
  obtain ⟨w, w', hr, hl, ht, hte⟩ := exists_step_of_runMeeting
    (S := system symbols) (G := Bound symbols) (w := start)
    (pinning ++ [.spawn (.request samplePin), .run 1 .go, .run 1 (.append none),
      .run 0 (.append none), .spawn (.request { samplePin with id.podUID := "other" }), .run 2 .go,
      .run 2 (.append none)]) 0 .go
    (fun w w' => decide (w'.shared.answered =
      w.shared.answered ++ [(samplePin, .pinned "digest")] ∧ w.tasks.length = 2)) (by decide)
  obtain ⟨ha, hp⟩ := of_decide_eq_true hte
  exact ⟨w, w', ha, hp, (request_id_answers_owner hr hl ht ha).1⟩

def leaseOf (podUID sandboxID : String) : Request :=
  ⟨{ requestID := "request", podUID }, .leaseDevices sandboxID "image" 128 false⟩

/-- **A lease for another Pod.** Two Pods lease devices for their own Sandboxes under one request
ID. The second call joins the execution of the first and returns the first Pod's lease. -/
theorem joined_call_gets_foreign_lease :
    ∃ w w' lease, (system symbols).Reaches System.anyStep start w ∧
      (system symbols).step w (.run 0 .go) = some w' ∧
      w'.shared.answered = w.shared.answered ++ [(leaseOf "second" "other", .leased lease)] ∧
      w'.shared.users "request" = some ("first", .leaseDevices) ∧ lease.podUID = "first" := by
  obtain ⟨w, w', hr, ht, hte⟩ := exists_step_of_run (S := system symbols) (w := start)
    [.spawn .restart, .run 0 .go,
      .spawn (.request (leaseOf "first" "own")), .run 0 .go, .run 0 .go, .run 0 .go,
      .run 0 (.append none),
      .spawn (.request (leaseOf "second" "other")), .run 1 .go, .run 1 .go, .run 1 .go,
      .run 1 (.append none),
      .run 0 (.executed (.ok { leaseID := "lease" })), .run 0 (.append none), .run 0 .go]
        (.run 0 .go)
    (fun w w' => w'.shared.answered = w.shared.answered ++ [(leaseOf "second" "other",
        .leased { leaseID := "lease", sandboxID := "own", image := "image", podUID := "first" })] ∧
      w'.shared.users "request" = some ("first", .leaseDevices)) (by decide)
  obtain ⟨ha, hu⟩ := of_decide_eq_true hte
  exact ⟨w, w', _, hr, ht, ha, hu, rfl⟩

end FastSandbox.Lease
