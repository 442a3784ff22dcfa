import FastSandbox.Lease.Flights

/-!
# Durability of answered calls

A call that returns a nil error should be found again after a crash. That holds for every call
whose own execution is journaled when it answers. It fails for the answers given from memory: an
execution is applied and remembered before its result line is written, and if that append fails
the next call is answered from what the journal never held.
-/

namespace FastSandbox.Lease

open Interleaving LineLog Option List
open Function

variable {β : Type} [DecidableEq β]

/-! ## Answers and the executions they report -/

/-- The execution an answer reports is the request's own, or the one that leased its Sandbox. -/
def Reports (req : Request) (result : Result) (c : Commit) : Prop :=
  c.result = result ∧
    (c.req = req ∨ req.operation.sandbox ≠ none ∧ c.req.operation.sandbox = req.operation.sandbox)

instance (req : Request) (result : Result) (c : Commit) : Decidable (Reports req result c) :=
  inferInstanceAs (Decidable (_ ∧ _))

def Reported (cs : List Commit) (req : Request) (result : Result) : Prop :=
  ∃ c ∈ cs, Reports req result c

instance (cs : List Commit) (req : Request) (result : Result) :
    Decidable (Reported cs req result) := inferInstanceAs (Decidable (∃ c ∈ cs, _))

variable {result : Result}

theorem Reported.mono {cs cs' : List Commit} {req : Request} (h : Reported cs req result)
    (hsub : cs ⊆ cs') : Reported cs' req result := by
  obtain ⟨c, hc, hr⟩ := h
  exact ⟨c, hsub hc, hr⟩

/-- The committed executions of the journal file. -/
def journaled (codec : Codec JournalEntry β) (file : List β) : List Commit :=
  ((entries codec file).map commits).getD []

/-! ## The condition -/

/-- A new lease has an ID that is in use neither in memory nor in the journal. -/
def NewLease (codec : Codec JournalEntry β) (s : Agent β) (req : Request) (result : Result) :
    Prop :=
  req.operation.sandbox ≠ none →
    (∀ m ∈ s.memory, m.tables.leases.lookup result.lease.leaseID = none) ∧
      ∀ r ∈ recover codec s.file, r.leases.lookup result.lease.leaseID = none

instance (codec : Codec JournalEntry β) (s : Agent β) (req : Request) (result : Result) :
    Decidable (NewLease codec s req result) := inferInstanceAs (Decidable (_ → _))

/-- A request ID stands for one request; since `New` no result line could not be appended for the
request ID that is called again, or for the lease of the Sandbox that has one; lease IDs are new;
and no line is appended to an unfinished one. -/
def Safe (codec : Codec JournalEntry β) (requests : String → Request) (s : Agent β) (t : Task)
    (c : Choice) : Prop :=
  Tidy codec s t c ∧
    match t with
    | .at _ req place => requests req.id.requestID = req ∧
      match place with
      | .begin => ∀ r ∈ s.lost, r.id.requestID ≠ req.id.requestID
      | .rememberCompleted _ => ∀ r ∈ s.lost, r.operation.sandbox ≠ req.operation.sandbox
      | .commit _ result => NewLease codec s req result
      | _ => True
    | _ => True

instance (codec : Codec JournalEntry β) (requests : String → Request) (s : Agent β) (t : Task)
    (c : Choice) : Decidable (Safe codec requests s t c) := by
  unfold Safe
  split
  · split <;> infer_instance
  · infer_instance

/-! ## What the tables hold -/

/-- An execution committed this lease of the Sandbox. -/
def Leased (cs : List Commit) (sandboxID : String) (lease : DeviceLease) : Prop :=
  ∃ c ∈ cs, c.result = .leased lease ∧ c.req.operation.sandbox = some sandboxID

/-- What the tables answer is committed, but for the requests that were lost. -/
structure Backed (requests : String → Request) (lost : List Request) (cs : List Commit)
    (t : Tables) : Prop where
  completed : ∀ requestID entry, t.completed requestID = some entry →
    (∀ r ∈ lost, r.id.requestID ≠ requestID) →
    entry.op = (requests requestID).operation.op → Reported cs (requests requestID)
      ((requests requestID).operation.answer entry.result)
  leased : ∀ sandboxID leaseID, t.bySandbox sandboxID = some leaseID →
    (∀ r ∈ lost, r.operation.sandbox ≠ some sandboxID) → ∃ lease,
      t.leases.lookup leaseID = some lease ∧ lease.sandboxID = sandboxID ∧ Leased cs sandboxID lease

section

variable {requests : String → Request} {lost lost' : List Request} {cs cs' : List Commit}
  {t t' : Tables} {lease : DeviceLease}

theorem Leased.mono {sandboxID : String} (h : Leased cs sandboxID lease) (hsub : cs ⊆ cs') :
    Leased cs' sandboxID lease := by
  obtain ⟨c, hc, hl⟩ := h
  exact ⟨c, hsub hc, hl⟩

variable (h : Backed requests lost cs t)
include h

theorem Backed.mono (hsub : cs ⊆ cs') (hlost : lost ⊆ lost') : Backed requests lost' cs' t where
  completed requestID entry he hn ho :=
    (h.completed requestID entry he (fun r hr => hn r (hlost hr)) ho).mono hsub
  leased sandboxID leaseID hb hn := by
    obtain ⟨lease, hl, hs, hc⟩ := h.leased sandboxID leaseID hb fun r hr => hn r (hlost hr)
    exact ⟨lease, hl, hs, hc.mono hsub⟩

theorem Backed.congr (hc : t'.completed = t.completed) (hb : t'.bySandbox = t.bySandbox)
    (hl : t'.leases = t.leases) : Backed requests lost cs t' where
  completed := by
    rw [hc]
    exact h.completed
  leased := by
    rw [hb, hl]
    exact h.leased

theorem Backed.complete {requestID : String} {entry : Completed}
    (he : (∀ r ∈ lost, r.id.requestID ≠ requestID) → Reported cs (requests requestID)
      ((requests requestID).operation.answer entry.result)) :
    Backed requests lost cs (t.complete requestID entry) where
  completed requestID' entry' he' hn ho := by
    change update t.completed requestID (some entry) requestID' = _ at he'
    rw [update_apply] at he'
    split_ifs at he' with heq
    · subst heq
      cases he'
      exact he hn
    · exact h.completed requestID' entry' he' hn ho
  leased := h.leased

/-- A new lease does not displace another one. -/
theorem Backed.addLease (hnew : t.leases.lookup lease.leaseID = none)
    (hl : (∀ r ∈ lost, r.operation.sandbox ≠ some lease.sandboxID) →
      Leased cs lease.sandboxID lease) : Backed requests lost cs (t.addLease lease) where
  completed := h.completed
  leased sandboxID leaseID hb hn := by
    change update t.bySandbox lease.sandboxID (some lease.leaseID) sandboxID = _ at hb
    show ∃ other, (t.leases.insert lease.leaseID lease).lookup leaseID = some other ∧ _
    rw [update_apply] at hb
    split_ifs at hb with heq
    · subst heq
      cases hb
      exact ⟨lease, Finmap.lookup_insert _, rfl, hl hn⟩
    · obtain ⟨other, ho, hs⟩ := h.leased sandboxID leaseID hb hn
      refine ⟨other, ?_, hs⟩
      have hne : leaseID ≠ lease.leaseID := by
        rintro rfl
        rw [hnew] at ho
        cases ho
      rw [Finmap.lookup_insert_of_ne _ hne, ho]

/-- A lease is dropped together with the index entry of its Sandbox. -/
theorem Backed.dropLease (leaseID : String) (count : ℤ → ℤ) :
    Backed requests lost cs (t.dropLease leaseID count) := by
  unfold Tables.dropLease
  cases hl : t.leases.lookup leaseID with
  | none => exact h
  | some lease =>
    have hd : Backed requests lost cs { t with
        leases := t.leases.erase leaseID
        bySandbox := update t.bySandbox lease.sandboxID none } := by
      refine ⟨h.completed, fun sandboxID leaseID' hb hn => ?_⟩
      change update t.bySandbox lease.sandboxID none sandboxID = _ at hb
      rw [update_apply] at hb
      split_ifs at hb with heq
      obtain ⟨other, ho, hs, hc⟩ := h.leased sandboxID leaseID' hb hn
      have hne : leaseID' ≠ leaseID := by
        rintro rfl
        rw [hl] at ho
        cases ho
        exact heq hs.symm
      exact ⟨other, (Finmap.lookup_erase_ne hne).trans ho, hs, hc⟩
    dsimp only
    split
    · exact hd
    · exact hd.congr rfl rfl rfl

omit h

/-- The lease that a side effect makes is of the request's Sandbox. -/
theorem result_lease {req : Request} {sandboxID : String} (effect : SideEffect)
    (hs : req.operation.sandbox = some sandboxID) :
    req.result effect = .leased (req.result effect).lease ∧
      (req.result effect).lease.sandboxID = sandboxID := by
  unfold Request.result
  cases ho : req.operation with
  | leaseDevices =>
    rw [ho] at hs
    cases hs
    exact ⟨rfl, rfl⟩
  | pinImage | unpinImage | releaseDevices =>
    rw [ho] at hs
    cases hs

/-- A commit, of which the entry remembers the result. -/
theorem Backed.commit {req : Request} {result : Result} {entry : Completed}
    (h : Backed requests lost cs t) (hreq : requests req.id.requestID = req)
    (hin : (∀ r ∈ lost, r.id.requestID ≠ req.id.requestID) → ⟨req, result⟩ ∈ cs)
    (he : req.operation.answer entry.result = result) :
    Backed requests lost cs (t.complete req.id.requestID entry) := by
  refine h.complete fun hn => ?_
  rw [hreq, he]
  exact ⟨⟨req, result⟩, hin hn, rfl, .inl rfl⟩

variable {req : Request} {effect : SideEffect} (h : Backed requests lost cs t)
  (hnew : req.operation.sandbox ≠ none →
    t.leases.lookup (req.result effect).lease.leaseID = none)
include h hnew

theorem Backed.leases {sandboxID : String} (hs : req.operation.sandbox = some sandboxID)
    (hin : (∀ r ∈ lost, r.operation.sandbox ≠ some sandboxID) → ⟨req, req.result effect⟩ ∈ cs) :
    Backed requests lost cs (t.addLease (req.result effect).lease) := by
  obtain ⟨hl, hsb⟩ := result_lease effect hs
  refine h.addLease (hnew (by simp [hs])) fun hn => ?_
  rw [hsb] at hn ⊢
  exact ⟨⟨req, req.result effect⟩, hin hn, hl, hs⟩

variable (hreq : requests req.id.requestID = req)
include hreq

/-- A call is applied in memory. -/
theorem Backed.applied (hin : (∀ r ∈ lost, r ≠ req) → ⟨req, req.result effect⟩ ∈ cs) :
    Backed requests lost cs ((t.apply req.operation (req.result effect)).complete req.id.requestID
      (Completed.setResult { op := req.operation.op, podUID := req.id.podUID }
        (req.result effect))) := by
  refine Backed.commit ?_ hreq (fun hn => hin fun r hr hq => hn r hr (hq ▸ rfl)) ?_
  · unfold Tables.apply
    split
    · exact h.congr rfl rfl rfl
    · split
      · exact h
      · exact h.congr rfl rfl rfl
    · rename_i ho
      have hs := congrArg Operation.sandbox ho
      exact h.leases hnew hs fun hn => hin fun r hr hq => hn r hr (hq ▸ hs)
    · exact h.dropLease _ _
  · unfold Request.result
    cases req.operation <;> rfl

/-- A committed call is applied by `recover`. -/
theorem Backed.replayApply (hin : ⟨req, req.result effect⟩ ∈ cs)
    (hr : t.replayApply req (req.result effect) = some t') : Backed requests lost cs t' := by
  obtain ⟨id, operation⟩ := req
  cases operation with
  | pinImage | unpinImage =>
    obtain ⟨_, hb, rfl⟩ := map_eq_some_iff.mp hr
    unfold Tables.bumpPin at hb
    split_ifs at hb
    cases hb
    exact Backed.commit (h.congr rfl rfl rfl) hreq (fun _ => hin) rfl
  | leaseDevices =>
    cases hr
    exact Backed.commit (h.leases hnew rfl fun _ => hin) hreq (fun _ => hin) rfl
  | releaseDevices leaseID =>
    cases hr
    exact Backed.commit (h.dropLease leaseID _) hreq (fun _ => hin) rfl

end

/-! ## Calls in flight -/

/-- A successful outcome in flight is journaled. -/
def Flights.Reports (requests : String → Request) (f : Flights) (es : List JournalEntry) : Prop :=
  ∀ p result, (f.pending p).outcome = some (.ok result) →
    Reported (commits es) (requests (f.pending p).requestID)
      ((requests (f.pending p).requestID).operation.answer result)

/-- What a call relies on beyond its place in flight. -/
def Reporting (requests : String → Request) (es : List JournalEntry) (req : Request) :
    Place → Prop
  | .execute _ | .wait _ => requests req.id.requestID = req
  | .commit _ result => requests req.id.requestID = req ∧ req.operation.answer result = result
  | .finish _ outcome =>
    requests req.id.requestID = req ∧
      ∀ result, outcome = .ok result → Reported (commits es) req (req.operation.answer result)
  | _ => True

section

variable {requests : String → Request} {f f' : Flights} {es es' : List JournalEntry}
  {req : Request} {place : Place} {next : Option Place}

theorem Reporting.mono (h : Reporting requests es req place) (hsub : commits es ⊆ commits es') :
    Reporting requests es' req place := by
  cases place with
  | finish => exact ⟨h.1, fun result hr => (h.2 result hr).mono hsub⟩
  | execute p | commit p result | wait p | lockSandbox | findLease | rememberCompleted lease
  | checkOwner | begin => exact h

theorem reported_result {op : Op} (h : openIntents es req.id.requestID = some req) :
    Reported (commits (es ++ [.result req.id.requestID op result])) req result := by
  refine ⟨⟨req, result⟩, ?_, rfl, .inl rfl⟩
  rw [commits_append]
  simp [committed, h]

theorem answer_result (req : Request) (effect : SideEffect) :
    req.operation.answer (req.result effect) = req.result effect := by
  unfold Request.result
  cases req.operation <;> rfl

/-- **The moving call** finds what it relies on. -/
theorem Move.reporting (h : Move f es req place f' es' next)
    (he : requests req.id.requestID = req) (hs : Standing f es req place)
    (hre : Reporting requests es req place) :
    ∀ place' ∈ next, Reporting requests es' req place' := by
  cases h with
  | stay place next hp hn =>
    intro place' hp'
    cases hp'
    cases place' with
    | findLease | rememberCompleted lease | begin => trivial
    | lockSandbox | checkOwner | execute p | commit p result | finish p outcome | wait p => cases hn
  | join | opens =>
    rintro place' ⟨⟩
    exact he
  | strands | finishes => rintro place' ⟨⟩
  | executes p effect =>
    rintro place' ⟨⟩
    exact ⟨he, answer_result req effect⟩
  | fails =>
    rintro place' ⟨⟩
    exact ⟨he, nofun⟩
  | closes p result outcome ho =>
    rintro place' ⟨⟩
    refine ⟨he, fun result' hr' => ?_⟩
    rw [ho result' hr', hre.2]
    exact reported_result hs.2

section

variable (hf : f.Reports requests es)
include hf

theorem Flights.Reports.mono (hsub : commits es ⊆ commits es') : f.Reports requests es' :=
  fun p result h => (hf p result h).mono hsub

theorem Flights.Reports.register (requestID : String) :
    (f.register requestID).Reports requests es := by
  intro p result hr
  change (update f.pending f.next { requestID } p).outcome = _ at hr
  show Reported _ (requests (update f.pending f.next { requestID } p).requestID)
    ((requests (update f.pending f.next { requestID } p).requestID).operation.answer _)
  by_cases hp : p = f.next
  · rw [hp, update_self] at hr
    cases hr
  · rw [update_of_ne hp] at hr ⊢
    exact hf p result hr

theorem Flights.Reports.finish {p : Ref}
    {outcome : Except Failure Result} (ho : (f.pending p).requestID = req.id.requestID)
    (he : Reporting requests es req (.finish p outcome)) :
    (f.finish req.id.requestID p outcome).Reports requests es := by
  intro q result hr
  rw [Flights.requestID_finish]
  change (update f.pending p { f.pending p with outcome := some outcome } q).outcome = _ at hr
  by_cases hq : q = p
  · rw [hq, update_self] at hr
    rw [hq, ho, he.1]
    exact he.2 result (some.inj hr)
  · rw [update_of_ne hq] at hr
    exact hf q result hr

end

theorem Move.reports (h : Move f es req place f' es' next) (hk : f.Keyed)
    (hs : Standing f es req place) (he : Reporting requests es req place)
    (hf : f.Reports requests es) : f'.Reports requests es' := by
  have hsub := h.commits_subset
  cases h with
  | stay | join | executes | fails => exact hf
  | opens => exact (hf.register req.id.requestID).mono hsub
  | strands | closes => exact hf.mono hsub
  | finishes => exact hf.finish (hk.owner _ _ hs) he

end

/-! ## What a section answers -/

section

variable {codec : Codec JournalEntry β} {requests : String → Request} {s s' : Agent β}
  {m : Memory} {es : List JournalEntry} {req : Request} {place : Place} {c : Choice} {e : Effect}

theorem journaled_eq (he : entries codec s.file = some es) :
    journaled codec s.file = commits es := by
  unfold journaled
  rw [he]
  rfl

/-- What a call has found, if the lease was not lost. -/
def Finds (lost : List Request) (cs : List Commit) (req : Request) : Place → Prop
  | .rememberCompleted lease => (∀ r ∈ lost, r.operation.sandbox ≠ req.operation.sandbox) →
      ∃ sandboxID, req.operation.sandbox = some sandboxID ∧ Leased cs sandboxID lease
  | _ => True

theorem Finds.mono {lost lost' : List Request} {cs cs' : List Commit} (h : Finds lost cs req place)
    (hlost : lost ⊆ lost') (hsub : cs ⊆ cs') : Finds lost' cs' req place := by
  cases place with
  | rememberCompleted =>
    intro hn
    obtain ⟨sandboxID, hs, hl⟩ := h fun r hr => hn r (hlost hr)
    exact ⟨sandboxID, hs, hl.mono hsub⟩
  | lockSandbox | findLease | checkOwner | begin | execute | commit | finish | wait => trivial

theorem Leased.reported {cs : List Commit} {sandboxID : String} {lease : DeviceLease}
    (h : Leased cs sandboxID lease) (hs : req.operation.sandbox = some sandboxID) :
    Reported cs req (req.operation.answer (.leased lease)) := by
  obtain ⟨c, hc, hr, ho⟩ := h
  refine ⟨c, hc, hr.trans ?_, .inr ⟨by simp [hs], ho.trans hs.symm⟩⟩
  cases hop : req.operation with
  | leaseDevices => rfl
  | pinImage | unpinImage | releaseDevices =>
    rw [hop] at hs
    cases hs

theorem lost_subset (lost : List Request) (req : Request)
    (write : Option (JournalEntry × Option ℕ)) : lost ⊆ lostWith lost req write := by
  unfold lostWith
  split
  · exact subset_cons_self _ _
  · exact fun _ h => h

variable (h : Turn m req place c e)
  (hsf : Safe codec requests s (.at s.incarnation req place) c)
  (hb : Backed requests s.lost (commits es) m.tables) (hn : Finds s.lost (commits es) req place)
include h hsf hb hn

theorem Turn.reported (hf : m.toFlights.Reports requests es)
    (hs : Standing m.toFlights es req place)
    (he : Reporting requests es req place) (ha : e.answer = some (.ok result)) :
    Reported (commits es) req (req.operation.answer result) := by
  cases h with
  | remembers =>
    cases ha
    obtain ⟨_, hsb, hl⟩ := hn hsf.2.2
    exact hl.reported hsb
  | replays outcome hp =>
    cases ha
    obtain ⟨entry, hc, ho, rfl⟩ := Memory.replayed_ok hp
    have hr := hb.completed _ entry hc hsf.2.2
    rw [hsf.2.1] at hr
    exact hr (congrArg Prod.snd ho)
  | finishes =>
    cases ha
    exact he.2 result rfl
  | waits p ho =>
    cases ha
    have hrr := hf p result ho
    rw [hs.2, he] at hrr
    exact hrr
  | locks | unleased | leased | refuses | owns | joins | opens | strands | executes | fails
  | settles => cases ha

omit [DecidableEq β] hsf hn in
theorem Turn.finds : ∀ place' ∈ e.next, Finds s.lost (commits es) req place' := by
  cases h with
  | leased hs hy hl =>
    rintro place' ⟨⟩ hn
    rw [hs] at hn
    obtain ⟨lease, ht, -, hc⟩ := hb.leased _ _ hy hn
    rw [ht] at hl
    exact ⟨_, hs, hl ▸ hc⟩
  | locks | unleased | owns | joins | opens | executes | fails | settles =>
    rintro place' ⟨⟩
    trivial
  | remembers | refuses | replays | strands | finishes | waits => rintro place' ⟨⟩

/-- **One section** leaves tables of which the journal holds what was not lost. -/
theorem Turn.backed {es' : List JournalEntry} (hm : s.memory = some m) (hx : place.Executed req)
    (hsub : commits es ⊆ commits es')
    (hin : ∀ p result, place = .commit p result → c = .append none → ⟨req, result⟩ ∈ commits es') :
    Backed requests (lostWith s.lost req e.write) (commits es') e.memory.tables := by
  have hl {m' : Memory} (hb' : Backed requests s.lost (commits es) m'.tables) :
      Backed requests s.lost (commits es') (m'.leave req).tables := by
    rw [Memory.tables_leave]
    exact hb'.mono hsub (fun _ hr => hr)
  cases h with
  | locks | unleased | leased | owns | joins | opens | executes | fails =>
    exact hb.mono hsub fun _ hr => hr
  | refuses | replays | strands | waits | finishes => exact hl hb
  | remembers hr =>
    refine hl ?_
    rcases Memory.remember_cases hr with ⟨rfl, -⟩ | ⟨-, rfl⟩
    · exact hb
    · refine hb.complete fun _ => ?_
      obtain ⟨_, hsb, hc⟩ := hn hsf.2.2
      rw [hsf.2.1]
      exact hc.reported hsb
  | settles p result outcome =>
    obtain ⟨effect, rfl⟩ := hx
    have hnew : req.operation.sandbox ≠ none →
        m.tables.leases.lookup (req.result effect).lease.leaseID = none :=
      fun hs => (hsf.2.2 hs).1 m hm
    cases outcome with
    | none =>
      exact (hb.mono hsub fun _ hr => hr).applied hnew hsf.2.1 fun _ => hin p _ rfl rfl
    | some n =>
      exact (hb.mono hsub fun _ => mem_cons_of_mem req).applied hnew hsf.2.1 fun hne =>
        absurd rfl (hne req mem_cons_self)

omit h hsf hb hn in
theorem mem_answeredWith {answered : List (Request × Result)}
    {answer : Option (Except Failure Result)}
    {a : Request × Result} (h : a ∈ answeredWith answered req answer) :
    a ∈ answered ∨ ∃ result, answer = some (.ok result) ∧
      a = (req, req.operation.answer result) := by
  unfold answeredWith at h
  split at h
  · rename_i result
    rcases mem_append.mp h with h | h
    · exact .inl h
    · exact .inr ⟨result, rfl, mem_singleton.mp h⟩
  · exact .inl h

end

/-! ## Runs -/

section

variable {codec : Codec JournalEntry β} {requests : String → Request}

/-- The journal reports every answered call, every outcome in flight and what the tables would
answer, those in memory and those it rebuilds. -/
structure Sound (codec : Codec JournalEntry β) (requests : String → Request) (s : Agent β)
    (es : List JournalEntry) : Prop where
  answered : ∀ a ∈ s.answered, Reported (commits es) a.1 a.2
  rebuilt : ∀ r ∈ recover codec s.file, Backed requests [] (commits es) r
  flights : ∀ m ∈ s.memory, m.toFlights.Reports requests es
  tables : ∀ m ∈ s.memory, Backed requests s.lost (commits es) m.tables

def Sounds (codec : Codec JournalEntry β) (requests : String → Request) (s : Agent β) : Prop :=
  ∀ es, entries codec s.file = some es → Sound codec requests s es

def TaskReports (codec : Codec JournalEntry β) (requests : String → Request) (s : Agent β) :
    Task → Prop
  | .at incarnation req place => incarnation = s.incarnation → ∀ es,
      entries codec s.file = some es →
        Reporting requests es req place ∧ Finds s.lost (commits es) req place
  | _ => True

theorem Sounds.new {s : Agent β} (h : Sounds codec requests s) :
    Sounds codec requests (s.new codec) := by
  intro es he
  have he' := (entries_truncate s.file).symm.trans he
  have hr : recover codec (truncate codec s.file) = recover codec s.file :=
    (recover_eq he).trans (recover_eq he').symm
  obtain ⟨ha, hb, -, -⟩ := h es he'
  refine ⟨ha, fun r hm => hb r (hr ▸ hm), fun m hm => ?_, fun m hm => ?_⟩
  all_goals obtain ⟨tables, ht, rfl⟩ := map_eq_some_iff.mp hm
  · exact fun p result hp => by cases hp
  · exact hb tables ht

variable {s : Agent β} {m : Memory} {es es' : List JournalEntry} {req : Request} {place : Place}
  {c : Choice} {e : Effect}

section

variable (he : Section codec s m es req place c e es') (hk : Kept codec s es)
  (hm : s.memory = some m) (hs : Standing m.toFlights es req place)
  (hsf : Safe codec requests s (.at s.incarnation req place) c)
include he hk hs hsf

theorem Section.rebuilt (ho : Sound codec requests s es) (hx : place.Executed req) :
    ∀ r ∈ recover codec (written codec s.file e.write), Backed requests [] (commits es') r := by
  intro r' hr'
  have hsub := he.move.commits_subset
  rw [mem_def, recover_eq he.entries] at hr'
  rcases he.move.commits_eq hs with heq | ⟨p, result, rfl, heq⟩
  · rw [heq] at hr' ⊢
    exact ho.rebuilt r' ((recover_eq hk.entries).trans hr')
  · rw [heq, Tables.replay_append] at hr'
    obtain ⟨r, hr, hr'⟩ := bind_eq_some_iff.mp hr'
    obtain ⟨_, ha, hd⟩ := bind_eq_some_iff.mp hr'
    cases hd
    obtain ⟨effect, rfl⟩ := hx
    have hrec := (recover_eq hk.entries).trans hr
    refine ((ho.rebuilt r hrec).mono hsub fun _ h => h).replayApply
      (fun hsb => (hsf.2.2 hsb).2 r hrec) hsf.2.1 ?_ ha
    rw [heq]
    exact mem_append_right _ mem_cons_self

include hm

theorem Section.settled {p : Ref} {result : Result} (hp : place = .commit p result)
    (hc : c = .append none) : ⟨req, result⟩ ∈ commits es' := by
  subst hp hc
  cases he.turn
  have hl := entries_append_line (hsf.1 m hm rfl) hk.entries
    (.result req.id.requestID req.operation.op result)
  cases he.entries.symm.trans hl
  rw [commits_append]
  simp [committed, hs.2]

end

theorem durability_extension :
    System.Extension (system codec) (Safe codec requests) (fun s => ∃ es, Kept codec s es)
      (TaskStands codec) Apart (Sounds codec requests) (TaskReports codec requests) where
  entry_holds := by
    rintro s (req | _) - - <;> trivial
  local_step := by
    rintro s s' t c ts ⟨es, hk⟩ ht ho hro hsf hd
    cases advance_step hd with
    | restart => exact ⟨ho.new, nofun⟩
    | reject => exact ⟨ho, nofun⟩
    | accept req =>
      refine ⟨ho, fun t' ht' => ?_⟩
      rw [mem_singleton.mp ht']
      intro _ es' _
      cases req.operation <;> exact ⟨trivial, trivial⟩
    | «section» req place m s' next hm hc =>
      have hs := ht.2.2.2 rfl m hm es hk.entries
      obtain ⟨hr, hn⟩ := hro rfl es hk.entries
      have hso := ho es hk.entries
      obtain ⟨e, es', he, rfl, rfl⟩ := exists_section hc hm hk.entries hsf.1
      have hv := he.move
      have hb := hso.tables m hm
      refine ⟨fun es'' hes'' => ?_, fun t' ht' => ?_⟩
      · cases he.entries.symm.trans hes''
        refine ⟨fun a ha => ?_, he.rebuilt hk hs hsf hso ht.2.1, ?_, ?_⟩
        · rcases mem_answeredWith ha with ha | ⟨result, han, rfl⟩
          · exact (hso.answered a ha).mono hv.commits_subset
          · exact (he.turn.reported hsf hb hn (hso.flights m hm) hs hr han).mono hv.commits_subset
        · rintro _ ⟨⟩
          exact hv.reports (hk.flights m hm) hs hr (hso.flights m hm)
        · rintro _ ⟨⟩
          exact he.turn.backed hsf hb hn hm ht.2.1 hv.commits_subset fun _ _ =>
            he.settled hk hm hs hsf
      · obtain ⟨place', hp', rfl⟩ := map_eq_some_iff.mp (mem_toList.mp ht')
        intro _ es'' hes''
        cases he.entries.symm.trans hes''
        exact ⟨hv.reporting hsf.2.1 hs hr place' hp',
          (he.turn.finds hb place' hp').mono (lost_subset ..) hv.commits_subset⟩
  frame_step := by
    rintro s s' t u c ts ⟨es, hk⟩ - hu0 - - - hu hsf hd
    cases u with
    | call | restart => trivial
    | «at» =>
      cases advance_step hd with
      | restart => exact fun hj => absurd hj (Nat.lt_succ_of_le hu0.2.2.1).ne
      | reject | accept => exact hu
      | «section» req place m s' next hm hc =>
        obtain ⟨e, es', he, rfl, rfl⟩ := exists_section hc hm hk.entries hsf.1
        intro hj es'' hes''
        cases he.entries.symm.trans hes''
        obtain ⟨hr, hn⟩ := hu hj es hk.entries
        exact ⟨hr.mono he.move.commits_subset, hn.mono (lost_subset ..) he.move.commits_subset⟩

theorem durability_outline : (system codec).Outline (Safe codec requests)
      (fun s => (∃ es, Kept codec s es) ∧ Sounds codec requests s)
      (fun s t => TaskStands codec s t ∧ TaskReports codec requests s t) Apart :=
  flights_outline.extend (fun _ _ _ hs => hs.1) durability_extension

theorem sounds_start : Sounds codec requests ({} : Agent β) := by
  intro es he
  refine ⟨nofun, fun r hr => ?_, nofun, nofun⟩
  cases (show some [] = some es from he)
  cases (recover_eq he).symm.trans hr
  exact ⟨by simp, by simp⟩

/-- **Durability.** If request IDs and lease IDs are not reused, no call is repeated after its
result line could not be appended, nor a Sandbox leased after that happened to its lease, and no
line is appended to an unfinished one, then at any time `New` rebuilds the pins and leases of the
committed executions, and among them is one that each call answered so far reports. -/
theorem answered_recovered {w : World (Agent β) Task}
    (hr : (system codec).Reaches (Safe codec requests) start w) :
    ∃ tables, recover codec w.shared.file = some tables ∧
      tables.Shows (effects (journaled codec w.shared.file)) ∧
      ∀ a ∈ w.shared.answered, Reported (journaled codec w.shared.file) a.1 a.2 := by
  have hw := durability_outline.reaches (.start ⟨kept_start, sounds_start⟩) hr
  obtain ⟨⟨es, hk⟩, ho⟩ := hw.inv
  obtain ⟨tables, he, hs⟩ := recover_shows hk.entries hk.valid
  rw [journaled_eq hk.entries]
  exact ⟨tables, he, hs, (ho es hk.entries).answered⟩

end

/-! ## A pin, and a pin whose result line was not written -/

theorem pin_recovered : ∃ w, (system symbols).Reaches (Safe symbols fun _ => samplePin) start w ∧
      w.shared.answered = [(samplePin, .pinned "digest")] ∧
      ∃ tables, recover symbols w.shared.file = some tables ∧
        tables.Shows (effects (journaled symbols w.shared.file)) ∧
        ∀ a ∈ w.shared.answered, Reported (journaled symbols w.shared.file) a.1 a.2 := by
  obtain ⟨w, hr, ht⟩ := System.exists_reaches_of_runMeeting (S := system symbols)
    (G := Safe symbols fun _ => samplePin) (w := start)
    (pinning ++ [.run 0 (.append none), .run 0 .go])
    (fun w => w.shared.answered = [(samplePin, .pinned "digest")]) (by decide)
  exact ⟨w, hr, of_decide_eq_true ht, answered_recovered hr⟩

/-- Request IDs are not reused for another request. -/
def OneRequest (requests : String → Request) (_ : Agent β) (t : Task) (_ : Choice) : Prop :=
  match t with
  | .at _ req _ => requests req.id.requestID = req
  | _ => True

instance (requests : String → Request) (s : Agent β) (t : Task) (c : Choice) :
    Decidable (OneRequest requests s t c) :=
  match t with
  | .at _ _ _ => inferInstanceAs (Decidable (_ = _))
  | .call _ => inferInstanceAs (Decidable True)
  | .restart => inferInstanceAs (Decidable True)

/-- **A lost pin.** The result line of a pin cannot be written and the call fails; its retry is
answered from memory, and a restart finds no pin. -/
theorem retried_pin_lost : ∃ w, (system symbols).Reaches (OneRequest fun _ => samplePin) start w ∧
      w.shared.answered = [(samplePin, .pinned "digest")] ∧
      ∃ tables, recover symbols w.shared.file = some tables ∧ tables.pinCount "image" = 0 := by
  obtain ⟨w, hr, ht⟩ := System.exists_reaches_of_runMeeting (S := system symbols)
    (G := OneRequest fun _ => samplePin) (w := start)
    (pinning ++ [.run 0 (.append (some 0)), .run 0 .go,
      .spawn (.request samplePin), .run 0 .go, .run 0 (.append none)])
    (fun w => w.shared.answered = [(samplePin, .pinned "digest")] ∧
      (recover symbols w.shared.file).map (·.pinCount "image") = some 0) (by decide)
  obtain ⟨ha, hp⟩ := of_decide_eq_true ht
  obtain ⟨tables, he, hc⟩ := map_eq_some_iff.mp hp
  exact ⟨w, hr, ha, tables, he, hc⟩

end FastSandbox.Lease
