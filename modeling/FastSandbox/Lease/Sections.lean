import FastSandbox.Lease.State

/-!
# What the sections of a call do

Every section leaves a memory, may write one line, and either stands before the next section or
returns an answer. `Turn` lists the sections that way, and `sections_turn` reads each executed
section as one of them.
-/

namespace FastSandbox.Lease

open LineLog Option

/-- The in-flight entry of a call that executes it. -/
def Place.runs : Place → Option Ref
  | execute p | commit p _ | finish p _ => some p
  | _ => none

/-- The call holds the lock of its Sandbox, if it has one. -/
def Place.holds : Place → Bool
  | lockSandbox => false
  | _ => true

/-- What a section leaves behind. A line is written with the fate of its append. -/
structure Effect where
  memory : Memory
  write : Option (JournalEntry × Option ℕ) := none
  next : Option Place := none
  answer : Option (Except Failure Result) := none

section Sections

variable {β : Type} [DecidableEq β]

/-- The bytes of the journal after a section. -/
def written (codec : Codec JournalEntry β) (file : List β) :
    Option (JournalEntry × Option ℕ) → List β
  | none => file
  | some (entry, outcome) => append codec file entry outcome

def answeredWith (answered : List (Request × Result)) (req : Request) :
    Option (Except Failure Result) → List (Request × Result)
  | some (.ok result) => answered ++ [(req, req.operation.answer result)]
  | _ => answered

/-- A result line that could not be appended is lost. -/
def lostWith (lost : List Request) (req : Request) :
    Option (JournalEntry × Option ℕ) → List Request
  | some (.result .., some _) => req :: lost
  | _ => lost

def Agent.after (codec : Codec JournalEntry β) (s : Agent β) (req : Request) (e : Effect) :
    Agent β where
  file := written codec s.file e.write
  memory := some e.memory
  incarnation := s.incarnation
  answered := answeredWith s.answered req e.answer
  lost := lostWith s.lost req e.write
  users := (s.use req).users

/-- The outcome of a call whose result line met this fate. -/
def commitOutcome (req : Request) (result : Result) (outcome : Option ℕ) : Except Failure Result :=
  if outcome.isNone then .ok result else .error (.journalResult req.operation.op)

/-- What a section of a call does, with the entry and locks that it found. -/
inductive Turn (m : Memory) (req : Request) : Place → Choice → Effect → Prop
  | locks {sandboxID : String} (hsandbox : req.operation.sandbox = some sandboxID)
      (hfree : m.sandboxKey sandboxID = false) :
      Turn m req .lockSandbox .go { memory := m.enter sandboxID, next := some .findLease }
  | unleased {sandboxID : String} (hsandbox : req.operation.sandbox = some sandboxID)
      (hnone : m.tables.bySandbox sandboxID = none) :
      Turn m req .findLease .go { memory := m, next := some .begin }
  | leased {sandboxID leaseID : String} {lease : DeviceLease}
      (hsandbox : req.operation.sandbox = some sandboxID)
      (hby : m.tables.bySandbox sandboxID = some leaseID)
      (hlease : (m.tables.leases.lookup leaseID).getD {} = lease)
      (hpod : lease.podUID = req.id.podUID) :
      Turn m req .findLease .go { memory := m, next := some (.rememberCompleted lease) }
  | remembers {lease : DeviceLease} {m' : Memory} (hremember : m.remember req lease = .ok m') :
      Turn m req (.rememberCompleted lease) .go
        { memory := m'.leave req, answer := some (.ok (.leased lease)) }
  | refuses {place : Place} (err : Failure) (hplace : place.runs = none)
      (hholds : place.holds) :
      Turn m req place .go { memory := m.leave req, answer := some (.error err) }
  | owns {leaseID : String} (hop : req.operation = .releaseDevices leaseID) :
      Turn m req .checkOwner .go { memory := m, next := some .begin }
  | replays {answer : Except Failure Result} (outcome : Option ℕ)
      (hreplayed : m.replayed req = some answer) :
      Turn m req .begin (.append outcome) { memory := m.leave req, answer := some answer }
  | joins {p : Ref} (outcome : Option ℕ) (hreplayed : m.replayed req = none)
      (hin : m.inflight req.id.requestID = some p) :
      Turn m req .begin (.append outcome) { memory := m, next := some (.wait p) }
  | opens (hreplayed : m.replayed req = none) (hin : m.inflight req.id.requestID = none) :
      Turn m req .begin (.append none)
        { memory := { m with toFlights := m.register req.id.requestID }
          write := some (.intent req, none)
          next := some (.execute m.next) }
  | strands (n : ℕ) (hreplayed : m.replayed req = none)
      (hin : m.inflight req.id.requestID = none) :
      Turn m req .begin (.append (some n))
        { memory := m.leave req
          write := some (.intent req, some n)
          answer := some (.error (.journalIntent req.operation.op)) }
  | executes (p : Ref) (effect : SideEffect) :
      Turn m req (.execute p) (.executed (.ok effect))
        { memory := m, next := some (.commit p (req.result effect)) }
  | fails (p : Ref) (message : String) :
      Turn m req (.execute p) (.executed (.error message))
        { memory := m, next := some (.finish p (.error (.sideEffect message))) }
  | settles (p : Ref) (result : Result) (outcome : Option ℕ) :
      Turn m req (.commit p result) (.append outcome)
        { memory := m.applied req result
          write := some (.result req.id.requestID req.operation.op result, outcome)
          next := some (.finish p (commitOutcome req result outcome)) }
  | finishes (p : Ref) (outcome : Except Failure Result) :
      Turn m req (.finish p outcome) .go
        { memory := Memory.leave { m with toFlights := m.finish req.id.requestID p outcome } req
          answer := some outcome }
  | waits (p : Ref) {outcome : Except Failure Result}
      (houtcome : (m.pending p).outcome = some outcome) :
      Turn m req (.wait p) .go { memory := m.leave req, answer := some outcome }

variable {codec : Codec JournalEntry β} {s s' : Agent β} {m : Memory} {req : Request}
  {place : Place} {next : Option Place} {c : Choice}

omit [DecidableEq β] in
theorem Agent.after_same (hm : s.memory = some m) (next : Option Place) :
    s.after codec req { memory := m, next } = s.use req := by
  obtain ⟨_, memory, _, _, _, _⟩ := s
  cases hm
  rfl

omit [DecidableEq β] in
theorem Agent.after_returns (m' : Memory) (answer : Except Failure Result) :
    s.after codec req { memory := m'.leave req, answer := some answer } =
      (s.use req).returns m' req answer := by
  cases answer <;> rfl

omit [DecidableEq β] in
/-- **Whatever a call does next is a turn.** -/
theorem sections_turn (h : sections codec (s.use req) m req place c = some (s', next))
    (hm : s.memory = some m) :
    ∃ e, Turn m req place c e ∧ s' = s.after codec req e ∧ next = e.next := by
  have ht : ∀ {next' : Option Place}, Turn m req place c { memory := m, next := next' } →
      (s.use req, next') = (s', next) → ∃ e, Turn m req place c e ∧ s' = s.after codec req e ∧
        next = e.next := by
    rintro next' htr ⟨⟩
    exact ⟨_, htr, (Agent.after_same hm _).symm, rfl⟩
  have he : ∀ {m' : Memory} {answer : Except Failure Result},
      Turn m req place c { memory := m'.leave req, answer := some answer } →
      ((s.use req).returns m' req answer, none) = (s', next) → ∃ e, Turn m req place c e ∧
        s' = s.after codec req e ∧ next = e.next := by
    rintro m' answer htr ⟨⟩
    exact ⟨_, htr, (Agent.after_returns m' answer).symm, rfl⟩
  cases place with
  | lockSandbox =>
    cases c with
    | append | executed => cases h
    | go =>
      simp only [sections] at h
      cases hs : req.operation.sandbox with
      | none =>
        rw [hs] at h
        cases h
      | some sandboxID =>
        rw [hs] at h
        dsimp only at h
        split_ifs at h with hk
        cases h
        exact ⟨_, .locks hs (Bool.eq_false_of_not_eq_true hk), rfl, rfl⟩
  | findLease =>
    cases c with
    | append | executed => cases h
    | go =>
      simp only [sections] at h
      cases hs : req.operation.sandbox with
      | none =>
        rw [hs] at h
        cases h
      | some sandboxID =>
        rw [hs] at h
        dsimp only at h
        cases hb : m.tables.bySandbox sandboxID with
        | none =>
          rw [hb] at h
          exact ht (.unleased hs hb) (some.inj h)
        | some leaseID =>
          rw [hb] at h
          dsimp only at h
          split_ifs at h with hp
          · exact he (.refuses _ rfl rfl) (some.inj h)
          · exact ht (.leased hs hb rfl (not_not.mp hp)) (some.inj h)
  | rememberCompleted lease =>
    cases c with
    | append | executed => cases h
    | go =>
      simp only [sections] at h
      cases hrm : m.remember req lease with
      | error err =>
        rw [hrm] at h
        exact he (.refuses err rfl rfl) (some.inj h)
      | ok m' =>
        rw [hrm] at h
        exact he (.remembers hrm) (some.inj h)
  | checkOwner =>
    cases c with
    | append | executed => cases h
    | go =>
      simp only [sections] at h
      split at h
      · rename_i leaseID hop
        split at h
        · exact he (.refuses _ rfl rfl) (some.inj h)
        · exact ht (.owns hop) (some.inj h)
      · cases h
  | begin =>
    cases c with
    | go | executed => cases h
    | append outcome =>
      simp only [sections] at h
      cases hr : m.replayed req with
      | some answer =>
        rw [hr] at h
        exact he (.replays outcome hr) (some.inj h)
      | none =>
        rw [hr] at h
        cases hin : m.inflight req.id.requestID with
        | some p =>
          rw [hin] at h
          exact ht (.joins outcome hr hin) (some.inj h)
        | none =>
          rw [hin] at h
          cases outcome with
          | none =>
            cases h
            exact ⟨_, .opens hr hin, rfl, rfl⟩
          | some n =>
            cases h
            exact ⟨_, .strands n hr hin, rfl, rfl⟩
  | execute p =>
    cases c with
    | go | append => cases h
    | executed outcome =>
      cases outcome with
      | ok effect => exact ht (.executes p effect) (some.inj h)
      | error message =>
        simp only [sections] at h
        have hn : (s.use req, some (Place.finish p (.error (.sideEffect message)))) =
          (s', next) := by
          split at h <;> first | exact some.inj h | cases h
        exact ht (.fails p message) hn
  | commit p result =>
    cases c with
    | go | executed => cases h
    | append outcome =>
      refine ⟨_, .settles p result outcome, ?_⟩
      cases outcome <;> cases h <;> exact ⟨rfl, rfl⟩
  | finish p outcome =>
    cases c with
    | append | executed => cases h
    | go => exact he (.finishes p outcome) (some.inj h)
  | wait p =>
    cases c with
    | append | executed => cases h
    | go =>
      obtain ⟨outcome, ho, hpr⟩ := map_eq_some_iff.mp h
      exact he (.waits p ho) hpr

/-! ## Steps of the agent -/

inductive Step (codec : Codec JournalEntry β) (s : Agent β) (c : Choice) :
    Task → Agent β → List Task → Prop
  | restart : Step codec s c .restart (s.new codec) []
  | reject (req : Request) : Step codec s c (.call req) s []
  | accept (req : Request) (hvalid : req.valid) :
      Step codec s c (.call req) s [.at s.incarnation req req.operation.first]
  | section (req : Request) (place : Place) (m : Memory) (s' : Agent β) (next : Option Place)
      (hm : s.memory = some m) (h : sections codec (s.use req) m req place c = some (s', next)) :
      Step codec s c (.at s.incarnation req place) s' (next.map (Task.at s.incarnation req)).toList

/-- Every task takes one of these steps. -/
theorem advance_step {t : Task} {ts : List Task} (h : advance codec s t c = some (s', ts)) :
    Step codec s c t s' ts := by
  cases t with
  | restart =>
    cases c with
    | append | executed => cases h
    | go =>
      cases h
      exact .restart
  | call req =>
    cases c with
    | append | executed => cases h
    | go =>
      obtain ⟨m, -, hc⟩ := map_eq_some_iff.mp h
      obtain ⟨rfl, rfl⟩ := Prod.mk.inj hc
      split_ifs with hv
      · exact .accept req hv
      · exact .reject req
  | «at» incarnation req place =>
    simp only [advance] at h
    split_ifs at h with hn
    subst hn
    obtain ⟨m, hm, h⟩ := bind_eq_some_iff.mp h
    obtain ⟨⟨s'', next⟩, hs, hp⟩ := map_eq_some_iff.mp h
    obtain ⟨rfl, rfl⟩ := Prod.mk.inj hp
    exact .section req place m s'' next hm hs

theorem runs_first (operation : Operation) : operation.first.runs = none := by
  cases operation <;> rfl

/-! ## What a section leaves alone -/

theorem Memory.toFlights_leave (m : Memory) (req : Request) :
    (m.leave req).toFlights = m.toFlights := by
  unfold Memory.leave
  cases req.operation.sandbox <;> rfl

theorem Memory.tables_leave (m : Memory) (req : Request) : (m.leave req).tables = m.tables := by
  unfold Memory.leave
  cases req.operation.sandbox <;> rfl

/-- A request ID that has an answer keeps it. -/
theorem Memory.remember_cases {m' : Memory} {lease : DeviceLease}
    (h : m.remember req lease = .ok m') :
    (m' = m ∧ ∃ entry, m.tables.completed req.id.requestID = some entry ∧
        entry.podUID = req.id.podUID) ∨
      m.tables.completed req.id.requestID = none ∧
        m' = { m with tables := (m.tables.complete req.id.requestID
          { op := .leaseDevices, podUID := req.id.podUID, lease := some lease }) } := by
  unfold Memory.remember at h
  cases hc : m.tables.completed req.id.requestID with
  | none =>
    rw [hc] at h
    cases h
    exact .inr ⟨rfl, rfl⟩
  | some entry =>
    rw [hc] at h
    dsimp only at h
    split_ifs at h with hp
    cases h
    exact .inl ⟨rfl, entry, rfl, not_not.mp hp⟩

/-- Only its owner gets an answer replayed. -/
theorem Memory.replayed_ok {result : Result} (h : m.replayed req = some (.ok result)) :
    ∃ entry, m.tables.completed req.id.requestID = some entry ∧ entry.owner = req.owner ∧
      entry.result = result := by
  obtain ⟨entry, he, ha⟩ := map_eq_some_iff.mp h
  split_ifs at ha with ho hp
  exact ⟨entry, he, Prod.ext (not_not.mp hp) (not_not.mp ho), Except.ok.inj ha⟩

theorem Memory.toFlights_remember {m' : Memory} {lease : DeviceLease}
    (h : m.remember req lease = .ok m') : m'.toFlights = m.toFlights := by
  rcases Memory.remember_cases h with ⟨rfl, -⟩ | ⟨-, rfl⟩ <;> rfl

end Sections

end FastSandbox.Lease
