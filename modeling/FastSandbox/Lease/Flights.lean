import FastSandbox.Lease.Journal
import FastSandbox.Lease.Sections

/-!
# Calls in flight and their intents

An executing call is the one the in-flight map names under its request ID, and its intent is open
in the journal; no two calls execute the same entry. That holds in every run that appends lines
only to a journal whose last line is complete, whatever requests are made and whichever appends
fail.
-/

namespace FastSandbox.Lease

open Interleaving LineLog List Option Nat
open Function

/-! ## What a section does to the calls in flight and to the journal -/

/-- The places at which a call relies on nothing. -/
def Place.idle : Option Place → Bool
  | none | some .findLease | some (.rememberCompleted _) | some .begin => true
  | _ => false

/-- What a section does to the calls in flight and to the journal. -/
inductive Move (f : Flights) (es : List JournalEntry) (req : Request) :
    Place → Flights → List JournalEntry → Option Place → Prop
  | stay (place : Place) (next : Option Place) (hplace : place.runs = none)
      (hnext : Place.idle next) : Move f es req place f es next
  | join (p : Ref) (hp : f.inflight req.id.requestID = some p) :
      Move f es req .begin f es (some (.wait p))
  | opens (h : f.inflight req.id.requestID = none) :
      Move f es req .begin (f.register req.id.requestID) (es ++ [.intent req])
        (some (.execute f.next))
  | strands (h : f.inflight req.id.requestID = none) :
      Move f es req .begin f (es ++ [.intent req]) none
  | executes (p : Ref) (effect : SideEffect) :
      Move f es req (.execute p) f es (some (.commit p (req.result effect)))
  | fails (place : Place) (p : Ref) (err : Failure) (hplace : place.runs = some p) :
      Move f es req place f es (some (.finish p (.error err)))
  | closes (p : Ref) (result : Result) (outcome : Except Failure Result)
      (h : ∀ result', outcome = .ok result' → result' = result) :
      Move f es req (.commit p result) f
        (es ++ [.result req.id.requestID req.operation.op result]) (some (.finish p outcome))
  | finishes (p : Ref) (outcome : Except Failure Result) :
      Move f es req (.finish p outcome) (f.finish req.id.requestID p outcome) es none

section

variable {β : Type} [DecidableEq β] {codec : Codec JournalEntry β} {m : Memory}
  {es : List JournalEntry} {req : Request} {place : Place} {c : Choice} {e : Effect}

/-- **Every turn is a move**, as long as no line is appended to an unfinished one. -/
theorem Turn.move {file : List β} (h : Turn m req place c e) (hs : entries codec file = some es)
    (hw : e.write.isSome → Whole codec file) :
    ∃ es', entries codec (written codec file e.write) = some es' ∧
      Move m.toFlights es req place e.memory.toFlights es' e.next := by
  have hv : ∀ (m' : Memory), m'.toFlights = m.toFlights → place.runs = none →
      Move m.toFlights es req place (m'.leave req).toFlights es none := by
    intro m' hf hl
    rw [Memory.toFlights_leave, hf]
    exact .stay place none hl rfl
  cases h with
  | locks | unleased | leased | owns => exact ⟨es, hs, .stay _ _ rfl rfl⟩
  | remembers hm => exact ⟨es, hs, hv _ (Memory.toFlights_remember hm) rfl⟩
  | refuses err hl => exact ⟨es, hs, hv m rfl hl⟩
  | replays | waits => exact ⟨es, hs, hv m rfl rfl⟩
  | joins outcome hp hin => exact ⟨es, hs, .join _ hin⟩
  | opens hp hin => exact ⟨_, entries_append_line (hw rfl) hs _, .opens hin⟩
  | strands n hp hin =>
    rcases entries_append (hw rfl) hs (.intent req) (some n) with hs' | ⟨-, hs'⟩
    · refine ⟨_, hs', ?_⟩
      rw [Memory.toFlights_leave]
      exact .strands hin
    · exact ⟨_, hs', hv m rfl rfl⟩
  | executes p effect => exact ⟨es, hs, .executes p effect⟩
  | fails p => exact ⟨es, hs, .fails _ p _ rfl⟩
  | settles p result outcome =>
    have he := entries_append (hw rfl) hs (.result req.id.requestID req.operation.op result) outcome
    rcases he with hs' | ⟨ho, hs'⟩
    · refine ⟨_, hs', .closes p result _ fun _ hr' => ?_⟩
      unfold commitOutcome at hr'
      split_ifs at hr'
      exact (Except.ok.inj hr').symm
    · refine ⟨es, hs', ?_⟩
      have her : commitOutcome req result outcome = .error (.journalResult req.operation.op) := by
        cases outcome with
        | none => exact absurd rfl ho
        | some n => rfl
      rw [her]
      exact .fails _ p _ rfl
  | finishes p outcome =>
    refine ⟨es, hs, ?_⟩
    rw [Memory.toFlights_leave]
    exact .finishes p outcome

end

/-! ## What a call relies on -/

/-- Every entry of the in-flight map has its own key. -/
structure Flights.Keyed (f : Flights) : Prop where
  lt : ∀ requestID p, f.inflight requestID = some p → p < f.next
  owner : ∀ requestID p, f.inflight requestID = some p → (f.pending p).requestID = requestID

/-- An executing call is the one in flight, and its intent is open until it commits. -/
def Standing (f : Flights) (es : List JournalEntry) (req : Request) : Place → Prop
  | .execute p | .commit p _ =>
    f.inflight req.id.requestID = some p ∧ openIntents es req.id.requestID = some req
  | .finish p _ => f.inflight req.id.requestID = some p
  | .wait p => p < f.next ∧ (f.pending p).requestID = req.id.requestID
  | _ => True

section Moves

variable {f f' : Flights} {es es' : List JournalEntry} {req : Request} {place : Place}
  {next : Option Place}

theorem Standing.inflight {p : Ref} (h : Standing f es req place) (hp : place.runs = some p) :
    f.inflight req.id.requestID = some p := by
  cases place with
  | execute q | commit q result =>
    cases hp
    exact h.1
  | finish =>
    cases hp
    exact h
  | lockSandbox | findLease | rememberCompleted lease | checkOwner | begin | wait q => cases hp

theorem openIntents_intent (hv : req.valid) : openIntents (es ++ [.intent req]) =
      update (openIntents es) req.id.requestID (some req) := by
  rw [openIntents_append]
  exact if_neg (Request.requestID_ne_empty hv)

section

variable (h : Move f es req place f' es' next)
include h

theorem Move.commits_subset : commits es ⊆ commits es' := by
  cases h with
  | opens | strands | closes =>
    rw [commits_append]
    exact subset_append_left _ _
  | stay | join | executes | fails | finishes => exact fun _ hc => hc

theorem Move.intent_mem {req' : Request} (he : .intent req' ∈ es')
    : .intent req' ∈ es ∨ req' = req := by
  cases h with
  | stay | join | executes | fails | finishes => exact .inl he
  | opens | strands | closes =>
    rcases mem_append.mp he with he | he
    · exact .inl he
    · rw [mem_singleton] at he
      cases he <;> exact .inr rfl

theorem Move.commits_eq (hs : Standing f es req place) : commits es' = commits es ∨
      ∃ p result, place = .commit p result ∧ commits es' = commits es ++ [⟨req, result⟩] := by
  cases h with
  | stay | join | executes | fails | finishes => exact .inl rfl
  | opens | strands =>
    rw [commits_append]
    exact .inl (append_nil _)
  | closes p result =>
    rw [commits_append]
    simp only [committed, hs.2, map_some, toList_some]
    exact .inr ⟨p, result, rfl, rfl⟩

theorem Move.commits_mem (hs : Standing f es req place) {c : Commit} (hc : c ∈ commits es') :
    c ∈ commits es ∨ ∃ p result, place = .commit p result ∧ c = ⟨req, result⟩ := by
  rcases h.commits_eq hs with heq | ⟨p, result, hl, heq⟩
  · exact .inl (heq ▸ hc)
  rw [heq] at hc
  rcases mem_append.mp hc with hc | hc
  · exact .inl hc
  · exact .inr ⟨p, result, hl, mem_singleton.mp hc⟩

theorem Move.runs {place' : Place} {p : Ref} (hn : next = some place')
    (hp : place'.runs = some p) : place.runs = some p ∨ p = f.next := by
  cases h with
  | stay place next hl hi =>
    subst hn
    cases place' with
    | execute q | commit q result | finish q outcome => cases hi
    | lockSandbox | findLease | rememberCompleted lease | checkOwner | begin | wait q => cases hp
  | join => cases hn; cases hp
  | opens =>
    cases hn
    cases hp
    exact .inr rfl
  | strands | finishes => cases hn
  | executes | closes =>
    cases hn
    exact .inl hp
  | fails place q err hl =>
    cases hn
    cases hp
    exact .inl hl

/-- **The moving call** finds what it relies on. -/
theorem Move.standing (hf : f.Keyed) (hv : req.valid) (hs : Standing f es req place) :
    ∀ place' ∈ next, Standing f' es' req place' := by
  cases h with
  | stay place next hl hn =>
    intro place' hpl'
    cases hpl'
    cases place' with
    | findLease | rememberCompleted lease | begin => trivial
    | lockSandbox | checkOwner | execute p | commit p result | finish p outcome | wait p => cases hn
  | join p hp =>
    rintro place' ⟨⟩
    exact ⟨hf.lt _ _ hp, hf.owner _ _ hp⟩
  | opens =>
    rintro place' ⟨⟩
    refine ⟨update_self _ _ _, ?_⟩
    rw [openIntents_intent hv, update_self]
  | strands | finishes => rintro place' ⟨⟩
  | executes =>
    rintro place' ⟨⟩
    exact hs
  | fails place p err hl =>
    rintro place' ⟨⟩
    exact hs.inflight hl
  | closes =>
    rintro place' ⟨⟩
    exact hs.1

end

theorem Standing.frame (hs : Standing f es req place) (hr : ∀ p, place.runs = some p →
      f'.inflight req.id.requestID = f.inflight req.id.requestID ∧
        openIntents es' req.id.requestID = openIntents es req.id.requestID)
    (hw : ∀ p < f.next, p < f'.next ∧ (f'.pending p).requestID = (f.pending p).requestID) :
    Standing f' es' req place := by
  cases place with
  | execute p | commit p result =>
    obtain ⟨h1, h2⟩ := hr p rfl
    unfold Standing
    rw [h1, h2]
    exact hs
  | finish p =>
    obtain ⟨h1, -⟩ := hr p rfl
    unfold Standing
    rw [h1]
    exact hs
  | wait p =>
    obtain ⟨h1, h2⟩ := hw p hs.1
    exact ⟨h1, h2.trans hs.2⟩
  | lockSandbox | findLease | rememberCompleted lease | checkOwner | begin => trivial

theorem Flights.requestID_finish (f : Flights) (requestID : String) (p : Ref)
    (outcome : Except Failure Result) (q : Ref) :
    ((f.finish requestID p outcome).pending q).requestID = (f.pending q).requestID := by
  show (update f.pending p _ q).requestID = _
  rw [update_apply]
  split_ifs with hq
  · rw [hq]
  · rfl

/-- **Another call** keeps what it relies on, as long as the two do not execute the same entry. -/
theorem Move.standing_other (h : Move f es req place f' es' next)
    (hv : req.valid) (hs : Standing f es req place) {req' : Request}
    {place' : Place} (hs' : Standing f es req' place')
    (ha : ∀ p, place.runs = some p → place'.runs ≠ some p) : Standing f' es' req' place' := by
  -- an executing call's key is not the one this move works on
  have hf : f.inflight req.id.requestID = none → ∀ p, place'.runs = some p →
      req'.id.requestID ≠ req.id.requestID := by
    intro hn p hp heq
    have hin := hs'.inflight hp
    rw [heq, hn] at hin
    cases hin
  have hb : ∀ q, place.runs = some q → ∀ p, place'.runs = some p →
      req'.id.requestID ≠ req.id.requestID := by
    intro q hq p hp heq
    have hin := hs'.inflight hp
    rw [heq, hs.inflight hq] at hin
    cases hin
    exact ha q hq hp
  cases h with
  | stay | join | executes | fails => exact hs'
  | opens hn =>
    refine hs'.frame (fun p hp => ?_) (fun p hp => ⟨lt_succ_of_lt hp, ?_⟩)
    · have hne := hf hn p hp
      rw [openIntents_intent hv, update_of_ne hne]
      exact ⟨update_of_ne hne _ _, rfl⟩
    · show (update f.pending f.next _ p).requestID = _
      rw [update_of_ne (Nat.ne_of_lt hp)]
  | strands hn =>
    refine hs'.frame (fun p hp => ⟨rfl, ?_⟩) (fun p hp => ⟨hp, rfl⟩)
    rw [openIntents_intent hv, update_of_ne (hf hn p hp)]
  | closes p =>
    refine hs'.frame (fun q hq => ⟨rfl, ?_⟩) (fun q hq => ⟨hq, rfl⟩)
    rw [openIntents_append]
    exact update_of_ne (hb p rfl q hq) _ _
  | finishes p =>
    exact hs'.frame (fun q hq => ⟨update_of_ne (hb p rfl q hq) _ _, rfl⟩)
      fun q hq => ⟨hq, f.requestID_finish _ _ _ _⟩

variable {requestID requestID' : String}

theorem Flights.inflight_register {p : Ref}
    (h : (f.register requestID).inflight requestID' = some p) :
    (requestID' = requestID ∧ p = f.next) ∨ f.inflight requestID' = some p := by
  change update f.inflight requestID (some f.next) requestID' = some p at h
  rw [update_apply] at h
  split_ifs at h with heq
  · cases h
    exact .inl ⟨heq, rfl⟩
  · exact .inr h

theorem Flights.inflight_finish {p q : Ref} {outcome : Except Failure Result}
    (h : (f.finish requestID p outcome).inflight requestID' = some q) :
    f.inflight requestID' = some q := by
  change update f.inflight requestID none requestID' = some q at h
  rw [update_apply] at h
  split_ifs at h
  exact h

theorem Flights.Keyed.register (hf : f.Keyed) (requestID : String) :
    (f.register requestID).Keyed where
  lt requestID' p hp := by
    rcases inflight_register hp with ⟨-, rfl⟩ | hp
    · exact lt_succ_self _
    · exact lt_succ_of_lt (hf.lt _ _ hp)
  owner requestID' p hp := by
    show (update f.pending f.next { requestID } p).requestID = requestID'
    rcases inflight_register hp with ⟨rfl, rfl⟩ | hp
    · rw [update_self]
    · rw [update_of_ne (Nat.ne_of_lt (hf.lt _ _ hp))]
      exact hf.owner _ _ hp

theorem Flights.Keyed.finish (hf : f.Keyed) (requestID : String) (p : Ref)
    (outcome : Except Failure Result) : (f.finish requestID p outcome).Keyed where
  lt _ _ hq := hf.lt _ _ (inflight_finish hq)
  owner _ q hq := (f.requestID_finish _ _ _ q).trans (hf.owner _ _ (inflight_finish hq))

theorem Move.keyed (h : Move f es req place f' es' next) (hf : f.Keyed) : f'.Keyed := by
  cases h with
  | stay | join | executes | fails | strands | closes => exact hf
  | opens => exact hf.register _
  | finishes => exact hf.finish _ _ _

end Moves

/-! ## Runs -/

section Runs

variable {β : Type} [DecidableEq β] {codec : Codec JournalEntry β}

/-- The section appends a line to the journal. -/
def Memory.appends (m : Memory) (req : Request) : Place → Bool
  | .begin => (m.replayed req).isNone && (m.inflight req.id.requestID).isNone
  | .commit .. => true
  | _ => false

variable {m : Memory} {req : Request} {place : Place} {c : Choice} {e : Effect}

theorem Turn.appends (h : Turn m req place c e) (hw : e.write.isSome) : m.appends req place := by
  cases h with
  | opens hr hin | strands n hr hin =>
    simp only [Memory.appends, hr, hin, isNone_none, Bool.and_true]
  | settles => rfl
  | locks | unleased | leased | remembers | refuses | owns | replays | joins | executes | fails
  | finishes | waits => cases hw

/-- No line is appended to an unfinished one. -/
def Tidy (codec : Codec JournalEntry β) (s : Agent β) (t : Task) (_ : Choice) : Prop :=
  match t with
  | .at _ req place => ∀ m ∈ s.memory, m.appends req place → Whole codec s.file
  | _ => True

instance (codec : Codec JournalEntry β) (s : Agent β) (t : Task) (c : Choice) :
    Decidable (Tidy codec s t c) :=
  match t with
  | .at _ _ _ => inferInstanceAs (Decidable (∀ m ∈ _, _))
  | .call _ => inferInstanceAs (Decidable True)
  | .restart => inferInstanceAs (Decidable True)

/-- The journal can be read, intends only valid requests and commits only what was executed. -/
structure Kept (codec : Codec JournalEntry β) (s : Agent β) (es : List JournalEntry) : Prop where
  entries : entries codec s.file = some es
  valid : ∀ req, .intent req ∈ es → req.valid
  executed : ∀ c ∈ commits es, ∃ effect, c.result = c.req.result effect
  flights : ∀ m ∈ s.memory, m.toFlights.Keyed

/-- The result a call is about to commit is that of its side effect. -/
def Place.Executed (req : Request) : Place → Prop
  | .commit _ result => ∃ effect, result = req.result effect
  | _ => True

/-- A call of the present incarnation finds what it relies on. -/
def TaskStands (codec : Codec JournalEntry β) (s : Agent β) : Task → Prop
  | .at incarnation req place =>
    req.valid ∧ place.Executed req ∧ incarnation ≤ s.incarnation ∧
      (incarnation = s.incarnation → ∀ m ∈ s.memory, ∀ es, entries codec s.file = some es →
        Standing m.toFlights es req place)
  | _ => True

theorem Turn.executed (h : Turn m req place c e) : ∀ place' ∈ e.next, place'.Executed req := by
  cases h with
  | executes p effect =>
    rintro place' ⟨⟩
    exact ⟨effect, rfl⟩
  | locks | unleased | leased | owns | joins | opens | fails | settles =>
    rintro place' ⟨⟩
    trivial
  | remembers | refuses | replays | strands | finishes | waits => rintro place' ⟨⟩

/-- Two calls of one incarnation never execute the same entry. -/
def Apart : Task → Task → Prop
  | .at i _ place, .at j _ place' => i = j → ∀ p, place.runs = some p → place'.runs ≠ some p
  | _, _ => True

theorem apart_comm {t u : Task} (h : Apart t u) : Apart u t := by
  cases t with
  | call | restart => cases u <;> trivial
  | «at» =>
    cases u with
    | call | restart => trivial
    | «at» j req' place' => exact fun hi p hp hp' => h hi.symm p hp' hp

variable {es : List JournalEntry}

theorem Kept.new {s : Agent β} (h : Kept codec s es) : Kept codec (s.new codec) es where
  entries := (entries_truncate s.file).trans h.entries
  valid := h.valid
  executed := h.executed
  flights := by
    intro m hm
    obtain ⟨_, -, rfl⟩ := map_eq_some_iff.mp hm
    exact ⟨nofun, nofun⟩

/-- What the section of a standing call is: a turn that moves. -/
structure Section (codec : Codec JournalEntry β) (s : Agent β) (m : Memory) (es : List JournalEntry)
    (req : Request) (place : Place) (c : Choice) (e : Effect) (es' : List JournalEntry) : Prop where
  turn : Turn m req place c e
  entries : LineLog.entries codec (written codec s.file e.write) = some es'
  move : Move m.toFlights es req place e.memory.toFlights es' e.next

theorem exists_section {s s' : Agent β} {next : Option Place}
    (h : sections codec (s.use req) m req place c = some (s', next)) (hm : s.memory = some m)
    (he : entries codec s.file = some es) (hd : Tidy codec s (.at s.incarnation req place) c) :
    ∃ e es', Section codec s m es req place c e es' ∧ s' = s.after codec req e ∧ next = e.next := by
  obtain ⟨e, ht, hs', hn⟩ := sections_turn h hm
  obtain ⟨es', he', hv⟩ := ht.move he fun hw => hd m hm (ht.appends hw)
  exact ⟨e, es', ⟨ht, he', hv⟩, hs', hn⟩

theorem Kept.after {s : Agent β} {es' : List JournalEntry} (h : Kept codec s es)
    (hm : s.memory = some m) (hv : req.valid) (hx : place.Executed req)
    (hs : Standing m.toFlights es req place) (he : Section codec s m es req place c e es') :
    Kept codec (s.after codec req e) es' where
  entries := he.entries
  valid req' hme := by
    rcases he.move.intent_mem hme with hme | rfl
    · exact h.valid req' hme
    · exact hv
  executed commit ho := by
    rcases he.move.commits_mem hs ho with ho | ⟨p, result, rfl, rfl⟩
    · exact h.executed commit ho
    · exact hx
  flights m' hm' := by
    cases hm'
    exact he.move.keyed (h.flights m hm)

theorem flights_outline :
    (system codec).Outline (Tidy codec) (fun s => ∃ es, Kept codec s es) (TaskStands codec)
      Apart where
  symm := apart_comm
  entry_holds := by
    rintro s (req | _) - <;> trivial
  entry_compat := by
    rintro (req | _) u <;> trivial
  local_step := by
    rintro s s' t c ts ⟨es, hk⟩ ht htd hd
    cases advance_step hd with
    | restart => exact ⟨⟨es, hk.new⟩, nofun, .nil⟩
    | reject => exact ⟨⟨es, hk⟩, nofun, .nil⟩
    | accept req hv =>
      refine ⟨⟨es, hk⟩, ?_, pairwise_singleton _ _⟩
      intro t' ht'
      rw [mem_singleton.mp ht']
      refine ⟨hv, ?_, le_refl _, fun _ m _ es' _ => ?_⟩ <;> cases req.operation <;> trivial
    | «section» req place m s' next hm hc =>
      obtain ⟨hv, hx, -, ha⟩ := ht
      have hs := ha rfl m hm es hk.entries
      obtain ⟨e, es', he, rfl, rfl⟩ := exists_section hc hm hk.entries htd
      refine ⟨⟨es', hk.after hm hv hx hs he⟩, ?_, ?_⟩
      · intro t' ht'
        obtain ⟨place', hl', rfl⟩ := map_eq_some_iff.mp (mem_toList.mp ht')
        refine ⟨hv, he.turn.executed place' hl', le_refl _, fun _ m' hm' es'' hes'' => ?_⟩
        cases hm'
        cases he.entries.symm.trans hes''
        exact he.move.standing (hk.flights m hm) hv hs place' hl'
      · cases e.next with
        | none => exact .nil
        | some place' => exact pairwise_singleton _ _
  frame_step := by
    rintro s s' t u c ts ⟨es, hk⟩ ht hu hC htd hd
    cases advance_step hd with
    | restart =>
      refine ⟨?_, nofun⟩
      cases u with
      | call | restart => trivial
      | «at» j req' place' =>
        -- the call died with its incarnation
        refine ⟨hu.1, hu.2.1, le_succ_of_le hu.2.2.1, fun hj => ?_⟩
        have hle := hu.2.2.1
        rw [hj] at hle
        exact absurd hle (not_succ_le_self _)
    | reject => exact ⟨hu, nofun⟩
    | accept =>
      refine ⟨hu, fun t' ht' => ?_⟩
      rw [mem_singleton.mp ht']
      cases u with
      | call | restart => trivial
      | «at» j req' place' =>
        intro _ p hp
        rw [runs_first] at hp
        cases hp
    | «section» req place m s' next hm hc =>
      obtain ⟨hv, -, -, ha⟩ := ht
      have hs := ha rfl m hm es hk.entries
      obtain ⟨e, es', he, rfl, rfl⟩ := exists_section hc hm hk.entries htd
      cases u with
      | call | restart =>
        refine ⟨trivial, fun t' ht' => ?_⟩
        obtain ⟨place', -, rfl⟩ := map_eq_some_iff.mp (mem_toList.mp ht')
        trivial
      | «at» j req' place' =>
        refine ⟨⟨hu.1, hu.2.1, hu.2.2.1, fun hj m' hm' es'' hes'' => ?_⟩, fun t' ht' => ?_⟩
        · cases hm'
          cases he.entries.symm.trans hes''
          exact he.move.standing_other hv hs (hu.2.2.2 hj m hm es hk.entries) (hC hj.symm)
        obtain ⟨_, hl1, rfl⟩ := map_eq_some_iff.mp (mem_toList.mp ht')
        intro hj p hp hp'
        rcases he.move.runs hl1 hp with hr | rfl
        · exact hC hj p hr hp'
        · have hin := (hu.2.2.2 hj.symm m hm es hk.entries).inflight hp'
          exact absurd ((hk.flights m hm).lt _ _ hin) (lt_irrefl _)

theorem kept_start : ∃ es, Kept codec ({} : Agent β) es := ⟨[], rfl, nofun, nofun, nofun⟩

/-- **Executions exclude each other.** No two calls of the running agent execute under one request
ID, and none executes before its intent is in the journal. -/
theorem executions_exclusive {w : World (Agent β) Task} {m : Memory}
    (h : (system codec).Reaches (Tidy codec) start w) (hm : w.shared.memory = some m) :
    w.tasks.Pairwise (fun t u => ∀ req req' place place' p q,
        t = .at w.shared.incarnation req place → u = .at w.shared.incarnation req' place' →
        place.runs = some p → place'.runs = some q → req.id.requestID ≠ req'.id.requestID) ∧
      ∃ es, entries codec w.shared.file = some es ∧ ∀ req p,
        .at w.shared.incarnation req (.execute p) ∈ w.tasks →
          openIntents es req.id.requestID = some req := by
  have hw := flights_outline.reaches (.start kept_start) h
  obtain ⟨es, hk⟩ := hw.inv
  have hs : ∀ req place, .at w.shared.incarnation req place ∈ w.tasks →
      Standing m.toFlights es req place :=
    fun req place ht => (hw.task _ ht).2.2.2 rfl m hm es hk.entries
  refine ⟨hw.compat.imp_of_mem ?_, es, hk.entries, fun req p ht => (hs req _ ht).2⟩
  rintro t u ht hu ha req req' place place' p q rfl rfl hp hq hi
  -- the in-flight map has one entry under the request ID
  have hf := (hs req place ht).inflight hp
  rw [hi, (hs req' place' hu).inflight hq] at hf
  cases hf
  exact ha rfl _ hp hq

end Runs

/-! ## Two pins -/

/-- A codec that spends one symbol on an entry. -/
def symbols : Codec JournalEntry (Option JournalEntry) where
  newline := none
  encode e := [some e]
  decode
    | [some e] => some e
    | _ => none
  decode_encode _ := rfl
  encode_ne_nil _ := cons_ne_nil _ _
  newline_notMem _ := by simp

def samplePin : Request := ⟨{ requestID := "request", podUID := "pod" }, .pinImage "image"⟩

/-- The agent starts, and executes the pin up to its result line. -/
def pinning : List (Event Call Choice) :=
  [.spawn .restart, .run 0 .go,
   .spawn (.request samplePin), .run 0 .go, .run 0 (.append none),
   .run 0 (.executed (.ok { manifestDigest := "digest" }))]

/-- Two pins execute at the same time. -/
theorem pins_exclusive : ∃ w : World (Agent (Option JournalEntry)) Task, w.tasks.length = 2 ∧
    ∃ es, entries symbols w.shared.file = some es ∧ openIntents es "other" ≠ none := by
  obtain ⟨w, hr, ht⟩ := System.exists_reaches_of_runMeeting (S := system symbols)
    (G := Tidy symbols) (w := start)
    (pinning ++ [.spawn (.request { samplePin with id.requestID := "other" }), .run 1 .go,
      .run 1 (.append none)])
    (fun w => decide (w.shared.memory.isSome ∧ w.tasks.length = 2 ∧
      ((entries symbols w.shared.file).bind (openIntents · "other")).isSome)) (by decide)
  obtain ⟨hm, hp, ho⟩ := of_decide_eq_true ht
  obtain ⟨m, hm⟩ := isSome_iff_exists.mp hm
  obtain ⟨-, es, he, -⟩ := executions_exclusive hr hm
  rw [he] at ho
  exact ⟨w, hp, es, he, isSome_iff_ne_none.mp ho⟩

end FastSandbox.Lease
