import FastSandbox.Lease.Counts

/-!
# Consistent tables in every run

The lock of a Sandbox is held from the search for its lease to the call's return, so a Sandbox
without lease stays without one until the call that holds its lock commits. The tables of the
running agent and those its journal rebuilds are therefore consistent, unless the result line of a
release was lost; and while no append fails, the two have the same counts.
-/

namespace FastSandbox.Lease

open Interleaving LineLog Tables Option List Nat System
open Function

variable {β : Type} [DecidableEq β] {codec : Codec JournalEntry β}

/-! ## The condition -/

def resultWritten (codec : Codec JournalEntry β) (req : Request) (result : Result) :
    Option ℕ → Prop
  | none => True
  | some n => (line codec (.result req.id.requestID req.operation.op result)).length ≤ n

instance (codec : Codec JournalEntry β) (req : Request) (result : Result) (outcome : Option ℕ) :
    Decidable (resultWritten codec req result outcome) :=
  match outcome with
  | none => inferInstanceAs (Decidable True)
  | some n => inferInstanceAs (Decidable (_ ≤ n))

/-- A new lease has an unused ID; the result line of a release is written in full; and no line is
appended to an unfinished one. -/
def Steady (codec : Codec JournalEntry β) (s : Agent β) (t : Task) (c : Choice) : Prop :=
  Tidy codec s t c ∧
    match t, c with
    | .at _ req (.commit _ result), .append outcome =>
      match req.operation with
      | .leaseDevices .. => ∀ m ∈ s.memory, m.tables.leases.lookup result.lease.leaseID = none
      | .releaseDevices _ => resultWritten codec req result outcome
      | .pinImage _ | .unpinImage _ => True
    | _, _ => True

instance (codec : Codec JournalEntry β) (s : Agent β) (t : Task) (c : Choice) :
    Decidable (Steady codec s t c) := by
  unfold Steady
  split
  · split <;> infer_instance
  · infer_instance

/-- No append fails. -/
def Choice.succeeds : Choice → Prop
  | .append (some _) => False
  | _ => True

instance (c : Choice) : Decidable c.succeeds :=
  match c with
  | .append (some _) => inferInstanceAs (Decidable False)
  | .append none | .go | .executed _ => inferInstanceAs (Decidable True)

/-! ## Sandbox locks -/

/-- A call past its first section holds its Sandbox's lock. -/
def TaskLocks (s : Agent β) : Task → Prop
  | .at incarnation req place =>
    incarnation = s.incarnation → place.holds → ∀ m ∈ s.memory,
      ∀ sandboxID, req.operation.sandbox = some sandboxID → m.sandboxKey sandboxID
  | _ => True

def LocksApart : Task → Task → Prop
  | .at i req place, .at j req' place' =>
    i = j → place.holds → place'.holds → ∀ sandboxID,
      req.operation.sandbox = some sandboxID → req'.operation.sandbox ≠ some sandboxID
  | _, _ => True

theorem locksApart_comm {t u : Task} (h : LocksApart t u) : LocksApart u t := by
  cases t with
  | call | restart => cases u <;> trivial
  | «at» =>
    cases u with
    | call | restart => trivial
    | «at» j req' place' =>
      exact fun hi hp hp' sandboxID hin hin' => h hi.symm hp' hp sandboxID hin' hin

section

variable {m : Memory} {req : Request} {place : Place} {c : Choice} {e : Effect}

theorem sandboxKey_leave (m : Memory) (req : Request) (sandboxID : String) :
    (m.leave req).sandboxKey sandboxID =
      if req.operation.sandbox = some sandboxID then false else m.sandboxKey sandboxID := by
  unfold Memory.leave
  cases req.operation.sandbox with
  | none => rfl
  | some held =>
    show update m.sandboxKey held false sandboxID = _
    rw [update_apply]
    simp only [some.injEq, eq_comm]

theorem sandboxKey_remember {m' : Memory} {lease : DeviceLease}
    (h : m.remember req lease = .ok m') : m'.sandboxKey = m.sandboxKey := by
  rcases Memory.remember_cases h with ⟨rfl, -⟩ | ⟨-, rfl⟩ <;> rfl

/-- What a section does to the locks: it takes its Sandbox's, leaves all as they are, or returns
and gives its own back. -/
theorem Turn.locks_cases (h : Turn m req place c e) :
    (place = .lockSandbox ∧ e.next = some .findLease ∧
      ∃ sandboxID, req.operation.sandbox = some sandboxID ∧ m.sandboxKey sandboxID = false ∧
        e.memory.sandboxKey = update m.sandboxKey sandboxID true) ∨
    (place.holds ∧ e.memory.sandboxKey = m.sandboxKey ∧ ∀ place' ∈ e.next, place'.holds) ∨
    (place.holds ∧ e.next = none ∧ e.memory.sandboxKey = (m.leave req).sandboxKey) := by
  cases h with
  | locks ha hf => exact .inl ⟨rfl, rfl, _, ha, hf, rfl⟩
  | unleased | leased | owns | joins | opens | executes | fails | settles =>
    exact .inr (.inl ⟨rfl, rfl, by rintro place' ⟨⟩; rfl⟩)
  | refuses err hp hh => exact .inr (.inr ⟨hh, rfl, rfl⟩)
  | replays | strands | waits => exact .inr (.inr ⟨rfl, rfl, rfl⟩)
  | finishes =>
    refine .inr (.inr ⟨rfl, rfl, ?_⟩)
    funext sandboxID
    rw [sandboxKey_leave, sandboxKey_leave]
  | remembers hr =>
    refine .inr (.inr ⟨rfl, rfl, ?_⟩)
    funext sandboxID
    rw [sandboxKey_leave, sandboxKey_leave, sandboxKey_remember hr]

end

theorem holds_first (req : Request) (sandboxID : String)
    (h : req.operation.sandbox = some sandboxID) : req.operation.first.holds = false := by
  cases ho : req.operation with
  | leaseDevices => rfl
  | pinImage | unpinImage | releaseDevices =>
    rw [ho] at h
    cases h

theorem locks_layer :
    System.Layer (system codec) (Steady codec) (fun s => ∃ es, Kept codec s es) (TaskStands codec)
      Apart TaskLocks LocksApart where
  symm := locksApart_comm
  entry_holds := by
    rintro s (req | _) - <;> trivial
  entry_compat := by
    rintro (req | _) u <;> trivial
  local_step := by
    rintro s s' t c ts - - ht - hd
    cases advance_step hd with
    | restart | reject => exact ⟨nofun, .nil⟩
    | accept req =>
      refine ⟨fun t' ht' => ?_, pairwise_singleton _ _⟩
      rw [mem_singleton.mp ht']
      intro _ hh m _ sandboxID ha
      rw [holds_first req sandboxID ha] at hh
      cases hh
    | «section» req place m s' next hm hc =>
      obtain ⟨e, hr, rfl, rfl⟩ := sections_turn hc hm
      constructor
      · intro t' ht'
        obtain ⟨place', hp', rfl⟩ := map_eq_some_iff.mp (mem_toList.mp ht')
        rintro - - m' ⟨⟩ sandboxID ha
        rcases hr.locks_cases with ⟨-, -, held, hl, -, hk⟩ | ⟨hh, hk, -⟩ | ⟨-, hn, -⟩
        · rw [hl] at ha
          cases ha
          rw [hk, update_self]
        · rw [hk]
          exact ht rfl hh m hm sandboxID ha
        · rw [hn] at hp'
          cases hp'
      · cases e.next with
        | none => exact .nil
        | some place' => exact pairwise_singleton _ _
  frame_step := by
    rintro s s' t u c ts - - hu0 - ht hu hC - hd
    cases advance_step hd with
    | restart =>
      refine ⟨?_, nofun⟩
      cases u with
      | call | restart => trivial
      | «at» j req' place' => exact fun hj => absurd hj (lt_succ_of_le hu0.2.2.1).ne
    | reject => exact ⟨hu, nofun⟩
    | accept req =>
      refine ⟨hu, fun t' ht' => ?_⟩
      rw [mem_singleton.mp ht']
      cases u with
      | call | restart => trivial
      | «at» j req' place' =>
        intro _ hh _ sandboxID ha
        rw [holds_first req sandboxID ha] at hh
        cases hh
    | «section» req place m s' next hm hc =>
      obtain ⟨e, hr, rfl, rfl⟩ := sections_turn hc hm
      cases u with
      | call | restart =>
        refine ⟨trivial, fun t' ht' => ?_⟩
        obtain ⟨place', -, rfl⟩ := map_eq_some_iff.mp (mem_toList.mp ht')
        trivial
      | «at» j req' place' =>
        constructor
        · rintro hj hh' m' ⟨⟩ sandboxID ha
          have hk' := hu hj hh' m hm sandboxID ha
          rcases hr.locks_cases with ⟨-, -, held, -, -, hk⟩ | ⟨-, hk, -⟩ | ⟨hh, -, hk⟩
          · rw [hk, update_apply]
            split_ifs
            · rfl
            · exact hk'
          · rw [hk]
            exact hk'
          · rw [hk, sandboxKey_leave, if_neg fun hin => hC hj.symm hh hh' sandboxID hin ha]
            exact hk'
        · intro t' ht'
          obtain ⟨_, hp1, rfl⟩ := map_eq_some_iff.mp (mem_toList.mp ht')
          intro hj _ hh' sandboxID ha hs'
          rcases hr.locks_cases with ⟨-, -, held, hl, hf, -⟩ | ⟨hh, -, -⟩ | ⟨-, hn, -⟩
          · -- the lock was free, so no other call held it
            have hk' := hu hj.symm hh' m hm sandboxID hs'
            rw [hl] at ha
            cases ha
            rw [hf] at hk'
            cases hk'
          · exact hC hj hh hh' sandboxID ha hs'
          · rw [hn] at hp1
            cases hp1

theorem locks_outline : (system codec).Outline (Steady codec) (fun s => ∃ es, Kept codec s es)
      (fun s t => TaskStands codec s t ∧ TaskLocks s t)
      (fun t u => Apart t u ∧ LocksApart t u) :=
  flights_outline.layer (fun _ _ _ h => h.1) locks_layer

/-! ## The tables -/

/-- The call leases devices for a Sandbox that has no lease. -/
def Place.leasing : Place → Bool
  | begin | execute _ | commit _ _ => true
  | _ => false

theorem Place.holds_of_leasing {place : Place} (h : place.leasing) : place.holds := by
  cases place <;> first | rfl | cases h

def TaskLeases (s : Agent β) : Task → Prop
  | .at incarnation req place =>
    incarnation = s.incarnation → place.leasing → ∀ m ∈ s.memory,
      ∀ sandboxID, req.operation.sandbox = some sandboxID → m.tables.bySandbox sandboxID = none
  | _ => True

/-- The live tables and those the journal rebuilds are consistent, and the journal shows no lease
that is not held. -/
structure Sheets (codec : Codec JournalEntry β) (s : Agent β) (r : Tables) : Prop where
  rebuilt : recover codec s.file = some r
  recovered : r.Consistent
  live : ∀ m ∈ s.memory, m.tables.Consistent
  covers : ∀ m ∈ s.memory, m.tables.Covers r

section Turns

variable {s : Agent β} {m : Memory} {es es' : List JournalEntry} {req : Request} {place : Place}
  {c : Choice} {e : Effect} {r : Tables}

/-- The tables but for the completed requests. -/
def Tables.SameLeases (s s' : Tables) : Prop :=
  s'.leases = s.leases ∧ s'.bySandbox = s.bySandbox ∧ s'.images = s.images

theorem Turn.tables_cases (h : Turn m req place c e) :
    ((∀ p result, place ≠ .commit p result) ∧ m.tables.SameLeases e.memory.tables) ∨
      ∃ p result outcome, place = .commit p result ∧ c = .append outcome ∧
        e.write = some (.result req.id.requestID req.operation.op result, outcome) ∧
        (m.tables.apply req.operation result).SameLeases e.memory.tables := by
  have hl : ∀ {m' : Memory}, m.tables.SameLeases m'.tables →
      m.tables.SameLeases (m'.leave req).tables := by
    intro m' hs
    rw [Memory.tables_leave]
    exact hs
  cases h with
  | locks | unleased | leased | owns | joins | opens | executes | fails =>
    exact .inl ⟨nofun, rfl, rfl, rfl⟩
  | refuses err hp =>
    refine .inl ⟨?_, hl ⟨rfl, rfl, rfl⟩⟩
    rintro p result rfl
    cases hp
  | replays | strands | waits | finishes => exact .inl ⟨nofun, hl ⟨rfl, rfl, rfl⟩⟩
  | remembers hr =>
    refine .inl ⟨nofun, hl ?_⟩
    rcases Memory.remember_cases hr with ⟨rfl, -⟩ | ⟨-, rfl⟩ <;> exact ⟨rfl, rfl, rfl⟩
  | settles p result outcome => exact .inr ⟨p, result, outcome, rfl, rfl, rfl, rfl, rfl, rfl⟩

theorem Tables.SameLeases.consistent {s s' : Tables} (h : s.SameLeases s') (hs : s.Consistent) :
    s'.Consistent := by
  obtain ⟨leases, _, _, _⟩ := s'
  obtain ⟨rfl, rfl, rfl⟩ := h
  exact ⟨hs.indexed, hs.listed, hs.counted, hs.pins, hs.leases⟩

theorem Tables.SameLeases.covers {s s' : Tables} (h : s.SameLeases s') (hs : s.Covers r) :
    s'.Covers r := by
  unfold Tables.Covers
  rw [h.1]
  exact hs

theorem Tables.SameLeases.agrees {s s' : Tables} (h : s.SameLeases s') (hs : s.Agrees r) :
    s'.Agrees r := by
  obtain ⟨leases, bySandbox, images, _⟩ := s'
  obtain ⟨rfl, rfl, rfl⟩ := h
  exact ⟨hs.leases, hs.bySandbox, hs.images⟩

theorem recover_of_not_commit (h : Section codec s m es req place c e es')
    (he : entries codec s.file = some es) (hs : Standing m.toFlights es req place)
    (hp : ∀ p result, place ≠ .commit p result) :
    recover codec (written codec s.file e.write) = recover codec s.file := by
  rw [recover_eq he, recover_eq h.entries]
  rcases h.move.commits_eq hs with heq | ⟨p, result, ho, -⟩
  · rw [heq]
  · exact absurd ho (hp p result)

theorem recover_result {p : Ref} {result : Result} (outcome : Option ℕ)
    (he : entries codec s.file = some es) (hw : Whole codec s.file)
    (hs : Standing m.toFlights es req (.commit p result)) (hr : recover codec s.file = some r) :
    recover codec (append codec s.file (.result req.id.requestID req.operation.op result) outcome) =
      if resultWritten codec req result outcome then r.replayApply req result else some r := by
  split_ifs with hf
  · have ha : append codec s.file (.result req.id.requestID req.operation.op result) outcome =
        s.file ++ line codec (.result req.id.requestID req.operation.op result) := by
      cases outcome with
      | none => rfl
      | some => exact congrArg (s.file ++ ·) (take_of_length_le hf)
    have he' := entries_append_line hw he (.result req.id.requestID req.operation.op result)
    rw [recover_eq he] at hr
    rw [ha, recover_eq he', commits_append, replay_append, hr]
    simp only [committed, hs.2, map_some, toList_some]
    exact by exact bind_pure _
  · cases outcome with
    | none => exact absurd trivial hf
    | some =>
      have hu := entries_append_cut hw
        (.result req.id.requestID req.operation.op result) (Nat.lt_of_not_le hf)
      rw [recover_eq (hu.trans he), ← recover_eq he, hr]

theorem Request.result_sandbox {effect : SideEffect} {sandboxID : String}
    (h : req.operation.sandbox = some sandboxID) :
    (req.result effect).lease.sandboxID = sandboxID := by
  unfold Request.result
  cases ho : req.operation with
  | leaseDevices =>
    rw [ho] at h
    cases h
    rfl
  | pinImage | unpinImage | releaseDevices =>
    rw [ho] at h
    cases h

theorem Steady.admits {p : Ref} {result : Result} {outcome : Option ℕ}
    (hd : Steady codec s (.at s.incarnation req (.commit p result)) (.append outcome))
    (hm : s.memory = some m) (he : (Place.commit p result).Executed req)
    (hle : TaskLeases s (.at s.incarnation req (.commit p result))) :
    m.tables.Admits req result := by
  obtain ⟨_, rfl⟩ := he
  intro hp
  cases ho : req.operation with
  | leaseDevices sandboxID =>
    have ha : req.operation.sandbox = some sandboxID := by
      rw [ho]
      rfl
    have hf := hd.2
    simp only [ho] at hf
    refine ⟨hf m hm, ?_⟩
    rw [Request.result_sandbox ha]
    exact hle rfl rfl m hm sandboxID ha
  | pinImage | unpinImage | releaseDevices =>
    rw [ho] at hp
    cases hp

theorem Steady.released {p : Ref} {result : Result} {outcome : Option ℕ} {incarnation : ℕ}
    (hd : Steady codec s (.at incarnation req (.commit p result)) (.append outcome))
    (hp : req.operation.op = .releaseDevices) : resultWritten codec req result outcome := by
  have hf := hd.2
  cases ho : req.operation with
  | releaseDevices =>
    simp only [ho] at hf
    exact hf
  | pinImage | unpinImage | leaseDevices =>
    rw [ho] at hp
    cases hp

section

variable (h : Sheets codec s r) (hkept : Kept codec s es) (hm : s.memory = some m)
include h hkept hm

/-- **One section** keeps the live tables and the journal's consistent. -/
theorem sheets_after (hvd : req.valid) (hx : place.Executed req)
    (hs : Standing m.toFlights es req place) (he : Section codec s m es req place c e es')
    (hd : Steady codec s (.at s.incarnation req place) c)
    (hle : TaskLeases s (.at s.incarnation req place)) :
    ∃ r', Sheets codec (s.after codec req e) r' := by
  have hl := h.live m hm
  have hcv := h.covers m hm
  rcases he.turn.tables_cases with ⟨hp, hsm⟩ | ⟨p, result, outcome, rfl, rfl, hw, hsm⟩
  · have hv := recover_of_not_commit he hkept.entries hs hp
    refine ⟨r, hv.trans h.rebuilt, h.recovered, ?_, ?_⟩
    · rintro m' ⟨⟩
      exact hsm.consistent hl
    · rintro m' ⟨⟩
      exact hsm.covers hcv
  · have ha := hd.admits hm hx hle
    have hl' : e.memory.tables.Consistent :=
      hsm.consistent ((committed_apply _ _ _).consistent hl ha)
    have hk' := hkept.after hm hvd hx hs he
    obtain ⟨r', hr', -⟩ := recover_shows hk'.entries hk'.valid
    have hv := recover_result outcome hkept.entries (hd.1 m hm rfl) hs h.rebuilt
    have hf : (s.after codec req e).file =
        append codec s.file (.result req.id.requestID req.operation.op result) outcome :=
      congrArg (written codec s.file) hw
    rw [← hf, hr'] at hv
    split_ifs at hv with hfl
    · have ha' := hcv.admits hl h.recovered ha
      have hc' := (committed_replayApply hv.symm).consistent h.recovered ha'
      refine ⟨r', hr', hc', ?_, ?_⟩
      · rintro m' ⟨⟩
        exact hl'
      · rintro m' ⟨⟩
        exact hsm.covers (hcv.apply hv.symm)
    · cases hv
      refine ⟨r, hr', h.recovered, ?_, ?_⟩
      · rintro m' ⟨⟩
        exact hl'
      · rintro m' ⟨⟩
        exact hsm.covers (hcv.apply_lost ha fun ho => hfl (hd.released ho))

theorem agrees_after
    (hs : Standing m.toFlights es req place) (he : Section codec s m es req place c e es')
    (hd : Steady codec s (.at s.incarnation req place) c) (hc : c.succeeds)
    (ha : m.tables.Agrees r) :
    ∀ r', recover codec (s.after codec req e).file = some r' → e.memory.tables.Agrees r' := by
  intro r' hr'
  rcases he.turn.tables_cases with ⟨hp, hsm⟩ | ⟨p, result, outcome, rfl, rfl, hw, hsm⟩
  · have hv := recover_of_not_commit he hkept.entries hs hp
    cases (hv.trans h.rebuilt).symm.trans hr'
    exact hsm.agrees ha
  have hv := recover_result outcome hkept.entries (hd.1 m hm rfl) hs h.rebuilt
  have hf : (s.after codec req e).file =
      append codec s.file (.result req.id.requestID req.operation.op result) outcome :=
    congrArg (written codec s.file) hw
  have hl : resultWritten codec req result outcome := by
    cases outcome with
    | none => trivial
    | some => cases hc
  rw [← hf, hr', if_pos hl] at hv
  exact hsm.agrees (ha.apply (h.live m hm) h.recovered hv.symm)

end

theorem Turn.leases (h : Turn m req place c e) (hh : place.leasing →
      ∀ sandboxID, req.operation.sandbox = some sandboxID → m.tables.bySandbox sandboxID = none) :
    ∀ place' ∈ e.next, place'.leasing → ∀ sandboxID,
      req.operation.sandbox = some sandboxID → e.memory.tables.bySandbox sandboxID = none := by
  cases h with
  | unleased ha hn =>
    rintro place' ⟨⟩ - sandboxID hin
    rw [ha] at hin
    cases hin
    exact hn
  | owns ho =>
    rintro place' ⟨⟩ - sandboxID hin
    rw [ho] at hin
    cases hin
  | opens | executes =>
    rintro place' ⟨⟩ -
    exact hh rfl
  | locks | leased | joins | fails | settles => rintro place' ⟨⟩ ⟨⟩
  | remembers | refuses | replays | strands | finishes | waits => rintro place' ⟨⟩

theorem bySandbox_dropLease {tables : Tables} {leaseID sandboxID : String} {count : ℤ → ℤ}
    (h : tables.bySandbox sandboxID = none) :
    (tables.dropLease leaseID count).bySandbox sandboxID = none := by
  unfold dropLease
  cases tables.leases.lookup leaseID with
  | none => exact h
  | some lease =>
    have hu : update tables.bySandbox lease.sandboxID none sandboxID = none := by
      rw [update_apply]
      split_ifs
      · rfl
      · exact h
    dsimp only
    cases tables.images lease.image <;> exact hu

theorem Turn.bySandbox (h : Turn m req place c e) (he : place.Executed req)
    {sandboxID : String} (hne : place.holds → req.operation.sandbox ≠ some sandboxID)
    (hn : m.tables.bySandbox sandboxID = none) : e.memory.tables.bySandbox sandboxID = none := by
  rcases h.tables_cases with ⟨-, hs⟩ | ⟨p, result, outcome, rfl, rfl, -, hs⟩
  · rw [hs.2.1]
    exact hn
  rw [hs.2.1]
  obtain ⟨_, rfl⟩ := he
  cases hp : req.operation with
  | pinImage => exact hn
  | unpinImage =>
    simp only [apply]
    split <;> exact hn
  | leaseDevices own =>
    have ho : req.operation.sandbox = some own := by
      rw [hp]
      rfl
    refine (bySandbox_addLease _ _ _).trans ?_
    rw [Request.result_sandbox ho, if_neg]
    · exact hn
    · rintro rfl
      exact hne rfl ho
  | releaseDevices => exact bySandbox_dropLease hn

end Turns

/-! ## Runs -/

theorem sheets_new {s : Agent β} {es : List JournalEntry} {r : Tables} (h : Sheets codec s r)
    (hkept : Kept codec s es) : Sheets codec (s.new codec) r := by
  have hr : recover codec (truncate codec s.file) = recover codec s.file := by
    rw [recover_eq hkept.entries, recover_eq ((entries_truncate s.file).trans hkept.entries)]
  refine ⟨hr.trans h.rebuilt, h.recovered, ?_, ?_⟩
  · intro m hm
    obtain ⟨tables, ht, rfl⟩ := map_eq_some_iff.mp hm
    cases h.rebuilt.symm.trans ht
    exact h.recovered
  · intro m hm
    obtain ⟨tables, ht, rfl⟩ := map_eq_some_iff.mp hm
    cases h.rebuilt.symm.trans ht
    exact fun _ _ hl => hl

theorem consistency_extension :
    System.Extension (system codec) (Steady codec) (fun s => ∃ es, Kept codec s es)
      (fun s t => TaskStands codec s t ∧ TaskLocks s t) (fun t u => Apart t u ∧ LocksApart t u)
      (fun s => ∃ r, Sheets codec s r) TaskLeases where
  entry_holds := by
    rintro s (req | _) - - <;> trivial
  local_step := by
    rintro s s' t c ts ⟨es, hkept⟩ ⟨ht, -⟩ ⟨r, hsh⟩ hle hd hv
    cases advance_step hv with
    | restart => exact ⟨⟨r, sheets_new hsh hkept⟩, nofun⟩
    | reject => exact ⟨⟨r, hsh⟩, nofun⟩
    | accept req =>
      refine ⟨⟨r, hsh⟩, fun t' ht' => ?_⟩
      rw [mem_singleton.mp ht']
      intro _ he m _ sandboxID ha
      have hh := Place.holds_of_leasing he
      rw [holds_first req sandboxID ha] at hh
      cases hh
    | «section» req place m s' next hm hc =>
      obtain ⟨hvd, hx, -, hsa⟩ := ht
      have hs := hsa rfl m hm es hkept.entries
      obtain ⟨e, _, hse, rfl, rfl⟩ := exists_section hc hm hkept.entries hd.1
      refine ⟨sheets_after hsh hkept hm hvd hx hs hse hd hle, ?_⟩
      intro t' ht'
      obtain ⟨place', hp', rfl⟩ := map_eq_some_iff.mp (mem_toList.mp ht')
      rintro - he m' ⟨⟩
      exact hse.turn.leases (fun hl => hle rfl hl m hm) place' hp' he
  frame_step := by
    rintro s s' t u c ts - ⟨ht, -⟩ ⟨hu0, -⟩ ⟨-, hap⟩ - - hu - hv
    cases advance_step hv with
    | restart =>
      cases u with
      | call | restart => trivial
      | «at» j req' place' => exact fun hj => absurd hj (lt_succ_of_le hu0.2.2.1).ne
    | reject | accept => exact hu
    | «section» req place m s' next hm hc =>
      obtain ⟨e, hr, rfl, rfl⟩ := sections_turn hc hm
      cases u with
      | call | restart => trivial
      | «at» j req' place' =>
        rintro hj he m' ⟨⟩ sandboxID ha
        refine hr.bySandbox ht.2.1 (fun hh hin => ?_) (hu hj he m hm sandboxID ha)
        exact hap hj.symm hh (Place.holds_of_leasing he) sandboxID hin ha

theorem consistency_outline : (system codec).Outline (Steady codec)
      (fun s => (∃ es, Kept codec s es) ∧ ∃ r, Sheets codec s r)
      (fun s t => (TaskStands codec s t ∧ TaskLocks s t) ∧ TaskLeases s t)
      (fun t u => Apart t u ∧ LocksApart t u) :=
  locks_outline.extend (fun _ _ _ h => h) consistency_extension

theorem sheets_start : Sheets codec ({} : Agent β) {} := ⟨rfl, consistent_empty, nofun, nofun⟩

/-- **Consistent tables.** In a run in which new leases have unused IDs, the result lines of
releases are written in full and no line is appended to an unfinished one, the tables of the
running agent and those its journal rebuilds are consistent; and from any restart on, as long as
no append fails, the journal rebuilds the counts of the running agent. -/
theorem tables_consistent {w : World (Agent β) Task}
    (hr : (system codec).Reaches (Steady codec) start w) :
    (∀ m ∈ w.shared.memory, m.tables.Consistent) ∧
      (∃ r, recover codec w.shared.file = some r ∧ r.Consistent) ∧
      ∀ i w₁ w₂, w.tasks[i]? = some .restart → (system codec).step w (.run i .go) = some w₁ →
        (system codec).Reaches (fun s t c => Steady codec s t c ∧ c.succeeds) w₁ w₂ →
        ∀ m ∈ w₂.shared.memory, ∃ r, recover codec w₂.shared.file = some r ∧ ∀ image,
          r.pinCount image = m.tables.pinCount image ∧
            r.leaseCount image = m.tables.leaseCount image := by
  have hw := consistency_outline.reaches (.start ⟨kept_start, _, sheets_start⟩) hr
  obtain ⟨⟨es, hkept⟩, r, hh⟩ := hw.inv
  refine ⟨hh.live, ⟨r, hh.rebuilt, hh.recovered⟩, ?_⟩
  intro i w₁ w₂ hi hp hu
  have hw₁ : System.Holds _ _ _ w₁ := consistency_outline.step_run hw (fun t ht => by
    rw [hi] at ht
    cases ht
    exact ⟨trivial, trivial⟩) hp
  -- the restart makes the live tables those of the journal
  have ha : ∀ m ∈ w₁.shared.memory, ∀ r, recover codec w₁.shared.file = some r →
      m.tables.Agrees r := by
    obtain ⟨t, s', ts, _, _, hge, hd, -, rfl⟩ := step_run_cases hp
    rw [hi] at hge
    cases hge
    cases hd
    intro m hm r' hr'
    obtain ⟨tables, hb, rfl⟩ := map_eq_some_iff.mp hm
    have hv : recover codec (truncate codec w.shared.file) = recover codec w.shared.file := by
      rw [recover_eq hkept.entries, recover_eq ((entries_truncate _).trans hkept.entries)]
    cases hb.symm.trans (hv.symm.trans hr')
    exact ⟨rfl, rfl, fun _ => rfl⟩
  have hw₂ := consistency_outline.reaches hw₁ (hu.mono fun _ _ _ h => h.1)
  obtain ⟨-, r₂, hh₂⟩ := hw₂.inv
  have hen := consistency_outline.keeps (J := fun s => ∀ m ∈ s.memory, ∀ r,
    recover codec s.file = some r → m.tables.Agrees r) (fun _ _ _ h => h.1) ?_ hw₁ ha hu
  · intro m hm
    have ha₂ := hen m hm r₂ hh₂.rebuilt
    refine ⟨r₂, hh₂.rebuilt, fun image => ?_⟩
    have hg := ha₂.images image
    unfold Tables.pinCount Tables.leaseCount
    rw [hg]
    exact ⟨rfl, rfl⟩
  · rintro s s' t c ts ⟨⟨es, hkept⟩, r, hh⟩ ⟨⟨ht, -⟩, -⟩ ha ⟨he, hc⟩ hd
    cases advance_step hd with
    | restart =>
      intro m hm r' hr'
      obtain ⟨tables, hb, rfl⟩ := map_eq_some_iff.mp hm
      have hnew := (sheets_new hh hkept).rebuilt
      cases hnew.symm.trans hr'
      cases hh.rebuilt.symm.trans hb
      exact ⟨rfl, rfl, fun _ => rfl⟩
    | reject | accept => exact ha
    | «section» req place m s' next hm ho =>
      have hs := ht.2.2.2 rfl m hm es hkept.entries
      obtain ⟨e, _, hn, rfl, rfl⟩ := exists_section ho hm hkept.entries he.1
      rintro _ ⟨⟩
      exact agrees_after hh hkept hm hs hn he hc (ha m hm r hh.rebuilt)

/-! ## A lease, and a lease after a release whose result line was lost -/

/-- The steps of a lease up to its result line, by the only call in flight. -/
def leasing (requestID leaseID : String) : List (Event Call Choice) :=
  [.spawn (.request ⟨{ requestID, podUID := "pod" }, .leaseDevices "sandbox" "image" 128 false⟩),
    .run 0 .go, .run 0 .go, .run 0 .go, .run 0 (.append none),
    .run 0 (.executed (.ok { leaseID })), .run 0 (.append none), .run 0 .go]

/-- The steps of a release, with the fate of its result line. -/
def releasing (requestID leaseID : String) (outcome : Option ℕ) : List (Event Call Choice) :=
  [.spawn (.request ⟨{ requestID, podUID := "pod" }, .releaseDevices leaseID⟩),
    .run 0 .go, .run 0 .go, .run 0 (.append none),
    .run 0 (.executed (.ok {})), .run 0 (.append outcome), .run 0 .go]

theorem leased_tables_consistent :
    ∃ w : World (Agent (Option JournalEntry)) Task, ∃ m ∈ w.shared.memory,
      m.tables.bySandbox "sandbox" = some "second" ∧ m.tables.Consistent := by
  obtain ⟨w, hr, ht⟩ := exists_reaches_of_runMeeting (S := system symbols)
    (G := Steady symbols) (w := start)
    ([.spawn .restart, .run 0 .go] ++ leasing "a" "first" ++ releasing "b" "first" none ++
      leasing "c" "second")
    (fun w => w.shared.memory.any fun m => m.tables.bySandbox "sandbox" = some "second")
    (by decide)
  obtain ⟨m, hm, hs⟩ := (any_eq_true _ _).mp ht
  exact ⟨w, m, hm, of_decide_eq_true hs, (tables_consistent hr).1 m hm⟩

/-- **Two leases for one Sandbox.** A lease is released, but the result line of the release is
lost; the Sandbox is leased again. The journal then rebuilds both leases, and the index names only
the second. -/
theorem lost_release_leaves_two_leases : ∃ w, (system symbols).Reaches System.anyStep start w ∧
      ∃ r, recover symbols w.shared.file = some r ∧ ¬ r.Consistent := by
  obtain ⟨w, hr, he⟩ := exists_reaches_of_run (S := system symbols) (w := start)
    ([.spawn .restart, .run 0 .go] ++ leasing "a" "first" ++ releasing "b" "first" (some 0) ++
      leasing "c" "second")
    (fun w => (recover symbols w.shared.file).any fun r =>
      r.bySandbox "sandbox" = some "second" ∧
        (r.leases.lookup "first").map (·.sandboxID) = some "sandbox")
    (by decide)
  obtain ⟨r, hr', ht⟩ := (any_eq_true _ _).mp he
  refine ⟨w, hr, r, hr', fun hc => ?_⟩
  obtain ⟨hb, hf⟩ := of_decide_eq_true ht
  obtain ⟨lease, hl, hin⟩ := map_eq_some_iff.mp hf
  have hi := hc.indexed "first" lease hl
  rw [hin, hb] at hi
  exact absurd hi (by decide)

end FastSandbox.Lease
