import FastSandbox.Lease.Durability

/-!
# Recovery after any history of the journal

A history is a sequence of appends, each of which may fail or be cut short by a crash after any
number of bytes, and of calls of `New`. What `New` recovers is the effect of the operations whose
intent and result lines were written in full, as long as no line is appended to an unfinished one.
`New` does not always prevent that: it keeps an unfinished line that is the first of the journal,
and without a restart nothing removes what a failed append left.
-/

namespace FastSandbox.Lease

open Interleaving LineLog List Option

section Histories

variable {β : Type} [DecidableEq β]

inductive JournalEvent
  | append (entry : JournalEntry) (outcome : Option ℕ)
  | restart

section

variable (codec : Codec JournalEntry β)

def journalStep (file : List β) : JournalEvent → List β
  | .append entry outcome => append codec file entry outcome
  | .restart => truncate codec file

def journalAfter (h : List JournalEvent) : List β := h.foldl (journalStep codec) []

def JournalEvent.full : JournalEvent → Option JournalEntry
  | .append entry none => some entry
  | .append entry (some n) => if (line codec entry).length ≤ n then some entry else none
  | .restart => none

def fullLines (h : List JournalEvent) : List JournalEntry := h.filterMap (JournalEvent.full codec)

/-- The event appends no line to an unfinished one. -/
def Orderly (file : List β) : JournalEvent → Prop
  | .append .. => Whole codec file
  | .restart => True

instance (file : List β) (ev : JournalEvent) : Decidable (Orderly codec file ev) :=
  match ev with
  | .append .. => inferInstanceAs (Decidable (Whole codec file))
  | .restart => inferInstanceAs (Decidable True)

def OrderlyAll : List β → List JournalEvent → Prop
  | _, [] => True
  | file, ev :: evs => Orderly codec file ev ∧ OrderlyAll (journalStep codec file ev) evs

instance decidableOrderlyAll : ∀ (file : List β) (h : List JournalEvent),
    Decidable (OrderlyAll codec file h)
  | _, [] => inferInstanceAs (Decidable True)
  | file, ev :: evs =>
    have := decidableOrderlyAll (journalStep codec file ev) evs
    inferInstanceAs (Decidable (Orderly codec file ev ∧ _))

end

variable {codec : Codec JournalEntry β}

/-- The requests a history intends are ones the server lets through. -/
def IntentsValid (h : List JournalEvent) : Prop :=
  ∀ req outcome, JournalEvent.append (.intent req) outcome ∈ h → req.valid

/-- **One orderly event** adds its entry if it wrote the whole line, and nothing otherwise. -/
theorem entries_journalStep {file : List β} {es : List JournalEntry} {ev : JournalEvent}
    (he : entries codec file = some es) (hv : Orderly codec file ev) :
    entries codec (journalStep codec file ev) = some (es ++ (ev.full codec).toList) := by
  cases ev with
  | restart =>
    rw [JournalEvent.full, toList_none, append_nil]
    exact (entries_truncate file).trans he
  | append entry outcome =>
    cases outcome with
    | none => exact entries_append_line hv he entry
    | some n =>
      simp only [journalStep, JournalEvent.full]
      split_ifs with hn
      · have hl : append codec file entry (some n) = file ++ line codec entry :=
          congrArg (file ++ ·) (take_of_length_le hn)
        rw [hl]
        exact entries_append_line hv he entry
      · rw [toList_none, append_nil, ← he]
        exact entries_append_cut hv entry (Nat.lt_of_not_le hn)

variable {h : List JournalEvent}

theorem entries_foldl_journalStep {file : List β} {es : List JournalEntry}
    (he : entries codec file = some es) (ho : OrderlyAll codec file h) :
    entries codec (h.foldl (journalStep codec) file) = some (es ++ fullLines codec h) := by
  induction h generalizing file es with
  | nil => exact he.trans (congrArg some (append_nil es).symm)
  | cons ev evs ih =>
    have ht := ih (entries_journalStep he ho.1) ho.2
    rw [foldl_cons, ht, append_assoc]
    unfold fullLines
    cases hf : ev.full codec with
    | none =>
      rw [filterMap_cons_none hf]
      rfl
    | some entry =>
      rw [filterMap_cons_some hf]
      rfl

theorem entries_journalAfter (ho : OrderlyAll codec [] h) :
    entries codec (journalAfter codec h) = some (fullLines codec h) :=
  entries_foldl_journalStep (show _ = some [] from rfl) ho

omit [DecidableEq β] in
theorem valid_of_mem_fullLines (hd : IntentsValid h) {req : Request}
    (he : .intent req ∈ fullLines codec h) : req.valid := by
  obtain ⟨ev, hv, hf⟩ := mem_filterMap.mp he
  cases ev with
  | restart => cases hf
  | append entry outcome =>
    have hn : entry = .intent req := by
      cases outcome with
      | none => exact Option.some.inj hf
      | some n =>
        simp only [JournalEvent.full] at hf
        split_ifs at hf
        exact Option.some.inj hf
    subst hn
    exact hd req outcome hv

/-- **Recovery.** After any history that appends no line to an unfinished one, `New` succeeds, and
the pins, the leases and the completed requests are those of exactly the operations whose intent
and result lines were written in full. -/
theorem history_recovered {h : List JournalEvent} (hvalid : IntentsValid h)
    (horderly : OrderlyAll codec [] h) :
    ∃ tables, recover codec (journalAfter codec h) = some tables ∧
      tables.Shows (effects (commits (fullLines codec h))) ∧
      tables.completed = remembered (commits (fullLines codec h)) := by
  have hes := entries_journalAfter horderly
  obtain ⟨tables, hr, hs⟩ := recover_shows hes fun _ he => valid_of_mem_fullLines hvalid he
  exact ⟨tables, hr, hs, recover_completed hes hr⟩

end Histories

/-! ## The agent's journal has a history -/

/-- Whatever the agent does, its journal is that of a history. -/
theorem exists_history {β : Type} [DecidableEq β] {codec : Codec JournalEntry β}
    {w : World (Agent β) Task} (h : (system codec).Reaches System.anyStep start w) :
    ∃ evs, w.shared.file = journalAfter codec evs := by
  induction h with
  | refl => exact ⟨[], rfl⟩
  | @tail w1 w2 ev _ _ hs ih =>
    obtain ⟨evs, hf⟩ := ih
    have hn (ev : JournalEvent) : journalAfter codec (evs ++ [ev]) =
        journalStep codec w1.shared.file ev := by
      rw [hf]
      exact foldl_concat ..
    cases ev with
    | spawn =>
      cases hs
      exact ⟨evs, hf⟩
    | run =>
      obtain ⟨_, _, _, _, _, -, ha, -, rfl⟩ := System.step_run_cases hs
      cases advance_step ha with
      | restart => exact ⟨_, (hn .restart).symm⟩
      | reject | accept => exact ⟨evs, hf⟩
      | «section» req place m s' next hm hc =>
        obtain ⟨e, -, rfl, -⟩ := sections_turn hc hm
        show ∃ evs, written codec w1.shared.file e.write = _
        cases e.write with
        | none => exact ⟨evs, hf⟩
        | some line => exact ⟨_, (hn (.append line.1 line.2)).symm⟩

/-! ## A crash in the middle of a line, and one in the middle of the first line -/

/-- A pin is committed, the agent crashes in the next intent, restarts and commits another pin. -/
def tornSecond : List JournalEvent :=
  [.restart, .append (.intent samplePin) none,
    .append (.result "request" .pinImage (.pinned "digest")) none,
    .append (.intent samplePin) (some 1), .restart,
    .append (.intent { samplePin with id := { samplePin.id with requestID := "other" } }) none,
    .append (.result "other" .pinImage (.pinned "digest")) none]

theorem tornSecond_recovered :
    ∃ tables, recover symbols (journalAfter symbols tornSecond) = some tables ∧
      tables.pinCount "image" = 2 := by
  have hv : IntentsValid tornSecond := by
    intro _ _ hm
    simp only [tornSecond, mem_cons, JournalEvent.append.injEq, JournalEntry.intent.injEq,
      reduceCtorEq, false_and, or_false, false_or, not_mem_nil] at hm
    rcases hm with ⟨rfl, -⟩ | ⟨rfl, -⟩ | ⟨rfl, -⟩ <;> decide
  have ho : OrderlyAll symbols [] tornSecond := by decide
  obtain ⟨tables, hr, hs, -⟩ := history_recovered hv ho
  exact ⟨tables, hr, (hs.pins "image").trans (by decide)⟩

/-- The agent crashes in its first intent, restarts, and commits a pin. -/
def tornFirst : List JournalEvent :=
  [.restart, .append (.intent samplePin) (some 1), .restart,
    .append (.intent samplePin) none,
    .append (.result "request" .pinImage (.pinned "digest")) none, .restart]

/-- **A journal that cannot be read.** `New` leaves the unfinished first line in place, the next
intent continues it, and from then on `New` fails. -/
theorem torn_first_line_spoils : ∃ w, (system symbols).Reaches System.anyStep start w ∧
      w.shared.file = journalAfter symbols tornFirst ∧
      w.shared.answered = [(samplePin, .pinned "digest")] ∧
      recover symbols w.shared.file = none := by
  obtain ⟨w, hr, ht⟩ := System.exists_reaches_of_run (S := system symbols) (w := start)
    [.spawn .restart, .run 0 .go,
      .spawn (.request samplePin), .run 0 .go, .run 0 (.append (some 1)),
      .spawn .restart, .run 0 .go,
      .spawn (.request samplePin), .run 0 .go, .run 0 (.append none),
      .run 0 (.executed (.ok { manifestDigest := "digest" })), .run 0 (.append none), .run 0 .go,
      .spawn .restart, .run 0 .go]
    (fun w => w.shared.file = journalAfter symbols tornFirst ∧
      w.shared.answered = [(samplePin, .pinned "digest")] ∧
      (recover symbols w.shared.file).isNone) (by decide)
  obtain ⟨hf, ha, hn⟩ := of_decide_eq_true ht
  exact ⟨w, hr, hf, ha, isNone_iff_eq_none.mp hn⟩

end FastSandbox.Lease
