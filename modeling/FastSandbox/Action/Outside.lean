import FastSandbox.Action.Discipline

/-!
# What happens to a state outside its operation lock

While one task holds the operation lock of a Sandbox state, other tasks can still register a new
desired list, record a lifecycle Hook, or reset Bindings after a probe. `Turn.outside` is the
complete list; the log entries that concern the state are written by the holder alone.
-/

namespace FastSandbox.Action

open Interleaving

/-- The state a log entry concerns. -/
def Entry.owner : Entry → Option Ref
  | .sent owner _ | .acked owner _ => owner
  | .converged s _ | .deleted s _ => some s
  | .returned .. => none

/-- The log grows by at most one entry, and not by one that concerns `s`. -/
def Unlogged (s : Ref) (m m' : Shared) : Prop :=
  m'.log = m.log ∨ ∃ e : Entry, e.owner ≠ some s ∧ m'.log = e :: m.log

/-- What a section makes of the state `s` when its task does not hold the lock of `s`. -/
inductive External (cfg : Config) (t : Task) (c : Choice) (s : Ref) (m : Shared)
    (st' : SandboxState) : Prop
  | fence (op terminating : Bool) (h : st' = { m.heap s with op := op, terminating := terminating })
  | alloc (hs : m.next ≤ s) (h : st' = {})
  | register (f : Func) (a : Attachment) (g : ℤ) (d : List DesiredInput) (sig : String)
      (ht : t = .register f s a g d sig) (hc : c = .go)
      (h : (m.heap s).registerDesired a g d sig = .ok st')
  | record (f : Func) (a : Attachment) (hook : LifecycleHook) (seq : ℤ)
      (ht : t = .record f s a hook seq) (h : st' = ((m.heap s).recordHook cfg a hook seq).1)
  | probe (results : String → Option HandlerObservation)
      (h : st' = (m.heap s).probeBindings results)

/-- The effect on `s` of a section whose task does not hold the lock of `s`. -/
structure Outside (cfg : Config) (t : Task) (c : Choice) (s : Ref) (m m' : Shared) : Prop where
  state : External cfg t c s m (m'.heap s)
  log : Unlogged s m m'

theorem External.same {cfg : Config} {t : Task} {c : Choice} {s : Ref} {m : Shared}
    {st' : SandboxState} (h : st' = m.heap s) : External cfg t c s m st' :=
  .fence (m.heap s).op (m.heap s).terminating (by rw [h])

section

variable {cfg : Config} {m m' : Shared} {s : Ref} {t : Task} {c : Choice} {ts : List Task}

theorem unlogged_returned {m1 : Shared} (h : m1.log = m.log) (f : Func) (err : Option String) :
    Unlogged s m (m1.write (.returned f err)) :=
  .inr ⟨.returned f err, by simp [Entry.owner], by simp [h]⟩

theorem Outside.refl : Outside cfg t c s m m := ⟨.same rfl, .inl rfl⟩

theorem Outside.write {e : Entry} (h : e.owner ≠ some s) : Outside cfg t c s m (m.write e) :=
  ⟨.same rfl, .inr ⟨e, h, rfl⟩⟩

theorem Outside.returned (f : Func) (err : Option String) :
    Outside cfg t c s m (m.write (.returned f err)) :=
  .write (by simp [Entry.owner])

variable {s0 : Ref}

theorem getOrCreateState_outside {a : Attachment} (h : m.getOrCreateState a = .ok (m', s0)) :
    Outside cfg t c s m m' := by
  unfold Shared.getOrCreateState at h
  split at h
  · cases h
  split at h
  · cases h
    exact .refl
  cases h
  refine ⟨?_, .inl rfl⟩
  by_cases hs : s = m.next
  · subst hs
    exact .alloc le_rfl (m.newState_heap_self _)
  · exact .same (m.newState_heap_of_ne _ hs)

/-! ## Sections of a convergence concern their own state -/

/-- The section changes the state `s0` and logs for it, nothing else. -/
def Within (s0 : Ref) (m m' : Shared) : Prop := ∀ s, s ≠ s0 → m'.heap s = m.heap s ∧ Unlogged s m m'

theorem Confined.within {logs : Entry → Prop} (h : Confined s0 logs m m')
    (hl : ∀ e, logs e → e.owner = some s0) : Within s0 m m' := by
  intro s hs
  obtain ⟨st, -, rfl | ⟨e, he, rfl⟩⟩ := h
  · exact ⟨m.modify_heap_of_ne _ hs, .inl rfl⟩
  · refine ⟨m.modify_heap_of_ne (fun _ => st) hs, .inr ⟨e, ?_, rfl⟩⟩
    rw [hl e he]
    exact fun h => hs (Option.some.inj h).symm

theorem PointTurn.within {p : Point} {o : Outcome} (h : PointTurn cfg m s p c m' o) :
    Within s m m' :=
  h.confined.within fun _ he => by cases he <;> rfl

/-! ## Every section -/

theorem external_modify {f : SandboxState → SandboxState}
    (h : s = s0 → External cfg t c s m (f (m.heap s))) :
    External cfg t c s m ((m.modify s0 f).heap s) := by
  by_cases hs : s = s0
  · subst hs
    rw [Shared.modify_heap_self]
    exact h rfl
  · rw [Shared.modify_heap_of_ne _ _ hs]
    exact .same rfl

theorem Within.outside (h : Within s0 m m') (hs : s0 ≠ s) : Outside cfg t c s m m' :=
  ⟨.same (h s hs.symm).1, (h s hs.symm).2⟩

/-- **What others do to a state.** A task that does not hold the lock of `s` logs nothing for it and
changes it only as `External` lists. -/
theorem Turn.outside (ht : t.holds ≠ some s) (h : Turn cfg m t c m' ts) :
    Outside cfg t c s m m' := by
  cases h with
  | returned t c f err => exact .returned f err
  | registering call f a g d sig s0 m' hg hi hu he
  | recording call f a hook seq s0 m' hs hi hu he => exact getOrCreateState_outside he
  | probing => exact ⟨.same rfl, .inl rfl⟩
  | registered f s0 a g d sig st caller m' hst hm =>
    have ha : External cfg (.register f s0 a g d sig) .go s m
        ((m.modify s0 fun _ => st).heap s) := by
      refine external_modify fun h => ?_
      subst h
      exact .register f a g d sig rfl rfl hst
    rcases hm with rfl | rfl
    · exact ⟨ha, .inl rfl⟩
    · exact ⟨ha, unlogged_returned rfl f none⟩
  | recorded f s0 a hook seq m' ts hm =>
    have ha : External cfg (.record f s0 a hook seq) .go s m
        ((m.modify s0 fun _ => ((m.heap s0).recordHook cfg a hook seq).1).heap s) := by
      refine external_modify fun h => ?_
      subst h
      exact .record f a hook seq rfl rfl
    rcases hm with rfl | ⟨err, rfl⟩
    · exact ⟨ha, .inl rfl⟩
    · exact ⟨ha, unlogged_returned rfl f err⟩
  | locked | spared =>
    exact ⟨external_modify fun _ => .fence false (m.heap s).terminating rfl, .inl rfl⟩
  | point caller s0 p c m' o hp => exact hp.within.outside fun h => ht (congrArg some h)
  | unlocked f s0 err =>
    refine ⟨?_, unlogged_returned rfl f err⟩
    rw [Shared.write_heap]
    exact external_modify fun h => absurd (congrArg some h.symm) ht
  | ending => exact ⟨external_modify fun _ => .fence false true rfl, .inl rfl⟩
  | removeAnswered s0 a g request todo result answer cancelled m' t hm =>
    rcases hm with rfl | rfl
    · exact .refl
    · exact .write ht
  | finished s0 a =>
    refine ⟨.same (by simp [Shared.finishDelete]), .inr ⟨.deleted s0 a, ht, ?_⟩⟩
    simp [Shared.finishDelete]
  | retired => exact ⟨.same (by simp), .inl (by simp)⟩
  | retiredUnowned => exact ⟨.same (by simp), unlogged_returned (by simp) .delete none⟩
  | removeSend | retireSend | retireAcked => exact .write ht
  | probed results => exact ⟨external_modify fun _ => .probe results rfl, .inl rfl⟩
  | _ => exact .refl

end

/-- A state that serves the Sandbox. -/
def Live (m : Shared) (uid : String) (s : Ref) : Prop :=
  (m.heap s).terminating = false ∧ (m.heap s).attachment.id ≠ "" ∧
    (m.heap s).attachment.sandboxUID = uid

/-- **States are guarded.** Whatever the Handlers answer, one task at a time holds the operation
lock of a state, and only that task sends to the Handlers for it. A Sandbox has one live state, at
an attachment later than every deleted one. -/
theorem states_guarded {cfg : Config} {w : World Shared Task}
    (h : (system cfg).Reaches System.anyStep init w) : w.tasks.Pairwise Apart ∧
      (∀ i c w' t s, (system cfg).step w (.run i c) = some w' → w.tasks[i]? = some t →
        t.holds ≠ some s → Unlogged s w.shared w'.shared) ∧
      ∀ uid s, Live w.shared uid s → Later w.shared (w.shared.heap s).attachment ∧
        ∀ s', Live w.shared uid s' → s' = s := by
  have hw := (discipline cfg).reaches (.start inv_init) h
  refine ⟨hw.compat, fun i c w' t s hs hi ht => ?_, fun uid s ⟨ht, ha, hu⟩ => ?_⟩
  · obtain ⟨t', _, _, _, _, hg, hd, -, rfl⟩ := System.step_run_cases hs
    cases hi.symm.trans hg
    exact ((advance_turn hd).outside ht).log
  · obtain ⟨-, hs, hl⟩ := hw.inv.live s ht ha
    refine ⟨hl, fun s' ⟨ht', ha', hu'⟩ => ?_⟩
    obtain ⟨-, hs', -⟩ := hw.inv.live s' ht' ha'
    rw [hu', ← hu, hs] at hs'
    exact (Option.some.inj hs').symm

/-- A `SET_BINDING` is under way, and a Delete waits for the lock. -/
theorem delivery_guarded : ∃ w : World Shared Task,
    w.tasks.filterMap Task.holds = [0] ∧ 1 < w.tasks.length ∧ w.tasks.Pairwise Apart := by
  obtain ⟨w, hw, ht⟩ := System.exists_reaches_of_run (S := system Example.config) (w := init)
    (Example.handlersReady ++ Example.register 1 1 [⟨"egress", "allow", ""⟩] ++ Example.go 1 7 ++
      [.spawn (.delete "sb")] ++ Example.go 2 2)
    (fun w => decide (w.tasks.filterMap Task.holds = [0] ∧ 1 < w.tasks.length)) (by decide)
  obtain ⟨hh, hl⟩ := of_decide_eq_true ht
  exact ⟨w, hh, hl, (states_guarded hw).1⟩

end FastSandbox.Action
