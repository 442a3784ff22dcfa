import FastSandbox.Action.Discipline

/-!
# Nothing is delivered after a Delete

`Delete` fences the attachment it removes. A call that looked up the state before the Delete and
waits for the operation lock across it finds the lock free afterwards: `retryState` then looks at
`terminating` again, `Reconcile` and `ReachHook` do not. `LockedInTime` is the condition that this
order does not occur; under it, no `SET_BINDING` or `LIFECYCLE_HOOK` follows the Delete.
-/

namespace FastSandbox.Action

open Interleaving

/-- A log entry that is the Delete of an attachment fences it and everything before it. -/
def Entry.Admits (e : Entry) (a : Attachment) : Prop :=
  match e with
  | .deleted _ old => old.sandboxUID = a.sandboxUID → attachmentAfter a old
  | _ => True

instance (a : Attachment) : ∀ e : Entry, Decidable (e.Admits a)
  | .deleted .. => inferInstanceAs (Decidable (_ → _))
  | .sent .. | .acked .. | .converged .. | .returned .. => .isTrue trivial

/-- After the Delete of an attachment, only `REMOVE_BINDING` is sent for it or an earlier one.
The newest entry of the log comes first. -/
def Silent : List Entry → Prop
  | [] => True
  | e :: older =>
    (match e with
      | .sent _ request =>
        request.operation = .removeBinding ∨ ∀ e' ∈ older, e'.Admits request.attachment
      | _ => True) ∧ Silent older

/-- `Silent` is checked entry by entry. -/
instance decidableSilent : ∀ log, Decidable (Silent log)
  | [] => .isTrue trivial
  | .sent .. :: older =>
    have := decidableSilent older
    inferInstanceAs (Decidable ((_ ∨ _) ∧ _))
  | .acked .. :: older | .converged .. :: older | .deleted .. :: older | .returned .. :: older =>
    have := decidableSilent older
    inferInstanceAs (Decidable (True ∧ _))

/-- No state is handed out for an attachment at or before a deleted one. -/
def Closed (m : Shared) : Prop :=
  ∀ s a, Entry.deleted s a ∈ m.log → ∀ b : Attachment, b.sandboxUID = a.sandboxUID →
    ¬ attachmentAfter b a → ∃ err, m.getOrCreateState b = .error err

/-- `Reconcile` and `ReachHook` get the operation lock before the state is terminating. -/
def LockedInTime (m : Shared) (t : Task) (c : Choice) : Prop :=
  match t, c with
  | .lock caller s, .go => caller ≠ .retryState → (m.heap s).terminating = false
  | _, _ => True

instance (m : Shared) (t : Task) (c : Choice) : Decidable (LockedInTime m t c) := by
  unfold LockedInTime
  split <;> infer_instance

/-! ## What a round carries -/

/-- The round's attachment belongs to the live state `s`. -/
def Fits (m : Shared) (s : Ref) (r : Round) : Prop :=
  r.attachment.sandboxUID ≠ "" ∧ m.states r.attachment.sandboxUID = some s ∧ Later m r.attachment

/-- Convergence runs on a state that is not terminating. -/
def Converging (m : Shared) : Task → Prop
  | .converge _ s p => (m.heap s).terminating = false ∧ ∀ r, p.round = some r → Fits m s r
  | _ => True

section Lemmas

variable {cfg : Config} {m m' : Shared} {s : Ref} {t : Task} {ts : List Task} {c : Choice}

theorem admits_of_later {a : Attachment} (h : Later m a) : ∀ e ∈ m.log, e.Admits a := by
  intro e he
  cases e with
  | deleted s old => exact h old ⟨s, he⟩
  | _ => trivial

theorem Fits.quiet {r : Round} (h : Fits m s r) (hq : Quiet m m') : Fits m' s r :=
  ⟨h.1, hq.states ▸ h.2.1, fun old hold => h.2.2 old ((hq.deleted old).mp hold)⟩

theorem Fits.frame {r : Round} (h : Fits m s r) (ht : (m.heap s).terminating = false)
    (hs : Step t m m') : Fits m' s r := by
  obtain ⟨hu, ha, hl⟩ := h
  exact ⟨hu, hl.frame ha (by simp [ht]) hu hs⟩

theorem convergeLoop_round (r : Round) (k : Loop) : (convergeLoop cfg m s r k).round = some r := by
  unfold convergeLoop
  split
  case h_2 => split <;> rfl
  case h_6 => split <;> rfl
  all_goals rfl

/-- A section of `convergeLocked` stays in its round; the first one starts a round for the
attachment of the state. -/
theorem PointTurn.round {p p' : Point} (hi : Inv m) (ht : (m.heap s).terminating = false)
    (hp : ∀ r, p.round = some r → Fits m s r) (h : PointTurn cfg m s p c m' (.next p')) :
    ∀ r, p'.round = some r → Fits m s r := by
  generalize ho : Outcome.next p' = o at h
  cases h with
  | begun hg hip =>
    cases ho
    rintro r ⟨⟩
    refine hi.live s ht fun hd => hip ?_
    rw [hi.blank s hd]
  | loop =>
    cases ho
    rw [convergeLoop_round]
    exact hp
  | setMark r call inst k p hp' =>
    cases ho
    rcases hp' with ⟨i, -, rfl⟩ | ⟨message, err, rfl⟩
    · exact hp
    · exact fun r hr => nomatch hr
  | setRecord =>
    unfold afterSet at ho
    split at ho <;> cases ho <;> exact hp
  | inputFailed | setFailed | setRestarted | hookFailed | hookRestarted =>
    cases ho
    exact fun r hr => nomatch hr
  | _ => cases ho <;> exact hp

/-! ## What a section adds to the log -/

/-- The entry sends no `SET_BINDING` and no `LIFECYCLE_HOOK`. -/
def Entry.Calm : Entry → Prop
  | .sent _ request => request.operation = .removeBinding
  | _ => True

theorem Silent.calm {e : Entry} {older : List Entry} (h : Silent older) (he : e.Calm) :
    Silent (e :: older) := by
  cases e with
  | sent => exact ⟨.inl he, h⟩
  | _ => exact ⟨trivial, h⟩

theorem getOrCreateState_log {a : Attachment} (h : m.getOrCreateState a = .ok (m', s)) :
    m'.log = m.log := by
  unfold Shared.getOrCreateState at h
  split at h
  · cases h
  split at h <;> cases h <;> rfl

theorem silent_sent {r : Round} {owner : Option Ref} {request : Request} (h : Silent m.log)
    (hl : Later m r.attachment) (hr : request.attachment = r.attachment) :
    Silent (m.write (.sent owner request)).log := by
  refine ⟨.inr ?_, h⟩
  rw [hr]
  exact admits_of_later hl

theorem PointTurn.silent {p : Point} {o : Outcome} (hs : Silent m.log)
    (hp : ∀ r, p.round = some r → Later m r.attachment) (h : PointTurn cfg m s p c m' o) :
    Silent m'.log := by
  obtain ⟨st, -, rfl | ⟨e, he, rfl⟩⟩ := h.confined
  · exact hs
  · cases he with
    | sent r request hr ha => exact silent_sent hs (hp r hr) ha
    | acked | converged => exact hs.calm (by exact trivial)

/-! ## The extension -/

theorem afterPoint_converging {caller : Caller} {o : Outcome}
    (htr : (m.heap s).terminating = false) (hq : Quiet m m')
    (ho : ∀ p', o = .next p' → ∀ r, p'.round = some r → Fits m s r) :
    ∀ t' ∈ afterPoint caller s o, Converging m' t' := by
  intro t' ht'
  cases o with
  | next p' =>
    rw [afterPoint, List.mem_singleton] at ht'
    subst ht'
    exact ⟨(hq.heap s).terminating.trans htr, fun r hr => (ho p' rfl r hr).quiet hq⟩
  | «return» =>
    rw [afterPoint, List.mem_singleton] at ht'
    subst ht'
    trivial

/-- **One section** starts a convergence only on a live state, and sends nothing else than
`REMOVE_BINDING` outside one. -/
theorem Turn.converging (hi : Inv m) (hs : Silent m.log) (ht : Converging m t)
    (hg : LockedInTime m t c) (h : Turn cfg m t c m' ts) :
    Silent m'.log ∧ ∀ t' ∈ ts, Converging m' t' := by
  cases h with
  | returned => exact ⟨hs.calm (by exact trivial), by simp⟩
  | registering call f a g d sig s m' hg hd hu he
  | recording call f a hook seq s m' hq hd hu he =>
    exact ⟨getOrCreateState_log he ▸ hs, by simp [Converging]⟩
  | deleting call uid s t hs' ht' =>
    rcases ht' with rfl | ⟨a, rfl⟩ <;> exact ⟨hs, by simp [Converging]⟩
  | registered f s a g d sig st caller m' hst hm =>
    rcases hm with rfl | rfl
    · exact ⟨hs, by simp [Converging]⟩
    · exact ⟨hs.calm (by exact trivial), by simp [Converging]⟩
  | recorded f s a hook seq m' ts hm hts =>
    have ha : ∀ m', ∀ t' ∈ ts, Converging m' t' := by
      intro m' t' ht'
      rcases hts t' ht' with rfl | ⟨uid, rfl⟩ <;> trivial
    rcases hm with rfl | ⟨err, rfl⟩
    · exact ⟨hs, ha _⟩
    · exact ⟨hs.calm (by exact trivial), ha _⟩
  | locked caller s t hop ht' =>
    rcases ht' with rfl | ⟨hl, rfl⟩
    · exact ⟨hs, by simp [Converging]⟩
    · exact ⟨hs, by simpa [Converging, Point.round] using hg hl⟩
  | checked s t ht' =>
    rcases ht' with ⟨err, rfl⟩ | ⟨htr, rfl⟩
    · exact ⟨hs, by simp [Converging]⟩
    · exact ⟨hs, by simpa [Converging, Point.round] using htr⟩
  | point caller s p c m' o hp =>
    refine ⟨hp.silent hs fun r hr => (ht.2 r hr).2.2, ?_⟩
    refine afterPoint_converging ht.1 hp.quiet fun _ ho => ?_
    subst ho
    exact hp.round hi ht.1 ht.2
  | ending s a t hop ht' =>
    rcases ht' with ⟨g, -, rfl⟩ | ⟨g, rfl⟩ <;> exact ⟨hs, by simp [Converging]⟩
  | removeAnswered s a g request todo result answer cancelled m' t hm ht' =>
    have hk : ∀ t' ∈ [t], Converging m' t' := by
      rcases ht' with ⟨err, rfl⟩ | ⟨-, err, rfl⟩ <;> simp [Converging]
    rcases hm with rfl | rfl
    · exact ⟨hs, hk⟩
    · exact ⟨hs.calm (by exact trivial), hk⟩
  | finished s a =>
    have hlo : (m.finishDelete a.sandboxUID s a).log = .deleted s a :: m.log := by
      simp [Shared.finishDelete]
    exact ⟨hlo ▸ hs.calm (by exact trivial), by simp [Converging]⟩
  | retired => exact ⟨by simpa using hs, by simp [Converging]⟩
  | retiredUnowned => exact ⟨Silent.calm (by simpa using hs) (by exact trivial), by simp⟩
  | removeSend | retireSend => exact ⟨hs.calm rfl, by simp [Converging]⟩
  | retireAcked | unlocked => exact ⟨hs.calm (by exact trivial), by simp [Converging]⟩
  | _ => exact ⟨hs, by simp [Converging]⟩

end Lemmas

theorem terminal_extension (cfg : Config) :
    System.Extension (system cfg) LockedInTime Inv TaskOk Apart (fun m => Silent m.log)
      Converging where
  entry_holds := fun _ _ _ => trivial
  local_step := by
    intro m m' t c ts hi ht0 hs ht hg ha
    exact (advance_turn ha).converging hi hs ht hg
  frame_step := by
    intro m m' t u c ts hi ht0 hu0 _ hs ht hu hg ha
    cases u with
    | converge caller s =>
      have hp := ((advance_turn ha).section hi ht0).step
      obtain ⟨htr, ho⟩ := hu
      refine ⟨?_, fun r hr => (ho r hr).frame htr hp⟩
      -- the lock is held, so no Delete can have started
      by_contra hne
      rcases hp.ending s hu0.1 (by simpa using hne) with h | h
      · rw [htr] at h
        cases h
      · rw [hu0.2] at h
        cases h
    | _ => trivial

theorem closed_of_inv {m : Shared} (hi : Inv m) : Closed m := by
  intro s a ha b hu hnot
  cases hg : m.getOrCreateState b with
  | error err => exact ⟨err, rfl⟩
  | ok => exact absurd (getOrCreateState_later hi hg a ⟨s, ha⟩ hu.symm) hnot

/-- **Nothing is delivered after a Delete.** In every run in which `Reconcile` and `ReachHook`
take the operation lock before the state is terminating, no `SET_BINDING` or `LIFECYCLE_HOOK` for
a deleted attachment or an earlier one follows the Delete, and no state is handed out for one. -/
theorem silent_after_delete (cfg : Config) (w : World Shared Task)
    (h : (system cfg).Reaches LockedInTime init w) : Silent w.shared.log ∧ Closed w.shared := by
  have ho := (discipline cfg).extend (fun _ _ _ _ => trivial) (terminal_extension cfg)
  have hw := ho.reaches (.start ⟨inv_init, trivial⟩) h
  exact ⟨hw.inv.2, closed_of_inv hw.inv.1⟩

/-! ## A Reconcile that waits across the Delete -/

namespace Example

/-- The Sandbox is bound to `egress`; a `Reconcile` for the next generation registers its list
and queues on the lock; a Delete takes the lock first, sends `REMOVE_BINDING` and completes. -/
def deleteOvertakes : List (Event Call Choice) :=
  handlersReady ++ register 1 1 [⟨"egress", "allow", ""⟩] ++ go 1 7 ++ ack 1 ++ go 1 6 ++
  [.spawn (.reconcile attachment 2 [⟨"egress", "deny", ""⟩])] ++ go 1 2 ++
  [.spawn (.delete "sb")] ++ go 2 4 ++ ack 2 ++ go 2 3

/-- The `Reconcile` then gets the lock and sends its `SET_BINDING`. -/
def deliveryAfterDelete : List (Event Call Choice) := deleteOvertakes ++ go 1 9

end Example

theorem delivery_after_delete : ¬ ∀ w, (system Example.config).Reaches System.anyStep init w →
      Silent w.shared.log ∧ Closed w.shared :=
  System.not_forall_reaches (fun w => decide (Silent w.shared.log))
    (fun _ h => decide_eq_true h.1) init Example.deliveryAfterDelete (by decide)

theorem silent_until_delete : ∃ w, (system Example.config).Reaches LockedInTime init w ∧
      Entry.deleted 0 Example.attachment ∈ w.shared.log ∧ Silent w.shared.log ∧
        Closed w.shared := by
  obtain ⟨w, hw, hd⟩ := System.exists_reaches_of_runMeeting (G := LockedInTime)
    (S := system Example.config) (w := init) Example.deleteOvertakes
    (fun w => decide (Entry.deleted 0 Example.attachment ∈ w.shared.log)) (by decide)
  exact ⟨w, hw, of_decide_eq_true hd, silent_after_delete _ w hw⟩

end FastSandbox.Action
