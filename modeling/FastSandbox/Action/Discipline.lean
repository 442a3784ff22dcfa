import FastSandbox.Action.Turns

/-!
# Lock and lifetime discipline of the Action Manager

What every run keeps, whatever the Handlers answer: the operation lock of a state has one holder,
a state that left the manager's map is terminating and its attachment is fenced, and a call that
obtained a state which is not terminating carries an attachment later than every deleted one.

`Quiet` says that a section touches none of this; all of `convergeLocked` is quiet.
-/

namespace FastSandbox.Action

open Function Interleaving Shared SandboxState List Nat

/-- The attachment has been deleted by a completed `deleteState`. -/
def Deleted (m : Shared) (a : Attachment) : Prop := ∃ s, Entry.deleted s a ∈ m.log

/-- The attachment is later than every deleted attachment of its Sandbox. -/
def Later (m : Shared) (a : Attachment) : Prop :=
  ∀ old, Deleted m old → old.sandboxUID = a.sandboxUID → attachmentAfter a old

/-! ## Quiet sections -/

structure SameFence (st st' : SandboxState) : Prop where
  op : st'.op = st.op
  terminating : st'.terminating = st.terminating
  attachment : st'.attachment = st.attachment

theorem SameFence.refl (st : SandboxState) : SameFence st st := ⟨rfl, rfl, rfl⟩

theorem SameFence.trans {a b c : SandboxState} (h1 : SameFence a b) (h2 : SameFence b c) :
    SameFence a c :=
  ⟨h2.op.trans h1.op, h2.terminating.trans h1.terminating, h2.attachment.trans h1.attachment⟩

theorem sameFence_updateBinding {st : SandboxState} {name : String}
    {f : BindingState → BindingState} : SameFence st (st.updateBinding name f) := ⟨rfl, rfl, rfl⟩

theorem sameFence_ensureBinding (st : SandboxState) (name : String) :
    SameFence st (st.ensureBinding name) := by
  unfold ensureBinding
  split <;> exact ⟨rfl, rfl, rfl⟩

theorem sameFence_parkUnattachedBindings (desired : List DesiredInput) (st : SandboxState) :
    SameFence st (st.parkUnattachedBindings desired) := by
  induction desired generalizing st with
  | nil => exact .refl st
  | cons input rest ih =>
    exact ((sameFence_ensureBinding st _).trans sameFence_updateBinding).trans (ih _)

/-- The section touches no lock, map, fence or attachment. -/
structure Quiet (m m' : Shared) : Prop where
  states : m'.states = m.states
  next : m'.next = m.next
  terminal : m'.terminal = m.terminal
  heap : ∀ s, SameFence (m.heap s) (m'.heap s)
  deleted : ∀ a, Deleted m' a ↔ Deleted m a

theorem Quiet.refl (m : Shared) : Quiet m m := ⟨rfl, rfl, rfl, fun _ => .refl _, fun _ => Iff.rfl⟩

theorem Quiet.trans {a b c : Shared} (h1 : Quiet a b) (h2 : Quiet b c) : Quiet a c :=
  ⟨h2.states.trans h1.states, h2.next.trans h1.next, h2.terminal.trans h1.terminal,
    fun s => (h1.heap s).trans (h2.heap s), fun a => (h2.deleted a).trans (h1.deleted a)⟩

theorem quiet_modify (m : Shared) (s : Ref) {f : SandboxState → SandboxState}
    (hf : SameFence (m.heap s) (f (m.heap s))) : Quiet m (m.modify s f) := by
  refine ⟨rfl, rfl, rfl, fun s' => ?_, fun _ => Iff.rfl⟩
  by_cases hs : s' = s
  · subst hs
    rw [modify_heap_self]
    exact hf
  · rw [modify_heap_of_ne _ _ hs]
    exact .refl _

theorem deleted_write (m : Shared) (e : Entry) (he : ∀ s a, e ≠ .deleted s a) (a : Attachment) :
    Deleted (m.write e) a ↔ Deleted m a := by
  unfold Deleted
  simp only [write_log, mem_cons]
  constructor
  · rintro ⟨s, h | h⟩
    · exact absurd h.symm (he s a)
    · exact ⟨s, h⟩
  · rintro ⟨s, h⟩
    exact ⟨s, .inr h⟩

theorem quiet_write (m : Shared) (e : Entry) (he : ∀ s a, e ≠ .deleted s a) : Quiet m (m.write e) :=
  ⟨rfl, rfl, rfl, fun _ => .refl _, deleted_write m e he⟩

/-- What a section of `convergeLocked` at `p` may log about its state. -/
inductive Point.Logs (s : Ref) (p : Point) : Entry → Prop
  | sent (r : Round) (request : Request) (hp : p.round = some r)
      (hr : request.attachment = r.attachment) : Point.Logs s p (.sent (some s) request)
  | acked (request : Request) : Point.Logs s p (.acked (some s) request)
  | converged (r : Round) : Point.Logs s p (.converged s r)

/-- The section changes the state `s` within its fence, and logs at most one entry. -/
def Confined (s : Ref) (logs : Entry → Prop) (m m' : Shared) : Prop :=
  ∃ st, SameFence (m.heap s) st ∧ (m' = m.modify s (fun _ => st) ∨
    ∃ e, logs e ∧ m' = (m.modify s fun _ => st).write e)

section

variable {m m' : Shared} {s : Ref} {logs : Entry → Prop}

theorem Confined.refl : Confined s logs m m := ⟨m.heap s, .refl _, .inl (m.modify_self s).symm⟩

variable {f : SandboxState → SandboxState}

theorem confined_modify (hf : SameFence (m.heap s) (f (m.heap s))) :
    Confined s logs m (m.modify s f) :=
  ⟨_, hf, .inl rfl⟩

theorem confined_modify_write {e : Entry} (hf : SameFence (m.heap s) (f (m.heap s))) (he : logs e) :
    Confined s logs m ((m.modify s f).write e) := ⟨_, hf, .inr ⟨e, he, rfl⟩⟩

theorem confined_write {e : Entry} (he : logs e) : Confined s logs m (m.write e) :=
  ⟨m.heap s, .refl _, .inr ⟨e, he, by rw [m.modify_self s]⟩⟩

theorem Confined.quiet (h : Confined s logs m m') (hl : ∀ s a, ¬ logs (.deleted s a)) :
    Quiet m m' := by
  obtain ⟨_, hs, rfl | ⟨e, he, rfl⟩⟩ := h
  · exact quiet_modify m s hs
  · refine (quiet_modify m s hs).trans (quiet_write _ e ?_)
    rintro s' a rfl
    exact hl s' a he

end

variable {m m' : Shared}

variable {s : Ref} {o : Outcome} {p : Point}

/-- **One section of a convergence** concerns its own state only. -/
theorem PointTurn.confined {cfg : Config} {c : Choice} (h : PointTurn cfg m s p c m' o) :
    Confined s (p.Logs s) m m' := by
  cases h with
  | idle => exact confined_write (.converged _)
  | parked => exact confined_modify_write (sameFence_parkUnattachedBindings _ _) (.converged _)
  | inputFailed | inputStale | inputDone => exact confined_modify (sameFence_ensureBinding _ _)
  | setMark => exact confined_modify ((sameFence_ensureBinding _ _).trans sameFence_updateBinding)
  | setSend r | hookSend r => exact confined_write (.sent r _ rfl rfl)
  | setAcked | hookAcked => exact confined_write (.acked _)
  | setRecord | setObsolete | forget | hookMark | hookRecord | hookObsolete | fail =>
    exact confined_modify ⟨rfl, rfl, rfl⟩
  | finish r =>
    refine confined_modify_write ?_ (.converged r)
    dsimp only
    split <;> exact ⟨rfl, rfl, rfl⟩
  | _ => exact .refl

/-- **Convergence is quiet.** No section of `convergeLocked` touches a lock, a fence or the map. -/
theorem PointTurn.quiet {cfg : Config} {c : Choice} (h : PointTurn cfg m s p c m' o) : Quiet m m' :=
  h.confined.quiet nofun

/-! ## The invariant -/

/-- Two tasks do not hold the same operation lock. -/
def Apart (t u : Task) : Prop := ∀ s, t.holds = some s → u.holds ≠ some s

/-- What every run keeps. A live state is the one its Sandbox is mapped to and stands at an
attachment later than every deleted one; a terminating state is still mapped or was deleted. -/
structure Inv (m : Shared) : Prop where
  fresh : ∀ uid s, m.states uid = some s → s < m.next
  terminal : ∀ a, Deleted m a →
    ∃ fence, m.terminal a.sandboxUID = some fence ∧ ¬ attachmentAfter a fence
  blank : ∀ s, (m.heap s).attachment.id = "" → (m.heap s).attachment = {}
  live : ∀ s, (m.heap s).terminating = false → (m.heap s).attachment.id ≠ "" →
    (m.heap s).attachment.sandboxUID ≠ "" ∧
      m.states (m.heap s).attachment.sandboxUID = some s ∧ Later m (m.heap s).attachment
  gone : ∀ s, (m.heap s).terminating → (m.heap s).attachment.sandboxUID = "" ∨
    m.states (m.heap s).attachment.sandboxUID = some s ∨ Deleted m (m.heap s).attachment

/-- What a section may do to the shared state, as far as other tasks can rely on it. -/
structure Step (t : Task) (m m' : Shared) : Prop where
  next : m.next ≤ m'.next
  op : ∀ s, s < m.next → (m.heap s).op = false → t.holds ≠ some s → (m'.heap s).op = false
  frozen : ∀ s, s < m.next → (m.heap s).terminating →
    (m'.heap s).terminating ∧ (m'.heap s).attachment = (m.heap s).attachment
  ending : ∀ s, s < m.next → (m'.heap s).terminating → (m.heap s).terminating ∨ (m.heap s).op
  states : ∀ uid s, m.states uid = some s → m'.states uid = some s ∨ (m.heap s).terminating
  deleted : ∀ a, Deleted m' a → Deleted m a ∨ a.sandboxUID = "" ∨
    ∃ s, m.states a.sandboxUID = some s ∧ (m.heap s).terminating

theorem Quiet.inv (h : Quiet m m') (hi : Inv m) : Inv m' where
  fresh := by
    rw [h.states, h.next]
    exact hi.fresh
  terminal := by
    intro a ha
    rw [h.terminal]
    exact hi.terminal a ((h.deleted a).mp ha)
  blank := by
    intro s
    rw [(h.heap s).attachment]
    exact hi.blank s
  live := by
    intro s ht hd
    rw [(h.heap s).terminating] at ht
    rw [(h.heap s).attachment] at hd ⊢
    obtain ⟨h1, h2, h3⟩ := hi.live s ht hd
    exact ⟨h1, h.states ▸ h2, fun old ho => h3 old ((h.deleted old).mp ho)⟩
  gone := by
    intro s ht
    rw [(h.heap s).terminating] at ht
    rw [(h.heap s).attachment, h.states]
    rcases hi.gone s ht with h1 | h1 | h1
    · exact .inl h1
    · exact .inr (.inl h1)
    · exact .inr (.inr ((h.deleted _).mpr h1))

theorem Quiet.step (h : Quiet m m') (t : Task) : Step t m m' where
  next := h.next.ge
  op := by
    intro s _ ho _
    rw [(h.heap s).op]
    exact ho
  frozen := by
    intro s _ ht
    rw [(h.heap s).terminating, (h.heap s).attachment]
    exact ⟨ht, rfl⟩
  ending := by
    intro s _ ht
    rw [(h.heap s).terminating] at ht
    exact .inl ht
  states := by
    intro _ s hs
    rw [h.states]
    exact .inl hs
  deleted := fun a ha => .inl ((h.deleted a).mp ha)

theorem inv_init : Inv ({} : Shared) where
  fresh := by simp
  terminal := by simp [Deleted]
  blank := by simp
  live := by simp
  gone := by simp

/-! ## Task assertions -/

/-- The operation lock of `s` is taken. -/
def Locked (m : Shared) (s : Ref) : Prop := s < m.next ∧ (m.heap s).op = false

/-- A call that carries `a` looked up `s`: by now `s` is terminating, or it is still the state
of the Sandbox and `a` is later than everything deleted. -/
def Obtained (m : Shared) (s : Ref) (a : Attachment) : Prop :=
  (m.heap s).terminating ∨ (m.states a.sandboxUID = some s ∧ Later m a)

/-- The holder of the lock is deleting `s` at attachment `a`. -/
def Ending (m : Shared) (s : Ref) (a : Attachment) : Prop :=
  Locked m s ∧ (m.heap s).terminating ∧ (m.heap s).attachment = a

def TaskOk (m : Shared) : Task → Prop
  | .call _ | .reach _ | .retire none .. => True
  | .register _ s a .. | .record _ s a .. =>
    s < m.next ∧ a.id ≠ "" ∧ a.sandboxUID ≠ "" ∧ Obtained m s a
  | .lock _ s | .delete s | .deleteOwned s _ | .deleteState s _ => s < m.next
  | .retryCheck s | .converge _ s _ | .unlock _ s _ => Locked m s
  | .remove s a .. | .removeWait s a .. | .finishDelete s a .. | .retire (some s) a .. =>
    Ending m s a
  | .probe _ todo => ∀ uid s, todo uid = some s → s < m.next

variable {a : Attachment}

section

variable {t u : Task} {m m' : Shared}

theorem Locked.frame (h : Locked m s) (hs : Step t m m') (ht : t.holds ≠ some s) : Locked m' s :=
  ⟨h.1.trans_le hs.next, hs.op s h.1 h.2 ht⟩

theorem Ending.frame (h : Ending m s a) (hs : Step t m m') (ht : t.holds ≠ some s) :
    Ending m' s a := by
  obtain ⟨hl, hr, ha⟩ := h
  obtain ⟨h1, h2⟩ := hs.frozen s hl.1 hr
  exact ⟨hl.frame hs ht, h1, h2.trans ha⟩

/-- The state of a Sandbox stays where it is until it is terminating. -/
theorem Later.frame (h : Later m a) (ha : m.states a.sandboxUID = some s)
    (ht : ¬ (m.heap s).terminating) (hu : a.sandboxUID ≠ "") (hs : Step t m m') :
    m'.states a.sandboxUID = some s ∧ Later m' a := by
  refine ⟨(hs.states _ _ ha).resolve_right ht, fun old hold hi => ?_⟩
  rcases hs.deleted old hold with h1 | h1 | ⟨s', hs', ht'⟩
  · exact h old h1 hi
  · exact absurd (hi.symm.trans h1) hu
  · rw [hi, ha] at hs'
    cases hs'
    exact absurd ht' ht

theorem Obtained.frame (h : Obtained m s a) (hlt : s < m.next) (hu : a.sandboxUID ≠ "")
    (hs : Step t m m') : Obtained m' s a := by
  by_cases ht : (m.heap s).terminating
  · exact .inl (hs.frozen s hlt ht).1
  rcases h with h | ⟨ha, hl⟩
  · exact absurd h ht
  exact .inr (hl.frame ha ht hu hs)

theorem TaskOk.frame (h : TaskOk m u) (hs : Step t m m') (hc : Apart t u) : TaskOk m' u := by
  have hne : ∀ s, u.holds = some s → t.holds ≠ some s := fun s hu ht => hc s ht hu
  cases u with
  | call | reach => trivial
  | register | record =>
    obtain ⟨h1, h2, h3, h4⟩ := h
    exact ⟨h1.trans_le hs.next, h2, h3, h4.frame h1 h3 hs⟩
  | lock | delete | deleteOwned | deleteState => exact lt_of_lt_of_le h hs.next
  | retryCheck s | converge caller s | unlock f s => exact Locked.frame h hs (hne s rfl)
  | remove s | removeWait s | finishDelete s => exact Ending.frame h hs (hne s rfl)
  | retire owner =>
    cases owner with
    | none => trivial
    | some s => exact Ending.frame h hs (hne s rfl)
  | probe => exact fun uid s hu => (h uid s hu).trans_le hs.next

end

/-! ## Sections that are not quiet -/

variable {g : ℤ}

section Sections

variable {m m' : Shared} {t : Task} {a : Attachment} {s : Ref}

theorem getOrCreateState_later (hi : Inv m) (h : m.getOrCreateState a = .ok (m', s)) :
    Later m a := by
  intro old hold hu
  obtain ⟨fence, hf, hnot⟩ := hi.terminal old hold
  by_cases ha : attachmentAfter a fence
  · exact attachmentAfter_of_not_after ha hnot
  have ht : m.isTerminal a := by
    unfold isTerminal
    rw [← hu, hf]
    simpa using ha
  unfold getOrCreateState at h
  rw [if_pos ht] at h
  cases h

/-- **Looking up a state.** The state is allocated, is the one the Sandbox is mapped to, and the
attachment is later than everything deleted. -/
theorem getOrCreateState_spec (hi : Inv m) (h : m.getOrCreateState a = .ok (m', s)) :
    Inv m' ∧ Step t m m' ∧ s < m'.next ∧ Obtained m' s a := by
  have hl := getOrCreateState_later hi h
  unfold getOrCreateState at h
  split at h
  · cases h
  split at h
  · rename_i hs0
    cases h
    exact ⟨hi, (Quiet.refl m).step t, hi.fresh _ _ hs0, .inr ⟨hs0, hl⟩⟩
  rename_i hn
  cases h
  -- a state other than the new one is not mapped to the Sandbox at hand
  have hm : ∀ uid s, m.states uid = some s → (m.newState a.sandboxUID).states uid = some s := by
    intro uid s hs
    have hne : uid ≠ a.sandboxUID := by
      rintro rfl
      rw [hn] at hs
      cases hs
    rw [newState_states_of_ne _ hne]
    exact hs
  refine ⟨⟨?_, hi.terminal, ?_, ?_, ?_⟩, ⟨le_succ _, ?_, ?_, ?_, ?_, ?_⟩, lt_succ_self _,
    .inr ⟨newState_states_self .., hl⟩⟩
  · intro uid s hs
    by_cases hu : uid = a.sandboxUID
    · subst hu
      rw [newState_states_self] at hs
      cases hs
      exact lt_succ_self _
    · rw [newState_states_of_ne _ hu] at hs
      exact (hi.fresh uid s hs).trans (lt_succ_self _)
  · intro s
    by_cases hs : s = m.next
    · subst hs
      simp
    · rw [newState_heap_of_ne _ _ hs]
      exact hi.blank s
  · intro s
    by_cases hs : s = m.next
    · subst hs
      simp
    rw [newState_heap_of_ne _ _ hs]
    intro ht hd
    obtain ⟨h1, h2, h3⟩ := hi.live s ht hd
    exact ⟨h1, hm _ _ h2, h3⟩
  · intro s
    by_cases hs : s = m.next
    · subst hs
      simp
    rw [newState_heap_of_ne _ _ hs]
    intro ht
    rcases hi.gone s ht with h1 | h1 | h1
    · exact .inl h1
    · exact .inr (.inl (hm _ _ h1))
    · exact .inr (.inr h1)
  · intro s hs ho _
    rw [newState_heap_of_ne _ _ hs.ne]
    exact ho
  · intro s hs ht
    rw [newState_heap_of_ne _ _ hs.ne]
    exact ⟨ht, rfl⟩
  · intro s hs ht
    rw [newState_heap_of_ne _ _ hs.ne] at ht
    exact .inl ht
  · exact fun uid s hs => .inl (hm uid s hs)
  · exact fun a ha => .inl ha

theorem Step.quiet {m'' : Shared} (h : Step t m m') (hq : Quiet m' m'') : Step t m m'' where
  next := h.next.trans hq.next.ge
  op := by
    intro s hs ho ht
    rw [(hq.heap s).op]
    exact h.op s hs ho ht
  frozen := by
    intro s hs ht
    rw [(hq.heap s).terminating, (hq.heap s).attachment]
    exact h.frozen s hs ht
  ending := by
    intro s hs ht
    rw [(hq.heap s).terminating] at ht
    exact h.ending s hs ht
  states := by
    intro uid s hs
    rw [hq.states]
    exact h.states uid s hs
  deleted := fun a ha => h.deleted a ((hq.deleted a).mp ha)

variable {f : SandboxState → SandboxState}

theorem modify_inv (hi : Inv m)
    (hb : (f (m.heap s)).attachment.id = "" → (f (m.heap s)).attachment = {})
    (hl : (f (m.heap s)).terminating = false → (f (m.heap s)).attachment.id ≠ "" →
      (f (m.heap s)).attachment.sandboxUID ≠ "" ∧
      m.states (f (m.heap s)).attachment.sandboxUID = some s ∧ Later m (f (m.heap s)).attachment)
    (hg : (f (m.heap s)).terminating → (f (m.heap s)).attachment.sandboxUID = "" ∨
      m.states (f (m.heap s)).attachment.sandboxUID = some s ∨
      Deleted m (f (m.heap s)).attachment) :
    Inv (m.modify s f) where
  fresh := hi.fresh
  terminal := hi.terminal
  blank := forall_modify (P := fun _ st => st.attachment.id = "" → st.attachment = {}) hb
    fun s' _ => hi.blank s'
  live := forall_modify (P := fun s' st => st.terminating = false →
    st.attachment.id ≠ "" → st.attachment.sandboxUID ≠ "" ∧
      m.states st.attachment.sandboxUID = some s' ∧ Later m st.attachment) hl
    fun s' _ => hi.live s'
  gone := forall_modify (P := fun s' st => st.terminating →
    st.attachment.sandboxUID = "" ∨ m.states st.attachment.sandboxUID = some s' ∨
      Deleted m st.attachment) hg fun s' _ => hi.gone s'

theorem modify_step (ho : (m.heap s).op = false → t.holds ≠ some s → (f (m.heap s)).op = false)
    (hf : (m.heap s).terminating → (f (m.heap s)).terminating ∧
      (f (m.heap s)).attachment = (m.heap s).attachment)
    (he : (f (m.heap s)).terminating → (m.heap s).terminating ∨ (m.heap s).op) :
    Step t m (m.modify s f) where
  next := le_rfl
  op := fun s' _ => forall_modify (P := fun s' st => (m.heap s').op = false →
    t.holds ≠ some s' → st.op = false) ho (fun _ _ h _ => h) s'
  frozen := fun s' _ => forall_modify (P := fun s' st => (m.heap s').terminating →
    st.terminating ∧ st.attachment = (m.heap s').attachment) hf
    (fun _ _ h => ⟨h, rfl⟩) s'
  ending := fun s' _ => forall_modify (P := fun s' st => st.terminating →
    (m.heap s').terminating ∨ (m.heap s').op) he (fun _ _ => .inl) s'
  states := fun _ _ => .inl
  deleted := fun _ => .inl

theorem registerDesired_ok {st st' : SandboxState} {d : List DesiredInput} {sig : String}
    (h : st.registerDesired a g d sig = .ok st') :
    st.terminating = false ∧ st'.attachment = a ∧ st'.op = st.op ∧ st'.terminating = false := by
  unfold registerDesired at h
  split at h
  · cases h
  rename_i ht
  split at h
  · cases h
  have ht' : st.terminating = false := by simpa using ht
  split at h
  · split at h
    · cases h
      exact ⟨ht', rfl, rfl, ht'⟩
    · cases h
  · cases h
    exact ⟨ht', rfl, rfl, ht'⟩

/-- A call attaches the state that it obtained. -/
theorem attach_spec {st : SandboxState} (hi : Inv m) (hd : a.id ≠ "") (hu : a.sandboxUID ≠ "")
    (ho : Obtained m s a) (ht : (m.heap s).terminating = false)
    (h : SameFence { m.heap s with attachment := a } st) :
    Inv (m.modify s fun _ => st) ∧ Step t m (m.modify s fun _ => st) := by
  obtain ⟨hp, ht', ha⟩ := h
  have hm := ho.resolve_left (by simp [ht])
  refine ⟨modify_inv hi ?_ ?_ ?_, modify_step ?_ ?_ ?_⟩
  · rw [ha]
    exact fun h => absurd h hd
  · rw [ha]
    exact fun _ _ => ⟨hu, hm⟩
  · simp [ht', ht]
  · rw [hp]
    exact fun h _ => h
  · simp [ht]
  · simp [ht', ht]

theorem register_spec {d : List DesiredInput} {sig : String} {st : SandboxState} (hi : Inv m)
    (hd : a.id ≠ "") (hu : a.sandboxUID ≠ "") (ho : Obtained m s a)
    (h : (m.heap s).registerDesired a g d sig = .ok st) :
    Inv (m.modify s fun _ => st) ∧ Step t m (m.modify s fun _ => st) := by
  obtain ⟨ht, ha, hp, ht'⟩ := registerDesired_ok h
  exact attach_spec hi hd hu ho ht ⟨hp, ht'.trans ht.symm, ha⟩

theorem recordHook_fence (cfg : Config) (st : SandboxState) (a : Attachment) (hook : LifecycleHook)
    (seq : ℤ) : SameFence st (st.recordHook cfg a hook seq).1 ∨
      (st.terminating = false ∧ st.attachment.id = "" ∧
        SameFence { st with attachment := a } (st.recordHook cfg a hook seq).1) := by
  unfold recordHook
  split
  · exact .inl (.refl st)
  rename_i ht
  have ht' : st.terminating = false := by simpa using ht
  split
  · exact .inl (.refl st)
  by_cases hi : st.attachment.id = ""
  · refine .inr ⟨ht', hi, ?_⟩
    simp only [if_pos hi]
    split
    · split
      · exact .refl _
      · exact ⟨rfl, rfl, rfl⟩
    · exact ⟨rfl, rfl, rfl⟩
  · refine .inl ?_
    simp only [if_neg hi]
    split
    · split
      · exact .refl _
      · exact ⟨rfl, rfl, rfl⟩
    · exact ⟨rfl, rfl, rfl⟩

theorem record_spec (cfg : Config) (hook : LifecycleHook) (seq : ℤ) (hi : Inv m) (hd : a.id ≠ "")
    (hu : a.sandboxUID ≠ "") (ho : Obtained m s a) :
    Inv (m.modify s fun _ => ((m.heap s).recordHook cfg a hook seq).1) ∧
      Step t m (m.modify s fun _ => ((m.heap s).recordHook cfg a hook seq).1) := by
  rcases recordHook_fence cfg (m.heap s) a hook seq with h | ⟨ht, -, hf⟩
  · have hq := quiet_modify (f := fun _ => ((m.heap s).recordHook cfg a hook seq).1) m s h
    exact ⟨hq.inv hi, hq.step t⟩
  · exact attach_spec hi hd hu ho ht hf

theorem setTerminal_covers (m : Shared) (a : Attachment) :
    ∃ fence, (m.setTerminal a.sandboxUID a).terminal a.sandboxUID = some fence ∧
      ¬ attachmentAfter a fence := by
  have hs : ¬ attachmentAfter a a := by
    rw [attachmentAfter_iff_rank_lt]
    exact lt_irrefl _
  unfold setTerminal
  split
  · exact ⟨a, update_self .., hs⟩
  rename_i fence hf
  split
  · exact ⟨a, update_self .., hs⟩
  · rename_i hnot
    exact ⟨fence, hf, hnot⟩

theorem setTerminal_keeps (m : Shared) (uid : String) (a old : Attachment)
    (h : ∃ fence, m.terminal old.sandboxUID = some fence ∧ ¬ attachmentAfter old fence) :
    ∃ fence, (m.setTerminal uid a).terminal old.sandboxUID = some fence ∧
      ¬ attachmentAfter old fence := by
  obtain ⟨fence, hf, hnot⟩ := h
  by_cases hu : old.sandboxUID = uid
  · subst hu
    unfold setTerminal
    rw [hf]
    dsimp only
    split
    · rename_i ha
      refine ⟨a, update_self .., fun h => hnot ?_⟩
      rw [attachmentAfter_iff_rank_lt] at *
      exact ha.trans h
    · exact ⟨fence, hf, hnot⟩
  · refine ⟨fence, ?_, hnot⟩
    unfold setTerminal
    split
    · exact (update_of_ne hu ..).trans hf
    · split
      · exact (update_of_ne hu ..).trans hf
      · exact hf

theorem setTerminal_spec (hi : Inv m) (uid : String) (a : Attachment) :
    Inv (m.setTerminal uid a) ∧ Step t m (m.setTerminal uid a) := by
  have hd : ∀ b, Deleted (m.setTerminal uid a) b ↔ Deleted m b := by
    intro b
    unfold Deleted
    rw [setTerminal_log]
  refine ⟨⟨?_, ?_, ?_, ?_, ?_⟩, ⟨?_, ?_, ?_, ?_, ?_, ?_⟩⟩
  · simpa using hi.fresh
  · exact fun b hb => setTerminal_keeps m uid a b (hi.terminal b ((hd b).mp hb))
  · simpa using hi.blank
  · simpa [Later, hd] using hi.live
  · simpa [hd] using hi.gone
  · simp
  · simpa using fun s _ h _ => h
  · simp
  · simpa using fun s _ h => .inl h
  · simpa using fun uid s h => .inl h
  · exact fun b hb => .inl ((hd b).mp hb)

/-- **Completing a deletion.** The state leaves the map and its attachment is fenced. -/
theorem finishDelete_spec (hi : Inv m) (he : Ending m s a) :
    Inv (m.finishDelete a.sandboxUID s a) ∧ Step t m (m.finishDelete a.sandboxUID s a) := by
  obtain ⟨-, hr, ha⟩ := he
  have hd : ∀ b, Deleted (m.finishDelete a.sandboxUID s a) b ↔ b = a ∨ Deleted m b := by
    intro b
    simp only [Deleted, finishDelete, write_log, setTerminal_log,
      dropState_log, mem_cons, Entry.deleted.injEq]
    constructor
    · rintro ⟨s', ⟨-, h⟩ | h⟩
      · exact .inl h
      · exact .inr ⟨s', h⟩
    · rintro (h | ⟨s', h⟩)
      · exact ⟨s, .inl ⟨rfl, h⟩⟩
      · exact ⟨s', .inr h⟩
  have hh : (m.finishDelete a.sandboxUID s a).heap = m.heap := by simp [finishDelete]
  have hk : ∀ uid s', s' ≠ s → m.states uid = some s' →
      (m.finishDelete a.sandboxUID s a).states uid = some s' := by
    intro uid s' hne h
    simpa [finishDelete, write] using m.dropState_states_of_ne hne h
  -- the attachment of the dying state is blank, mapped to it, or already deleted
  have hg := hi.gone s hr
  rw [ha] at hg
  refine ⟨⟨?_, ?_, ?_, ?_, ?_⟩, ⟨?_, ?_, ?_, ?_, ?_, ?_⟩⟩
  · intro uid s' h
    have h' : (m.dropState a.sandboxUID s).states uid = some s' := by
      simpa [finishDelete, write] using h
    simpa [finishDelete, write] using hi.fresh uid s' (m.dropState_states_sub h')
  · intro b hb
    rcases (hd b).mp hb with rfl | hb
    · exact setTerminal_covers _ b
    · refine setTerminal_keeps _ _ _ b ?_
      rw [dropState_terminal]
      exact hi.terminal b hb
  · rw [hh]
    exact hi.blank
  · rw [hh]
    intro s' ht hid
    obtain ⟨h1, h2, h3⟩ := hi.live s' ht hid
    have hne : s' ≠ s := by
      rintro rfl
      rw [hr] at ht
      cases ht
    refine ⟨h1, hk _ _ hne h2, ?_⟩
    intro old hold hu
    rcases (hd old).mp hold with rfl | hold
    · rcases hg with h | h | h
      · exact absurd (hu.symm.trans h) h1
      · rw [hu, h2] at h
        exact absurd (Option.some.inj h) hne
      · exact h3 old h hu
    · exact h3 old hold hu
  · rw [hh]
    intro s' ht
    by_cases hne : s' = s
    · subst hne
      exact .inr (.inr ((hd _).mpr (.inl ha)))
    rcases hi.gone s' ht with h | h | h
    · exact .inl h
    · exact .inr (.inl (hk _ _ hne h))
    · exact .inr (.inr ((hd _).mpr (.inr h)))
  · simp [finishDelete, write]
  · rw [hh]
    exact fun s' _ h _ => h
  · rw [hh]
    exact fun s' _ h => ⟨h, rfl⟩
  · rw [hh]
    exact fun s' _ h => .inl h
  · intro uid s' h
    by_cases hne : s' = s
    · subst hne
      exact .inr hr
    · exact .inl (hk uid s' hne h)
  · intro b hb
    rcases (hd b).mp hb with rfl | hb
    · rcases hg with h | h | h
      · exact .inr (.inl h)
      · exact .inr (.inr ⟨s, h, hr⟩)
      · exact .inl h
    · exact .inl hb

theorem setOp_spec {b : Bool} (hi : Inv m) (hb : b = false ∨ t.holds = some s) :
    Inv (m.modify s fun st => { st with op := b }) ∧
      Step t m (m.modify s fun st => { st with op := b }) := by
  refine ⟨modify_inv hi (hi.blank s) (hi.live s) (hi.gone s), modify_step ?_ ?_ ?_⟩
  · intro _ ht
    exact hb.resolve_right ht
  · exact fun h => ⟨h, rfl⟩
  · exact .inl

theorem setTerminating_spec (hi : Inv m) (ho : (m.heap s).op) :
    Inv (m.modify s fun st => { st with op := false, terminating := true }) ∧
      Step t m (m.modify s fun st => { st with op := false, terminating := true }) := by
  refine ⟨modify_inv hi (hi.blank s) (by simp) ?_, modify_step ?_ ?_ ?_⟩
  · intro _
    by_cases ht : (m.heap s).terminating
    · exact hi.gone s ht
    by_cases hd : (m.heap s).attachment.id = ""
    · exact .inl (by simp [hi.blank s hd])
    · exact .inr (.inl (hi.live s (by simpa using ht) hd).2.1)
  · exact fun _ _ => rfl
  · exact fun _ => ⟨rfl, rfl⟩
  · exact fun _ => .inr ho

end Sections

/-! ## The outline -/

/-- What the discipline asks of a section that replaces task `t` by `ts`. -/
structure Section (t : Task) (m m' : Shared) (ts : List Task) : Prop where
  inv : Inv m'
  step : Step t m m'
  tasks : ∀ t' ∈ ts, TaskOk m' t'
  holds : ∀ t' ∈ ts, ∀ s, t'.holds = some s → t.holds = some s ∨ (m.heap s).op
  apart : ts.Pairwise Apart

section Outline

variable {cfg : Config} {m m' : Shared} {t : Task} {ts : List Task} {c : Choice}

theorem Section.one {t' : Task} (h : Inv m' ∧ Step t m m') (ho : TaskOk m' t')
    (hh : ∀ s, t'.holds = some s → t.holds = some s ∨ (m.heap s).op) : Section t m m' [t'] :=
  ⟨h.1, h.2, by simpa using ho, by simpa using hh, pairwise_singleton _ _⟩

theorem Section.free (h : Inv m' ∧ Step t m m')
    (hts : ∀ t' ∈ ts, TaskOk m' t' ∧ t'.holds = none) : Section t m m' ts := by
  refine ⟨h.1, h.2, fun t' ht' => (hts t' ht').1, fun t' ht' s hs => ?_, ?_⟩
  · rw [(hts t' ht').2] at hs
    cases hs
  · refine pairwise_iff_forall_sublist.mpr fun hsub s hs => ?_
    rw [(hts _ (hsub.subset mem_cons_self)).2] at hs
    cases hs

theorem Section.alone {t' : Task} (h : Inv m' ∧ Step t m m') (ho : TaskOk m' t')
    (hh : t'.holds = none) : Section t m m' [t'] := .one h ho (by simp [hh])

theorem Quiet.both (h : Quiet m m') (hi : Inv m) : Inv m' ∧ Step t m m' := ⟨h.inv hi, h.step t⟩

theorem both_quiet {m'' : Shared} (h : Inv m' ∧ Step t m m') (hq : Quiet m' m'') :
    Inv m'' ∧ Step t m m'' := ⟨hq.inv h.1, h.2.quiet hq⟩

theorem quiet_returned (m : Shared) (f : Func) (err : Option String) :
    Quiet m (m.write (.returned f err)) := quiet_write m _ (by simp)

theorem Ending.quiet (h : Ending m s a) (hq : Quiet m m') : Ending m' s a :=
  ⟨⟨hq.next ▸ h.1.1, (hq.heap s).op.trans h.1.2⟩, (hq.heap s).terminating.trans h.2.1,
    (hq.heap s).attachment.trans h.2.2⟩

theorem retire_ok {owner : Option Ref} {g' : ℤ} {todo todo' : List String} {stage stage' : Stage}
    (h : TaskOk m (.retire owner a g todo stage)) (hq : Quiet m m') :
    TaskOk m' (.retire owner a g' todo' stage') := by
  cases owner with
  | none => trivial
  | some => exact Ending.quiet h hq

theorem afterPoint_section {caller : Caller} (hi : Inv m) (ht : TaskOk m (.converge caller s p))
    (hq : Quiet m m') : Section (.converge caller s p) m m' (afterPoint caller s o) := by
  have hl : Locked m' s := ⟨hq.next ▸ ht.1, (hq.heap s).op.trans ht.2⟩
  cases o with
  | next | «return» => exact .one (hq.both hi) hl fun _ => .inl

/-- **Every section keeps the discipline.** -/
theorem Turn.section (hi : Inv m) (ht : TaskOk m t) (h : Turn cfg m t c m' ts) :
    Section t m m' ts := by
  have hr : Inv m ∧ Step t m m := (Quiet.refl m).both hi
  have hh : ∀ {s : Ref}, (m.heap s).op → ∀ s', some s = some s' →
      t.holds = some s' ∨ (m.heap s').op := by
    rintro s hop s' ⟨⟩
    exact .inr hop
  cases h with
  | returned t c f err => exact .free ((quiet_returned m f err).both hi) (by simp)
  | registering call f a g d sig s m' hg hid hd hge
  | recording call f a hook seq s m' hse hid hd hge =>
    obtain ⟨hn, hsp, hlt, ho⟩ := getOrCreateState_spec (t := .call call) hi hge
    exact .alone ⟨hn, hsp⟩ ⟨hlt, hid, hd, ho⟩ rfl
  | deleting call uid s t hs ht' =>
    have hlt := hi.fresh uid s hs
    rcases ht' with rfl | ⟨a, rfl⟩
    · exact .alone hr hlt rfl
    · exact .alone hr hlt rfl
  | retiring => exact .alone hr trivial rfl
  | probing =>
    exact .alone (Quiet.both ⟨rfl, rfl, rfl, fun _ => .refl _, fun _ => Iff.rfl⟩ hi) hi.fresh rfl
  | registered f s a g d sig st caller m' hst hm =>
    obtain ⟨hlt, hid, hu, ho⟩ := ht
    have hb := register_spec (t := .register f s a g d sig) hi hid hu ho hst
    rcases hm with rfl | rfl
    · exact .alone hb hlt rfl
    · exact .alone (both_quiet hb (quiet_returned ..)) hlt rfl
  | recorded f s a hook seq m' ts hm hts =>
    obtain ⟨hlt, hid, hu, ho⟩ := ht
    have hb := record_spec (t := .record f s a hook seq) cfg hook seq hi hid hu ho
    have ha : ∀ m', m.next ≤ m'.next → ∀ t' ∈ ts, TaskOk m' t' ∧ t'.holds = none := by
      intro m' hle t' ht'
      rcases hts t' ht' with rfl | ⟨uid, rfl⟩
      · exact ⟨hlt.trans_le hle, rfl⟩
      · exact ⟨trivial, rfl⟩
    rcases hm with rfl | ⟨err, rfl⟩
    · exact .free hb (ha _ hb.2.next)
    · exact .free (both_quiet hb (quiet_returned ..)) (ha _ hb.2.next)
  | unreached => exact .free hr (by simp)
  | reached uid s hs => exact .alone hr (hi.fresh uid s hs) rfl
  | locked caller s t hop ht' =>
    have hb := setOp_spec (t := .lock caller s) (s := s) (b := false) hi (.inl rfl)
    have hl : Locked (m.modify s fun st => { st with op := false }) s := ⟨ht, by simp⟩
    rcases ht' with rfl | ⟨-, rfl⟩
    · exact .one hb hl (hh hop)
    · exact .one hb hl (hh hop)
  | checked s t ht' =>
    rcases ht' with ⟨err, rfl⟩ | ⟨-, rfl⟩
    · exact .one hr ht fun s' h => .inl h
    · exact .one hr ht fun s' h => .inl h
  | point caller s p c m' o hp => exact afterPoint_section hi ht hp.quiet
  | unlocked f s err =>
    have hb := setOp_spec (t := .unlock f s err) (s := s) (b := true) hi (.inr rfl)
    exact .free (both_quiet hb (quiet_returned ..)) (by simp)
  | dispatched t s a ht' =>
    have hlt : s < m.next := by
      rcases ht' with rfl | rfl
      · exact ht
      · exact ht
    exact .alone hr hlt rfl
  | spared s a err hop =>
    have hb := setOp_spec (t := .deleteState s a) (s := s) (b := false) hi (.inl rfl)
    exact .one hb ⟨ht, by simp⟩ (hh hop)
  | ending s a t hop ht' =>
    have he := setTerminating_spec (t := .deleteState s a) hi hop
    have hen : Ending (m.modify s fun st => { st with op := false, terminating := true }) s
        (m.heap s).attachment := ⟨⟨ht, by simp⟩, by simp, by simp⟩
    rcases ht' with ⟨g, -, rfl⟩ | ⟨g, rfl⟩
    · exact .one he hen (hh hop)
    · exact .one he hen (hh hop)
  | removed => exact .one hr ht fun s' h => .inl h
  | removeSend s a g name inst =>
    have hq := quiet_write m (.sent (some s) (removeRequest a g name inst)) (by simp)
    exact .one (hq.both hi) (Ending.quiet ht hq) fun s' h => .inl h
  | removeAnswered s a g request todo result answer cancelled m' t hm ht' =>
    have hq : Quiet m m' := by
      rcases hm with rfl | rfl
      · exact .refl _
      · exact quiet_write m _ (by simp)
    rcases ht' with ⟨err, rfl⟩ | ⟨-, err, rfl⟩
    · exact .one (hq.both hi) (Ending.quiet ht hq) fun s' h => .inl h
    · exact .one (hq.both hi) (Ending.quiet ht hq) fun s' h => .inl h
  | finished s a err =>
    have hb := finishDelete_spec (t := .finishDelete s a err) hi ht
    refine .one hb ⟨ht.1.1.trans_le hb.2.next, ?_⟩ fun s' h => .inl h
    simpa [finishDelete] using ht.1.2
  | retired s a g stage =>
    have hb := setTerminal_spec (t := .retire (some s) a g [] stage) hi a.sandboxUID a
    refine .one hb ?_ fun s' h => .inl h
    obtain ⟨⟨h1, h2⟩, h3, h4⟩ := ht
    exact ⟨⟨by simpa using h1, by simpa using h2⟩, by simpa using h3, by simpa using h4⟩
  | retiredUnowned a g stage =>
    have hb := setTerminal_spec (t := .retire none a g [] stage) hi a.sandboxUID a
    exact .free (both_quiet hb (quiet_returned ..)) (by simp)
  | retireSend owner a g name inst =>
    have hq := quiet_write m (.sent owner (removeRequest a g name inst)) (by simp)
    exact .one (hq.both hi) (retire_ok ht hq) fun s' h => .inl h
  | retireAcked owner a g name todo request =>
    have hq := quiet_write m (.acked owner request) (by simp)
    exact .one (hq.both hi) (retire_ok ht hq) fun s' h => .inl h
  | retireGoesOn => exact .one hr (retire_ok ht (.refl m)) fun s' h => .inl h
  | retireFailed => exact .one hr ht.1 fun s' h => .inl h
  | probed results todo uid s hs =>
    have hq : Quiet m (m.modify s (probeBindings results)) := quiet_modify m s ⟨rfl, rfl, rfl⟩
    refine .free (hq.both hi) ?_
    simp only [mem_cons, not_mem_nil, or_false, forall_eq_or_imp, forall_eq]
    refine ⟨⟨fun uid' s' hs' => ?_, rfl⟩, ht uid s hs, rfl⟩
    by_cases hu : uid' = uid
    · subst hu
      simp at hs'
    · rw [update_of_ne hu] at hs'
      exact ht uid' s' hs'

theorem TaskOk.of_holds {u : Task} (h : TaskOk m u) (hu : u.holds = some s) :
    s < m.next ∧ (m.heap s).op = false := by
  cases u with
  | retryCheck | converge | unlock => cases hu; exact h
  | remove | removeWait | finishDelete => cases hu; exact h.1
  | retire =>
    cases hu
    exact h.1
  | _ => cases hu

theorem discipline (cfg : Config) :
    System.Outline (system cfg) System.anyStep Inv TaskOk Apart where
  symm := fun h s hu ht => h s ht hu
  entry_holds := fun _ _ => trivial
  entry_compat := by
    intro e u s h
    cases h
  local_step := by
    intro s s' t c ts hi ht _ ha
    have h := (advance_turn ha).section hi ht
    exact ⟨h.inv, h.tasks, h.apart⟩
  frame_step := by
    intro s s' t u c ts hi ht hu hc _ ha
    have h := (advance_turn ha).section hi ht
    refine ⟨hu.frame h.step hc, fun t' ht' r hr hur => ?_⟩
    -- the new task got the lock from the old one or from its token
    rcases h.holds t' ht' r hr with h1 | h1
    · exact hc r h1 hur
    · rw [(hu.of_holds hur).2] at h1
      cases h1

end Outline

end FastSandbox.Action
