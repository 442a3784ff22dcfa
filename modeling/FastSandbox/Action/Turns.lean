import FastSandbox.Action.System

/-!
# What one section does

`PointTurn` lists what a section of `convergeLocked` can do at each place, and `Turn` what a section
of any call can do: the guard it found, the shared state it leaves and the tasks that follow. An
invariant is checked against these lists once, and needs no branch of the code again.
-/

namespace FastSandbox.Action

open Option

/-- The state whose operation lock a task holds. -/
def Task.holds : Task → Option Ref
  | .retryCheck s | .converge _ s _ | .remove s .. | .removeWait s .. | .finishDelete s ..
  | .unlock _ s _ => some s
  | .retire owner .. => owner
  | .call _ | .register .. | .record .. | .reach _ | .lock .. | .delete _ | .deleteOwned ..
  | .deleteState .. | .probe .. => none

def SandboxState.round (state : SandboxState) : Round where
  desired := state.desired
  generation := state.desiredGeneration
  attachment := state.attachment
  oldOrder := state.order

/-- The round that a place may send for. -/
def Point.round : Point → Option Round
  | .start | .park _ | .fail .. => none
  | .loop r _ | .input r .. | .setRead r .. | .setMark r .. | .setSend r .. | .setWait r ..
  | .setCheck r .. | .setRecord r .. | .forget r .. | .hookRead r .. | .hookMark r ..
  | .hookSend r .. | .hookWait r .. | .hookCheck r .. | .hookRecord r .. | .finish r => some r

/-! ## Sections of convergeLocked -/

/-- What a section of `convergeLocked` does for the state `s`. -/
inductive PointTurn (cfg : Config) (m : Shared) (s : Ref) :
    Point → Choice → Shared → Outcome → Prop
  | idle (hgen : (m.heap s).desiredGeneration ≤ 0) :
      PointTurn cfg m s .start .go (m.write (.converged s (m.heap s).round)) (.return none)
  | parking (hip : (m.heap s).attachment.ip = "") :
      PointTurn cfg m s .start .go m (.next (.park (m.heap s).round))
  | begun (hgen : 0 < (m.heap s).desiredGeneration) (hip : (m.heap s).attachment.ip ≠ "") :
      PointTurn cfg m s .start .go m
        (.next (.loop (m.heap s).round (.removals (m.heap s).order.reverse)))
  | loop (r k) : PointTurn cfg m s (.loop r k) .go m (.next (convergeLoop cfg m s r k))
  | inputFailed (r input err k) :
      PointTurn cfg m s (.input r input (.error err) k) .go
        (m.modify s fun st => st.ensureBinding input.handler)
        (.next (.fail input.handler .failed err err))
  | inputStale (r input inst k replayHooks) :
      PointTurn cfg m s (.input r input (.ok inst) k) .go
        (m.modify s fun st => st.ensureBinding input.handler)
        (.next (.setRead r ⟨input.handler, some input.input, input.digest, replayHooks⟩ k))
  | inputDone (r input inst k) :
      PointTurn cfg m s (.input r input (.ok inst) k) .go
        (m.modify s fun st => st.ensureBinding input.handler) (.next (.loop r k))
  | setRead (r call k) :
      PointTurn cfg m s (.setRead r call k) .go m
        (.next (.setMark r call (m.handlerInstance call.handler) k))
  | setMark (r call inst k p)
      (hp : (∃ i, inst = .ok i ∧ p = .setSend r call i k) ∨
        ∃ message err, p = .fail call.handler .failed message err) :
      PointTurn cfg m s (.setMark r call inst k) .go
        (m.modify s fun st =>
          (st.ensureBinding call.handler).updateBinding call.handler (markApplying r call))
        (.next p)
  | setSend (r call inst k) :
      PointTurn cfg m s (.setSend r call inst k) .go
        (m.write (.sent (some s) (setRequest r call inst))) (.next (.setWait r call inst k))
  | setAcked (r call inst k cancelled) :
      PointTurn cfg m s (.setWait r call inst k) (.answer none cancelled)
        (m.write (.acked (some s) (setRequest r call inst))) (.next (.setCheck r call inst k))
  | setFailed (r call inst k err cancelled) :
      PointTurn cfg m s (.setWait r call inst k) (.answer (some err) cancelled) m
        (.next (.fail call.handler .failed err (setError call err)))
  | setCheck (r call inst k) :
      PointTurn cfg m s (.setCheck r call inst k) .go m (.next (.setRecord r call inst k))
  | setRestarted (r call inst k message err)
      (hinst : m.handlerInstance call.handler ≠ .ok inst) :
      PointTurn cfg m s (.setCheck r call inst k) .go m
        (.next (.fail call.handler .pending message err))
  | setRecord (r call inst k)
      (hcur : current (m.heap s) r) :
      PointTurn cfg m s (.setRecord r call inst k) .go
        (m.modify s fun st => st.updateBinding call.handler (recordSet cfg st r call inst))
        (afterSet r call k)
  | setObsolete (r call inst k message err)
      (hcur : ¬ current (m.heap s) r) :
      PointTurn cfg m s (.setRecord r call inst k) .go
        (m.modify s fun st => st.updateBinding call.handler fun b =>
          setBindingStatus b .pending message) (.return (some err))
  | forget (r name k) :
      PointTurn cfg m s (.forget r name k) .go
        (m.modify s fun st => { st with bindings := Function.update st.bindings name none })
        (.next (.loop r k))
  | hookRead (r checkpoint name inst k) :
      PointTurn cfg m s (.hookRead r checkpoint name k) .go m
        (.next (.hookMark r checkpoint name inst k))
  | hookUnready (r checkpoint name k err) :
      PointTurn cfg m s (.hookRead r checkpoint name k) .go m (.return (some err))
  | hookMark (r checkpoint name inst k)
      (hcur : bindingCurrent (m.heap s) r name inst) :
      PointTurn cfg m s (.hookMark r checkpoint name inst k) .go
        (m.modify s fun st => st.updateBinding name fun b => setBindingStatus b .applying "")
        (.next (.hookSend r checkpoint name inst k))
  | hookStale (r checkpoint name inst k err) :
      PointTurn cfg m s (.hookMark r checkpoint name inst k) .go m (.return (some err))
  | hookSend (r checkpoint name inst digest k) :
      PointTurn cfg m s (.hookSend r checkpoint name inst k) .go
        (m.write (.sent (some s) (hookRequest r checkpoint name inst digest)))
        (.next (.hookWait r checkpoint name inst digest k))
  | hookAcked (r checkpoint name inst digest k cancelled) :
      PointTurn cfg m s (.hookWait r checkpoint name inst digest k) (.answer none cancelled)
        (m.write (.acked (some s) (hookRequest r checkpoint name inst digest)))
        (.next (.hookCheck r checkpoint name inst k))
  | hookFailed (r checkpoint name inst digest k message err cancelled) :
      PointTurn cfg m s (.hookWait r checkpoint name inst digest k)
        (.answer (some message) cancelled) m (.next (.fail name .failed message err))
  | hookCheck (r checkpoint name inst k) :
      PointTurn cfg m s (.hookCheck r checkpoint name inst k) .go m
        (.next (.hookRecord r checkpoint name inst k))
  | hookRestarted (r checkpoint name inst k message err) :
      PointTurn cfg m s (.hookCheck r checkpoint name inst k) .go m
        (.next (.fail name .pending message err))
  | hookRecord (r checkpoint name inst k)
      (hcur : current (m.heap s) r) :
      PointTurn cfg m s (.hookRecord r checkpoint name inst k) .go
        (m.modify s fun st => st.updateBinding name (recordApplied cfg st checkpoint name))
        (.next (.loop r k))
  | hookObsolete (r checkpoint name inst k message err) :
      PointTurn cfg m s (.hookRecord r checkpoint name inst k) .go
        (m.modify s fun st => st.updateBinding name fun b => setBindingStatus b .pending message)
        (.return (some err))
  | fail (name state message err) :
      PointTurn cfg m s (.fail name state message err) .go
        (m.modify s fun st => st.updateBinding name fun b => setBindingStatus b state message)
        (.return (some err))
  | finish (r) : PointTurn cfg m s (.finish r) .go (convergeFinish cfg m s r) (.return none)
  | parked (r) :
      PointTurn cfg m s (.park r) .go
        ((m.modify s fun st => st.parkUnattachedBindings r.desired).write (.converged s r))
        (.return none)

section

variable {cfg : Config} {m m' : Shared} {s : Ref} {p : Point} {o : Outcome}

/-- A section that waits for nothing is one of those listed. -/
theorem goPoint_turn (h : goPoint cfg m s p = some (m', o)) : PointTurn cfg m s p .go m' o := by
  cases p with
  | start =>
    simp only [goPoint, convergeStart, some.injEq] at h
    split at h
    · cases h
      exact .idle ‹_›
    rename_i hg
    split at h <;> cases h
    · exact .parking ‹_›
    · exact .begun (not_le.mp hg) ‹_›
  | park r => cases h; exact .parked r
  | loop r k => cases h; exact .loop r k
  | input r input inst k =>
    simp only [goPoint, convergeInput, some.injEq] at h
    split at h
    · cases h
      exact .inputFailed r input _ k
    · split at h <;> cases h
      · exact .inputStale r input _ k _
      · exact .inputDone r input _ k
  | setRead r call k => cases h; exact .setRead r call k
  | setMark r call inst k =>
    cases inst with
    | error err => cases h; exact .setMark r call _ k _ (.inr ⟨_, _, rfl⟩)
    | ok inst => cases h; exact .setMark r call _ k _ (.inl ⟨inst, rfl, rfl⟩)
  | setSend r call inst k => cases h; exact .setSend r call inst k
  | setCheck r call inst k =>
    simp only [goPoint] at h
    split at h <;> cases h
    · exact .setCheck r call inst k
    · exact .setRestarted r call inst k _ _ ‹_›
  | setRecord r call inst k =>
    simp only [goPoint, setRecord, some.injEq] at h
    split at h <;> cases h
    · exact .setRecord r call inst k ‹_›
    · exact .setObsolete r call inst k _ _ ‹_›
  | forget r name k => cases h; exact .forget r name k
  | hookRead r checkpoint name k =>
    simp only [goPoint] at h
    split at h <;> cases h
    · exact .hookUnready r checkpoint name k _
    · exact .hookRead r checkpoint name _ k
  | hookMark r checkpoint name inst k =>
    simp only [goPoint, hookMark, some.injEq] at h
    split at h <;> cases h
    · exact .hookMark r checkpoint name inst k ‹_›
    · exact .hookStale r checkpoint name inst k _
  | hookSend r checkpoint name inst k => cases h; exact .hookSend r checkpoint name inst _ k
  | hookCheck r checkpoint name inst k =>
    simp only [goPoint] at h
    split at h <;> cases h
    · exact .hookCheck r checkpoint name inst k
    · exact .hookRestarted r checkpoint name inst k _ _
  | hookRecord r checkpoint name inst k =>
    simp only [goPoint, hookRecord, some.injEq] at h
    split at h <;> cases h
    · exact .hookRecord r checkpoint name inst k ‹_›
    · exact .hookObsolete r checkpoint name inst k _ _
  | fail name state message err => cases h; exact .fail name state message err
  | finish r => cases h; exact .finish r
  | setWait | hookWait => cases h

theorem answerPoint_turn {err : Option String} (cancelled : Bool)
    (h : answerPoint m s err p = some (m', o)) :
    PointTurn cfg m s p (.answer err cancelled) m' o := by
  cases p with
  | setWait r call inst k =>
    cases err <;> cases h
    · exact .setAcked r call inst k cancelled
    · exact .setFailed r call inst k _ cancelled
  | hookWait r checkpoint name inst digest k =>
    cases err <;> cases h
    · exact .hookAcked r checkpoint name inst digest k cancelled
    · exact .hookFailed r checkpoint name inst digest k _ _ cancelled
  | _ => cases h

end

/-! ## Sections of the calls -/

/-- What a section of a task does, by what the environment decided. -/
inductive Turn (cfg : Config) (m : Shared) : Task → Choice → Shared → List Task → Prop
  -- a call that ends before it has taken a lock
  | returned (t c f err) (ht : t.holds = none) : Turn cfg m t c (m.write (.returned f err)) []
  | registering (call f a g d sig s m') (hg : 0 < g) (hid : a.id ≠ "") (huid : a.sandboxUID ≠ "")
      (hget : m.getOrCreateState a = .ok (m', s)) :
      Turn cfg m (.call call) .go m' [.register f s a g d sig]
  | recording (call f a hook seq s m') (hseq : 0 < seq) (hid : a.id ≠ "") (huid : a.sandboxUID ≠ "")
      (hget : m.getOrCreateState a = .ok (m', s)) :
      Turn cfg m (.call call) .go m' [.record f s a hook seq]
  | deleting (call uid s t) (hs : m.states uid = some s)
      (ht : t = .delete s ∨ ∃ a, t = .deleteOwned s a) : Turn cfg m (.call call) .go m [t]
  | retiring (call a) : Turn cfg m (.call call) .go m [.retire none a 0 (retireOrder cfg) .observe]
  | probing (call observed results) :
      Turn cfg m (.call call) .go { m with observed := observed } [.probe results m.states]
  -- the sections of `registerDesired` and `RecordHook`
  | registered (f s a g d sig st caller m')
      (hst : (m.heap s).registerDesired a g d sig = .ok st)
      (hm : m' = m.modify s (fun _ => st) ∨
        m' = (m.modify s fun _ => st).write (.returned f none)) :
      Turn cfg m (.register f s a g d sig) .go m' [.lock caller s]
  | recorded (f s a hook seq m' ts)
      (hm : m' = m.modify s (fun _ => ((m.heap s).recordHook cfg a hook seq).1) ∨
        ∃ err, m' = (m.modify s fun _ => ((m.heap s).recordHook cfg a hook seq).1).write
          (.returned f err))
      (hts : ∀ t ∈ ts, t = .lock .retryState s ∨ ∃ uid, t = .reach uid) :
      Turn cfg m (.record f s a hook seq) .go m' ts
  | unreached (uid) : Turn cfg m (.reach uid) .go m []
  | reached (uid s) (hs : m.states uid = some s) :
      Turn cfg m (.reach uid) .go m [.lock .reachHook s]
  -- taking and returning the operation lock
  | locked (caller s t) (hop : (m.heap s).op)
      (ht : t = .retryCheck s ∨ caller ≠ .retryState ∧ t = .converge caller s .start) :
      Turn cfg m (.lock caller s) .go (m.modify s fun st => { st with op := false }) [t]
  | checked (s t) (ht : (∃ err, t = .unlock .retryState s err) ∨
        (m.heap s).terminating = false ∧ t = .converge .retryState s .start) :
      Turn cfg m (.retryCheck s) .go m [t]
  | point (caller s p c m' o) (hp : PointTurn cfg m s p c m' o) :
      Turn cfg m (.converge caller s p) c m' (afterPoint caller s o)
  | unlocked (f s err) :
      Turn cfg m (.unlock f s err) .go
        ((m.modify s fun st => { st with op := true }).write (.returned f err)) []
  -- `deleteState`
  | dispatched (t s a) (ht : t = .delete s ∨ t = .deleteOwned s a) :
      Turn cfg m t .go m [.deleteState s a]
  | spared (s a err) (hop : (m.heap s).op) :
      Turn cfg m (.deleteState s a) .go (m.modify s fun st => { st with op := false })
        [.unlock .delete s err]
  | ending (s a t) (hop : (m.heap s).op)
      (ht : (∃ g, effectiveAPIVersion (m.heap s).attachment.apiVersion = apiVersionV2 ∧
          t = .retire (some s) (m.heap s).attachment g (retireOrder cfg) .observe) ∨
        ∃ g, t = .remove s (m.heap s).attachment g (m.heap s).removalOrder.reverse none) :
      Turn cfg m (.deleteState s a) .go
        (m.modify s fun st => { st with op := false, terminating := true }) [t]
  | removed (s a g err) : Turn cfg m (.remove s a g [] err) .go m [.finishDelete s a err]
  | removeSend (s a g name inst todo err) :
      Turn cfg m (.remove s a g (name :: todo) err) .go
        (m.write (.sent (some s) (removeRequest a g name inst)))
        [.removeWait s a g (removeRequest a g name inst) todo err]
  | removeAnswered (s a g request todo result answer cancelled m' t)
      (hm : m' = m ∨ m' = m.write (.acked (some s) request))
      (ht : (∃ err, t = .remove s a g todo err) ∨
        cancelled = true ∧ ∃ err, t = .finishDelete s a err) :
      Turn cfg m (.removeWait s a g request todo result) (.answer answer cancelled) m' [t]
  | finished (s a err) :
      Turn cfg m (.finishDelete s a err) .go (m.finishDelete a.sandboxUID s a)
        [.unlock .delete s err]
  -- `deleteRemoteOwner`
  | retired (s a g stage) :
      Turn cfg m (.retire (some s) a g [] stage) .go (m.setTerminal a.sandboxUID a)
        [.finishDelete s a none]
  | retiredUnowned (a g stage) :
      Turn cfg m (.retire none a g [] stage) .go
        ((m.setTerminal a.sandboxUID a).write (.returned .delete none)) []
  | retireSend (owner a g name inst todo) :
      Turn cfg m (.retire owner a g (name :: todo) .send) .go
        (m.write (.sent owner (removeRequest a g name inst)))
        [.retire owner a g (name :: todo) (.wait (removeRequest a g name inst))]
  | retireAcked (owner a g name todo request cancelled) :
      Turn cfg m (.retire owner a g (name :: todo) (.wait request)) (.answer none cancelled)
        (m.write (.acked owner request)) [.retire owner a g todo .observe]
  | retireGoesOn (owner a g todo stage todo' stage' c) (hstage : ∀ r, stage' ≠ .wait r) :
      Turn cfg m (.retire owner a g todo stage) c m [.retire owner a g todo' stage']
  | retireFailed (s a g todo stage c err) :
      Turn cfg m (.retire (some s) a g todo stage) c m [.unlock .delete s err]
  -- the next state of a probe
  | probed (results todo uid s) (hs : todo uid = some s) :
      Turn cfg m (.probe results todo) (.state uid)
        (m.modify s (SandboxState.probeBindings results))
        [.probe results (Function.update todo uid none), .lock .retryState s]

section Calls

variable {cfg : Config} {m m' : Shared} {t : Task} {ts : List Task} {c : Choice}

variable {a : Attachment}

theorem checkRegistration_ok {g : ℤ} {d : List DesiredInput} {res : List DesiredInput × String}
    (h : checkRegistration cfg a g d = .ok res) : 0 < g ∧ a.id ≠ "" ∧ a.sandboxUID ≠ "" := by
  unfold checkRegistration at h
  split at h
  · cases h
  · rename_i hnot
    simp only [not_or, not_le] at hnot
    exact ⟨hnot.1, hnot.2.2.1, hnot.2.1⟩

theorem checkHook_ok {uid : String} {seq : ℤ} {x : Unit} (h : checkHook cfg uid a seq = .ok x) :
    0 < seq ∧ a.id ≠ "" ∧ a.sandboxUID ≠ "" := by
  unfold checkHook at h
  split at h
  · cases h
  split at h
  · cases h
  · rename_i hs hnot
    simp only [not_or, not_le, not_not] at hs hnot
    exact ⟨hs, hnot.2.2, hnot.2.1 ▸ hnot.1⟩

theorem beginRegister_turn (call : Call) (f : Func) (a : Attachment) (g : ℤ)
    (d : List DesiredInput) :
    Turn cfg m (.call call) .go (beginRegister cfg m f a g d).1
      (beginRegister cfg m f a g d).2 := by
  unfold beginRegister
  split
  · exact .returned _ _ f _ rfl
  rename_i he
  obtain ⟨hg, hi, hu⟩ := checkRegistration_ok he
  split
  · exact .returned _ _ f _ rfl
  · rename_i ht
    exact .registering call f a g _ _ _ _ hg hi hu ht

theorem beginRecord_turn (call : Call) (f : Func) (uid : String) (a : Attachment)
    (hook : LifecycleHook) (seq : ℤ) :
    Turn cfg m (.call call) .go (beginRecord cfg m f uid a hook seq).1
      (beginRecord cfg m f uid a hook seq).2 := by
  unfold beginRecord
  split
  · exact .returned _ _ f _ rfl
  rename_i he
  obtain ⟨hs, hi, hu⟩ := checkHook_ok he
  split
  · exact .returned _ _ f _ rfl
  · rename_i hg
    exact .recording call f a hook seq _ _ hs hi hu hg

theorem beginDelete_turn (call : Call) (uid : String) :
    Turn cfg m (.call call) .go (beginDelete m uid).1 (beginDelete m uid).2 := by
  unfold beginDelete
  split
  · exact .returned _ _ .delete _ rfl
  · rename_i s hs
    exact .deleting call uid s _ hs (.inl rfl)

/-- So is the start of every call. -/
theorem beginCall_turn (call : Call) :
    Turn cfg m (.call call) .go (beginCall cfg m call).1 (beginCall cfg m call).2 := by
  cases call with
  | reconcile | registerDesired => exact beginRegister_turn ..
  | reachHook | recordHook => exact beginRecord_turn ..
  | delete uid => exact beginDelete_turn _ uid
  | deleteOwned a =>
    simp only [beginCall, beginDeleteOwned]
    split
    · exact .returned _ _ .delete _ rfl
    split
    · exact beginDelete_turn _ _
    split
    · exact .returned _ _ .delete _ rfl
    split
    · exact .retiring _ a
    · rename_i s hs
      exact .deleting _ _ s _ hs (.inr ⟨a, rfl⟩)
  | probe => exact .probing _ _ _

theorem retireFailed_turn (owner : Option Ref) (a : Attachment) (g : ℤ) (todo : List String)
    (stage : Stage) (c : Choice) (err : String) :
    Turn cfg m (.retire owner a g todo stage) c (retireFailed m owner err).1
      (retireFailed m owner err).2 := by
  cases owner with
  | none => exact .returned _ _ .delete _ rfl
  | some s => exact .retireFailed s a g todo stage c _

theorem goTask_turn (h : goTask cfg m t = some (m', ts)) : Turn cfg m t .go m' ts := by
  cases t with
  | call c =>
    obtain ⟨rfl, rfl⟩ := Prod.mk.inj (some.inj h)
    exact beginCall_turn c
  | register f s a g d sig =>
    simp only [goTask, goRegister] at h
    split at h
    · cases h
      exact .returned _ _ f _ rfl
    rename_i st hs
    split at h <;> cases h
    · exact .registered f s a g d sig st .reconcile _ hs (.inl rfl)
    · exact .registered f s a g d sig st .retryState _ hs (.inr rfl)
  | record f s a hook seq =>
    simp only [goTask, goRecord] at h
    split at h
    · cases h
      exact .recorded f s a hook seq _ _ (.inr ⟨_, rfl⟩) (by simp)
    split at h <;> cases h
    · exact .recorded f s a hook seq _ _ (.inl rfl) (by simp)
    · exact .recorded f s a hook seq _ _ (.inr ⟨_, rfl⟩) (by simp)
  | reach uid =>
    simp only [goTask] at h
    split at h <;> cases h
    · exact .unreached uid
    · exact .reached uid _ ‹_›
  | lock caller s =>
    simp only [goTask, goLock] at h
    split at h
    · rename_i ho
      split at h <;> cases h
      · exact .locked caller s _ ho (.inl rfl)
      · exact .locked caller s _ ho (.inr ⟨‹_›, rfl⟩)
    · cases h
  | retryCheck s =>
    simp only [goTask] at h
    split at h <;> cases h
    · exact .checked s _ (.inl ⟨none, rfl⟩)
    · rename_i ht
      exact .checked s _ (.inr ⟨by simpa using ht, rfl⟩)
  | converge caller s p =>
    obtain ⟨⟨_, o⟩, hp, he⟩ := map_eq_some_iff.mp h
    cases he
    exact .point caller s p _ _ o (goPoint_turn hp)
  | delete s => cases h; exact .dispatched _ s _ (.inl rfl)
  | deleteOwned s a =>
    simp only [goTask] at h
    split at h <;> cases h
    · exact .dispatched _ s a (.inr rfl)
    · exact .returned _ _ .delete _ rfl
  | deleteState s a =>
    simp only [goTask, beginDeleteState] at h
    split at h
    · rename_i ho
      split at h
      · cases h
        exact .spared s a _ ho
      split at h
      · cases h
        exact .spared s a _ ho
      split at h <;> cases h
      · exact .ending s a _ ho (.inl ⟨_, ‹_›, rfl⟩)
      · exact .ending s a _ ho (.inr ⟨_, rfl⟩)
    · cases h
  | remove s a g todo err =>
    cases todo with
    | nil => cases h; exact .removed s a g err
    | cons name todo => cases h; exact .removeSend s a g name _ todo err
  | retire owner a g =>
    simp only [goTask, goRetire] at h
    split at h
    · split at h <;> cases h
      · exact .retiredUnowned a g _
      · exact .retired _ a g _
    · cases h
      exact .retireSend owner a g _ _ _
    · cases h
  | finishDelete s a err => cases h; exact .finished s a err
  | unlock f s err => cases h; exact .unlocked f s err
  | removeWait | probe => cases h

theorem answerTask_turn {err : Option String} {cancelled : Bool}
    (h : answerTask m err cancelled t = some (m', ts)) :
    Turn cfg m t (.answer err cancelled) m' ts := by
  cases t with
  | converge caller s p =>
    obtain ⟨⟨_, o⟩, hp, he⟩ := map_eq_some_iff.mp h
    cases he
    exact .point caller s p _ _ o (answerPoint_turn cancelled hp)
  | removeWait s a g request todo result =>
    have hm : (if err.isNone then m.write (.acked (some s) request) else m) = m ∨
        (if err.isNone then m.write (.acked (some s) request) else m) =
          m.write (.acked (some s) request) := by
      split
      · exact .inr rfl
      · exact .inl rfl
    simp only [answerTask, answerRemove] at h
    split at h <;> cases h
    · exact .removeAnswered s a g request todo result _ _ _ _ hm (.inr ⟨‹_›, _, rfl⟩)
    · exact .removeAnswered s a g request todo result _ _ _ _ hm (.inl ⟨_, rfl⟩)
  | retire owner a g =>
    simp only [answerTask, answerRetire] at h
    split at h
    · split at h <;> cases h
      · exact .retireAcked owner a g _ _ _ cancelled
      · exact .retireGoesOn owner a g _ _ _ _ _ (by simp)
    · cases h
  | _ => cases h

theorem ownerRetire_turn {owner : Option Ref} {g : ℤ} {todo : List String} {stage : Stage}
    {observed : Except String OwnerState}
    (h : ownerRetire m owner a g observed todo stage = some (m', ts)) :
    Turn cfg m (.retire owner a g todo stage) (.owner observed) m' ts := by
  unfold ownerRetire at h
  split at h
  · split at h
    · obtain ⟨rfl, rfl⟩ := Prod.mk.inj (some.inj h)
      exact retireFailed_turn ..
    all_goals
      cases h
      exact .retireGoesOn owner a g _ _ _ _ _ (by simp)
  · split at h
    · obtain ⟨rfl, rfl⟩ := Prod.mk.inj (some.inj h)
      exact retireFailed_turn ..
    · cases h
      exact .retireGoesOn owner a g _ _ _ _ _ (by simp)
    · obtain ⟨rfl, rfl⟩ := Prod.mk.inj (some.inj h)
      exact retireFailed_turn ..
  · cases h

/-- **Whatever a task does next is a turn.** -/
theorem advance_turn (h : advance cfg m t c = some (m', ts)) : Turn cfg m t c m' ts := by
  cases c with
  | go => exact goTask_turn h
  | cancel =>
    cases t with
    | lock | deleteState => cases h; exact .returned _ _ _ _ rfl
    | _ => cases h
  | answer => exact answerTask_turn h
  | owner =>
    cases t with
    | retire owner a g todo stage => exact ownerRetire_turn h
    | _ => cases h
  | state uid =>
    cases t with
    | probe results todo =>
      simp only [advance, probeTask] at h
      split at h <;> cases h
      exact .probed results todo uid _ ‹_›
    | _ => cases h

end Calls

end FastSandbox.Action
