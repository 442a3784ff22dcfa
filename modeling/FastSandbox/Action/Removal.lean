import FastSandbox.Action.Outside

/-!
# Every Binding that was set is removed

A Handler holds a Binding from the moment it acknowledges a `SET_BINDING` with an input until it
acknowledges one without. `convergeLocked` removes the Handlers of `order` that left the desired
list, and `order` is only written by a convergence that got to its end; `deleteState` also looks at
the desired Bindings that were applied at some time. A holder in neither set is forgotten.

`Remembered` is the condition that no step makes a holder fall out of both. Under it a convergence
that returns without error leaves no holder outside its desired list, and a v1 Delete sends
`REMOVE_BINDING` to every holder.
-/

namespace FastSandbox.Action

open Interleaving Shared List SandboxState Option Bool

/-! ## What the Handlers hold -/

/-- Has the Handler acknowledged, on behalf of `s`, a `SET_BINDING` with an input that counts and
no removal since? The newest entry of the log comes first. -/
def holding (counts : Request → Bool) (s : Ref) (name : String) : List Entry → Bool
  | [] => false
  | .acked owner request :: older =>
    if owner = some s ∧ request.handler = name then
      match request.operation with
      | .setBinding none => false
      | .setBinding (some _) => counts request || holding counts s name older
      | .lifecycleHook _ | .removeBinding => holding counts s name older
    else holding counts s name older
  | .sent .. :: older | .converged .. :: older | .deleted .. :: older | .returned .. :: older =>
    holding counts s name older

variable (m : Shared) (s : Ref)

/-- The Handler holds a Binding of `s`, whatever the attachment. -/
abbrev holdsBinding (name : String) : List Entry → Bool := holding (fun _ => true) s name

/-- The Handler holds a Binding that was set for the attachment. -/
abbrev holdsBindingFor (a : Attachment) (s : Ref) (name : String) : List Entry → Bool :=
  holding (fun request => request.attachment.id = a.id) s name

/-- Does the Handler hold a Binding of `s` for which no `REMOVE_BINDING` has been sent? -/
def unremoved (s : Ref) (name : String) : List Entry → Bool
  | [] => false
  | .acked owner request :: older =>
    if owner = some s ∧ request.handler = name then
      match request.operation with
      | .setBinding none => false
      | .setBinding (some _) => true
      | .lifecycleHook _ | .removeBinding => unremoved s name older
    else unremoved s name older
  | .sent owner request :: older =>
    if owner = some s ∧ request.handler = name ∧ request.operation = .removeBinding then false
    else unremoved s name older
  | .converged .. :: older | .deleted .. :: older | .returned .. :: older => unremoved s name older

/-- The Binding of one Handler is accounted for: a convergence that returned without error left
nothing behind outside its desired list, and a completed v1 Delete tried to remove it. -/
def AccountedFor (name : String) : List Entry → Prop
  | [] => True
  | e :: older =>
    (match e with
      | .converged s r => r.attachment.ip ≠ "" → name ∉ bindingOrder r.desired →
        holdsBindingFor r.attachment s name older = false
      | .deleted s a => effectiveAPIVersion a.apiVersion ≠ apiVersionV2 →
        unremoved s name older = false
      | _ => True) ∧ AccountedFor name older

/-- `AccountedFor` is checked entry by entry. -/
instance decidableAccountedFor (name : String) : ∀ log, Decidable (AccountedFor name log)
  | [] => .isTrue trivial
  | .converged .. :: older =>
    have := decidableAccountedFor name older
    inferInstanceAs (Decidable ((_ → _ → _) ∧ _))
  | .deleted .. :: older =>
    have := decidableAccountedFor name older
    inferInstanceAs (Decidable ((_ → _) ∧ _))
  | .acked .. :: older | .sent .. :: older | .returned .. :: older =>
    have := decidableAccountedFor name older
    inferInstanceAs (Decidable (True ∧ _))

/-- Every Binding is accounted for. -/
def Accounted (log : List Entry) : Prop := ∀ name, AccountedFor name log

/-- Has the Binding been applied at some time? -/
def wasApplied (st : SandboxState) (name : String) : Bool :=
  match st.bindings name with
  | none => false
  | some b => 0 < b.appliedGeneration

/-- The state will still find the Binding: it is in `order`, or desired and applied at some time. -/
def Tracked (st : SandboxState) (name : String) : Prop :=
  name ∈ st.order ∨ (name ∈ bindingOrder st.desired ∧ wasApplied st name)

instance (st : SandboxState) (name : String) : Decidable (Tracked st name) :=
  inferInstanceAs (Decidable (_ ∨ _))

/-- No step makes a holder fall out of `order` and of the desired list: an accepted registration
drops a holder only if `order` has it; the answer to a `SET_BINDING` that comes too late, or from
an instance that is gone, is dropped only for a Handler that is tracked otherwise; and a v1 Delete
is cut short only when it has nothing left to remove. -/
def Remembered (t : Task) (c : Choice) : Prop :=
  match t, c with
  | .register _ s a g d sig, .go =>
    match (m.heap s).registerDesired a g d sig with
    | .error _ => True
    | .ok _ => ∀ name ∈ bindingOrder (m.heap s).desired, holdsBinding s name m.log →
      name ∈ bindingOrder d ∨ name ∈ (m.heap s).order
  | .converge _ s (.setCheck _ call inst _), .go =>
    call.input ≠ none → m.handlerInstance call.handler ≠ .ok inst → Tracked (m.heap s) call.handler
  | .converge _ s (.setRecord r call _ _), .go =>
    call.input ≠ none → Tracked (m.heap s) call.handler ∨
      (current (m.heap s) r ∧ call.handler ∈ bindingOrder (m.heap s).desired)
  | .removeWait _ _ _ _ todo _, .answer _ cancelled => cancelled → todo = []
  | _, _ => True

instance (m : Shared) (t : Task) (c : Choice) : Decidable (Remembered m t c) := by
  unfold Remembered
  rcases t with ⟨⟩
  case register =>
    rcases c with ⟨⟩
    case go =>
      dsimp only
      split <;> infer_instance
    all_goals infer_instance
  case converge p => rcases p with ⟨⟩ <;> rcases c with ⟨⟩ <;> infer_instance
  all_goals rcases c with ⟨⟩ <;> infer_instance

/-! ## The log -/

variable {request : Request} {owner : Option Ref} {call : SetCall} {inst : String} {r : Round}

section Log

variable {m m' : Shared} {s : Ref} {name : String} {e : Entry} {log : List Entry}

/-- What a request that was acknowledged leaves of a Binding. -/
def Request.leaves (request : Request) (set before : Bool) : Bool :=
  match request.operation with
  | .setBinding none => false
  | .setBinding (some _) => set
  | .lifecycleHook _ | .removeBinding => before

theorem holding_cons_acked (counts : Request → Bool) (owner : Option Ref) (request : Request) :
    holding counts s name (.acked owner request :: log) =
      if owner = some s ∧ request.handler = name then
        request.leaves (counts request || holding counts s name log) (holding counts s name log)
      else holding counts s name log := rfl

theorem unremoved_cons_acked (owner : Option Ref) (request : Request) :
    unremoved s name (.acked owner request :: log) =
      if owner = some s ∧ request.handler = name then request.leaves true (unremoved s name log)
      else unremoved s name log := rfl

theorem unremoved_cons_sent (owner : Option Ref) (request : Request) :
    unremoved s name (.sent owner request :: log) =
      if owner = some s ∧ request.handler = name ∧ request.operation = .removeBinding then false
      else unremoved s name log := rfl

variable {counts : Request → Bool}

theorem holding_cons_of_owner (h : e.owner ≠ some s) :
    holding counts s name (e :: log) = holding counts s name log := by
  cases e with
  | acked =>
    rw [holding_cons_acked, if_neg]
    exact fun hs => h hs.1
  | _ => rfl

theorem unremoved_cons_of_owner (h : e.owner ≠ some s) :
    unremoved s name (e :: log) = unremoved s name log := by
  cases e with
  | acked =>
    rw [unremoved_cons_acked, if_neg]
    exact fun hs => h hs.1
  | sent =>
    rw [unremoved_cons_sent, if_neg]
    exact fun hs => h hs.1
  | _ => rfl

theorem Unlogged.holding (h : Unlogged s m m') (counts : Request → Bool) (name : String) :
    holding counts s name m'.log = holding counts s name m.log := by
  rcases h with h | ⟨e, he, h⟩
  · rw [h]
  · rw [h, holding_cons_of_owner he]

theorem Unlogged.holdsBinding (h : Unlogged s m m') (name : String) :
    holdsBinding s name m'.log = holdsBinding s name m.log := h.holding _ name

theorem Unlogged.unremoved (h : Unlogged s m m') (name : String) :
    unremoved s name m'.log = unremoved s name m.log := by
  rcases h with h | ⟨e, he, h⟩
  · rw [h]
  · rw [h, unremoved_cons_of_owner he]

theorem leaves_imp {p : Prop} [Decidable p] {set before before' : Bool}
    (ih : before = true → before' = true)
    (h : (if p then request.leaves set before else before) = true) :
    (if p then request.leaves (true || before') before' else before') = true := by
  unfold Request.leaves at h ⊢
  split_ifs at h ⊢
  · cases ho : request.operation with
    | setBinding input =>
      cases input with
      | none => simp [ho] at h
      | some input => simp
    | lifecycleHook | removeBinding =>
      simp only [ho] at h ⊢
      exact ih h
  · exact ih h

theorem holdsBinding_of_holding (h : holding counts s name log = true) :
    holdsBinding s name log = true := by
  induction log with
  | nil => exact h
  | cons e older ih =>
    cases e with
    | acked owner request => exact leaves_imp ih h
    | _ => exact ih h

theorem holdsBinding_of_unremoved (h : unremoved s name log = true) :
    holdsBinding s name log = true := by
  induction log with
  | nil => exact h
  | cons e older ih =>
    cases e with
    | acked owner request => exact leaves_imp ih h
    | sent owner request =>
      rw [unremoved_cons_sent] at h
      split at h
      · cases h
      · exact ih h
    | _ => exact ih h

/-- After the acknowledged `SET_BINDING` the Handler of the call holds a Binding exactly if the
call has an input. -/
theorem holdsBinding_set : holdsBinding s name (.acked (some s) (setRequest r call inst) :: log) =
      if call.handler = name then call.input.isSome else holdsBinding s name log := by
  unfold holdsBinding
  rw [holding_cons_acked]
  by_cases hn : call.handler = name
  · rw [if_pos ⟨rfl, hn⟩, if_pos hn]
    cases hin : call.input with
    | none | some => simp [setRequest, Request.leaves, hin]
  · rw [if_neg fun h => hn h.2, if_neg hn]

section

variable (h : ∀ input, request.operation ≠ .setBinding input)
include h

theorem leaves_of_ne {p : Prop} [Decidable p] {set before : Bool} :
    (if p then request.leaves set before else before) = before := by
  unfold Request.leaves
  split
  · cases ho : request.operation with
    | setBinding input => exact absurd ho (h input)
    | _ => rfl
  · rfl

theorem holdsBinding_acked :
    holdsBinding s name (.acked owner request :: log) = holdsBinding s name log := leaves_of_ne h

theorem unremoved_acked :
    unremoved s name (.acked owner request :: log) = unremoved s name log := leaves_of_ne h

end

/-- What is unremoved after a `REMOVE_BINDING` was sent was so before, and is another Handler's. -/
theorem unremoved_remove {a : Attachment} {g : ℤ} {name' : String}
    (h : unremoved s name (.sent (some s) (removeRequest a g name' inst) :: log) = true) :
    name ≠ name' ∧ unremoved s name log = true := by
  rw [unremoved_cons_sent] at h
  split at h
  · cases h
  · rename_i hnot
    exact ⟨fun hn => hnot ⟨rfl, hn.symm, rfl⟩, h⟩

theorem Accounted.cons (h : Accounted log) (hc : ∀ s r, e ≠ .converged s r)
    (hd : ∀ s a, e ≠ .deleted s a) : Accounted (e :: log) := by
  intro name
  cases e with
  | converged s r => exact absurd rfl (hc s r)
  | deleted s a => exact absurd rfl (hd s a)
  | _ => exact ⟨trivial, h name⟩

end Log

/-! ## Gentle changes of a state -/

/-- Every Binding record is kept, and what has been applied stays applied. -/
def KeepsApplied (st st' : SandboxState) : Prop :=
  ∀ name b, st.bindings name = some b → ∃ b', st'.bindings name = some b' ∧
    (0 < b.appliedGeneration → 0 < b'.appliedGeneration)

/-- The state keeps its lists and what has been applied. -/
structure Gentle (st st' : SandboxState) : Prop where
  order : st'.order = st.order
  desired : st'.desired = st.desired
  generation : st'.desiredGeneration = st.desiredGeneration
  applied : KeepsApplied st st'

variable {st st' : SandboxState}

theorem KeepsApplied.of_bindings (h : st'.bindings = st.bindings) :
    KeepsApplied st st' := fun _ b hb => ⟨b, h ▸ hb, id⟩

theorem Gentle.refl (st : SandboxState) : Gentle st st := ⟨rfl, rfl, rfl, .of_bindings rfl⟩

theorem Gentle.trans {a b c : SandboxState} (h1 : Gentle a b) (h2 : Gentle b c) : Gentle a c := by
  refine ⟨h2.order.trans h1.order, h2.desired.trans h1.desired,
    h2.generation.trans h1.generation, fun name x hx => ?_⟩
  obtain ⟨y, hy, hxy⟩ := h1.applied name x hx
  obtain ⟨z, hz, hyz⟩ := h2.applied name y hy
  exact ⟨z, hz, fun h => hyz (hxy h)⟩

variable {name : String}

theorem wasApplied_iff :
    wasApplied st name = true ↔ ∃ b, st.bindings name = some b ∧ 0 < b.appliedGeneration := by
  unfold wasApplied
  cases st.bindings name with
  | none | some => simp

theorem KeepsApplied.wasApplied (h : KeepsApplied st st') (hn : wasApplied st name = true) :
    wasApplied st' name = true := by
  obtain ⟨b, hb, hpos⟩ := wasApplied_iff.mp hn
  obtain ⟨b', hb', hk⟩ := h name b hb
  exact wasApplied_iff.mpr ⟨b', hb', hk hpos⟩

theorem KeepsApplied.isSome (h : KeepsApplied st st') (hn : (st.bindings name).isSome) :
    (st'.bindings name).isSome := by
  obtain ⟨b, hb⟩ := isSome_iff_exists.mp hn
  obtain ⟨_, hb', -⟩ := h name b hb
  rw [hb']
  rfl

theorem Gentle.tracked (h : Gentle st st') (ht : Tracked st name) : Tracked st' name := by
  unfold Tracked
  rw [h.order, h.desired]
  exact ht.imp_right fun ⟨h1, h2⟩ => ⟨h1, h.applied.wasApplied h2⟩

theorem keepsApplied_map {f : String → BindingState → BindingState}
    (hb : st'.bindings = fun name => (st.bindings name).map (f name))
    (hf : ∀ name b, 0 < b.appliedGeneration → 0 < (f name b).appliedGeneration) :
    KeepsApplied st st' := by
  intro name b hn
  exact ⟨f name b, by simp [hb, hn], hf name b⟩

theorem gentle_updateBinding (st : SandboxState) (name : String) {f : BindingState → BindingState}
    (hf : ∀ b, 0 < b.appliedGeneration → 0 < (f b).appliedGeneration) :
    Gentle st (st.updateBinding name f) := by
  refine ⟨rfl, rfl, rfl, fun name' b hb => ?_⟩
  by_cases hn : name' = name
  · subst hn
    exact ⟨f b, by simp [updateBinding, hb], hf b⟩
  · exact ⟨b, by simp [updateBinding, hn, hb], id⟩

theorem gentle_ensureBinding (st : SandboxState) (name : String) :
    Gentle st (st.ensureBinding name) := by
  unfold ensureBinding
  split
  · exact .refl st
  rename_i hnn
  refine ⟨rfl, rfl, rfl, fun name' b hb => ?_⟩
  have hn : name' ≠ name := by
    rintro rfl
    rw [hnn] at hb
    cases hb
  exact ⟨b, by simp [hn, hb], id⟩

theorem ensureBinding_isSome (st : SandboxState) (name : String) :
    ((st.ensureBinding name).bindings name).isSome := by
  unfold ensureBinding
  split
  · rename_i hb
    rw [hb]
    rfl
  · simp

theorem gentle_parkUnattachedBindings (desired : List DesiredInput) (st : SandboxState) :
    Gentle st (st.parkUnattachedBindings desired) := by
  induction desired generalizing st with
  | nil => exact .refl st
  | cons input rest ih =>
    refine ((gentle_ensureBinding st input.handler).trans ?_).trans (ih _)
    exact gentle_updateBinding _ _ fun _ h => h

@[simp] theorem refreshBindingStatusLocked_appliedGeneration (cfg : Config) (st : SandboxState)
    (name : String) (b : BindingState) :
    (refreshBindingStatusLocked cfg st name b).appliedGeneration = b.appliedGeneration := by
  unfold refreshBindingStatusLocked
  split <;> split <;> rfl

theorem gentle_probeBindings (results : String → Option HandlerObservation) (st : SandboxState) :
    Gentle st (st.probeBindings results) := by
  refine ⟨rfl, rfl, rfl, keepsApplied_map rfl fun _ b h => ?_⟩
  split
  · exact h
  split
  · exact h
  · split
    · exact h
    · split <;> exact h

theorem gentle_recordHook (cfg : Config) (st : SandboxState) (a : Attachment) (hook : LifecycleHook)
    (seq : ℤ) : Gentle st (st.recordHook cfg a hook seq).1 := by
  have hs : Gentle st (if st.attachment.id = "" then { st with attachment := a } else st) := by
    split
    · exact ⟨rfl, rfl, rfl, .of_bindings rfl⟩
    · exact .refl st
  unfold recordHook
  split
  · exact .refl st
  split
  · exact .refl st
  dsimp only
  generalize (if st.attachment.id = "" then { st with attachment := a } else st) = st1 at hs ⊢
  split
  · split
    · exact hs
    · refine hs.trans ⟨rfl, rfl, rfl, keepsApplied_map rfl fun name b h => ?_⟩
      split <;> exact h
  · refine hs.trans ⟨rfl, rfl, rfl, keepsApplied_map rfl fun name b h => ?_⟩
    split <;> exact h

theorem gentle_recordSet {cfg : Config} (hr : 0 < r.generation) :
    Gentle st (st.updateBinding call.handler (recordSet cfg st r call inst)) :=
  gentle_updateBinding _ _ fun b _ => by simpa [recordSet] using hr

theorem registerDesired_lists {a : Attachment} {g : ℤ} {d : List DesiredInput} {sig : String}
    (h : st.registerDesired a g d sig = .ok st') :
    st'.order = st.order ∧ st'.desired = d ∧ st'.desiredGeneration = g ∧ KeepsApplied st st' := by
  unfold registerDesired at h
  split at h
  · cases h
  split at h
  · cases h
  split at h
  · split at h
    · cases h
      exact ⟨rfl, rfl, rfl, keepsApplied_map rfl fun _ _ h => h⟩
    · cases h
  · cases h
    exact ⟨rfl, rfl, rfl, .of_bindings rfl⟩

/-- **A Delete finds what is tracked.** -/
theorem mem_removalOrder (h : Tracked st name) : name ∈ st.removalOrder := by
  unfold Tracked at h
  unfold removalOrder
  -- the fold over the desired list only ever adds names
  generalize st.order = order at h ⊢
  generalize st.desired = desired at h ⊢
  induction desired generalizing order with
  | nil =>
    rcases h with h | ⟨h, -⟩
    · exact h
    · cases h
  | cons input rest ih =>
    rw [foldl_cons]
    refine ih _ ?_
    rcases h with h | ⟨h, ha⟩
    · left
      split
      · split
        · exact mem_append_left _ h
        · exact h
      · exact h
    · rw [bindingOrder, map_cons, mem_cons] at h
      rcases h with h | h
      · left
        obtain ⟨b, hb, hpos⟩ := wasApplied_iff.mp ha
        rw [← h, hb]
        dsimp only
        by_cases he : name ∈ order
        · rw [if_neg fun hc => hc.2 he]
          exact he
        · rw [if_pos ⟨hpos, he⟩]
          simp
      · exact .inr ⟨h, ha⟩

/-! ## Assertions -/

/-- Every holder is tracked, except one whose answer is being processed. -/
def Bound (pending : Option String) : Prop :=
  ∀ name, holdsBinding s name m.log → Tracked (m.heap s) name ∨ pending = some name

/-- The Bindings a loop still has to remove. -/
def Loop.toRemove : Loop → List String
  | .removals todo => todo
  | .inputs _ | .hooks _ => []

/-- The Bindings a loop still has to set. -/
def Loop.toSet : Loop → List DesiredInput
  | .inputs todo => todo
  | .removals _ | .hooks _ => []

/-- A round is under way: a holder that is not desired is still to be removed. -/
structure Going (m : Shared) (s : Ref) (r : Round) (k : Loop) (pending gone : Option String) :
    Prop where
  started : 0 < r.generation ∧ 0 < (m.heap s).desiredGeneration
  bound : Bound m s pending
  covers : ∀ name, holdsBinding s name m.log →
    name ∈ bindingOrder r.desired ∨ name ∈ k.toRemove ∨ gone = some name
  inputs : ∀ input ∈ k.toSet, input.handler ∈ bindingOrder r.desired

/-- The Handler that holds a Binding once the call is acknowledged. -/
def SetCall.pending (call : SetCall) : Option String := call.input.map fun _ => call.handler

/-- The Handler that the call removes. -/
def SetCall.gone (call : SetCall) : Option String :=
  match call.input with
  | none => some call.handler
  | some _ => none

def Point.Tracks : Point → Prop
  | .start | .fail .. => Bound m s none
  | .park r => Bound m s none ∧ r.attachment.ip = ""
  | .loop r k | .hookRead r _ _ k | .hookMark r _ _ _ k | .hookSend r _ _ _ k
  | .hookWait r _ _ _ _ k | .hookCheck r _ _ _ k | .hookRecord r _ _ _ k => Going m s r k none none
  | .input r item _ k => Going m s r k none none ∧ item.handler ∈ bindingOrder r.desired
  | .setRead r call k | .setMark r call _ k =>
    Going m s r k none call.gone ∧ (call.input ≠ none → call.handler ∈ bindingOrder r.desired)
  | .setSend r call _ k | .setWait r call _ k =>
    Going m s r k none call.gone ∧ (call.input ≠ none → call.handler ∈ bindingOrder r.desired) ∧
      ((m.heap s).bindings call.handler).isSome
  | .setCheck r call _ k | .setRecord r call _ k =>
    Going m s r k call.pending none ∧
      (call.input = none → holdsBinding s call.handler m.log = false) ∧
      ((m.heap s).bindings call.handler).isSome
  | .forget r name k => Going m s r k none none ∧ holdsBinding s name m.log = false
  | .finish r => Going m s r (.hooks []) none none

/-- The invocation that `deleteRemoteHandler` waits for is a removal. -/
def Stage.Removes : Stage → Prop
  | .wait request => request.operation = .removeBinding
  | .observe | .send | .readBack _ => True

def Tracking : Task → Prop
  | .register _ _ _ g _ _ => 0 < g
  | .retryCheck s | .unlock _ s _ => Bound m s none
  | .converge _ s p => p.Tracks m s
  | .remove s _ _ todo _ => Bound m s none ∧ ∀ name, unremoved s name m.log → name ∈ todo
  | .removeWait s _ _ request todo _ => Bound m s none ∧
      (∀ name, unremoved s name m.log → name ∈ todo) ∧ request.operation = .removeBinding
  | .finishDelete s a _ => Bound m s none ∧ (effectiveAPIVersion a.apiVersion ≠ apiVersionV2 →
      ∀ name, unremoved s name m.log = false)
  | .retire (some s) a _ _ stage =>
    Bound m s none ∧ effectiveAPIVersion a.apiVersion = apiVersionV2 ∧ stage.Removes
  | _ => True

/-- A state that nothing was registered on has no lists. -/
def Unregistered (st : SandboxState) : Prop :=
  st.desiredGeneration ≤ 0 → st.order = [] ∧ st.desired = []

structure Accounts (m : Shared) : Prop where
  log : Accounted m.log
  free : ∀ s, (m.heap s).op → Bound m s none
  fresh : ∀ s, m.next ≤ s → ∀ name, holdsBinding s name m.log = false
  unregistered : ∀ s, Unregistered (m.heap s)

/-! ## Interference -/

/-- What the holder of the lock of `s` can rely on while others run. -/
structure Keeps (s : Ref) (m m' : Shared) : Prop where
  holding : ∀ name, holdsBinding s name m'.log = holdsBinding s name m.log
  unremoved : ∀ name, unremoved s name m'.log = unremoved s name m.log
  tracked : ∀ name, holdsBinding s name m.log → Tracked (m.heap s) name → Tracked (m'.heap s) name
  known : ∀ name, ((m.heap s).bindings name).isSome → ((m'.heap s).bindings name).isSome
  started : 0 < (m.heap s).desiredGeneration → 0 < (m'.heap s).desiredGeneration

section

variable {cfg : Config} {m m' : Shared} {s : Ref} {t : Task} {c : Choice} {ts : List Task}

theorem Bound.keeps {pending : Option String} (h : Bound m s pending) (hk : Keeps s m m') :
    Bound m' s pending := by
  intro name hn
  rw [hk.holding] at hn
  exact (h name hn).imp_left (hk.tracked name hn)

theorem Going.keeps {k : Loop} {pending gone : Option String} (h : Going m s r k pending gone)
    (hk : Keeps s m m') : Going m' s r k pending gone where
  started := ⟨h.started.1, hk.started h.started.2⟩
  bound := h.bound.keeps hk
  covers := by
    intro name hn
    rw [hk.holding] at hn
    exact h.covers name hn
  inputs := h.inputs

theorem Point.Tracks.keeps {p : Point} (h : p.Tracks m s) (hk : Keeps s m m') : p.Tracks m' s := by
  cases p with
  | start | fail => exact Bound.keeps h hk
  | park | input | setRead | setMark => exact ⟨h.1.keeps hk, h.2⟩
  | setSend | setWait => exact ⟨h.1.keeps hk, h.2.1, hk.known _ h.2.2⟩
  | setCheck | setRecord =>
    exact ⟨h.1.keeps hk, fun hn => (hk.holding _).trans (h.2.1 hn), hk.known _ h.2.2⟩
  | forget => exact ⟨h.1.keeps hk, (hk.holding _).trans h.2⟩
  | _ => exact Going.keeps h hk

theorem Tracking.keeps {u : Task} (h : Tracking m u) (hu : u.holds = some s) (hk : Keeps s m m') :
    Tracking m' u := by
  cases u with
  | retryCheck | unlock => cases hu; exact Bound.keeps h hk
  | converge => cases hu; exact Point.Tracks.keeps h hk
  | remove =>
    cases hu
    exact ⟨h.1.keeps hk, fun name hn => h.2 name ((hk.unremoved name).symm.trans hn)⟩
  | removeWait =>
    cases hu
    exact ⟨h.1.keeps hk, fun name hn => h.2.1 name ((hk.unremoved name).symm.trans hn), h.2.2⟩
  | finishDelete =>
    cases hu
    exact ⟨h.1.keeps hk, fun hv name => (hk.unremoved name).trans (h.2 hv name)⟩
  | retire =>
    cases hu
    exact ⟨h.1.keeps hk, h.2⟩
  | _ => cases hu

theorem Gentle.keeps (h : Gentle (m.heap s) (m'.heap s)) (hl : Unlogged s m m') : Keeps s m m' :=
  ⟨hl.holdsBinding, hl.unremoved, fun _ _ => h.tracked,
    fun _ => h.applied.isSome, fun hg => h.generation ▸ hg⟩

/-- **Others keep track.** Under the condition, a task without the lock of `s` drops no holder. -/
theorem Outside.keeps (h : Outside cfg t c s m m') (hs : s < m.next) (ht : Tracking m t)
    (hg : Remembered m t c) : Keeps s m m' := by
  obtain ⟨hst, hl⟩ := h
  cases hst with
  | fence op terminating h =>
    refine Gentle.keeps ?_ hl
    rw [h]
    exact ⟨rfl, rfl, rfl, .of_bindings rfl⟩
  | alloc hn => exact absurd hs hn.not_gt
  | register f a g d sig hk hc h =>
    subst hk
    subst hc
    obtain ⟨hor, hds, he, ha⟩ := registerDesired_lists h
    simp only [Remembered, h] at hg
    refine ⟨hl.holdsBinding, hl.unremoved, ?_, fun _ => ha.isSome, fun _ => he ▸ ht⟩
    intro name hn hr
    unfold Tracked
    rw [hor, hds]
    rcases hr with hr | ⟨hr, hw⟩
    · exact .inl hr
    · rcases hg name hr hn with hd | ho
      · exact .inr ⟨hd, ha.wasApplied hw⟩
      · exact .inl ho
  | record f a hook seq hk h =>
    refine Gentle.keeps ?_ hl
    rw [h]
    exact gentle_recordHook ..
  | probe results h =>
    refine Gentle.keeps ?_ hl
    rw [h]
    exact gentle_probeBindings ..

theorem Unregistered.gentle {st st' : SandboxState} (h : Unregistered st) (hg : Gentle st st') :
    Unregistered st' := by
  unfold Unregistered
  rw [hg.order, hg.desired, hg.generation]
  exact h

theorem Outside.unregistered (ho : Outside cfg t c s m m') (ht : Tracking m t)
    (hu : Unregistered (m.heap s)) : Unregistered (m'.heap s) := by
  cases ho.state with
  | fence op terminating h =>
    rw [h]
    exact hu
  | alloc hn h =>
    rw [h]
    exact fun _ => ⟨rfl, rfl⟩
  | register f a g d sig hk hc h =>
    subst hk
    intro hle
    rw [(registerDesired_lists h).2.2.1] at hle
    exact absurd ht hle.not_gt
  | record f a hook seq hk h =>
    rw [h]
    exact hu.gentle (gentle_recordHook ..)
  | probe results h =>
    rw [h]
    exact hu.gentle (gentle_probeBindings ..)

end

/-! ## Convergence -/

/-- What the outcome of a section of `convergeLocked` leaves to its holder. -/
def Outcome.Tracks : Outcome → Prop
  | .next p => p.Tracks m s
  | .return _ => Bound m s none

section Converge

variable {cfg : Config} {m m' : Shared} {s : Ref} {caller : Caller} {r : Round} {k : Loop}
  {c : Choice} {f : SandboxState → SandboxState}

theorem keeps_modify (h : Gentle (m.heap s) (f (m.heap s))) : Keeps s m (m.modify s f) := by
  refine Gentle.keeps ?_ (.inl rfl)
  rw [modify_heap_self]
  exact h

theorem Unregistered.modify (h : Unregistered (m.heap s)) (hg : Gentle (m.heap s) (f (m.heap s))) :
    Unregistered ((m.modify s f).heap s) := by
  rw [modify_heap_self]
  exact h.gentle hg

/-- Entries that are neither an acknowledged `SET_BINDING` nor a `REMOVE_BINDING` change nothing
for the holder. -/
theorem keeps_write {e : Entry}
    (h : ∀ name log, holdsBinding s name (e :: log) = holdsBinding s name log)
    (hu : ∀ name log, unremoved s name (e :: log) = unremoved s name log) : Keeps s m (m.write e) :=
  ⟨fun _ => h _ _, fun _ => hu _ _, fun _ _ ht => ht, fun _ hn => hn, id⟩

theorem keeps_sent (h : request.operation ≠ .removeBinding) :
    Keeps s m (m.write (.sent owner request)) := by
  refine keeps_write (fun _ _ => rfl) fun name log => ?_
  rw [unremoved_cons_sent, if_neg]
  exact fun hs => h hs.2.2

variable {inst name : String}

theorem keeps_hook {checkpoint : HookCheckpoint} {digest : String} :
    Keeps s m (m.write (.acked owner (hookRequest r checkpoint name inst digest))) :=
  keeps_write (fun _ _ => holdsBinding_acked (by simp [hookRequest]))
    fun _ _ => unremoved_acked (by simp [hookRequest])

theorem keeps_converged : Keeps s m (m.write (.converged s r)) :=
  keeps_write (fun _ _ => rfl) fun _ _ => rfl

theorem Keeps.trans {m'' : Shared} (h1 : Keeps s m m') (h2 : Keeps s m' m'') : Keeps s m m'' where
  holding name := (h2.holding name).trans (h1.holding name)
  unremoved name := (h2.unremoved name).trans (h1.unremoved name)
  tracked name hn ht := h2.tracked name ((h1.holding name).trans hn) (h1.tracked name hn ht)
  known name h := h2.known name (h1.known name h)
  started h := h2.started (h1.started h)

theorem Keeps.refl : Keeps s m m := ⟨fun _ => rfl, fun _ => rfl, fun _ _ h => h, fun _ h => h, id⟩

theorem convergeLoop_tracks (h : Going m s r k none none) :
    (convergeLoop cfg m s r k).Tracks m s := by
  have hc : ∀ name, holdsBinding s name m.log = true →
      name ∈ bindingOrder r.desired ∨ name ∈ k.toRemove :=
    fun name hn => (h.covers name hn).imp_right fun h => h.resolve_right (by simp)
  cases k with
  | removals todo =>
    cases todo with
    | nil =>
      refine ⟨h.started, h.bound, fun name hn => .inl ?_, fun input hin => ?_⟩
      · exact (hc name hn).resolve_right (by simp [Loop.toRemove])
      · exact mem_map_of_mem hin
    | cons name todo =>
      rw [convergeLoop]
      split
      · rename_i he
        refine ⟨h.started, h.bound, fun name' hn => ?_, by simp [Loop.toSet]⟩
        rcases hc name' hn with hd | hd
        · exact .inl hd
        · rcases mem_cons.mp hd with rfl | hd
          · exact .inl he
          · exact .inr (.inl hd)
      · refine ⟨⟨h.started, h.bound, fun name' hn => ?_, by simp [Loop.toSet]⟩, by simp⟩
        rcases hc name' hn with hd | hd
        · exact .inl hd
        · rcases mem_cons.mp hd with rfl | hd
          · exact .inr (.inr rfl)
          · exact .inr (.inl hd)
  | inputs todo =>
    cases todo with
    | nil => exact ⟨h.started, h.bound, h.covers, by simp [Loop.toSet]⟩
    | cons input todo =>
      refine ⟨⟨h.started, h.bound, h.covers, fun i hi => ?_⟩, ?_⟩
      · exact h.inputs i (mem_cons_of_mem _ hi)
      · exact h.inputs input mem_cons_self
  | hooks todo =>
    cases todo with
    | nil => exact h
    | cons item todo =>
      have hx : Going m s r (.hooks todo) none none :=
        ⟨h.started, h.bound, h.covers, by simp [Loop.toSet]⟩
      rw [convergeLoop]
      split <;> exact hx

theorem setRecord_tracks (h : Going m s r k call.pending none)
    (hnn : call.input = none → holdsBinding s call.handler m.log = false)
    (hkn : ((m.heap s).bindings call.handler).isSome)
    (hg : call.input ≠ none → Tracked (m.heap s) call.handler ∨
      call.handler ∈ bindingOrder (m.heap s).desired) :
    (afterSet r call k).Tracks (m.modify s fun st =>
      st.updateBinding call.handler (recordSet cfg st r call inst)) s := by
  have hgn : Gentle (m.heap s) ((m.heap s).updateBinding call.handler
      (recordSet cfg (m.heap s) r call inst)) := gentle_recordSet h.started.1
  have hk := h.keeps (keeps_modify (f := fun st =>
    st.updateBinding call.handler (recordSet cfg st r call inst)) hgn)
  cases hin : call.input with
  | none =>
    have hp : call.pending = none := by simp [SetCall.pending, hin]
    rw [hp] at hk
    simp only [afterSet, hin]
    exact ⟨hk, hnn hin⟩
  | some =>
    simp only [afterSet, hin]
    refine ⟨hk.started, fun name hn => .inl ?_, hk.covers, hk.inputs⟩
    rcases hk.bound name hn with ht | ht
    · exact ht
    -- the Binding that is recorded here
    obtain rfl : call.handler = name := by simpa [SetCall.pending, hin] using ht
    rw [modify_heap_self]
    rcases hg (by simp [hin]) with hr | hd
    · exact hgn.tracked hr
    obtain ⟨b, hb⟩ := isSome_iff_exists.mp hkn
    refine .inr ⟨hd, wasApplied_iff.mpr ⟨recordSet cfg (m.heap s) r call inst b, ?_, ?_⟩⟩
    · simp [updateBinding, hb]
    · simpa [recordSet] using h.started.1

theorem forget_tracks (h : Going m s r k none none) (hm : holdsBinding s name m.log = false) :
    Going (m.modify s fun st => { st with bindings := Function.update st.bindings name none }) s r k
      none none := by
  refine ⟨by simpa using h.started, fun name' hn => ?_, h.covers, h.inputs⟩
  have hne : name' ≠ name := by
    rintro rfl
    rw [modify_log, hm] at hn
    cases hn
  refine (h.bound name' hn).imp_left fun ht => ?_
  rw [modify_heap_self]
  refine ht.imp_right fun ⟨h1, h2⟩ => ⟨h1, ?_⟩
  simpa [wasApplied, Function.update_of_ne hne] using h2

/-- **The end of a convergence.** What is still held is desired, and `order` now says so. -/
theorem convergeFinish_tracks (ha : Accounted m.log) (h : Going m s r (.hooks []) none none) :
    Accounted (convergeFinish cfg m s r).log ∧ Unregistered ((convergeFinish cfg m s r).heap s) ∧
      Bound (convergeFinish cfg m s r) s none := by
  have hs : ∀ name, holdsBinding s name m.log = true → name ∈ bindingOrder r.desired := by
    intro name hn
    rcases h.covers name hn with hd | hd | hd
    · exact hd
    · cases hd
    · cases hd
  have hh : ((convergeFinish cfg m s r).heap s).order = bindingOrder r.desired ∧
      ((convergeFinish cfg m s r).heap s).desiredGeneration = (m.heap s).desiredGeneration := by
    unfold convergeFinish
    dsimp only
    rw [write_heap, modify_heap_self]
    split <;> exact ⟨rfl, rfl⟩
  refine ⟨fun name => ⟨fun _ hnot => ?_, ha name⟩, fun hle => ?_, fun name hn => .inl (.inl ?_)⟩
  · by_contra hne
    exact hnot (hs name (holdsBinding_of_holding (not_eq_false _ ▸ hne)))
  · rw [hh.2] at hle
    exact absurd h.started.2 hle.not_gt
  · rw [hh.1]
    exact hs name hn

theorem setAcked_tracks (hg : Going m s r k none call.gone)
    (hin : call.input ≠ none → call.handler ∈ bindingOrder r.desired) :
    Going (m.write (.acked (some s) (setRequest r call inst))) s r k call.pending none := by
  refine ⟨hg.started, fun name hn => ?_, fun name hn => ?_, hg.inputs⟩
  · rw [write_log, holdsBinding_set] at hn
    split at hn
    · rename_i hm
      obtain ⟨input, hi⟩ := isSome_iff_exists.mp hn
      exact .inr (by simp [SetCall.pending, hi, hm])
    · exact .inl ((hg.bound name hn).resolve_right (by simp))
  · rw [write_log, holdsBinding_set] at hn
    split at hn
    · rename_i hm
      obtain ⟨input, hi⟩ := isSome_iff_exists.mp hn
      exact .inl (hm ▸ hin (by simp [hi]))
    rename_i hm
    rcases hg.covers name hn with hd | hd | hd
    · exact .inl hd
    · exact .inr (.inl hd)
    -- the one to be removed is the one that answered
    unfold SetCall.gone at hd
    split at hd
    · exact absurd (some.inj hd) hm
    · cases hd

/-- **One section of a convergence** keeps the holders accounted for. -/
theorem PointTurn.tracks {p : Point} {o : Outcome} (ha : Accounted m.log)
    (hu : Unregistered (m.heap s)) (hp : p.Tracks m s)
    (hg : Remembered m (.converge caller s p) c) (h : PointTurn cfg m s p c m' o) :
    Accounted m'.log ∧ Unregistered (m'.heap s) ∧ o.Tracks m' s := by
  -- a status update of one Binding
  have hs : ∀ name state message, Gentle (m.heap s) ((m.heap s).updateBinding name fun b =>
      setBindingStatus b state message) := fun name state message =>
    gentle_updateBinding _ _ fun _ h => h
  have he := gentle_ensureBinding (m.heap s)
  cases h with
  | idle hge =>
    obtain ⟨ho, hds⟩ := hu hge
    refine ⟨fun name => ⟨fun _ _ => ?_, ha name⟩, hu, Bound.keeps hp keeps_converged⟩
    -- nothing was ever registered, so nobody holds anything
    by_contra hne
    have htr := (hp name (holdsBinding_of_holding (not_eq_false _ ▸ hne))).resolve_right (by simp)
    simp [Tracked, ho, hds, bindingOrder] at htr
  | parking hip => exact ⟨ha, hu, hp, hip⟩
  | parked r =>
    have hpr := gentle_parkUnattachedBindings r.desired (m.heap s)
    refine ⟨fun name => ⟨fun h => absurd hp.2 h, ha name⟩, ?_, ?_⟩
    · rw [write_heap, modify_heap_self]
      exact hu.gentle hpr
    · exact Bound.keeps hp.1 ((keeps_modify hpr).trans keeps_converged)
  | begun hge =>
    -- the round takes every holder over
    refine ⟨ha, hu, ⟨⟨hge, hge⟩, hp, fun name hn => ?_, by simp [Loop.toSet]⟩⟩
    rcases (hp name hn).resolve_right (by simp) with h | ⟨h, -⟩
    · exact .inr (.inl (by simpa [Loop.toRemove] using h))
    · exact .inl h
  | loop => exact ⟨ha, hu, convergeLoop_tracks hp⟩
  | inputFailed => exact ⟨ha, hu.modify (he _), (hp.1.keeps (keeps_modify (he _))).bound⟩
  | inputStale => exact ⟨ha, hu.modify (he _), hp.1.keeps (keeps_modify (he _)), fun _ => hp.2⟩
  | inputDone => exact ⟨ha, hu.modify (he _), hp.1.keeps (keeps_modify (he _))⟩
  | setMark r call inst k p hp' =>
    have hd := gentle_updateBinding ((m.heap s).ensureBinding call.handler) call.handler
      (f := markApplying r call) fun _ h => h
    have hgn := (he call.handler).trans hd
    have hk := hp.1.keeps (keeps_modify (f := fun st =>
      (st.ensureBinding call.handler).updateBinding call.handler (markApplying r call)) hgn)
    refine ⟨ha, hu.modify hgn, ?_⟩
    rcases hp' with ⟨i, -, rfl⟩ | ⟨message, err, rfl⟩
    · refine ⟨hk, hp.2, ?_⟩
      rw [modify_heap_self]
      exact hd.applied.isSome (ensureBinding_isSome _ _)
    · exact hk.bound
  | setSend r call inst k =>
    refine ⟨ha.cons (by simp) (by simp), hu, ?_⟩
    exact Point.Tracks.keeps hp (keeps_sent (by simp [setRequest]))
  | setAcked =>
    obtain ⟨hgo, hin, hkn⟩ := hp
    refine ⟨ha.cons (by simp) (by simp), hu, setAcked_tracks hgo hin, fun hnn => ?_, hkn⟩
    rw [write_log, holdsBinding_set, if_pos rfl, hnn]
    rfl
  | setFailed => exact ⟨ha, hu, hp.1.bound⟩
  | setRestarted r call inst k message err hi =>
    refine ⟨ha, hu, fun name hn => .inl ?_⟩
    rcases hp.1.bound name hn with ht | ht
    · exact ht
    · obtain ⟨input, hin, rfl⟩ := map_eq_some_iff.mp ht
      exact hg (by simp [hin]) hi
  | setRecord =>
    refine ⟨ha, hu.modify (gentle_recordSet hp.1.started.1), ?_⟩
    exact setRecord_tracks hp.1 hp.2.1 hp.2.2 fun h => (hg h).imp_right And.right
  | setObsolete r call inst k message err hr =>
    have hgn := hs call.handler .pending message
    refine ⟨ha, hu.modify hgn, fun name hn => .inl ?_⟩
    rcases (hp.1.keeps (keeps_modify hgn)).bound name hn with ht | ht
    · exact ht
    · obtain ⟨input, hin, rfl⟩ := map_eq_some_iff.mp ht
      rw [modify_heap_self]
      exact hgn.tracked ((hg (by simp [hin])).resolve_right fun hc => hr hc.1)
  | forget =>
    refine ⟨ha, ?_, forget_tracks hp.1 hp.2⟩
    rw [modify_heap_self]
    exact hu
  | hookMark => exact ⟨ha, hu.modify (hs _ _ _), Going.keeps hp (keeps_modify (hs _ _ _))⟩
  | hookSend =>
    exact ⟨ha.cons (by simp) (by simp), hu, Going.keeps hp (keeps_sent (by simp [hookRequest]))⟩
  | hookAcked => exact ⟨ha.cons (by simp) (by simp), hu, Going.keeps hp keeps_hook⟩
  | hookRecord r checkpoint name =>
    have hap : Gentle (m.heap s) ((m.heap s).updateBinding name
        (recordApplied cfg (m.heap s) checkpoint name)) :=
      gentle_updateBinding _ _ fun b hb => by simpa [recordApplied] using hb
    exact ⟨ha, hu.modify hap, Going.keeps hp (keeps_modify hap)⟩
  | hookObsolete => exact ⟨ha, hu.modify (hs _ _ _), Bound.keeps hp.bound (keeps_modify (hs _ _ _))⟩
  | fail => exact ⟨ha, hu.modify (hs _ _ _), Bound.keeps hp (keeps_modify (hs _ _ _))⟩
  | finish => exact convergeFinish_tracks ha hp
  | hookUnready | hookStale | hookFailed | hookRestarted => exact ⟨ha, hu, Going.bound hp⟩
  | setRead | setCheck | hookRead | hookCheck => exact ⟨ha, hu, hp⟩

end Converge

/-! ## Every section -/

section Sections

variable {cfg : Config} {m m' : Shared} {t : Task} {ts : List Task} {c : Choice}

/-- What a section must show for the state whose lock its task holds. -/
def Settled (m' : Shared) (s : Ref) : Prop :=
  Unregistered (m'.heap s) ∧ ((m'.heap s).op → Bound m' s none)

variable {s : Ref}

theorem settled_locked (hu : Unregistered (m'.heap s)) (ho : (m'.heap s).op = false) :
    Settled m' s := ⟨hu, fun h => by simp [ho] at h⟩

theorem accounted_of_unlogged (h : ∀ s, Unlogged s m m') (ha : Accounted m.log) :
    Accounted m'.log := by
  rcases h 0 with h0 | ⟨e, -, h0⟩
  · rw [h0]
    exact ha
  -- the new entry concerns no state at all
  have ho : ∀ s, e.owner ≠ some s := by
    intro s
    rcases h s with hs | ⟨e', he', hs⟩
    · rw [h0] at hs
      exact absurd hs (cons_ne_self _ _)
    · rw [h0] at hs
      rw [(cons.inj hs).1]
      exact he'
  rw [h0]
  refine ha.cons ?_ ?_
  · rintro s r rfl
    exact ho s rfl
  · rintro s a rfl
    exact ho s rfl

theorem Accounts.locked (ha : Accounts m) (ho : (m.heap s).op = true) :
    Bound (m.modify s fun st => { st with op := false }) s none :=
  (ha.free s ho).keeps (keeps_modify ⟨rfl, rfl, rfl, .of_bindings rfl⟩)

theorem Accounts.ending (ha : Accounts m) (ho : (m.heap s).op = true) :
    Bound (m.modify s fun st => { st with op := false, terminating := true }) s none :=
  (ha.free s ho).keeps (keeps_modify ⟨rfl, rfl, rfl, .of_bindings rfl⟩)

theorem afterPoint_tracking {caller : Caller} {o : Outcome} (h : o.Tracks m' s) :
    ∀ t' ∈ afterPoint caller s o, Tracking m' t' := by
  cases o with
  | next | «return» => exact fun t' ht' => mem_singleton.mp ht' ▸ h

theorem Turn.tracking_free (ha : Accounts m) (hh : t.holds = none) (h : Turn cfg m t c m' ts) :
    ∀ t' ∈ ts, Tracking m' t' := by
  cases h with
  | registering call f a g d sig s m' hg => simpa [Tracking] using hg
  | deleting call uid s t hs ht' => rcases ht' with rfl | ⟨a, rfl⟩ <;> simp [Tracking]
  | recorded f s a hook seq m' ts hm hts =>
    intro t' ht'
    rcases hts t' ht' with rfl | ⟨uid, rfl⟩ <;> trivial
  | locked caller s t ho ht' =>
    have hl := ha.locked ho
    rcases ht' with rfl | ⟨-, rfl⟩ <;> simpa [Tracking, Point.Tracks] using hl
  | spared s a err ho => simpa [Tracking] using ha.locked ho
  | ending s a t ho ht' =>
    have he := ha.ending ho
    rcases ht' with ⟨g, hv, rfl⟩ | ⟨g, rfl⟩
    · simpa [Tracking, hv, Stage.Removes] using he
    simp only [mem_singleton, forall_eq]
    refine ⟨he, fun name hn => ?_⟩
    rw [mem_reverse]
    have hhl := holdsBinding_of_unremoved hn
    exact mem_removalOrder ((ha.free s ho name hhl).resolve_right (by simp))
  | retireSend owner | retireAcked owner | retireGoesOn owner => cases hh; simp [Tracking]
  | returned | recording | retiring | probing | registered | unreached | reached | dispatched
  | retiredUnowned | probed => simp [Tracking]
  | _ => cases hh

/-- What the holder of the lock of `s` must show at the end of a section. -/
structure Held (m' : Shared) (s : Ref) (ts : List Task) : Prop where
  log : Accounted m'.log
  settled : Settled m' s
  tasks : ∀ t' ∈ ts, Tracking m' t'

theorem Held.one {t' : Task} (hl : Accounted m'.log) (hs : Settled m' s) (ht : Tracking m' t') :
    Held m' s [t'] := ⟨hl, hs, by simpa using ht⟩

theorem Turn.tracking_held (ha : Accounts m) (ho : (m.heap s).op = false) (ht : Tracking m t)
    (hg : Remembered m t c) (hh : t.holds = some s) (h : Turn cfg m t c m' ts) : Held m' s ts := by
  have hs : Settled m s := settled_locked (ha.unregistered s) ho
  cases h with
  | returned t c f err hnn => rw [hnn] at hh; cases hh
  | dispatched t s0 a ht' => rcases ht' with rfl | rfl <;> cases hh
  | checked s0 t ht' =>
    cases hh
    rcases ht' with ⟨err, rfl⟩ | ⟨-, rfl⟩
    · exact .one ha.log hs ht
    · exact .one ha.log hs ht
  | point caller s0 p c m' o hp =>
    cases hh
    obtain ⟨h1, h2, h3⟩ := hp.tracks ha.log (ha.unregistered s) ht hg
    exact ⟨h1, settled_locked h2 ((hp.quiet.heap s).op.trans ho), afterPoint_tracking h3⟩
  | unlocked =>
    cases hh
    refine ⟨ha.log.cons (by simp) (by simp), ⟨?_, fun _ name hn => ?_⟩, by simp⟩
    · simpa [Unregistered] using ha.unregistered s
    · simpa [Tracked, wasApplied] using ht name hn
  | removed =>
    cases hh
    refine .one ha.log hs ⟨ht.1, fun _ name => ?_⟩
    by_contra hne
    cases ht.2 name (not_eq_false _ ▸ hne)
  | removeSend =>
    cases hh
    refine .one (ha.log.cons (by simp) (by simp)) hs ⟨ht.1, fun name' hn => ?_, rfl⟩
    obtain ⟨hne, hn⟩ := unremoved_remove hn
    exact (mem_cons.mp (ht.2 name' hn)).resolve_left hne
  | removeAnswered s0 a g request todo result answer cancelled m' t hm ht' =>
    cases hh
    obtain ⟨hb, hd, hr⟩ := ht
    have he : ∀ input, request.operation ≠ .setBinding input := by simp [hr]
    -- a removal changes nothing in what is held
    have hc : Accounted m'.log ∧ Keeps s m m' ∧ Settled m' s := by
      rcases hm with rfl | rfl
      · exact ⟨ha.log, .refl, hs⟩
      · refine ⟨ha.log.cons (by simp) (by simp), ?_, settled_locked (ha.unregistered s) ho⟩
        exact keeps_write (fun _ _ => holdsBinding_acked he) fun _ _ => unremoved_acked he
    obtain ⟨hl, hk, hse⟩ := hc
    rcases ht' with ⟨err, rfl⟩ | ⟨hca, err, rfl⟩
    · refine .one hl hse ⟨hb.keeps hk, fun name hn => ?_⟩
      exact hd name ((hk.unremoved name).symm.trans hn)
    obtain rfl := hg hca
    refine .one hl hse ⟨hb.keeps hk, fun _ name => ?_⟩
    by_contra hne
    rw [hk.unremoved] at hne
    cases hd name (not_eq_false _ ▸ hne)
  | finished =>
    cases hh
    refine .one ?_ (settled_locked ?_ ?_) ?_
    · intro name
      simp only [finishDelete, write_log, setTerminal_log, dropState_log]
      exact ⟨fun hv => ht.2 hv name, ha.log name⟩
    · simpa [finishDelete] using ha.unregistered s
    · simpa [finishDelete] using ho
    · intro name hn
      simp only [finishDelete, write_log, setTerminal_log, dropState_log] at hn
      simpa [finishDelete] using ht.1 name hn
  | retired =>
    cases hh
    refine .one (by simpa using ha.log) (settled_locked ?_ ?_) ⟨?_, fun hv => absurd ht.2.1 hv⟩
    · simpa using ha.unregistered s
    · simpa using ho
    · simpa [Bound] using ht.1
  | retireSend =>
    cases hh
    exact .one (ha.log.cons (by simp) (by simp)) hs ⟨ht.1, ht.2.1, rfl⟩
  | retireAcked owner a g name todo request =>
    cases hh
    obtain ⟨hb, hv, hsa⟩ := ht
    have he : ∀ input, request.operation ≠ .setBinding input := by
      rw [show request.operation = .removeBinding from hsa]
      simp
    refine .one (ha.log.cons (by simp) (by simp)) (settled_locked (ha.unregistered s) ho)
      ⟨hb.keeps ?_, hv, trivial⟩
    exact keeps_write (fun _ _ => holdsBinding_acked he) fun _ _ => unremoved_acked he
  | retireGoesOn owner a g todo stage todo' stage' c hsa =>
    cases hh
    refine .one ha.log hs ⟨ht.1, ht.2.1, ?_⟩
    cases stage' with
    | wait request => exact absurd rfl (hsa request)
    | _ => trivial
  | retireFailed => cases hh; exact .one ha.log hs ht.1
  | _ => cases hh

theorem Turn.tracking (ho : TaskOk m t) (ha : Accounts m) (ht : Tracking m t)
    (hg : Remembered m t c) (h : Turn cfg m t c m' ts) :
    Accounted m'.log ∧ (∀ s, t.holds = some s → Settled m' s) ∧ ∀ t' ∈ ts, Tracking m' t' := by
  cases hh : t.holds with
  | some =>
    have hl := h.tracking_held ha (ho.of_holds hh).2 ht hg hh
    refine ⟨hl.log, fun _ hs' => ?_, hl.tasks⟩
    cases hs'
    exact hl.settled
  | none =>
    have hu : ∀ s, Unlogged s m m' := fun s => (h.outside (by simp [hh])).log
    exact ⟨accounted_of_unlogged hu ha.log, by simp, h.tracking_free ha hh⟩

/-- **Every section keeps the accounts**, from what it does to the state it holds and what
`Turn.outside` says about all others. -/
theorem Turn.accounts (hi : Inv m) (hk : TaskOk m t) (ha : Accounts m) (ht : Tracking m t)
    (hg : Remembered m t c) (h : Turn cfg m t c m' ts) : Accounts m' := by
  obtain ⟨hl, hhl, -⟩ := h.tracking hk ha ht hg
  have hp := (h.section hi hk).step
  refine ⟨hl, fun s hop => ?_, fun s hs name => ?_, fun s => ?_⟩
  · by_cases hh : t.holds = some s
    · exact (hhl s hh).2 hop
    have ho := h.outside hh
    by_cases hs : s < m.next
    · have hop0 : (m.heap s).op = true := by
        by_contra hne
        have := hp.op s hs (by simpa using hne) hh
        simp [hop] at this
      exact (ha.free s hop0).keeps (ho.keeps hs ht hg)
    · intro name hn
      rw [ho.log.holdsBinding, ha.fresh s (not_lt.mp hs)] at hn
      cases hn
  · have hle : m.next ≤ s := hp.next.trans hs
    have hh : t.holds ≠ some s := fun hh => hle.not_gt (hk.of_holds hh).1
    rw [(h.outside hh).log.holdsBinding]
    exact ha.fresh s hle name
  · by_cases hh : t.holds = some s
    · exact (hhl s hh).1
    · exact (h.outside hh).unregistered ht (ha.unregistered s)

end Sections

theorem removal_extension (cfg : Config) :
    System.Extension (system cfg) Remembered Inv TaskOk Apart Accounts Tracking where
  entry_holds := fun _ _ _ => trivial
  local_step := by
    intro m m' t c ts hi hk ha ht hg hd
    have hn := advance_turn hd
    exact ⟨hn.accounts hi hk ha ht hg, (hn.tracking hk ha ht hg).2.2⟩
  frame_step := by
    intro m m' t u c ts hi hk ho hc ha ht hu hg hd
    cases hh : u.holds with
    | none =>
      cases u with
      | register f s a g d sig => exact hu
      | retire owner a g todo stage => cases hh; trivial
      | _ => trivial
    | some s =>
      have hne : t.holds ≠ some s := fun ht => hc s ht hh
      exact hu.keeps hh (((advance_turn hd).outside hne).keeps (ho.of_holds hh).1 ht hg)

theorem accounts_init : Accounts ({} : Shared) where
  log := fun _ => trivial
  free := by simp [Bound, holdsBinding, holding]
  fresh := fun _ _ _ => rfl
  unregistered := fun _ _ => ⟨rfl, rfl⟩

/-- **Every Binding that was set is removed.** In every run in which no step makes a holder fall
out of `order` and the desired list, a convergence that returns without error leaves no Handler
outside its desired list with a Binding of its attachment, and a completed v1 Delete has sent
`REMOVE_BINDING` to every Handler that held one. -/
theorem bindings_accounted (cfg : Config) (w : World Shared Task)
    (h : (system cfg).Reaches Remembered init w) : Accounted w.shared.log := by
  have ho := (discipline cfg).extend (fun _ _ _ _ => trivial) (removal_extension cfg)
  exact (ho.reaches (.start ⟨inv_init, accounts_init⟩) h).inv.2.log

/-! ## A list that was applied in part and then replaced -/

namespace Example

/-- `egress` acknowledges its Binding, `audit` refuses, and the next list names `audit` only. The
second convergence succeeds, and the Delete that follows removes `audit`. -/
def partlyApplied : List (Event Call Choice) :=
  handlersReady ++ register 1 1 [⟨"egress", "allow", ""⟩, ⟨"audit", "full", ""⟩] ++
  go 1 7 ++ ack 1 ++ go 1 7 ++ nack 1 ++ go 1 2 ++
  register 1 2 [⟨"audit", "full", ""⟩] ++ go 1 7 ++ ack 1 ++ go 1 6 ++
  [.spawn (.delete "sb")] ++ go 1 4 ++ ack 1 ++ go 1 3

/-- Both acknowledge; the next list drops `egress`, which acknowledges its removal. -/
def fullyApplied : List (Event Call Choice) :=
  handlersReady ++ register 1 1 [⟨"egress", "allow", ""⟩, ⟨"audit", "full", ""⟩] ++
  go 1 7 ++ ack 1 ++ go 1 7 ++ ack 1 ++ go 1 6 ++
  register 1 2 [⟨"audit", "full", ""⟩] ++ go 1 6 ++ ack 1 ++ go 1 9 ++ ack 1 ++ go 1 6 ++
  [.spawn (.delete "sb")] ++ go 1 4 ++ ack 1 ++ go 1 3

end Example

theorem binding_left_behind :
    ¬ ∀ w, (system Example.config).Reaches System.anyStep init w → Accounted w.shared.log :=
  System.not_forall_reaches (fun w => decide (AccountedFor "egress" w.shared.log))
    (fun _ h => decide_eq_true (h "egress")) init Example.partlyApplied (by decide)

theorem bindings_removed : ∃ w, (system Example.config).Reaches Remembered init w ∧
      Entry.deleted 0 Example.attachment ∈ w.shared.log ∧ Accounted w.shared.log := by
  obtain ⟨w, hw, hd⟩ := System.exists_reaches_of_runMeeting (G := Remembered)
    (S := system Example.config) (w := init) Example.fullyApplied
    (fun w => decide (Entry.deleted 0 Example.attachment ∈ w.shared.log)) (by decide)
  exact ⟨w, hw, of_decide_eq_true hd, bindings_accounted _ w hw⟩

end FastSandbox.Action
