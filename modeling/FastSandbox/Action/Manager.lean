import Mathlib.Data.List.Sort
import FastSandbox.Lib.Interleaving
import FastSandbox.Action.Types

/-!
# The Action Manager

Every function of the manager is cut at the places where it takes or drops a lock or waits for a
Handler. `Task` lists these places and `advance` runs the section that follows, so a run of
`system` is an interleaving of `Reconcile`, `RegisterDesired`, `RecordHook`, `ReachHook`,
`Delete`, `DeleteOwned`, the probe loop and the background `retryState` goroutines.

Per-Sandbox states are shared by reference: a caller keeps the state it looked up even after the
manager has dropped it from its map. `log` records what the Handlers see and what calls return.
-/

namespace FastSandbox.Action

open Function

/-- The address of a per-Sandbox state. -/
abbrev Ref := ℕ

structure HandlerObservation where
  instanceID : String
  err : Option String

inductive Operation
  | setBinding (input : Option String)
  | lifecycleHook (checkpoint : HookCheckpoint)
  | removeBinding
deriving DecidableEq

/-- An invocation, with the Handler instance and digest that its invocation id is made from. -/
structure Request where
  operation : Operation
  (handler handlerInstance : String)
  generation : ℤ
  attachment : Attachment
  digest : String
deriving DecidableEq

/-- What `convergeLocked` reads before it starts. -/
structure Round where
  desired : List DesiredInput
  generation : ℤ
  attachment : Attachment
  oldOrder : List String
deriving DecidableEq

inductive Func
  | reconcile
  | registerDesired
  | reachHook
  | recordHook
  | retryState
  | delete
deriving DecidableEq

/-- What can be observed of a run. `owner` is the state on whose behalf an invocation is sent;
`DeleteOwned` may send one for a Sandbox that has no state. -/
inductive Entry
  | sent (owner : Option Ref) (request : Request)
  | acked (owner : Option Ref) (request : Request)
  | converged (s : Ref) (round : Round)
  | deleted (s : Ref) (attachment : Attachment)
  | returned (f : Func) (err : Option String)
deriving DecidableEq

/-- The manager's maps, the states they point to, and the log. -/
structure Shared where
  states : String → Option Ref := fun _ => none
  heap : Ref → SandboxState := fun _ => {}
  next : Ref := 0
  terminal : String → Option Attachment := fun _ => none
  observed : String → Option HandlerObservation := fun _ => none
  log : List Entry := []

namespace Shared

variable (m : Shared) (uid : String) (s : Ref)

variable (f : SandboxState → SandboxState)

def modify : Shared := { m with heap := update m.heap s (f (m.heap s)) }

def write (e : Entry) : Shared := { m with log := e :: m.log }

@[simp] theorem modify_heap_self : (m.modify s f).heap s = f (m.heap s) := update_self ..

theorem modify_heap_of_ne {s s' : Ref} (f : SandboxState → SandboxState)
    (h : s' ≠ s) : (m.modify s f).heap s' = m.heap s' := update_of_ne h ..

theorem forall_modify {m : Shared} {s : Ref} {f : SandboxState → SandboxState}
    {P : Ref → SandboxState → Prop} (hl : P s (f (m.heap s)))
    (hot : ∀ s', s' ≠ s → P s' (m.heap s')) (s' : Ref) : P s' ((m.modify s f).heap s') := by
  by_cases hs : s' = s
  · subst hs
    rw [modify_heap_self]
    exact hl
  · rw [modify_heap_of_ne _ _ hs]
    exact hot s' hs

theorem modify_self : m.modify s (fun _ => m.heap s) = m := by
  unfold modify
  rw [update_eq_self]

@[simp] theorem modify_log : (m.modify s f).log = m.log := rfl

@[simp] theorem write_heap (e : Entry) : (m.write e).heap = m.heap := rfl

@[simp] theorem write_log (e : Entry) : (m.write e).log = e :: m.log := rfl

/-- The Handler instance the last probe saw, if it was ready. -/
def handlerInstance (m : Shared) (name : String) : Except String String :=
  match m.observed name with
  | none => .error s!"action Handler {name} has not reported Ready"
  | some observation =>
    match observation.err with
    | some err => .error s!"action Handler {name} is unavailable: {err}"
    | none =>
      if observation.instanceID = "" then
        .error s!"action Handler {name} has not reported Ready"
      else .ok observation.instanceID

/-- Is the attachment at or before the terminal fence of its Sandbox? -/
def isTerminal (attachment : Attachment) : Bool :=
  match m.terminal attachment.sandboxUID with
  | none => false
  | some terminalAttachment => !attachmentAfter attachment terminalAttachment

/-- Map a Sandbox to a state made by `newSandboxState`. -/
def newState (sandboxUID : String) : Shared :=
  { m with
    states := update m.states sandboxUID (some m.next)
    heap := update m.heap m.next {}
    next := m.next + 1 }

@[simp] theorem newState_states_self : (m.newState uid).states uid = some m.next := update_self ..

theorem newState_states_of_ne {uid uid' : String} (h : uid' ≠ uid) :
    (m.newState uid).states uid' = m.states uid' := update_of_ne h ..

@[simp] theorem newState_heap_self : (m.newState uid).heap m.next = {} := update_self ..

theorem newState_heap_of_ne {s : Ref} (h : s ≠ m.next) :
    (m.newState uid).heap s = m.heap s := update_of_ne h ..

/-- Look up the state of a Sandbox, or make one unless the attachment is already terminal. -/
def getOrCreateState (attachment : Attachment) : Except String (Shared × Ref) :=
  if m.isTerminal attachment then
    .error "Action Binding state is terminal for this runtime attachment"
  else
    match m.states attachment.sandboxUID with
    | some s => .ok (m, s)
    | none => .ok (m.newState attachment.sandboxUID, m.next)

/-- Raise the terminal fence of a Sandbox. -/
def setTerminal (sandboxUID : String) (attachment : Attachment) : Shared :=
  match m.terminal sandboxUID with
  | none => { m with terminal := update m.terminal sandboxUID (some attachment) }
  | some current =>
    if attachmentAfter attachment current then
      { m with terminal := update m.terminal sandboxUID (some attachment) }
    else m

@[simp] theorem setTerminal_states (a : Attachment) :
    (m.setTerminal uid a).states = m.states := by
  unfold setTerminal
  split
  · rfl
  · split <;> rfl

@[simp] theorem setTerminal_heap (a : Attachment) :
    (m.setTerminal uid a).heap = m.heap := by
  unfold setTerminal
  split
  · rfl
  · split <;> rfl

@[simp] theorem setTerminal_next (a : Attachment) :
    (m.setTerminal uid a).next = m.next := by
  unfold setTerminal
  split
  · rfl
  · split <;> rfl

@[simp] theorem setTerminal_log (a : Attachment) :
    (m.setTerminal uid a).log = m.log := by
  unfold setTerminal
  split
  · rfl
  · split <;> rfl

def dropState (sandboxUID : String) (s : Ref) : Shared :=
  if m.states sandboxUID = some s then
    { m with states := update m.states sandboxUID none }
  else m

/-- `finishDelete`: forget the state and raise the terminal fence. -/
def finishDelete (sandboxUID : String) (s : Ref) (attachment : Attachment) : Shared :=
  ((m.dropState sandboxUID s).setTerminal sandboxUID attachment).write (.deleted s attachment)

@[simp] theorem dropState_heap :
    (m.dropState uid s).heap = m.heap := by
  unfold dropState
  split <;> rfl

@[simp] theorem dropState_next :
    (m.dropState uid s).next = m.next := by
  unfold dropState
  split <;> rfl

@[simp] theorem dropState_terminal :
    (m.dropState uid s).terminal = m.terminal := by
  unfold dropState
  split <;> rfl

@[simp] theorem dropState_log :
    (m.dropState uid s).log = m.log := by
  unfold dropState
  split <;> rfl

theorem dropState_states_of_ne {uid uid' : String} {s s' : Ref} (hne : s' ≠ s)
    (h : m.states uid' = some s') : (m.dropState uid s).states uid' = some s' := by
  unfold dropState
  split
  · rename_i hs
    have hu : uid' ≠ uid := by
      rintro rfl
      rw [hs] at h
      exact hne (Option.some.inj h).symm
    exact (update_of_ne hu ..).trans h
  · exact h

theorem dropState_states_sub {uid uid' : String} {s s' : Ref}
    (h : (m.dropState uid s).states uid' = some s') : m.states uid' = some s' := by
  unfold dropState at h
  split at h
  · by_cases hu : uid' = uid
    · subst hu
      simp at h
    · exact (update_of_ne hu ..).symm.trans h
  · exact h

end Shared

namespace SandboxState

variable (state : SandboxState)

def updateBinding (name : String) (f : BindingState → BindingState) :
    SandboxState :=
  { state with bindings := update state.bindings name ((state.bindings name).map f) }

/-- Make sure a Handler has a Binding record. -/
def ensureBinding (name : String) : SandboxState :=
  match state.bindings name with
  | some _ => state
  | none => { state with bindings := update state.bindings name (some (newBindingState name)) }

/-- Forget what has been applied through any Handler instance. -/
def resetBinding (binding : BindingState) : BindingState :=
  { binding with handlerInstanceID := "", appliedHooks := fun _ => 0 }

/-- `registerDesired`: replace the desired list, unless it is stale. -/
def registerDesired (attachment : Attachment) (generation : ℤ)
    (desired : List DesiredInput) (signature : String) : Except String SandboxState :=
  if state.terminating then .error "Action Binding state is terminating"
  else if state.desiredGeneration > generation ∨
      (state.desiredGeneration = generation ∧ state.desiredSignature ≠ "" ∧
        state.desiredSignature ≠ signature) then
    .error s!"action Binding request is stale or conflicts at Sandbox generation {generation}"
  else
    let accept (state : SandboxState) : SandboxState :=
      { state with
        attachment := attachment
        desired := desired
        desiredGeneration := generation
        desiredSignature := signature }
    if state.attachment.id ≠ "" ∧ state.attachment.id ≠ attachment.id then
      if attachmentAfter attachment state.attachment then
        .ok (accept { state with
          reachedHooks := []
          bindings := fun name => (state.bindings name).map resetBinding })
      else .error "Action Binding request targets a stale runtime attachment"
    else .ok (accept state)

/-- Set the sequence of the first checkpoint of a Hook. -/
def raiseHook (hook : LifecycleHook) (sequence : ℤ) : List HookCheckpoint → List HookCheckpoint
  | [] => []
  | checkpoint :: rest =>
    if checkpoint.name = hook then { checkpoint with sequence := sequence } :: rest
    else checkpoint :: raiseHook hook sequence rest

/-- The locked section of `RecordHook`: the new state and the error. -/
def recordHook (cfg : Config) (state : SandboxState) (attachment : Attachment)
    (hook : LifecycleHook) (sequence : ℤ) : SandboxState × Option String :=
  if state.terminating then (state, some "Action Binding state is terminating")
  else if state.attachment.id ≠ "" ∧ state.attachment.id ≠ attachment.id then
    (state, some "lifecycle Hook targets a stale runtime attachment")
  else
    let state := if state.attachment.id = "" then { state with attachment := attachment } else state
    let mark (name : String) (binding : BindingState) : BindingState :=
      if cfg.subscribes name hook && decide (binding.appliedHooks hook < sequence) then
        setBindingStatus binding .pending s!"Lifecycle Hook {hook.text} is pending"
      else binding
    match state.reachedHooks.find? fun checkpoint => checkpoint.name = hook with
    | some checkpoint =>
      if sequence < checkpoint.sequence then (state, some "lifecycle Hook sequence is stale")
      else
        ({ state with
          reachedHooks := raiseHook hook sequence state.reachedHooks
          bindings := fun name => (state.bindings name).map (mark name) }, none)
    | none =>
      ({ state with
        reachedHooks := List.insertionSort (fun left right => left.sequence ≤ right.sequence)
          (state.reachedHooks ++ [{ name := hook, sequence := sequence }])
        bindings := fun name => (state.bindings name).map (mark name) }, none)

/-- `parkUnattachedBindings`: the desired Bindings stay Pending until there is an address. -/
def parkUnattachedBindings (state : SandboxState) : List DesiredInput → SandboxState
  | [] => state
  | input :: rest =>
    parkUnattachedBindings
      ((state.ensureBinding input.handler).updateBinding input.handler fun binding =>
        setBindingStatus binding .pending
          "network attachment has no IP; SetBinding is deferred until the runtime network exists")
      rest

/-- The order in which `deleteState` removes Bindings, before it is reversed. -/
def removalOrder : List String :=
  state.desired.foldl (fun order input =>
    match state.bindings input.handler with
    | some binding =>
      if 0 < binding.appliedGeneration ∧ input.handler ∉ order then order ++ [input.handler]
      else order
    | none => order) state.order

def probeBindings (results : String → Option HandlerObservation) (state : SandboxState) :
    SandboxState :=
  { state with bindings := fun name => (state.bindings name).map fun binding =>
      match results name with
      | none => binding
      | some result =>
        if binding.handlerInstanceID = "" then binding
        else
          match result.err with
          | some err =>
            setBindingStatus (resetBinding binding) .failed s!"Action Handler is unavailable: {err}"
          | none =>
            if binding.handlerInstanceID ≠ result.instanceID then
              setBindingStatus (resetBinding binding) .pending
                "Action Handler restarted; SetBinding and reached Hooks will be replayed"
            else binding }

end SandboxState

end FastSandbox.Action
