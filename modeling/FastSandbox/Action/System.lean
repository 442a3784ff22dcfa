import FastSandbox.Action.Manager

/-!
# The Action Manager's sections

`Point` is a place inside `convergeLocked`, `setBinding` and `invokeHook`, reached with the
operation lock held; `Task` is a place in any call. A remote call is two sections, one that sends
it and one that takes its answer, and every `state.mu` or `m.mu` section in between is its own.
-/

namespace FastSandbox.Action

open Function Interleaving

/-! ## Places -/

structure SetCall where
  handler : String
  input : Option String
  digest : String
  replayHooks : Bool

/-- The loop of `convergeLocked` that is running, with what is left of it. -/
inductive Loop
  | removals (todo : List String)
  | inputs (todo : List DesiredInput)
  | hooks (todo : List (HookCheckpoint × String))

/-- A place inside `convergeLocked`. `k` is the loop to go on with. -/
inductive Point
  | start
  | loop (r : Round) (k : Loop)
  | input (r : Round) (input : DesiredInput) (inst : Except String String) (k : Loop)
  | setRead (r : Round) (call : SetCall) (k : Loop)
  | setMark (r : Round) (call : SetCall) (inst : Except String String) (k : Loop)
  | setSend (r : Round) (call : SetCall) (inst : String) (k : Loop)
  | setWait (r : Round) (call : SetCall) (inst : String) (k : Loop)
  | setCheck (r : Round) (call : SetCall) (inst : String) (k : Loop)
  | setRecord (r : Round) (call : SetCall) (inst : String) (k : Loop)
  | forget (r : Round) (name : String) (k : Loop)
  | hookRead (r : Round) (checkpoint : HookCheckpoint) (name : String) (k : Loop)
  | hookMark (r : Round) (checkpoint : HookCheckpoint) (name inst : String) (k : Loop)
  | hookSend (r : Round) (checkpoint : HookCheckpoint) (name inst : String) (k : Loop)
  | hookWait (r : Round) (checkpoint : HookCheckpoint) (name inst digest : String) (k : Loop)
  | hookCheck (r : Round) (checkpoint : HookCheckpoint) (name inst : String) (k : Loop)
  | hookRecord (r : Round) (checkpoint : HookCheckpoint) (name inst : String) (k : Loop)
  | fail (name : String) (state : ActionState) (message err : String)
  | finish (r : Round)
  | park (r : Round)

inductive Caller
  | reconcile
  | reachHook
  | retryState
deriving DecidableEq

def Caller.func : Caller → Func
  | reconcile => .reconcile
  | reachHook => .reachHook
  | retryState => .retryState

structure HandlerStatus where
  apiVersion : String
  ready : Bool
  instanceID : String
  ownerStatus : Bool

inductive OwnerState
  | current
  | retired
  | absent

/-- The manager's entry points. A probe brings the answers of the Handlers' status calls. -/
inductive Call
  | reconcile (attachment : Attachment) (specGeneration : ℤ) (desired : List DesiredInput)
  | registerDesired (attachment : Attachment) (specGeneration : ℤ) (desired : List DesiredInput)
  | reachHook (sandboxUID : String) (attachment : Attachment) (hook : LifecycleHook) (sequence : ℤ)
  | recordHook (sandboxUID : String) (attachment : Attachment) (hook : LifecycleHook) (sequence : ℤ)
  | delete (sandboxUID : String)
  | deleteOwned (attachment : Attachment)
  | probe (answers : String → HandlerStatus × Option String)

/-- Where `deleteRemoteHandler` stands for the Handler at hand. -/
inductive Stage
  | observe
  | send
  | wait (request : Request)
  | readBack (err : String)

/-- A place in a call. From `converge` and `remove` on, and in `retire (some s)`, the operation
lock of `s` is held. -/
inductive Task
  | call (c : Call)
  | register (caller : Func) (s : Ref) (attachment : Attachment) (generation : ℤ)
      (desired : List DesiredInput) (signature : String)
  | record (caller : Func) (s : Ref) (attachment : Attachment) (hook : LifecycleHook) (sequence : ℤ)
  | reach (sandboxUID : String)
  | lock (caller : Caller) (s : Ref)
  | retryCheck (s : Ref)
  | converge (caller : Caller) (s : Ref) (p : Point)
  | delete (s : Ref)
  | deleteOwned (s : Ref) (attachment : Attachment)
  | deleteState (s : Ref) (expected : Attachment)
  | remove (s : Ref) (attachment : Attachment) (generation : ℤ) (todo : List String)
      (err : Option String)
  | removeWait (s : Ref) (attachment : Attachment) (generation : ℤ) (request : Request)
      (todo : List String) (err : Option String)
  | retire (owner : Option Ref) (attachment : Attachment) (generation : ℤ) (todo : List String)
      (stage : Stage)
  | finishDelete (s : Ref) (attachment : Attachment) (err : Option String)
  | unlock (f : Func) (s : Ref) (err : Option String)
  | probe (results : String → Option HandlerObservation) (todo : String → Option Ref)

/-- What the environment decides: nothing, that the context is done, the answer of a Handler
(with whether the context is done by then), an owner read-back, or the next state of a probe. -/
inductive Choice
  | go
  | cancel
  | answer (err : Option String) (cancelled : Bool)
  | owner (observed : Except String OwnerState)
  | state (sandboxUID : String)

/-! ## convergeLocked -/

inductive Outcome
  | next (p : Point)
  | return (err : Option String)

variable (cfg : Config) (m : Shared) (s : Ref) (r : Round)

/-- The start of `convergeLocked`: the snapshot, and an early return. -/
def convergeStart : Shared × Outcome :=
  let state := m.heap s
  let r : Round := {
    desired := state.desired
    generation := state.desiredGeneration
    attachment := state.attachment
    oldOrder := state.order }
  if r.generation ≤ 0 then (m.write (.converged s r), .return none)
  else if r.attachment.ip = "" then (m, .next (.park r))
  else (m, .next (.loop r (.removals r.oldOrder.reverse)))

variable (state : SandboxState)

/-- Has the Binding had this checkpoint applied? -/
def hookApplied (checkpoint : HookCheckpoint) (name : String) : Bool :=
  match state.bindings name with
  | none => false
  | some binding => decide (checkpoint.sequence ≤ binding.appliedHooks checkpoint.name)

/-- The head of a loop: pick the next item, or go on to the next loop. -/
def convergeLoop : Loop → Point
  | .removals [] => .loop r (.inputs r.desired)
  | .removals (name :: todo) =>
    if name ∈ bindingOrder r.desired then .loop r (.removals todo)
    else
      .setRead r { handler := name, input := none, digest := "sha256:removed",
                   replayHooks := false } (.removals todo)
  | .inputs [] =>
    .loop r (.hooks ((m.heap s).reachedHooks.flatMap fun checkpoint =>
      r.desired.map fun input => (checkpoint, input.handler)))
  | .inputs (input :: todo) => .input r input (m.handlerInstance input.handler) (.inputs todo)
  | .hooks [] => .finish r
  | .hooks ((checkpoint, name) :: todo) =>
    if !cfg.subscribes name checkpoint.name || hookApplied (m.heap s) checkpoint name then
      .loop r (.hooks todo)
    else .hookRead r checkpoint name (.hooks todo)

/-- One iteration over the desired inputs, after `handlerInstance` was read. -/
def convergeInput (input : DesiredInput)
    (inst : Except String String) (k : Loop) : Shared × Outcome :=
  let m := m.modify s fun state => state.ensureBinding input.handler
  match inst with
  | .error err => (m, .next (.fail input.handler .failed err err))
  | .ok instanceID =>
    let binding := ((m.heap s).bindings input.handler).getD (newBindingState input.handler)
    let needsSet := binding.appliedGeneration ≠ r.generation ∨ binding.digest ≠ input.digest ∨
      binding.attachmentID ≠ r.attachment.id ∨ binding.handlerInstanceID ≠ instanceID
    let replayHooks := binding.handlerInstanceID = "" ∨ binding.handlerInstanceID ≠ instanceID ∨
      binding.attachmentID ≠ r.attachment.id
    if needsSet then
      (m, .next (.setRead r { handler := input.handler, input := some input.input,
                              digest := input.digest, replayHooks := decide replayHooks } k))
    else (m, .next (.loop r k))

/-- The end of `convergeLocked`: every desired Binding is in place. -/
def convergeFinish : Shared :=
  let refreshed (state : SandboxState) : SandboxState :=
    { state with
      order := bindingOrder r.desired
      bindings := fun name =>
        if name ∈ bindingOrder r.desired then
          (state.bindings name).map (refreshBindingStatusLocked cfg state name)
        else state.bindings name }
  let allReady (state : SandboxState) : Bool := (bindingOrder r.desired).all fun name =>
    match state.bindings name with
    | none => false
    | some binding => binding.status.state = some .ready
  (m.modify s fun state =>
    let state := refreshed state
    if allReady state then { state with appliedGeneration := r.generation } else state).write
      (.converged s r)

/-! ## setBinding and invokeHook -/

def setRequest (call : SetCall) (inst : String) : Request where
  operation := .setBinding call.input
  handler := call.handler
  handlerInstance := inst
  generation := r.generation
  attachment := r.attachment
  digest := call.digest

def hookRequest (checkpoint : HookCheckpoint) (name inst digest : String) : Request where
  operation := .lifecycleHook checkpoint
  handler := name
  handlerInstance := inst
  generation := r.generation
  attachment := r.attachment
  digest := digest

/-- Does the state still stand at the revision the round was started for? -/
def current (r : Round) : Bool :=
  !state.terminating && decide (state.desiredGeneration = r.generation) &&
    decide (state.attachment.id = r.attachment.id)

/-- What an acknowledged `SetBinding` writes into the Binding. Without a replay the reached Hooks
are taken as applied. -/
def recordSet (r : Round) (call : SetCall) (inst : String)
    (binding : BindingState) : BindingState :=
  refreshBindingStatusLocked cfg state call.handler
    { binding with
      input := call.input.getD ""
      digest := call.digest
      appliedGeneration := r.generation
      attachmentID := r.attachment.id
      handlerInstanceID := inst
      status := { binding.status with appliedInputDigest := call.digest }
      appliedHooks :=
        if call.replayHooks then fun _ => 0
        else state.reachedHooks.foldl (fun applied checkpoint =>
          if cfg.subscribes call.handler checkpoint.name then
            update applied checkpoint.name checkpoint.sequence
          else applied) binding.appliedHooks }

/-- What an acknowledged lifecycle Hook writes into the Binding. -/
def recordApplied (checkpoint : HookCheckpoint)
    (name : String) (binding : BindingState) : BindingState :=
  refreshBindingStatusLocked cfg state name
    { binding with
      appliedHooks := update binding.appliedHooks checkpoint.name checkpoint.sequence }

/-- After `setBinding` succeeded: a removed Binding is forgotten, a set one is done. -/
def afterSet (call : SetCall) (k : Loop) : Outcome :=
  match call.input with
  | none => .next (.forget r call.handler k)
  | some _ => .next (.loop r k)

def setError (call : SetCall) (err : String) : String :=
  match call.input with
  | none => s!"remove live Action Binding {call.handler}: {err}"
  | some _ => s!"setBinding {call.handler}: {err}"

def hookError (checkpoint : HookCheckpoint) (name err : String) : String :=
  s!"lifecycle Hook {checkpoint.name.text} for {name}: {err}"

def obsoleteMessage (what : String) : String :=
  what ++ " result belongs to an obsolete Sandbox revision"

def restartedMessage (what : String) : String :=
  "Handler instance changed while " ++ what ++ " was in flight"

/-- The first section of `setBinding`: the Binding is being applied. -/
def markApplying (call : SetCall) (binding : BindingState) : BindingState :=
  let binding := setBindingStatus binding .applying ""
  { binding with status := { binding.status with
      observedSpecGeneration := r.generation
      desiredInputDigest := call.digest } }

/-- The first locked section of `setBinding`. -/
def setMark (call : SetCall) (inst : Except String String)
    (k : Loop) : Shared × Outcome :=
  let m := m.modify s fun state =>
    (state.ensureBinding call.handler).updateBinding call.handler (markApplying r call)
  match inst with
  | .error err => (m, .next (.fail call.handler .failed err (setError call err)))
  | .ok inst => (m, .next (.setSend r call inst k))

/-- The last locked section of `setBinding`. -/
def setRecord (call : SetCall) (inst : String)
    (k : Loop) : Shared × Outcome :=
  if current (m.heap s) r then
    (m.modify s fun state => state.updateBinding call.handler (recordSet cfg state r call inst),
      afterSet r call k)
  else
    (m.modify s fun state => state.updateBinding call.handler fun binding =>
        setBindingStatus binding .pending (obsoleteMessage "SetBinding"),
      .return (some (setError call (obsoleteMessage "SetBinding"))))

/-- Was the Binding set in this round through this Handler instance? -/
def bindingCurrent (r : Round) (name inst : String) : Bool :=
  match state.bindings name with
  | none => false
  | some binding =>
    decide (binding.appliedGeneration = r.generation) && decide (binding.handlerInstanceID = inst)

/-- The first locked section of `invokeHook`: the Binding must be current. -/
def hookMark (checkpoint : HookCheckpoint) (name inst : String)
    (k : Loop) : Shared × Outcome :=
  if bindingCurrent (m.heap s) r name inst then
    (m.modify s fun state => state.updateBinding name fun binding =>
        setBindingStatus binding .applying "", .next (.hookSend r checkpoint name inst k))
  else
    (m, .return (some (hookError checkpoint name "SetBinding is not current for lifecycle Hook")))

/-- The last locked section of `invokeHook`. -/
def hookRecord (checkpoint : HookCheckpoint)
    (name : String) (k : Loop) : Shared × Outcome :=
  if current (m.heap s) r then
    (m.modify s fun state => state.updateBinding name (recordApplied cfg state checkpoint name),
      .next (.loop r k))
  else
    (m.modify s fun state => state.updateBinding name fun binding =>
        setBindingStatus binding .pending (obsoleteMessage "Lifecycle Hook"),
      .return (some (hookError checkpoint name (obsoleteMessage "Lifecycle Hook"))))

def goPoint : Point → Option (Shared × Outcome)
  | .start => some (convergeStart m s)
  | .park r =>
    some ((m.modify s fun state => state.parkUnattachedBindings r.desired).write (.converged s r),
      .return none)
  | .loop r k => some (m, .next (convergeLoop cfg m s r k))
  | .input r input inst k => some (convergeInput m s r input inst k)
  | .setRead r call k => some (m, .next (.setMark r call (m.handlerInstance call.handler) k))
  | .setMark r call inst k => some (setMark m s r call inst k)
  | .setSend r call inst k =>
    some (m.write (.sent (some s) (setRequest r call inst)), .next (.setWait r call inst k))
  | .setCheck r call inst k =>
    if m.handlerInstance call.handler = .ok inst then some (m, .next (.setRecord r call inst k))
    else
      some (m, .next (.fail call.handler .pending (restartedMessage "SetBinding")
        (setError call (restartedMessage "SetBinding"))))
  | .setRecord r call inst k => some (setRecord cfg m s r call inst k)
  | .forget r name k =>
    some (m.modify s fun state =>
      { state with bindings := update state.bindings name none }, .next (.loop r k))
  | .hookRead r checkpoint name k =>
    match m.handlerInstance name with
    | .error err => some (m, .return (some (hookError checkpoint name err)))
    | .ok inst => some (m, .next (.hookMark r checkpoint name inst k))
  | .hookMark r checkpoint name inst k => some (hookMark m s r checkpoint name inst k)
  | .hookSend r checkpoint name inst k =>
    let digest := (((m.heap s).bindings name).map BindingState.digest).getD ""
    some (m.write (.sent (some s) (hookRequest r checkpoint name inst digest)),
      .next (.hookWait r checkpoint name inst digest k))
  | .hookCheck r checkpoint name inst k =>
    if m.handlerInstance name = .ok inst then some (m, .next (.hookRecord r checkpoint name inst k))
    else
      some (m, .next (.fail name .pending (restartedMessage "lifecycle Hook")
        (hookError checkpoint name (restartedMessage "lifecycle Hook"))))
  | .hookRecord r checkpoint name _ k => some (hookRecord cfg m s r checkpoint name k)
  | .fail name state message err =>
    some (m.modify s fun st => st.updateBinding name fun binding =>
      setBindingStatus binding state message, .return (some err))
  | .finish r => some (convergeFinish cfg m s r, .return none)
  | .setWait .. | .hookWait .. => none

def answerPoint (err : Option String) : Point → Option (Shared × Outcome)
  | .setWait r call inst k =>
    match err with
    | none =>
      some (m.write (.acked (some s) (setRequest r call inst)), .next (.setCheck r call inst k))
    | some err => some (m, .next (.fail call.handler .failed err (setError call err)))
  | .hookWait r checkpoint name inst digest k =>
    match err with
    | none =>
      some (m.write (.acked (some s) (hookRequest r checkpoint name inst digest)),
        .next (.hookCheck r checkpoint name inst k))
    | some err => some (m, .next (.fail name .failed err (hookError checkpoint name err)))
  | _ => none

/-! ## Entry points -/

def contextError : String := "context canceled"

/-- A call that ends with a result. -/
def finishCall (f : Func) (err : Option String) : Shared × List Task :=
  (m.write (.returned f err), [])

/-- The checks `Reconcile` and `RegisterDesired` make before they look at any state. -/
def checkRegistration (attachment : Attachment) (specGeneration : ℤ)
    (desired : List DesiredInput) : Except String (List DesiredInput × String) :=
  if specGeneration ≤ 0 ∨ attachment.sandboxUID = "" ∨ attachment.id = "" ∨
      attachment.runtimeInstanceID = "" then
    .error ("positive specGeneration, Sandbox UID, attachment ID, and runtime instance ID " ++
      "are required")
  else
    match cfg.validateAPIVersion attachment.apiVersion with
    | .error err => .error err
    | .ok _ => validateDesired cfg desired

/-- The first section of `Reconcile` and `RegisterDesired`. -/
def beginRegister (f : Func) (attachment : Attachment)
    (specGeneration : ℤ) (desired : List DesiredInput) : Shared × List Task :=
  match checkRegistration cfg attachment specGeneration desired with
  | .error err => finishCall m f (some err)
  | .ok (canonical, signature) =>
    match m.getOrCreateState attachment with
    | .error err => finishCall m f (some err)
    | .ok (m, s) => (m, [.register f s attachment specGeneration canonical signature])

/-- The checks of `RecordHook`. -/
def checkHook (sandboxUID : String) (attachment : Attachment) (sequence : ℤ) :
    Except String Unit :=
  if sequence ≤ 0 then .error "positive lifecycle sequence is required"
  else if sandboxUID = "" ∨ attachment.sandboxUID ≠ sandboxUID ∨ attachment.id = "" then
    .error "Sandbox UID and attachment ID are required for lifecycle Hook"
  else cfg.validateAPIVersion attachment.apiVersion

/-- The first section of `RecordHook` and `ReachHook`. -/
def beginRecord (f : Func) (sandboxUID : String)
    (attachment : Attachment) (hook : LifecycleHook) (sequence : ℤ) : Shared × List Task :=
  match checkHook cfg sandboxUID attachment sequence with
  | .error err => finishCall m f (some err)
  | .ok _ =>
    match m.getOrCreateState attachment with
    | .error err => finishCall m f (some err)
    | .ok (m, s) => (m, [.record f s attachment hook sequence])

def beginDelete (sandboxUID : String) : Shared × List Task :=
  match m.states sandboxUID with
  | none => finishCall m .delete none
  | some s => (m, [.delete s])

/-- The Handlers in the order `deleteRemoteOwner` visits them. -/
def retireOrder : List String := (cfg.handlers.map ActionHandler.name).reverse

def beginDeleteOwned (attachment : Attachment) : Shared × List Task :=
  match cfg.validateAPIVersion attachment.apiVersion with
  | .error err => finishCall m .delete (some err)
  | .ok _ =>
    if cfg.apiVersion = apiVersionV1 then beginDelete m attachment.sandboxUID
    else if !(ownerFromAttachment attachment).valid then
      finishCall m .delete (some "Actions v2 Delete requires a complete Sandbox owner")
    else
      match m.states attachment.sandboxUID with
      | none => (m, [.retire none attachment 0 (retireOrder cfg) .observe])
      | some s => (m, [.deleteOwned s attachment])

/-- What the manager makes of one Handler's status answer. -/
def probeObservation (cfg : Config) (answer : HandlerStatus × Option String) :
    HandlerObservation where
  instanceID := answer.1.instanceID
  err :=
    match answer.2 with
    | some err => some err
    | none =>
      if answer.1.apiVersion ≠ cfg.apiVersion then
        some (s!"Action Handler apiVersion \"{answer.1.apiVersion}\" does not match " ++
          s!"configured \"{cfg.apiVersion}\"")
      else if !answer.1.ready then some "Action Handler is not ready"
      else if cfg.apiVersion = apiVersionV2 ∧ !answer.1.ownerStatus then
        some "Action Handler does not support owner-aware Actions v2"
      else none

/-- The section of `probe` that publishes the observations and snapshots the states. -/
def beginProbe (answers : String → HandlerStatus × Option String) :
    Shared × List Task :=
  let results (name : String) : Option HandlerObservation :=
    (cfg.byName name).map fun _ => probeObservation cfg (answers name)
  ({ m with observed := fun name => (results name).or (m.observed name) },
    [.probe results m.states])

def beginCall : Call → Shared × List Task
  | .reconcile attachment generation desired =>
    beginRegister cfg m .reconcile attachment generation desired
  | .registerDesired attachment generation desired =>
    beginRegister cfg m .registerDesired attachment generation desired
  | .reachHook uid attachment hook sequence =>
    beginRecord cfg m .reachHook uid attachment hook sequence
  | .recordHook uid attachment hook sequence =>
    beginRecord cfg m .recordHook uid attachment hook sequence
  | .delete uid => beginDelete m uid
  | .deleteOwned attachment => beginDeleteOwned cfg m attachment
  | .probe answers => beginProbe cfg m answers

/-! ## Deletion -/

/-- `deleteState` once it holds the operation lock. -/
def beginDeleteState (expected : Attachment) :
    Shared × List Task :=
  let state := m.heap s
  let attachment := state.attachment
  let generation := state.desiredGeneration
  let locked := m.modify s fun state => { state with op := false }
  if !sameOwner attachment expected then
    (locked, [.unlock .delete s (some "Delete owner changed while waiting for Action operations")])
  else if state.terminating ∧ effectiveAPIVersion expected.apiVersion ≠ apiVersionV2 then
    (locked, [.unlock .delete s none])
  else
    let m := m.modify s fun state => { state with op := false, terminating := true }
    if effectiveAPIVersion attachment.apiVersion = apiVersionV2 then
      (m, [.retire (some s) attachment generation (retireOrder cfg) .observe])
    else (m, [.remove s attachment generation state.removalOrder.reverse none])

def removeRequest (attachment : Attachment) (generation : ℤ) (name inst : String) : Request where
  operation := .removeBinding
  handler := name
  handlerInstance := inst
  generation := generation
  attachment := attachment
  digest := ""

/-- The instance a `REMOVE_BINDING` is stamped with: empty when the Handler is not ready. -/
def stampedInstance (name : String) : String :=
  match m.handlerInstance name with
  | .ok inst => inst
  | .error _ => ""

/-- `errors.Join`. -/
def joinErr (result : Option String) (err : String) : Option String :=
  match result with
  | none => some err
  | some text => some (text ++ "\n" ++ err)

/-- How `deleteRemoteOwner` ends when a Handler cannot be retired. -/
def retireFailed (owner : Option Ref) (err : String) : Shared × List Task :=
  match owner with
  | none => finishCall m .delete (some err)
  | some s => (m, [.unlock .delete s (some err)])

/-- A section of `deleteRemoteHandler` that sends `REMOVE_BINDING`, or the end of
`deleteRemoteOwner`. -/
def goRetire (owner : Option Ref) (attachment : Attachment) (generation : ℤ) :
    List String → Stage → Option (Shared × List Task)
  | [], _ =>
    let m := m.setTerminal attachment.sandboxUID attachment
    match owner with
    | none => some (finishCall m .delete none)
    | some s => some (m, [.finishDelete s attachment none])
  | name :: todo, .send =>
    let request := removeRequest attachment generation name (stampedInstance m name)
    some (m.write (.sent owner request),
      [.retire owner attachment generation (name :: todo) (.wait request)])
  | _, _ => none

/-- The answer to the `REMOVE_BINDING` of `deleteRemoteHandler`. -/
def answerRetire (owner : Option Ref) (attachment : Attachment) (generation : ℤ)
    (err : Option String) : List String → Stage → Option (Shared × List Task)
  | name :: todo, .wait request =>
    match err with
    | none =>
      some (m.write (.acked owner request), [.retire owner attachment generation todo .observe])
    | some err => some (m, [.retire owner attachment generation (name :: todo) (.readBack err)])
  | _, _ => none

/-- The owner read-backs of `deleteRemoteHandler`, before and after `REMOVE_BINDING`. -/
def ownerRetire (m : Shared) (owner : Option Ref) (attachment : Attachment) (generation : ℤ)
    (observed : Except String OwnerState) : List String → Stage → Option (Shared × List Task)
  | name :: todo, .observe =>
    match observed with
    | .error err =>
      some (retireFailed m owner s!"read back Action Handler {name} owner before REMOVE: {err}")
    | .ok .retired => some (m, [.retire owner attachment generation todo .observe])
    | .ok _ => some (m, [.retire owner attachment generation (name :: todo) .send])
  | name :: todo, .readBack err =>
    match observed with
    | .error readErr =>
      some (retireFailed m owner
        (s!"REMOVE_BINDING for {name} has unknown outcome: {err}" ++ "\n" ++ readErr))
    | .ok .retired => some (m, [.retire owner attachment generation todo .observe])
    | .ok _ =>
      some (retireFailed m owner
        s!"REMOVE_BINDING for {name} remains pending after owner read-back: {err}")
  | _, _ => none

/-! ## The system -/

def goRegister (f : Func) (s : Ref) (attachment : Attachment) (generation : ℤ)
    (desired : List DesiredInput) (signature : String) : Shared × List Task :=
  match (m.heap s).registerDesired attachment generation desired signature with
  | .error err => finishCall m f (some err)
  | .ok state =>
    let m := m.modify s fun _ => state
    if f = .reconcile then (m, [.lock .reconcile s])
    else (m.write (.returned f none), [.lock .retryState s])

def goRecord (f : Func) (s : Ref) (attachment : Attachment)
    (hook : LifecycleHook) (sequence : ℤ) : Shared × List Task :=
  let result := (m.heap s).recordHook cfg attachment hook sequence
  let m := m.modify s fun _ => result.1
  match result.2 with
  | some err => finishCall m f (some err)
  | none =>
    if f = .reachHook then (m, [.reach attachment.sandboxUID, .lock .retryState s])
    else (m.write (.returned f none), [.lock .retryState s])

/-- `lockOperations`, when the token is there. -/
def goLock (caller : Caller) (s : Ref) : Shared × List Task :=
  let m := m.modify s fun state => { state with op := false }
  if caller = .retryState then (m, [.retryCheck s]) else (m, [.converge caller s .start])

/-- What a section of `convergeLocked` leads to. -/
def afterPoint (caller : Caller) (s : Ref) : Outcome → List Task
  | .next p => [.converge caller s p]
  | .return err => [.unlock caller.func s err]

/-- Run a task's next section, when it needs nothing from the environment. -/
def goTask : Task → Option (Shared × List Task)
  | .call c => some (beginCall cfg m c)
  | .register f s attachment generation desired signature =>
    some (goRegister m f s attachment generation desired signature)
  | .record f s attachment hook sequence => some (goRecord cfg m f s attachment hook sequence)
  | .reach uid =>
    match m.states uid with
    -- without a state the source dereferences nil: the call does not return
    | none => some (m, [])
    | some s => some (m, [.lock .reachHook s])
  | .lock caller s => if (m.heap s).op then some (goLock m caller s) else none
  | .retryCheck s =>
    if (m.heap s).terminating then some (m, [.unlock .retryState s none])
    else some (m, [.converge .retryState s .start])
  | .converge caller s p => (goPoint cfg m s p).map fun (m, o) => (m, afterPoint caller s o)
  | .delete s => some (m, [.deleteState s (m.heap s).attachment])
  | .deleteOwned s attachment =>
    if sameOwner (m.heap s).attachment attachment then some (m, [.deleteState s attachment])
    else some (finishCall m .delete (some "Delete targets a stale Sandbox owner"))
  | .deleteState s expected =>
    if (m.heap s).op then some (beginDeleteState cfg m s expected) else none
  | .remove s attachment _ [] err => some (m, [.finishDelete s attachment err])
  | .remove s attachment generation (name :: todo) err =>
    let request := removeRequest attachment generation name (stampedInstance m name)
    some (m.write (.sent (some s) request), [.removeWait s attachment generation request todo err])
  | .retire owner attachment generation todo stage =>
    goRetire m owner attachment generation todo stage
  | .finishDelete s attachment err =>
    some (m.finishDelete attachment.sandboxUID s attachment, [.unlock .delete s err])
  | .unlock f s err =>
    some ((m.modify s fun state => { state with op := true }).write (.returned f err), [])
  | .removeWait .. | .probe .. => none

/-- Give up waiting for the operation lock. -/
def cancelTask : Task → Option (Shared × List Task)
  | .lock caller _ => some (finishCall m caller.func (some contextError))
  | .deleteState _ _ => some (finishCall m .delete (some contextError))
  | _ => none

/-- One answered `REMOVE_BINDING` of the v1 `deleteState`. -/
def answerRemove (attachment : Attachment) (generation : ℤ)
    (request : Request) (todo : List String) (result err : Option String) (cancelled : Bool) :
    Shared × List Task :=
  let m := if err.isNone then m.write (.acked (some s) request) else m
  let result := match err with
    | none => result
    | some err => joinErr result err
  if cancelled then (m, [.finishDelete s attachment (joinErr result contextError)])
  else (m, [.remove s attachment generation todo result])

def answerTask (err : Option String) (cancelled : Bool) :
    Task → Option (Shared × List Task)
  | .converge caller s p => (answerPoint m s err p).map fun (m, o) => (m, afterPoint caller s o)
  | .removeWait s attachment generation request todo result =>
    some (answerRemove m s attachment generation request todo result err cancelled)
  | .retire owner attachment generation todo stage =>
    answerRetire m owner attachment generation err todo stage
  | _ => none

/-- Go on with the next state of a probe. -/
def probeTask (uid : String) : Task → Option (Shared × List Task)
  | .probe results todo =>
    match todo uid with
    | none => none
    | some s =>
      some (m.modify s (SandboxState.probeBindings results),
        [.probe results (update todo uid none), .lock .retryState s])
  | _ => none

def advance (t : Task) : Choice → Option (Shared × List Task)
  | .go => goTask cfg m t
  | .cancel => cancelTask m t
  | .answer err cancelled => answerTask m err cancelled t
  | .owner observed =>
    match t with
    | .retire owner attachment generation todo stage =>
      ownerRetire m owner attachment generation observed todo stage
    | _ => none
  | .state uid => probeTask m uid t

def system : System Shared Task Call Choice where
  entry := .call
  advance := advance cfg

def init : World Shared Task := ⟨{}, []⟩

/-! ## Executable runs -/

namespace Example

/-- The next `n` sections of the `i`-th task. -/
def go (i : ℕ) (n : ℕ) : List (Event Call Choice) := List.replicate n (.run i .go)

/-- The Handler acknowledges the invocation the `i`-th task waits for. -/
def ack (i : ℕ) : List (Event Call Choice) := [.run i (.answer none false)]

/-- The Handler refuses it. -/
def nack (i : ℕ) : List (Event Call Choice) := [.run i (.answer (some "HTTP 503") false)]

/-- One v1 Handler `egress` and one `audit`, both subscribed to the runtime checkpoint. -/
def config : Config where
  handlers := [⟨"egress", [.runtimeReady]⟩, ⟨"audit", [.runtimeReady]⟩]
  apiVersion := apiVersionV1
  sha256 := id
  names_nodup := by decide
  version_supported := .inl rfl

/-- The first attachment of Sandbox `sb`. -/
def attachment : Attachment where
  id := "att-1"
  sandboxUID := "sb"
  fastletPodUID := "pod-1"
  instanceGeneration := 1
  assignmentAttempt := 1
  runtimeInstanceID := "rt-1"
  routeGeneration := 1
  ip := "10.0.0.2"

/-- A probe that finds every Handler ready. -/
def handlersReady : List (Event Call Choice) :=
  [.spawn (.probe fun _ => (⟨apiVersionV1, true, "boot-1", true⟩, none)), .run 0 .go]

/-- Register a desired list and let the background `retryState` take the lock; the registration
is task `i`. -/
def register (i : ℕ) (generation : ℤ) (desired : List DesiredInput) : List (Event Call Choice) :=
  .spawn (.registerDesired attachment generation desired) :: go i 4

end Example

end FastSandbox.Action
