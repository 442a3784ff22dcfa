import Mathlib.Data.Prod.Lex

/-!
# Sandbox Actions: protocol and per-Sandbox state

The data of the Fastlet's Action Manager: the declared Handlers, the runtime attachment a Binding
is delivered for, and the state kept for each Sandbox. Sizes are counted in bytes as the source
does, and the digest of an input is taken by the `sha256` of the configuration. Timestamps and
log lines are left out.
-/

namespace FastSandbox.Action

/-- The version a Handler speaks when the Sandbox names none. -/
def apiVersionV1 : String := "sandbox.fast.io/actions/v1"

/-- The owner-aware version. -/
def apiVersionV2 : String := "sandbox.fast.io/actions/v2"

inductive LifecycleHook
  | runtimeReady
  | dataPlaneReady
deriving DecidableEq

def LifecycleHook.text : LifecycleHook → String
  | runtimeReady => "sandbox.runtime-ready"
  | dataPlaneReady => "sandbox.data-plane-ready"

/-- An Action Handler declared by the Pool. -/
structure ActionHandler where
  name : String
  hooks : List LifecycleHook

/-- The configuration `NewManagerWithAPIVersion` accepts: Handler names are unique and the
version is one of the two supported ones. -/
structure Config where
  handlers : List ActionHandler
  apiVersion : String
  sha256 : String → String
  names_nodup : (handlers.map ActionHandler.name).Nodup
  version_supported : apiVersion = apiVersionV1 ∨ apiVersion = apiVersionV2

/-- The declared Handler of a name, `m.byName[name]`. -/
def Config.byName (cfg : Config) (name : String) : Option ActionHandler :=
  cfg.handlers.find? fun handler => handler.name = name

def Config.subscribes (cfg : Config) (handlerName : String) (hook : LifecycleHook) : Bool :=
  match cfg.byName handlerName with
  | none => false
  | some handler => handler.hooks.contains hook

/-! ## Attachments -/

/-- The runtime attachment that Bindings and Hooks are delivered for. -/
structure Attachment where
  (id apiVersion sandboxUID fastletPodUID sandboxName sandboxNamespace : String := "")
  (instanceGeneration assignmentAttempt : ℤ := 0)
  runtimeInstanceID : String := ""
  routeGeneration : ℤ := 0
  (ip gateway privateCIDR hostVeth : String := "")
deriving DecidableEq

def effectiveAPIVersion (version : String) : String :=
  if version = "" then apiVersionV1 else version

/-- The manager's version check of a request. -/
def Config.validateAPIVersion (cfg : Config) (version : String) : Except String Unit :=
  let version := effectiveAPIVersion version
  if version ≠ cfg.apiVersion then
    .error (s!"Sandbox Action apiVersion \"{version}\" does not match " ++
      s!"Fastlet Handler apiVersion \"{cfg.apiVersion}\"")
  else .ok ()

/-- The runtime fence carried on Actions v2. -/
structure Owner where
  (sandboxUID fastletPodUID runtimeInstanceID : String)
  (instanceGeneration assignmentAttempt routeGeneration : ℤ)
  attachmentID : String
deriving DecidableEq

def Owner.valid (o : Owner) : Bool :=
  o.sandboxUID ≠ "" && o.fastletPodUID ≠ "" && o.runtimeInstanceID ≠ "" &&
    0 < o.instanceGeneration && 0 < o.assignmentAttempt && 0 < o.routeGeneration &&
    o.attachmentID ≠ ""

def ownerFromAttachment (attachment : Attachment) : Owner where
  sandboxUID := attachment.sandboxUID
  fastletPodUID := attachment.fastletPodUID
  runtimeInstanceID := attachment.runtimeInstanceID
  instanceGeneration := attachment.instanceGeneration
  assignmentAttempt := attachment.assignmentAttempt
  routeGeneration := attachment.routeGeneration
  attachmentID := attachment.id

def sameOwner (left right : Attachment) : Bool :=
  effectiveAPIVersion left.apiVersion = effectiveAPIVersion right.apiVersion &&
    ownerFromAttachment left = ownerFromAttachment right

def attachmentAfter (candidate current : Attachment) : Bool :=
  if candidate.instanceGeneration ≠ current.instanceGeneration then
    current.instanceGeneration < candidate.instanceGeneration
  else if candidate.assignmentAttempt ≠ current.assignmentAttempt then
    current.assignmentAttempt < candidate.assignmentAttempt
  else if candidate.routeGeneration ≠ current.routeGeneration then
    current.routeGeneration < candidate.routeGeneration
  else false

/-- The fences of an attachment in the order `attachmentAfter` compares them. -/
def Attachment.rank (a : Attachment) : ℤ ×ₗ ℤ ×ₗ ℤ :=
  toLex (a.instanceGeneration, toLex (a.assignmentAttempt, a.routeGeneration))

/-- **Attachments are ordered by their fences.** -/
theorem attachmentAfter_iff_rank_lt (candidate current : Attachment) :
    attachmentAfter candidate current ↔ current.rank < candidate.rank := by
  unfold attachmentAfter Attachment.rank
  simp only [Prod.Lex.toLex_lt_toLex]
  split_ifs
  · rw [decide_eq_true_eq]
    omega
  · rw [decide_eq_true_eq]
    omega
  · rw [decide_eq_true_eq]
    omega
  · simp only [false_iff]
    omega

theorem attachmentAfter_of_not_after {candidate fence old : Attachment}
    (h : attachmentAfter candidate fence) (hold : ¬ attachmentAfter old fence) :
    attachmentAfter candidate old := by
  rw [attachmentAfter_iff_rank_lt] at *
  exact lt_of_le_of_lt (not_lt.mp hold) h

/-! ## Binding and Sandbox state -/

inductive ActionState
  | pending
  | applying
  | ready
  | failed
deriving DecidableEq

/-- The reported state of one Binding. -/
structure ActionBindingStatus where
  handler : String
  state : Option ActionState := none
  message : String := ""
  observedSpecGeneration : ℤ := 0
  (desiredInputDigest appliedInputDigest : String := "")
deriving DecidableEq

structure DesiredInput where
  (handler input : String)
  digest : String := ""
deriving DecidableEq

structure HookCheckpoint where
  name : LifecycleHook
  sequence : ℤ
deriving DecidableEq

/-- What the manager knows of one Handler's Binding. A Hook that was never applied has
sequence zero. -/
structure BindingState where
  status : ActionBindingStatus
  (input digest : String := "")
  appliedGeneration : ℤ := 0
  (attachmentID handlerInstanceID : String := "")
  appliedHooks : LifecycleHook → ℤ := fun _ => 0

/-- The state of one Sandbox. `op` is the token of the operation lock. -/
structure SandboxState where
  op : Bool := true
  bindings : String → Option BindingState := fun _ => none
  order : List String := []
  desired : List DesiredInput := []
  desiredGeneration : ℤ := 0
  desiredSignature : String := ""
  appliedGeneration : ℤ := 0
  attachment : Attachment := {}
  reachedHooks : List HookCheckpoint := []
  terminating : Bool := false

/-- The first characters that fit in `limit` bytes. -/
def fitting : ℕ → List Char → List Char
  | _, [] => []
  | limit, c :: cs =>
    if c.utf8Size ≤ limit then c :: fitting (limit - c.utf8Size) cs else []

/-- The source cuts at a byte, so it may also keep the first bytes of the next character. -/
def truncate (value : String) (limit : ℕ) : String :=
  if limit < value.utf8ByteSize then String.ofList (fitting limit value.toList) else value

def setBindingStatus (binding : BindingState) (state : ActionState) (message : String) :
    BindingState :=
  { binding with status :=
      { binding.status with state := some state, message := truncate message 512 } }

/-- A Binding nothing is known about yet. -/
def newBindingState (handlerName : String) : BindingState where
  status := { handler := handlerName }

/-- Recompute the reported state of a Binding from what has been applied. -/
def refreshBindingStatusLocked (cfg : Config) (state : SandboxState) (handlerName : String)
    (binding : BindingState) : BindingState :=
  if binding.appliedGeneration ≠ state.desiredGeneration ∨
      binding.attachmentID ≠ state.attachment.id ∨ binding.handlerInstanceID = "" then
    if binding.status.state ≠ some .failed then
      setBindingStatus binding .pending "Binding has not reached the current Sandbox revision"
    else binding
  else
    match state.reachedHooks.find? fun checkpoint =>
        cfg.subscribes handlerName checkpoint.name &&
          decide (binding.appliedHooks checkpoint.name < checkpoint.sequence) with
    | some checkpoint =>
      setBindingStatus binding .pending s!"Lifecycle Hook {checkpoint.name.text} is pending"
    | none => setBindingStatus binding .ready ""

def bindingOrder (desired : List DesiredInput) : List String := desired.map DesiredInput.handler

/-! ## Desired lists -/

def maxActionBindingInputBytes : ℕ := 64 * 1024

def maxSandboxActionBindingInputBytes : ℕ := 256 * 1024

/-- The loop of `validateDesired`: the Handlers seen, the bytes so far, the canonical list and
the text hashed into the signature. -/
def validateDesiredFrom (cfg : Config) (seen : List String) (total : ℕ)
    (result : List DesiredInput) (hash : String) :
    List DesiredInput → Except String (List DesiredInput × String)
  | [] => .ok (result, "sha256:" ++ cfg.sha256 hash)
  | input :: rest =>
    if (cfg.byName input.handler).isNone then
      .error s!"action Handler \"{input.handler}\" is not configured on this Fastlet"
    else if input.handler ∈ seen then
      .error s!"duplicate Action Binding for Handler \"{input.handler}\""
    else if maxActionBindingInputBytes < input.input.utf8ByteSize then
      .error s!"action Binding {input.handler} input exceeds {maxActionBindingInputBytes} bytes"
    else if maxSandboxActionBindingInputBytes < total + input.input.utf8ByteSize then
      .error s!"action Binding inputs exceed {maxSandboxActionBindingInputBytes} bytes"
    else
      let digest := "sha256:" ++ cfg.sha256 input.input
      validateDesiredFrom cfg (input.handler :: seen) (total + input.input.utf8ByteSize)
        (result ++ [{ input with digest := digest }])
        (hash ++ input.handler ++ "\x00" ++ digest ++ "\x00") rest

/-- Check a desired list and return it in canonical form with its signature. -/
def validateDesired (cfg : Config) (desired : List DesiredInput) :
    Except String (List DesiredInput × String) :=
  if 16 < desired.length then .error "at most 16 Action Bindings are allowed"
  else validateDesiredFrom cfg [] 0 [] "" desired

end FastSandbox.Action
