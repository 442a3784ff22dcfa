import FastSandbox.Fastlet.Manager
import FastSandbox.Lib.Interleaving

/-!
# The places at which the manager's calls and workers stand

The manager's lock is dropped around every call into the runtime, the Action Manager and the
proxy, and is taken again afterwards. A `Task` is a place between two such sections. Every
goroutine of the manager is a task: a Create, the image boot worker, a Delete, `asyncDelete`, the
terminal-failure workers, the data-plane worker, and the route reconciliations.
-/

namespace FastSandbox.Fastlet

open DataPlane
open FastSandbox.Action (ActionBindingStatus)

/-! ## Creation -/

/-- One creation: its request, the validated input and the placeholder. -/
structure Creation where
  req : CreateSandboxRequest
  input : RuntimeSandboxConfig
  placeholder : Ref
  uid_eq : input.identity.sandboxUID = req.identity.sandboxUID

inductive RuntimeFailure
  | networkUnavailable
  | infraUnavailable
  | incompatibleArtifact
  | imageNotReady
  | other
deriving DecidableEq

structure RuntimeError where
  kind : RuntimeFailure
  message : String

/-- Inside `CreateSandbox`, after the reservation. -/
inductive CreateStage
  | checkOwner
  | registerActions
  | registerWait
  | registerFailed (err : String) (retired : Bool)
  | deliver
  | park
  | startBoot (admission : AdmissionStatus)
  | ensure
  | commit (services : List ServiceEndpoint)

/-- Inside `runImageBootWorker`. -/
inductive BootStage
  | poll
  | deliver
  | sleep
  | ensure
  | claim (services : List ServiceEndpoint)
  | commit (services : List ServiceEndpoint)
  | markFailed
  | exit

/-- Who runs the cleanup of a creation: `handleRuntimeCreateFailure` or
`retryFailedCreateCleanup`. -/
inductive CleanupOwner
  | create (err : RuntimeError)
  | retry

/-- The cleanup: retire the Action owner and delete the runtime, in the order of the version,
then settle under the lock. -/
inductive CleanupStage
  | owned
  | teardown
  | actions (err : Option String)
  | settle (err : Option String)

/-! ## Deletion -/

/-- What `DeleteSandboxContext` carries from its first section to the last. -/
structure Deletion where
  identity : SandboxIdentity
  record : Option Ref
  (strictActions wasCreating : Bool)

inductive DeleteStage
  | owned
  | actions
  | dispatch

/-- Inside `asyncDelete`. -/
inductive AsyncDeleteStage
  | start
  | confirm
  | teardown
  | settle (err : Option String)
  | failed
  | release

/-- Inside `finishStrictCreateDelete`. -/
inductive StrictDeleteStage
  | owned
  | failed
  | done

/-- Inside `cleanupTerminalFailure`. -/
inductive TerminalStage
  | start
  | owned
  | confirm
  | actions
  | cleanup
  | settle
  | finish

/-! ## Data plane -/

/-- Who runs `reconcileDataPlaneOnce`: the Sandbox's own worker, or `ReconcilePendingInfra` with
the records left to visit. -/
inductive DataCaller
  | worker
  | pending (todo : List Ref) (err : Option String)

/-- Inside `reconcileDataPlaneOnce`, `publishDataPlaneRoute` and the worker's loop. -/
inductive DataStage
  | once
  | initializeInfra (probe : Bool)
  | infra (probe : Bool)
  | infraWrite (probe : Bool) (services : List ServiceEndpoint) (err : Option String)
  | infraDone (err : Option String)
  | publish
  | publishLock
  | publishRead
  | access (snapshot : SandboxMetadata)
  | apply (publication : RoutePublication)
  | publishUnavailable (err : String)
  | published (err : Option String)
  | settle (applied : Bool) (err : Option String)
  | ready (err : Option String)
  | monitor
  | unhealthy
  | retry
  | exit

inductive AfterRemove
  | asyncDelete
  | terminal
  | unhealthy
  | stale (caller : DataCaller)

inductive RemoveStage
  | lock
  | markDraining
  | delete

/-- Who runs `ReconcileProxyRoutes`. -/
inductive RouteCaller
  | watch
  | prepare
  | publish (p : Ref) (caller : DataCaller)

inductive RouteStage
  | lock
  | read
  | check (todo : List (Ref × SandboxMetadata)) (publications : List RoutePublication)
      (owners : List Ref)
  | access (p : Ref) (snapshot : SandboxMetadata) (todo : List (Ref × SandboxMetadata))
      (publications : List RoutePublication) (owners : List Ref)
  | unavailable (err : String)
  | finish (owners : List Ref)

/-- Who runs the publisher's `ReconcileRoutes`. -/
inductive RoutesFor
  | reconnect (caller : RouteCaller) (owners : List Ref)
  | recover (records : List SandboxMetadata)

inductive ReconcileStage
  | lock
  | snapshot
  | deletes (todo : List Route)
  | applies (todo : List RoutePublication)

inductive PrepareStage
  | start
  | wait
  | collect
  | running (err : Option String)
  | failed (err : String)
  | done

inductive AfterStart
  | finishCreate (req : CreateSandboxRequest) (success : CreateSuccess)
  | bootExit (c : Creation)
  | prepare (err : Option String)

/-! ## Bindings and recovery -/

structure ReconcileBindingsRequest where
  identity : SandboxIdentity
  specGeneration : ℤ
  actionBindings : List ActionBindingInput

inductive BindingsStage
  | wait
  | apply
  | settle (statuses : List ActionBindingStatus) (generation : ℤ) (err : Option String)

inductive DriverPhase
  | running
  | runtimeFailed
  | unset
  | other (text : String)

structure InventoryEntry where
  config : RuntimeSandboxConfig
  phase : DriverPhase
  infraServices : List ServiceEndpoint

inductive RecoverStage
  | start
  | list
  | access (todo : List SandboxMetadata) (publications : List RoutePublication)
      (records : List SandboxMetadata)
  | finish (records : List SandboxMetadata)

structure SetDrainingRequest where
  fastletPodUID : String
  draining : Bool
  (drainID reason : String)

/-! ## Tasks -/

/-- The calls from outside. `observe` is `GetSandboxStatuses` at one Sandbox, with whether the
runtime reports it stopped and its control group empty; `restartProxy` is a new proxy process. -/
inductive Call
  | create (req : CreateSandboxRequest)
  | delete (identity : SandboxIdentity)
  | inspect (identity : SandboxIdentity)
  | observe (sandboxUID : String) (exited : Bool)
  | reconcileBindings (req : ReconcileBindingsRequest)
  | actionStateChanged (sandboxUID : String)
  | reconcileProxyRoutes
  | markProxyRouteUnavailable
  | prepareInfra
  | setDraining (req : SetDrainingRequest)
  | setResourceAdmissionState (state : AdmissionState) (reason : String)
  | restartProxy

/-- A call or a worker at the place where it stands. -/
inductive Task
  | call (c : Call)
  | creation (c : Creation) (s : CreateStage)
  | boot (c : Creation) (failures : ℕ) (s : BootStage)
  | cleanup (o : CleanupOwner) (c : Creation) (s : CleanupStage)
  | retryCleanup (c : Creation)
  | continueData (p : Ref) (ready : Bool) (k : AfterStart)
  | startData (todo : List Ref) (k : AfterStart)
  | finishCreate (req : CreateSandboxRequest) (success : CreateSuccess)
  | delete (d : Deletion) (s : DeleteStage)
  | strictDelete (p : Ref) (s : StrictDeleteStage)
  | asyncDelete (p : Ref) (s : AsyncDeleteStage)
  | preserve (sandboxUID : String) (identity : SandboxIdentity)
  | recordFailure (p : Ref)
  | recordedFailure (p : Ref)
  | startTerminal (sandboxUID : String) (p : Option Ref)
  | terminal (p : Ref) (s : TerminalStage)
  | removeRoute (p : Ref) (k : AfterRemove) (s : RemoveStage)
  | data (p : Ref) (caller : DataCaller) (s : DataStage)
  | routes (caller : RouteCaller) (s : RouteStage)
  | reconcileRoutes (f : RoutesFor) (publications : List RoutePublication) (s : ReconcileStage)
  | prepare (s : PrepareStage)
  | bindings (p : Ref) (req : ReconcileBindingsRequest) (s : BindingsStage)
  | projectActions (sandboxUID : String) (statuses : List ActionBindingStatus) (generation : ℤ)
  | recover (s : RecoverStage)
  | proxy (call : ProxyCall)

/-- What the environment decides when a section runs: the answers of the runtime, of the Action
Manager and of the proxy. An unanswered proxy call may still be executed later. -/
inductive Choice
  | go
  | cancel
  | admission (actionsReady resourceAvailable : Bool)
  | answer (err : Option String)
  | registration (err : Option (String × Bool))
  | delivery (result : Except RuntimeError Bool)
  | ensured (result : Except RuntimeError (List ServiceEndpoint)) (present : Bool)
  | teardown (err : Option String) (present : Bool)
  | infra (services : List ServiceEndpoint) (err : Option String)
  | access (result : Except String AccessDescriptor)
  | proxy (answered : Bool)
  | statuses (statuses : List ActionBindingStatus) (generation : ℤ) (err : Option String)
  | inventory (result : Except String (List InventoryEntry))

end FastSandbox.Fastlet
