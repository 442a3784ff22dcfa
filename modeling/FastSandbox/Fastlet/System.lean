import FastSandbox.Fastlet.Data

/-!
# The Fastlet as a system of tasks

`advance` runs the section a task stands at. The environment's choice has to fit the place: a
section that only takes locks runs on `go`, a place that waits for a call on that call's answer.
-/

namespace FastSandbox.Fastlet

open DataPlane
open FastSandbox.Action (ActionBindingStatus)
open Interleaving

/-! ## Sections that run by themselves -/

variable (cfg : Config) (m : Manager) (p : Ref)

def goCall : Call → Option (Manager × List Task)
  | .create _ | .actionStateChanged _ => none
  | .delete identity => some (beginDelete cfg m identity)
  | .inspect identity => some (m.write (.inspected identity (inspectSandbox cfg m identity)), [])
  | .observe uid exited => some (m, observeSandbox m uid exited)
  | .reconcileBindings req => some (m, beginBindings cfg m req)
  | .reconcileProxyRoutes => some (m, [.routes .watch .lock])
  | .markProxyRouteUnavailable =>
    some (if cfg.routePublisher then { m with routeReady := false } else m, [])
  | .prepareInfra => some (m, [.prepare .start])
  | .setDraining req => some (setDraining cfg m req, [])
  | .setResourceAdmissionState state reason => some (setResourceAdmissionState m state reason, [])
  | .restartProxy => some ({ m with proxy := {} }.write .proxyRestarted, [])

def goCreation (c : Creation) :
    CreateStage → Option (Manager × List Task)
  | .registerActions => some (m, [registerDesiredActions cfg m c])
  | .registerFailed err retired => some (registerFailed cfg m c err retired)
  | .park => some (parkForImageDelivery cfg m c)
  | .startBoot admission => some (startImageBootWorker m c admission)
  | .commit services => some (commitCreate cfg m c services)
  | .checkOwner | .registerWait | .deliver | .ensure => none

def goBoot (c : Creation) (failures : ℕ) :
    BootStage → Option (Manager × List Task)
  | .poll => some (m, [bootPoll m c failures])
  | .sleep => some (m, [.boot c failures .poll])
  | .claim services => some (bootClaim m c services)
  | .commit services => some (commitBoot cfg m c services)
  | .markFailed => some (markCreateFailed m c, [.boot c failures .exit])
  | .exit => some (bootExit m c)
  | .deliver | .ensure => none

def goCleanup (o : CleanupOwner) (c : Creation) :
    CleanupStage → Option (Manager × List Task)
  | .settle err =>
    match o with
    | .create runtimeErr => some (settleCreateFailure cfg m c runtimeErr err)
    | .retry => some (settleRetryCleanup cfg m c err)
  | .owned | .teardown | .actions _ => none

def goAsyncDelete :
    AsyncDeleteStage → Option (Manager × List Task)
  | .start => some (beginAsyncDelete cfg m p)
  | .settle err => some (settleAsyncDelete m p err, [.asyncDelete p .release])
  | .failed => some (failAsyncDelete m p, [.asyncDelete p .release])
  | .release => some (releaseAsyncDelete m p)
  | .confirm | .teardown => none

def goStrictDelete : StrictDeleteStage → Option (Manager × List Task)
  | .failed => some (strictDeleteFailed m p, [])
  | .done => some (strictDeleteDone m p)
  | .owned => none

def goStartTerminal (uid : String) : Option Ref → Manager × List Task
  | none => (m, ((m.lookup uid).map fun p => .startTerminal uid (some p)).toList)
  | some p => startTerminalFailureCleanup m uid p

def goTerminal :
    TerminalStage → Option (Manager × List Task)
  | .start => some (m, [beginTerminal cfg m p])
  | .settle => some (settleTerminal m p, [.terminal p .finish])
  | .finish => some (finishTerminal m p)
  | .owned | .confirm | .actions | .cleanup => none

def goData (caller : DataCaller) :
    DataStage → Option (Manager × List Task)
  | .once => some (reconcileDataPlaneOnce m p caller)
  | .initializeInfra probe => some (m, [beginInitializeInfra cfg m p caller probe])
  | .infraWrite probe services err => some (infraWrite m p caller probe services err)
  | .infraDone err => some (infraDone m p caller err)
  | .publish => some (publishDataPlaneRoute cfg m p caller)
  | .publishLock =>
    if m.routeMu then none else some ({ m with routeMu := true }, [.data p caller .publishRead])
  | .publishRead => some (publishRead m p caller)
  | .publishUnavailable err =>
    some ({ m with routeReady := false, routeMu := false },
      [.data p caller (.published (some err))])
  | .published err => some (m, [published cfg m p caller err])
  | .settle applied err => some (settlePublication cfg m p caller applied err)
  | .ready err => some (m, [workerReady cfg m p err])
  | .monitor => some (m, [.data p caller (.initializeInfra true)])
  | .unhealthy => some (markDataPlaneUnhealthy cfg m p)
  | .retry => some (m, [.data p caller .once])
  | .exit => some (workerExit m p, [])
  | .infra _ | .access _ | .apply _ => none

def goRoutes (caller : RouteCaller) :
    RouteStage → Option (Manager × List Task)
  | .lock =>
    if !cfg.routePublisher then some (m, routesReturn none caller)
    else if m.routeMu then none
    else some ({ m with routeMu := true }, [.routes caller .read])
  | .read => some (m, [routesRead m caller])
  | .check todo publications owners => some (m, [routesCheck m caller todo publications owners])
  | .unavailable err =>
    some ({ m with routeReady := false, routeMu := false }, routesReturn (some err) caller)
  | .finish owners => some (routesFinish m owners, routesReturn none caller)
  | .access .. => none

/-- `ReconcileRoutes` between two calls. -/
def goReconcile (f : RoutesFor) (publications : List RoutePublication) :
    ReconcileStage → Option (Manager × List Task)
  | .lock =>
    if m.routeMu then none
    else some ({ m with routeMu := true }, [.reconcileRoutes f publications .snapshot])
  | .deletes [] => some (m, [.reconcileRoutes f publications (.applies publications)])
  | .applies [] => some (reconcileReturn m none f)
  | .snapshot | .deletes (_ :: _) | .applies (_ :: _) => none

def goPrepare : PrepareStage → Option (Manager × List Task)
  | .start =>
    if !cfg.infraManager then some ({ m with infraReady := true, infraMessage := "" }, [])
    else some (m, [.prepare .wait])
  | .collect => some (m, [prepareCollect m])
  | .running err => some (m, [prepareRunning cfg m err])
  | .failed err => some ({ m with infraReady := false, infraMessage := err }, [])
  | .done => some ({ m with infraReady := true, infraMessage := "" }, [])
  | .wait => none

def goBindings (req : ReconcileBindingsRequest) :
    BindingsStage → Option (Manager × List Task)
  | .apply => some (applyBindings m p req, [])
  | .settle statuses generation err => some (settleBindings m p req statuses generation err, [])
  | .wait => none

def goRecover : RecoverStage → Option (Manager × List Task)
  | .start =>
    some ({ m with
      recovering := true, runtimeReady := false, routeReady := !cfg.routePublisher },
      [.recover .list])
  | .access [] publications records => some (m, [recoverRoutes cfg records publications])
  | .finish records => some (recoverFinish cfg m records, [])
  | .list | .access (_ :: _) _ _ => none

def goTask : Task → Option (Manager × List Task)
  | .call c => goCall cfg m c
  | .creation c s => goCreation cfg m c s
  | .boot c failures s => goBoot cfg m c failures s
  | .cleanup o c s => goCleanup cfg m o c s
  | .retryCleanup c => some (beginRetryCleanup cfg m c)
  | .continueData p ready k => some (m, [continueDataPlaneCreation m p ready k])
  | .startData todo k => some (startDataPlaneReconcile cfg m todo k)
  | .finishCreate req success => some (finishCreate m req success)
  | .delete d .dispatch => some (dispatchDelete m d)
  | .delete _ .owned | .delete _ .actions => none
  | .strictDelete p s => goStrictDelete m p s
  | .asyncDelete p s => goAsyncDelete cfg m p s
  | .preserve uid identity => some (beginPreserve cfg m uid identity)
  | .recordFailure _ => none
  | .recordedFailure p => some (recordedFailure m p)
  | .startTerminal uid p => some (goStartTerminal m uid p)
  | .terminal p s => goTerminal cfg m p s
  | .removeRoute p k .lock =>
    if m.routeMu then none
    else some ({ m with routeMu := true }, [.removeRoute p k .markDraining])
  | .removeRoute _ _ .markDraining | .removeRoute _ _ .delete => none
  | .data p caller s => goData cfg m p caller s
  | .routes caller s => goRoutes cfg m caller s
  | .reconcileRoutes f publications s => goReconcile m f publications s
  | .prepare s => goPrepare cfg m s
  | .bindings p req s => goBindings m p req s
  | .projectActions uid statuses generation =>
    some (actionStateChanged m uid statuses generation, [])
  | .recover s => goRecover cfg m s
  | .proxy call => some ((serveProxy cfg m call).1, [])

/-! ## Sections that take an answer -/

/-- The answer of an Action Manager call, of the terminal-failure record, or of `Prepare`. -/
def answerTask (err : Option String) :
    Task → Option (Manager × List Task)
  | .cleanup o c .owned => some (m, [.cleanup o c (if err.isSome then .settle err else .teardown)])
  | .cleanup o c (.actions earlier) => some (m, [.cleanup o c (.settle (joinErrors earlier err))])
  | .delete d .owned =>
    match err with
    | some text =>
      some (answerDelete m d.identity (some (fastletError .actionUnavailable
        ("strict REMOVE_BINDING remains pending: " ++ text) true)))
    | none => some (m, [.delete d .dispatch])
  | .delete d .actions => some (m, [.delete d .dispatch])
  | .strictDelete p .owned => some (m, [.strictDelete p (if err.isSome then .failed else .done)])
  | .asyncDelete p .confirm =>
    some (m, [if err.isSome then .asyncDelete p .failed else asyncDeleteRemoval cfg p])
  | .recordFailure p => some (m, [if err.isSome then .terminal p .finish else .recordedFailure p])
  | .terminal p .owned => some (m, [.terminal p (if err.isSome then .finish else .confirm)])
  | .terminal p .confirm =>
    some (m, [if err.isSome then .terminal p .finish else terminalRemoval cfg p])
  | .terminal p .actions => some (m, [terminalRemoval cfg p])
  | .prepare .wait =>
    some (m, [.prepare (match err with
      | some text => .failed text
      | none => .collect)])
  | _ => none

/-- The answer of `CheckCreateOwner` or `RegisterDesired`, with whether the owner is retired. -/
def registrationTask (err : Option (String × Bool)) :
    Task → Option (Manager × List Task)
  | .creation c .checkOwner =>
    match err with
    | some (text, retired) => some (m, [.creation c (.registerFailed text retired)])
    | none => some (m, [.creation c .registerActions])
  | .creation c .registerWait =>
    match err with
    | some (text, retired) => some (m, [.creation c (.registerFailed text retired)])
    | none => some (m, [afterRegister cfg c])
  | _ => none

def deliveryTask (result : Except RuntimeError Bool) :
    Task → Option (Manager × List Task)
  | .creation c .deliver =>
    match result with
    | .error err => some (m, [beginCleanup cfg (.create err) c])
    | .ok delivered => some (m, [.creation c (if delivered then .ensure else .park)])
  | .boot c failures .deliver => some (m, [bootDelivery c failures result])
  | _ => none

/-- The answer of `EnsureSandbox`. After an error the runtime may hold an instance or not. -/
def ensuredTask
    (result : Except RuntimeError (List ServiceEndpoint)) (present : Bool) :
    Task → Option (Manager × List Task)
  | .creation c .ensure =>
    match result with
    | .error err => some (m.setInstance c.uid present, [beginCleanup cfg (.create err) c])
    | .ok services => some (m.setInstance c.uid true, [.creation c (.commit services)])
  | .boot c _ .ensure =>
    match result with
    | .error err =>
      some (m.setInstance c.uid present,
        [.boot c 0 (if err.kind = .imageNotReady then .poll else .markFailed)])
    | .ok services => some (m.setInstance c.uid true, [.boot c 0 (.claim services)])
  | _ => none

def teardownTask (err : Option String) (present : Bool) :
    Task → Option (Manager × List Task)
  | .cleanup o c .teardown => some (m.teardown c.uid err present, [afterTeardown cfg o c err])
  | .asyncDelete p .teardown =>
    some (m.teardown (m.uid p) err present, [.asyncDelete p (.settle err)])
  | .terminal p .cleanup =>
    some (m.teardown (m.uid p) err present, [.terminal p (if err.isSome then .finish else .settle)])
  | _ => none

def infraTask (services : List ServiceEndpoint) (err : Option String) :
    Task → Option (Manager × List Task)
  | .data p caller (.infra probe) => some (m, [.data p caller (.infraWrite probe services err)])
  | _ => none

def accessTask (result : Except String AccessDescriptor) :
    Task → Option (Manager × List Task)
  | .data p caller (.access snapshot) =>
    some (m, [.data p caller (match routePublication cfg snapshot result with
      | .error err => .publishUnavailable err
      | .ok publication => .apply publication)])
  | .routes caller (.access p snapshot todo publications owners) =>
    some (m, [.routes caller (match routePublication cfg snapshot result with
      | .error err => .unavailable err
      | .ok publication => .check todo (publications ++ [publication]) (owners ++ [p]))])
  | .recover (.access (record :: todo) publications records) =>
    some (m, [.recover (match routePublication cfg record result with
      | .error _ => .start
      | .ok publication => .access todo (publications ++ [publication]) records)])
  | _ => none

def proxyTask (answered : Bool) : Task → Option (Manager × List Task)
  | .data p caller (.apply publication) =>
    let (m, result, stray) := callProxy cfg m (.apply (routeFromPublication publication)) answered
    match result with
    | .ok _ => some ({ m with routeMu := false }, .data p caller (.published none) :: stray)
    | .error err => some (m, .data p caller (.publishUnavailable (controlErrorText err)) :: stray)
  | .removeRoute _ _ .lock => none
  | .removeRoute p k s =>
    let (m, result, stray) := callProxy cfg m (removeCall m p s) answered
    let (m, t) := removeAnswered cfg m p k s result
    some (m, t :: stray)
  | .reconcileRoutes f publications s =>
    (reconcileCall s).map fun call =>
      let (m, result, stray) := callProxy cfg m call answered
      let (m, ts) := reconcileAnswered m f publications s result
      (m, ts ++ stray)
  | _ => none

def statusesTask (statuses : List ActionBindingStatus) (generation : ℤ)
    (err : Option String) : Task → Option (Manager × List Task)
  | .call (.actionStateChanged uid) =>
    some (m, if cfg.actionManager.isSome then [.projectActions uid statuses generation] else [])
  | .bindings p req .wait => some (m, [.bindings p req (.settle statuses generation err)])
  | _ => none

def inventoryTask (result : Except String (List InventoryEntry)) :
    Task → Option (Manager × List Task)
  | .recover .list =>
    match result with
    | .error _ => some (m, [.recover .start])
    | .ok entries => some (recoverList cfg m entries)
  | _ => none

def admissionTask (actionsReady resourceAvailable : Bool) :
    Task → Option (Manager × List Task)
  | .call (.create req) => some (beginCreate cfg m req actionsReady resourceAvailable)
  | _ => none

/-- A cancelled worker leaves at the next point where it looks. -/
def cancelTask : Task → Option (Manager × List Task)
  | .boot c failures .poll | .boot c failures .sleep =>
    if bootCancelled m c then some (m, [.boot c failures .exit]) else none
  | .data p .worker .retry | .data p .worker .monitor =>
    if dataCancelled m p then some (m, [.data p .worker .exit]) else none
  | _ => none

def advance (t : Task) : Choice → Option (Manager × List Task)
  | .go => goTask cfg m t
  | .cancel => cancelTask m t
  | .admission actionsReady resourceAvailable =>
    admissionTask cfg m actionsReady resourceAvailable t
  | .answer err => answerTask cfg m err t
  | .registration err => registrationTask cfg m err t
  | .delivery result => deliveryTask cfg m result t
  | .ensured result present => ensuredTask cfg m result present t
  | .teardown err present => teardownTask cfg m err present t
  | .infra services err => infraTask m services err t
  | .access result => accessTask cfg m result t
  | .proxy answered => proxyTask cfg m answered t
  | .statuses statuses generation err => statusesTask cfg m statuses generation err t
  | .inventory result => inventoryTask cfg m result t

def system : System Manager Task Call Choice where
  entry := .call
  advance := advance cfg

/-- A fresh process. With `RecoverOnStart` it recovers what the runtime holds. -/
def start (instances : List String) : World Manager Task where
  shared := newSandboxManager cfg (if cfg.recoverOnStart then instances else [])
  tasks := if cfg.recoverOnStart then [.recover .start] else []

end FastSandbox.Fastlet
