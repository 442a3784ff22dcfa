import FastSandbox.Fastlet.Delete

/-!
# Sections of the data plane: infra readiness, routes, Bindings and recovery
-/

namespace FastSandbox.Fastlet

open DataPlane
open FastSandbox.Action (ActionBindingStatus apiVersionV1)

/-- A positive fence, or 1. -/
def atLeastOne (n : ℤ) : ℤ := if n ≤ 0 then 1 else n

/-! ## Returns -/

variable (cfg : Config) (m : Manager) (p : Ref) (caller : DataCaller)

/-- `reconcileDataPlaneOnce` returns to its caller. -/
def dataReturn (ready : Bool) (err : Option String) : DataCaller → Task
  | .worker => .data p .worker (if ready then .ready err else .retry)
  | .pending todo earlier =>
    let uid := m.uid p
    let own :=
      match err with
      | some text => some (s!"sandbox {uid}: {text}")
      | none => if ready then none else some s!"sandbox {uid} data plane is still initializing"
    let joined := joinErrors earlier own
    match todo with
    | [] => .prepare (.running joined)
    | q :: rest => .data q (.pending rest joined) .once

/-- `initializeInfraInstance` returns: to `reconcileDataPlaneOnce`, or to the health monitor. -/
def infraReturn (probe : Bool) (err : Option String) : Task :=
  .data p caller (if probe then (if err.isSome then .unhealthy else .monitor) else .infraDone err)

variable (err : Option String)

def removeReturn : AfterRemove → Task
  | .asyncDelete => .asyncDelete p (if err.isSome then .failed else .teardown)
  | .terminal => if err.isSome then .terminal p .finish else terminalReclaim cfg p
  | .unhealthy => .data p .worker .once
  | .stale caller => dataReturn m p true none caller

/-- `ReconcileProxyRoutes` returns. -/
def routesReturn : RouteCaller → List Task
  | .watch => []
  | .prepare =>
    [match err with
      | some text => .prepare (.failed text)
      | none => .prepare .done]
  | .publish p caller => [.data p caller (.settle true err)]

/-! ## Infra readiness -/

/-- The first section of `reconcileDataPlaneOnce`. -/
def reconcileDataPlaneOnce : Manager × List Task :=
  if !runtimeWorkAllowed m p then (m, [dataReturn m p true none caller])
  else
    match m.phase p with
    | .infraPending | .infraUnavailable =>
      (m.setPhase p .initializingInfra, [.data p caller (.initializeInfra false)])
    | .routePending | .routeUnavailable => (m, [.data p caller .publish])
    -- another recovery or reconnect path owns the transition
    | .initializingInfra | .publishingRoute => (m, [dataReturn m p false none caller])
    | _ => (m, [dataReturn m p true none caller])

/-- The first section of `initializeInfraInstance`. -/
def beginInitializeInfra
    (probe : Bool) : Task :=
  if !runtimeWorkAllowed m p then
    infraReturn p caller probe (some "Sandbox is no longer accepting Infra work")
  else if !cfg.infraManager then infraReturn p caller probe none
  else .data p caller (.infra probe)

/-- The last section of `initializeInfraInstance`: the services are written on errors, too. -/
def infraWrite (probe : Bool)
    (services : List ServiceEndpoint) (err : Option String) : Manager × List Task :=
  if !runtimeWorkAllowed m p then
    (m, [infraReturn p caller probe
      (some "Sandbox changed while Infra Components were initializing")])
  else
    (m.modify p fun record => { record with infraServices := services },
      [infraReturn p caller probe
        (err.map fun text => "sandbox Infra Components unavailable: " ++ text)])

/-- `reconcileDataPlaneOnce` after the Infra attempt. -/
def infraDone :
    Manager × List Task :=
  if !runtimeWorkAllowed m p || decide (m.phase p ≠ .initializingInfra) then
    (m, [dataReturn m p true none caller])
  else
    match err with
    | some _ => (m.setPhase p .infraUnavailable, [dataReturn m p false err caller])
    | none => (m.setPhase p .routePending, [.data p caller .publish])

/-! ## Route publication -/

/-- The first section of `publishDataPlaneRoute`. -/
def publishDataPlaneRoute :
    Manager × List Task :=
  if !runtimeWorkAllowed m p then (m, [dataReturn m p true none caller])
  else if m.phase p ≠ .routePending ∧ m.phase p ≠ .routeUnavailable then
    (m, [dataReturn m p (!dataPlaneWorkPending (m.phase p)) none caller])
  else
    (m.setPhase p .publishingRoute,
      [.data p caller (if cfg.routePublisher then .publishLock else .published none)])

def componentRoutes (services : List ServiceEndpoint) : StringMap ComponentRoute :=
  services.foldl (fun components endpoint =>
    -- host-process components are reached through the Pod-local egress route
    if endpoint.hostProcess then components
    else components.insert endpoint.component ⟨endpoint.protocol, endpoint.port⟩) ∅

def routePublication (metadata : SandboxMetadata)
    (access : Except String AccessDescriptor) : Except String RoutePublication :=
  let identity := metadata.config.identity
  if !cfg.accessDescriptorProvider then .error "runtime does not provide an AccessDescriptor"
  else
    match access with
    | .error err => .error ("resolve runtime AccessDescriptor: " ++ err)
    | .ok access =>
      if identity.sandboxNamespace = "" ∨ identity.sandboxUID = "" ∨ identity.fastletPodUID = "" ∨
          identity.assignmentAttempt ≤ 0 then
        .error "incomplete Sandbox route identity"
      else
        .ok {
          sandboxNamespace := identity.sandboxNamespace
          sandboxUID := identity.sandboxUID
          fastletPodUID := identity.fastletPodUID
          assignmentAttempt := identity.assignmentAttempt
          routeGeneration := atLeastOne identity.routeGeneration
          access
          components := componentRoutes metadata.infraServices }

/-- The snapshot `publishRoute` takes under both locks. -/
def publishRead : Manager × List Task :=
  if !runtimeWorkAllowed m p then
    ({ m with routeMu := false },
      [.data p caller (.published (some "Sandbox is no longer accepting route publication"))])
  else (m, [.data p caller (.access (m.records p))])

/-- After `publishRoute`: a proxy that lost its routes gets all of them back. -/
def published :
    Task :=
  if err.isNone && cfg.routePublisher && !m.routeReady then .routes (.publish p caller) .lock
  else .data p caller (.settle err.isNone err)

/-- The last section of `publishDataPlaneRoute`. -/
def settlePublication (applied : Bool)
    (err : Option String) : Manager × List Task :=
  if !runtimeWorkAllowed m p || decide (m.phase p ≠ .publishingRoute) then
    (m, [if applied then beginRemoval cfg p (.stale caller) (dataReturn m p true none caller)
      else dataReturn m p true none caller])
  else
    match err with
    | some _ => (m.setPhase p .routeUnavailable, [dataReturn m p false err caller])
    | none =>
      (m.setPhase p
        (if (m.records p).actionBindingStatuses ≠ [] then .actionPending else .running),
        [dataReturn m p true none caller])

/-! ## The data-plane worker -/

/-- `startDataPlaneReconcile` for the records of a list, one after the other. -/
def startDataPlaneReconcile (todo : List Ref) (k : AfterStart) :
    Manager × List Task :=
  match todo with
  | [] => (m, [k.task])
  | p :: rest =>
    let wanted := runtimeWorkAllowed m p &&
      (dataPlaneWorkPending (m.phase p) || (decide (m.phase p = .running) && cfg.infraManager))
    if !wanted || decide (m.dataPlaneWorkers (m.uid p) = some p) then (m, [.startData rest k])
    else
      ({ m with dataPlaneWorkers := Function.update m.dataPlaneWorkers (m.uid p) (some p) },
        [.data p .worker .once, .startData rest k])

/-- The worker after a pass that made the data plane ready, up to the health monitor. -/
def workerReady : Task :=
  if runtimeWorkAllowed m p && decide (m.phase p = .running) && err.isNone && cfg.infraManager &&
      decide ((m.records p).infraServices ≠ []) then
    .data p .worker .monitor
  else .data p .worker .exit

/-- The worker's context is cancelled by taking it out of the manager's map. -/
def dataCancelled : Bool := m.dataPlaneWorkers (m.uid p) ≠ some p

/-- The locked part of `markDataPlaneUnhealthy`. -/
def markDataPlaneUnhealthy : Manager × List Task :=
  if !runtimeWorkAllowed m p || decide (m.phase p ≠ .running) then (m, [.data p .worker .once])
  else
    (m.setPhase p .infraUnavailable, [beginRemoval cfg p .unhealthy (.data p .worker .once)])

/-- The deferred end of the worker. -/
def workerExit : Manager :=
  if m.dataPlaneWorkers (m.uid p) = some p then
    { m with dataPlaneWorkers := Function.update m.dataPlaneWorkers (m.uid p) none }
  else m

/-! ## The proxy -/

/-- The proxy executes a call. -/
def serveProxy (call : ProxyCall) :
    Manager × Except RouteError (List Route) :=
  let (store, result) := m.proxy.serve cfg.parseIP call
  ({ m with proxy := store }.write (.served call result), result)

def transportError : String := "Fastlet Proxy control is unreachable"

/-- A control call as its caller sees it. An unanswered call is left to the environment, which may
execute it at any later time. -/
def callProxy (call : ProxyCall) (answered : Bool) :
    Manager × Except (Option RouteError) (List Route) × List Task :=
  if answered then
    let (m, result) := serveProxy cfg m call
    (m, result.mapError some, [])
  else (m, .error none, [.proxy call])

def controlErrorText : Option RouteError → String
  | none => transportError
  | some err => err.text

/-- The call at a stage of `RemoveRoute`. -/
def removeCall : RemoveStage → ProxyCall
  | .delete => .delete (m.uid p) (atLeastOne (m.config p).identity.routeGeneration)
  | _ => .markDraining (m.uid p) (atLeastOne (m.config p).identity.routeGeneration)

/-- `RemoveRoute` after one of its two calls: a missing route is no error. -/
def removeAnswered (k : AfterRemove) (s : RemoveStage)
    (result : Except (Option RouteError) (List Route)) : Manager × Task :=
  let released := { m with routeMu := false }
  match result, s with
  | .ok _, .markDraining | .error (some .notFound), .markDraining => (m, .removeRoute p k .delete)
  | .ok _, _ | .error (some .notFound), _ => (released, removeReturn cfg m p none k)
  | .error err, _ => (released, removeReturn cfg m p (some (controlErrorText err)) k)

/-! ## ReconcileProxyRoutes -/

def infraPhase : Phase → Bool
  | .infraPending | .initializingInfra | .infraUnavailable => true
  | _ => false

def managedRefs : List Ref := m.sandboxes.entries.map Sigma.snd

/-- The snapshot of `ReconcileProxyRoutes`. One Sandbox with pending Infra stops it. -/
def routesRead (caller : RouteCaller) : Task :=
  let allowed := (managedRefs m).filter fun p => runtimeWorkAllowed m p
  if allowed.any fun p => infraPhase (m.phase p) then
    .routes caller (.unavailable "reconcile proxy routes: sandbox Infra Components unavailable")
  else .routes caller (.check (allowed.map fun p => (p, m.records p)) [] [])

/-- One iteration over the snapshot. -/
def routesCheck (caller : RouteCaller) (todo : List (Ref × SandboxMetadata))
    (publications : List RoutePublication) (owners : List Ref) : Task :=
  match todo with
  | [] => .reconcileRoutes (.reconnect caller owners) publications .snapshot
  | (p, snapshot) :: rest =>
    if runtimeWorkAllowed m p then
      .routes caller (.access p snapshot rest publications owners)
    else .routes caller (.check rest publications owners)

/-- The published Sandboxes that waited for their route are running. -/
def routesFinish (owners : List Ref) : Manager :=
  let m := owners.foldl (fun m p =>
    if runtimeWorkAllowed m p &&
        (decide (m.phase p = .routePending) || decide (m.phase p = .routeUnavailable)) then
      m.setPhase p .running
    else m) m
  { m with routeReady := true, routeMu := false }

/-- The publisher's `ReconcileRoutes` returns. -/
def reconcileReturn : RoutesFor → Manager × List Task
  | .reconnect caller owners =>
    (m, [match err with
      | some text => .routes caller (.unavailable text)
      | none => .routes caller (.finish owners)])
  | .recover records =>
    ({ m with routeMu := false }, [.recover (if err.isSome then .start else .finish records)])

/-- The routes of a proxy snapshot that are not to be published. -/
def undesired (publications : List RoutePublication) (routes : List Route) : List Route :=
  routes.filter fun route => publications.all fun p => p.sandboxUID ≠ route.sandboxUID

/-- The call at a stage of `ReconcileRoutes`; none is left at an empty list. -/
def reconcileCall : ReconcileStage → Option ProxyCall
  | .lock => none
  | .snapshot => some .snapshot
  | .deletes [] => none
  | .deletes (route :: _) => some (.delete route.sandboxUID route.routeGeneration)
  | .applies [] => none
  | .applies (publication :: _) => some (.apply (routeFromPublication publication))

/-- `ReconcileRoutes` after a call; the first refusal ends it. -/
def reconcileAnswered (f : RoutesFor) (publications : List RoutePublication)
    (s : ReconcileStage) : Except (Option RouteError) (List Route) → Manager × List Task
  | .error err => reconcileReturn m (some (controlErrorText err)) f
  | .ok routes =>
    match s with
    | .snapshot => (m, [.reconcileRoutes f publications (.deletes (undesired publications routes))])
    | .deletes (_ :: rest) => (m, [.reconcileRoutes f publications (.deletes rest)])
    | .applies (_ :: rest) => (m, [.reconcileRoutes f publications (.applies rest)])
    | s => (m, [.reconcileRoutes f publications s])

/-! ## PrepareInfra -/

/-- The Sandboxes `ReconcilePendingInfra` visits first. -/
def prepareCollect : Task :=
  match (managedRefs m).filter fun p => dataPlaneWorkPending (m.phase p) with
  | [] => .prepare (.running none)
  | p :: rest => .data p (.pending rest none) .once

def prepareRunning : Task :=
  .startData ((managedRefs m).filter fun p => decide (m.phase p = .running) && cfg.infraManager)
    (.prepare err)

/-! ## Bindings -/

def actionStatusesReady (statuses : List ActionBindingStatus) : Bool :=
  statuses.all fun status => status.state = some .ready

/-- The first section of `ReconcileBindings`. -/
def beginBindings (req : ReconcileBindingsRequest) : List Task :=
  if req.specGeneration ≤ 0 ∨ (validateIdentityTarget cfg req.identity).isSome then []
  else
    match m.lookup req.identity.sandboxUID with
    | none => []
    | some p =>
      if (validateIdentityFence cfg.fastletPodUID (m.config p).identity req.identity).isSome ||
          !runtimeWorkAllowed m p then []
      else
        match cfg.actionManager with
        | some _ => [.bindings p req .wait]
        | none =>
          if effectiveSandboxActionAPIVersion (m.config p).actionsAPIVersion = apiVersionV1 ∧
              req.actionBindings = [] then
            [.bindings p req .apply]
          else []

/-- `ReconcileBindings` without an Action Manager. -/
def applyBindings (req : ReconcileBindingsRequest) : Manager :=
  if runtimeWorkAllowed m p then
    m.modify p fun record => { record with
      acceptedGeneration := req.specGeneration, appliedGeneration := req.specGeneration }
  else m

/-- The phase after the Action Manager reconciled. -/
def bindingsPhase (phase : Phase) (statuses : List ActionBindingStatus) (err : Option String) :
    Phase :=
  if err.isSome then (if routeReadyForPhase phase then .actionUnavailable else phase)
  else if actionStatusesReady statuses ∧ (phase = .actionPending ∨ phase = .actionUnavailable) then
    .running
  else phase

/-- The last section of `ReconcileBindings`. -/
def settleBindings (req : ReconcileBindingsRequest)
    (statuses : List ActionBindingStatus) (generation : ℤ) (err : Option String) : Manager :=
  if runtimeWorkAllowed m p then
    m.modify p fun record => { record with
      phase := bindingsPhase record.phase statuses err
      actionBindingStatuses := statuses
      acceptedGeneration := req.specGeneration
      appliedGeneration := generation }
  else m

/-- The phase `actionStateChanged` projects a Binding snapshot to. -/
def projectedPhase (phase : Phase) (statuses : List ActionBindingStatus) (generation : ℤ) : Phase :=
  if !routeReadyForPhase phase then phase
  else if 0 < generation ∧ actionStatusesReady statuses then .running
  else if statuses.any fun status => status.state = some .failed then .actionUnavailable
  else .actionPending

/-- `actionStateChanged` after the Action Manager's snapshot was read. -/
def actionStateChanged (sandboxUID : String) (statuses : List ActionBindingStatus)
    (generation : ℤ) : Manager :=
  match m.lookup sandboxUID with
  | none => m
  | some p =>
    if m.terminalFailureWorkers sandboxUID = some p then m
    else
      match m.phase p with
      | .terminating | .deleting | .deleteFailed | .runtimeFailureCleanup | .runtimeFailed => m
      | phase =>
        m.modify p fun record => { record with
          phase := projectedPhase phase statuses generation
          actionBindingStatuses := statuses
          appliedGeneration := generation }

/-! ## Recovery -/

def DriverPhase.phase : DriverPhase → Phase
  | running => .running
  | runtimeFailed => .runtimeFailed
  | unset => .unknown
  | other text => .other text

def ownEntry (entry : InventoryEntry) : Bool :=
  entry.config.identity.sandboxUID ≠ "" &&
    (cfg.fastletPodUID = "" || entry.config.identity.fastletPodUID = "" ||
      entry.config.identity.fastletPodUID = cfg.fastletPodUID)

def recoveredIdentity (identity : SandboxIdentity) : SandboxIdentity :=
  { identity with
    instanceGeneration := atLeastOne identity.instanceGeneration
    runtimeInstanceID :=
      if identity.runtimeInstanceID = "" then "legacy-" ++ identity.sandboxUID
      else identity.runtimeInstanceID
    assignmentAttempt := atLeastOne identity.assignmentAttempt
    routeGeneration := atLeastOne identity.routeGeneration }

/-- The record recovery makes of an entry, unless its Infra revision is not the Fastlet's. -/
def recoverEntry (entry : InventoryEntry) : Except String SandboxMetadata :=
  let config := { entry.config with identity := recoveredIdentity entry.config.identity }
  let phase := entry.phase.phase
  let record := fun phase => ({ config, phase, infraServices := entry.infraServices } :
    SandboxMetadata)
  if phase = .runtimeFailed then .ok (record phase)
  else if cfg.infraManager then
    if config.desired.infraRevision ≠ cfg.infraRevision then
      .error "recovered Sandbox Infra revision does not match Fastlet"
    else .ok (record .infraPending)
  else if (cfg.actionManager.map ActionSettings.required).getD false then
    .ok (record .actionPending)
  else .ok (record phase)

/-- The records by UID; of two entries with one UID the later one counts. -/
def recoverEntries (cfg : Config) :
    List InventoryEntry → Table SandboxMetadata → Except String (List SandboxMetadata)
  | [], table => .ok (table.entries.map Sigma.snd)
  | entry :: rest, table =>
    if !ownEntry cfg entry then recoverEntries cfg rest table
    else
      match recoverEntry cfg entry with
      | .error err => .error err
      | .ok record =>
        recoverEntries cfg rest (table.insert record.config.identity.sandboxUID record)

def pendingInfra (records : List SandboxMetadata) : Bool :=
  cfg.infraManager && records.any fun record => record.phase ≠ .runtimeFailed

/-- `Recover` once the routes to publish are known. -/
def recoverRoutes (records : List SandboxMetadata)
    (publications : List RoutePublication) : Task :=
  if cfg.routePublisher && !pendingInfra cfg records then
    .reconcileRoutes (.recover records) publications .lock
  else .recover (.finish records)

/-- `Recover` with the runtime's inventory. The drivers leave out what they cannot read, and do not
say so. -/
def recoverList (entries : List InventoryEntry) :
    Manager × List Task :=
  let own := (entries.filter (ownEntry cfg)).map fun entry => entry.config.identity.sandboxUID
  let m := { m with
    instances := own
    unlisted := (m.instances ++ m.unlisted).filter (· ∉ own) }
  match recoverEntries cfg entries ∅ with
  | .error _ => (m, [.recover .start])
  | .ok records =>
    if cfg.capacity < records.countP fun record => record.phase ≠ .runtimeFailed then
      (m, [.recover .start])
    else if cfg.infraManager || !cfg.routePublisher then (m, [recoverRoutes cfg records []])
    else
      (m, [.recover (.access (records.filter fun record => record.phase ≠ .runtimeFailed) []
        records)])

/-- The last section of `Recover`. -/
def recoverFinish (records : List SandboxMetadata) : Manager :=
  let m := records.foldl Manager.install { m with sandboxes := ∅ }
  { m with
    recovering := false
    runtimeReady := true
    routeReady := !cfg.routePublisher || !pendingInfra cfg records }

end FastSandbox.Fastlet
