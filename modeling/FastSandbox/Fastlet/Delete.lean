import FastSandbox.Fastlet.Create

/-!
# Sections of DeleteSandbox, asyncDelete and the terminal-failure workers
-/

namespace FastSandbox.Fastlet

open Function

/-! ## DeleteSandboxContext -/

variable (cfg : Config) (m : Manager) (identity : SandboxIdentity)

def answerDelete (error : Option FastletError) :
    Manager × List Task :=
  (m.write (.deleted identity error), [])

variable (p : Ref)

/-- `cancelImageBootWorkerLocked` and `cancelDataPlaneReconcileLocked`. -/
def cancelWorkers : Manager :=
  { m with
    imageBootWorkers :=
      if m.imageBootWorkers (m.uid p) = some p then
        update m.imageBootWorkers (m.uid p) none
      else m.imageBootWorkers
    dataPlaneWorkers :=
      if m.dataPlaneWorkers (m.uid p) = some p then
        update m.dataPlaneWorkers (m.uid p) none
      else m.dataPlaneWorkers }

/-- Is the creation of the record still running, as its phase tells? -/
def creatingPhase (phase : Phase) : Bool := phase = .creating || phase = .imagePending

/-- The phase change of an accepted Delete, and whether the creation is left to clean up. -/
def markTerminating (strictActions : Bool) : Manager × Bool :=
  if m.phase p = .terminating then (m, m.createDeletePending (m.uid p))
  else
    let wasCreating := creatingPhase (m.phase p)
    let m := (cancelWorkers m p).setPhase p .terminating
    (if strictActions && wasCreating then
        { m with createDeletePending := update m.createDeletePending (m.uid p) true }
      else m, wasCreating)

/-- The end of the first section: the tombstone is recorded. -/
def acceptDelete (d : Deletion) : Manager × List Task :=
  ((recordTombstone m d.identity).write (.accepted d.identity),
    [.delete d
      (if d.strictActions then .owned
      else if d.record.isSome && cfg.actionManager.isSome then .actions
      else .dispatch)])

/-- `DeleteSandboxContext` on a managed record, from the identity fence on. -/
def beginDeleteRecord :
    Manager × List Task :=
  let strictActions := strict cfg m p
  match validateIdentityFence cfg.fastletPodUID (m.config p).identity identity with
  | some failure => answerDelete m identity (some failure)
  | none =>
    if strictActions && cfg.actionManager.isNone then
      answerDelete m identity (some (fastletError .actionUnavailable
        "strict Action Handler is unavailable; runtime cleanup is blocked" true))
    else if m.phase p = .deleting ∨ (m.phase p = .terminating ∧ !strictActions) then
      answerDelete m identity none
    else
      let (m, wasCreating) := markTerminating m p strictActions
      acceptDelete cfg m ⟨identity, some p, strictActions, wasCreating⟩

/-- The first section of `DeleteSandboxContext`. -/
def beginDelete : Manager × List Task :=
  match validateIdentityTarget cfg identity with
  | some failure => answerDelete m identity (some failure)
  | none =>
    if m.recovering ∨ !m.runtimeReady then
      answerDelete m identity (some (fastletError .runtimeUnavailable
        "runtime inventory recovery is incomplete" true))
    else
      match m.lookup identity.sandboxUID with
      | some p => beginDeleteRecord cfg m identity p
      | none => acceptDelete cfg m ⟨identity, none, requiresStrictActionHandling cfg "", false⟩

/-- `dispatchDeleteAfterRetirement`, and the answer. -/
def dispatchDelete (d : Deletion) : Manager × List Task :=
  let uid := d.identity.sandboxUID
  let (m, ts) : Manager × List Task :=
    match d.record with
    | none => (m, [])
    | some p =>
      if !d.wasCreating then
        let terminalCleanupInFlight := m.terminalFailureWorkers uid = some p
        let m :=
          if m.lookup uid = some p then
            let m := { m with
              createDeletePending := update m.createDeletePending uid false }
            if d.strictActions then m.setPhase p .deleting else m
          else m
        (m, if terminalCleanupInFlight then [] else [.asyncDelete p .start])
      else if d.strictActions && m.lookup uid = some p && !m.createDeletePending uid then
        (m.setPhase p .deleting, [.asyncDelete p .start])
      else (m, [])
  (m.write (.deleted d.identity none), ts)

/-! ## asyncDelete -/

/-- The step after the owner is confirmed retired. -/
def beginRemoval (k : AfterRemove) (skip : Task) : Task :=
  if cfg.routePublisher then .removeRoute p k .lock else skip

def asyncDeleteRemoval : Task := beginRemoval cfg p .asyncDelete (.asyncDelete p .teardown)

/-- The first section of `asyncDelete`: one worker per record. -/
def beginAsyncDelete : Manager × List Task :=
  let uid := m.uid p
  if ¬ m.Current p then (m, [])
  else if m.deleteWorkers uid = some p then
    ({ m with deleteRetryRequested := update m.deleteRetryRequested uid (some p) }, [])
  else
    ({ m with
        deleteWorkers := update m.deleteWorkers uid (some p)
        deleteRetryRequested := update m.deleteRetryRequested uid none },
      [if strict cfg m p then
          .asyncDelete p (if cfg.actionManager.isNone then .failed else .confirm)
        else asyncDeleteRemoval cfg p])

/-- A failed deletion keeps the record, and its slot, for a retry. -/
def failAsyncDelete : Manager := if m.Current p then m.setPhase p .deleteFailed else m

/-- The section after `runtime.DeleteSandbox`. -/
def settleAsyncDelete : Option String → Manager
  | some _ => failAsyncDelete m p
  | none =>
    if m.Current p then
      let identity := (m.config p).identity
      (recordTombstone m { identity with
        sandboxNamespace := "", name := "", routeGeneration := 0 }).drop (m.uid p)
    else m

/-- The deferred end of `asyncDelete`. -/
def releaseAsyncDelete : Manager × List Task :=
  let uid := m.uid p
  let retry := m.deleteRetryRequested uid = some p ∧ m.Current p
  ({ m with
      deleteWorkers :=
        if m.deleteWorkers uid = some p then update m.deleteWorkers uid none
        else m.deleteWorkers
      deleteRetryRequested :=
        if m.deleteRetryRequested uid = some p then
          update m.deleteRetryRequested uid none
        else m.deleteRetryRequested },
    if retry then [.asyncDelete p .start] else [])

/-! ## finishStrictCreateDelete -/

def strictDeleteFailed : Manager := if m.Current p then m.setPhase p .terminating else m

def strictDeleteDone : Manager × List Task :=
  if m.Current p then (m.setPhase p .deleting, [.asyncDelete p .start]) else (m, [])

/-! ## Terminal failures -/

/-- The first section of `preserveExitedRuntime`: the worker is reserved before the durable
record is written. -/
def beginPreserve (sandboxUID : String) (identity : SandboxIdentity) :
    Manager × List Task :=
  match m.lookup sandboxUID with
  | none => (m, [])
  | some p =>
    if cfg.terminalFailureHandler && runtimeWorkAllowed m p &&
        decide ((m.config p).identity = identity) then
      ({ m with
          terminalFailureWorkers := update m.terminalFailureWorkers sandboxUID (some p)
          dataPlaneWorkers :=
            if m.dataPlaneWorkers (m.uid p) = some p then
              update m.dataPlaneWorkers (m.uid p) none
            else m.dataPlaneWorkers },
        [.recordFailure p])
    else (m, [])

/-- The section after the failure is recorded. -/
def recordedFailure : Manager × List Task :=
  if m.Current p ∧ runtimeCreatedPhase (m.phase p) then
    (m.setPhase p .runtimeFailureCleanup, [.terminal p .start])
  else (m, [.terminal p .finish])

def startTerminalFailureCleanup (sandboxUID : String) (p : Ref) :
    Manager × List Task :=
  if m.lookup sandboxUID = some p ∧ m.phase p = .runtimeFailureCleanup ∧
      m.terminalFailureWorkers sandboxUID ≠ some p then
    ({ m with
        terminalFailureWorkers := update m.terminalFailureWorkers sandboxUID (some p) },
      [.terminal p .start])
  else (m, [])

/-- The step of `cleanupTerminalFailure` after the route is removed. -/
def terminalReclaim : Task := .terminal p (if cfg.terminalFailureHandler then .cleanup else .finish)

def terminalRemoval : Task := beginRemoval cfg p .terminal (terminalReclaim cfg p)

/-- `cleanupTerminalFailure` from its start. -/
def beginTerminal : Task :=
  if strict cfg m p then .terminal p (if cfg.actionManager.isNone then .finish else .owned)
  else if cfg.actionManager.isSome then .terminal p .actions
  else terminalRemoval cfg p

/-- The last section of `cleanupTerminalFailure`. -/
def settleTerminal : Manager :=
  if m.Current p ∧ m.phase p = .runtimeFailureCleanup then m.setPhase p .runtimeFailed else m

/-- `finishTerminalFailureWorker`: an accepted Delete waited for this worker. -/
def finishTerminal : Manager × List Task :=
  ({ m with
      terminalFailureWorkers :=
        if m.terminalFailureWorkers (m.uid p) = some p then
          update m.terminalFailureWorkers (m.uid p) none
        else m.terminalFailureWorkers },
    if m.Current p ∧ (m.phase p = .terminating ∨ m.phase p = .deleting) then
      [.asyncDelete p .start]
    else [])

/-- `GetSandboxStatuses` at one Sandbox. -/
def observeSandbox (m : Manager) (sandboxUID : String) (exited : Bool) : List Task :=
  match m.lookup sandboxUID with
  | none => []
  | some p =>
    if m.phase p = .runtimeFailureCleanup then [.startTerminal sandboxUID none]
    else if runtimeCreatedPhase (m.phase p) && exited then
      [.preserve sandboxUID (m.config p).identity]
    else []

/-! ## Inspection and switches -/

def inspectSandbox :
    Except FastletError SandboxMetadata :=
  match validateIdentityTarget cfg identity with
  | some failure => .error failure
  | none =>
    if m.recovering ∨ !m.runtimeReady then
      .error (fastletError .runtimeUnavailable "runtime inventory recovery is incomplete" true)
    else
      match m.lookup identity.sandboxUID with
      | none => .error (fastletError .notFound "Sandbox is not managed by this Fastlet" false)
      | some p =>
        match validateIdentityFence cfg.fastletPodUID (m.config p).identity identity with
        | some failure => .error failure
        | none => .ok (m.records p)

def setDraining (req : SetDrainingRequest) : Manager :=
  if req.fastletPodUID ≠ "" ∧ cfg.fastletPodUID ≠ "" ∧ req.fastletPodUID ≠ cfg.fastletPodUID then m
  else if m.draining ∧ m.drainID ≠ "" ∧ req.drainID ≠ "" ∧ m.drainID ≠ req.drainID then m
  else if !req.draining ∧ m.draining ∧ m.drainID ≠ "" ∧ req.drainID ≠ m.drainID then m
  else
    { m with
      draining := req.draining
      drainReason := req.reason
      drainID := if !req.draining then "" else if req.drainID ≠ "" then req.drainID else m.drainID }

def setResourceAdmissionState (state : AdmissionState) (reason : String) : Manager :=
  { m with resourceState := state, resourceReason := if state = .open then "" else reason }

end FastSandbox.Fastlet
