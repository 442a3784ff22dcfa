import FastSandbox.Fastlet.Moves

/-!
# What a section writes

A section writes at most one entry, and only the proxy's own calls change the proxy's store. A
Create that is rejected after its admission has left nothing behind.
-/

namespace FastSandbox.Fastlet

open DataPlane

/-- The Create whose answer the task may be about to write. -/
def Task.answers : Task → Option CreateSandboxRequest
  | .call (.create req) => some req
  | .creation c (.registerFailed _ _) | .creation c .park | .creation c (.startBoot _)
  | .creation c (.commit _) | .cleanup _ c (.settle _) | .retryCleanup c => some c.req
  | .finishCreate req _ => some req
  | _ => none

/-- The log and the proxy's store are as before. -/
structure Quiet (m m' : Manager) : Prop where
  log : m'.log = m.log
  proxy : m'.proxy = m.proxy

/-- Neither the manager nor the runtime holds the Sandbox. -/
def Absent (m : Manager) (uid : String) : Prop :=
  m.lookup uid = none ∧ uid ∉ m.instances ∧ uid ∉ m.unlisted

instance (m : Manager) (uid : String) : Decidable (Absent m uid) :=
  inferInstanceAs (Decidable (_ ∧ _))

/-- What a section of `t` writes, and what it does to the proxy's store. -/
inductive Logged (cfg : Config) (m : Manager) (t : Task) (m' : Manager) : Prop
  | quiet (h : Quiet m m')
  | created (req : CreateSandboxRequest) (response : CreateSandboxResponse)
      (ht : t.answers = some req) (hlog : m'.log = .created req response :: m.log)
      (hproxy : m'.proxy = m.proxy)
      (hrejected : response.disposition = .rejectedBeforeSideEffects →
        t = .call (.create req) ∨ (req.identity.sandboxUID ∉ m.unlisted →
          Absent m' req.identity.sandboxUID))
  | accepted (i : SandboxIdentity) (ht : t = .call (.delete i))
      (hlog : m'.log = .accepted i :: m.log) (hproxy : m'.proxy = m.proxy)
      (hcovers : covers (m'.tombstones i.sandboxUID) i)
  | deleted (i : SandboxIdentity) (error : Option FastletError)
      (hlog : m'.log = .deleted i error :: m.log) (hproxy : m'.proxy = m.proxy)
  | inspected (i : SandboxIdentity) (result : Except FastletError SandboxMetadata)
      (hlog : m'.log = .inspected i result :: m.log) (hproxy : m'.proxy = m.proxy)
  | served (call : ProxyCall)
      (hlog : m'.log = .served call (m.proxy.serve cfg.parseIP call).2 :: m.log)
      (hproxy : m'.proxy = (m.proxy.serve cfg.parseIP call).1)
  | restarted (ht : t = .call .restartProxy) (hlog : m'.log = .proxyRestarted :: m.log)
      (hproxy : m'.proxy = {})

section

variable {cfg : Config} {m m' : Manager} {t : Task}

/-- Whatever else it changes, a section that leaves the log and the proxy's store alone is quiet. -/
theorem Logged.still (h : (m'.log, m'.proxy) = (m.log, m.proxy)) : Logged cfg m t m' :=
  .quiet ⟨congrArg Prod.fst h, congrArg Prod.snd h⟩

theorem Logged.answer {req : CreateSandboxRequest} {response : CreateSandboxResponse}
    (ht : t.answers = some req) (h : Quiet m m')
    (hd : response.disposition ≠ .rejectedBeforeSideEffects) :
    Logged cfg m t (m'.write (.created req response)) :=
  .created req response ht (congrArg (_ :: ·) h.log) h.proxy fun h => absurd h hd

/-- The answer to the Create itself says nothing yet about what is there. -/
theorem Logged.answerCall {req : CreateSandboxRequest} {response : CreateSandboxResponse} :
    Logged cfg m (.call (.create req)) (m.write (.created req response)) :=
  .created req response rfl rfl rfl fun _ => .inl rfl

theorem quiet_recordTombstone (i : SandboxIdentity) : Quiet m (recordTombstone m i) := ⟨rfl, rfl⟩

theorem serveProxy_spec (cfg : Config) (m : Manager) (call : ProxyCall) :
    (serveProxy cfg m call).1.log = .served call (m.proxy.serve cfg.parseIP call).2 :: m.log ∧
      (serveProxy cfg m call).1.proxy = (m.proxy.serve cfg.parseIP call).1 := by
  unfold serveProxy
  cases m.proxy.serve cfg.parseIP call
  exact ⟨rfl, rfl⟩

end

end FastSandbox.Fastlet
