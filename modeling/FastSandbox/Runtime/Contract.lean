import FastSandbox.Fastlet.Types
import FastSandbox.Network.Calls

/-!
# What the runtime drivers share

A driver's call for one Sandbox is a function of the node it runs on and of the fate of each step.
`SameRuntimeIdentity` compares every field of an identity, so it is equality here.
-/

namespace FastSandbox.Runtime

open Fastlet (RuntimeSandboxConfig)
open Network (Owner)

/-- The identity under which a driver acquires and releases a slot. -/
def networkOwner (config : RuntimeSandboxConfig) : Owner where
  sandboxUID := config.identity.sandboxUID
  instanceGeneration :=
    if config.identity.instanceGeneration ≤ 0 then 1 else config.identity.instanceGeneration
  runtimeInstanceID := config.identity.runtimeInstanceID
  assignmentAttempt :=
    if config.identity.assignmentAttempt ≤ 0 then 1 else config.identity.assignmentAttempt

def validateProfile (existing requested : RuntimeSandboxConfig) : Bool :=
  existing.desired.runtimeProfileHash = requested.desired.runtimeProfileHash ∧
    existing.desired.resourceProfileHash = requested.desired.resourceProfileHash ∧
    existing.desired.infraRevision = requested.desired.infraRevision ∧
    existing.limits = requested.limits

end FastSandbox.Runtime
