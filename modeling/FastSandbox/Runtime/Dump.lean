import Mathlib.Tactic.Common

/-!
# The pause window of a snapshot

`dumpRunningSandbox` pauses the microVM, dumps it and resumes it, all with the caller's context. A
request whose context is done is not sent. File system steps and the errors before the pause are
outcomes of the environment; none of them touches the microVM.
-/

namespace FastSandbox.Runtime

inductive VMState
  | running
  | paused

/-- What becomes of one request to the API socket. It may take effect and still return an error. -/
structure Request where
  (sent effective : Bool)
  err : Option String
  sent_of_effective : effective → sent
  effective_of_ok : err = none → effective

/-- The request of a context that is done. -/
def Request.unsent : Request := ⟨false, false, some "context canceled", nofun, nofun⟩

/-- One answer of `waitVMRunning`'s loop, and whether it gives up after it. -/
structure Poll where
  state : Except String VMState
  giveUp : Option String

/-- What the environment decides. The requests are numbered: `cancelled` is the first one that
finds the context done. -/
structure Fate where
  preflight : Option String
  (ociRoot rootfsCloned : Bool)
  cancelled : Option ℕ
  (pause create resume : Request)
  (copyRootfs captureUpper relocate : Option String)
  polls : List Poll

namespace Fate

variable (f : Fate)

def request (index : ℕ) (r : Request) : Request :=
  if f.cancelled.any (· ≤ index) then .unsent else r

/-- The polls start with the fourth request; where they end, the deadline has passed. -/
def waitVMRunning : ℕ → List Poll → Option String
  | _, [] => some "Firecracker VM did not reach Running"
  | index, poll :: polls =>
    if f.cancelled.any (· ≤ index) then some "query Firecracker VM state: context canceled"
    else
      match poll.state with
      | .error err => some ("query Firecracker VM state: " ++ err)
      | .ok .running => none
      | .ok .paused =>
        match poll.giveUp with
        | some err => some err
        | none => waitVMRunning (index + 1) polls

def dumpErr : Option String :=
  match if f.rootfsCloned || f.ociRoot then none else f.copyRootfs with
  | some err => some ("copy instance rootfs: " ++ err)
  | none =>
    match (f.request 1 f.create).err with
    | some err => some ("create Firecracker snapshot: " ++ err)
    | none =>
      (if f.ociRoot then f.captureUpper else none).map ("freeze OverlayBD private upper: " ++ ·)

/-- `resumeVM`. -/
def resumeErr : Option String :=
  match (f.request 2 f.resume).err with
  | some err => some ("resume Firecracker instance: " ++ err)
  | none => f.waitVMRunning 3 f.polls

end Fate

/-- How `dumpRunningSandbox` leaves the microVM, the resume request it made, and its error. -/
structure Dumped where
  vm : VMState
  resume : Option Request
  err : Option String

def dumpRunningSandbox (f : Fate) : Dumped :=
  match f.preflight with
  | some err => ⟨.running, none, some err⟩
  | none =>
    let pause := f.request 0 f.pause
    let vm := if pause.effective then VMState.paused else .running
    match pause.err with
    | some err => ⟨vm, none, some ("pause microVM: " ++ err)⟩
    | none =>
      let resume := f.request 2 f.resume
      let vm := if resume.effective then .running else vm
      ⟨vm, resume,
        match f.resumeErr, f.dumpErr with
        | some err, some dumpErr => some (dumpErr ++ "\nresume microVM after failed dump: " ++ err)
        | some err, none => some ("resume microVM after snapshot: " ++ err)
        | none, some dumpErr => some dumpErr
        | none, none => f.relocate⟩

/-- The microVM runs, unless a resume request that was sent failed. -/
def Dumped.Resumed (d : Dumped) : Prop :=
  d.vm = .running ∨ ∃ resume, d.resume = some resume ∧ resume.sent ∧ resume.err ≠ none

/-- **The microVM is resumed** exactly if, once a pause took effect, it returned without an error
and the resume request was sent. -/
theorem dump_resumed_iff (f : Fate) : (dumpRunningSandbox f).Resumed ↔
    (f.preflight = none → (f.request 0 f.pause).effective →
      (f.request 0 f.pause).err = none ∧ (f.request 2 f.resume).sent) := by
  unfold dumpRunningSandbox Dumped.Resumed
  cases f.preflight with
  | some => simp
  | none =>
    generalize f.request 0 f.pause = pause
    generalize f.request 2 f.resume = resume
    dsimp only
    cases hp : pause.err with
    | some err => cases pause.effective <;> simp
    | none =>
      have he := pause.effective_of_ok hp
      cases hr : resume.err with
      | none =>
        have ho := resume.effective_of_ok hr
        simp [ho, resume.sent_of_effective ho]
      | some err =>
        cases hs : resume.effective with
        | true => simp [resume.sent_of_effective hs]
        | false => simp [he, hr]

def okRequest : Request := ⟨true, true, none, fun _ => rfl, fun _ => rfl⟩

/-- A context that is done during the dump, and a pause that took effect and returned an error,
leave the microVM paused without a resume request. -/
theorem interrupted_dump_leaves_paused :
    let f : Fate := ⟨none, false, true, some 1, okRequest, okRequest, okRequest, none, none, none,
      []⟩
    let lost : Request := ⟨true, true, some "context deadline exceeded", fun _ => rfl, nofun⟩
    ((dumpRunningSandbox f).vm = .paused ∧ (dumpRunningSandbox f).resume = some .unsent) ∧
      (dumpRunningSandbox { f with pause := lost }).vm = .paused ∧
      (dumpRunningSandbox { f with pause := lost }).resume = none :=
  ⟨⟨rfl, rfl⟩, rfl, rfl⟩

end FastSandbox.Runtime
