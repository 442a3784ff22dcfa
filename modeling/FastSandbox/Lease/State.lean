import FastSandbox.DataPlane.RouteStore
import FastSandbox.Lib.Interleaving
import FastSandbox.Lib.LineLog

/-!
# The lease state of the Firecracker runtime agent

Pins, device leases and the answers to completed requests live in memory and are rebuilt from a
journal. A mutating call writes an intent line, runs its side effect without the lock, and then
applies, remembers and journals its result in one section. Any append may fail after any number
of bytes, and the agent may be restarted between any two sections; a restart is also what follows
a crash. Timestamps of journal lines and the read-only calls are left out.
-/

namespace FastSandbox.Lease

open DataPlane (StringMap)
open Interleaving LineLog
open Function

/-! ## Requests -/

inductive Op
  | pinImage
  | unpinImage
  | leaseDevices
  | releaseDevices
deriving DecidableEq

structure Identity where
  requestID : String
  callerNamespace : String := ""
  podUID : String
deriving DecidableEq

/-- A mutating call with its arguments. -/
inductive Operation
  | pinImage (image : String)
  | unpinImage (image : String)
  | leaseDevices (sandboxID image : String) (memSizeMiB : ℤ) (rootfsWritable : Bool)
  | releaseDevices (leaseID : String)
deriving DecidableEq

def Operation.op : Operation → Op
  | pinImage _ => .pinImage
  | unpinImage _ => .unpinImage
  | leaseDevices .. => .leaseDevices
  | releaseDevices _ => .releaseDevices

/-- The Sandbox whose lease a call creates or returns. -/
def Operation.sandbox : Operation → Option String
  | leaseDevices sandboxID .. => some sandboxID
  | _ => none

structure Request where
  id : Identity
  operation : Operation
deriving DecidableEq

/-- The Pod and the operation of a call. -/
def Request.owner (req : Request) : String × Op := (req.id.podUID, req.operation.op)

def isSpace (c : Char) : Bool :=
  (9 ≤ c.toNat && c.toNat ≤ 13) || c.toNat = 0x20 || c.toNat = 0x85 || c.toNat = 0xA0 ||
    c.toNat = 0x1680 || (0x2000 ≤ c.toNat && c.toNat ≤ 0x200a) || c.toNat = 0x2028 ||
    c.toNat = 0x2029 || c.toNat = 0x202f || c.toNat = 0x205f || c.toNat = 0x3000

/-- `strings.TrimSpace(s) == ""`. -/
def blank (s : String) : Bool := s.toList.all isSpace

def Operation.required : Operation → List String
  | pinImage image | unpinImage image => [image]
  | leaseDevices sandboxID image _ _ => [sandboxID, image]
  | releaseDevices leaseID => [leaseID]

/-- What the server checks before it calls the state. -/
def Request.valid (req : Request) : Bool :=
  !blank req.id.podUID && !blank req.id.requestID && req.operation.required.all (!blank ·)

/-! ## Results -/

structure DeviceLease where
  (leaseID sandboxID image podUID callerNamespace rootfsDev memDev : String := "")
  createdAt : ℕ := 0
deriving DecidableEq

/-- The value a side effect returns; `none` is Go's `nil`. -/
inductive Result
  | none
  | pinned (manifestDigest : String)
  | leased (lease : DeviceLease)
deriving DecidableEq

/-- Decoding as a `pinImageResult`: a missing field is empty. -/
def Result.manifestDigest : Result → String
  | pinned manifestDigest => manifestDigest
  | _ => ""

/-- Decoding as a `Lease`: missing fields are empty. -/
def Result.lease : Result → DeviceLease
  | leased lease => lease
  | _ => {}

inductive Failure
  | requestCommittedAs (requestID : String) (op : Op)
  | requestCommittedBy (requestID podUID : String)
  | sandboxLeasedBy (sandboxID podUID : String)
  | leaseOwnedBy (leaseID podUID : String)
  | journalIntent (op : Op)
  | journalResult (op : Op)
  | sideEffect (message : String)

/-- What a call makes of the value that `run` returns. -/
def Operation.answer : Operation → Result → Result
  | pinImage _, result => .pinned result.manifestDigest
  | leaseDevices .., result => .leased result.lease
  | unpinImage _, _ | releaseDevices _, _ => .none

/-- What the environment decides in a side effect: the digest of a pulled image, the ID and the
device paths of a new lease. -/
structure SideEffect where
  (manifestDigest leaseID rootfsDev memDev : String := "")
  createdAt : ℕ := 0

/-- The `do` callback. -/
def Request.result (req : Request) (effect : SideEffect) : Result :=
  match req.operation with
  | .pinImage _ => .pinned effect.manifestDigest
  | .leaseDevices sandboxID image _ _ => .leased
      { leaseID := effect.leaseID
        sandboxID
        image
        podUID := req.id.podUID
        callerNamespace := req.id.callerNamespace
        rootfsDev := effect.rootfsDev
        memDev := effect.memDev
        createdAt := effect.createdAt }
  | .unpinImage _ | .releaseDevices _ => .none

/-! ## Tables -/

structure ImageRefs where
  (pinCount leaseCount : ℤ := 0)

/-- The remembered outcome of a committed request. -/
structure Completed where
  op : Op
  podUID : String
  pinDigest : String := ""
  lease : Option DeviceLease := none

def Completed.owner (c : Completed) : String × Op := (c.podUID, c.op)

def Completed.result (c : Completed) : Result :=
  match c.op, c.lease with
  | .pinImage, _ => .pinned c.pinDigest
  | .leaseDevices, some lease => .leased lease
  | _, _ => .none

def Completed.setResult (c : Completed) (result : Result) : Completed :=
  match c.op, result with
  | .pinImage, .pinned manifestDigest => { c with pinDigest := manifestDigest }
  | .leaseDevices, .leased lease => { c with lease := some lease }
  | _, _ => c

/-- What the journal rebuilds. -/
structure Tables where
  leases : StringMap DeviceLease := ∅
  bySandbox : String → Option String := fun _ => none
  images : String → Option ImageRefs := fun _ => none
  completed : String → Option Completed := fun _ => none

namespace Tables

variable (s : Tables)

def setImage (image : String) (refs : ImageRefs) : Tables :=
  { s with images := update s.images image (some refs) }

def complete (requestID : String) (c : Completed) : Tables :=
  { s with completed := update s.completed requestID (some c) }

def addLease (lease : DeviceLease) : Tables :=
  let refs := (s.images lease.image).getD {}
  { s with
    leases := s.leases.insert lease.leaseID lease
    bySandbox := update s.bySandbox lease.sandboxID (some lease.leaseID) }.setImage
    lease.image { refs with leaseCount := refs.leaseCount + 1 }

/-- Drop a lease; `count` is how its image's lease count goes down. -/
def dropLease (leaseID : String) (count : ℤ → ℤ) : Tables :=
  match s.leases.lookup leaseID with
  | none => s
  | some lease =>
    let s := { s with
      leases := s.leases.erase leaseID
      bySandbox := update s.bySandbox lease.sandboxID none }
    match s.images lease.image with
    | none => s
    | some refs => s.setImage lease.image { refs with leaseCount := count refs.leaseCount }

/-- The `apply` callback of each call. -/
def apply (operation : Operation) (result : Result) : Tables :=
  match operation with
  | .pinImage image =>
    let refs := (s.images image).getD {}
    s.setImage image { refs with pinCount := refs.pinCount + 1 }
  | .unpinImage image =>
    match s.images image with
    | none => s
    | some refs => s.setImage image { refs with pinCount := max (refs.pinCount - 1) 0 }
  | .leaseDevices .. => s.addLease result.lease
  | .releaseDevices leaseID => s.dropLease leaseID fun n => max (n - 1) 0

/-- `bumpPin`, which rejects a pin without image. -/
def bumpPin (image : String) (delta : ℤ) : Option Tables :=
  if image = "" then none
  else
    let refs := (s.images image).getD {}
    some (s.setImage image { refs with pinCount := max (refs.pinCount + delta) 0 })

def replayApply (req : Request) (result : Result) : Option Tables :=
  let c : Completed := { op := req.operation.op, podUID := req.id.podUID }
  match req.operation with
  | .pinImage image =>
    (s.bumpPin image 1).map
      (·.complete req.id.requestID { c with pinDigest := result.manifestDigest })
  | .unpinImage image => (s.bumpPin image (-1)).map (·.complete req.id.requestID c)
  | .leaseDevices .. =>
    some ((s.addLease result.lease).complete req.id.requestID { c with lease := some result.lease })
  | .releaseDevices leaseID =>
    some ((s.dropLease leaseID fun n => n - 1).complete req.id.requestID c)

end Tables

/-! ## The journal -/

/-- A line of the journal: a result carries no arguments. -/
inductive JournalEntry
  | intent (req : Request)
  | result (requestID : String) (op : Op) (result : Result)
deriving DecidableEq

/-- The intents without a result, by request ID. -/
abbrev Intents := String → Option Request

/-- `recover`'s visit of one line. -/
def visit : Intents × Tables → JournalEntry → Option (Intents × Tables)
  | (intents, tables), .intent req =>
    if req.id.requestID = "" then some (intents, tables)
    else some (update intents req.id.requestID (some req), tables)
  | (intents, tables), .result requestID _ result =>
    let rest := update intents requestID none
    match intents requestID with
    | none => some (rest, tables)
    | some req => (tables.replayApply req result).map (rest, ·)

section Agent

variable {β : Type} [DecidableEq β] (codec : Codec JournalEntry β)

/-- `recover`, on the bytes of the journal. -/
def recover (file : List β) : Option Tables :=
  (entries codec file).bind fun es => (es.foldlM visit ((fun _ => none), {})).map Prod.snd

/-! ## The agent -/

abbrev Ref := ℕ

/-- An `inflight` call. `requestID` is not in the code: the key it is found under. -/
structure Inflight where
  requestID : String := ""
  outcome : Option (Except Failure Result) := none

/-- The in-flight map, and the entries it refers to. -/
structure Flights where
  inflight : String → Option Ref := fun _ => none
  pending : Ref → Inflight := fun _ => {}
  next : Ref := 0

/-- A `State`: the tables, the calls in flight, and which Sandboxes' locks are held. -/
structure Memory extends Flights where
  tables : Tables := {}
  sandboxKey : String → Bool := fun _ => false

/-- The journal's bytes and the running `State`, if `New` succeeded. The rest is not in the code:
how often `New` was called, the calls that returned a nil error, the calls whose result line could
not be appended since `New`, and the first user of each request ID. -/
structure Agent (β : Type) where
  file : List β := []
  memory : Option Memory := none
  incarnation : ℕ := 0
  answered : List (Request × Result) := []
  lost : List Request := []
  users : String → Option (String × Op) := fun _ => none

def Agent.new (s : Agent β) : Agent β where
  file := truncate codec s.file
  memory := (recover codec s.file).map fun tables => { tables }
  incarnation := s.incarnation + 1
  answered := s.answered
  users := s.users

/-- A call uses its request ID, as the first one or after another. -/
def Agent.use (s : Agent β) (req : Request) : Agent β :=
  { s with
    users := update s.users req.id.requestID ((s.users req.id.requestID).or (some req.owner)) }

/-- The section a call stands before. -/
inductive Place
  | lockSandbox
  | findLease
  | rememberCompleted (lease : DeviceLease)
  | checkOwner
  | begin
  | execute (p : Ref)
  | commit (p : Ref) (result : Result)
  | finish (p : Ref) (outcome : Except Failure Result)
  | wait (p : Ref)

inductive Task
  | call (req : Request)
  | restart
  | at (incarnation : ℕ) (req : Request) (place : Place)

inductive Call
  | request (req : Request)
  | restart

/-- What the environment decides: the fate of an append, `none` if it succeeds and otherwise how
many bytes were written, or the outcome of a side effect. -/
inductive Choice
  | go
  | append (outcome : Option ℕ)
  | executed (outcome : Except String SideEffect)

def Operation.first : Operation → Place
  | leaseDevices .. => .lockSandbox
  | releaseDevices _ => .checkOwner
  | pinImage _ | unpinImage _ => .begin

namespace Flights

def register (f : Flights) (requestID : String) : Flights where
  inflight := update f.inflight requestID (some f.next)
  pending := update f.pending f.next { requestID }
  next := f.next + 1

/-- `finish`: remove the marker and wake the waiters. -/
def finish (f : Flights) (requestID : String) (p : Ref) (outcome : Except Failure Result) :
    Flights :=
  { f with
    inflight := update f.inflight requestID none
    pending := update f.pending p { f.pending p with outcome := some outcome } }

end Flights

namespace Memory

variable (m : Memory) (req : Request)

/-- The deferred unlock of the Sandbox's key. -/
def leave : Memory :=
  match req.operation.sandbox with
  | none => m
  | some sandboxID => { m with sandboxKey := update m.sandboxKey sandboxID false }

def enter (sandboxID : String) : Memory :=
  { m with sandboxKey := update m.sandboxKey sandboxID true }

def applied (result : Result) : Memory :=
  let c : Completed := { op := req.operation.op, podUID := req.id.podUID }
  { m with tables :=
      (m.tables.apply req.operation result).complete req.id.requestID (c.setResult result) }

/-- The answer of a request that `run` finds completed. -/
def replayed : Option (Except Failure Result) :=
  (m.tables.completed req.id.requestID).map fun entry =>
    if entry.op ≠ req.operation.op then .error (.requestCommittedAs req.id.requestID entry.op)
    else if entry.podUID ≠ req.id.podUID then
      .error (.requestCommittedBy req.id.requestID entry.podUID)
    else .ok entry.result

/-- `rememberCompleted`. -/
def remember (lease : DeviceLease) : Except Failure Memory :=
  match m.tables.completed req.id.requestID with
  | some existing =>
    if existing.podUID ≠ req.id.podUID then
      .error (.requestCommittedBy req.id.requestID existing.podUID)
    else .ok m
  | none =>
    let c : Completed := { op := .leaseDevices, podUID := req.id.podUID, lease := some lease }
    .ok { m with tables := m.tables.complete req.id.requestID c }

end Memory

namespace Agent

def set (s : Agent β) (m : Memory) : Agent β := { s with memory := some m }

def returns (s : Agent β) (m : Memory) (req : Request) : Except Failure Result → Agent β
  | .error _ => s.set (m.leave req)
  | .ok result =>
    { s.set (m.leave req) with
      answered := s.answered ++ [(req, req.operation.answer result)] }

def write (s : Agent β) (entry : JournalEntry) (outcome : Option ℕ) : Agent β :=
  { s with file := append codec s.file entry outcome }

def lose (s : Agent β) (req : Request) (outcome : Option ℕ) : Agent β :=
  { s with lost := if outcome.isNone then s.lost else req :: s.lost }

end Agent

/-- One section of a call, and where the call stands after it. -/
def sections (s : Agent β) (m : Memory) (req : Request) :
    Place → Choice → Option (Agent β × Option Place)
  | .lockSandbox, .go =>
    match req.operation.sandbox with
    | none => none
    | some sandboxID =>
      if m.sandboxKey sandboxID then none else some (s.set (m.enter sandboxID), some .findLease)
  | .findLease, .go =>
    match req.operation.sandbox with
    | none => none
    | some sandboxID =>
      match m.tables.bySandbox sandboxID with
      | none => some (s, some .begin)
      | some leaseID =>
        let lease := (m.tables.leases.lookup leaseID).getD {}
        if lease.podUID ≠ req.id.podUID then
          some (s.returns m req (.error (.sandboxLeasedBy sandboxID lease.podUID)), none)
        else some (s, some (.rememberCompleted lease))
  | .rememberCompleted lease, .go =>
    match m.remember req lease with
    | .error err => some (s.returns m req (.error err), none)
    | .ok m' => some (s.returns m' req (.ok (.leased lease)), none)
  | .checkOwner, .go =>
    match req.operation with
    | .releaseDevices leaseID =>
      match (m.tables.leases.lookup leaseID).filter (·.podUID ≠ req.id.podUID) with
      | some lease => some (s.returns m req (.error (.leaseOwnedBy leaseID lease.podUID)), none)
      | none => some (s, some .begin)
    | _ => none
  | .begin, .append outcome =>
    match m.replayed req with
    | some answer => some (s.returns m req answer, none)
    | none =>
      match m.inflight req.id.requestID with
      | some p => some (s, some (.wait p))
      | none =>
        let s := s.write codec (.intent req) outcome
        if outcome.isNone then
          some (s.set { m with toFlights := m.register req.id.requestID }, some (.execute m.next))
        else some (s.returns m req (.error (.journalIntent req.operation.op)), none)
  | .execute p, .executed (.ok effect) => some (s, some (.commit p (req.result effect)))
  | .execute p, .executed (.error message) =>
    match req.operation with
    | .pinImage _ | .leaseDevices .. => some (s, some (.finish p (.error (.sideEffect message))))
    | .unpinImage _ | .releaseDevices _ => none
  | .commit p result, .append outcome =>
    let s := ((s.write codec (.result req.id.requestID req.operation.op result) outcome).lose req
      outcome).set (m.applied req result)
    if outcome.isNone then some (s, some (.finish p (.ok result)))
    else some (s, some (.finish p (.error (.journalResult req.operation.op))))
  | .finish p outcome, .go =>
    let m := { m with toFlights := m.finish req.id.requestID p outcome }
    some (s.returns m req outcome, none)
  | .wait p, .go => (m.pending p).outcome.map fun outcome => (s.returns m req outcome, none)
  | _, _ => none

/-- The sections of the calls. What an earlier incarnation was doing is never resumed. -/
def advance (s : Agent β) : Task → Choice → Option (Agent β × List Task)
  | .restart, .go => some (s.new codec, [])
  | .call req, .go =>
    s.memory.map fun _ => (s, if req.valid then [.at s.incarnation req req.operation.first] else [])
  | .at incarnation req place, c =>
    if incarnation = s.incarnation then
      s.memory.bind fun m =>
        (sections codec (s.use req) m req place c).map fun (s', next) =>
          (s', (next.map (Task.at incarnation req)).toList)
    else none
  | _, _ => none

def system : System (Agent β) Task Call Choice where
  entry
    | .request req => .call req
    | .restart => .restart
  advance := advance codec

/-- No journal, and no agent running. -/
def start : World (Agent β) Task := ⟨{}, []⟩

end Agent

end FastSandbox.Lease
