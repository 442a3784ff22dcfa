import FastSandbox.ControlPlane.Programs

/-!
# The API server, and the control plane as a system

The object of one name: its versions, and who writes them. A write succeeds at the current
version; a read through the informer cache may be served by any version there has been. The world
outside (Fastlets, registry, clock) is a parameter, `Environment`.

Every operation is recorded together with its answer and the object before and after it, so that a
property of a run is one of its trace.
-/

namespace FastSandbox.ControlPlane

open Interleaving Threads

/-- What the environment decides about an operation. `cached n` serves it from the `n`-th latest
version, `fail applied` lets it fail, with or without its effect, and `created uid lost` is the
creation of an object whose answer may get lost. -/
inductive Decision (χ : Type)
  | current
  | cached (n : ℕ)
  | missing
  | fail (applied : Bool)
  | created (uid : String) (lost : Bool)
  | world (c : χ)

/-- The world outside the API server. -/
structure Environment (ν χ : Type) where
  step : ν → (q : Ask) → χ → Option (ν × q.Ans)

/-- An operation of a thread, with the object before and after it. -/
structure Record where
  thread : ℕ
  op : Op
  answer : Ans op
  (before after : Option Sandbox)

/-- The state: the object and its versions, latest first; the IDs generated so far; the reconciles
under way and the threads that have ended; and everything that was done, latest first. -/
structure Cluster (ν : Type) where
  object : Option Sandbox := none
  versions : List Sandbox := []
  revision : ℕ := 0
  issued : List String := []
  (busy ended : List ℕ := [])
  trace : List Record := []
  env : ν

/-- What a thread did, latest first. -/
def Cluster.past {ν : Type} (s : Cluster ν) (i : ℕ) : List (Σ op, Ans op) :=
  (s.trace.filter (·.thread = i)).map fun r => ⟨r.op, r.answer⟩

namespace Cluster

variable {ν χ : Type}

/-! ## Writes -/

variable (E : Environment ν χ) (s : Cluster ν)

def stored (sb : Sandbox) : Sandbox := { sb with resourceVersion := s.revision + 1 }

/-- Store a version. A deleted object goes with its last finalizer. -/
def store (sb : Sandbox) : Cluster ν :=
  if sb.deleting ∧ !sb.cleanupFinalizer then { s with object := none, revision := s.revision + 1 }
  else
    { s with
      object := some (s.stored sb)
      versions := s.stored sb :: s.versions
      revision := s.revision + 1 }

/-- The effect of a read-modify-write at the current version. -/
def apply (f : Sandbox → Verdict) : Cluster ν :=
  match s.object with
  | none => s
  | some sb =>
    match f sb with
    | .stop _ => s
    | .write sb' => s.store sb'

def outcome (f : Sandbox → Verdict) : Modified :=
  match s.object with
  | none => .absent
  | some sb =>
    match f sb with
    | .stop r => .stopped r
    | .write sb' => .written (s.stored sb')

/-! ## Serving an operation -/

def fetch (source : Source) : Decision χ → Option Fetched
  | .current => some (s.object.elim .absent .found)
  | .cached n => if source = .cache then s.versions[n]?.map .found else none
  | .missing => if source = .cache then some .absent else none
  | .fail _ => some .failed
  | _ => none

/-- An outdated version gives an exit without a write, or a conflict and another try. -/
def serveModify (cached : Bool) (f : Sandbox → Verdict) :
    Decision χ → Option (Cluster ν × Modified)
  | .current => some (s.apply f, s.outcome f)
  | .cached n =>
    if cached then
      match s.versions[n]?.map f with
      | some (.stop r) => some (s, .stopped r)
      | _ => none
    else none
  | .missing => if cached then some (s, .absent) else none
  | .fail applied => some (if applied then s.apply f else s, .failed)
  | _ => none

/-- The patch has no precondition. -/
def patching (read : Sandbox) (c : Clearing) (sb : Sandbox) : Verdict :=
  .write { sb with status := sb.status.clear read.status c }

/-- The object that a creation stores: the server sets its metadata and drops its status. -/
def admitted (sb : Sandbox) (uid : String) : Sandbox :=
  { sb with uid, generation := 1, deleting := false, status := {} }

def serveCreate (sb : Sandbox) : Decision χ → Option (Cluster ν × Created)
  | .created uid lost =>
    if s.object = none ∧ uid ≠ "" ∧ (∀ v ∈ s.versions, v.uid ≠ uid) then
      some (s.store (admitted sb uid),
        if lost then .failed else .created (s.stored (admitted sb uid)))
    else none
  | .fail _ => some (s, .failed)
  | _ => none

/-- A deletion with the UID as its precondition. -/
def deleting (uid : String) (sb : Sandbox) : Verdict :=
  if sb.uid ≠ uid then .stop (.failure .other)
  else if sb.deleting then .stop (.found sb)
  else .write { sb with deleting := true, generation := sb.generation + 1 }

def serveDelete (uid : String) : Decision χ → Option (Cluster ν × Deleted)
  | .current =>
    some (s.apply (deleting uid),
      match s.outcome (deleting uid) with
      | .written _ | .stopped (.found _) => .deleted
      | .absent => .absent
      | .stopped (.failure _) | .failed => .failed)
  | .fail applied => some (if applied then s.apply (deleting uid) else s, .failed)
  | _ => none

/-- A new spec is a new generation. -/
def editing (spec : SandboxSpec) (sb : Sandbox) : Verdict :=
  if sb.spec = spec then .stop (.found sb)
  else .write { sb with spec, generation := sb.generation + 1 }

def serveEdit (spec : SandboxSpec) : Decision χ → Option (Cluster ν × Unit)
  | .current => some (s.apply (editing spec), ())
  | .fail _ => some (s, ())
  | _ => none

/-- IDs are unique. The registry keys Fastlets by their name and leaves out the excluded ones. -/
def fair : (q : Ask) → q.Ans → Bool
  | .newID => fun (id : String) => id ∉ s.issued
  | .candidates excluded => fun (found : Except Failure (List Candidate)) =>
    match found with
    | .ok found => (found.map (·.podName)).Nodup && found.all (·.podName ∉ excluded)
    | .error _ => true
  | _ => fun _ => true

def issue : (q : Ask) → q.Ans → List String
  | .newID => fun (id : String) => id :: s.issued
  | _ => fun _ => s.issued

def serveAsk (q : Ask) :
    Decision χ → Option (Cluster ν × q.Ans)
  | .world c =>
    match E.step s.env q c with
    | none => none
    | some (env, x) => if s.fair q x then some ({ s with env, issued := s.issue q x }, x) else none
  | _ => none

/-- What concerns only the record. -/
def serveNote : Decision χ → Option (Cluster ν × Unit)
  | .current => some (s, ())
  | _ => none

def serve (i : ℕ) :
    (op : Op) → Decision χ → Option (Cluster ν × Ans op)
  | .get source, d => (s.fetch source d).map fun x => (s, x)
  | .modify cached _ f, d => s.serveModify cached f d
  | .patch _ read c, d => s.serveModify false (patching read c) d
  | .create sb, d => s.serveCreate sb d
  | .delete uid _, d => s.serveDelete uid d
  | .edit spec, d => s.serveEdit spec d
  | .ask q, d => s.serveAsk E q d
  | .dequeue, d => serveNote { s with busy := i :: s.busy } d
  | .answer .., d => s.serveNote d

/-- Serve an operation and record it. -/
def handle (i : ℕ) (op : Op) (d : Decision χ) :
    Option (Cluster ν × Ans op) :=
  (serve E s i op d).map fun (s', x) =>
    ({ s' with trace := ⟨i, op, x, s.object, s'.object⟩ :: s.trace }, x)

def leave (i : ℕ) : Cluster ν := { s with busy := s.busy.filter (· ≠ i), ended := i :: s.ended }

end Cluster

/-! ## The system -/

def machine {ν χ : Type} (E : Environment ν χ) : Machine (Cluster ν) Op Ans (Decision χ) where
  handle := Cluster.handle E
  leave := Cluster.leave

/-- What may start: a reconcile, a CreateSandbox call, a user's creation, update or deletion of
the object, and a step of the world. -/
inductive Actor
  | reconcile
  | createSandbox (call : CreateSandboxCall)
  | declare (sb : Sandbox)
  | edit (spec : SandboxSpec)
  | delete (uid : String)
  | world

def Actor.program (digest : String → String) : Actor → Program Unit
  | .reconcile => do let _ ← ControlPlane.reconcile digest
  | .createSandbox call => serveCreate call
  | .declare sb => do let _ ← ControlPlane.create sb
  | .edit spec => perform (.edit spec)
  | .delete uid => do let _ ← ControlPlane.delete uid false
  | .world => ask .world

/-- The world in which anything may be answered. -/
def anyWorld : Environment Unit (Σ q : Ask, q.Ans) where
  step _ q c := if h : c.1 = q then some ((), h ▸ c.2) else none

variable {ν χ : Type}

def system (digest : String → String) (E : Environment ν χ) :
    System (Shared (Cluster ν)) (Task Actor Op Ans) Actor (Choice (Decision χ)) :=
  Threads.system (machine E) fun a _ => a.program digest

/-- Nothing has been created. -/
def start (env : ν) : World (Shared (Cluster ν)) (Task Actor Op Ans) := ⟨⟨{ env }, 0⟩, []⟩

end FastSandbox.ControlPlane
