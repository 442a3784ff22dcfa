import Mathlib.Data.Finmap
import Mathlib.Data.List.Sort
import Mathlib.Data.String.Basic

/-!
# The Fastlet Proxy's route store

One route per Sandbox, fenced by its generation. A deletion leaves the generation behind as a
high-water mark, so that a delayed `Apply` cannot bring an old route back. Watchers and their
events are left out: nothing in the store reads them.
-/

namespace FastSandbox.DataPlane

/-- A Go map keyed by strings that the code iterates over. -/
abbrev Table (ν : Type) := AList fun _ : String => ν

/-- A Go map keyed by strings that is only compared and looked up. -/
abbrev StringMap (ν : Type) := Finmap fun _ : String => ν

inductive RouteState
  | ready
  | draining
deriving DecidableEq

inductive RouteError
  | notFound
  | stale
  | conflict
deriving DecidableEq

def RouteError.text : RouteError → String
  | notFound => "sandbox route not found"
  | stale => "stale sandbox route generation"
  | conflict => "conflicting sandbox route"

/-- The HTTP status `writeControlError` answers with. -/
def RouteError.statusCode : RouteError → ℕ
  | notFound => 404
  | stale => 409
  | conflict => 409

structure AccessDescriptor where
  (kind address : String)
  netnsPath : String := ""
deriving DecidableEq

def accessKindDirectIP : String := "DirectIP"

/-- `AccessDescriptor.Validate`; `parseIP` is the library's parser. -/
def AccessDescriptor.validate (parseIP : String → Bool) (a : AccessDescriptor) : Bool :=
  a.kind = accessKindDirectIP && parseIP a.address

structure ComponentRoute where
  protocol : String
  port : ℕ
deriving DecidableEq

/-- A `RouteKey` with its `RouteSpec`. -/
structure Route where
  sandboxUID : String
  routeGeneration : ℤ
  (sandboxNamespace fastletPodUID : String)
  assignmentAttempt : ℤ
  access : AccessDescriptor
  state : RouteState := .ready
  components : StringMap ComponentRoute := ∅
deriving DecidableEq

def Route.validate (parseIP : String → Bool) (r : Route) : Bool :=
  r.sandboxNamespace ≠ "" && r.sandboxUID ≠ "" && r.fastletPodUID ≠ "" &&
    0 < r.assignmentAttempt && 0 < r.routeGeneration && r.access.kind ≠ "" &&
    r.access.validate parseIP

structure RoutePublication where
  (sandboxNamespace sandboxUID fastletPodUID : String)
  (assignmentAttempt routeGeneration : ℤ)
  access : AccessDescriptor
  components : StringMap ComponentRoute := ∅

def routeFromPublication (p : RoutePublication) : Route where
  sandboxUID := p.sandboxUID
  routeGeneration := p.routeGeneration
  sandboxNamespace := p.sandboxNamespace
  fastletPodUID := p.fastletPodUID
  assignmentAttempt := p.assignmentAttempt
  access := p.access
  state := .ready
  components := p.components

inductive EventType
  | applied
  | deleted
  | draining

/-- A key and, unless the route was deleted, the route under it. -/
structure Event where
  revision : ℕ
  type : EventType
  sandboxUID : String
  routeGeneration : ℤ
  route : Option Route

structure Store where
  active : Table Route := ∅
  highWater : String → ℤ := fun _ => 0
  revision : ℕ := 0

namespace Store

variable (s : Store) (sandboxUID : String) (generation : ℤ)

def loadRoute : Option Route := s.active.lookup sandboxUID

/-- Store a route and move the revision on. -/
def storeRoute (route : Route) : Store :=
  { s with active := s.active.insert route.sandboxUID route, revision := s.revision + 1 }

def raise : Store := { s with highWater := Function.update s.highWater sandboxUID generation }

/-- The active route of the same generation, the only one `Apply` compares with. -/
def sameGeneration (route : Route) : Option Route :=
  (s.loadRoute route.sandboxUID).filter fun existing =>
    route.routeGeneration = existing.routeGeneration

/-- What succeeds also returns the event that goes to `publishLocked`, unless nothing changed. -/
def apply (parseIP : String → Bool) (s : Store) (route : Route) :
    Store × Except RouteError (Option Event) :=
  let high := s.highWater route.sandboxUID
  if !route.validate parseIP then (s, .error .conflict)
  else if route.routeGeneration < high then (s, .error .stale)
  else
    match s.sameGeneration route with
    | some existing => if existing = route then (s, .ok none) else (s, .error .conflict)
    | none =>
      -- equal to a deletion tombstone, but no active route exists
      if route.routeGeneration = high ∧ high ≠ 0 then (s, .error .stale)
      else
        ((s.raise route.sandboxUID route.routeGeneration).storeRoute route, .ok (some
          ⟨s.revision + 1, .applied, route.sandboxUID, route.routeGeneration, some route⟩))

def markDraining : Store × Except RouteError (Option Event) :=
  match s.loadRoute sandboxUID with
  | none =>
    if generation < s.highWater sandboxUID then (s, .error .stale) else (s, .error .notFound)
  | some route =>
    if generation < route.routeGeneration then (s, .error .stale)
    else if route.routeGeneration < generation then (s, .error .conflict)
    else if route.state = .draining then (s, .ok none)
    else
      let route := { route with state := .draining }
      (s.storeRoute route, .ok (some
        ⟨s.revision + 1, .draining, route.sandboxUID, route.routeGeneration, some route⟩))

def delete : Store × Except RouteError (Option Event) :=
  if sandboxUID = "" ∨ generation ≤ 0 then (s, .error .conflict)
  else if generation < s.highWater sandboxUID then (s, .error .stale)
  else if generation = s.highWater sandboxUID ∧ s.loadRoute sandboxUID = none then (s, .ok none)
  else
    ({ s.raise sandboxUID generation with
        active := s.active.erase sandboxUID, revision := s.revision + 1 },
      .ok (some ⟨s.revision + 1, .deleted, sandboxUID, generation, none⟩))

/-- The active routes in the order of their UIDs. -/
def snapshot : List Route :=
  (s.active.entries.map Sigma.snd).insertionSort fun a b => a.sandboxUID ≤ b.sandboxUID

end Store

/-! ## The control interface -/

/-- A call on the proxy's control socket. -/
inductive ProxyCall
  | apply (route : Route)
  | markDraining (sandboxUID : String) (generation : ℤ)
  | delete (sandboxUID : String) (generation : ℤ)
  | snapshot
deriving DecidableEq

/-- The control server: `parseGeneration` comes before the store. -/
def Store.serve (parseIP : String → Bool) (s : Store) :
    ProxyCall → Store × Except RouteError (List Route)
  | .apply route =>
    if route.routeGeneration ≤ 0 then (s, .error .conflict)
    else
      let (s', result) := s.apply parseIP route
      (s', result.map fun _ => [])
  | .markDraining sandboxUID generation =>
    if generation ≤ 0 then (s, .error .conflict)
    else
      let (s', result) := s.markDraining sandboxUID generation
      (s', result.map fun _ => [])
  | .delete sandboxUID generation =>
    if generation ≤ 0 then (s, .error .conflict)
    else
      let (s', result) := s.delete sandboxUID generation
      (s', result.map fun _ => [])
  | .snapshot => (s, .ok s.snapshot)

end FastSandbox.DataPlane
