import FastSandbox.DataPlane.RouteStore
import FastSandbox.Lib.Restart
import FastSandbox.Network.Ipam
import Mathlib.Data.Finset.Max

/-!
# The network slot manager of a Fastlet

A slot is a prepared network namespace with an address of the Pod's private network. The manager
keeps its slots in memory under a lock and writes each one to a file. Namespaces are prepared and
destroyed without the lock, so a call is a sequence of sections between which any other call may
run, and the Fastlet may crash between any two of them.

`Save` renames a new file into place and then syncs the directory; `Delete` removes the file and
then syncs. Either may therefore report an error after the file has changed.

Metrics, timestamps and the fields of a slot that no section reads (veth names, DNS, MTU, access
descriptor) are left out.
-/

namespace FastSandbox.Network

open DataPlane (StringMap)
open Interleaving

/-! ## Slots -/

inductive SlotPhase
  | clean
  | bound
  | destroying
deriving DecidableEq

/-- The identity a slot is bound to. `Equal` compares exactly these fields. -/
structure Owner where
  sandboxUID : String := ""
  instanceGeneration : ℤ := 0
  runtimeInstanceID : String := ""
  assignmentAttempt : ℤ := 0
deriving DecidableEq

/-- The owners that `Acquire` accepts. -/
def Owner.valid (owner : Owner) : Bool :=
  owner.sandboxUID ≠ "" ∧ 0 < owner.instanceGeneration ∧ 0 < owner.assignmentAttempt

def currentSlotVersion : ℕ := 1

/-- A network slot. An empty IP is `none`. -/
structure Slot where
  version : ℕ := currentSlotVersion
  (id ownerPodUID : String)
  phase : SlotPhase
  owner : Owner := {}
  (netNSName netNSPath hostNetNSPath : String)
  guestIP : String := ""
  ip : Option ℕ
  privateCIDR : CIDR
deriving DecidableEq

/-- What `NewManager` is given. `netNSName` is `resourceName("fsb", PodUID, id, 63)`, a prefix of
a digest; `guestDataPlane` says whether the network driver applies guest addresses itself. -/
structure Config where
  capacity : ℕ
  podUID : String
  netNSRoot : String := "/run/netns"
  hostNetNSRoot : String := "/run/fast-sandbox/netns"
  netNSName : String → String
  guestDataPlane : Bool
  privateCIDR : CIDR
  ipam : IPv4IPAM
  capacity_pos : 0 < capacity
  podUID_ne : podUID ≠ ""
  ipam_new : newIPv4IPAM privateCIDR guestDataPlane = some ipam

/-- `^[a-zA-Z0-9][a-zA-Z0-9_.-]{0,127}$`. -/
def safeSlotID (id : String) : Bool :=
  match id.toList with
  | [] => false
  | c :: cs =>
    c.isAlphanum && cs.length ≤ 127 && cs.all fun d => d.isAlphanum || d = '_' || d = '.' || d = '-'

variable (cfg : Config)

def Config.validateStoredSlot (slot : Slot) : Bool :=
  slot.version = currentSlotVersion && slot.ownerPodUID = cfg.podUID && safeSlotID slot.id &&
    slot.netNSName ≠ "" && slot.netNSPath ≠ "" && slot.hostNetNSPath ≠ "" && slot.ip.isSome &&
    slot.privateCIDR = cfg.ipam.cidr &&
    !(slot.phase = .bound && slot.owner.sandboxUID = "")

/-- The slot that `prepareOne` prepares. -/
def Config.newSlot (id : String) (ip : ℕ) : Slot where
  id := id
  ownerPodUID := cfg.podUID
  phase := .clean
  netNSName := cfg.netNSName id
  netNSPath := cfg.netNSRoot ++ "/" ++ cfg.netNSName id
  hostNetNSPath := cfg.hostNetNSRoot ++ "/" ++ cfg.netNSName id
  ip := some ip
  privateCIDR := cfg.ipam.cidr

/-! ## State -/

/-- How a write to the state directory ends: `failed true` is an error after the file changed. -/
inductive Written
  | ok
  | failed (effective : Bool)
deriving DecidableEq

def Written.effective : Written → Bool
  | ok => true
  | failed effective => effective

/-- The manager and its state directory. The fields after `files` record what happened: whether
this manager has been used, on which IDs it called the driver's `Destroy`, every ID ever given out
with its address, the IDs whose namespace exists, the owner an ID was saved under when it was
not Clean, and what `Acquire` returned. -/
structure State where
  slots : StringMap Slot := ∅
  closed : Bool := false
  /-- The ID under preparation while `prepareMu` is held. -/
  preparing : Option String := none
  files : StringMap Slot
  used : Bool := false
  torn : Finset String := ∅
  given : Finset String
  address : String → Option ℕ
  live : Finset String
  persisted : String → Option Owner
  answers : List (Owner × Slot) := []

namespace State

/-- A Fastlet that starts on a state directory. -/
def start (files : StringMap Slot) : State where
  files := files
  given := files.keys
  address id := (files.lookup id).bind Slot.ip
  live := files.keys
  persisted id := (files.lookup id).bind fun slot =>
    if slot.phase = .clean then none else some slot.owner

/-- What a crash leaves: a new manager on the same directory. -/
def reset (s : State) : State :=
  { s with slots := ∅, closed := false, preparing := none, used := false, torn := ∅ }

variable (s : State)

def save (slot : Slot) (w : Written) : State :=
  { s with
    files := if w.effective then s.files.insert slot.id slot else s.files
    persisted :=
      if w.effective ∧ slot.phase ≠ .clean then
        Function.update s.persisted slot.id (some slot.owner)
      else s.persisted }

def delete (id : String) (w : Written) : State :=
  { s with files := if w.effective then s.files.erase id else s.files }

def put (slot : Slot) : State := { s with slots := s.slots.insert slot.id slot }

def answer (owner : Owner) (slot : Slot) : State :=
  { s with answers := s.answers ++ [(owner, slot)] }

/-- The driver's `Destroy` is called. -/
def tear (id : String) : State := { s with torn := insert id s.torn }

/-- A loop over the map that stops at the first match: any match may come first. -/
def finds (p : Slot → Bool) : Option String → Bool
  | some id => (s.slots.lookup id).any p
  | none => ∀ id ∈ s.slots.keys, (s.slots.lookup id).all fun slot => !p slot

/-- The Clean slot that comes first by ID. -/
def firstClean : Option Slot :=
  Option.bind (s.slots.keys.filter fun id => (s.slots.lookup id).any (·.phase = .clean)).min
    s.slots.lookup

/-- `LoadAll` returned these slots. -/
def enumerates (loaded : List Slot) : Bool :=
  (loaded.map Slot.id).Nodup ∧ (loaded.map Slot.id).toFinset = s.files.keys ∧
    ∀ slot ∈ loaded, s.files.lookup slot.id = some slot

/-- The copies of the Bound slots that `Reconcile` goes through. -/
def lists (bound : List Slot) : Bool :=
  (bound.map Slot.id).Nodup ∧
    (bound.map Slot.id).toFinset =
      s.slots.keys.filter (fun id => (s.slots.lookup id).any (·.phase = .bound)) ∧
    ∀ slot ∈ bound, s.slots.lookup slot.id = some slot

/-- The stored slot that a pointer kept by `Initialize` points to. -/
def current (slot : Slot) : Slot := (s.slots.lookup slot.id).getD slot

/-! ## Sections -/

/-- The loop of `Initialize` under the lock. It stops at the first invalid or duplicate slot. -/
def insertStored (cfg : Config) : StringMap Slot → List Slot → StringMap Slot × Bool
  | slots, [] => (slots, true)
  | slots, slot :: rest =>
    if cfg.validateStoredSlot slot ∧ slots.lookup slot.id = none then
      insertStored cfg (slots.insert slot.id slot) rest
    else (slots, false)

/-- A slot that `Acquire` takes for the Sandbox's own. -/
def boundTo (uid : String) (slot : Slot) : Bool := slot.phase = .bound ∧ slot.owner.sandboxUID = uid

/-- A slot that `ApplyGuest` takes for the owner's. -/
def boundExactly (owner : Owner) (slot : Slot) : Bool := slot.phase = .bound ∧ slot.owner = owner

/-- A slot that `Release` takes for the Sandbox's. -/
def heldBy (uid : String) (slot : Slot) : Bool :=
  slot.owner.sandboxUID = uid ∧ (slot.phase = .bound ∨ slot.phase = .destroying)

/-- `Acquire`: the slot returned with a nil error, if any. -/
def acquire (owner : Owner) (found : Option String) (w : Written) : Option (State × Option Slot) :=
  if !owner.valid then some (s, none)
  else if s.finds (boundTo owner.sandboxUID) found then
    match found.bind s.slots.lookup with
    | some slot =>
      if slot.owner = owner then some (s.answer owner slot, some slot) else some (s, none)
    | none =>
      match s.firstClean with
      | none => some (s, none)
      | some slot =>
        let candidate := { slot with phase := .bound, owner := owner }
        if w = .ok then
          some (((s.save candidate .ok).put candidate).answer owner candidate, some candidate)
        else some (s.save candidate w, none)
  else none

/-- The last section of `ApplyGuest`. Memory changes even if the write fails. -/
def commitGuest (applied : Slot) (w : Written) : State × Bool :=
  match s.slots.lookup applied.id with
  | none => (s, false)
  | some current =>
    if boundExactly applied.owner current then ((s.put applied).save applied w, w = .ok)
    else (s, false)

/-- How the first section of `markAndDestroy` ends. -/
inductive Marked
  | absent
  | failed
  | marked

/-- The first section of `markAndDestroy`. -/
def mark (id : String) (w : Written) : State × Marked :=
  match s.slots.lookup id with
  | none => (s, .absent)
  | some slot =>
    if slot.phase = .destroying then (s, .marked)
    else
      let candidate := { slot with phase := .destroying }
      if w = .ok then ((s.save candidate .ok).put candidate, .marked)
      else (s.save candidate w, .failed)

/-- The addresses that `prepareOne` finds in use. -/
def usedIP (ip : ℕ) : Bool := ∃ id ∈ s.slots.keys, (s.slots.lookup id).any (·.ip = some ip)

/-- The ID and the address are reserved in memory while the namespace is prepared. -/
def reserve (slot : Slot) : State :=
  { s.put { slot with phase := .destroying } with
    preparing := some slot.id
    used := true
    given := insert slot.id s.given
    address := Function.update s.address slot.id slot.ip }

end State

/-! ## Calls -/

/-- What continues after a slot has been destroyed. -/
inductive Cont
  | init (rest : List Slot)
  | reconcile (owners : StringMap Owner) (rest : List Slot) (seen : List String)
  | release
  | close (rest : Finset String)

/-- Where a call stands between two sections. -/
inductive Place
  | loadAll
  | insertLoaded (loaded : List Slot)
  | checkLoaded (rest : List Slot)
  | validate (slot : Slot) (rest : List Slot)
  | snapshotBound (owners : StringMap Owner)
  | reconcile (owners : StringMap Owner) (rest : List Slot) (seen : List String)
  | acquire (owner : Owner)
  | findGuest (owner : Owner) (guestIP : String)
  | applyGuest (slot : Slot) (guestIP : String)
  | commitGuest (applied : Slot)
  | findTarget (owner : Owner)
  | mark (id : String) (k : Cont)
  | readSlot (id : String) (k : Cont)
  | destroying (slot : Slot) (k : Cont)
  | deleteFile (id : String) (k : Cont)
  | forget (id : String) (k : Cont)
  | replenish
  | prepareOne
  | prepare (slot : Slot)
  | saveClean (slot : Slot)
  | publish (slot : Slot)
  | discard (slot : Slot) (raced : Bool)
  | dropFile (slot : Slot)
  | unreserve (slot : Slot) (more : Bool)
  | close
  | closeSnapshot
  | closing (rest : Finset String)

/-- `Release` returns and replenishes in the background; `Close` goes on after an error. -/
def Cont.next : Cont → Bool → List Place
  | init rest, true => [.checkLoaded rest]
  | reconcile owners rest seen, true => [.reconcile owners rest seen]
  | release, true => [.replenish]
  | close rest, _ => [.closing rest]
  | _, false => []

/-- What the environment decides in one section. -/
inductive Choice
  | go
  | loaded (slots : Option (List Slot))
  | driver (ok : Bool)
  | store (w : Written)
  | found (id : Option String)
  | acquired (found : Option String) (w : Written)
  | listed (bound : List Slot)
  | generated (id : Option String)

inductive Call
  | initializeSlots
  | reconcile (runtimeOwners : List Owner)
  | acquire (owner : Owner)
  | applyGuest (owner : Owner) (guestIP : String)
  | release (owner : Owner)
  | replenish
  | close

/-- The map that `Reconcile` builds of the runtime's owners. -/
def ownersByUID (runtimeOwners : List Owner) : StringMap Owner :=
  runtimeOwners.foldl (fun owners owner =>
    if owner.sandboxUID = "" then owners else owners.insert owner.sandboxUID owner) ∅

def Call.entry : Call → Place
  | initializeSlots => .loadAll
  | reconcile runtimeOwners => .snapshotBound (ownersByUID runtimeOwners)
  | acquire owner => .acquire owner
  | applyGuest owner guestIP => .findGuest owner guestIP
  | release owner => .findTarget owner
  | replenish => .replenish
  | close => .close

/-- `prepareOne` until the namespace work starts. `prepareMu` is taken first. -/
def prepareOne (s : State) (generated : Option String) :
    Option (State × List Place) :=
  if s.preparing.isSome then none
  else if cfg.capacity ≤ s.slots.keys.card then some (s, [.replenish])
  else
    match cfg.ipam.allocate s.usedIP, generated with
    | some ip, some id =>
      if safeSlotID id ∧ s.slots.lookup id = none then
        some (s.reserve (cfg.newSlot id ip), [.prepare (cfg.newSlot id ip)])
      else some (s, [])
    | _, _ => some (s, [])

def advance (s : State) : Place → Choice → Option (State × List Place)
  | .loadAll, .loaded none => some (s, [])
  | .loadAll, .loaded (some loaded) =>
    if s.enumerates loaded then some (s, [.insertLoaded loaded]) else none
  | .insertLoaded loaded, .go =>
    let (slots, ok) := State.insertStored cfg s.slots loaded
    -- the capacity is compared after the slots are in the map
    some ({ s with slots, used := true },
      if ok && loaded.length ≤ cfg.capacity then [.checkLoaded loaded] else [])
  | .checkLoaded [], .go => some (s, [.replenish])
  | .checkLoaded (slot :: rest), .go =>
    if (s.current slot).phase = .destroying then some (s, [.readSlot slot.id (.init rest)])
    else some (s, [.validate slot rest])
  | .validate slot rest, .driver ok =>
    if ok then some (s, [.checkLoaded rest])
    else if (s.current slot).phase = .bound then some (s, [])
    else some (s, [.mark slot.id (.init rest)])
  | .snapshotBound owners, .listed bound =>
    if s.lists bound then some (s, [.reconcile owners bound []]) else none
  | .reconcile owners [] seen, .go =>
    some (s, if owners.keys ⊆ seen.toFinset then [.replenish] else [])
  | .reconcile owners (slot :: rest) seen, .go =>
    match owners.lookup slot.owner.sandboxUID with
    | none => some (s, [.mark slot.id (.reconcile owners rest seen)])
    | some owner =>
      if slot.owner = owner then some (s, [.reconcile owners rest (owner.sandboxUID :: seen)])
      else some (s, [])
  | .acquire owner, .acquired found w => (s.acquire owner found w).map fun (s', _) => (s', [])
  | .findGuest owner guestIP, .found found =>
    if s.finds (State.boundExactly owner) found then
      some (s, (found.bind s.slots.lookup).toList.map (.applyGuest · guestIP))
    else none
  | .applyGuest slot guestIP, .driver ok =>
    if cfg.guestDataPlane && !ok then some (s, [])
    else some (s, [.commitGuest { slot with guestIP }])
  | .commitGuest applied, .store w => some ((s.commitGuest applied w).1, [])
  | .findTarget owner, .found found =>
    if s.finds (State.heldBy owner.sandboxUID) found then
      match found.bind s.slots.lookup with
      | none => some (s, [])
      | some slot => some (s, if slot.owner = owner then [.mark slot.id .release] else [])
    else none
  | .mark id k, .store w =>
    match s.mark id w with
    | (s', .absent) => some (s', k.next true)
    | (s', .failed) => some (s', k.next false)
    | (s', .marked) => some (s', [.readSlot id k])
  | .readSlot id k, .go =>
    match s.slots.lookup id with
    | none => some (s, k.next true)
    | some slot => some (s.tear id, [.destroying slot k])
  | .destroying slot k, .driver ok =>
    if ok then some ({ s with live := s.live.erase slot.id }, [.deleteFile slot.id k])
    else some (s, k.next false)
  | .deleteFile id k, .store w =>
    some (s.delete id w, if w = .ok then [.forget id k] else k.next false)
  | .forget id k, .go => some ({ s with slots := s.slots.erase id }, k.next true)
  | .replenish, .go =>
    some (s, if s.closed || cfg.capacity ≤ s.slots.keys.card then [] else [.prepareOne])
  | .prepareOne, .generated id => prepareOne cfg s id
  | .prepare slot, .driver ok =>
    -- a failed preparation may leave parts of the namespace
    let s' := { s with live := insert slot.id s.live }
    if ok then some (s', [.saveClean slot]) else some (s'.tear slot.id, [.discard slot false])
  | .saveClean slot, .store w =>
    if w = .ok then some (s.save slot w, [.publish slot])
    else some ((s.save slot w).tear slot.id, [.discard slot false])
  | .publish slot, .go =>
    if s.closed then some (s.tear slot.id, [.discard slot true])
    else some ({ s.put slot with preparing := none }, [.replenish])
  | .discard slot raced, .driver ok =>
    -- `destroyFailedSlot` only logs the error
    some ({ s with live := if ok then s.live.erase slot.id else s.live },
      [if raced then .dropFile slot else .unreserve slot false])
  | .dropFile slot, .store w => some (s.delete slot.id w, [.unreserve slot true])
  | .unreserve slot more, .go =>
    some ({ s with slots := s.slots.erase slot.id, preparing := none },
      if more then [.replenish] else [])
  | .close, .go =>
    if s.closed then some (s, []) else some ({ s with closed := true }, [.closeSnapshot])
  | .closeSnapshot, .go => some (s, if s.slots.keys = ∅ then [] else [.closing s.slots.keys])
  | .closing rest, .go =>
    match rest.min with
    | some id => some (s, [.readSlot id (.close (rest.erase id))])
    | none => some (s, [.closeSnapshot])
  | _, _ => none

/-- The manager of one Fastlet process. -/
def manager : System State Place Call Choice where
  entry := Call.entry
  advance := advance cfg

/-- The managers of the Fastlet processes that follow each other on one state directory. -/
def system :
    System (Process State) (Job Place Call) (Option Call) Choice :=
  (manager cfg).restarting State.reset

/-- The first process, before any call. -/
def boot (files : StringMap Slot) : World (Process State) (Job Place Call) :=
  ⟨⟨State.start files, 0⟩, []⟩

end FastSandbox.Network
