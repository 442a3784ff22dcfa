import FastSandbox.Network.Ipam

/-!
# Host routes in the slot network

`DetectCIDROverlap` reads the routes of the host before there is any slot. It takes the destination
of a route from the first field of its line. Unless a route is unicast, `ip` prints its type there.
-/

namespace FastSandbox.Network

structure Text where
  fields : String → List String
  (trimSpace quote : String → String)
  /-- A prefix that is not IPv4 is `none`. -/
  parsePrefix : String → Except String (Option CIDR)
  /-- An IPv4 address. -/
  parseAddr : String → Option (Fin (2 ^ 32))
  fields_empty : fields "" = []

def routeDevice : List String → String
  | field :: next :: rest => if field = "dev" then next else routeDevice (next :: rest)
  | _ => ""

def CIDR.host (a : Fin (2 ^ 32)) : CIDR := { addr := a, bits := 32, addr_lt := a.isLt }

def parseRouteDestination (x : Text) (field : String) : Option CIDR :=
  match x.parsePrefix field with
  | .ok (some p) => some p.masked
  | _ => (x.parseAddr field).map CIDR.host

def prefixesOverlap (a b : CIDR) : Bool := a.contains b.addr || b.contains a.addr

/-- Whether the loop reports a line. -/
def conflicting (x : Text) (slot : CIDR) (bridge line : String) : Bool :=
  match x.fields line with
  | [] => false
  | field :: rest => field ≠ "default" && routeDevice (field :: rest) ≠ bridge &&
      (parseRouteDestination x field).any (prefixesOverlap slot)

/-- `DetectCIDROverlap`, on the lines that `ip -4 route show` prints. -/
def detectCIDROverlap (x : Text) (cidr bridge : String) (output : Except String (List String)) :
    Option String :=
  match x.parsePrefix cidr, output with
  | .error err, _ => some ("parse slot CIDR " ++ x.quote cidr ++ ": " ++ err)
  | .ok none, _ => some ("slot CIDR " ++ x.quote cidr ++ " is not IPv4")
  | .ok (some _), .error err => some ("read IPv4 routes: " ++ err)
  | .ok (some slot), .ok lines =>
    let conflicts := (lines.filter (conflicting x slot.masked bridge)).map x.trimSpace
    if conflicts = [] then none
    else some ("slot CIDR " ++ cidr ++ " overlaps live host routes: " ++
      "; ".intercalate conflicts ++ "; set FAST_SANDBOX_NETWORK_CIDR to a free range")

/-- The slot network, as it is configured. -/
structure SlotCIDR (x : Text) where
  text : String
  cidr : CIDR
  parses : x.parsePrefix text = .ok (some cidr)

/-- A route, as its line shows it. -/
structure Route (x : Text) where
  (line destination : String)
  type : Option String
  attributes : List String
  fields_eq : x.fields line = type.toList ++ destination :: attributes
  type_word : ∀ t ∈ type, parseRouteDestination x t = none
  destination_word : destination ≠ "dev"

variable {x : Text}

theorem routeDevice_eq (l : List String) :
    routeDevice l = ((l.dropWhile (· ≠ "dev"))[1]?).getD "" := by
  fun_induction routeDevice l with
  | case1 => simp
  | case2 _ _ _ hne ih => simp [List.dropWhile_cons, hne, ih]
  | case3 l h =>
    rcases l with _ | ⟨field, _ | ⟨next, rest⟩⟩
    · rfl
    · by_cases hd : field = "dev" <;> simp [hd]
    · exact absurd rfl (h field next rest)

/-- A network contains the first address of every smaller one that it meets. -/
theorem CIDR.contains_addr {p q : CIDR} {a : ℕ} (h : p.bits ≤ q.bits) (hp : p.contains a)
    (hq : q.contains a) : p.contains q.addr := by
  obtain ⟨k, hk⟩ : q.size ∣ p.size := Nat.pow_dvd_pow 2 (by omega)
  have hp' := (of_decide_eq_true hp).2
  refine decide_eq_true ⟨q.addr_lt, ?_⟩
  rw [← hp', hk, ← Nat.div_div_eq_div_mul, ← Nat.div_div_eq_div_mul, (of_decide_eq_true hq).2]

theorem prefixesOverlap_iff {p q : CIDR} : prefixesOverlap p q ↔
    ∃ a, q.contains a ∧ p.contains a := by
  have hs (p : CIDR) : p.contains p.addr := decide_eq_true ⟨p.addr_lt, rfl⟩
  rw [prefixesOverlap, Bool.or_eq_true]
  constructor
  · rintro (h | h)
    · exact ⟨_, hs q, h⟩
    · exact ⟨_, h, hs p⟩
  · rintro ⟨a, hq, hp⟩
    exact (Nat.le_total p.bits q.bits).imp (CIDR.contains_addr · hp hq) (CIDR.contains_addr · hq hp)

theorem CIDR.contains_masked (p : CIDR) (a : ℕ) : p.masked.contains a = p.contains a := by
  simp only [contains, masked_size, masked_addr, Nat.mul_div_cancel _ p.size_pos]

namespace Route

variable (r : Route x) (slot : CIDR) (bridge : String)

/-- The field after `dev`. -/
def device : Option String := (r.attributes.dropWhile (· ≠ "dev"))[1]?

/-- The destination is a prefix, or an address. -/
def Leads (p : CIDR) : Prop :=
  x.parsePrefix r.destination = .ok (some p) ∨
    (∀ q, x.parsePrefix r.destination ≠ .ok (some q)) ∧
      ∃ a, x.parseAddr r.destination = some a ∧ p = .host a

/-- The route is not the default one and does not leave through the bridge, and it contains an
address of the slot network. -/
def Conflicts : Prop :=
  r.destination ≠ "default" ∧ r.device ≠ some bridge ∧
    ∃ p, r.Leads p ∧ ∃ a, p.contains a ∧ slot.contains a

/-- The route has a type, or it has no device and the bridge no name. -/
def Missed : Prop := r.type ≠ none ∨ r.device = none ∧ bridge = ""

theorem overlaps_iff : (parseRouteDestination x r.destination).any (prefixesOverlap slot.masked) ↔
      ∃ p, r.Leads p ∧ ∃ a, p.contains a ∧ slot.contains a := by
  unfold parseRouteDestination Leads
  split
  · simp [*, prefixesOverlap_iff, CIDR.contains_masked]
  rename_i hot
  have hn : ∀ q, ¬ x.parsePrefix r.destination = .ok (some q) := hot
  cases x.parseAddr r.destination <;>
    simp [hn, prefixesOverlap_iff, CIDR.contains_masked]

theorem conflicting_iff : conflicting x slot.masked bridge r.line ↔
    r.Conflicts slot bridge ∧ ¬ r.Missed bridge := by
  unfold conflicting Conflicts Missed
  rw [r.fields_eq]
  cases ht : r.type with
  | some t => simp [r.type_word t ht]
  | none =>
    have hd : routeDevice (r.destination :: r.attributes) = r.device.getD "" := by
      simp [routeDevice_eq, r.destination_word, device]
    simp only [Option.toList, List.nil_append, Bool.and_eq_true, hd, decide_eq_true_eq,
      r.overlaps_iff slot]
    cases r.device <;> grind

end Route

/-- **The scan is exact** on the tables in which a missed conflict is not the only one. -/
theorem detectCIDROverlap_exact_iff (x : Text) (slot : SlotCIDR x) (bridge : String)
    (routes : List (Route x)) :
    ((detectCIDROverlap x slot.text bridge (.ok (routes.map (·.line) ++ [""]))).isSome = true ↔
      ∃ r ∈ routes, r.Conflicts slot.cidr bridge) ↔
    ((∃ r ∈ routes, r.Conflicts slot.cidr bridge ∧ r.Missed bridge) →
      ∃ r ∈ routes, r.Conflicts slot.cidr bridge ∧ ¬ r.Missed bridge) := by
  have hr : (detectCIDROverlap x slot.text bridge
      (.ok (routes.map (·.line) ++ [""]))).isSome = true ↔
      ∃ r ∈ routes, r.Conflicts slot.cidr bridge ∧ ¬ r.Missed bridge := by
    have he : conflicting x slot.cidr.masked bridge "" = false := by
      rw [conflicting, x.fields_empty]
    simp only [detectCIDROverlap, slot.parses, ← Route.conflicting_iff]
    split_ifs with h <;> simp_all
  rw [hr]
  grind

/-- What the packages make of one line. -/
def sampleText : Text where
  fields line := if line = "" then [] else ["blackhole", "10.0.0.0/24"]
  trimSpace := id
  quote := id
  parsePrefix s :=
    if s = "10.0.0.0/24" then .ok (some { addr := 0x0a000000, bits := 24 }) else .error "no '/'"
  parseAddr _ := none
  fields_empty := rfl

def blackhole : Route sampleText where
  line := "blackhole 10.0.0.0/24"
  destination := "10.0.0.0/24"
  type := some "blackhole"
  attributes := []
  fields_eq := rfl
  type_word := by rintro _ ⟨⟩; rfl
  destination_word := by decide

/-- A blackhole route for the slot network itself is not reported. -/
theorem blackhole_route_missed : ∃ slot : SlotCIDR sampleText, blackhole.Conflicts slot.cidr "br0" ∧
      detectCIDROverlap sampleText slot.text "br0"
        (.ok ([blackhole].map (·.line) ++ [""])) = none :=
  ⟨⟨"10.0.0.0/24", _, rfl⟩, ⟨by decide, nofun, _, .inl rfl, 0x0a000000, by decide⟩, rfl⟩

end FastSandbox.Network
