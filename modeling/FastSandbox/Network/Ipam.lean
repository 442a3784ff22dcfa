import Mathlib.Algebra.Group.Nat.Defs
import Mathlib.Data.List.TakeWhile

/-!
# Addresses of network slots

An IPv4 address is a number below `2 ^ 32`. The addresses of a private network are handed out from
the one after the gateway on; the last one of the network is its broadcast address, and guest-VM
runtimes also keep back the address that is baked into their templates.
-/

namespace FastSandbox.Network

open List Nat

/-- An IPv4 `netip.Prefix`. -/
structure CIDR where
  (addr bits : ℕ)
  addr_lt : addr < 2 ^ 32 := by decide
  bits_le : bits ≤ 32 := by decide
deriving DecidableEq

variable {a : ℕ}

namespace CIDR

/-- How many addresses share the network's leading bits. -/
def size (p : CIDR) : ℕ := 2 ^ (32 - p.bits)

def masked (p : CIDR) : CIDR where
  addr := p.addr - p.addr % p.size
  bits := p.bits
  addr_lt := lt_of_le_of_lt (sub_le _ _) p.addr_lt
  bits_le := p.bits_le

def contains (p : CIDR) (a : ℕ) : Bool := a < 2 ^ 32 ∧ a / p.size = p.addr / p.size

def broadcast (p : CIDR) : ℕ := p.addr + p.size - 1

theorem size_pos (p : CIDR) : 0 < p.size := Nat.two_pow_pos _

theorem masked_size (p : CIDR) : p.masked.size = p.size := rfl

theorem masked_addr (p : CIDR) : p.masked.addr = p.addr / p.size * p.size := by
  rw [masked, Nat.div_mul_self_eq_mod_sub_self]

/-- A network ends with its broadcast address, also at the top of the address space. -/
theorem masked_contains {p : CIDR} :
    p.masked.contains a ↔ p.masked.addr ≤ a ∧ a ≤ p.masked.broadcast := by
  have hpos := p.size_pos
  have ho : p.masked.addr + p.size ≤ 2 ^ 32 := by
    have hs : 2 ^ p.bits * p.size = 2 ^ 32 := by
      rw [size, ← Nat.pow_add, Nat.add_sub_cancel' p.bits_le]
    have hq : p.addr / p.size < 2 ^ p.bits := by
      rw [div_lt_iff_lt_mul hpos, hs]
      exact p.addr_lt
    rw [masked_addr, ← succ_mul, ← hs]
    exact mul_le_mul_right _ hq
  have hb : p.masked.addr / p.size = p.addr / p.size := by
    rw [masked_addr, Nat.mul_div_cancel _ hpos]
  rw [contains, decide_eq_true_iff, masked_size, hb, Nat.div_eq_iff hpos, ← masked_addr,
    broadcast, masked_size]
  omega

end CIDR

structure IPv4IPAM where
  cidr : CIDR
  gateway : ℕ
  guest : Option ℕ
deriving DecidableEq

/-- `newIPv4IPAM`, on a parsed IPv4 network. -/
def newIPv4IPAM (cidr : CIDR) (reserveGuest : Bool) : Option IPv4IPAM :=
  let p := cidr.masked
  if 29 < p.bits then none
  else
    let gateway := p.addr + 1
    if reserveGuest then
      if p.contains (gateway + 2) then some ⟨p, gateway, some (gateway + 2)⟩ else none
    else some ⟨p, gateway, none⟩

namespace IPv4IPAM

/-- `Allocate`: the first address after the gateway that is neither reserved nor used. -/
def allocate (i : IPv4IPAM) (used : ℕ → Bool) : Option ℕ :=
  ((List.range' (i.gateway + 1) i.cidr.size).takeWhile fun a =>
      i.cidr.contains a && i.cidr.contains (a + 1)).find? fun a =>
    i.guest ≠ some a ∧ !used a

structure Usable (i : IPv4IPAM) (a : ℕ) : Prop where
  inside : i.cidr.contains a
  network : a ≠ i.cidr.addr
  gateway : a ≠ i.gateway
  guest : i.guest ≠ some a
  broadcast : a ≠ i.cidr.broadcast

instance (i : IPv4IPAM) (a : ℕ) : Decidable (i.Usable a) :=
  decidable_of_iff
    (i.cidr.contains a = true ∧ a ≠ i.cidr.addr ∧ a ≠ i.gateway ∧ i.guest ≠ some a ∧
      a ≠ i.cidr.broadcast)
    ⟨fun ⟨h1, h2, h3, h4, h5⟩ => ⟨h1, h2, h3, h4, h5⟩,
      fun h => ⟨h.inside, h.network, h.gateway, h.guest, h.broadcast⟩⟩

theorem new_eq {cidr : CIDR} {reserveGuest : Bool} {i : IPv4IPAM}
    (h : newIPv4IPAM cidr reserveGuest = some i) :
    i.cidr = cidr.masked ∧ i.gateway = cidr.masked.addr + 1 ∧ 8 ≤ i.cidr.size := by
  have hs (hb : ¬29 < cidr.bits) : 2 ^ 3 ≤ cidr.size := Nat.pow_le_pow_right (by decide) (by omega)
  unfold newIPv4IPAM at h
  dsimp only at h
  split_ifs at h with hb <;> cases h <;> exact ⟨rfl, rfl, hs hb⟩

section

variable {cidr : CIDR} {reserveGuest : Bool} {i : IPv4IPAM}
  (hi : newIPv4IPAM cidr reserveGuest = some i)
include hi

theorem usable_iff : i.Usable a ↔ i.gateway < a ∧ a < i.cidr.broadcast ∧ i.guest ≠ some a := by
  obtain ⟨hc, ha, _⟩ := new_eq hi
  have hn := CIDR.masked_contains (p := cidr) (a := a)
  rw [← hc] at hn ha
  constructor
  · intro h
    have := hn.mp h.inside
    exact ⟨by have := h.network; have := h.gateway; omega,
      lt_of_le_of_ne this.2 h.broadcast, h.guest⟩
  · rintro ⟨_, _, hg⟩
    exact ⟨hn.mpr (by omega), by omega, by omega, hg, by omega⟩

/-- The loop runs over the addresses between the gateway and the broadcast address. -/
theorem takeWhile_inside : (range' (i.gateway + 1) i.cidr.size).takeWhile
        (fun a => i.cidr.contains a && i.cidr.contains (a + 1)) =
      range' (i.gateway + 1) (i.cidr.size - 3) := by
  obtain ⟨hc, hg, _⟩ := new_eq hi
  have hn : ∀ a, (i.cidr.contains a && i.cidr.contains (a + 1)) ↔
      i.cidr.addr ≤ a ∧ a + 1 ≤ i.cidr.broadcast := by
    intro a
    rw [Bool.and_eq_true, hc, CIDR.masked_contains, CIDR.masked_contains]
    omega
  have hl : range' (i.gateway + 1) i.cidr.size = range' (i.gateway + 1)
      (i.cidr.size - 3) ++ range' (i.gateway + 1 + (i.cidr.size - 3)) (2 + 1) := by
    rw [range'_append_1]
    congr 1
    omega
  rw [← hc] at hg
  rw [hl, takeWhile_append_of_pos, range'_succ, takeWhile_cons_of_neg, append_nil]
  · rw [hn, CIDR.broadcast]
    omega
  intro a ha
  rw [mem_range'_1] at ha
  rw [hn, CIDR.broadcast]
  omega

variable {used : ℕ → Bool}

theorem free_iff : i.Usable a ∧ used a = false ↔ decide (i.guest ≠ some a ∧ (!used a)) ∧
      i.gateway + 1 ≤ a ∧ a < i.gateway + 1 + (i.cidr.size - 3) := by
  obtain ⟨hc, ha, _⟩ := new_eq hi
  rw [usable_iff hi, decide_eq_true_iff, Bool.not_eq_true', CIDR.broadcast, ha, ← hc]
  constructor
  · rintro ⟨⟨hl, hh, hg⟩, hu⟩
    exact ⟨⟨hg, hu⟩, hl, by omega⟩
  · rintro ⟨⟨hg, hu⟩, hl, hh⟩
    exact ⟨⟨hl, by omega, hg⟩, hu⟩

theorem allocate_eq_some : i.allocate used = some a ↔ (i.Usable a ∧ used a = false) ∧
      ∀ b, i.Usable b → used b = false → a ≤ b := by
  rw [allocate, takeWhile_inside hi, find?_range'_eq_some, mem_range'_1, ← and_assoc, ← free_iff hi]
  refine and_congr_right fun ha => forall_congr' fun b => ⟨fun h hb hu => ?_, fun h hl hlt => ?_⟩
  · by_contra hlt
    have hf := (free_iff hi).mp ⟨hb, hu⟩
    have hs := h hf.2.1 (Nat.lt_of_not_le hlt)
    rw [hf.1] at hs
    exact Bool.false_ne_true hs
  · rw [Bool.not_eq_true', Bool.eq_false_iff]
    intro ht
    have hf := (free_iff hi).mpr ⟨ht, hl, lt_trans hlt ((free_iff hi).mp ha).2.2⟩
    exact not_lt.mpr (h hf.1 hf.2) hlt

theorem allocate_eq_none : i.allocate used = none ↔ ∀ a, i.Usable a → used a := by
  rw [allocate, takeWhile_inside hi, find?_range'_eq_none]
  refine forall_congr' fun a => ⟨fun h ha => ?_, fun h hl hh => ?_⟩
  · by_contra hu
    have hf := (free_iff hi).mp ⟨ha, Bool.eq_false_iff.mpr hu⟩
    have hs := h hf.2.1 hf.2.2
    rw [hf.1] at hs
    exact Bool.false_ne_true hs
  · rw [Bool.not_eq_true', Bool.eq_false_iff]
    intro ht
    have hf := (free_iff hi).mpr ⟨ht, hl, hh⟩
    exact Bool.false_ne_true (hf.2.symm.trans (h hf.1))

theorem allocate_usable (h : i.allocate used = some a) : i.Usable a ∧ used a = false :=
  ((allocate_eq_some hi).mp h).1

end

/-- **Allocation**: the loop ends by its own condition, with the smallest usable address that
is not in use, and without one exactly when there is none. -/
theorem allocate_spec {cidr : CIDR} {reserveGuest : Bool} {i : IPv4IPAM}
    (hi : newIPv4IPAM cidr reserveGuest = some i) (used : ℕ → Bool) :
    (∃ a ∈ List.range' (i.gateway + 1) i.cidr.size,
      (i.cidr.contains a && i.cidr.contains (a + 1)) = false) ∧
    (∀ a, i.allocate used = some a ↔ (i.Usable a ∧ used a = false) ∧
      ∀ b, i.Usable b → used b = false → a ≤ b) ∧
    (i.allocate used = none ↔ ∀ a, i.Usable a → used a = true) := by
  obtain ⟨hc, hg, _⟩ := new_eq hi
  refine ⟨⟨i.cidr.broadcast, ?_, ?_⟩, fun a => allocate_eq_some hi, allocate_eq_none hi⟩
  · rw [mem_range'_1, CIDR.broadcast, hg, ← hc]
    omega
  rw [Bool.and_eq_false_iff]
  right
  rw [Bool.eq_false_iff, hc, Ne, CIDR.masked_contains]
  omega

/-- The last network of the address space, with all its addresses in use. -/
theorem allocate_top_full :
    (⟨{ addr := 4294967288, bits := 29 }, 4294967289, some 4294967291⟩ : IPv4IPAM).allocate
      (fun _ => true) = none :=
  have hnew : newIPv4IPAM { addr := 4294967295, bits := 29 } true =
      some ⟨{ addr := 4294967288, bits := 29 }, 4294967289, some 4294967291⟩ := by decide
  (allocate_spec hnew _).2.2.mpr fun _ _ => rfl

end IPv4IPAM

end FastSandbox.Network
