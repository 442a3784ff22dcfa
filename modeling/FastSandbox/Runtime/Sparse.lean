import Mathlib.Algebra.Group.Nat.Defs
import Mathlib.Data.List.Basic

/-!
# Sparse files

The checksum of an artifact (`SHA256File`) and the copy of a frozen upper
(`copyUpperExtentsWithSeek`) walk a file by `SEEK_DATA` and `SEEK_HOLE`, and read all of it where
these are not supported. Every byte is hashed once and in its place, and the copy is exact, whatever
the extents are and whichever seek fails.
-/

namespace FastSandbox.Runtime.Sparse

open List Nat

structure Content where
  size : ℕ
  byte : ℕ → UInt8

variable {c : Content}

/-- The bytes from `a` up to `b`. -/
def Content.read (c : Content) (a b : ℕ) : List UInt8 := (range' a (b - a)).map c.byte

def Content.Zeros (c : Content) (a b : ℕ) : Prop := ∀ i, a ≤ i → i < b → c.byte i = 0

/-- EINVAL or ENOTSUP, or another error. -/
inductive Fault
  | unsupported | other

/-- What `SEEK_DATA` answers: up to the next data there is a hole, and a hole reads as zeros. -/
inductive DataSeek (c : Content) (offset : ℕ)
  | found (data : ℕ) (le : offset ≤ data) (lt : data < c.size) (hole : c.Zeros offset data)
  | enxio (hole : c.Zeros offset c.size)
  | failed (fault : Fault)

/-- What `SEEK_HOLE` answers within data: the end of the file is a hole. -/
inductive HoleSeek (c : Content) (data : ℕ)
  | found (hole : ℕ) (lt : data < hole) (le : hole ≤ c.size)
  | failed (fault : Fault)

/-- The answers to the seeks, by their number: any extents consistent with the content, and any
faults. -/
structure Seeks (c : Content) where
  data : ℕ → (offset : ℕ) → DataSeek c offset
  hole : ℕ → (data : ℕ) → HoleSeek c data

/-! ## The checksum -/

/-- The end of an extent, that of the file if the seek fails. -/
def Seeks.holeStart (s : Seeks c) (n : ℕ) {dataStart : ℕ} (lt : dataStart < c.size) :
    {hole : ℕ // dataStart < hole ∧ hole ≤ c.size} :=
  match s.hole n dataStart with
  | .found hole lt le => ⟨hole, lt, le⟩
  | .failed _ => ⟨c.size, lt, Nat.le_refl _⟩

/-- The bytes of data, the number of segments, whether no seek failed, and the number of seeks so
far. The scan stops early where the file is known to be dense. -/
def scanSparse (s : Seeks c) (n offset dataBytes segments : ℕ) : ℕ × ℕ × Bool × ℕ :=
  if offset < c.size then
    match s.data n offset with
    | .enxio _ => (dataBytes, segments, true, n + 1)
    | .failed _ => (dataBytes, segments, false, n + 1)
    | .found dataStart _ lt _ =>
      let ⟨holeStart, _⟩ := s.holeStart (n + 1) lt
      let dataBytes := dataBytes + (holeStart - dataStart)
      if c.size ≤ dataBytes * 2 then (dataBytes, segments + 1, true, n + 2)
      else scanSparse s (n + 2) holeStart dataBytes (segments + 1)
  else (dataBytes, segments, true, n)
termination_by c.size - offset

def chunk : ℕ := 256 * 1024

def feedZeros (digest : List UInt8) (n : ℕ) : List UInt8 :=
  if 0 < n then feedZeros (digest ++ replicate (min chunk n) 0) (n - min chunk n) else digest
termination_by n
decreasing_by
  unfold chunk
  omega

/-- The loop of `SHA256File`, from the seek `n` on. The digest is what it was fed. -/
def hashExtents (s : Seeks c) (n consumed : ℕ) (digest : List UInt8) : List UInt8 :=
  if consumed < c.size then
    match s.data n consumed with
    | .enxio _ => feedZeros digest (c.size - consumed)
    -- a fresh digest and a full read
    | .failed _ => c.read 0 c.size
    | .found dataStart _ lt _ =>
      let digest := if consumed < dataStart then feedZeros digest (dataStart - consumed) else digest
      let ⟨holeStart, _⟩ := s.holeStart (n + 1) lt
      hashExtents s (n + 2) holeStart (digest ++ c.read dataStart holeStart)
  else digest
termination_by c.size - consumed

/-- A call that no other overlaps: they share a buffer, `hashBuffer`, which is left out. -/
def sha256File {δ : Type} (sum : List UInt8 → δ) (s : Seeks c) : δ :=
  let (dataBytes, _, ok, n) := scanSparse s 0 0 0 0
  if ok = false ∨ c.size ≤ dataBytes * 2 then sum (c.read 0 c.size)
  else sum (hashExtents s n 0 [])

variable {a b : ℕ}

theorem read_append (h : a ≤ b) : c.read 0 a ++ c.read a b = c.read 0 b := by
  have ha : range' 0 a ++ range' (0 + a) (b - a) = _ := range'_append_1
  rw [Nat.zero_add, Nat.add_sub_cancel' h] at ha
  exact map_append.symm.trans (congrArg _ ha)

theorem read_eq_zeros : c.read a b = replicate (b - a) 0 ↔ c.Zeros a b := by
  have h := map_eq_replicate_iff (l := range' a (b - a)) (f := c.byte) (b := 0)
  simp only [length_range', mem_range'_1] at h
  refine h.trans (forall_congr' fun i => ?_)
  grind

theorem feedZeros_eq (digest : List UInt8) (n : ℕ) :
    feedZeros digest n = digest ++ replicate n 0 := by
  fun_induction feedZeros digest n with
  | case1 digest n hn ih =>
    rw [ih, append_assoc, replicate_append_replicate, Nat.add_sub_cancel' (by omega)]
  | case2 digest n hn => simp [show n = 0 by omega]

/-- Zeros stand for a hole. -/
theorem feedZeros_read (ha : a ≤ b) (h : c.Zeros a b) :
    feedZeros (c.read 0 a) (b - a) = c.read 0 b := by
  rw [feedZeros_eq, ← read_eq_zeros.mpr h, read_append ha]

/-- What the digest was fed is the part of the file that was consumed. -/
theorem hashExtents_eq {s : Seeks c} {n consumed : ℕ} {digest : List UInt8}
    (hle : consumed ≤ c.size) (hi : digest = c.read 0 consumed) :
    hashExtents s n consumed digest = c.read 0 c.size := by
  fun_induction hashExtents s n consumed digest with
  | case1 n consumed digest hlt hz =>
    rw [hi]
    exact feedZeros_read hle hz
  | case2 => rfl
  | case3 n consumed digest hlt dataStart hle' hlt' hz hd fed holeStart he hs ih =>
    refine ih he.2 ?_
    have hf : fed = c.read 0 dataStart := by
      simp only [fed, hi]
      split_ifs
      · exact feedZeros_read hle' hz
      · rw [show consumed = dataStart by omega]
    rw [hf]
    exact read_append (Nat.le_of_lt he.1)
  | case4 n consumed digest hlt =>
    obtain rfl : consumed = c.size := by omega
    exact hi

/-- **The checksum is that of the bytes of the file**, for all extents and faults. -/
theorem sha256File_eq {δ : Type} (sum : List UInt8 → δ) (s : Seeks c) :
    sha256File sum s = sum (c.read 0 c.size) := by
  unfold sha256File
  split
  split_ifs
  · rfl
  · exact congrArg sum (hashExtents_eq (zero_le _) rfl)

/-! ## The copy of an upper -/

/-- The output after the bytes of the input from `a` up to `b` were written to their place. -/
def Content.write (c : Content) (out : ℕ → UInt8) (a b i : ℕ) : UInt8 :=
  if a ≤ i ∧ i < b then c.byte i else out i

/-- The blocks of the chunk of `size` bytes at `offset`. A block of zeros is skipped. -/
def scanBlocks (c : Content) (offset size start : ℕ) (out : ℕ → UInt8) : ℕ → UInt8 :=
  if start < size then
    let stop := min (start + 4096) size
    scanBlocks c offset size (start + 4096)
      (if c.read (offset + start) (offset + stop) = replicate (offset + stop - (offset + start)) 0
        then out else c.write out (offset + start) (offset + stop))
  else out
termination_by size - start
decreasing_by omega

def copyUpperSparseScan (c : Content) (offset : ℕ) (out : ℕ → UInt8) : ℕ → UInt8 :=
  if offset < c.size then
    let size := min (2 ^ 20) (c.size - offset)
    copyUpperSparseScan c (offset + size) (scanBlocks c offset size 0 out)
  else out
termination_by c.size - offset
decreasing_by omega

/-- The loop of `copyUpperExtentsWithSeek`, from the seek `n` on: the output, or an error. -/
def copyUpperExtents (s : Seeks c) (n offset : ℕ) (out : ℕ → UInt8) : Option (ℕ → UInt8) :=
  if offset < c.size then
    match s.data n offset with
    | .enxio _ => some out
    | .failed .unsupported => some (copyUpperSparseScan c 0 out)
    | .failed .other => none
    | .found data _ _ _ =>
      match s.hole (n + 1) data with
      | .failed .unsupported => some (copyUpperSparseScan c 0 out)
      | .failed .other => none
      | .found hole _ _ =>
        let hole := min hole c.size
        if hole ≤ data then none else copyUpperExtents s (n + 2) hole (c.write out data hole)
  else some out
termination_by c.size - offset
decreasing_by omega

/-- The output below `k` is the input; what is not yet written, or past the input, is zero. -/
structure Copied (c : Content) (k : ℕ) (out : ℕ → UInt8) : Prop where
  below : ∀ i < k, out i = c.byte i
  rest : ∀ i, i < c.size ∧ out i = c.byte i ∨ out i = 0

namespace Copied

variable {out : ℕ → UInt8}

/-- Zeros need not be written. -/
theorem skip (h : Copied c a out) (hz : c.Zeros a b) : Copied c b out where
  below i hi := by
    by_cases ha : i < a
    · exact h.below i ha
    · rcases h.rest i with ⟨-, hr⟩ | hr
      · exact hr
      · rw [hr, hz i (by omega) hi]
  rest := h.rest

theorem write (h : Copied c a out) (hb : b ≤ c.size) : Copied c b (c.write out a b) where
  below i hi := by
    unfold Content.write
    split_ifs
    · rfl
    · exact h.below i (by omega)
  rest i := by
    unfold Content.write
    split_ifs
    · exact .inl ⟨by omega, rfl⟩
    · exact h.rest i

theorem scanBlocks {offset size start : ℕ} (h : Copied c (offset + min start size) out)
    (hle : offset + size ≤ c.size) :
    Copied c (offset + size) (scanBlocks c offset size start out) := by
  fun_induction Sparse.scanBlocks c offset size start out with
  | case1 start out hlt stop ih =>
    rw [show min start size = start by omega] at h
    refine ih ?_
    split_ifs with hz
    · exact h.skip (read_eq_zeros.mp hz)
    · exact h.write (by omega)
  | case2 start out hlt => rwa [show min start size = size by omega] at h

theorem copyUpperSparseScan {offset : ℕ} (h : Copied c offset out) (hle : offset ≤ c.size) :
    Copied c c.size (copyUpperSparseScan c offset out) := by
  fun_induction Sparse.copyUpperSparseScan c offset out with
  | case1 offset out hlt size ih =>
    refine ih (scanBlocks ?_ (by omega)) (by omega)
    rwa [Nat.zero_min]
  | case2 offset out hlt =>
    obtain rfl : offset = c.size := by omega
    exact h

theorem copyUpperExtents {s : Seeks c} {n offset : ℕ} (h : Copied c offset out)
    (hle : offset ≤ c.size) :
    (copyUpperExtents s n offset out).elim (∃ n offset, s.data n offset = .failed .other ∨
      s.hole n offset = .failed .other) (Copied c c.size) := by
  fun_induction Sparse.copyUpperExtents s n offset out with
  | case1 n offset out hlt hz => exact h.skip hz
  -- the scan starts over on what is already written
  | case2 | case4 => exact copyUpperSparseScan ⟨nofun, h.rest⟩ (zero_le _)
  | case3 n offset out hlt hd => exact ⟨n, offset, .inl hd⟩
  | case5 n offset out hlt data _ _ _ _ hh => exact ⟨n + 1, data, .inr hh⟩
  | case6 => omega
  | case7 n offset out hlt data hd hc hz _ _ _ _ _ hole hgt ih =>
    exact ih ((h.skip hz).write (by omega)) (by omega)
  | case8 n offset out hlt =>
    obtain rfl : offset = c.size := by omega
    exact h

end Copied

/-- **The copy is exact**, with nothing past the size, and there is one unless a seek fails
otherwise than as unsupported. -/
theorem copyUpperExtents_exact (s : Seeks c) : (copyUpperExtents s 0 0 fun _ => 0).elim
    (∃ n offset, s.data n offset = .failed .other ∨ s.hole n offset = .failed .other)
    fun out => ∀ i, out i = if i < c.size then c.byte i else 0 := by
  have h : Copied c 0 fun _ => 0 := ⟨nofun, fun _ => .inr rfl⟩
  have ha := h.copyUpperExtents (s := s) (n := 0) (zero_le _)
  cases ho : copyUpperExtents s 0 0 fun _ => 0 with
  | none => rwa [ho] at ha
  | some out =>
    rw [ho] at ha
    intro i
    split_ifs with hi
    · exact ha.below i hi
    · exact (ha.rest i).resolve_left fun hc => hi hc.1

end FastSandbox.Runtime.Sparse
