import Mathlib.Data.Finset.Basic

/-!
# Squashing the rootfs of a packed checkpoint

`squashRootfsTail` merges the newest layers of a chain until it is short enough. A merge stands for
the layers that it absorbs, and their local blobs are removed. A round that fails leaves the chain
as it is.
-/

namespace FastSandbox.Runtime.Squash

open List

/-- A layer, and the layers of the input that it stands for. -/
structure Layer (α : Type) where
  digest : String
  stack : List α

variable {α : Type}

/-- The lowers are listed as remote. The base is unknown if it has no layers. -/
structure RootfsUpper (α : Type) where
  lowers : List (Layer α)
  baseLayers : ℕ

structure Bounds where
  (maxLayers squashLayers : ℕ)
  two_le : 2 ≤ squashLayers
  lt : squashLayers < maxLayers

/-- A round fails once `n` layers of its tail are local, at the merge or later if these are all; or
the merge has a digest, and some blobs cannot be removed. -/
inductive Round
  | failed (n : ℕ)
  | merged (digest : String) (stuck : String → Bool)

/-- The local blobs, the chain, and whether a round failed. -/
structure Result (α : Type) where
  blobs : Finset String
  layers : List (Layer α)
  failed : Bool := false

def removeSquashedBlobs (blobs : Finset String) (tail bottom : List (Layer α)) (merged : String)
    (stuck : String → Bool) : Finset String :=
  tail.foldl (fun blobs layer =>
    if layer.digest ∈ merged :: bottom.map (·.digest) ∨ stuck layer.digest then blobs
    else blobs.erase layer.digest) blobs

variable (upper : RootfsUpper α)

def RootfsUpper.tailCount (squashLayers length : ℕ) : ℕ :=
  let tailCount := min squashLayers (length - 1)
  if 0 < upper.baseLayers then min tailCount (length - upper.baseLayers) else tailCount

def squashOnce (squashLayers : ℕ) (round : Round) (blobs : Finset String)
    (layers : List (Layer α)) : Result α :=
  let bottom := layers.take (layers.length - upper.tailCount squashLayers layers.length)
  let tail := layers.drop (layers.length - upper.tailCount squashLayers layers.length)
  if upper.tailCount squashLayers layers.length < 2 then { blobs, layers }
  else match round with
    | .failed n => ⟨blobs ∪ ((tail.take n).map (·.digest)).toFinset, layers, true⟩
    | .merged digest stuck => {
        blobs := removeSquashedBlobs (insert digest (blobs ∪ (tail.map (·.digest)).toFinset)) tail
          bottom digest stuck
        layers := bottom ++ [⟨digest, tail.flatMap (·.stack)⟩] }

variable {upper} {squashLayers : ℕ} {round : Round} {blobs : Finset String}
  {input layers : List (Layer α)} {r : Result α}

theorem squashOnce_cases (h : squashOnce upper squashLayers round blobs layers = r) :
    r.layers = layers ∧ (r.failed = false → upper.tailCount squashLayers layers.length < 2) ∧
        (r.failed → ∃ m, round = .failed m) ∨
      r.failed = false ∧ r.layers.length < layers.length ∧
        ∃ digest stuck, round = .merged digest stuck := by
  have hle : upper.tailCount squashLayers layers.length ≤ layers.length - 1 := by
    unfold RootfsUpper.tailCount
    grind
  unfold squashOnce at h
  grind

variable (upper)

def squashRootfsTail (b : Bounds) (rounds : ℕ → Round) (n : ℕ) (blobs : Finset String)
    (layers : List (Layer α)) : Result α :=
  if b.maxLayers ≤ layers.length then
    let next := squashOnce upper b.squashLayers (rounds n) blobs layers
    if next.failed ∨ next.layers.length = layers.length then { next with layers }
    else squashRootfsTail b rounds (n + 1) next.blobs next.layers
  else { blobs, layers }
termination_by layers.length
decreasing_by grind [squashOnce_cases (r := next) rfl]

/-- The new layer comes on top of the lowers, and is local. -/
def packRootfs (root : Layer α) (b : Bounds) (rounds : ℕ → Round) (blobs : Finset String) :
    Result α :=
  squashRootfsTail upper b rounds 0 (insert root.digest blobs) (upper.lowers ++ [root])

/-- The chain has the base and the stack of the input, and every layer of it can be had. -/
structure Stands (input : List (Layer α)) (blobs : Finset String) (layers : List (Layer α)) :
    Prop where
  base : layers.take upper.baseLayers = input.take upper.baseLayers
  stack : layers.flatMap (·.stack) = input.flatMap (·.stack)
  present : ∀ l ∈ layers, l.digest ∈ blobs ∨ l.digest ∈ upper.lowers.map (·.digest)

/-- Unless a round failed, the chain is below the bound or has less than two layers above its
base. -/
def Result.Short (b : Bounds) (r : Result α) : Prop :=
  r.failed = false → r.layers.length < b.maxLayers ∨ r.layers.length < upper.baseLayers + 2

/-- If a round from the `n`-th on failed, it is the first of them that does not merge. -/
def Result.Excused (rounds : ℕ → Round) (n : ℕ) (r : Result α) : Prop :=
  r.failed → ∃ k m, rounds k = .failed m ∧ n ≤ k ∧
    ∀ j, n ≤ j → j < k → ∃ digest stuck, rounds j = .merged digest stuck

variable {upper}

theorem mem_removeSquashedBlobs {tail bottom : List (Layer α)} {merged d : String}
    {stuck : String → Bool} (hd : d ∈ merged :: bottom.map (·.digest)) (h : d ∈ blobs) :
    d ∈ removeSquashedBlobs blobs tail bottom merged stuck := by
  unfold removeSquashedBlobs
  induction tail generalizing blobs with
  | nil => exact h
  | cons layer rest ih =>
    refine ih ?_
    grind

theorem Stands.squashOnce (hs : Stands upper input blobs layers)
    (h : squashOnce upper squashLayers round blobs layers = r) :
    Stands upper input r.blobs r.layers := by
  have hle : upper.baseLayers = 0 ∨
      upper.tailCount squashLayers layers.length ≤ layers.length - upper.baseLayers := by
    unfold RootfsUpper.tailCount
    grind
  subst h
  unfold Squash.squashOnce
  split_ifs with hk
  · exact hs
  cases round with
  | failed => exact ⟨hs.base, hs.stack, fun l hl => (hs.present l hl).imp_left (by simp; grind)⟩
  | merged digest stuck =>
    refine ⟨?_, ?_, fun l hl => ?_⟩
    · rw [← hs.base]
      grind
    · rw [← hs.stack, flatMap_append, flatMap_singleton, ← flatMap_append, take_append_drop]
    rcases mem_append.mp hl with hl | hl
    · refine (hs.present l (mem_of_mem_take hl)).imp_left fun hb => ?_
      exact mem_removeSquashedBlobs (mem_cons_of_mem _ (mem_map_of_mem hl)) (by simp [hb])
    · cases mem_singleton.mp hl
      exact .inl (mem_removeSquashedBlobs mem_cons_self (Finset.mem_insert_self _ _))

theorem squashRootfsTail_stands {b : Bounds} {rounds : ℕ → Round} {n : ℕ}
    (h : Stands upper input blobs layers)
    (hr : squashRootfsTail upper b rounds n blobs layers = r) :
    Stands upper input r.blobs r.layers ∧ r.Short upper b ∧ r.Excused rounds n := by
  fun_induction squashRootfsTail upper b rounds n blobs layers with
  | case1 n blobs layers hl next he =>
    have hs := h.squashOnce (r := next) rfl
    subst hr
    rcases squashOnce_cases (r := next) rfl with ⟨hm, hk, hf⟩ | ⟨ho, hlt, -⟩
    · rw [hm] at hs
      refine ⟨hs, fun ho => .inr ?_, fun ho => ?_⟩
      · have hk2 := hk ho
        have htwo := b.two_le
        have hmax := b.lt
        unfold RootfsUpper.tailCount at hk2
        grind
      · obtain ⟨m, hm⟩ := hf ho
        exact ⟨n, m, hm, le_rfl, by omega⟩
    · grind
  | case2 n blobs layers hl next he ih =>
    obtain ⟨hs, hk, hx⟩ := ih (h.squashOnce rfl) hr
    refine ⟨hs, hk, fun hf => ?_⟩
    obtain ⟨k, m, hm, hn, hb⟩ := hx hf
    refine ⟨k, m, hm, Nat.le_of_succ_le hn, fun j hj hjk => ?_⟩
    rcases hj.eq_or_lt with rfl | hlt
    · grind [squashOnce_cases (r := next) rfl]
    · exact hb j hlt hjk
  | case3 n blobs layers hl =>
    cases hr
    exact ⟨h, fun _ => .inl (not_le.mp hl), fun hf => by cases hf⟩

/-- **The squash keeps** the base, the stack and the presence of the layers, and gets below its
bound where it can: only a round that fails stops it before. -/
theorem packRootfs_stands (root : Layer α) (b : Bounds) (rounds : ℕ → Round)
    (blobs : Finset String) :
    Stands upper (upper.lowers ++ [root]) (packRootfs upper root b rounds blobs).blobs
      (packRootfs upper root b rounds blobs).layers ∧
    (packRootfs upper root b rounds blobs).Short upper b ∧
    (packRootfs upper root b rounds blobs).Excused rounds 0 := by
  refine squashRootfsTail_stands ⟨rfl, rfl, fun l hl => ?_⟩ rfl
  rcases mem_append.mp hl with hl | hl
  · exact .inr (mem_map_of_mem hl)
  · cases mem_singleton.mp hl
    exact .inl (Finset.mem_insert_self _ _)

end FastSandbox.Runtime.Squash
