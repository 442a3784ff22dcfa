import FastSandbox.Pool.Planner

/-!
# What the planner's packing promises

The packing is a fold: each demand goes into one of the bins that are left at its turn, or into a
fresh one. Scores only choose between bins that all fit, so nothing below depends on them.
-/

namespace FastSandbox.Pool

open List Option Nat
open Fastlet (ComputeResources int64 milliValue wholeValue)
open Placement (ResourceDemand)

variable {share : ℤ → ℤ → ℚ} {fresh : ResourceAwareFreeBin} {demand : ResourceDemand}
  {demands : List ResourceDemand} {bins bins' : List ResourceAwareFreeBin}

/-! ## One demand -/

/-- One round of the loop: the bins after a demand is packed, or nothing if it fits nowhere. -/
def packOne (share : ℤ → ℤ → ℚ) (fresh : ResourceAwareFreeBin) (bins : List ResourceAwareFreeBin)
    (demand : ResourceDemand) : Option (List ResourceAwareFreeBin) :=
  match bestBin share fresh demand bins 0 none with
  | some (index, _) => some (bins.modify index (ResourceAwareFreeBin.take demand))
  | none => if !resourceDemandFits demand fresh then none else some (bins ++ [fresh.take demand])

theorem bestBin_eq_none {index : ℕ} {best : Option (ℕ × ℚ)} :
    bestBin share fresh demand bins index best = none ↔
      best = none ∧ ∀ bin ∈ bins, resourceDemandFits demand bin = false := by
  fun_induction bestBin share fresh demand bins index best with
  | case1 index best => simp
  | case2 bin bins index best hf ih => simp_all
  | case3 bin bins index best hf score better ih =>
    have hnew : (if better then some (index, score) else best) ≠ none := by
      cases best with
      | none => simp [better]
      | some => split_ifs <;> simp
    simp_all

theorem fits_of_bestBin {index : ℕ} {best : Option (ℕ × ℚ)} {found : ℕ × ℚ}
    (h : bestBin share fresh demand bins index best = some found) :
    best = some found ∨ ∃ k bin, found.1 = index + k ∧ bins[k]? = some bin ∧
      resourceDemandFits demand bin := by
  fun_induction bestBin share fresh demand bins index best with
  | case1 index best => exact .inl h
  | case2 bin bins index best ht ih =>
    rcases ih h with hb | ⟨k, bin', hk, hg, hf⟩
    · exact .inl hb
    · exact .inr ⟨k + 1, bin', by omega, hg, hf⟩
  | case3 bin bins index best ht score better ih =>
    rcases ih h with hb | ⟨k, bin', hk, hg, hf⟩
    · split_ifs at hb
      · exact .inr ⟨0, bin, by rw [← Option.some.inj hb]; rfl, rfl, by simpa using ht⟩
      · exact .inl hb
    · exact .inr ⟨k + 1, bin', by omega, hg, hf⟩

theorem packOne_eq_none : packOne share fresh bins demand = none ↔
    (∀ bin ∈ bins, resourceDemandFits demand bin = false) ∧
      resourceDemandFits demand fresh = false := by
  have hb := @bestBin_eq_none share fresh demand bins 0 none
  unfold packOne
  split
  · next index score hs => simp_all
  · next hn => simp_all

theorem packOne_eq_some (h : packOne share fresh bins demand = some bins') :
    (∃ left bin right, bins = left ++ bin :: right ∧ resourceDemandFits demand bin ∧
      bins' = left ++ bin.take demand :: right) ∨
    ((∀ bin ∈ bins, resourceDemandFits demand bin = false) ∧
      resourceDemandFits demand fresh ∧ bins' = bins ++ [fresh.take demand]) := by
  unfold packOne at h
  split at h
  · next index score hb =>
    obtain hn | ⟨k, bin, hk, hg, hf⟩ := fits_of_bestBin hb
    · cases hn
    obtain rfl : index = k := by simpa using hk
    obtain ⟨hlt, rfl⟩ := List.getElem?_eq_some_iff.1 hg
    obtain ⟨left, bin, right, rfl, rfl, ho⟩ :=
      exists_of_modify (ResourceAwareFreeBin.take demand) hlt
    exact .inl ⟨left, bin, right, rfl, by simpa using hf, by rw [← ho, Option.some.inj h]⟩
  · next hb =>
    split at h
    · cases h
    · next hf => exact .inr ⟨(bestBin_eq_none.1 hb).2, by simpa using hf, (Option.some.inj h).symm⟩

/-! ## A whole list of demands -/

/-- `base` bins were there before the loop. -/
theorem packDemands_eq {base added : ℕ} (h : bins.length = base + added) :
    packDemands share fresh demands bins added =
      (demands.foldlM (packOne share fresh) bins).map fun bins' => bins'.length - base := by
  induction demands generalizing bins added with
  | nil => simp [packDemands, h]
  | cons demand rest ih =>
    rw [foldlM_cons, packDemands, packOne]
    cases bestBin share fresh demand bins 0 none with
    | some found => exact ih (by rw [length_modify, h])
    | none =>
      split_ifs
      · rfl
      · exact ih (by simp [h, add_assoc])

theorem foldlM_eq_none {α β : Type*} {f : β → α → Option β} {l : List α} {b : β} :
    l.foldlM f b = none ↔ ∃ before a after b', l = before ++ a :: after ∧
      before.foldlM f b = some b' ∧ f b' a = none := by
  induction l generalizing b with
  | nil => simp
  | cons x l ih =>
    rw [foldlM_cons]
    cases hx : f b x with
    | none => exact iff_of_true rfl ⟨[], x, l, b, rfl, rfl, hx⟩
    | some b1 =>
      refine ih.trans ⟨?_, ?_⟩
      · rintro ⟨before, a, after, b', rfl, hb, ha⟩
        exact ⟨x :: before, a, after, b', rfl, by rw [foldlM_cons, hx]; exact hb, ha⟩
      rintro ⟨_ | ⟨y, before⟩, a, after, b', hl, hb, ha⟩
      · cases hl
        cases hb
        rw [hx] at ha
        cases ha
      · cases hl
        rw [foldlM_cons, hx] at hb
        exact ⟨before, a, after, b', rfl, hb, ha⟩

def ResourceAwareFreeBin.Valid (bin : ResourceAwareFreeBin) : Prop :=
  0 ≤ bin.slots ∧ 0 ≤ bin.resources.cpu ∧ 0 ≤ bin.resources.memory

/-- The demands can be placed into the bins one after the other, and no bin they are placed into
becomes negative. -/
def Placeable : List ResourceDemand → List ResourceAwareFreeBin → Prop
  | [], _ => True
  | demand :: rest, bins => ∃ left bin right, bins = left ++ bin :: right ∧
      (bin.take demand).Valid ∧ Placeable rest (left ++ bin.take demand :: right)

theorem resourceDemandFits_iff {bin : ResourceAwareFreeBin} : resourceDemandFits demand bin ↔
    0 < demand.cpu ∧ 0 < demand.memory ∧ (bin.take demand).Valid := by
  have hv : (bin.take demand).Valid ↔ 0 ≤ bin.slots - 1 ∧
    0 ≤ bin.resources.cpu - demand.cpu ∧ 0 ≤ bin.resources.memory - demand.memory := Iff.rfl
  rw [resourceDemandFits_eq_true, hv, sub_nonneg, sub_nonneg, sub_nonneg]
  tauto

/-- The packing is a placement once the fresh bins it adds are there from the start. -/
theorem placeable_of_packs (h : demands.foldlM (packOne share fresh) bins = some bins') :
    ∃ n ≤ demands.length, bins'.length = bins.length + n ∧
      Placeable demands (bins ++ replicate n fresh) := by
  induction demands generalizing bins with
  | nil =>
    cases h
    exact ⟨0, le_rfl, rfl, trivial⟩
  | cons demand rest ih =>
    obtain ⟨_, ho, hr⟩ := bind_eq_some_iff.1 h
    obtain ⟨n, hn, hl, hp⟩ := ih hr
    rcases packOne_eq_some ho with ⟨left, bin, right, rfl, hf, rfl⟩ | ⟨-, hf, rfl⟩
    · refine ⟨n, le_succ_of_le hn, by simpa using hl, left, bin,
        right ++ replicate n fresh, by simp, (resourceDemandFits_iff.1 hf).2.2, by simpa using hp⟩
    · refine ⟨n + 1, succ_le_succ hn, by rw [hl]; simp; omega, bins, fresh,
        replicate n fresh, by rw [replicate_succ], (resourceDemandFits_iff.1 hf).2.2,
          by simpa using hp⟩

/-- The pending demands and the buffer, in the order in which they are packed. -/
def packingOrder (share : ℤ → ℤ → ℚ) (pending : List ResourceDemand) (bufferMin : ℤ)
    (defaultDemand : ResourceDemand) (fresh : ResourceAwareFreeBin) : List ResourceDemand :=
  (pending ++ List.replicate bufferMin.toNat defaultDemand).insertionSort fun a b =>
    !packedBefore share fresh.resources b a

theorem additionalFastlets_eq {pending : List ResourceDemand} {bufferMin : ℤ} :
    additionalFastletsForDemands share pending bufferMin demand bins fresh =
      ((packingOrder share pending bufferMin demand fresh).foldlM (packOne share fresh) bins).map
        fun bins' => bins'.length - bins.length :=
  packDemands_eq rfl

/-- **What the packing promises.** If the planner finds the demands packable with `n` more Fastlets,
they and the buffer can be placed into the free bins and `n` fresh ones, and `n` is at most their
number. It gives up exactly if a demand fits none of the bins left at its turn and no fresh one. -/
theorem additionalFastlets_sound (share : ℤ → ℤ → ℚ) (pending : List ResourceDemand) (bufferMin : ℤ)
    (defaultDemand : ResourceDemand) (existing : List ResourceAwareFreeBin)
    (fresh : ResourceAwareFreeBin) :
    let demands := packingOrder share pending bufferMin defaultDemand fresh
    let answer := additionalFastletsForDemands share pending bufferMin defaultDemand existing fresh
    demands.Perm (pending ++ List.replicate bufferMin.toNat defaultDemand) ∧
      (∀ n, answer = some n →
        n ≤ demands.length ∧ Placeable demands (existing ++ List.replicate n fresh)) ∧
      (answer = none ↔ ∃ before demand after bins, demands = before ++ demand :: after ∧
        before.foldlM (packOne share fresh) existing = some bins ∧
        (∀ bin ∈ bins, resourceDemandFits demand bin = false) ∧
        resourceDemandFits demand fresh = false) := by
  rw [additionalFastlets_eq]
  refine ⟨perm_insertionSort _ _, ?_, ?_⟩
  · intro n hn
    obtain ⟨_, hb, rfl⟩ := map_eq_some_iff.1 hn
    obtain ⟨n, hle, hl, hp⟩ := placeable_of_packs hb
    rw [hl, Nat.add_sub_cancel_left]
    exact ⟨hle, hp⟩
  · rw [map_eq_none_iff, foldlM_eq_none]
    simp only [packOne_eq_none]

end FastSandbox.Pool
