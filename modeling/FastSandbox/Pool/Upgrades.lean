import FastSandbox.Pool.Scaling

/-!
# Planned upgrades

A planned upgrade replaces the Pods of an old template one at a time: a surge Pod is created when
the Pool has exactly its target, and a stale Pod drains as soon as the Pods of the current template
are ready. That there is one surge Pod at a time rests on the target, which stays as it is in slot
mode. The resource-aware planner derives its target from the Pods there are, surge Pods included.
-/

namespace FastSandbox.Pool

open Placement (Time)
open Interleaving List PoolState

/-! ## One surge at a time -/

/-- A Pod was surged since a stale Pod last began to drain. -/
def surging (hash : String) : List Move → Bool
  | [] => false
  | .surge :: _ => true
  | .drain pod _ :: earlier => fastletPodTemplateCurrent hash pod && surging hash earlier

/-- A stale Pod begins to drain between two surges. -/
def surgesOnce (hash : String) : List Move → Bool
  | [] => true
  | .surge :: earlier => !surging hash earlier && surgesOnce hash earlier
  | .drain .. :: earlier => surgesOnce hash earlier

/-- A pass of an unchanged Pool that sees its own writes. -/
def SeesWrites (pool : SandboxPool) (hash : String) (s : PoolState) (p : PassRead) : Prop :=
  p.view.pool = pool ∧ p.view.pods = s.pods ∧ p.templateHash = hash

/-- The Pool is scaled by resources, and not by slots. -/
def byResources (r : Settings) (pool : SandboxPool) : Bool :=
  pool.spec.sandboxResources.resourceMode = .resourceAware && !r.disableResourceAwarePoolScaling

/-- How many Pods have slots for a number of Sandboxes and for the buffer. -/
def SandboxPool.podsFor (pool : SandboxPool) (sandboxes : ℤ) : ℤ :=
  (sandboxes + pool.spec.capacity.bufferMin + pool.nominal - 1) / pool.nominal

/-- A pass that finds as many active and pending Sandboxes as ever. If it scales by resources, then
the Pool has a fixed size, and its Pods are not more, or have been for the stabilization window. -/
def SameDemand (r : Settings) (pool : SandboxPool) (sandboxes : ℤ) (p : PassRead) : Prop :=
  if byResources r pool then
    0 < pool.spec.capacity.poolMax ∧ pool.spec.capacity.poolMax ≤ pool.spec.capacity.poolMin ∧
      (p.view.pods.countP (!·.draining) ≤ pool.spec.capacity.poolMax ∨
        p.candidate.any fun c => c.status ∧ c.lastTransitionTime + r.window ≤ p.view.now)
  else
    let (active, pending) := poolSlotDemandCounts p.view.sandboxes pool.name p.view.pods
    active + pending = sandboxes

/-- A pass sees its own writes and the same demand, and a Pod that is being deleted is not put
back. -/
def Unchanging (r : Settings) (pool : SandboxPool) (hash : String) (sandboxes : ℤ) (s : PoolState) :
    Step → Unit → Prop
  | .pass p f, _ =>
    SeesWrites pool hash s p ∧ SameDemand r pool sandboxes p ∧
      ∀ pod ∈ s.pods, pod.deleting → f.verdict pod.uid ≠ .cancel
  | .settle .., _ => True

/-- A pass sees its own writes and no Sandbox. -/
def WithoutDemand (pool : SandboxPool) (hash : String) (s : PoolState) : Step → Unit → Prop
  | .pass p _, _ => SeesWrites pool hash s p ∧ p.view.sandboxes = []
  | .settle .., _ => True

instance (pool : SandboxPool) (hash : String) (s : PoolState) (p : PassRead) :
    Decidable (SeesWrites pool hash s p) :=
  inferInstanceAs (Decidable (_ ∧ _))

instance (r : Settings) (pool : SandboxPool) (sandboxes : ℤ) (p : PassRead) :
    Decidable (SameDemand r pool sandboxes p) :=
  inferInstanceAs (Decidable (ite ..))

instance (r : Settings) (pool : SandboxPool) (hash : String) (sandboxes : ℤ) (s : PoolState)
    (e : Step) (c : Unit) : Decidable (Unchanging r pool hash sandboxes s e c) :=
  match e with
  | .pass .. => inferInstanceAs (Decidable (_ ∧ _))
  | .settle .. => .isTrue trivial

instance (pool : SandboxPool) (hash : String) (s : PoolState) (e : Step) (c : Unit) :
    Decidable (WithoutDemand pool hash s e c) :=
  match e with
  | .pass .. => inferInstanceAs (Decidable (_ ∧ _))
  | .settle .. => .isTrue trivial

/-- UIDs are unique, and the controller deletes draining Pods only. -/
structure Sound (pods : List Pod) : Prop where
  nodup : (pods.map (·.uid)).Nodup
  deleted : ∀ pod ∈ pods, pod.deleting → pod.draining

/-- What an upgrade with a fixed target keeps. After a surge, and until a stale Pod drains, there is
one Pod too many, none drains, and both templates have Pods. -/
structure FixedTarget (hash : String) (target bound : ℤ) (pods : List Pod) (moves : List Move) :
    Prop extends Sound pods where
  count : pods.length ≤ bound + 1
  drains : pods.countP (·.draining) ≤ (pods.length - target).toNat
  once : surgesOnce hash moves
  surged : surging hash moves → pods.length = target + 1 ∧ pods.countP (·.draining) = 0 ∧
    pods.any (fastletPodTemplateCurrent hash) ∧
    pods.any (!fastletPodTemplateCurrent hash ·)

abbrev Upgrading (hash : String) (target bound : ℤ) (s : PoolState) : Prop :=
  FixedTarget hash target bound s.pods s.moves

/-! ## Pods -/

section

variable {pods : List Pod}

theorem countP_map_le {f : Pod → Pod} (h : ∀ pod ∈ pods, (f pod).draining →
    pod.draining) : (pods.map f).countP (·.draining) ≤ pods.countP (·.draining) := by
  rw [countP_map]
  exact countP_mono_left h

theorem countP_patch_le {uid : String} {f : Pod → Pod} (hn : (pods.map (·.uid)).Nodup) :
    (pods.map fun pod => if pod.uid ∈ [uid] then f pod else pod).countP (·.draining) ≤
      pods.countP (·.draining) + 1 := by
  induction pods with
  | nil => simp
  | cons pod rest ih =>
    obtain ⟨hne, hr⟩ := nodup_cons.1 hn
    rw [map_cons, countP_cons, countP_cons]
    by_cases hu : pod.uid = uid
    · have hm : (rest.map fun pod => if pod.uid ∈ [uid] then f pod else pod) = rest := by
        refine (map_congr_left fun pod' hp' => if_neg fun h => hne ?_).trans (map_id rest)
        exact mem_map.2 ⟨pod', hp', (mem_singleton.1 h).trans hu.symm⟩
      rw [hm]
      split_ifs <;> omega
    · have hle := ih hr
      simp only [mem_singleton, hu, if_false] at hle ⊢
      omega

theorem countP_filter_add_le {keep : Pod → Bool} (h : ∀ pod ∈ pods, keep pod ∨ pod.draining) :
    (pods.filter keep).countP (·.draining) + pods.length ≤
      pods.countP (·.draining) + (pods.filter keep).length := by
  induction pods with
  | nil => simp
  | cons =>
    simp only [filter_cons, countP_cons, length_cons]
    split_ifs <;> simp_all <;> omega

theorem length_appendTargets_le (count : ℕ) (reason : DrainReason) (pods : List Pod)
    (result : List (Pod × DrainReason)) :
    (appendTargets count reason pods result).length ≤ max count result.length := by
  induction pods generalizing result with
  | nil => exact le_max_right _ _
  | cons pod rest ih =>
    refine (ih _).trans ?_
    split_ifs with h
    · exact le_rfl
    · simp only [length_append, length_singleton]
      omega

theorem appendTargets_of_full {count : ℕ} {reason : DrainReason}
    (result : List (Pod × DrainReason)) (h : count ≤ result.length) :
    appendTargets count reason pods result = result := by
  induction pods with
  | nil => rfl
  | cons pod rest ih =>
    rw [appendTargets, if_pos (.inl h)]
    exact ih

theorem length_selectDrainTargets_le (count : ℕ) (preferred : List String) (hash : String)
    (ready aware : Bool) (active : String → ℕ) :
    (selectDrainTargets pods count preferred hash ready aware active).length ≤ count := by
  refine (length_appendTargets_le ..).trans (max_le le_rfl ?_)
  split_ifs
  · exact (length_appendTargets_le ..).trans (by simp)
  · exact Nat.zero_le _

/-- Once the current template is ready, the first Pod to drain is a stale one. -/
theorem selectDrainTargets_one {preferred : List String} {hash : String} {aware : Bool}
    {active : String → ℕ} (h : pods.any (!fastletPodTemplateCurrent hash ·)) :
    ∃ pod, fastletPodTemplateCurrent hash pod = false ∧
      selectDrainTargets pods 1 preferred hash true aware active = [(pod, .plannedUpgrade)] := by
  obtain ⟨pod, hp, hl⟩ := any_eq_true.1 h
  have he : pod ∈ byActive active (pods.filter (!fastletPodTemplateCurrent hash ·)) :=
    (mem_insertionSort _).2 (mem_filter.2 ⟨hp, hl⟩)
  obtain ⟨first, rest, hf⟩ := exists_cons_of_ne_nil (ne_nil_of_mem he)
  have hr : first ∈ byActive active (pods.filter (!fastletPodTemplateCurrent hash ·)) :=
    hf ▸ mem_cons_self
  refine ⟨first, ?_, ?_⟩
  · simpa using (mem_filter.1 ((mem_insertionSort _).1 hr)).2
  have ho : appendTargets 1 .plannedUpgrade (first :: rest) [] = [(first, .plannedUpgrade)] :=
    appendTargets_of_full [(first, .plannedUpgrade)] le_rfl
  simp only [selectDrainTargets, if_pos, hf, ho]
  exact appendTargets_of_full _ le_rfl

end

/-! ## Drains -/

section Drains

variable {hash : String} {target bound : ℤ} {s : PoolState}

theorem Sound.patch {uids : List String} {f : Pod → Pod} (hs : Sound s.pods)
    (hu : ∀ pod, (f pod).uid = pod.uid)
    (hf : ∀ pod ∈ s.pods, pod.uid ∈ uids → (f pod).deleting → (f pod).draining) :
    Sound (s.patch uids f).pods where
  nodup := by
    have hm : (s.patch uids f).pods.map (·.uid) = s.pods.map (·.uid) := by
      simp only [PoolState.patch, map_map]
      exact map_congr_left fun pod _ => by grind
    rw [hm]
    exact hs.nodup
  deleted := by
    have hd := hs.deleted
    simp only [PoolState.patch, forall_mem_map]
    grind

theorem startDrain_sound {now : Time} {selection : Pod × DrainReason} (hs : Sound s.pods) :
    Sound (s.startDrain now selection).pods := by
  exact hs.patch (fun _ => rfl) fun _ _ _ _ => rfl

theorem startDrains_sound (now : Time) (selections : List (Pod × DrainReason)) (hs : Sound s.pods)
    (hn : surgesOnce hash s.moves) : Sound (selections.foldl (startDrain now) s).pods ∧
      surgesOnce hash (selections.foldl (startDrain now) s).moves ∧
      (surging hash (selections.foldl (startDrain now) s).moves →
        surging hash s.moves ∧
          ∀ selection ∈ selections, fastletPodTemplateCurrent hash selection.1) ∧
      (selections.foldl (startDrain now) s).pods.length = s.pods.length ∧
      (selections.foldl (startDrain now) s).pods.countP (·.draining) ≤
        s.pods.countP (·.draining) + selections.length := by
  induction selections generalizing s with
  | nil => exact ⟨hs, hn, fun h => ⟨h, nofun⟩, rfl, le_rfl⟩
  | cons selection rest ih =>
    obtain ⟨hso, ho, hi, hl, hc⟩ := ih (startDrain_sound hs) hn
    refine ⟨hso, ho, fun h => ?_, hl.trans (length_map _), hc.trans ?_⟩
    · obtain ⟨hb, hr⟩ := hi h
      obtain ⟨hu, hb⟩ := Bool.and_eq_true_iff.1 hb
      exact ⟨hb, forall_mem_cons.2 ⟨hu, hr⟩⟩
    · have ha : (s.startDrain now selection).pods.countP (·.draining) ≤ _ :=
        countP_patch_le hs.nodup
      rw [length_cons]
      omega

/-- With one Pod too many after a surge, and the current template ready, a stale Pod drains. -/
theorem startDrains_upgrading {now : Time} {preferred : List String} {ready aware : Bool}
    {active : String → ℕ} {k count : ℕ} (hs : Upgrading hash target bound s)
    (ht : count + s.pods.countP (·.draining) ≤ (s.pods.length - target).toNat)
    (hr : surging hash s.moves → ready ∧ count = 1) :
    Upgrading hash target bound (((selectDrainTargets (s.pods.filter (!·.draining)) count preferred
      hash ready aware active).take k).foldl (startDrain now) s) := by
  generalize he : selectDrainTargets _ _ _ _ _ _ _ = selections
  have hse : selections.length ≤ count := he ▸ length_selectDrainTargets_le ..
  have hk := (take_sublist k selections).length_le
  obtain ⟨hso, hn, hi, hl, _⟩ := startDrains_sound now (selections.take k) hs.toSound hs.once
  refine ⟨hso, hl ▸ hs.count, hl ▸ by omega, hn, fun hu => ?_⟩
  obtain ⟨hb, hc⟩ := hi hu
  obtain ⟨rfl, rfl⟩ := hr hb
  obtain ⟨hx, hnn, ha, hsl⟩ := hs.surged hb
  have hv : s.pods.filter (!·.draining) = s.pods :=
    filter_eq_self.2 fun pod hp => by simpa using countP_eq_zero.1 hnn pod hp
  obtain ⟨pod, hp, hf⟩ := selectDrainTargets_one hsl
  rw [hv, hf] at he
  subst he
  cases k with
  | zero => exact ⟨hx, hnn, ha, hsl⟩
  | succ =>
    have ho := hc (pod, .plannedUpgrade) (by simp)
    rw [hp] at ho
    cases ho

theorem settleDrains_upgrading {verdict : String → DrainVerdict}
    (hs : Upgrading hash target bound s)
    (ha : ∀ pod ∈ s.pods, pod.deleting → verdict pod.uid ≠ .cancel) :
    Upgrading hash target bound (s.patch ((s.pods.filter (·.draining)).map (·.uid)) fun pod =>
      (verdict pod.uid).apply pod) := by
  have hv : ∀ v : DrainVerdict, ∀ pod : Pod, (v.apply pod).uid = pod.uid ∧
      ((v.apply pod).draining → pod.draining) ∧
      (pod.draining → (pod.deleting → v ≠ .cancel) →
        (v.apply pod).deleting → (v.apply pod).draining) := by
    intro v pod
    cases v <;> simp +contextual [DrainVerdict.apply, undrain]
  have hl : ∀ uids f, (s.patch uids f).pods.length = s.pods.length := fun _ _ => length_map _
  refine ⟨hs.patch (fun pod => (hv _ pod).1) fun pod ho hi => ?_, ?_, ?_, hs.once, ?_⟩
  · obtain ⟨_, hp', heq⟩ := mem_map.1 hi
    obtain ⟨he, hd⟩ := mem_filter.1 hp'
    cases inj_on_of_nodup_map hs.nodup he ho heq
    exact (hv _ pod).2.2 hd (ha pod ho)
  · rw [hl]
    exact hs.count
  · rw [hl]
    refine (countP_map_le fun pod _ => ?_).trans hs.drains
    split_ifs
    · exact (hv _ pod).2.1
    · exact id
  · intro hu
    have hn := countP_eq_zero.1 (hs.surged hu).2.1
    rw [filter_eq_nil_iff.2 hn]
    simpa [patch] using hs.surged hu

theorem reconcileDraining_upgrading {p : PassRead} {plan : ScalePlan} {f : Fates}
    (hs : Upgrading hash target bound s) (hd : p.view.pods = s.pods) (hh : p.templateHash = hash)
    (hn : ∀ pod ∈ s.pods, pod.deleting → f.verdict pod.uid ≠ .cancel) :
    Upgrading hash target bound (s.reconcileDraining p plan target f) := by
  have hc : (s.pods.filter (·.draining)).length = s.pods.countP (·.draining) :=
    countP_eq_length_filter.symm
  have hr := hs.drains
  unfold reconcileDraining
  dsimp only
  rw [hd, hh, hc]
  split_ifs with hm hf hw
  · exact absurd hm (by omega)
  · exact hs
  · refine startDrains_upgrading hs (by omega) fun hu => ?_
    obtain ⟨_, hnn, ha, hl⟩ := hs.surged hu
    have hv : s.pods.filter (!·.draining) = s.pods :=
      filter_eq_self.2 fun pod hp => by simpa using countP_eq_zero.1 hnn pod hp
    rw [hv] at hw ⊢
    have hpos := length_pos_of_ne_nil (fun h => by simp [h] at ha : s.pods ≠ [])
    exact ⟨by simpa [ha, hl] using hw, by omega⟩
  · exact settleDrains_upgrading hs hn

theorem reconcileDraining_idle {p : PassRead} {plan : ScalePlan} {f : Fates}
    (hn : p.view.pods.countP (·.draining) = 0) (hle : (p.view.pods.length : ℤ) ≤ target) :
    (s.reconcileDraining p plan target f).pods = s.pods ∧
      (s.reconcileDraining p plan target f).moves = s.moves := by
  have hd : p.view.pods.filter (·.draining) = [] := filter_eq_nil_iff.2 (countP_eq_zero.1 hn)
  simp [reconcileDraining, hd, not_lt.2 hle, patch]

end Drains

/-! ## Passes -/

section Passes

variable {hash : String} {target bound : ℤ} {s : PoolState}

@[simp] theorem note_pods (s : PoolState) (plan : ScalePlan) (e : Planning) :
    (s.note plan e).pods = s.pods := by
  unfold note
  split <;> rfl

@[simp] theorem note_moves (s : PoolState) (plan : ScalePlan) (e : Planning) :
    (s.note plan e).moves = s.moves := by
  unfold note
  split <;> rfl

theorem create_sound {uids : List String} (hs : Sound s.pods)
    (hn : (s.pods.map (·.uid) ++ uids).Nodup) : Sound (s.create hash uids).pods ∧
      (s.create hash uids).pods.length = s.pods.length + uids.length ∧
      (s.create hash uids).pods.countP (·.draining) = s.pods.countP (·.draining) := by
  refine ⟨⟨?_, ?_⟩, ?_, ?_⟩
  · simpa [create, Function.comp_def] using hn
  · have hd := hs.deleted
    simp only [create, forall_mem_append, forall_mem_map]
    exact ⟨hd, nofun⟩
  · simp [create]
  · simp [create, countP_map, Function.comp_def]

section

variable (hs : Upgrading hash target bound s) (hbd : target ≤ bound)
include hs hbd

theorem Upgrading.create {uids : List String} (hd : (s.pods.map (·.uid) ++ uids).Nodup)
    (hl : uids.length ≤ (target - s.pods.length).toNat) :
    Upgrading hash target bound (s.create hash uids) := by
  obtain ⟨ho, hn, _⟩ := @create_sound hash s _ hs.toSound hd
  have hr := hs.drains
  cases uids with
  | nil =>
    have hm : (s.create hash []).pods = s.pods := append_nil _
    rw [Upgrading, hm]
    exact hs
  | cons =>
    rw [length_cons] at hl hn
    refine ⟨ho, by omega, by omega, hs.once, fun hu => ?_⟩
    have he := (hs.surged hu).1
    omega

theorem Upgrading.surge {uid : String} (hne : hash ≠ "") (hd : (s.pods.map (·.uid) ++ [uid]).Nodup)
    (hn : needsPlannedUpgradeSurge s.pods target hash) :
    Upgrading hash target bound { s.create hash [uid] with moves := .surge :: s.moves } := by
  obtain ⟨ho, hl, _⟩ := @create_sound hash s _ hs.toSound hd
  have hr := hs.drains
  simp only [needsPlannedUpgradeSurge, Bool.and_eq_true, decide_eq_true_eq] at hn
  obtain ⟨⟨-, _⟩, hsl⟩ := hn
  have hnn : surging hash s.moves = false := by
    by_contra hu
    have he := (hs.surged (by simpa using hu)).1
    omega
  rw [length_singleton] at hl
  refine ⟨⟨ho.nodup, ho.deleted⟩, ?_, ?_, by simp [surgesOnce, hnn, hs.once],
    fun _ => ⟨?_, ?_, ?_, ?_⟩⟩
  · show ((s.create hash [uid]).pods.length : ℤ) ≤ _
    omega
  · show (s.create hash [uid]).pods.countP _ ≤ ((s.create hash [uid]).pods.length - target).toNat
    omega
  · show ((s.create hash [uid]).pods.length : ℤ) = _
    omega
  · show (s.create hash [uid]).pods.countP _ = 0
    omega
  · simp [PoolState.create, fastletPodTemplateCurrent, hne]
  · simp [PoolState.create, hsl]

theorem scale_upgrading {r : Settings} {p : PassRead} {plan : ScalePlan} {f : Fates}
    (hne : hash ≠ "") (hp : p.view.pods = s.pods) (hh : p.templateHash = hash)
    (ha : ∀ pod ∈ s.pods, pod.deleting → f.verdict pod.uid ≠ .cancel)
    (hg : (passTarget r p plan).1 = target) (hd : (s.pods.map (·.uid) ++ f.uids).Nodup) :
    Upgrading hash target bound (s.scale r p plan f) := by
  unfold scale
  simp only [hg, hp, hh]
  generalize hn : (s.note plan _).note plan _ = noted
  have hnot : noted.pods = s.pods := by simp [← hn]
  have ht : noted.moves = s.moves := by simp [← hn]
  replace hs : Upgrading hash target bound noted := by
    rw [Upgrading, hnot, ht]
    exact hs
  rw [← hnot] at hp ha hd ⊢
  have hk : (noted.pods.map (·.uid) ++ f.uids.take
      (target - noted.pods.length).toNat).Nodup :=
    hd.sublist (List.Sublist.append_left (take_sublist ..) _)
  split_ifs with hca ho he hst
  · simpa [Upgrading, ← hnot, ← ht] using hs
  · exact hs.create hbd hd ho.le
  · cases hu : f.uids with
    | nil => exact hs
    | cons =>
      rw [hu] at hd
      exact hs.surge hbd hne (hd.sublist (by simp)) he
  · exact hs.create hbd hk (by simp)
  · have hc := hs.create hbd hk (by simp)
    have hr := hs.drains
    rcases le_or_gt target noted.pods.length with hle | hlt
    · have hm : (noted.create hash (f.uids.take (target - noted.pods.length).toNat)).pods =
          noted.pods := by
        rw [Int.toNat_of_nonpos (by omega)]
        exact append_nil _
      exact reconcileDraining_upgrading hc (hp.trans hm.symm) hh (by simpa only [hm] using ha)
    · rw [Upgrading]
      have hi := fun s => @reconcileDraining_idle target s p plan f (hp ▸ by omega) (hp ▸ hlt.le)
      rw [(hi _).1, (hi _).2]
      exact hc

end

theorem settle_upgrading {keep : Pod → Bool} {change : Pod → Pod}
    (hs : Upgrading hash target bound s) (he : ∀ pod ∈ s.pods, (keep pod ∨ pod.deleting) ∧
      change pod = { change pod with
        name := pod.name, uid := pod.uid, templateHash := pod.templateHash
        draining := pod.draining, deleting := pod.deleting }) :
    Upgrading hash target bound { s with pods := (s.pods.filter keep).map change } := by
  have hm : ∀ pod ∈ s.pods.filter keep, (change pod).uid = pod.uid ∧
      (change pod).templateHash = pod.templateHash ∧ (change pod).draining = pod.draining ∧
      (change pod).deleting = pod.deleting := fun pod hp => by
    rw [(he pod (mem_of_mem_filter hp)).2]
    exact ⟨rfl, rfl, rfl, rfl⟩
  have hd : ((s.pods.filter keep).map change).map (·.uid) = (s.pods.filter keep).map (·.uid) := by
    rw [map_map]
    exact map_congr_left fun pod hp => (hm pod hp).1
  have hc : ((s.pods.filter keep).map change).countP (·.draining) =
      (s.pods.filter keep).countP (·.draining) := by
    rw [countP_map]
    exact countP_congr fun pod hp => by simp [(hm pod hp).2.2.1]
  have hr := hs.drains
  have hle := s.pods.length_filter_le keep
  have hg := countP_filter_add_le fun pod hp => (he pod hp).1.imp_right (hs.deleted pod hp)
  have hb := hs.count
  refine ⟨⟨hd ▸ hs.nodup.sublist (filter_sublist.map _), ?_⟩, ?_, ?_, hs.once, fun hu => ?_⟩
  · rw [forall_mem_map]
    intro pod hp
    rw [(hm pod hp).2.2.1, (hm pod hp).2.2.2]
    exact hs.deleted pod (mem_of_mem_filter hp)
  · simp only [length_map]
    omega
  · simp only [length_map, hc]
    omega
  · -- no Pod drains, so none goes away
    obtain ⟨hx, hn, ha, hl⟩ := hs.surged hu
    have hk : s.pods.filter keep = s.pods := by
      refine filter_eq_self.2 fun pod hp => (he pod hp).1.resolve_right fun h => ?_
      exact countP_eq_zero.1 hn pod hp (hs.deleted pod hp h)
    rw [hk] at hm hc
    have hcu : ∀ pod ∈ s.pods, fastletPodTemplateCurrent hash (change pod) =
        fastletPodTemplateCurrent hash pod := fun pod hp => by
      rw [fastletPodTemplateCurrent, (hm pod hp).2.1, fastletPodTemplateCurrent]
    simp only [hk, length_map, hc, any_map]
    refine ⟨hx, hn, ?_, ?_⟩
    · obtain ⟨pod, hp, h⟩ := any_eq_true.1 ha
      exact any_eq_true.2 ⟨pod, hp, (hcu pod hp).trans h⟩
    · obtain ⟨pod, hp, h⟩ := any_eq_true.1 hl
      exact any_eq_true.2 ⟨pod, hp, by simpa [hcu pod hp] using h⟩

end Passes

/-! ## The target stays as it is -/

section Target

variable {lib : Library} {r : Settings} {overhead : ResourceList} {pool : SandboxPool}
  {sandboxes : ℤ} {p : PassRead} {plan : ScalePlan}

/-- The target of an upgrade with an unchanged demand. -/
def SandboxPool.steadyTarget (pool : SandboxPool) (r : Settings) (sandboxes : ℤ) : ℤ :=
  if byResources r pool then pool.spec.capacity.poolMax
  else pool.spec.capacity.clamp (pool.podsFor sandboxes)

theorem observePods_activeDrains (v : PoolView) (capacity demand : Placement.ResourceDemand)
    (pods : List Pod) (view : ResourceAwareCapacityView) :
    (pods.foldl (observePod r v capacity demand) view).activeDrains =
      view.activeDrains + pods.countP (·.draining) := by
  induction pods generalizing view with
  | nil => rfl
  | cons pod rest ih =>
    rw [foldl_cons, ih, countP_cons]
    unfold observePod
    grind

theorem removeExcess_activeDrains (poolMin retained : ℤ)
    (removable : List ResourceAwareDrainCandidate) (free : ℤ) (plan : ResourceAwareScalePlan) :
    (removeExcess poolMin retained removable free plan).activeDrains = plan.activeDrains := by
  induction removable generalizing free plan with
  | nil => rfl
  | cons candidate rest ih =>
    unfold removeExcess
    split_ifs
    · rfl
    · exact ih _ _

/-- The planner counts the Pods that drain, whatever else it observes. -/
theorem planned_activeDrains {v : PoolView} {requests capacity : Placement.ResourceDemand}
    (h : v.pool.spec.sandboxResources.requestResources = some requests)
    (pending : List Placement.ResourceDemand) :
    (planResourceAwareScaleWithDemand r v pending capacity).activeDrains =
      v.pods.countP (·.draining) := by
  have ho := @observePods_activeDrains r v capacity requests v.pods {}
  rw [Nat.zero_add] at ho
  unfold planResourceAwareScaleWithDemand observeResourceAwareCapacity
  simp only [h]
  split
  · exact ho
  split_ifs
  · exact ho
  · exact ho
  · exact (removeExcess_activeDrains ..).trans ho

theorem clamp_fixed {c : PoolCapacity} (hpos : 0 < c.poolMax) (hle : c.poolMax ≤ c.poolMin)
    (desired : ℤ) :
    c.clamp desired = c.poolMax := by
  rw [PoolCapacity.clamp, if_pos hpos]
  omega

theorem planScale_cases (h : planScale lib r overhead p.view = some plan) :
    byResources r p.view.pool = true ∧ plan.resourceAware = true ∧
        (∃ desired, plan.desiredPods = p.view.pool.spec.capacity.clamp desired) ∧
        plan.activeDrains = p.view.pods.countP (·.draining) ∨
      byResources r p.view.pool = false ∧ plan.resourceAware = false ∧
        plan.desiredPods = p.view.pool.spec.capacity.clamp (slotTarget p.view) := by
  unfold planScale at h
  split at h
  · cases h
  next resolved hc =>
    have hv : p.view.pool.spec.validateResourceContract = none := by
      unfold compileFastletResources at hc
      split at hc
      · cases hc
      · assumption
    split_ifs at h with hb
    · left
      split at h
      · cases h
      cases h
      obtain ⟨_, _, _, hd⟩ :=
        SandboxResourceProfile.derives_of_validate (SandboxPoolSpec.profile_of_contract hv) hb.1
      exact ⟨by simpa [byResources] using hb, rfl, ⟨_, rfl⟩,
        planned_activeDrains hd.requestResources_eq _⟩
    · right
      cases h
      exact ⟨by simpa [byResources] using hb, rfl, rfl⟩

/-- **The target stays as it is** in every pass of an upgrade with an unchanged demand. -/
theorem passTarget_steady {hash : String} {s : PoolState} (hw : SeesWrites pool hash s p)
    (hd : SameDemand r pool sandboxes p) (h : planScale lib r overhead p.view = some plan) :
    (passTarget r p plan).1 = pool.steadyTarget r sandboxes := by
  obtain ⟨rfl, -, -⟩ := hw
  unfold SameDemand at hd
  rcases planScale_cases h with ⟨hb, ha, ⟨desired, ht⟩, hn⟩ | ⟨hb, ha, ht⟩
  · rw [if_pos hb] at hd
    obtain ⟨hpos, hle, hd⟩ := hd
    rw [clamp_fixed hpos hle] at ht
    have hc : p.view.pods.length =
        p.view.pods.countP (·.draining) + p.view.pods.countP (!·.draining) := by
      simpa using length_eq_countP_add_countP Pod.draining
    rw [passTarget, if_pos ha, SandboxPool.steadyTarget, if_pos hb]
    unfold stabilizeResourceAwareScaleDown ScalePlan.baseline
    rw [ht, hn]
    split_ifs with hlt
    · rfl
    · -- there are more Pods, so they have been for the whole window
      obtain ⟨c, hc', hs⟩ := (Option.any_eq_true _ _).1 (hd.resolve_left (by omega))
      rw [decide_eq_true_eq] at hs
      simp [hc', hs.1, not_lt.2 hs.2]
  · rw [if_neg (by simp [hb])] at hd
    rw [passTarget, if_neg (by simp [ha]), SandboxPool.steadyTarget, if_neg (by simp [hb]), ht]
    subst hd
    rfl

theorem steadyTarget_le {bound : ℤ} (hmax : pool.spec.capacity.poolMax ≤ bound)
    (h : 0 < pool.spec.capacity.poolMax ∨
      max (pool.podsFor sandboxes) pool.spec.capacity.poolMin ≤ bound) :
    pool.steadyTarget r sandboxes ≤ bound := by
  unfold SandboxPool.steadyTarget PoolCapacity.clamp
  split_ifs <;> omega

theorem upgrade_outline {hash : String} {bound : ℤ} (hbd : pool.steadyTarget r sandboxes ≤ bound)
    (hne : hash ≠ "") :
    System.Outline (system lib r overhead) (Unchanging r pool hash sandboxes)
      (Upgrading hash (pool.steadyTarget r sandboxes) bound) (fun _ _ => True) fun _ _ => True := by
  refine outline_of_passes (fun hs hG hn hl => ?_) fun hs hp => ?_
  · obtain ⟨hw, hd, ha⟩ := hG
    exact scale_upgrading hs hbd hne hw.2.1 hw.2.2 ha (passTarget_steady hw hd hl) hn
  · obtain ⟨he, hp⟩ := Option.ite_none_right_eq_some.1 hp
    cases hp
    exact settle_upgrading hs he

end Target

/-- **A planned upgrade with an unchanged demand** surges one Pod at a time, and has at most one Pod
more than the larger of `poolMax` and the Pods it began with. -/
theorem upgrade_surges_once (lib : Library) (r : Settings) (overhead : ResourceList)
    (pool : SandboxPool) (hash : String) (sandboxes : ℤ) (s₀ : PoolState) (hne : hash ≠ "")
    (hnodup : (s₀.pods.map (·.uid)).Nodup) (hmoves : s₀.moves = [])
    (hidle : ∀ pod ∈ s₀.pods, pod.draining = false ∧ pod.deleting = false)
    (hmax : 0 < pool.spec.capacity.poolMax ∨
      max (pool.podsFor sandboxes) pool.spec.capacity.poolMin ≤ s₀.pods.length)
    {w : World PoolState Step}
    (h : (system lib r overhead).Reaches (Unchanging r pool hash sandboxes) ⟨s₀, []⟩ w) :
    surgesOnce hash w.shared.moves = true ∧
      w.shared.pods.length ≤ max pool.spec.capacity.poolMax s₀.pods.length + 1 := by
  have hbd : pool.steadyTarget r sandboxes ≤ max pool.spec.capacity.poolMax s₀.pods.length :=
    steadyTarget_le (le_max_left _ _) (hmax.imp_right fun h => h.trans (le_max_right _ _))
  have hn : s₀.pods.countP (·.draining) = 0 :=
    countP_eq_zero.2 fun pod hp => by simp [(hidle pod hp).1]
  have hs₀ : Upgrading hash (pool.steadyTarget r sandboxes)
      (max pool.spec.capacity.poolMax s₀.pods.length) s₀ := by
    refine ⟨⟨hnodup, fun pod hp h => ?_⟩, by omega, by omega, ?_, ?_⟩
    · rw [(hidle pod hp).2] at h
      cases h
    · rw [hmoves]
      rfl
    · rw [hmoves]
      exact nofun
  have hw := (upgrade_outline hbd hne).reaches (.start hs₀) h
  exact ⟨hw.inv.once, hw.inv.count⟩

/-! ### A Pool of one Pod -/

def upgradePod (uid hash : String) (phase : PodPhase) : Pod :=
  { name := uid, uid, phase, ready := phase = .running, templateHash := hash }

def stalePod : Pod := upgradePod "a" "g" .running

def single : SandboxPool := { samplePool with spec.capacity := { poolMin := 1, poolMax := 1 } }

/-- A pass without any Sandbox. The Fastlets in the registry are ready. -/
def upgradePass (pods : List Pod) (registered : List String) : PassRead where
  view := {
    pool := single
    pods, sandboxes := [], now := 1
    registry := registered.map fun uid => { podName := uid, podUID := uid, podReady := true
                                            runtimeReady := true, infraReady := true
                                            lastHeartbeat := 1 } }
  templateHash := "h"

def slotSettings : Settings := { disableResourceAwarePoolScaling := true }

/-- With slots, the stale Pod drains once the surge Pod is ready. -/
theorem slot_upgrade_surges_once : ∃ w, (system unaryLibrary slotSettings {}).Reaches
    (Unchanging slotSettings single "h" 0) ⟨{ pods := [stalePod] }, []⟩ w ∧
      w.shared.pods.countP (·.draining) = 1 ∧ surgesOnce "h" w.shared.moves = true ∧
      w.shared.pods.length ≤ (2 : ℤ) := by
  obtain ⟨w, hw, hd⟩ := System.exists_reaches_of_runMeeting
    (S := system unaryLibrary slotSettings {}) (w := ⟨{ pods := [stalePod] }, []⟩)
    (G := Unchanging slotSettings single "h" 0)
    [.spawn (.pass (upgradePass [stalePod] []) { uids := ["b"] }), .run 0 (),
      .spawn (.settle (fun _ => true) fun pod => { pod with phase := .running, ready := true }),
      .run 0 (), .spawn (.pass (upgradePass [stalePod, upgradePod "b" "h" .running] ["b"])
        { drains := 1 }), .run 0 ()]
    (fun w => decide (w.shared.pods.countP (·.draining) = 1)) (by decide +kernel)
  exact ⟨w, hw, of_decide_eq_true hd, upgrade_surges_once unaryLibrary slotSettings {} single
    "h" 0 { pods := [stalePod] } (by decide) (by decide) rfl (by decide) (by decide) hw⟩

/-- With resource-aware scaling, each pass takes the surge Pods there are as its target and surges
one more. -/
theorem resource_aware_upgrade_runs_away : ∃ w, (system unaryLibrary {} {}).Reaches
    (WithoutDemand single "h") ⟨{ pods := [stalePod] }, []⟩ w ∧
      surgesOnce "h" w.shared.moves = false ∧ w.shared.pods.length = 3 := by
  obtain ⟨w, hw, ht⟩ := System.exists_reaches_of_runMeeting (S := system unaryLibrary {} {})
    (w := ⟨{ pods := [stalePod] }, []⟩) (G := WithoutDemand single "h")
    [.spawn (.pass (upgradePass [stalePod] []) { uids := ["b"] }), .run 0 (),
      .spawn (.pass (upgradePass [stalePod, upgradePod "b" "h" .pending] []) { uids := ["c"] }),
      .run 0 ()]
    (fun w => !surgesOnce "h" w.shared.moves && decide (w.shared.pods.length = 3))
    (by decide +kernel)
  exact ⟨w, hw, by simpa using ht⟩

end FastSandbox.Pool
