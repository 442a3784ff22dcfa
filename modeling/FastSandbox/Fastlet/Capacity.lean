import FastSandbox.Fastlet.Rejection
import Mathlib.Algebra.Order.BigOperators.Group.Finset

/-!
# Slots and commitments

Every managed record that occupies a slot weighs what it commits. Admission checks the weight once,
when a placeholder is reserved; afterwards records change their phase and are replaced, and only a
Delete of a terminal record, which starts to count again, and a recovery can add weight.
-/

namespace FastSandbox.Fastlet

open Finset Registry
open Interleaving

/-! ## The load of a registry -/

namespace Registry

variable (f : RuntimeSandboxConfig → ℚ)

/-- What a record in a phase weighs. -/
def cost (phase : Phase) (config : RuntimeSandboxConfig) : ℚ :=
  if occupiesSlot phase then f config else 0

instance (r : Registry) (p : Ref) : Decidable (r.Current p) := inferInstanceAs (Decidable (_ = _))

def weight (r : Registry) (p : Ref) : ℚ :=
  if r.Current p then cost f (r.phase p) (r.config p) else 0

/-- The weight of all managed records. -/
def load (r : Registry) : ℚ := ∑ p ∈ Finset.range r.next, r.weight f p

section Load

variable {f : RuntimeSandboxConfig → ℚ} {r r' : Registry} {config : RuntimeSandboxConfig}
  {phase : Phase} {p : Ref}

theorem cost_of_occupies (h : occupiesSlot phase) : cost f phase config = f config := if_pos h

theorem weight_of_current (h : r.Current p) : r.weight f p = cost f (r.phase p) (r.config p) :=
  if_pos h

theorem weight_of_not_current (h : ¬ r.Current p) : r.weight f p = 0 := if_neg h

section Nonneg

variable (hf : ∀ config, 0 ≤ f config)

include hf

theorem cost_nonneg : 0 ≤ cost f phase config := by
  unfold cost
  split_ifs
  · exact hf config
  · exact le_refl 0

theorem cost_le : cost f phase config ≤ f config := by
  unfold cost
  split_ifs
  · exact le_refl _
  · exact hf config

theorem weight_nonneg : 0 ≤ r.weight f p := by
  unfold weight
  split_ifs
  · exact cost_nonneg hf
  · exact le_refl 0

theorem weight_le_of_current (hc : r'.Current p → r.Current p)
    (hs : r'.Current p → cost f (r'.phase p) (r'.config p) ≤ cost f (r.phase p) (r.config p)) :
    r'.weight f p ≤ r.weight f p := by
  by_cases h : r'.Current p
  · rw [weight_of_current h, weight_of_current (hc h)]
    exact hs h
  · rw [weight_of_not_current h]
    exact weight_nonneg hf

theorem load_install_le : (r.install config phase).load f ≤ r.load f + cost f phase config := by
  have hn : (r.install config phase).weight f r.next = cost f phase config := by
    rw [weight_of_current current_install_next, phase_install_next, config_install_next]
  show ∑ p ∈ range (r.next + 1), (r.install config phase).weight f p ≤ _
  rw [sum_range_succ, hn]
  refine add_le_add_left (sum_le_sum fun p hp => ?_) _
  have hne : p ≠ r.next := (mem_range.mp hp).ne
  refine weight_le_of_current hf (fun h => ((current_install_of_ne hne).mp h).2) fun _ => ?_
  rw [phase_install_of_ne hne, config_install_of_ne hne]

theorem load_install_replace (hlt : p < r.next) (hu : r.uid p = config.identity.sandboxUID)
    (hc : cost f phase config ≤ r.weight f p) : (r.install config phase).load f ≤ r.load f := by
  have hn : (r.install config phase).weight f r.next = cost f phase config := by
    rw [weight_of_current current_install_next, phase_install_next, config_install_next]
  have hg : (r.install config phase).weight f p = 0 := by
    refine weight_of_not_current fun h => ?_
    exact ((current_install_of_ne hlt.ne).mp h).1 hu
  have hot : ∀ q ∈ (range r.next).erase p, (r.install config phase).weight f q ≤ r.weight f q := by
    intro q hq
    have hne : q ≠ r.next := (mem_range.mp (mem_of_mem_erase hq)).ne
    refine weight_le_of_current hf (fun h => ((current_install_of_ne hne).mp h).2) fun _ => ?_
    rw [phase_install_of_ne hne, config_install_of_ne hne]
  have he : p ∈ range r.next := mem_range.mpr hlt
  show ∑ q ∈ range (r.next + 1), (r.install config phase).weight f q ≤ _
  unfold load
  rw [sum_range_succ, hn, ← add_sum_erase _ _ he, hg, zero_add,
    ← add_sum_erase _ (r.weight f) he, add_comm]
  exact add_le_add hc (sum_le_sum hot)

theorem load_setPhase_le (p : Ref) (phase : Phase) : (r.setPhase p phase).load f ≤
      r.load f + (if occupiesSlot (r.phase p) then 0 else f (r.config p)) := by
  have hx : 0 ≤ (if occupiesSlot (r.phase p) then 0 else f (r.config p)) := by
    split_ifs
    · exact le_refl 0
    · exact hf _
  have hot : ∀ q, q ≠ p → (r.setPhase p phase).weight f q = r.weight f q := by
    intro q hq
    unfold weight
    rw [phase_setPhase_of_ne hq]
    rfl
  have hs : (r.setPhase p phase).weight f p ≤
      r.weight f p + (if occupiesSlot (r.phase p) then 0 else f (r.config p)) := by
    by_cases hr : r.Current p
    · have hc' : (r.setPhase p phase).Current p := hr
      rw [weight_of_current hr, weight_of_current hc', phase_setPhase_self]
      unfold cost
      cases occupiesSlot (r.phase p) with
      | true =>
        rw [if_pos rfl, if_pos rfl, add_zero]
        exact cost_le hf
      | false =>
        rw [if_neg Bool.false_ne_true, if_neg Bool.false_ne_true, zero_add]
        exact cost_le hf
    · have hc' : ¬ (r.setPhase p phase).Current p := hr
      rw [weight_of_not_current hc']
      exact add_nonneg (weight_nonneg hf) hx
  show ∑ q ∈ range r.next, (r.setPhase p phase).weight f q ≤ _
  unfold load
  by_cases he : p ∈ range r.next
  · rw [← add_sum_erase _ _ he, ← add_sum_erase _ (r.weight f) he,
      sum_congr rfl fun q hq => hot q (ne_of_mem_erase hq), add_right_comm]
    exact add_le_add_left hs _
  · have hu : ∑ q ∈ range r.next, (r.setPhase p phase).weight f q =
        ∑ q ∈ range r.next, r.weight f q :=
      sum_congr rfl fun q hq => hot q fun h => he (h ▸ hq)
    rw [hu]
    exact le_add_of_nonneg_right hx

theorem load_setPhase_of_occupies (phase : Phase) (h : occupiesSlot (r.phase p)) :
    (r.setPhase p phase).load f ≤ r.load f := by
  have hle := load_setPhase_le (r := r) hf p phase
  rwa [if_pos h, add_zero] at hle

theorem load_adopt_le (records : List SandboxMetadata) : (r.adopt records).load f ≤
      r.load f + (records.map fun record => cost f record.phase record.config).sum := by
  induction records generalizing r with
  | nil =>
    rw [List.map_nil, List.sum_nil, add_zero]
    exact le_refl _
  | cons record rest ih =>
    calc ((r.install record.config record.phase).adopt rest).load f
        ≤ (r.install record.config record.phase).load f +
            (rest.map fun record => cost f record.phase record.config).sum := ih
      _ ≤ r.load f + cost f record.phase record.config +
            (rest.map fun record => cost f record.phase record.config).sum :=
          add_le_add_left (load_install_le hf) _
      _ = r.load f + ((record :: rest).map fun record =>
        cost f record.phase record.config).sum := by
          rw [List.map_cons, List.sum_cons, add_assoc]

theorem load_drop_le (uid : String) : (r.drop uid).load f ≤ r.load f := by
  refine sum_le_sum fun p _ => ?_
  exact weight_le_of_current hf (fun h => ((current_drop_iff uid).mp h).2) fun _ => le_refl _

end Nonneg

end Load

end Registry

/-! ## Moves and the load -/

section

variable {phase : Phase}

theorem occupies_of_created (h : runtimeCreatedPhase phase) : occupiesSlot phase := by
  cases phase <;> first | rfl | cases h

theorem occupies_of_ending (h : endingPhase phase) : occupiesSlot phase := by
  cases phase <;> first | rfl | cases h

theorem occupies_of_placeholder (h : placeholderPhase phase) : occupiesSlot phase := by
  cases phase <;> first | rfl | cases h

end

/-- From `r` to `r'` the load grows by at most `extra`, however records are weighed. -/
def Registry.Adds (r r' : Registry) (extra : (RuntimeSandboxConfig → ℚ) → ℚ) : Prop :=
  ∀ f : RuntimeSandboxConfig → ℚ, (∀ config, 0 ≤ f config) → r'.load f ≤ r.load f + extra f

namespace Registry

variable {r r' : Registry} {p : Ref}

theorem Adds.none (h : ∀ f : RuntimeSandboxConfig → ℚ, (∀ config, 0 ≤ f config) →
    r'.load f ≤ r.load f) : r.Adds r' fun _ => 0 := by
  intro f hf
  rw [add_zero]
  exact h f hf

theorem adds_setPhase (phase : Phase) (h : occupiesSlot (r.phase p)) :
    r.Adds (r.setPhase p phase) fun _ => 0 :=
  .none fun _ hf => load_setPhase_of_occupies hf phase h

theorem adds_commit {cfg : Config} (hr : r.Valid) (hc : r.Creating cfg p) (phase : Phase) :
    r.Adds (r.install (r.config p) phase) fun _ => 0 := by
  refine .none fun f hf => load_install_replace hf (hr.lt hc.current) rfl ?_
  rw [weight_of_current hc.current, cost_of_occupies (occupies_of_placeholder hc.phase)]
  exact cost_le hf

end Registry

variable {cfg : Config} {r r' : Registry}

/-- A move that is no reservation adds no load, unless it is the Delete of a record that had stopped
to count, or the end of the recovery. -/
theorem Move.adds {t : Task} (h : Move cfg t r r') (hr : r.Valid) (ht : TaskOk cfg r t)
    (he : ∀ req, t ≠ .call (.create req)) : r.Adds r' (fun _ => 0) ∨
      (∃ i p, t = .call (.delete i) ∧ r.entry i.sandboxUID = some p ∧
        occupiesSlot (r.phase p) = false ∧ r'.phase p = .terminating ∧
        r.Adds r' fun f => f (r.config p)) ∨
      ∃ records, t = .recover (.finish records) ∧
        r' = { r.adopt records with recovering := false } := by
  cases h with
  | same | acceptAbsent | claim | release | ensured | teardown | inventory =>
    exact .inl (.none fun _ _ => le_refl _)
  | work phase ha =>
    refine .inl (.none fun f hf => sum_le_sum fun p _ => ?_)
    refine weight_le_of_current hf (fun h => h) fun _ => ?_
    show cost f (phase p) (r.config p) ≤ _
    rcases ha p with heq | ⟨-, hold, hnew⟩
    · rw [heq]
    · rw [cost_of_occupies (occupies_of_created hold), cost_of_occupies (occupies_of_created hnew)]
  | reserve req config ht' => exact absurd ht' (he req)
  | commit p phase hp => exact .inl (adds_commit hr (ht.creates p hp) phase)
  | commitDeleted p hp => exact .inl (adds_commit hr (ht.creates p hp) .terminating)
  | build p phase hp | giveUp p hp =>
    exact .inl (adds_setPhase _ (occupies_of_placeholder (ht.creates p hp).phase))
  | discard => exact .inl (.none fun _ hf => load_drop_le hf _)
  | retry p phase hp hc => exact .inl (adds_setPhase _ (occupies_of_ending (ht.retries p hp hc)))
  | delete p phase hw hc hv =>
    exact .inl (adds_setPhase _ (occupies_of_ending (hr.covered p hc hv)))
  | deleteCleared p phase hw hc hv =>
    exact .inl (adds_setPhase _ (occupies_of_ending (hr.covered p hc hv)))
  | accept p i ht' hu hrn hc =>
    have hl : ∀ f : RuntimeSandboxConfig → ℚ, (∀ config, 0 ≤ f config) →
        (r.accept (r.strict cfg p) p i).load f ≤ _ :=
      fun f hf => load_setPhase_le hf p .terminating
    cases ho : occupiesSlot (r.phase p) with
    | true => exact .inl (adds_setPhase .terminating ho)
    | false =>
      refine .inr (.inl ⟨i, p, ht', ?_, ho, Function.update_self _ _ _, fun f hf => ?_⟩)
      · rw [hu]
        exact hc
      · have hle := hl f hf
        rwa [ho, if_neg Bool.false_ne_true] at hle
  | fail p hc ha => exact .inl (adds_setPhase _ (occupies_of_created ha))
  | failed p hc ha =>
    refine .inl (adds_setPhase _ ?_)
    rw [ha]
    rfl
  | adopt _ records _ _ hn => exact .inr (.inr ⟨records, hn, rfl⟩)

/-! ## The load the manager reports -/

variable {m : Manager}

theorem sum_managed (hr : m.registry.Valid) (g : Ref → ℚ) :
    (m.sandboxes.entries.map fun entry => g entry.2).sum =
      ∑ p ∈ range m.next, if m.registry.Current p then g p else 0 := by
  -- the records of the entries, each of them once
  have hen : ∀ entry ∈ m.sandboxes.entries, m.lookup entry.1 = some entry.2 :=
    fun entry hmem => AList.mem_lookup_iff.mpr hmem
  have huid : ∀ entry ∈ m.sandboxes.entries, m.registry.uid entry.2 = entry.1 :=
    fun entry hmem => (hr.keyed _ _ (hen entry hmem)).2
  have hnd : (m.sandboxes.entries.map Sigma.snd).Nodup := by
    refine List.Nodup.map_on ?_ (List.NodupKeys.nodup m.sandboxes.nodupKeys)
    intro a ha b hb heq
    have hkey : a.1 = b.1 := by rw [← huid a ha, heq, huid b hb]
    exact Sigma.ext hkey (heq_of_eq heq)
  have hset : (m.sandboxes.entries.map Sigma.snd).toFinset =
      (range m.next).filter fun p => m.registry.Current p := by
    ext p
    rw [List.mem_toFinset, List.mem_map, mem_filter, mem_range]
    constructor
    · rintro ⟨entry, hmem, rfl⟩
      refine ⟨(hr.keyed _ _ (hen entry hmem)).1, ?_⟩
      unfold Registry.Current
      rw [huid entry hmem]
      exact hen entry hmem
    · rintro ⟨-, hcur⟩
      exact ⟨⟨_, p⟩, AList.mem_lookup_iff.mp hcur, rfl⟩
  rw [← sum_filter, ← hset, List.sum_toFinset g hnd, List.map_map]
  rfl

theorem countP_eq_sum (l : List SandboxMetadata) :
    ((l.countP fun record => occupiesSlot record.phase : ℕ) : ℚ) =
      (l.map fun record => cost (fun _ => 1) record.phase record.config).sum := by
  induction l with
  | nil => rfl
  | cons record rest ih =>
    rw [List.countP_cons, List.map_cons, List.sum_cons, ← ih]
    unfold cost
    split_ifs
    · push_cast
      ring
    · push_cast
      ring

theorem activeCount_eq_load (hr : m.registry.Valid) :
    (activeCount m : ℚ) = m.registry.load fun _ => 1 := by
  unfold activeCount
  rw [countP_eq_sum]
  unfold Manager.managed
  rw [List.map_map]
  exact sum_managed hr fun p => cost (fun _ => 1) (m.phase p) (m.config p)

/-- A way to read one number off a vector of resources. -/
structure Resource where
  get : ComputeResources → ℚ
  zero : get 0 = 0
  add : ∀ a b, get (a + b) = get a + get b
  mono : ∀ {a b : ComputeResources}, a.cpu ≤ b.cpu → a.memory ≤ b.memory → get a ≤ get b

def Resource.cpu : Resource := ⟨ComputeResources.cpu, rfl, fun _ _ => rfl, fun h _ => h⟩

def Resource.memory : Resource := ⟨ComputeResources.memory, rfl, fun _ _ => rfl, fun _ h => h⟩

/-- What a record commits of a resource; a record without a valid request commits nothing. -/
def demand (cfg : Config) (R : Resource) (config : RuntimeSandboxConfig) : ℚ :=
  ((requestsForRuntimeConfig cfg config).map R.get).getD 0

variable {requests committed : ComputeResources}

theorem commitments_eq_sum (R : Resource) {l : List SandboxMetadata}
    (h : commitments cfg l = some committed) : R.get committed =
      (l.map fun record => cost (demand cfg R) record.phase record.config).sum := by
  induction l generalizing committed with
  | nil =>
    cases h
    exact R.zero
  | cons record rest ih =>
    rw [List.map_cons, List.sum_cons]
    unfold commitments at h
    unfold cost
    split_ifs at h ⊢ with ho
    · cases hr : requestsForRuntimeConfig cfg record.config with
      | none =>
        rw [hr] at h
        cases h
      | some requests =>
        cases ht : commitments cfg rest with
        | none =>
          rw [hr, ht] at h
          cases h
        | some tail =>
          rw [hr, ht] at h
          cases h
          rw [R.add, ih ht]
          unfold demand
          rw [hr]
          rfl
    · rw [zero_add]
      exact ih h

theorem committed_eq_load (R : Resource) (hr : m.registry.Valid)
    (h : commitments cfg m.managed = some committed) :
    R.get committed = m.registry.load (demand cfg R) := by
  rw [commitments_eq_sum R h]
  unfold Manager.managed
  rw [List.map_map]
  exact sum_managed hr fun p => cost (demand cfg R) (m.phase p) (m.config p)

theorem divideRoundUp_pos {value result : ℤ} {ratio : ℚ}
    (h : divideRoundUp value ratio = .ok result) : 0 < result := by
  unfold divideRoundUp at h
  dsimp only at h
  split_ifs at h with _ hr
  cases h
  push Not at hr
  exact hr.1

section Derived

variable {profile : ResourceProfile} {limits requests : ComputeResources} {read : Reading}

theorem ResourceProfile.deriveRequests_eq_ok
    (h : profile.deriveRequests limits read = .ok requests) :
    ∃ ratio cpuMilli memoryBytes, profile.overcommitRatio = some ratio ∧
      divideRoundUp (read.milli limits.cpu) ratio.cpu = .ok cpuMilli ∧
      divideRoundUp (read.whole limits.memory) ratio.memory = .ok memoryBytes ∧
      requests = ⟨(cpuMilli : ℚ) / 1000, memoryBytes⟩ := by
  unfold deriveRequests at h
  split at h
  · cases h
  next ratio hr =>
  split at h
  · cases h
  next cpuMilli hu =>
  split at h
  · cases h
  · next memoryBytes he =>
    cases h
    exact ⟨ratio, cpuMilli, memoryBytes, (Option.filter_eq_some_iff.1 hr).1, hu, he, rfl⟩

theorem ResourceProfile.deriveRequests_pos (h : profile.deriveRequests limits read = .ok requests) :
    0 < requests.cpu ∧ 0 < requests.memory := by
  obtain ⟨_, cpuMilli, memoryBytes, -, hp, he, rfl⟩ := deriveRequests_eq_ok h
  have hc' : (0 : ℚ) < cpuMilli := by exact_mod_cast divideRoundUp_pos hp
  have hm' : (0 : ℚ) < memoryBytes := by exact_mod_cast divideRoundUp_pos he
  exact ⟨div_pos hc' (by norm_num), hm'⟩

end Derived

variable {config : RuntimeSandboxConfig}

theorem requests_pos (h : requestsForRuntimeConfig cfg config = some requests) :
    0 < requests.cpu ∧ 0 < requests.memory := by
  unfold requestsForRuntimeConfig at h
  split at h
  · cases h
  obtain ⟨limits, -, hd⟩ := Option.bind_eq_some_iff.mp h
  cases hr : ResourceProfile.deriveRequests _ limits cfg.reading with
  | error =>
    rw [hr] at hd
    cases hd
  | ok derived =>
    rw [hr] at hd
    cases hd
    exact ResourceProfile.deriveRequests_pos hr

theorem demand_nonneg (cfg : Config) (R : Resource) (config : RuntimeSandboxConfig) :
    0 ≤ demand cfg R config := by
  unfold demand
  cases hr : requestsForRuntimeConfig cfg config with
  | none => exact le_refl 0
  | some requests =>
    obtain ⟨hu, hm⟩ := requests_pos hr
    have hle : R.get 0 ≤ R.get requests := R.mono hu.le hm.le
    rwa [R.zero] at hle

/-! ## Within the capacity -/

/-- The registry's load fits the configured capacities. -/
structure Within (cfg : Config) (r : Registry) : Prop where
  slots : (r.load fun _ => 1) ≤ cfg.capacity
  resources : ∀ admission ∈ cfg.resourceAdmission, admission.staticAdmission →
    ∀ R : Resource, r.load (demand cfg R) ≤ R.get admission.capacity

/-- One more Sandbox of this configuration fits: a slot is free, and the static check of
admission passes. -/
def Fits (cfg : Config) (m : Manager) (config : RuntimeSandboxConfig) : Prop :=
  activeCount m < cfg.capacity ∧
    ∀ admission ∈ cfg.resourceAdmission, admission.staticAdmission →
      ∀ requests ∈ requestsForRuntimeConfig cfg config,
        staticCapacityFailure cfg m admission.capacity requests = none

theorem Within.of_adds_none (h : Within cfg r) (ha : r.Adds r' fun _ => 0) : Within cfg r' where
  slots := by
    have hle := ha (fun _ => 1) fun _ => zero_le_one
    rw [add_zero] at hle
    exact hle.trans h.slots
  resources admission hd hs R := by
    have hle := ha _ (demand_nonneg cfg R)
    rw [add_zero] at hle
    exact hle.trans (h.resources admission hd hs R)

theorem staticCapacityFailure_eq_none {capacity : ComputeResources}
    (h : staticCapacityFailure cfg m capacity requests = none) :
    ∃ committed, commitments cfg m.managed = some committed ∧
      (committed + requests).cpu ≤ capacity.cpu ∧
        (committed + requests).memory ≤ capacity.memory := by
  unfold staticCapacityFailure resourceCommitted at h
  cases ho : commitments cfg m.managed with
  | none =>
    rw [ho] at h
    cases h
  | some committed =>
    rw [ho] at h
    dsimp only at h
    split_ifs at h with _ hu hm
    exact ⟨committed, rfl, not_lt.mp hu, not_lt.mp hm⟩

theorem Within.of_fits (h : Within cfg m.registry) (hr : m.registry.Valid)
    (ht : Fits cfg m config) (ha : m.registry.Adds r' fun f => f config) : Within cfg r' where
  slots := by
    have hle := ha (fun _ => 1) fun _ => zero_le_one
    rw [← activeCount_eq_load hr] at hle
    have hl : (activeCount m : ℚ) + 1 ≤ cfg.capacity := by exact_mod_cast ht.1
    exact hle.trans hl
  resources admission hd hs R := by
    have hle : r'.load (demand cfg R) ≤ m.registry.load (demand cfg R) + demand cfg R config :=
      ha _ (demand_nonneg cfg R)
    cases hq : requestsForRuntimeConfig cfg config with
    | none =>
      have hz : demand cfg R config = 0 := by
        unfold demand
        rw [hq]
        rfl
      rw [hz, add_zero] at hle
      exact hle.trans (h.resources admission hd hs R)
    | some requests =>
      obtain ⟨_, ho, hu, hmm⟩ := staticCapacityFailure_eq_none (ht.2 admission hd hs requests hq)
      have hm : demand cfg R config = R.get requests := by
        unfold demand
        rw [hq]
        rfl
      rw [hm, ← committed_eq_load R hr ho, ← R.add] at hle
      exact hle.trans (R.mono hu hmm)

theorem fits_of_capacityGate {input : RuntimeSandboxConfig} {resourceAvailable : Bool}
    (h : capacityGate cfg m input resourceAvailable = none) : Fits cfg m input := by
  obtain ⟨hl, he⟩ :
      ¬ cfg.capacity ≤ activeCount m ∧ resourceCapacityFailure cfg m input = none := by
    unfold capacityGate at h
    dsimp only at h
    cases ha : resourceCapacityFailure cfg m input with
    | some =>
      rw [ha] at h
      split_ifs at h
    | none =>
      rw [ha] at h
      split_ifs at h with _ _ hl
      exact ⟨hl, rfl⟩
  refine ⟨not_le.mp hl, ?_⟩
  intro admission hd ht requests hr
  unfold resourceCapacityFailure at he
  cases ho : cfg.resourceProfile with
  | none =>
    unfold requestsForRuntimeConfig at hr
    rw [ho] at hr
    cases hr
  | some =>
    rw [hd, ho, hr] at he
    dsimp only at he
    rw [if_pos ht] at he
    cases hs : staticCapacityFailure cfg m admission.capacity requests with
    | none => rfl
    | some failure =>
      rw [hs] at he
      cases he

/-! ## Recovered records -/

/-- The records a recovery in flight is about to adopt have slots. -/
def Task.Slotted (cfg : Config) (t : Task) : Prop :=
  ∀ records ∈ t.recovered, (records.countP fun record => occupiesSlot record.phase) ≤ cfg.capacity

theorem Task.Slotted.of_none {t : Task} (h : t.recovered = none) : t.Slotted cfg := by
  intro _ hr
  rw [Option.mem_def, h] at hr
  cases hr

/-! ## Every run -/

/-- A Delete of the record passes every check: its identity fits, the inventory is recovered, and a
strict record has an Action Manager. -/
def DeleteAccepted (cfg : Config) (m : Manager) (i : SandboxIdentity) (p : Ref) : Prop :=
  validateIdentityTarget cfg i = none ∧ ¬ (m.recovering ∨ !m.runtimeReady) ∧
    validateIdentityFence cfg.fastletPodUID (m.config p).identity i = none ∧
    ¬ (strict cfg m p && cfg.actionManager.isNone)

instance (cfg : Config) (m : Manager) (i : SandboxIdentity) (p : Ref) :
    Decidable (DeleteAccepted cfg m i p) := inferInstanceAs (Decidable (_ ∧ _))

theorem deleteAccepted_of_phase {i : SandboxIdentity} {p : Ref}
    (hp : m.lookup i.sandboxUID = some p) (h : (beginDelete cfg m i).1.phase p ≠ m.phase p) :
    DeleteAccepted cfg m i p := by
  unfold beginDelete at h
  split at h
  · exact absurd rfl h
  rename_i ht
  split at h
  · exact absurd rfl h
  rename_i hr
  rw [hp] at h
  unfold beginDeleteRecord at h
  dsimp only at h
  split at h
  · exact absurd rfl h
  rename_i hf
  split at h
  · exact absurd rfl h
  rename_i hs
  exact ⟨ht, hr, hf, hs⟩

/-- What may add load besides admission: the Delete of a record that does not count fits, and the
commitments of recovered records fit. -/
def addsOnlyWhatFits (cfg : Config) (m : Manager) (t : Task) (_ : Choice) : Prop :=
  match t with
  | .call (.delete i) =>
    ∀ p ∈ m.lookup i.sandboxUID, occupiesSlot (m.phase p) = false → DeleteAccepted cfg m i p →
      Fits cfg m (m.config p)
  | .recover (.finish records) =>
    ∀ admission ∈ cfg.resourceAdmission, admission.staticAdmission →
      ∃ committed ∈ commitments cfg records, committed.cpu ≤ admission.capacity.cpu ∧
        committed.memory ≤ admission.capacity.memory
  | _ => True

theorem beginCreate_registry {req : CreateSandboxRequest} {actionsReady resourceAvailable : Bool} :
    (beginCreate cfg m req actionsReady resourceAvailable).1.registry = m.registry ∨
      ∃ input, Fits cfg m input ∧
        (beginCreate cfg m req actionsReady resourceAvailable).1.registry =
        m.registry.install input .creating := by
  unfold beginCreate
  split
  · exact .inl rfl
  rename_i input _
  unfold reserveSandboxForCreate
  cases admissionGate cfg m req actionsReady with
  | some => exact .inl rfl
  | none =>
    cases m.lookup input.identity.sandboxUID with
    | none =>
      cases hgt : capacityGate cfg m input resourceAvailable with
      | some failure => exact .inl rfl
      | none => exact .inr ⟨input, fits_of_capacityGate hgt, registry_install m _⟩
    | some p =>
      dsimp only
      split_ifs
      · exact .inl rfl
      · cases createExisting cfg m p input <;> exact .inl rfl

theorem within_adopt {records : List SandboxMetadata} (hr : m.registry.Valid) (he : m.recovering)
    (hs : (records.countP fun record => occupiesSlot record.phase) ≤ cfg.capacity)
    (hro : ∀ admission ∈ cfg.resourceAdmission, admission.staticAdmission →
      ∃ committed ∈ commitments cfg records, committed.cpu ≤ admission.capacity.cpu ∧
        committed.memory ≤ admission.capacity.memory) :
    Within cfg { m.registry.adopt records with recovering := false } := by
  -- before the recovery nothing is managed
  have hz : ∀ f : RuntimeSandboxConfig → ℚ, m.registry.load f = 0 := by
    intro f
    refine sum_eq_zero fun p _ => weight_of_not_current fun hc => ?_
    unfold Registry.Current at hc
    rw [(hr.recovering he).1] at hc
    cases hc
  have ha : ∀ f : RuntimeSandboxConfig → ℚ, (∀ config, 0 ≤ f config) →
      (m.registry.adopt records).load f ≤
        (records.map fun record => cost f record.phase record.config).sum := by
    intro f hf
    have hle := load_adopt_le (r := m.registry) hf records
    rwa [hz f, zero_add] at hle
  constructor
  · refine (ha (fun _ => 1) fun _ => zero_le_one).trans ?_
    rw [← countP_eq_sum]
    exact_mod_cast hs
  · intro admission hd ht R
    obtain ⟨committed, ho, hu, hm⟩ := hro admission hd ht
    refine (ha _ (demand_nonneg cfg R)).trans ?_
    rw [← commitments_eq_sum R ho]
    exact R.mono hu hm

theorem within_step {t : Task} {c : Choice} {out : Manager × List Task} (hr : m.registry.Valid)
    (ht : TaskOk cfg m.registry t) (hs : t.Slotted cfg) (hm : Within cfg m.registry)
    (hG : addsOnlyWhatFits cfg m t c) (h : advance cfg m t c = some out) :
    Within cfg out.1.registry := by
  by_cases hc : ∃ req, t = .call (.create req)
  · obtain ⟨req, rfl⟩ := hc
    obtain ⟨_, _, -, rfl⟩ := advance_create h
    rcases beginCreate_registry (m := m) with hsm | ⟨input, hft, hn⟩
    · rw [hsm]
      exact hm
    · rw [hn]
      exact hm.of_fits hr hft fun f hf => load_install_le hf
  · push Not at hc
    rcases (advance_section hr ht h).move.adds hr ht hc with
      ha | ⟨i, p, rfl, he, ho, hp, ha⟩ | ⟨records, rfl, hu⟩
    · exact hm.of_adds_none ha
    · have hu : out = beginDelete cfg m i := by
        cases c <;> first | exact (Option.some.inj h).symm | cases h
      refine hm.of_fits hr (hG p he ho (deleteAccepted_of_phase he ?_)) ha
      rw [← hu]
      have hh' : out.1.phase p = .terminating := hp
      rw [hh']
      intro heq
      have ho' : occupiesSlot (m.phase p) = false := ho
      rw [← heq] at ho'
      cases ho'
    · rw [hu]
      exact within_adopt hr (ht.recovers rfl) (hs records rfl) hG

theorem capacity_extension (cfg : Config) :
    System.Extension (system cfg) (addsOnlyWhatFits cfg) (fun m => m.registry.Valid)
      (fun m t => TaskOk cfg m.registry t) Apart (fun m => Within cfg m.registry)
      (fun _ t => t.Slotted cfg) where
  entry_holds _ _ _ := .of_none rfl
  local_step := by
    intro m _ t c _ hr ht hm hs hG ha
    refine ⟨within_step hr ht hs hm hG ha, fun t' ht' records he => ?_⟩
    have hn := ((advance_section hr ht ha).next t' ht').1
    rcases hn.recovered records he with hold | hft
    · exact hs records hold
    · exact hft
  frame_step := fun _ _ _ _ _ _ hu _ _ => hu

theorem within_start (cfg : Config) (instances : List String) :
    Within cfg (start cfg instances).shared.registry where
  slots := Nat.cast_nonneg _
  resources admission ha hs R := by
    have hle : R.get 0 ≤ R.get admission.capacity :=
      R.mono admission.cpu_pos.le admission.memory_pos.le
    rwa [R.zero] at hle

/-- **Admission is never exceeded**, as long as nothing but admission adds load that does not
fit. -/
theorem capacity_respected {cfg : Config} {instances : List String} {w : World Manager Task}
    (h : (system cfg).Reaches (addsOnlyWhatFits cfg) (start cfg instances) w) :
    (admissionStatus cfg w.shared).used ≤ cfg.capacity ∧
      ∀ admission, cfg.resourceAdmission = some admission → admission.staticAdmission = true →
        (resourceCommitted cfg w.shared).1.cpu ≤ admission.capacity.cpu ∧
          (resourceCommitted cfg w.shared).1.memory ≤ admission.capacity.memory := by
  have hs := start_holds cfg instances
  have ho : ∀ t ∈ (start cfg instances).tasks, t.Slotted cfg := by
    intro t ht
    have ht' : t ∈ (if cfg.recoverOnStart then [Task.recover .start] else []) := ht
    split_ifs at ht'
    · rw [List.mem_singleton.mp ht']
      exact .of_none rfl
    · cases ht'
  have hw := ((discipline cfg).extend (fun _ _ _ _ => trivial) (capacity_extension cfg)).reaches
    ⟨⟨hs.inv, within_start cfg instances⟩, fun t ht => ⟨hs.task t ht, ho t ht⟩, hs.compat⟩ h
  obtain ⟨hr, hi⟩ := hw.inv
  constructor
  · rw [used_eq_activeCount]
    have hl := hi.slots
    rw [← activeCount_eq_load hr] at hl
    exact_mod_cast hl
  · intro admission ha hst
    have he := hi.resources admission ha hst
    unfold resourceCommitted
    cases hc : commitments cfg w.shared.managed with
    | none => exact ⟨admission.cpu_pos.le, admission.memory_pos.le⟩
    | some =>
      have hp := he Resource.cpu
      have hm := he Resource.memory
      rw [← committed_eq_load _ hr hc] at hp hm
      exact ⟨hp, hm⟩

instance (cfg : Config) (m : Manager) (config : RuntimeSandboxConfig) :
    Decidable (Fits cfg m config) :=
  inferInstanceAs (Decidable (_ ∧ _))

instance (cfg : Config) (m : Manager) (t : Task) (c : Choice) :
    Decidable (addsOnlyWhatFits cfg m t c) := by
  unfold addsOnlyWhatFits
  split <;> infer_instance

/-- A Fastlet with one slot, one CPU and one byte of memory to commit, whose images are delivered in
the background. -/
def deliveringConfig : Config where
  capacity := 1
  capacity_pos := Nat.one_pos
  imageDelivery := true
  resourceProfile := some ⟨true, some ⟨1, 1⟩, none, 0⟩
  resourceAdmission := some ⟨⟨1, 1⟩, by decide, by decide, ⟨1, 1⟩, true, false⟩
  parseQuantity := fun text => if text = "1" then some 1 else none

def wholeFastlet : Option ResolvedResources := some ⟨⟨"1", "1", 0⟩, "1", "1"⟩

def firstClaim : CreateSandboxRequest := { sampleRequest with resources := wholeFastlet }

def secondClaim : CreateSandboxRequest := { secondRequest with resources := wholeFastlet }

/-- The boot of a parked Sandbox fails for good. -/
def failedBoot : List (Event Call Choice) :=
  [.spawn (.create firstClaim), .run 0 (.admission true true), .run 0 .go,
    .run 0 (.delivery (.ok false)), .run 0 .go, .run 0 .go, .run 0 .go,
    .run 0 (.delivery (.ok true)), .run 0 (.ensured (.error ⟨.other, "boot failed"⟩) false),
    .run 0 .go, .run 0 .go]

/-- The failed Sandbox is deleted while its slot is free. -/
theorem capacity_respected_failed : ∃ w : World Manager Task, w.shared.phase 0 = .terminating ∧
      (admissionStatus deliveringConfig w.shared).used = 1 ∧
      (admissionStatus deliveringConfig w.shared).used ≤ deliveringConfig.capacity ∧
      (resourceCommitted deliveringConfig w.shared).1.cpu ≤ 1 := by
  obtain ⟨w, h, ht⟩ := System.exists_reaches_of_runMeeting (S := system deliveringConfig)
    (G := addsOnlyWhatFits deliveringConfig) (w := start deliveringConfig [])
    (failedBoot ++ [.spawn (.delete sampleIdentity), .run 0 .go])
    (fun w => decide (w.shared.phase 0 = .terminating ∧
      (admissionStatus deliveringConfig w.shared).used = 1)) (by decide +kernel)
  obtain ⟨hp, hu⟩ := of_decide_eq_true ht
  obtain ⟨hs, hr⟩ := capacity_respected h
  exact ⟨w, hp, hu, hs, (hr _ rfl rfl).1⟩

/-- The failed Sandbox counts for nothing, so a second one takes its slot; deleting the first then
makes both count. -/
theorem used_exceeds_capacity :
    ¬ ∀ (cfg : Config) (instances : List String) (w : World Manager Task),
      (system cfg).Reaches System.anyStep (start cfg instances) w →
      (admissionStatus cfg w.shared).used ≤ cfg.capacity ∧
        ∀ admission, cfg.resourceAdmission = some admission → admission.staticAdmission = true →
          (resourceCommitted cfg w.shared).1.cpu ≤ admission.capacity.cpu ∧
            (resourceCommitted cfg w.shared).1.memory ≤ admission.capacity.memory := by
  intro ha
  refine System.not_forall_reaches (S := system deliveringConfig)
    (P := fun w => (admissionStatus deliveringConfig w.shared).used ≤ 1)
    (fun w => decide ((admissionStatus deliveringConfig w.shared).used ≤ 1))
    (fun w hw => decide_eq_true hw) (start deliveringConfig [])
    (failedBoot ++ [.spawn (.create secondClaim), .run 0 (.admission true true),
      .spawn (.delete sampleIdentity), .run 1 .go]) (by decide +kernel) ?_
  intro w hw
  exact (ha deliveringConfig [] w hw).1

end FastSandbox.Fastlet
