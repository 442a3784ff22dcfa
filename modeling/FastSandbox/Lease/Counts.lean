import FastSandbox.Lease.Durability

/-!
# Leases, their index and the reference counts

The leases, the index by Sandbox and the counts per image are changed by one function when a call
commits and by another when the journal is replayed. Both keep them consistent as long as a lease
gets an unused ID and its Sandbox has no other lease. While the agent runs, the Sandbox's lock
ensures the latter. In the journal it fails when the result line of a release is lost: the Sandbox
is leased again, and the replay finds two leases for it.
-/

namespace FastSandbox.Lease

open Finset Option
open Function

/-! ## Consistent tables -/

namespace Tables

def leaseCount (s : Tables) (image : String) : ℤ := ((s.images image).getD {}).leaseCount

def naming (s : Tables) (image : String) : Finset String :=
  s.leases.keys.filter fun id => (s.leases.lookup id).map (·.image) = some image

/-- Leases and index are inverse to each other, and the counts are those of the leases. -/
structure Consistent (s : Tables) : Prop where
  indexed : ∀ id lease, s.leases.lookup id = some lease → s.bySandbox lease.sandboxID = some id
  listed : ∀ sandboxID id, s.bySandbox sandboxID = some id →
    ∃ lease, s.leases.lookup id = some lease ∧ lease.sandboxID = sandboxID
  counted : ∀ image, s.leaseCount image = (s.naming image).card
  pins : ∀ image, 0 ≤ s.pinCount image
  leases : ∀ image, 0 ≤ s.leaseCount image

theorem consistent_empty : Consistent {} where
  indexed _ _ h := by
    cases h
  listed _ _ h := by cases h
  counted _ := rfl
  pins _ := le_refl _
  leases _ := le_refl _

theorem mem_naming {s : Tables} {id image : String} :
    id ∈ s.naming image ↔ ∃ lease, s.leases.lookup id = some lease ∧ lease.image = image := by
  unfold naming
  rw [mem_filter, map_eq_some_iff, Finmap.mem_keys, and_iff_right_iff_imp]
  rintro ⟨lease, hl, -⟩
  exact Finmap.mem_of_lookup_eq_some hl

theorem leaseCount_setImage (s : Tables) (image : String) (refs : ImageRefs) (image' : String) :
    (s.setImage image refs).leaseCount image' =
      if image' = image then refs.leaseCount else s.leaseCount image' := by
  unfold leaseCount setImage
  dsimp only
  rw [update_apply]
  split_ifs <;> rfl

theorem naming_setImage (s : Tables) (image : String) (refs : ImageRefs) :
    (s.setImage image refs).naming = s.naming := rfl

variable {s : Tables}

theorem Consistent.setPins (h : s.Consistent) (image : String) {n : ℤ} (hn : 0 ≤ n) :
    (s.setImage image { (s.images image).getD {} with pinCount := n }).Consistent where
  indexed := h.indexed
  listed := h.listed
  counted image' := by
    rw [leaseCount_setImage, naming_setImage]
    split_ifs with hi
    · rw [hi]
      exact h.counted image
    · exact h.counted image'
  pins image' := by
    rw [pinCount_setImage]
    split_ifs
    · exact hn
    · exact h.pins image'
  leases image' := by
    rw [leaseCount_setImage]
    split_ifs
    · exact h.leases image
    · exact h.leases image'

theorem Consistent.complete (h : s.Consistent) (requestID : String) (c : Completed) :
    (s.complete requestID c).Consistent :=
  ⟨h.indexed, h.listed, h.counted, h.pins, h.leases⟩

theorem lookup_addLease (s : Tables) (lease : DeviceLease) (id : String) :
    (s.addLease lease).leases.lookup id =
      if id = lease.leaseID then some lease else s.leases.lookup id := by
  show (s.leases.insert lease.leaseID lease).lookup id = _
  split_ifs with hi
  · rw [hi, Finmap.lookup_insert]
  · exact Finmap.lookup_insert_of_ne _ hi

theorem bySandbox_addLease (s : Tables) (lease : DeviceLease) (sandboxID : String) :
    (s.addLease lease).bySandbox sandboxID =
      if sandboxID = lease.sandboxID then some lease.leaseID else s.bySandbox sandboxID :=
  update_apply _ _ _ _

variable {lease : DeviceLease}

theorem notMem_naming (hf : s.leases.lookup lease.leaseID = none) (image : String) :
    lease.leaseID ∉ s.naming image := by
  rw [mem_naming, hf]
  rintro ⟨_, ⟨⟩, -⟩

theorem naming_addLease (hf : s.leases.lookup lease.leaseID = none) (image : String) :
    (s.addLease lease).naming image =
      if image = lease.image then insert lease.leaseID (s.naming image) else s.naming image := by
  ext id
  rw [mem_naming, lookup_addLease]
  by_cases hd : id = lease.leaseID
  · subst hd
    rw [if_pos rfl]
    split_ifs with hi
    · exact ⟨fun _ => mem_insert_self _ _, fun _ => ⟨lease, rfl, hi.symm⟩⟩
    · refine ⟨?_, fun h => absurd h (notMem_naming hf image)⟩
      rintro ⟨_, ⟨⟩, rfl⟩
      exact absurd rfl hi
  · rw [if_neg hd, ← mem_naming]
    split_ifs
    · rw [mem_insert, or_iff_right hd]
    · exact Iff.rfl

/-- **A new lease**, under an unused ID and for a Sandbox without one. -/
theorem Consistent.addLease (h : s.Consistent) (hf : s.leases.lookup lease.leaseID = none)
    (he : s.bySandbox lease.sandboxID = none) : (s.addLease lease).Consistent := by
  have ho : ∀ image, (s.addLease lease).leaseCount image =
      ((s.addLease lease).naming image).card := by
    intro image
    have hc : (s.addLease lease).leaseCount image =
        if image = lease.image then s.leaseCount image + 1 else s.leaseCount image := by
      refine (leaseCount_setImage _ _ _ _).trans ?_
      split_ifs with hi
      · rw [hi]
        rfl
      · rfl
    rw [hc, naming_addLease hf]
    split_ifs
    · rw [card_insert_of_notMem (notMem_naming hf image), h.counted image]
      rfl
    · exact h.counted image
  refine ⟨?_, ?_, ho, ?_, ?_⟩
  · intro id other hot
    rw [lookup_addLease] at hot
    rw [bySandbox_addLease]
    split_ifs at hot with hd
    · cases hot
      rw [if_pos rfl, hd]
    have hne : other.sandboxID ≠ lease.sandboxID := by
      intro heq
      have hn := h.indexed id other hot
      rw [heq, he] at hn
      cases hn
    rw [if_neg hne]
    exact h.indexed id other hot
  · intro sandboxID id hd
    rw [bySandbox_addLease] at hd
    split_ifs at hd with hs
    · cases hd
      exact ⟨lease, (lookup_addLease s lease _).trans (if_pos rfl), hs.symm⟩
    obtain ⟨other, hot, hin⟩ := h.listed sandboxID id hd
    have hne : id ≠ lease.leaseID := by
      rintro rfl
      rw [hf] at hot
      cases hot
    exact ⟨other, (lookup_addLease s lease id).trans ((if_neg hne).trans hot), hin⟩
  · intro image
    refine (pinCount_setImage _ _ _ _).symm ▸ ?_
    split_ifs
    · exact h.pins lease.image
    · exact h.pins image
  · intro image
    rw [ho image]
    exact Int.natCast_nonneg _

variable {count : ℤ → ℤ}

/-- The tables without a lease, before it is counted. -/
def without (s : Tables) (leaseID : String) (lease : DeviceLease) : Tables :=
  { s with
    leases := s.leases.erase leaseID
    bySandbox := update s.bySandbox lease.sandboxID none }

theorem dropLease_eq {leaseID : String} (h : s.Consistent)
    (hl : s.leases.lookup leaseID = some lease) (hc : ∀ n, 1 ≤ n → count n = n - 1) :
    s.dropLease leaseID count =
      (s.without leaseID lease).setImage lease.image
        { (s.images lease.image).getD {} with leaseCount := s.leaseCount lease.image - 1 } := by
  have hpos : 1 ≤ s.leaseCount lease.image := by
    rw [h.counted lease.image]
    have he : leaseID ∈ s.naming lease.image := mem_naming.mpr ⟨lease, hl, rfl⟩
    exact_mod_cast card_pos.mpr ⟨leaseID, he⟩
  unfold dropLease
  rw [hl]
  dsimp only
  unfold leaseCount at hpos ⊢
  cases hr : s.images lease.image with
  | none =>
    rw [hr] at hpos
    exact absurd hpos (by decide)
  | some =>
    rw [hr] at hpos
    dsimp only [getD_some] at hpos ⊢
    rw [hc _ hpos]
    rfl

theorem lookup_erase (leases : Finmap fun _ : String => DeviceLease) (leaseID id : String) :
    (leases.erase leaseID).lookup id = if id = leaseID then none else leases.lookup id := by
  split_ifs with hi
  · rw [hi, Finmap.lookup_erase]
  · exact Finmap.lookup_erase_ne hi

theorem lookup_dropLease (s : Tables) (leaseID : String) (count : ℤ → ℤ) (id : String) :
    (s.dropLease leaseID count).leases.lookup id =
      if id = leaseID then none else s.leases.lookup id := by
  unfold dropLease
  cases hl : s.leases.lookup leaseID with
  | none =>
    split_ifs with hi
    · rw [hi, hl]
    · rfl
  | some lease =>
    dsimp only
    cases s.images lease.image <;> exact lookup_erase s.leases leaseID id

/-- **A lease is dropped**, whether its count is clamped at zero or not. -/
theorem Consistent.dropLease (h : s.Consistent) (leaseID : String)
    (hc : ∀ n, 1 ≤ n → count n = n - 1) : (s.dropLease leaseID count).Consistent := by
  cases hl : s.leases.lookup leaseID with
  | none =>
    unfold Tables.dropLease
    rw [hl]
    exact h
  | some lease =>
    rw [dropLease_eq h hl hc]
    set s' := (s.without leaseID lease).setImage lease.image
      { (s.images lease.image).getD {} with leaseCount := s.leaseCount lease.image - 1 } with hs'
    have hn : ∀ image, s'.naming image = (s.naming image).erase leaseID := by
      intro image
      ext id
      rw [mem_naming, mem_erase, mem_naming]
      show (∃ other, (s.leases.erase leaseID).lookup id = some other ∧ _) ↔ _
      rw [lookup_erase]
      split_ifs with hd
      · refine ⟨?_, fun hne => absurd hd hne.1⟩
        rintro ⟨_, ⟨⟩, -⟩
      · exact ⟨fun hot => ⟨hd, hot⟩, fun hot => hot.2⟩
    have ho : ∀ image, s'.leaseCount image = (s'.naming image).card := by
      intro image
      rw [hn, hs', leaseCount_setImage]
      split_ifs with hi
      · have he : leaseID ∈ s.naming image := mem_naming.mpr ⟨lease, hl, hi.symm⟩
        rw [card_erase_of_mem he, ← hi, h.counted image]
        have hpos : 0 < (s.naming image).card := card_pos.mpr ⟨leaseID, he⟩
        dsimp only
        omega
      · have hnot : leaseID ∉ s.naming image := by
          rw [mem_naming]
          rintro ⟨other, hot, hin⟩
          rw [hl] at hot
          cases hot
          exact hi hin.symm
        rw [erase_eq_of_notMem hnot]
        exact h.counted image
    refine ⟨?_, ?_, ho, ?_, ?_⟩
    · intro id other hot
      have ht' : (s.leases.erase leaseID).lookup id = some other := hot
      rw [lookup_erase] at ht'
      split_ifs at ht' with hd
      have hne : other.sandboxID ≠ lease.sandboxID := by
        intro heq
        have hb := (h.indexed id other ht').symm.trans (heq ▸ h.indexed leaseID lease hl)
        exact hd (some.inj hb)
      exact (update_of_ne hne _ _).trans (h.indexed id other ht')
    · intro sandboxID id hd
      have hd' : update s.bySandbox lease.sandboxID none sandboxID = some id := hd
      rw [update_apply] at hd'
      split_ifs at hd' with hsb
      obtain ⟨other, hot, hin⟩ := h.listed sandboxID id hd'
      have hne : id ≠ leaseID := by
        rintro rfl
        rw [hl] at hot
        cases hot
        exact hsb hin.symm
      exact ⟨other, (lookup_erase _ _ id).trans ((if_neg hne).trans hot), hin⟩
    · intro image
      rw [hs', pinCount_setImage]
      split_ifs
      · exact h.pins lease.image
      · exact h.pins image
    · intro image
      rw [ho image]
      exact Int.natCast_nonneg _

/-- A commit's lease is new to the tables. -/
def Admits (s : Tables) (req : Request) (result : Result) : Prop :=
  req.operation.op = .leaseDevices →
    s.leases.lookup result.lease.leaseID = none ∧ s.bySandbox result.lease.sandboxID = none

def leaseAfter (s : Tables) (result : Result) (id : String) : Operation → Option DeviceLease
  | .leaseDevices .. => if id = result.lease.leaseID then some result.lease else s.leases.lookup id
  | .releaseDevices leaseID => if id = leaseID then none else s.leases.lookup id
  | .pinImage _ | .unpinImage _ => s.leases.lookup id

/-- What a commit does to the tables, whether it is made or replayed. -/
structure Committed (s : Tables) (req : Request) (result : Result) (s' : Tables) : Prop where
  consistent : s.Consistent → s.Admits req result → s'.Consistent
  lookup : ∀ id, s'.leases.lookup id = s.leaseAfter result id req.operation

variable {req : Request} {result : Result} {r r' s' : Tables}

theorem Committed.complete (h : Committed s req result s') (requestID : String) (c : Completed) :
    Committed s req result (s'.complete requestID c) :=
  ⟨fun hs ha => (h.consistent hs ha).complete requestID c, h.lookup⟩

theorem committed_addLease {sandboxID image : String} {memSizeMiB : ℤ} {rootfsWritable : Bool}
    (ho : req.operation = .leaseDevices sandboxID image memSizeMiB rootfsWritable) :
    Committed s req result (s.addLease result.lease) where
  consistent hs ha := by
    obtain ⟨hr, hf⟩ := ha (by rw [ho]; rfl)
    exact hs.addLease hr hf
  lookup id := by
    rw [ho]
    exact lookup_addLease s result.lease id

theorem committed_dropLease {leaseID : String} (ho : req.operation = .releaseDevices leaseID)
    (hc : ∀ n, 1 ≤ n → count n = n - 1) : Committed s req result (s.dropLease leaseID count) where
  consistent hs _ := hs.dropLease leaseID hc
  lookup id := by
    rw [ho]
    exact lookup_dropLease s leaseID count id

theorem committed_apply (s : Tables) (req : Request) (result : Result) :
    Committed s req result (s.apply req.operation result) := by
  unfold Tables.apply
  cases ho : req.operation with
  | pinImage image =>
    refine ⟨fun hs _ => hs.setPins image ?_, fun id => by rw [ho]; rfl⟩
    have := hs.pins image
    unfold pinCount at this
    omega
  | unpinImage image =>
    dsimp only
    cases hr : s.images image with
    | none => exact ⟨fun hs _ => hs, fun id => by rw [ho]; rfl⟩
    | some refs =>
      refine ⟨fun hs _ => ?_, fun id => by rw [ho]; rfl⟩
      have he := hs.setPins image (le_max_right (refs.pinCount - 1) 0)
      rw [hr] at he
      exact he
  | leaseDevices => exact committed_addLease ho
  | releaseDevices => exact committed_dropLease ho fun n _ => by omega

theorem committed_replayApply (h : s.replayApply req result = some s') :
    Committed s req result s' := by
  unfold Tables.replayApply at h
  cases ho : req.operation with
  | pinImage image | unpinImage image =>
    rw [ho] at h
    obtain ⟨_, hs1, rfl⟩ := map_eq_some_iff.mp h
    unfold bumpPin at hs1
    split_ifs at hs1
    cases hs1
    exact Committed.complete
      ⟨fun hs _ => hs.setPins image (le_max_right _ _), fun id => by rw [ho]; rfl⟩ _ _
  | leaseDevices =>
    rw [ho] at h
    cases h
    exact (committed_addLease ho).complete _ _
  | releaseDevices =>
    rw [ho] at h
    cases h
    exact (committed_dropLease ho fun n _ => rfl).complete _ _

/-! ## Live tables and replayed ones -/

def Covers (s r : Tables) : Prop :=
  ∀ id lease, r.leases.lookup id = some lease → s.leases.lookup id = some lease

theorem Covers.admits (h : s.Covers r) (hs : s.Consistent) (hr : r.Consistent)
    (ha : s.Admits req result) : r.Admits req result := by
  intro ho
  obtain ⟨hfr, hf⟩ := ha ho
  constructor
  · cases hl : r.leases.lookup result.lease.leaseID with
    | none => rfl
    | some lease => exact absurd ((h _ lease hl).symm.trans hfr) (by simp)
  cases hi : r.bySandbox result.lease.sandboxID with
  | none => rfl
  | some id =>
    obtain ⟨lease, hl, hin⟩ := hr.listed _ id hi
    have hn := hs.indexed id lease (h id lease hl)
    rw [hin, hf] at hn
    cases hn

theorem Covers.apply (h : s.Covers r) (hr' : r.replayApply req result = some r') :
    (s.apply req.operation result).Covers r' := by
  intro id lease hl
  rw [(committed_replayApply hr').lookup] at hl
  rw [(committed_apply s req result).lookup]
  generalize req.operation = operation at hl ⊢
  cases operation with
  | pinImage | unpinImage => exact h id lease hl
  | leaseDevices =>
    dsimp only [leaseAfter] at hl ⊢
    split_ifs at hl ⊢
    · exact hl
    · exact h id lease hl
  | releaseDevices =>
    dsimp only [leaseAfter] at hl ⊢
    split_ifs at hl ⊢
    exact h id lease hl

/-- A commit that is not journaled, and releases nothing, only adds to what the journal shows. -/
theorem Covers.apply_lost (h : s.Covers r) (ha : s.Admits req result)
    (hl : req.operation.op ≠ .releaseDevices) : (s.apply req.operation result).Covers r := by
  intro id lease hs
  have hf := h id lease hs
  rw [(committed_apply s req result).lookup]
  cases ho : req.operation with
  | pinImage | unpinImage => exact hf
  | leaseDevices =>
    dsimp only [leaseAfter]
    split_ifs with hi
    · obtain ⟨hr, -⟩ := ha (by rw [ho]; rfl)
      rw [← hi, hf] at hr
      cases hr
    · exact hf
  | releaseDevices =>
    rw [ho] at hl
    exact absurd rfl hl

/-- Two tables hold the same, but for images without references. -/
structure Agrees (s r : Tables) : Prop where
  leases : s.leases = r.leases
  bySandbox : s.bySandbox = r.bySandbox
  images : ∀ image, (s.images image).getD {} = (r.images image).getD {}

theorem getD_setImage (s : Tables) (image : String) (refs : ImageRefs) (image' : String) :
    ((s.setImage image refs).images image').getD {} =
      if image' = image then refs else (s.images image').getD {} := by
  show (update s.images image (some refs) image').getD {} = _
  rw [update_apply]
  split_ifs <;> rfl

section

variable (h : s.Agrees r)
include h

theorem Agrees.setImage (image : String) (refs : ImageRefs) :
    (s.setImage image refs).Agrees (r.setImage image refs) where
  leases := h.leases
  bySandbox := h.bySandbox
  images image' := by
    rw [getD_setImage, getD_setImage, h.images image']

theorem Agrees.setImage_right {image : String} {refs : ImageRefs}
    (hr : (s.images image).getD {} = refs) : s.Agrees (r.setImage image refs) where
  leases := h.leases
  bySandbox := h.bySandbox
  images image' := by
    rw [getD_setImage]
    split_ifs with hi
    · rw [hi, hr]
    · exact h.images image'

theorem Agrees.complete (requestID : String) (c : Completed) :
    s.Agrees (r.complete requestID c) := ⟨h.leases, h.bySandbox, h.images⟩

theorem Agrees.addLease (lease : DeviceLease) : (s.addLease lease).Agrees (r.addLease lease) := by
  have he : Tables.Agrees
      { s with
        leases := s.leases.insert lease.leaseID lease
        bySandbox := update s.bySandbox lease.sandboxID (some lease.leaseID) }
      { r with
        leases := r.leases.insert lease.leaseID lease
        bySandbox := update r.bySandbox lease.sandboxID (some lease.leaseID) } := by
    refine ⟨?_, ?_, h.images⟩
    · rw [h.leases]
    · rw [h.bySandbox]
  have hs := he.setImage lease.image
    { (s.images lease.image).getD {} with
      leaseCount := ((s.images lease.image).getD {}).leaseCount + 1 }
  unfold Tables.addLease
  rw [← h.images lease.image]
  exact hs

theorem Agrees.dropLease (hs : s.Consistent) (hr : r.Consistent) (leaseID : String) {count' : ℤ → ℤ}
    (hc : ∀ n, 1 ≤ n → count n = n - 1) (hc' : ∀ n, 1 ≤ n → count' n = n - 1) :
    (s.dropLease leaseID count).Agrees (r.dropLease leaseID count') := by
  cases hl : s.leases.lookup leaseID with
  | none =>
    have hl' : r.leases.lookup leaseID = none := h.leases ▸ hl
    unfold Tables.dropLease
    rw [hl, hl']
    exact h
  | some lease =>
    have hl' : r.leases.lookup leaseID = some lease := h.leases ▸ hl
    rw [dropLease_eq hs hl hc, dropLease_eq hr hl' hc']
    have hd : (s.without leaseID lease).Agrees (r.without leaseID lease) := by
      refine ⟨?_, ?_, h.images⟩
      · dsimp only [without]
        rw [h.leases]
      · dsimp only [without]
        rw [h.bySandbox]
    unfold leaseCount
    rw [← h.images lease.image]
    exact hd.setImage _ _

/-- **The two ways of applying a commit** leave the same leases and counts. -/
theorem Agrees.apply (hs : s.Consistent) (hr : r.Consistent)
    (hr' : r.replayApply req result = some r') : (s.apply req.operation result).Agrees r' := by
  unfold Tables.replayApply at hr'
  unfold Tables.apply
  cases ho : req.operation with
  | pinImage image =>
    rw [ho] at hr'
    obtain ⟨r1, hr1, rfl⟩ := map_eq_some_iff.mp hr'
    unfold bumpPin at hr1
    split_ifs at hr1
    cases hr1
    have hp : max (((r.images image).getD {}).pinCount + 1) 0 =
        ((s.images image).getD {}).pinCount + 1 := by
      have := hs.pins image
      unfold pinCount at this
      rw [← h.images image]
      omega
    rw [hp, ← h.images image]
    exact (h.setImage _ _).complete _ _
  | unpinImage image =>
    rw [ho] at hr'
    obtain ⟨r1, hr1, rfl⟩ := map_eq_some_iff.mp hr'
    unfold bumpPin at hr1
    split_ifs at hr1
    cases hr1
    rw [← h.images image]
    dsimp only
    cases hf : s.images image with
    | none =>
      -- the replay writes out the references of an image it does not know
      refine (h.setImage_right ?_).complete _ _
      rw [hf]
      rfl
    | some refs => exact (h.setImage _ _).complete _ _
  | leaseDevices =>
    rw [ho] at hr'
    cases hr'
    exact (h.addLease result.lease).complete _ _
  | releaseDevices leaseID =>
    rw [ho] at hr'
    cases hr'
    exact (h.dropLease hs hr leaseID (fun n _ => by omega) fun n _ => rfl).complete _ _

end

end Tables

end FastSandbox.Lease
