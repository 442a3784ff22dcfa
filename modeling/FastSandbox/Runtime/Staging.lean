import FastSandbox.Runtime.Firecracker

/-!
# The staging directories of snapshots

A native snapshot is staged under its id, an OCI snapshot under the UID of its Pod and its id.
`DeleteSnapshot` is given the id only, and removes what lies under it.
-/

namespace FastSandbox.Runtime.Staging

open Firecracker (validateSandboxID)

/-- The elements of a path below `snapshots`, as `filepath.Join` leaves them. A Pod UID is one
element, or none if it is not set. -/
def snapshotStagingPath (podUID snapshotID : String) (oci : Bool) : List String :=
  if oci && podUID ≠ "" then [podUID, snapshotID] else [snapshotID]

structure Directory where
  (podUID snapshotID : String)
  oci : Bool

def Directory.path (d : Directory) : List String := snapshotStagingPath d.podUID d.snapshotID d.oci

/-- What the environment decides: whether the marker of a pack is there (`none` if this cannot be
told), whether `cleanup-pack` succeeds, and what stays if the removal fails. -/
structure Fate where
  marker : Option Bool
  recovers : Bool
  stays : Option (Directory → Bool)

variable (f : Fate) (disk : List Directory)

/-- Whether it succeeds, and the directories that there are then. -/
def cleanupSnapshotStaging (staging : List String) : Bool × List Directory :=
  match f.marker with
  | none => (false, disk)
  | some active =>
    if active && !f.recovers then (false, disk)
    else
      match f.stays with
      | none => (true, disk.filter fun d => !staging.isPrefixOf d.path)
      | some stays => (false, disk.filter fun d => !staging.isPrefixOf d.path || stays d)

/-- The staging of `CreateSnapshot`. The directory is left if the pack may still be active, or if
its removal fails. -/
def createSnapshot (podUID snapshotID : String) (oci left : Bool) : List Directory :=
  if validateSandboxID snapshotID then
    match cleanupSnapshotStaging f disk (snapshotStagingPath podUID snapshotID oci) with
    | (false, disk) => disk
    | (true, disk) => if left then ⟨podUID, snapshotID, oci⟩ :: disk else disk
  else disk

def deleteSnapshot (snapshotID : String) : Bool × List Directory :=
  if validateSandboxID snapshotID then cleanupSnapshotStaging f disk [snapshotID] else (false, disk)

/-- There is a directory at the path, or below it. -/
def Present (path : List String) : Prop := ∃ d ∈ disk, path.isPrefixOf d.path

/-- The staging directory is gone, and no other snapshot or Pod has lost its own. -/
def DeletesOwn (disk' : List Directory) (podUID snapshotID : String) (oci : Bool) : Prop :=
  ¬ Present disk' (snapshotStagingPath podUID snapshotID oci) ∧
    ∀ d ∈ disk, d ∉ disk' → d.snapshotID = snapshotID ∧ d.podUID = podUID

/-- The element that a directory lies under. -/
def Directory.top (d : Directory) : String :=
  if d.oci && d.podUID ≠ "" then d.podUID else d.snapshotID

variable {f disk} {podUID snapshotID : String} {oci : Bool} {d : Directory}

theorem isPrefixOf_path : [snapshotID].isPrefixOf d.path ↔ d.top = snapshotID := by
  unfold Directory.path snapshotStagingPath Directory.top
  split_ifs <;> simp [List.isPrefixOf, eq_comm (a := snapshotID)]

theorem top_of_isPrefixOf (h : [podUID, snapshotID].isPrefixOf d.path) : d.top = podUID := by
  refine isPrefixOf_path.mp ?_
  rw [List.isPrefixOf_iff_prefix] at h ⊢
  exact (List.prefix_append [podUID] [snapshotID]).trans h

theorem deleteSnapshot_ok (h : (deleteSnapshot f disk snapshotID).1) :
    validateSandboxID snapshotID ∧ ∀ d, d ∈ (deleteSnapshot f disk snapshotID).2 ↔
      d ∈ disk ∧ d.top ≠ snapshotID := by
  unfold deleteSnapshot cleanupSnapshotStaging at h ⊢
  split_ifs at h ⊢ with hv
  refine ⟨hv, fun d => ?_⟩
  cases hm : f.marker with
  | none => simp [hm] at h
  | some active =>
    cases hs : f.stays with
    | none => grind [isPrefixOf_path]
    | some stays =>
      simp only [hm, hs] at h
      split_ifs at h

/-- **A deletion keeps to its snapshot** exactly if that is not an OCI snapshot staged under another
name than its own, and everything under its id was staged for it. -/
theorem deleteSnapshot_deletesOwn_iff : (∀ f, (deleteSnapshot f disk snapshotID).1 = true →
      DeletesOwn disk (deleteSnapshot f disk snapshotID).2 podUID snapshotID oci) ↔
    (validateSandboxID snapshotID = true →
      (oci = true → podUID = "" ∨ podUID = snapshotID ∨ ¬ Present disk [podUID, snapshotID]) ∧
      ∀ d ∈ disk, d.top = snapshotID → d.snapshotID = snapshotID ∧ d.podUID = podUID) := by
  constructor
  · intro h hv
    have hk : (deleteSnapshot ⟨some false, true, none⟩ disk snapshotID).1 = true := by
      simp [deleteSnapshot, cleanupSnapshotStaging, hv]
    obtain ⟨hg, hf⟩ := h _ hk
    have hm := (deleteSnapshot_ok hk).2
    refine ⟨fun ho => ?_, fun d hd ht => hf d hd fun h => ((hm d).mp h).2 ht⟩
    by_contra! hc
    obtain ⟨d, hd, hp⟩ := hc.2.2
    refine hg ⟨d, (hm d).mpr ⟨hd, ?_⟩, by simpa [snapshotStagingPath, ho, hc.1] using hp⟩
    exact top_of_isPrefixOf hp ▸ hc.2.1
  · intro h f hk
    obtain ⟨hv, hm⟩ := deleteSnapshot_ok hk
    obtain ⟨ho, hf⟩ := h hv
    refine ⟨fun ⟨d, hd, hp⟩ => ?_, fun d hd hn => hf d hd ?_⟩
    · obtain ⟨hd, ht⟩ := (hm d).mp hd
      unfold snapshotStagingPath at hp
      split_ifs at hp with hc
      · obtain ⟨hi, hne⟩ := Bool.and_eq_true_iff.mp hc
        rcases ho hi with hu | hu | hu
        · simp [hu] at hne
        · exact ht (hu ▸ top_of_isPrefixOf hp)
        · exact hu ⟨d, hd, hp⟩
      · exact ht (isPrefixOf_path.mp hp)
    · by_contra ht
      exact hn ((hm d).mpr ⟨hd, ht⟩)

/-- The retained directory of an OCI snapshot is still there when `DeleteSnapshot` has returned. -/
theorem oci_staging_survives : let f : Fate := ⟨some false, true, none⟩
    let disk := createSnapshot f [] "pod" "snap" true true
    (deleteSnapshot f disk "snap").1 = true ∧
      Present (deleteSnapshot f disk "snap").2 (snapshotStagingPath "pod" "snap" true) :=
  ⟨by decide, _, .head _, by decide⟩

end FastSandbox.Runtime.Staging
