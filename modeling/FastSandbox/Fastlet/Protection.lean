import FastSandbox.Fastlet.Discipline
import Mathlib.Order.Interval.Finset.Nat

/-!
# Protection of cached images

An image must not be evicted while a Sandbox uses it. The Fastlet counts a reference for every
Sandbox it creates or recovers and takes it back when the Sandbox is deleted or has failed for
good; an image without references is kept for another hour. `ProtectionIndex` is that count, and
`guarded` is the Fastlet with the index beside it.

The count is right as long as every reference that is taken back had been given:
`used_image_protected`. A recovery gives one reference to all the Sandboxes of an image together,
and a deletion takes one back also from a Sandbox that has none.
-/

namespace FastSandbox.Fastlet

open Function Interleaving Finset Option Nat System

/-! ## The index -/

def dropLeading (text : String) (cs : List Char) : List Char :=
  if text.toList.isPrefixOf cs then cs.drop text.length else cs

def trimSpace (cs : List Char) : List Char :=
  ((cs.dropWhile Char.isWhitespace).reverse.dropWhile Char.isWhitespace).reverse

/-- Case and white space are those of ASCII here, and of Unicode in Go. -/
@[irreducible] def normalizeReference (image : String) : String :=
  let cs := trimSpace (image.toList.map Char.toLower)
  String.ofList (dropLeading "library/" (dropLeading "docker.io/"
    (dropLeading "http://" (dropLeading "https://" cs))))

inductive ProtectionReason
  | warm
  | active
  | infra
  | hot
deriving DecidableEq

/-- An entry of the index. A reason that is not counted has count 0. -/
structure Protection where
  counts : ProtectionReason → ℕ := fun _ => 0
  hotUntil : ℕ := 0

def Protection.counted (p : Protection) : Bool :=
  p.counts .warm ≠ 0 ∨ p.counts .active ≠ 0 ∨ p.counts .infra ≠ 0 ∨ p.counts .hot ≠ 0

/-- Times are seconds. -/
structure ProtectionIndex where
  items : String → Option Protection := fun _ => none

namespace ProtectionIndex

variable (x : ProtectionIndex)

variable (reference : String)

/-- `itemLocked`. -/
def item : Protection := (x.items reference).getD {}

def put (item : Option Protection) : ProtectionIndex := ⟨update x.items reference item⟩

/-- `deleteEmptyLocked`. -/
def keep (now : ℕ) (item : Protection) : Option Protection :=
  if item.counted || now < item.hotUntil then some item else none

def protect (reason : ProtectionReason) : ProtectionIndex :=
  let reference := normalizeReference reference
  if reference = "" then x
  else
    let item := x.item reference
    x.put reference (some { item with
      counts := update item.counts reason (item.counts reason + 1) })

def unprotect (now : ℕ) (reference : String) (reason : ProtectionReason) : ProtectionIndex :=
  let reference := normalizeReference reference
  match x.items reference with
  | none => x
  | some item =>
    x.put reference (keep now { item with
      counts := update item.counts reason
        (if 1 < item.counts reason then item.counts reason - 1 else 0) })

def protectHotUntil (time : ℕ) : ProtectionIndex :=
  let reference := normalizeReference reference
  if reference = "" then x
  else
    let item := x.item reference
    x.put reference (some { item with
      hotUntil := if item.hotUntil < time then time else item.hotUntil })

/-- `Replace`, first loop: a reason is taken out of every entry. -/
def clear (now : ℕ) (reason : ProtectionReason) : ProtectionIndex :=
  ⟨fun reference => (x.items reference).bind fun item =>
    keep now { item with counts := update item.counts reason 0 }⟩

/-- `Replace`, second loop: a reference gets a count of 1, whatever it had. -/
def setOne (reason : ProtectionReason) (reference : String) : ProtectionIndex :=
  let reference := normalizeReference reference
  if reference = "" then x
  else
    let item := x.item reference
    x.put reference (some { item with counts := update item.counts reason 1 })

def replace (now : ℕ) (reason : ProtectionReason) (references : List String) : ProtectionIndex :=
  references.foldl (fun x reference => x.setOne reason reference) (x.clear now reason)

/-- `IsProtected`. That it also drops an expired entry cannot be seen. -/
def isProtected (now : ℕ) (reference : String) : Bool :=
  match x.items (normalizeReference reference) with
  | none => false
  | some item => item.counted || now < item.hotUntil

def planEviction (now : ℕ) (candidates : List String) : List String :=
  ((candidates.filter fun candidate => !x.isProtected now candidate).map
    normalizeReference).mergeSort

def count (reason : ProtectionReason) : ℕ := (x.item reference).counts reason

variable {x} {reference i : String} {reason reason' : ProtectionReason} {now : ℕ}

theorem item_put_self (item : Option Protection) :
    (x.put reference item).item reference = item.getD {} := by
  simp [ProtectionIndex.item, put]

theorem item_put_of_ne (item : Option Protection) (h : i ≠ reference) :
    (x.put reference item).item i = x.item i := by
  simp [ProtectionIndex.item, put, update_of_ne h]

theorem keep_counts (item : Protection) : ((keep now item).getD {}).counts = item.counts := by
  unfold keep
  split
  · rfl
  rename_i h
  simp only [Protection.counted, ne_eq, Bool.or_eq_true, decide_eq_true_eq, not_or,
    Decidable.not_not] at h
  funext r
  cases r
  exacts [h.1.1.symm, h.1.2.1.symm, h.1.2.2.1.symm, h.1.2.2.2.symm]

theorem count_protect : (x.protect reference reason).count i reason' =
      x.count i reason' +
        if normalizeReference reference = i ∧ i ≠ "" ∧ reason = reason' then 1 else 0 := by
  unfold protect count
  by_cases he : normalizeReference reference = ""
  · rw [if_pos he, if_neg]
    · rfl
    · rintro ⟨rfl, hne, -⟩
      exact hne he
  · rw [if_neg he]
    by_cases hi : i = normalizeReference reference
    · subst hi
      rw [item_put_self]
      by_cases hr : reason' = reason
      · subst hr
        simp [he]
      · simp [update_of_ne hr, Ne.symm hr]
    · rw [item_put_of_ne _ hi, if_neg fun h => hi h.1.symm]
      rfl

variable {references : List String}

theorem count_foldl_infra :
    (references.foldl (fun x reference => x.protect reference .infra) x).count i .active =
      x.count i .active := by
  induction references generalizing x with
  | nil => rfl
  | cons reference rest ih =>
    rw [List.foldl_cons, ih, count_protect]
    simp

theorem count_unprotect : (x.unprotect now reference reason).count i reason' =
      x.count i reason' -
        if normalizeReference reference = i ∧ reason = reason' then 1 else 0 := by
  unfold unprotect count
  dsimp only
  cases he : x.items (normalizeReference reference) with
  | none =>
    split_ifs with h
    · obtain ⟨rfl, -⟩ := h
      simp [ProtectionIndex.item, he]
    · rfl
  | some item =>
    by_cases hi : i = normalizeReference reference
    · subst hi
      rw [item_put_self, keep_counts]
      have hold : x.item (normalizeReference reference) = item := by
        simp [ProtectionIndex.item, he]
      rw [hold]
      by_cases hr : reason' = reason
      · subst hr
        simp only [update_self, true_and, if_true]
        split_ifs <;> omega
      · simp [update_of_ne hr, Ne.symm hr]
    · rw [item_put_of_ne _ hi, if_neg fun h => hi h.1.symm]
      rfl

theorem count_protectHotUntil (time : ℕ) :
    (x.protectHotUntil reference time).count i reason = x.count i reason := by
  unfold protectHotUntil count
  dsimp only
  split
  · rfl
  by_cases hi : i = normalizeReference reference
  · subst hi
    rw [item_put_self]
    rfl
  · rw [item_put_of_ne _ hi]

theorem count_setOne_self (hne : normalizeReference reference ≠ "") :
    (x.setOne reason reference).count (normalizeReference reference) reason = 1 := by
  unfold setOne count
  rw [if_neg hne, item_put_self]
  exact update_self _ _ _

theorem count_setOne (h : x.count i reason = 1) :
    (x.setOne reason reference).count i reason = 1 := by
  by_cases hi : i = normalizeReference reference
  · by_cases he : normalizeReference reference = ""
    · rw [setOne, if_pos he]
      exact h
    · rw [hi]
      exact count_setOne_self he
  · unfold setOne count
    dsimp only
    split
    · exact h
    · rw [item_put_of_ne _ hi]
      exact h

theorem count_foldl_setOne (h : x.count i reason = 1) :
    (references.foldl (fun x reference => x.setOne reason reference) x).count i reason = 1 := by
  induction references generalizing x with
  | nil => exact h
  | cons other rest ih =>
    rw [List.foldl_cons]
    exact ih (count_setOne h)

theorem count_replace (he : reference ∈ references) (hne : normalizeReference reference ≠ "") :
    (x.replace now reason references).count (normalizeReference reference) reason = 1 := by
  unfold replace
  generalize x.clear now reason = y
  induction references generalizing y with
  | nil => cases he
  | cons other rest ih =>
    rw [List.foldl_cons]
    rcases List.mem_cons.mp he with rfl | he
    · exact count_foldl_setOne (count_setOne_self hne)
    · exact ih he _

section

variable (h : x.count (normalizeReference reference) .active ≠ 0)
include h

theorem isProtected_of_count : x.isProtected now reference := by
  unfold isProtected
  unfold count ProtectionIndex.item at h
  cases he : x.items (normalizeReference reference) with
  | none => simp [he] at h
  | some item =>
    rw [he] at h
    have ho : item.counted := decide_eq_true (.inr (.inl h))
    simp [ho]

theorem notMem_planEviction
    (candidates : List String) : normalizeReference reference ∉ x.planEviction now candidates := by
  intro he
  obtain ⟨_, ha, heq⟩ := List.mem_map.mp (List.mem_mergeSort.mp he)
  rw [← heq] at h
  have ho := (List.mem_filter.mp ha).2
  rw [isProtected_of_count h] at ho
  cases ho

end

end ProtectionIndex

/-! ## The Fastlet with its index -/

structure Images where
  (warmImages infraArtifacts : List String)

/-- The index, the time, and for proofs only: the records a reference is counted for, and those that
were committed or recovered and that failed for good. -/
structure Guard where
  index : ProtectionIndex
  now : ℕ := 0
  (holders committed failed : Finset Ref := ∅)

inductive Touch
  | leaves
  /-- `commitRuntimeCreate` protects the image before it takes the lock. -/
  | pledges (c : Creation)
  | commits (placeholder p : Ref)
  | heats (image : String)
  | unprotects (p : Ref) (image : String) (failed : Bool)
  | recovers (records : List SandboxMetadata) (first : Ref)
  | infra (references : List String)

/-- The section's calls of the index. A protection made without the lock is made at the end of the
section before it. -/
def touch (images : Images) (m : Manager) : Task → Choice → Touch
  | .creation c .ensure, .ensured (.ok _) _ => .pledges c
  | .creation c .ensure, .ensured (.error _) _ => .heats c.input.desired.image
  | .creation c .deliver, .delivery (.error _) => .heats c.input.desired.image
  | .boot c _ (.claim _), .go =>
    if c.Managed m ∧ m.phase c.placeholder = .imagePending then .pledges c else .leaves
  | .boot c _ .markFailed, .go =>
    if c.Managed m ∧ m.phase c.placeholder ≠ .terminating ∧ m.phase c.placeholder ≠ .deleting then
      .heats (m.config c.placeholder).desired.image
    else .leaves
  | .creation c (.commit _), .go | .boot c _ (.commit _), .go => .commits c.placeholder m.next
  | .asyncDelete p (.settle none), .go =>
    if m.Current p then .unprotects p (m.config p).desired.image false else .leaves
  | .terminal p .settle, .go =>
    if m.Current p ∧ m.phase p = .runtimeFailureCleanup then
      .unprotects p (m.config p).desired.image true
    else .leaves
  | .recover (.finish records), .go => .recovers records m.next
  | .prepare .wait, .answer none => .infra images.infraArtifacts
  | _, _ => .leaves

/-- The recovered Sandboxes that have not failed. -/
def activeRecords (records : List SandboxMetadata) : List SandboxMetadata :=
  records.filter fun record => record.phase ≠ .runtimeFailed

/-- The places at which a recovery puts the records with a property. -/
def adoptedRefs (records : List SandboxMetadata) (first : Ref) (test : SandboxMetadata → Bool) :
    Finset Ref :=
  (((records.zipIdx first).filter fun entry => test entry.1).map (·.2)).toFinset

namespace Guard

variable (g : Guard)

def pass (seconds : ℕ) : Guard := { g with now := g.now + seconds }

/-- `now + 1h`. -/
def heat (image : String) : Guard :=
  { g with index := g.index.protectHotUntil image (g.now + 3600) }

def after : Touch → Guard
  | .leaves => g
  | .pledges c =>
    { g with
      index := g.index.protect c.input.desired.image .active
      holders := insert c.placeholder g.holders }
  | .commits placeholder p =>
    { g with
      holders := insert p (g.holders.erase placeholder)
      committed := insert p g.committed }
  | .heats image => g.heat image
  | .unprotects p image failed =>
    { g with
      index := g.index.unprotect g.now image .active
      holders := g.holders.erase p
      failed := if failed then insert p g.failed else g.failed }.heat image
  | .recovers records first =>
    { g with
      index := g.index.replace g.now .active
        ((activeRecords records).map fun record => record.config.desired.image)
      holders := adoptedRefs records first fun record => record.phase ≠ .runtimeFailed
      committed := adoptedRefs records first fun _ => true
      failed := adoptedRefs records first fun record => record.phase = .runtimeFailed }
  | .infra references =>
    { g with index := references.foldl (fun x reference => x.protect reference .infra) g.index }

end Guard

/-- The Fastlet beside its index. A section runs some seconds after the one before it. -/
def guarded (cfg : Config) (images : Images) :
    System (Manager × Guard) Task Call (Choice × ℕ) :=
  (system cfg).alongside fun g m t c (seconds : ℕ) => (g.pass seconds).after (touch images m t c)

def guardedStart (cfg : Config) (images : Images) (instances : List String) :
    World (Manager × Guard) Task where
  shared := ((start cfg instances).shared,
    { index := images.warmImages.foldl (fun x image => x.protect image .warm) {} })
  tasks := (start cfg instances).tasks

/-- The record's image, as the index knows it. -/
def Manager.image (m : Manager) (p : Ref) : String := normalizeReference (m.config p).desired.image

/-- A reference is taken back from a Sandbox that holds one, or of an image nobody else holds; and
no two of the Sandboxes that a recovery protects share an image. -/
def ReferencesMatch (images : Images) (s : Manager × Guard) (t : Task) (c : Choice × ℕ) : Prop :=
  match touch images s.1 t c.1 with
  | .unprotects p image _ =>
    p ∈ s.2.holders ∨ ∀ q ∈ s.2.holders, s.1.image q ≠ normalizeReference image
  | .recovers records _ =>
    ((activeRecords records).map fun record => normalizeReference record.config.desired.image).Nodup
  | _ => True

instance (images : Images) (s : Manager × Guard) (t : Task) (c : Choice × ℕ) :
    Decidable (ReferencesMatch images s t c) := by
  unfold ReferencesMatch
  split <;> infer_instance

/-! ## Pledges -/

section

variable {cfg : Config} {images : Images} {m m' : Manager} {t t' : Task} {c : Choice}
  {ts : List Task} {p : Ref} {out : Manager × List Task}

theorem beginCleanup_pledge (o : CleanupOwner) (a : Creation) :
    (beginCleanup cfg o a).pledge = none := by
  unfold beginCleanup
  split
  · split <;> rfl
  · rfl

/-- **Where pledges come from**: only a section that protects an image leaves one behind. -/
theorem pledge_from (hr : m.registry.Valid) (ht : TaskOk cfg m.registry t)
    (h : advance cfg m t c = some out) (he : t' ∈ out.2) (hp : t'.pledge = some p) :
    ∃ a, touch images m t c = .pledges a ∧ a.placeholder = p := by
  obtain ⟨ho, -⟩ := (advance_section hr ht h).next t' he
  have hl := ho.pledges p hp
  unfold Task.pledging at hl
  split at hl
  · rename_i a
    cases hl
    refine ⟨a, ?_, rfl⟩
    cases c with
    | ensured result =>
      cases result with
      | ok services => rfl
      | error err =>
        cases h
        rw [List.mem_singleton.mp he, beginCleanup_pledge] at hp
        cases hp
    | _ => cases h
  · rename_i a _ services
    cases hl
    refine ⟨a, ?_, rfl⟩
    cases c with
    | go =>
      have h' : some (bootClaim m a services) = some out := h
      unfold bootClaim at h'
      split at h'
      · rename_i hc
        exact if_pos hc
      · cases h'
        rw [List.mem_singleton.mp he] at hp
        cases hp
    | _ => cases h
  · cases hl

end

/-! ## What a section does to the references -/

/-- The facts that come with each kind of section. -/
inductive Touched (m m' : Manager) (t : Task) : Touch → Prop
  | leaves : Touched m m' t .leaves
  | heats (image : String) : Touched m m' t (.heats image)
  | infra (references : List String) : Touched m m' t (.infra references)
  | pledges (a : Creation) (hcreates : t.creates = some a.placeholder)
      (hconfig : m.config a.placeholder = a.input) : Touched m m' t (.pledges a)
  | commits (q : Ref) (hpledge : t.pledge = some q) (hconfig : m'.config m.next = m.config q)
      (hnext : m.next < m'.next) (hreplaced : ¬ m'.Current q) : Touched m m' t (.commits q m.next)
  | unprotects (p : Ref) (failed : Bool) (hworks : t.works = some p)
      (hgone : failed = false → ¬ m'.Current p) :
      Touched m m' t (.unprotects p (m.config p).desired.image failed)
  | recovers (records : List SandboxMetadata) (hrecovers : t.recovers)
      (hadopts : m'.registry = { m.registry.adopt records with recovering := false }) :
      Touched m m' t (.recovers records m.next)

section

variable {cfg : Config} {images : Images} {m : Manager} {t : Task} {c : Choice}
  {out : Manager × List Task} {record : SandboxMetadata}

theorem not_current_install {m : Manager} {q : Ref} (hlt : q < m.next)
    (hf : m.config q = record.config) : ¬ (m.install record).Current q := by
  intro hc
  have he : (m.install record).registry.Current q := hc
  rw [registry_install, Registry.current_install_of_ne hlt.ne] at he
  have hu : m.registry.uid q = record.config.identity.sandboxUID :=
    congrArg (·.identity.sandboxUID) hf
  exact he.1 hu

theorem config_install_next' (m : Manager) (record : SandboxMetadata) :
    (m.install record).config m.next = record.config := by
  show (update m.records m.next record m.next).config = _
  rw [update_self]

variable {a : Creation}

variable {p : Ref}

/-- A commit installs a record with the placeholder's configuration. `m'` is the manager after the
section, which may also write its log and clear a flag. -/
theorem touched_commit {m m' : Manager} (hp : t.pledge = some a.placeholder)
    (ht : TaskOk cfg m.registry t) (hb : m.config a.placeholder = a.input)
    (hc : record.config = a.input) (hr : m'.records = (m.install record).records)
    (ha : m'.sandboxes = (m.install record).sandboxes) (hn : m'.next = m.next + 1) :
    Touched m m' t (.commits a.placeholder m.next) := by
  have hlt : a.placeholder < m.next :=
    ht.named _ (Task.names_of_creates (Task.creates_of_pledge hp))
  have hs : m.config a.placeholder = record.config := hb.trans hc.symm
  refine .commits _ hp ?_ (hn ▸ lt_succ_self _) ?_
  · unfold Manager.config
    rw [hr]
    exact (config_install_next' m record).trans hs.symm
  · unfold Manager.Current Manager.lookup Manager.uid Manager.config
    rw [hr, ha]
    exact not_current_install hlt hs

variable {services : List ServiceEndpoint}

theorem touched_commitCreate (ht : TaskOk cfg m.registry (.creation a (.commit services))) :
    Touched m (commitCreate cfg m a services).1 (.creation a (.commit services))
      (.commits a.placeholder m.next) := by
  have hb : m.config a.placeholder = a.input := ht.bound
  unfold commitCreate
  split <;> exact touched_commit rfl ht hb rfl rfl rfl rfl

theorem touched_commitBoot {failures : ℕ}
    (ht : TaskOk cfg m.registry (.boot a failures (.commit services))) :
    Touched m (commitBoot cfg m a services).1 (.boot a failures (.commit services))
      (.commits a.placeholder m.next) := by
  have hb : m.config a.placeholder = a.input := ht.bound
  unfold commitBoot
  split <;> exact touched_commit rfl ht hb rfl rfl rfl rfl

theorem settleAsyncDelete_gone (hu : m.Current p) : ¬ (settleAsyncDelete m p none).Current p := by
  intro hc'
  have he : (settleAsyncDelete m p none).registry.Current p := hc'
  simp only [settleAsyncDelete, if_pos hu] at he
  rw [registry_drop, registry_recordTombstone, Registry.current_drop_iff] at he
  exact he.1 rfl

/-- **What a section does to the references.** -/
theorem touched (hr : m.registry.Valid) (ht : TaskOk cfg m.registry t)
    (h : advance cfg m t c = some out) : Touched m out.1 t (touch images m t c) := by
  unfold touch
  split
  · exact .pledges _ rfl ht.bound
  · exact .heats _
  · exact .heats _
  · split
    · exact .pledges _ rfl ht.bound
    · exact .leaves
  · split
    · exact .heats _
    · exact .leaves
  · cases h
    exact touched_commitCreate ht
  · cases h
    exact touched_commitBoot ht
  · split
    · rename_i hc
      cases h
      exact .unprotects _ false rfl fun _ => settleAsyncDelete_gone hc
    · exact .leaves
  · split
    · exact .unprotects _ true rfl nofun
    · exact .leaves
  · cases h
    exact .recovers _ rfl (registry_recoverFinish hr (ht.recovers rfl))
  · exact .infra _
  · exact .leaves

end

/-! ## The references add up -/

/-- The records that hold a reference to an image. -/
def Guard.users (g : Guard) (m : Manager) (i : String) : Finset Ref :=
  g.holders.filter fun p => m.image p = i

/-- Every holder is counted, and a committed record that is managed and has not failed is a
holder. -/
structure Accounted (s : Manager × Guard) : Prop where
  holders : ∀ p ∈ s.2.holders, p < s.1.next
  committed : ∀ p ∈ s.2.committed, p < s.1.next
  counted : ∀ i, i ≠ "" → (s.2.users s.1 i).card ≤ s.2.index.count i .active
  held : ∀ p ∈ s.2.committed, p ∉ s.2.failed → s.1.Current p → p ∈ s.2.holders

namespace Accounted

variable {m m' : Manager} {g g' : Guard}

theorem image_eq (hext : m.registry.Extends m'.registry) (hp : p < m.next) :
    m'.image p = m.image p := by
  have hc : m'.config p = m.config p := hext.config p hp
  unfold Manager.image
  rw [hc]

section

variable (h : Accounted (m, g)) (hext : m.registry.Extends m'.registry)
include h hext

theorem users_eq (i : String) : g.users m' i = g.users m i := by
  refine filter_congr fun p hp => ?_
  rw [image_eq hext (h.holders p hp)]

theorem of_same (ho : g'.holders = g.holders) (hco : g'.committed = g.committed)
    (ha : g'.failed = g.failed)
    (ht : ∀ i, g'.index.count i .active = g.index.count i .active) : Accounted (m', g') where
  holders := by
    intro p hp
    have hp : p ∈ g'.holders := hp
    rw [ho] at hp
    exact (h.holders p hp).trans_le hext.next
  committed := by
    intro p hp
    have hp : p ∈ g'.committed := hp
    rw [hco] at hp
    exact (h.committed p hp).trans_le hext.next
  counted := by
    intro i hi
    have hu : g'.users m' i = g.users m i := by
      unfold Guard.users
      rw [ho]
      exact h.users_eq hext i
    rw [hu, ht]
    exact h.counted i hi
  held := by
    intro p hp hf hc
    have hp : p ∈ g'.committed := hp
    have hf : p ∉ g'.failed := hf
    rw [hco] at hp
    rw [ha] at hf
    rw [ho]
    exact h.held p hp hf (hext.current p (h.committed p hp) hc)

theorem pledges {a : Creation} (hlt : a.placeholder < m.next)
    (hcf : m.config a.placeholder = a.input) : Accounted (m', g.after (.pledges a)) where
  holders := by
    intro p hp
    refine lt_of_lt_of_le ?_ hext.next
    rcases mem_insert.mp hp with rfl | hp
    · exact hlt
    · exact h.holders p hp
  committed := fun p hp => (h.committed p hp).trans_le hext.next
  counted := by
    intro i hi
    have ha : m'.image a.placeholder = normalizeReference a.input.desired.image := by
      rw [image_eq hext hlt, Manager.image, hcf]
    have hu : ((g.after (.pledges a)).users m' i).card ≤
        (g.users m i).card + if normalizeReference a.input.desired.image = i then 1 else 0 := by
      have hl : (g.after (.pledges a)).users m' i =
          if m'.image a.placeholder = i then insert a.placeholder (g.users m' i)
          else g.users m' i := filter_insert _ _ _
      rw [hl, ha, h.users_eq hext]
      split
      · exact card_insert_le _ _
      · exact le_refl _
    have ht : (g.after (.pledges a)).index.count i .active = g.index.count i .active +
        if normalizeReference a.input.desired.image = i then 1 else 0 := by
      have ht : (g.index.protect a.input.desired.image .active).count i .active = _ :=
        ProtectionIndex.count_protect
      simp only [hi, ne_eq, not_false_eq_true, and_self, and_true] at ht
      exact ht
    have hold := h.counted i hi
    rw [ht]
    exact hu.trans (Nat.add_le_add_right hold _)
  held := by
    intro p hp hf hc
    exact mem_insert_of_mem (h.held p hp hf (hext.current p (h.committed p hp) hc))

theorem commits {q : Ref} (hq : q ∈ g.holders) (hcf : m'.config m.next = m.config q)
    (hn : m.next < m'.next) (hre : ¬ m'.Current q)
    : Accounted (m', g.after (.commits q m.next)) where
  holders := by
    intro p hp
    rcases mem_insert.mp hp with rfl | hp
    · exact hn
    · exact (h.holders p (mem_of_mem_erase hp)).trans_le hext.next
  committed := by
    intro p hp
    rcases mem_insert.mp hp with rfl | hp
    · exact hn
    · exact (h.committed p hp).trans_le hext.next
  counted := by
    intro i hi
    have ha : m'.image m.next = m.image q := by
      unfold Manager.image
      rw [hcf]
    -- the new record takes the placeholder's place among the users of its image
    have hsub : (g.after (.commits q m.next)).users m' i ⊆
        if m.image q = i then insert m.next ((g.users m i).erase q) else g.users m i := by
      intro p hp
      obtain ⟨he, hpi⟩ := mem_filter.mp hp
      rcases mem_insert.mp he with rfl | he
      · rw [ha] at hpi
        rw [if_pos hpi]
        exact mem_insert_self _ _
      obtain ⟨hne, he⟩ := mem_erase.mp he
      rw [image_eq hext (h.holders p he)] at hpi
      have hu : p ∈ g.users m i := mem_filter.mpr ⟨he, hpi⟩
      split
      · exact mem_insert_of_mem (mem_erase.mpr ⟨hne, hu⟩)
      · exact hu
    have hr : ((g.after (.commits q m.next)).users m' i).card ≤ (g.users m i).card := by
      refine (card_le_card hsub).trans ?_
      split
      · rename_i hqi
        have hu : q ∈ g.users m i := mem_filter.mpr ⟨hq, hqi⟩
        refine (card_insert_le _ _).trans ?_
        rw [card_erase_add_one hu]
      · exact le_refl _
    exact hr.trans (h.counted i hi)
  held := by
    intro p hp hf hc
    rcases mem_insert.mp hp with rfl | hp
    · exact mem_insert_self _ _
    have hh := h.held p hp hf (hext.current p (h.committed p hp) hc)
    have hne : p ≠ q := by
      rintro rfl
      exact hre hc
    exact mem_insert_of_mem (mem_erase.mpr ⟨hne, hh⟩)

theorem unprotects {failed : Bool} (hg : failed = false → ¬ m'.Current p)
    (ha : p ∈ g.holders ∨ ∀ q ∈ g.holders, m.image q ≠ m.image p) :
    Accounted (m', g.after (.unprotects p (m.config p).desired.image failed)) where
  holders := fun q hq => (h.holders q (mem_of_mem_erase hq)).trans_le hext.next
  committed := fun q hq => (h.committed q hq).trans_le hext.next
  counted := by
    intro i hi
    have ht : (g.after (.unprotects p (m.config p).desired.image failed)).index.count i .active =
        g.index.count i .active - if m.image p = i then 1 else 0 := by
      have hht : (g.after (.unprotects p (m.config p).desired.image failed)).index.count i .active =
          (g.index.unprotect g.now (m.config p).desired.image .active).count i .active :=
        ProtectionIndex.count_protectHotUntil _
      rw [hht, ProtectionIndex.count_unprotect]
      simp only [and_true]
      rfl
    have hsub : (g.after (.unprotects p (m.config p).desired.image failed)).users m' i ⊆
        (g.users m i).erase p := by
      intro q hq
      obtain ⟨he, hqi⟩ := mem_filter.mp hq
      obtain ⟨hne, he⟩ := mem_erase.mp he
      rw [image_eq hext (h.holders q he)] at hqi
      exact mem_erase.mpr ⟨hne, mem_filter.mpr ⟨he, hqi⟩⟩
    have hle := card_le_card hsub
    have hold := h.counted i hi
    rw [ht]
    by_cases hp : m.image p = i
    · rw [if_pos hp]
      rcases ha with hh | hn
      · have hu : p ∈ g.users m i := mem_filter.mpr ⟨hh, hp⟩
        rw [card_erase_of_mem hu] at hle
        exact hle.trans (Nat.sub_le_sub_right hold 1)
      -- nobody uses the image
      have hm : g.users m i = ∅ := by
        refine filter_eq_empty_iff.mpr fun q hq hqi => ?_
        exact hn q hq (hqi.trans hp.symm)
      rw [hm] at hle
      exact hle.trans (zero_le _)
    · rw [if_neg hp]
      exact (hle.trans (card_le_card (erase_subset _ _))).trans hold
  held := by
    intro q hq hf hc
    have hne : q ≠ p := by
      rintro rfl
      cases failed with
      | false => exact hg rfl hc
      | true => exact hf (mem_insert_self _ _)
    have hf' : q ∉ g.failed := by
      intro he
      cases failed with
      | false => exact hf he
      | true => exact hf (mem_insert_of_mem he)
    exact mem_erase.mpr ⟨hne, h.held q hq hf' (hext.current q (h.committed q hq) hc)⟩

end

end Accounted

/-! ## Recovery -/

section

variable {r : Registry} {records : List SandboxMetadata} {test : SandboxMetadata → Bool}
  {first p : Ref}

theorem mem_adoptedRefs : p ∈ adoptedRefs records first test ↔
      ∃ record, (record, p) ∈ records.zipIdx first ∧ test record := by
  unfold adoptedRefs
  simp only [List.mem_toFinset, List.mem_map, List.mem_filter, Prod.exists]
  constructor
  · rintro ⟨record, q, ⟨he, ht⟩, rfl⟩
    exact ⟨record, he, ht⟩
  · rintro ⟨record, he, ht⟩
    exact ⟨record, p, ⟨he, ht⟩, rfl⟩

theorem adopt_at {record : SandboxMetadata} (h : (record, p) ∈ records.zipIdx r.next) :
    p < (r.adopt records).next ∧ (r.adopt records).config p = record.config := by
  induction records generalizing r with
  | nil => cases h
  | cons head rest ih =>
    rcases List.mem_cons.mp h with heq | h
    · cases heq
      have hlt : r.next < (r.install record.config record.phase).next := lt_succ_self _
      have hext := Registry.extends_adopt (r := r.install record.config record.phase) rest
      exact ⟨hlt.trans_le hext.next, (hext.config _ hlt).trans Registry.config_install_next⟩
    · exact ih h

theorem zipIdx_inj {f : SandboxMetadata → String} {record record' : SandboxMetadata} {p' : Ref}
    (hn : ((activeRecords records).map f).Nodup)
    (h : (record, p) ∈ records.zipIdx first) (h' : (record', p') ∈ records.zipIdx first)
    (ha : record.phase ≠ .runtimeFailed) (ha' : record'.phase ≠ .runtimeFailed)
    (hf : f record = f record') : p = p' := by
  induction records generalizing first with
  | nil => cases h
  | cons head rest ih =>
    have hs : ((activeRecords rest).map f).Nodup := by
      refine hn.sublist (List.Sublist.map f ?_)
      exact (List.sublist_cons_self head rest).filter _
    -- an active head has an image that no active record after it has
    have hh : ∀ {record : SandboxMetadata} {q : Ref}, head.phase ≠ .runtimeFailed →
        (record, q) ∈ rest.zipIdx (first + 1) → record.phase ≠ .runtimeFailed →
        f head ≠ f record := by
      intro record q ha he hr heq
      have hc : activeRecords (head :: rest) = head :: activeRecords rest :=
        List.filter_cons_of_pos (by simpa using ha)
      rw [hc, List.map_cons, List.nodup_cons] at hn
      refine hn.1 (List.mem_map.mpr ⟨record, ?_, heq.symm⟩)
      exact List.mem_filter.mpr ⟨List.fst_mem_of_mem_zipIdx he, by simpa using hr⟩
    rw [List.zipIdx_cons] at h h'
    rcases List.mem_cons.mp h with heq | ht <;> rcases List.mem_cons.mp h' with heq' | ht'
    · cases heq
      cases heq'
      rfl
    · cases heq
      exact absurd hf (hh ha ht' ha')
    · cases heq'
      exact absurd hf.symm (hh ha' ht ha)
    · exact ih hs ht ht'

theorem Accounted.recovers {m m' : Manager} {g : Guard}
    (hd : m'.registry = { m.registry.adopt records with recovering := false })
    (hn : ((activeRecords records).map fun record =>
      normalizeReference record.config.desired.image).Nodup) :
    Accounted (m', g.after (.recovers records m.next)) := by
  have ht : ∀ {record : SandboxMetadata} {p : Ref}, (record, p) ∈ records.zipIdx m.next →
      p < m'.next ∧ m'.config p = record.config := by
    intro record p he
    have hs := adopt_at (r := m.registry) he
    have hx : m'.next = (m.registry.adopt records).next := congrArg (·.next) hd
    have hc : m'.config = (m.registry.adopt records).config := congrArg (·.config) hd
    rw [hx, hc]
    exact hs
  refine ⟨fun p hp => ?_, fun p hp => ?_, fun i hi => ?_, fun p hp hf _ => ?_⟩
  · obtain ⟨record, he, -⟩ := mem_adoptedRefs.mp hp
    exact (ht he).1
  · obtain ⟨record, he, -⟩ := mem_adoptedRefs.mp hp
    exact (ht he).1
  · -- a user of the image is the only one, and the image has a count of one
    have hu : ∀ p ∈ (g.after (.recovers records m.next)).users m' i, ∃ record,
        (record, p) ∈ records.zipIdx m.next ∧ record.phase ≠ .runtimeFailed ∧
          normalizeReference record.config.desired.image = i := by
      intro p hp
      obtain ⟨hh, hpi⟩ := mem_filter.mp hp
      obtain ⟨record, he, ha⟩ := mem_adoptedRefs.mp hh
      refine ⟨record, he, by simpa using ha, ?_⟩
      rw [← hpi, Manager.image, (ht he).2]
    rcases eq_empty_or_nonempty ((g.after (.recovers records m.next)).users m' i) with
      hem | ⟨p, hp⟩
    · rw [hem]
      exact zero_le _
    obtain ⟨record, he, ha, hia⟩ := hu p hp
    have ho : ((g.after (.recovers records m.next)).users m' i).card ≤ 1 := by
      refine card_le_one.mpr fun p hp p' hp' => ?_
      obtain ⟨record, he, ha, hia⟩ := hu p hp
      obtain ⟨_, he', ha', hm'⟩ := hu p' hp'
      exact zipIdx_inj hn he he' ha ha' (hia.trans hm'.symm)
    have hct : (g.after (.recovers records m.next)).index.count i .active = 1 := by
      rw [← hia] at hi ⊢
      refine ProtectionIndex.count_replace (List.mem_map.mpr ⟨record, ?_, rfl⟩) hi
      exact List.mem_filter.mpr ⟨List.fst_mem_of_mem_zipIdx he, by simpa using ha⟩
    exact ho.trans (le_of_eq hct.symm)
  · obtain ⟨record, he, -⟩ := mem_adoptedRefs.mp hp
    refine mem_adoptedRefs.mpr ⟨record, he, ?_⟩
    by_contra hfa
    exact hf (mem_adoptedRefs.mpr ⟨record, he, by simpa using hfa⟩)

end

/-! ## All runs -/

section

variable {cfg : Config} {images : Images} {m m' : Manager} {g : Guard} {t u : Task} {k : Touch}

theorem Accounted.after (h : Accounted (m, g)) (ht : TaskOk cfg m.registry t)
    (hext : m.registry.Extends m'.registry) (hp : ∀ p, t.pledge = some p → p ∈ g.holders)
    (hu : ∀ p image failed, k = .unprotects p image failed →
      p ∈ g.holders ∨ ∀ q ∈ g.holders, m.image q ≠ normalizeReference image)
    (hv : ∀ records first, k = .recovers records first →
      ((activeRecords records).map fun record =>
        normalizeReference record.config.desired.image).Nodup)
    (hk : Touched m m' t k) : Accounted (m', g.after k) := by
  cases hk with
  | leaves => exact h.of_same hext rfl rfl rfl fun _ => rfl
  | heats => exact h.of_same hext rfl rfl rfl fun _ => ProtectionIndex.count_protectHotUntil _
  | infra => exact h.of_same hext rfl rfl rfl fun _ => ProtectionIndex.count_foldl_infra
  | pledges a hcr hc => exact h.pledges hext (ht.named _ (Task.names_of_creates hcr)) hc
  | commits q hq hc hn he => exact h.commits hext (hp q hq) hc hn he
  | unprotects p failed hw hg => exact h.unprotects hext hg (hu _ _ _ rfl)
  | recovers records hr ha => exact .recovers ha (hv _ _ rfl)

theorem Touched.keeps_pledge (hr : m.registry.Valid) (ht : TaskOk cfg m.registry t)
    (hu : TaskOk cfg m.registry u) (hC : Apart t u) (hk : Touched m m' t k)
    (hp : u.pledge = some p) (hh : p ∈ g.holders) : p ∈ (g.after k).holders := by
  have hcr := Task.creates_of_pledge hp
  cases hk with
  | leaves | heats image | infra references => exact hh
  | pledges => exact mem_insert_of_mem hh
  | commits q hq =>
    have hne : p ≠ q := by
      rintro rfl
      exact hC.creates p (Task.creates_of_pledge hq) hcr
    exact mem_insert_of_mem (mem_erase.mpr ⟨hne, hh⟩)
  | unprotects q failed hw =>
    have hne : p ≠ q := by
      rintro rfl
      exact hC.worked p hcr hw
    exact mem_erase.mpr ⟨hne, hh⟩
  | recovers records he =>
    -- during a recovery nothing is managed, so nothing is being created
    have hc := (hu.creates p hcr).current
    have hn := (hr.recovering (ht.recovers he)).1 (m.registry.uid p)
    rw [Registry.Current, hn] at hc
    cases hc

theorem accounted_extension (cfg : Config) (images : Images) :
    System.Extension (guarded cfg images) (ReferencesMatch images)
      (fun s => s.1.registry.Valid) (fun s t => TaskOk cfg s.1.registry t) Apart Accounted
      (fun s t => ∀ p, t.pledge = some p → p ∈ s.2.holders) where
  entry_holds _ _ _ _ hp := by cases hp
  local_step := by
    rintro ⟨m, g⟩ ⟨m', g'⟩ t ⟨c, seconds⟩ ts hr ht hs hd hG ha
    obtain ⟨ha, hg'⟩ := alongside_advance ha
    have hext := (advance_section hr ht ha).move.grows
    have hk : Touched m m' t (touch images m t c) := touched hr ht ha
    have hps : Accounted (m, g.pass seconds) := ⟨hs.holders, hs.committed, hs.counted, hs.held⟩
    have hG : ReferencesMatch images (m, g) t (c, seconds) := hG
    unfold ReferencesMatch at hG
    subst hg'
    refine ⟨hps.after ht hext hd ?_ ?_ hk, fun _ ht' p hp => ?_⟩
    · intro p _ _ heq
      rw [heq] at hG
      exact hG
    · intro _ _ heq
      rw [heq] at hG
      exact hG
    · obtain ⟨a, heq, rfl⟩ : ∃ a, touch images m t c = .pledges a ∧ a.placeholder = p :=
        pledge_from hr ht ha ht' hp
      rw [heq]
      exact mem_insert_self _ _
  frame_step := by
    rintro ⟨m, g⟩ ⟨m', g'⟩ t u ⟨c, seconds⟩ ts hr ht hu hC - - hd - ha p hp
    obtain ⟨ha, hg'⟩ := alongside_advance ha
    have hk : Touched m m' t (touch images m t c) := touched hr ht ha
    subst hg'
    exact hk.keeps_pledge (g := g.pass seconds) hr ht hu hC hp (hd p hp)

theorem guardedStart_holds (cfg : Config) (images : Images) (instances : List String) :
    System.Holds (fun s : Manager × Guard => s.1.registry.Valid ∧ Accounted s)
      (fun s t => TaskOk cfg s.1.registry t ∧ ∀ p, t.pledge = some p → p ∈ s.2.holders) Apart
      (guardedStart cfg images instances) := by
  have ha := start_holds cfg instances
  refine ⟨⟨ha.inv, ?_⟩, fun t ht => ⟨ha.task t ht, fun p hp => ?_⟩, ha.compat⟩
  · exact ⟨nofun, nofun, fun _ _ => zero_le _, nofun⟩
  have ht' : t ∈ (if cfg.recoverOnStart then [Task.recover .start] else []) := ht
  split_ifs at ht'
  · rw [List.mem_singleton.mp ht'] at hp
    cases hp
  · cases ht'

/-- **The image of a Sandbox in use is protected**: in every run in which each reference that is
taken back had been given, the image of a committed or recovered Sandbox that is managed and has
not failed for good is protected at any time, so no eviction plan has it. -/
theorem used_image_protected {instances : List String} {w : World (Manager × Guard) Task}
    (h : (guarded cfg images).Reaches (ReferencesMatch images)
      (guardedStart cfg images instances) w)
    {p : Ref} (hcur : w.shared.1.Current p) (hcommitted : p ∈ w.shared.2.committed)
    (hfailed : p ∉ w.shared.2.failed) (himage : w.shared.1.image p ≠ "") (now : ℕ) :
    w.shared.2.index.isProtected now (w.shared.1.config p).desired.image = true ∧
      ∀ candidates, w.shared.1.image p ∉ w.shared.2.index.planEviction now candidates := by
  have hw := (((discipline cfg).alongside (fun _ _ _ _ => trivial)).extend (fun _ _ _ _ => trivial)
    (accounted_extension cfg images)).reaches (guardedStart_holds cfg images instances) h
  have hs := hw.inv.2
  have hu : p ∈ w.shared.2.users w.shared.1 (w.shared.1.image p) :=
    mem_filter.mpr ⟨hs.held p hcommitted hfailed hcur, rfl⟩
  have hc : w.shared.2.index.count (w.shared.1.image p) .active ≠ 0 := by
    have hpos := card_pos.mpr ⟨p, hu⟩
    exact (hpos.trans_le (hs.counted _ himage)).ne'
  exact ⟨ProtectionIndex.isProtected_of_count hc, ProtectionIndex.notMem_planEviction hc⟩

end

/-! ## Two recovered Sandboxes -/

def twoSandboxes : Config where
  capacity := 2
  capacity_pos := Nat.two_pos
  recoverOnStart := true

def noImages : Images := ⟨[], []⟩

def recoveredSandbox (uid : String) : SandboxIdentity where
  sandboxUID := uid
  instanceGeneration := 1
  runtimeInstanceID := uid
  assignmentAttempt := 1
  routeGeneration := 1

def inventoryEntry (uid image : String) : InventoryEntry where
  config := { identity := recoveredSandbox uid, desired := { image } }
  phase := .running
  infraServices := []

/-- Sandboxes `a` and `b` are recovered, `a` is deleted, and an hour passes. -/
def recoverAndDelete (imageA imageB : String) : List (Event Call (Choice × ℕ)) :=
  [.run 0 (.go, 0),
    .run 0 (.inventory (.ok [inventoryEntry "a" imageA, inventoryEntry "b" imageB]), 0),
    .run 0 (.go, 0), .spawn (.delete (recoveredSandbox "a")), .run 0 (.go, 0), .run 0 (.go, 0),
    .run 0 (.go, 0), .run 0 (.teardown none false, 0), .run 0 (.go, 0), .run 0 (.go, 3601)]

/-- The manager's record of Sandbox `b`, if it is in use. -/
def runningB (s : Manager × Guard) : Option Ref :=
  (s.1.lookup "b").filter fun p => s.1.Current p ∧ s.1.phase p = .running ∧
    p ∈ s.2.committed ∧ p ∉ s.2.failed

theorem runningB_spec {s : Manager × Guard} (h : runningB s = some p) :
    s.1.Current p ∧ s.1.phase p = .running ∧ p ∈ s.2.committed ∧ p ∉ s.2.failed :=
  of_decide_eq_true (filter_eq_some_iff.mp h).2

/-- With an image of its own, `b` keeps it when `a` is deleted. -/
theorem own_image_protected : ∃ (w : World (Manager × Guard) Task) (p : Ref),
    w.shared.1.Current p ∧ w.shared.1.phase p = .running ∧ w.shared.1.image p = "j" ∧
      w.shared.1.lookup "a" = none ∧
      ∀ candidates, "j" ∉ w.shared.2.index.planEviction w.shared.2.now candidates := by
  obtain ⟨w, h, ht⟩ := exists_reaches_of_runMeeting
    (S := guarded twoSandboxes noImages) (G := ReferencesMatch noImages)
    (w := guardedStart twoSandboxes noImages []) (recoverAndDelete "i" "j")
    (fun w => (runningB w.shared).any fun p =>
      decide (w.shared.1.image p = "j" ∧ w.shared.1.lookup "a" = none)) (by decide +kernel)
  obtain ⟨p, hp, hi⟩ := (any_eq_true _ _).mp ht
  obtain ⟨hi, hg⟩ := of_decide_eq_true hi
  obtain ⟨hu, hh, hc, hf⟩ := runningB_spec hp
  have hne : w.shared.1.image p ≠ "" := by
    rw [hi]
    decide
  have hl := (used_image_protected h hu hc hf hne w.shared.2.now).2
  rw [hi] at hl
  exact ⟨w, p, hu, hh, hi, hg, hl⟩

/-- The recovery counts one reference for both Sandboxes of an image, and the deletion of `a` takes
it back: an hour later the image of `b` may be evicted. -/
theorem shared_image_evicted : ∃ (w : World (Manager × Guard) Task) (p : Ref),
    (guarded twoSandboxes noImages).Reaches System.anyStep
      (guardedStart twoSandboxes noImages []) w ∧
      w.shared.1.Current p ∧ w.shared.1.phase p = .running ∧
      (w.shared.1.config p).desired.image = "i" ∧
      w.shared.2.index.planEviction w.shared.2.now ["i"] = ["i"] := by
  obtain ⟨w, h, ht⟩ := exists_reaches_of_run
    (S := guarded twoSandboxes noImages) (w := guardedStart twoSandboxes noImages [])
    (recoverAndDelete "i" "i")
    (fun w => (runningB w.shared).any fun p =>
      decide ((w.shared.1.config p).desired.image = "i" ∧ normalizeReference "i" = "i" ∧
        w.shared.2.index.isProtected w.shared.2.now "i" = false)) (by decide +kernel)
  obtain ⟨p, hp, hi⟩ := (any_eq_true _ _).mp ht
  obtain ⟨hi, hn, hr⟩ := of_decide_eq_true hi
  obtain ⟨hc, hh, -⟩ := runningB_spec hp
  refine ⟨w, p, h, hc, hh, hi, ?_⟩
  simp [ProtectionIndex.planEviction, hr, hn]

end FastSandbox.Fastlet
