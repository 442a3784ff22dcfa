import FastSandbox.Lib.Interleaving

/-!
# Patches of a versioned object

Writers patch the status of an object under optimistic concurrency: a patch reads some version, old
or new, computes a status from it, and writes it back only if the version it read is still the
latest; after a conflict it starts over. A patch leaves an object alone whose status is final when
it reads it. `final_status_stays`: no status that is final ever changes, whatever the patches
compute, how stale their reads are, and what happens to the rest of the object.
-/

namespace Versioned

open Interleaving List Nat

structure Version (μ α : Type*) where
  (uid number : ℕ)
  metadata : μ
  status : α

/-- All versions that were ever stored under the name, the latest first, and whether there is an
object now. -/
structure Store (μ α : Type*) where
  versions : List (Version μ α) := []
  live : Bool := false

inductive Call (μ α π : Type*)
  | patch (p : π)
  | create (metadata : μ) (status : α)
  | edit (metadata : μ)
  | remove

inductive Task (μ α π : Type*)
  | read (p : π) (retries : ℕ)
  | write (p : π) (retries : ℕ) (seen : Version μ α) (status : α)
  | create (metadata : μ) (status : α)
  | edit (metadata : μ)
  | remove

/-- A read sees one of the versions, and the patch one more value of the environment; any request
may fail. -/
inductive Choice (κ : Type*)
  | sees (i : ℕ) (k : κ)
  | go
  | fail

variable {μ α π κ : Type*}

namespace Store

variable (s : Store μ α)

def push (uid : ℕ) (metadata : μ) (status : α) : Store μ α :=
  ⟨⟨uid, s.versions.length, metadata, status⟩ :: s.versions, true⟩

def latest : Option (Version μ α) := if s.live then s.versions.head? else none

end Store

/-! ## Final statuses -/

section

variable (final : α → Bool)

/-- A newer version of the same object keeps a final status. -/
def Keeps (newer older : Version μ α) : Prop :=
  newer.uid = older.uid → final older.status → newer.status = older.status

/-- Version numbers and identities are fresh, and final statuses are kept. -/
structure Ordered (s : Store μ α) : Prop where
  number : s.versions.Pairwise fun newer older => older.number < newer.number
  fresh : ∀ v ∈ s.versions, v.number < s.versions.length ∧ v.uid < s.versions.length
  keeps : s.versions.Pairwise (Keeps final)

/-- A patch writes only over a version it has seen, and that was not final. -/
def Seen (s : Store μ α) : Task μ α π → Prop
  | .write _ _ seen _ => seen ∈ s.versions ∧ final seen.status = false
  | _ => True

variable {final} {s : Store μ α}

theorem Store.mem_of_latest {v : Version μ α} (h : s.latest = some v) :
    ∃ rest, s.versions = v :: rest := by
  unfold Store.latest at h
  split_ifs at h
  exact head?_eq_some_iff.mp h

theorem Ordered.push (h : Ordered final s) {uid : ℕ} (metadata : μ) (status : α)
    (hu : uid ≤ s.versions.length)
    (hk : ∀ v ∈ s.versions, uid = v.uid → final v.status → status = v.status) :
    Ordered final (s.push uid metadata status) where
  number := pairwise_cons.mpr ⟨fun v hv => (h.fresh v hv).1, h.number⟩
  fresh := by
    intro v hv
    rcases mem_cons.mp hv with rfl | hv
    · exact ⟨lt_succ_self _, lt_succ_of_le hu⟩
    · exact ⟨lt_succ_of_lt (h.fresh v hv).1, lt_succ_of_lt (h.fresh v hv).2⟩
  keeps := pairwise_cons.mpr ⟨hk, h.keeps⟩

theorem Ordered.latest_keeps (h : Ordered final s) {v u : Version μ α} (hv : s.latest = some v)
    (hu : u ∈ s.versions) : Keeps final v u := by
  obtain ⟨_, hr⟩ := Store.mem_of_latest hv
  have hk := h.keeps
  rw [hr] at hu hk
  rcases mem_cons.mp hu with rfl | hu
  · exact fun _ _ => rfl
  · exact (pairwise_cons.mp hk).1 u hu

theorem Ordered.eq_of_number (h : Ordered final s) {v u : Version μ α} (hv : s.latest = some v)
    (hu : u ∈ s.versions) (heq : v.number = u.number) : v = u := by
  obtain ⟨_, hr⟩ := Store.mem_of_latest hv
  have hn := h.number
  rw [hr] at hu hn
  rcases mem_cons.mp hu with rfl | hu
  · rfl
  · exact absurd heq (Nat.ne_of_gt ((pairwise_cons.mp hn).1 u hu))

end

/-! ## The patches -/

variable [DecidableEq α] (mutate : π → κ → μ → α → α) (final : α → Bool) (retries : ℕ)

def Call.entry : Call μ α π → Task μ α π
  | .patch p => .read p retries
  | .create metadata status => .create metadata status
  | .edit metadata => .edit metadata
  | .remove => .remove

def afterRead (p : π) (n : ℕ) (k : κ) (v : Version μ α) : List (Task μ α π) :=
  let status := mutate p k v.metadata v.status
  if final v.status || decide (status = v.status) then [] else [.write p n v status]

def advance (s : Store μ α) : Task μ α π → Choice κ → Option (Store μ α × List (Task μ α π))
  | .read p n, .sees i k => s.versions[i]?.map fun v => (s, afterRead mutate final p n k v)
  | .write p n seen status, .go =>
    if s.latest.map Version.number = some seen.number then
      some (s.push seen.uid seen.metadata status, [])
    else some (s, if n = 0 then [] else [.read p (n - 1)])
  | .create metadata status, .go =>
    some (if s.live then s else s.push s.versions.length metadata status, [])
  | .edit metadata, .go => some (s.latest.elim s fun v => s.push v.uid metadata v.status, [])
  | .remove, .go => some ({ s with live := false }, [])
  | _, .fail => some (s, [])
  | _, _ => none

/-- Patches of the object by any number of writers, among other changes to it. -/
def patches : System (Store μ α) (Task μ α π) (Call μ α π) (Choice κ) where
  entry := Call.entry retries
  advance := advance mutate final

variable {final} {s' : Store μ α}

theorem advance_ordered {s : Store μ α} {t : Task μ α π} {c : Choice κ} {ts : List (Task μ α π)}
    (h : Ordered final s) (ht : Seen final s t) (ha : advance mutate final s t c = some (s', ts)) :
    Ordered final s' ∧ s.versions ⊆ s'.versions ∧ ∀ t' ∈ ts, Seen final s' t' := by
  have hs : Ordered final s ∧ s.versions ⊆ s.versions ∧ ∀ t' ∈ ([] : List (Task μ α π)),
      Seen final s t' := ⟨h, fun _ hv => hv, by simp⟩
  unfold advance at ha
  split at ha
  · obtain ⟨v, hv, heq⟩ := Option.map_eq_some_iff.mp ha
    cases heq
    refine ⟨h, fun _ hv => hv, fun t' ht' => ?_⟩
    unfold afterRead at ht'
    dsimp only at ht'
    split_ifs at ht' with hf
    · cases ht'
    · rw [mem_singleton.mp ht']
      rw [Bool.or_eq_true, not_or, Bool.not_eq_true] at hf
      exact ⟨mem_of_getElem? hv, hf.1⟩
  · split_ifs at ha with hl
    · cases ha
      obtain ⟨v, hv, hn⟩ := Option.map_eq_some_iff.mp hl
      obtain rfl := h.eq_of_number hv ht.1 hn
      refine ⟨h.push _ _ (Nat.le_of_lt (h.fresh v ht.1).2) ?_, fun _ hu => mem_cons_of_mem _ hu,
        by simp⟩
      -- the version written over is not final, and neither is any it descends from
      intro u hu hi hf
      have hst := h.latest_keeps hv hu hi hf
      rw [← hst, ht.2] at hf
      cases hf
    · cases ha
      exact hs
    · cases ha
      refine ⟨h, fun _ hv => hv, fun t' ht' => ?_⟩
      rw [mem_singleton.mp ht']
      trivial
  · cases ha
    split_ifs
    · exact hs
    · refine ⟨h.push _ _ (Nat.le_refl _) ?_, fun _ hu => mem_cons_of_mem _ hu, by simp⟩
      intro u hu hi
      exact absurd hi.symm (Nat.ne_of_lt (h.fresh u hu).2)
  · cases ha
    cases hv : s.latest with
    | none => exact hs
    | some v =>
      obtain ⟨_, hr⟩ := Store.mem_of_latest hv
      have he : v ∈ s.versions := hr ▸ mem_cons_self
      exact ⟨h.push _ _ (Nat.le_of_lt (h.fresh v he).2) fun u hu => h.latest_keeps hv hu,
        fun _ hu => mem_cons_of_mem _ hu, by simp⟩
  · cases ha
    exact ⟨⟨h.number, h.fresh, h.keeps⟩, fun _ hv => hv, by simp⟩
  · cases ha
    exact hs
  · cases ha

theorem patches_outline : System.Outline (patches mutate final retries) System.anyStep
    (Ordered final) (Seen final) (fun _ _ => True) where
  symm _ := trivial
  entry_holds c _ := by cases c <;> trivial
  entry_compat _ _ := trivial
  local_step h ht _ ha := by
    obtain ⟨h', -, hs⟩ := advance_ordered mutate h ht ha
    exact ⟨h', hs, pairwise_of_forall fun _ _ => trivial⟩
  frame_step := by
    intro s _ t u c _ h ht hu _ _ ha
    obtain ⟨-, hsub, -⟩ := advance_ordered mutate h ht ha
    refine ⟨?_, fun _ _ => trivial⟩
    cases u with
    | write => exact ⟨hsub hu.1, hu.2⟩
    | _ => trivial

theorem final_status_stays {w : World (Store μ α) (Task μ α π)}
    (h : (patches mutate final retries).Reaches System.anyStep ⟨{}, []⟩ w) :
    w.shared.versions.Pairwise (Keeps final) :=
  ((patches_outline mutate retries).reaches (.start ⟨.nil, by simp, .nil⟩) h).inv.keeps

end Versioned
