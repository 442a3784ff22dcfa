import FastSandbox.Network.Calls
import FastSandbox.Network.Slots
import Mathlib.Data.Finset.Sort

/-!
# What `Release` and `Close` leave

`Release` takes the first Bound or Destroying slot of the Sandbox that the loop over the map meets.
A slot whose destruction failed stays Destroying under its old owner, and the Sandbox may meanwhile
have been given another one. `Close` goes on until the map is empty.
-/

namespace FastSandbox.Network

open DataPlane (StringMap)
open Interleaving State Finmap Finset System

variable {cfg : Config} {s s' : State} {owner : Owner} {f : ReleaseFate} {id : String} {slot : Slot}

theorem keyed_of_reaches {files : StringMap Slot} {w : World (Process State) (Job Place Call)}
    (h : (system cfg).Reaches System.anyStep (boot files) w) : Keyed w.shared.memory := by
  have hm : ∀ {s : State}, s.slots = ∅ → Keyed s := by
    intro s hs _ _ hl
    rw [hs, lookup_empty] at hl
    cases hl
  induction h with
  | refl => exact hm rfl
  | @tail w1 w2 ev _ _ hs ih =>
    cases ev with
    | spawn e =>
      cases hs
      exact fun {_ _} hl => ih hl
    | run i c =>
      obtain ⟨_, _, _, _, _, -, ha, -, rfl⟩ := step_run_cases hs
      obtain ⟨-, rfl, -⟩ | ⟨t, _, _, he, rfl, -, -⟩ := restarting_cases ha
      · exact fun {_ _} hl => hm rfl hl
      · exact fun {_ _} hl => (advance_turn he).keyed ih hl

/-- `Release` returns `ErrOwnerConflict`. -/
def State.conflicts (s : State) (owner : Owner) (f : ReleaseFate) : Prop :=
  s.finds (State.heldBy owner.sandboxUID) f.found ∧
    ∃ slot, f.found.bind s.slots.lookup = some slot ∧ slot.owner ≠ owner

def State.bindsExactly (s : State) (owner : Owner) : Prop :=
  ∃ id slot, s.slots.lookup id = some slot ∧ State.boundExactly owner slot

/-- Whatever the order of the map and the environment: no conflict with a slot Bound to exactly
this owner, and after nil no slot of this owner. -/
def Releases (s : State) (owner : Owner) : Prop :=
  ∀ f, (s.bindsExactly owner → ¬s.conflicts owner f) ∧
    ∀ s', s.release owner f = some (s', true) →
      ∀ id slot, Owns s' owner.sandboxUID id slot → slot.owner ≠ owner

/-- A Bound slot of the owner has no Bound or Destroying slot of another owner of the Sandbox
beside it, and the owner has one slot. -/
structure Sole (s : State) (owner : Owner) : Prop where
  alone : s.bindsExactly owner → ∀ id slot, Owns s owner.sandboxUID id slot → slot.owner = owner
  one : ∀ id id' slot slot', Owns s owner.sandboxUID id slot → slot.owner = owner →
    Owns s owner.sandboxUID id' slot' → slot'.owner = owner → id = id'

/-- A loop that meets this slot first, in an environment in which everything works. -/
def ReleaseFate.works (id : String) : ReleaseFate := ⟨some id, .ok, true, .ok⟩

theorem finds_works {uid : String} (h : Owns s uid id slot) :
    s.finds (heldBy uid) (some id) ∧ (some id).bind s.slots.lookup = some slot := by
  refine ⟨?_, h.1⟩
  show (s.slots.lookup id).any (heldBy uid)
  rw [h.1]
  exact h.2

theorem mark_works (hk : Keyed s) (h : s.slots.lookup id = some slot) :
    (s.mark id .ok).2 = .marked ∧ (∃ slot', (s.mark id .ok).1.slots.lookup id = some slot') ∧
      ∀ id', id' ≠ id → (s.mark id .ok).1.slots.lookup id' = s.slots.lookup id' := by
  have hi := hk h
  subst hi
  unfold mark
  rw [h]
  dsimp only
  split_ifs with _ ho
  · exact ⟨rfl, ⟨slot, h⟩, fun _ _ => rfl⟩
  · exact ⟨rfl, ⟨slot.marked, lookup_insert _⟩, fun _ => lookup_insert_of_ne _⟩
  · exact absurd rfl ho

theorem markAndDestroy_works (hk : Keyed s) (h : s.slots.lookup id = some slot) :
    (s.markAndDestroy id (.works id)).2 ∧ ∀ id', id' ≠ id →
      (s.markAndDestroy id (.works id)).1.slots.lookup id' = s.slots.lookup id' := by
  obtain ⟨ha, ⟨_, hs'⟩, ho⟩ := mark_works hk h
  unfold markAndDestroy
  rw [show (ReleaseFate.works id).save = .ok from rfl]
  generalize s.mark id .ok = r at ha hs' ho
  obtain ⟨_, _⟩ := r
  cases ha
  dsimp only at hs' ho ⊢
  unfold destroySlot
  rw [hs']
  refine ⟨rfl, fun id' hne => ?_⟩
  rw [← ho id' hne]
  exact lookup_erase_ne hne

/-- **Release**: in a slot map that is reached, it does what its caller expects exactly when the
owner's slot is the only one of its kind. -/
theorem releases_iff {files : StringMap Slot} {w : World (Process State) (Job Place Call)}
    (h : (system cfg).Reaches System.anyStep (boot files) w) (owner : Owner) :
    Releases w.shared.memory owner ↔ Sole w.shared.memory owner := by
  have hk : Keyed w.shared.memory := keyed_of_reaches h
  constructor
  · intro hr
    constructor
    · intro hb id slot ho
      by_contra hne
      exact (hr (.works id)).1 hb ⟨(finds_works ho).1, slot, ho.1, hne⟩
    intro id id' slot slot' ho hw ho' hw'
    by_contra hne
    obtain ⟨hok, ht⟩ := markAndDestroy_works hk ho.1
    have hc : w.shared.memory.release owner (.works id) =
        some ((w.shared.memory.markAndDestroy id (.works id)).1, true) := by
      obtain ⟨hf, hs⟩ := finds_works ho
      have hi := hk ho.1
      rw [← hok]
      unfold State.release ReleaseFate.works at *
      simp only [hf, hs, hw, hi, if_true]
    refine (hr (.works id)).2 _ hc id' slot' ⟨?_, ho'.2⟩ hw'
    rw [ht id' (Ne.symm hne)]
    exact ho'.1
  · intro he f
    constructor
    · rintro hb ⟨hf, slot, hs, hne⟩
      obtain ⟨id, hl, hh⟩ := State.finds_some hf hs
      exact hne (he.alone hb id slot ⟨hl, hh⟩)
    intro _ hc id' slot' ho' hw'
    obtain ⟨-, hd, hg⟩ := release_spec hk hc
    obtain ⟨slot0, ho0, hw0⟩ := hd id' slot' ho'
    rcases hg rfl with hn | ⟨id, slot, ho, hw, hn⟩
    · exact hn id' slot0 ho0
    · rw [he.one id' id slot0 slot ho0 (hw0.trans hw') ho hw] at ho'
      rw [ho'.1] at hn
      cases hn

/-- A Sandbox is given the only slot and releases it. -/
theorem bound_slot_released : ∃ w, (system samplePod).Reaches System.anyStep (boot storedOne) w ∧
    w.shared.memory.bindsExactly (sampleOwner "u") ∧
    Releases w.shared.memory (sampleOwner "u") := by
  obtain ⟨w, hr, ht⟩ := exists_reaches_of_run (S := system samplePod) (w := boot storedOne)
    (loading [sampleSlot "a" 0xac1e0002] ++
      [.spawn (some (.acquire (sampleOwner "u"))), .run 1 (.acquired none .ok)])
    (fun w => decide (w.shared.memory.slots.keys = {"a"} ∧ w.shared.memory.slots.lookup "a" =
      some ((sampleSlot "a" 0xac1e0002).boundBy (sampleOwner "u")))) (by decide)
  obtain ⟨hk, hl⟩ := of_decide_eq_true ht
  have hone {uid id : String} {slot : Slot} (ho : Owns w.shared.memory uid id slot) : id = "a" := by
    have hi := mem_keys.mpr (mem_of_lookup_eq_some ho.1)
    rwa [hk, Finset.mem_singleton] at hi
  refine ⟨w, hr, ⟨"a", _, hl, by decide⟩, (releases_iff hr _).mpr ⟨?_, ?_⟩⟩
  · rintro - id slot ho
    obtain rfl := hone ho
    have hs := ho.1
    rw [hl] at hs
    cases hs
    rfl
  · exact fun id id' _ _ ho _ ho' _ => (hone ho).trans (hone ho').symm

/-- The same Sandbox in its next generation. -/
def sampleSuccessor : Owner := { sampleOwner "u" with instanceGeneration := 2 }

/-- The destruction of a released slot fails, the Sandbox comes back and is given another slot, and
its `Release` meets the old slot first. -/
theorem old_slot_met_first : ∃ w, (system samplePod).Reaches System.anyStep (boot storedOne) w ∧
    w.shared.memory.bindsExactly sampleSuccessor ∧
    w.shared.memory.conflicts sampleSuccessor (.works "a") ∧
    (w.shared.memory.release sampleSuccessor (.works "a")).map Prod.snd = some false := by
  obtain ⟨w, hr, ht⟩ := exists_reaches_of_run
    (S := system samplePod) (w := boot storedOne)
    (loading [sampleSlot "a" 0xac1e0002] ++ preparing 0 "b" ++
      [.spawn (some (.acquire (sampleOwner "u"))), .run 0 (.acquired none .ok),
        .spawn (some (.release (sampleOwner "u"))), .run 0 (.found (some "a")),
        .run 0 (.store .ok), .run 0 .go, .run 0 (.driver false),
        .spawn (some (.acquire sampleSuccessor)), .run 0 (.acquired none .ok)])
    (fun w => decide (w.shared.memory.slots.lookup "a" =
        some ((sampleSlot "a" 0xac1e0002).boundBy (sampleOwner "u")).marked ∧
      w.shared.memory.slots.lookup "b" =
        some ((sampleSlot "b" 0xac1e0003).boundBy sampleSuccessor) ∧
      (w.shared.memory.release sampleSuccessor (.works "a")).map Prod.snd = some false)) (by decide)
  obtain ⟨ha, hb, hc⟩ := of_decide_eq_true ht
  exact ⟨w, hr, ⟨"b", _, hb, by decide⟩, ⟨(finds_works ⟨ha, by decide⟩).1, _, ha, by decide⟩, hc⟩

/-! ## Close -/

/-- How the driver and the store answer for a slot in each round of `Close`. -/
abbrev Answers := ℕ → String → ReleaseFate

namespace State

/-- A round of `Close`: errors are only logged. -/
def closeRound (s : State) (answers : String → ReleaseFate) : State :=
  (s.slots.keys.sort (· ≤ ·)).foldl (fun s id => (s.destroySlot id (answers id)).1) s

/-- The loop of `Close` from its `n`-th round on. Without fuel it has not returned. -/
def closeLoop (answers : Answers) : ℕ → ℕ → State → Option State
  | 0, _, _ => none
  | fuel + 1, n, s =>
    if s.slots.keys = ∅ then some s else closeLoop answers fuel (n + 1) (s.closeRound (answers n))

/-- `Close`. It returns nil whenever it returns. -/
def close (s : State) (answers : Answers) (fuel : ℕ) : Option State :=
  if s.closed then some s else closeLoop answers fuel 0 { s with closed := true }

end State

/-- `Destroy` and `Delete` of the slot both work. -/
def ReleaseFate.succeeds (f : ReleaseFate) : Prop := f.destroy ∧ f.delete = .ok

theorem mem_destroySlot (s : State) (id id' : String) (f : ReleaseFate) :
    id' ∈ (s.destroySlot id f).1.slots.keys ↔ id' ∈ s.slots.keys ∧ (id' = id → ¬f.succeeds) := by
  unfold destroySlot ReleaseFate.succeeds
  cases hl : s.slots.lookup id with
  | none =>
    have hne (h : id' ∈ s.slots.keys) : id' ≠ id := fun heq =>
      lookup_eq_none.mp hl (heq ▸ mem_keys.mp h)
    exact ⟨fun h => ⟨h, fun heq => absurd heq (hne h)⟩, And.left⟩
  | some slot =>
    cases f.destroy with
    | false => exact ⟨fun h => ⟨h, fun _ hs => Bool.false_ne_true hs.1⟩, And.left⟩
    | true =>
      cases f.delete with
      | failed effective => exact ⟨fun h => ⟨h, fun _ hs => nomatch hs.2⟩, And.left⟩
      | ok =>
        show id' ∈ (s.slots.erase id).keys ↔ _
        simp [keys_erase, and_comm]

theorem mem_closeRound (s : State) (answers : String → ReleaseFate) (id : String) :
    id ∈ (s.closeRound answers).slots.keys ↔ id ∈ s.slots.keys ∧ ¬(answers id).succeeds := by
  have hf : ∀ (ids : List String) (s : State),
      id ∈ (ids.foldl (fun s id => (s.destroySlot id (answers id)).1) s).slots.keys ↔
        id ∈ s.slots.keys ∧ (id ∈ ids → ¬(answers id).succeeds) := by
    intro ids
    induction ids with
    | nil => simp
    | cons head rest ih =>
      intro s
      rw [List.foldl_cons, ih, mem_destroySlot, List.mem_cons, or_imp, and_assoc]
      refine and_congr_right fun _ => and_congr_left fun _ => forall_congr' ?_
      rintro rfl
      exact Iff.rfl
  rw [closeRound, hf, mem_sort]
  exact and_congr_right fun hi => ⟨fun h => h hi, fun h _ => h⟩

theorem closeLoop_some {answers : Answers} {fuel n : ℕ} (h : closeLoop answers fuel n s = some s') :
    s'.slots.keys = ∅ ∧ ∀ id ∈ s.slots.keys, ∃ m, (answers m id).succeeds := by
  induction fuel generalizing n s with
  | zero => cases h
  | succ fuel ih =>
    unfold closeLoop at h
    split_ifs at h with he
    · cases h
      refine ⟨he, fun id hi => ?_⟩
      rw [he] at hi
      exact absurd hi (notMem_empty id)
    · obtain ⟨hd, ha⟩ := ih h
      refine ⟨hd, fun id hi => ?_⟩
      by_cases hn : (answers n id).succeeds
      · exact ⟨n, hn⟩
      · exact ha id ((mem_closeRound s _ id).mpr ⟨hi, hn⟩)

theorem closeLoop_returns {answers : Answers} {k n : ℕ}
    (h : ∀ id ∈ s.slots.keys, ∃ m, n ≤ m ∧ m < n + k ∧ (answers m id).succeeds) :
    ∃ s', closeLoop answers (k + 1) n s = some s' := by
  induction k generalizing n s with
  | zero =>
    have he : s.slots.keys = ∅ := eq_empty_of_forall_notMem fun id hi => by
      obtain ⟨m, hm, hm', -⟩ := h id hi
      omega
    exact ⟨s, if_pos he⟩
  | succ k ih =>
    unfold closeLoop
    split_ifs
    · exact ⟨s, rfl⟩
    refine ih fun id hi => ?_
    obtain ⟨hi, hf⟩ := (mem_closeRound s _ id).mp hi
    obtain ⟨m, hm, hm', hu⟩ := h id hi
    have hne : n ≠ m := fun heq => hf (heq ▸ hu)
    exact ⟨m, by omega, by omega, hu⟩

/-- **Close** returns, and only with every slot destroyed, exactly when it is the first one and each
slot can be destroyed in some round, or there is no slot. -/
theorem close_iff (s : State) (answers : Answers) : ((∃ fuel s', s.close answers fuel = some s') ∧
      ∀ fuel s', s.close answers fuel = some s' → ∀ id ∈ s.slots.keys, id ∉ s'.slots.keys) ↔
    ∀ id ∈ s.slots.keys, s.closed = false ∧ ∃ n, (answers n id).succeeds := by
  unfold State.close
  cases s.closed with
  | true =>
    constructor
    · rintro ⟨-, hd⟩ id hi
      exact absurd hi (hd 0 s rfl id hi)
    · intro hn
      refine ⟨⟨0, s, rfl⟩, fun fuel s' h id hi => ?_⟩
      exact absurd (hn id hi).1 (by decide)
  | false =>
    simp only [Bool.false_eq_true, if_false, true_and]
    constructor
    · rintro ⟨⟨fuel, s', h⟩, -⟩ id hi
      exact (closeLoop_some h).2 id hi
    intro ha
    choose! round hr using ha
    have hb : ∀ id ∈ s.slots.keys, round id < 0 + (s.slots.keys.sup round + 1) := by
      intro id hi
      have hle := le_sup (f := round) hi
      omega
    refine ⟨⟨_, closeLoop_returns fun id hi => ⟨round id, Nat.zero_le _, hb id hi,
      hr id hi⟩⟩, fun fuel s' h id _ => ?_⟩
    rw [(closeLoop_some h).1]
    exact notMem_empty id

/-- `Close` on a slot whose namespace cannot be destroyed never returns. -/
theorem close_never_returns : ∃ w, (system samplePod).Reaches System.anyStep (boot storedOne) w ∧
    ∀ fuel, w.shared.memory.close (fun _ _ => ⟨none, .ok, false, .ok⟩) fuel = none := by
  obtain ⟨w, hr, ht⟩ := exists_reaches_of_run
    (S := system samplePod) (w := boot storedOne) (loading [sampleSlot "a" 0xac1e0002])
    (fun w => decide ("a" ∈ w.shared.memory.slots.keys ∧ w.shared.memory.closed = false))
    (by decide)
  obtain ⟨hs, ho⟩ := of_decide_eq_true ht
  refine ⟨w, hr, fun fuel => ?_⟩
  unfold State.close
  rw [ho]
  cases hl : State.closeLoop _ fuel 0 _ with
  | none => rfl
  | some s' =>
    obtain ⟨m, hd, -⟩ := (closeLoop_some hl).2 "a" hs
    cases hd

section Rounds

variable {w : World State Place} {qs : List Place} {answers : Answers} {fuel n : ℕ}

theorem Keyed.closeRound (hk : Keyed s) (ids : List String) (round : String → ReleaseFate) :
    Keyed (ids.foldl (fun s id => (s.destroySlot id (round id)).1) s) := by
  induction ids generalizing s with
  | nil => exact hk
  | cons id ids ih =>
    refine ih fun {id' slot} hl => ?_
    obtain he | he := (destroySlot_slots s id (round id)).1
    · exact hk (he ▸ hl)
    · exact hk (lookup_erase_cases (he ▸ hl)).2

/-- The loop over a snapshot takes the slots in the order of their IDs. -/
theorem closing_reaches (round : String → ReleaseFate) {ids : List String}
    (hi : ids.Pairwise (· < ·)) (hk : Keyed s)
    (h : (manager cfg).Reaches anyStep w ⟨s, qs ++ [.closing ids.toFinset]⟩) :
    (manager cfg).Reaches anyStep w
      ⟨ids.foldl (fun s id => (s.destroySlot id (round id)).1) s, qs ++ [.closeSnapshot]⟩ := by
  induction ids generalizing s with
  | nil => exact alone_reaches (c := .go) h rfl
  | cons id ids ih =>
    obtain ⟨hlt, hi⟩ := List.pairwise_cons.mp hi
    have hn : id ∉ ids.toFinset := fun hm => lt_irrefl id (hlt id (List.mem_toFinset.mp hm))
    have hm : (id :: ids).toFinset.min = some id := by
      rw [List.toFinset_cons, min_insert]
      refine min_eq_left (Finset.le_min fun b hb => ?_)
      exact WithTop.coe_le_coe.mpr (hlt b (List.mem_toFinset.mp hb)).le
    have hs : advance cfg s (.closing (id :: ids).toFinset) .go =
        some (s, [.readSlot id (.close ids.toFinset)]) := by
      simp only [advance, hm]
      rw [List.toFinset_cons, erase_insert hn]
    have hd := destroySlot_reaches (f := round id) _ (fun hl => hk hl) (alone_reaches h hs)
    have hc : ∀ ok, (Cont.close ids.toFinset).next ok = [.closing ids.toFinset] := by
      intro ok
      cases ok <;> rfl
    rw [hc] at hd
    exact ih hi (hk.closeRound [id] round) hd

theorem closeLoop_reaches (hk : Keyed s) (hc : closeLoop answers fuel n s = some s')
    (h : (manager cfg).Reaches anyStep w ⟨s, qs ++ [.closeSnapshot]⟩) :
    (manager cfg).Reaches anyStep w ⟨s', qs ++ []⟩ := by
  induction fuel generalizing n s with
  | zero => cases hc
  | succ fuel ih =>
    unfold closeLoop at hc
    split_ifs at hc with he
    · cases hc
      exact alone_reaches (c := .go) h (by simp only [advance, he, if_true])
    · have hs : advance cfg s .closeSnapshot .go = some (s, [.closing s.slots.keys]) := by
        simp only [advance, he, if_false]
      have hr := alone_reaches h hs
      rw [← sort_toFinset s.slots.keys (· ≤ ·)] at hr
      exact ih (hk.closeRound _ _) hc (closing_reaches (answers n) (sortedLT_sort _).pairwise hk hr)

/-- **An undisturbed `Close`** is a run of the manager. -/
theorem close_reaches (hk : Keyed s) (hc : s.close answers fuel = some s')
    (h : (manager cfg).Reaches anyStep w ⟨s, qs ++ [.close]⟩) :
    (manager cfg).Reaches anyStep w ⟨s', qs ++ []⟩ := by
  unfold State.close at hc
  split_ifs at hc with ho
  · cases hc
    exact alone_reaches (c := .go) h (by simp only [advance, ho, if_true])
  · have hs : advance cfg s .close .go = some ({ s with closed := true }, [.closeSnapshot]) := by
      simp only [advance, ho]
      rfl
    exact closeLoop_reaches (s := { s with closed := true }) (fun hl => hk hl) hc
      (alone_reaches h hs)

end Rounds

/-! ## Calls in turn -/

/-- A call of a driver that nothing interrupts. -/
def Calls (cfg : Config) (s s' : State) : Prop :=
  (∃ owner found w r, s.acquire owner found w = some (s', r)) ∨
  (∃ owner guestIP f ok, s.applyGuest cfg owner guestIP f = some (s', ok)) ∨
  ∃ owner f ok, s.release owner f = some (s', ok)

/-- **The drivers' view is a refinement.** Calls made in turn are a run of the concurrent manager,
which then has nothing to do but to replenish its pool. -/
theorem calls_in_turn_reach (hk : Keyed s) (h : Relation.ReflTransGen (Calls cfg) s s') :
    Keyed s' ∧ ∃ ps, (manager cfg).Reaches anyStep ⟨s, []⟩ ⟨s', ps⟩ ∧ ∀ p ∈ ps, p = .replenish := by
  induction h with
  | refl => exact ⟨hk, [], .refl, by simp⟩
  | @tail s1 s' _ hc ih =>
    obtain ⟨hk1, qs, hr, hq⟩ := ih
    have hs (call : Call) : (manager cfg).Reaches anyStep ⟨s, []⟩ ⟨s1, qs ++ [call.entry]⟩ := by
      have he : (manager cfg).step ⟨s1, qs⟩ (.spawn call) = some ⟨s1, qs ++ [call.entry]⟩ := rfl
      exact hr.tail (by trivial) he
    obtain ⟨owner, found, w, r, hc⟩ | ⟨owner, guestIP, f, ok, hc⟩ | ⟨owner, f, ok, hc⟩ := hc
    · have ha : advance cfg s1 (.acquire owner) (.acquired found w) = some (s', []) := by
        simp only [advance, hc, Option.map_some]
      refine ⟨(acquire_spec hk1 hc).1, _, alone_reaches (hs (.acquire owner)) ha, ?_⟩
      rwa [List.append_nil]
    · have hd : Keyed s' ∧ Dwindles "" s1 s' := applyGuest_spec hk1 hc
      refine ⟨hd.1, _, applyGuest_reaches hc (hs (.applyGuest owner guestIP)), ?_⟩
      rwa [List.append_nil]
    · obtain ⟨ps, hr', hp⟩ := release_reaches hk1 hc (hs (.release owner))
      exact ⟨(release_spec hk1 hc).1, _, hr', List.forall_mem_append.mpr ⟨hq, hp⟩⟩

/-- A slot is acquired and released. -/
theorem acquired_and_released : ∃ s s' ps, (manager samplePod).Reaches anyStep ⟨s, []⟩ ⟨s', ps⟩ ∧
    s.slots.lookup "a" ≠ none ∧ s'.slots.lookup "a" = none := by
  have hk : Keyed { State.start ∅ with slots := storedOne } := by
    intro id slot hl
    obtain ⟨rfl, rfl⟩ | ⟨-, hl⟩ := lookup_insert_cases hl
    · rfl
    · cases hl
  have hc : ((State.acquire { State.start ∅ with slots := storedOne } (sampleOwner "u") none
      .ok).bind fun r => (r.1.release (sampleOwner "u") (.works "a")).map (·.1.slots.lookup "a")) =
        some none := by decide
  obtain ⟨⟨s1, r⟩, ha, hc⟩ := Option.bind_eq_some_iff.mp hc
  obtain ⟨⟨s', ok⟩, hr, hn⟩ := Option.map_eq_some_iff.mp hc
  obtain ⟨-, ps, h, -⟩ := calls_in_turn_reach hk
    (.tail (.single (.inl ⟨_, _, _, _, ha⟩)) (.inr (.inr ⟨_, _, _, hr⟩)))
  exact ⟨_, s', ps, h, by decide, hn⟩

end FastSandbox.Network
