import FastSandbox.Network.Slots

/-!
# A used slot is not used again

Once a file says that a slot is Bound or Destroying, neither memory nor a file says Clean of it
again, in this process or in a later one, and `Acquire` returns it to nobody but its owner. The
argument is that memory follows the file: `Acquire` and `markAndDestroy` save the new phase before
they change the slot. It fails when a save reports an error although the file is in place.
-/

namespace FastSandbox.Network

open DataPlane (StringMap)
open Function Interleaving List Option

/-- A save of `Acquire` or `markAndDestroy` that fails leaves the old file. -/
def SavesHonestly (s : State) (p : Place) (c : Choice) : Prop :=
  Orderly s p c ∧
    match p, c with
    | .acquire _, .acquired _ w => w ≠ .failed true
    | .mark _ _, .store w => w ≠ .failed true
    | _, _ => True

instance (s : State) (p : Place) (c : Choice) : Decidable (SavesHonestly s p c) := by
  unfold SavesHonestly
  rcases p with ⟨⟩
  case acquire | mark => rcases c with ⟨⟩ <;> infer_instance
  all_goals infer_instance

/-- A slot in memory agrees with what has been saved under its ID. -/
def Agrees (s : State) (id : String) (slot : Slot) : Prop :=
  (slot.phase = .clean → s.persisted id = none) ∧
    (slot.phase = .bound → s.persisted id = some slot.owner)

/-- A file agrees with what has been saved under its ID. -/
def FileAgrees (s : State) (id : String) (file : Slot) : Prop :=
  (file.phase = .clean → s.persisted id = none) ∧
    (file.phase ≠ .clean → s.persisted id = some file.owner)

/-- Memory and files agree with what has been saved. -/
structure Tenanted (s : State) : Prop where
  slots : ∀ {id : String} {slot : Slot}, s.slots.lookup id = some slot → Agrees s id slot
  files : ∀ {id : String} {file : Slot}, s.files.lookup id = some file → FileAgrees s id file
  given : ∀ {id : String} {owner : Owner}, s.persisted id = some owner → id ∈ s.given

/-- What a call knows about the slot it prepares or applies a guest address to. -/
structure Held (s : State) (p : Place) : Prop where
  guest : ∀ slot, p.guest = some slot → s.persisted slot.id = some slot.owner
  prep : ∀ slot, p.prep = some slot → s.persisted slot.id = none

section Tenancy

variable {cfg : Config} {s s' : State} {p q : Place} {c : Choice} {ps : List Place}

theorem save_persisted (s : State) (slot : Slot) (w : Written) (id : String) :
    (s.save slot w).persisted id = s.persisted id ∨
      (id = slot.id ∧ slot.phase ≠ .clean ∧ (s.save slot w).persisted id = some slot.owner) := by
  simp only [State.save]
  split
  · rename_i hw
    by_cases hi : id = slot.id
    · subst hi
      exact .inr ⟨rfl, hw.2, update_self _ _ _⟩
    · exact .inl (update_of_ne hi _ _)
  · exact .inl rfl

variable {slot : Slot}

theorem save_recorded (w : Written)
    (h : slot.phase = .clean ∨ s.persisted slot.id = some slot.owner) :
    (s.save slot w).persisted = s.persisted := by
  funext id
  rcases save_persisted s slot w id with hs | ⟨rfl, hp, heq⟩
  · exact hs
  · exact heq.trans (h.resolve_left hp).symm

theorem not_effective {effective : Bool} (h : Written.failed effective ≠ .failed true) :
    effective = false := by
  cases effective
  · rfl
  · exact absurd rfl h

variable {id : String}

section

variable (turn : Turn cfg s p c s' ps) (hI : Ledger s) (hT : Placed s p)
include turn hI hT

section

variable (hJ : Tenanted s) (hH : Held s p) (hG : SavesHonestly s p c)
include hJ hH hG

theorem Turn.persisted (id : String) :
    s'.persisted id = s.persisted id ∨ (s.persisted id = none ∧ id ∈ s.given ∧
      ∃ slot, s.slots.lookup id = some slot ∧ slot.phase = .clean) := by
  cases turn with
  | @binds key slot owner found hv hn hl hp =>
    rcases save_persisted s (slot.boundBy owner) .ok id with hs | ⟨rfl, -, -⟩
    · exact .inl hs
    have ho := hI.slots_given hl
    have hk : (slot.boundBy owner).id = key := ho.1
    rw [hk]
    exact .inr ⟨(hJ.slots hl).1 hp, ho.2.1, slot, hl, hp⟩
  | strands | misses =>
    cases not_effective hG.2
    exact .inl rfl
  | @guests applied current w =>
    have hs := save_recorded w (.inr (hH.guest applied rfl))
    exact .inl (congrFun hs id)
  | @marks key slot k hl hp =>
    rcases save_persisted s slot.marked .ok id with hs | ⟨rfl, -, heq⟩
    · exact .inl hs
    have ho := hI.slots_given hl
    have hk : slot.marked.id = key := ho.1
    cases ht : slot.phase with
    | clean =>
      rw [hk]
      exact .inr ⟨(hJ.slots hl).1 ht, ho.2.1, slot, hl, ht⟩
    | bound =>
      have hold := (hJ.slots hl).2 ht
      rw [← hk] at hold
      exact .inl (heq.trans hold.symm)
    | destroying => exact absurd ht hp
  | saves slot => exact .inl (congrFun (save_recorded .ok (.inl (hT.prep slot rfl).2.1)) id)
  | unsaved slot effective =>
    exact .inl (congrFun (save_recorded (.failed effective) (.inl (hT.prep slot rfl).2.1)) id)
  | _ => exact .inl rfl

theorem Turn.persisted_some {owner : Owner} (h : s.persisted id = some owner) :
    s'.persisted id = some owner := by
  rcases turn.persisted hI hT hJ hH hG id with hs | ⟨hn, -⟩
  · exact hs.trans h
  · rw [h] at hn
    cases hn

theorem Turn.persisted_eq (h : ∀ slot, s.slots.lookup id = some slot → slot.phase ≠ .clean) :
    s'.persisted id = s.persisted id := by
  rcases turn.persisted hI hT hJ hH hG id with hs | ⟨-, -, slot, hl, hc⟩
  · exact hs
  · exact absurd hc (h slot hl)

end

end

theorem Agrees.file (h : FileAgrees s id slot) : Agrees s id slot :=
  ⟨h.1, fun hb => h.2 (by rw [hb]; decide)⟩

section

variable (hJ : Tenanted s)
include hJ

theorem Tenanted.keep (he : s'.persisted = s.persisted)
    (hs : ∀ {id : String} {slot : Slot}, s'.slots.lookup id = some slot → Agrees s id slot)
    (hf : ∀ {id : String} {file : Slot}, s'.files.lookup id = some file →
      FileAgrees s id file) (hg : s.given ⊆ s'.given) : Tenanted s' where
  slots hl := by
    unfold Agrees
    rw [he]
    exact hs hl
  files hl := by
    unfold FileAgrees
    rw [he]
    exact hf hl
  given h := hg (hJ.given (he ▸ h))

theorem Tenanted.slots_put (h : Agrees s slot.id slot) {other : Slot}
    (hl : (s.slots.insert slot.id slot).lookup id = some other) : Agrees s id other := by
  obtain ⟨rfl, rfl⟩ | ⟨-, hold⟩ := lookup_insert_cases hl
  · exact h
  · exact hJ.slots hold

theorem Tenanted.files_save (h : FileAgrees s slot.id slot) (w : Written)
    {file : Slot} (hl : (s.save slot w).files.lookup id = some file) : FileAgrees s id file := by
  simp only [State.save] at hl
  split at hl
  · obtain ⟨rfl, rfl⟩ | ⟨-, hold⟩ := lookup_insert_cases hl
    · exact h
    · exact hJ.files hold
  · exact hJ.files hl

theorem Tenanted.files_delete {gone : String} {w : Written} {file : Slot}
    (hl : (s.delete gone w).files.lookup id = some file) : FileAgrees s id file := by
  simp only [State.delete] at hl
  split at hl
  · exact hJ.files (lookup_erase_cases hl).2
  · exact hJ.files hl

theorem Tenanted.saved (slot : Slot) (hp : slot.phase ≠ .clean)
    (hi : slot.id ∈ s.given) : Tenanted ((s.save slot .ok).put slot) := by
  have hs : ((s.save slot .ok).put slot).persisted slot.id = some slot.owner := by
    show (if _ then _ else _ : String → Option Owner) slot.id = _
    rw [if_pos ⟨rfl, hp⟩, update_self]
  have hot : ∀ id, id ≠ slot.id → ((s.save slot .ok).put slot).persisted id = s.persisted id := by
    intro id hne
    show (if _ then _ else _ : String → Option Owner) id = _
    rw [if_pos ⟨rfl, hp⟩, update_of_ne hne]
  refine ⟨?_, ?_, ?_⟩
  · intro id _ hl
    obtain ⟨rfl, rfl⟩ | ⟨hne, hold⟩ := lookup_insert_cases hl
    · exact ⟨fun hc => absurd hc hp, fun _ => hs⟩
    · unfold Agrees
      rw [hot id hne]
      exact hJ.slots hold
  · intro id _ hl
    obtain ⟨rfl, rfl⟩ | ⟨hne, hold⟩ := lookup_insert_cases hl
    · exact ⟨fun hc => absurd hc hp, fun _ => hs⟩
    · unfold FileAgrees
      rw [hot id hne]
      exact hJ.files hold
  · intro id owner h
    by_cases hne : id = slot.id
    · exact hne ▸ hi
    · exact hJ.given ((hot id hne).symm.trans h)

end

theorem Leads.guest_from (h : Leads s p q) (hs : q.guest = some slot) :
    (∃ id, s.slots.lookup id = some slot ∧ slot.phase = .bound) ∨
      ∃ slot₀, p.guest = some slot₀ ∧ slot.id = slot₀.id ∧ slot.owner = slot₀.owner := by
  cases h with
  | findsGuest guestIP hl hb =>
    cases hs
    exact .inl ⟨_, hl, (of_decide_eq_true hb).1⟩
  | applied slot₀ =>
    cases hs
    exact .inr ⟨slot₀, rfl, rfl, rfl⟩
  | absent _ _ hq | stuck _ hq =>
    rw [Cont.mem_next hq, Cont.after_guest] at hs
    cases hs
  | _ => cases hs

theorem Turn.guest_from (turn : Turn cfg s p c s' ps) (hq : q ∈ ps) (hs : q.guest = some slot) :
    s' = s ∧ Leads s p q := by
  have hn : ∀ {k : Cont} {ok : Bool}, q ∈ k.next ok → False := by
    intro k ok he
    rw [Cont.mem_next he, Cont.after_guest] at hs
    cases hs
  cases turn with
  | glances c hp hps => exact ⟨rfl, hps q hq⟩
  | inserts hps =>
    rw [(hps q hq).1] at hs
    cases hs
  | returns | binds | strands | guests => cases hq
  | misses | lingers | forgets => exact (hn hq).elim
  | unreserves slot more hps =>
    rw [hps q hq] at hs
    cases hs
  | discards slot raced ok hq0 =>
    rcases hq0 with rfl | rfl <;> cases mem_singleton.mp hq <;> cases hs
  | _ =>
    cases mem_singleton.mp hq
    cases hs

section

variable (turn : Turn cfg s p c s' ps) (hI : Ledger s) (hT : Placed s p) (hJ : Tenanted s)
  (hH : Held s p) (hG : SavesHonestly s p c)
include turn hI hT hJ hH hG

theorem Turn.tenanted : Tenanted s' := by
  have hg := (turn.grows hI hT hG.1).given
  have he : ∀ {gone id : String} {slot : Slot}, (s.slots.erase gone).lookup id = some slot →
      Agrees s id slot := fun hl => hJ.slots (lookup_erase_cases hl).2
  have hc : ∀ {slot : Slot}, p.prep = some slot → FileAgrees s slot.id slot :=
    fun hs => ⟨fun _ => hH.prep _ hs, fun hu => absurd (hT.prep _ hs).2.1 hu⟩
  cases turn with
  | @inserts loaded =>
    refine hJ.keep rfl ?_ hJ.files hg
    intro id slot hl
    rcases lookup_insertStored hl with hold | ⟨hm, rfl⟩
    · exact hJ.slots hold
    · exact .file (hJ.files (hT.stored loaded rfl hG.1 slot hm))
  | @binds id slot owner found hd hn hk =>
    have hv := hJ.saved (slot.boundBy owner) nofun (hI.given_of_lookup hk).2.1
    exact ⟨hv.slots, hv.files, hv.given⟩
  | strands | misses =>
    cases not_effective hG.2
    exact hJ.keep rfl hJ.slots hJ.files hg
  | @guests applied current w =>
    have ho := hH.guest applied rfl
    have hp := (hT.guest applied rfl).1
    have ha : FileAgrees s applied.id applied :=
      ⟨fun h => absurd (hp.symm.trans h) (by decide), fun _ => ho⟩
    have hsm := save_recorded w (.inr ho)
    exact hJ.keep hsm (hJ.slots_put (.file ha)) (hJ.files_save ha w) hg
  | @marks id slot k hk => exact hJ.saved slot.marked nofun (hI.given_of_lookup hk).2.1
  | deletes | lingers | drops => exact hJ.keep rfl hJ.slots hJ.files_delete hg
  | forgets | unreserves => exact hJ.keep rfl he hJ.files hg
  | @reserves id ip =>
    have ha : Agrees s (cfg.newSlot id ip).marked.id (cfg.newSlot id ip).marked := ⟨nofun, nofun⟩
    exact hJ.keep rfl (hJ.slots_put ha) hJ.files hg
  | saves slot =>
    exact hJ.keep (save_recorded .ok (.inl (hT.prep slot rfl).2.1)) hJ.slots
      (hJ.files_save (hc rfl) .ok) hg
  | unsaved slot effective =>
    exact hJ.keep (save_recorded (.failed effective) (.inl (hT.prep slot rfl).2.1)) hJ.slots
      (hJ.files_save (hc rfl) _) hg
  | publishes => exact hJ.keep rfl (hJ.slots_put (.file (hc rfl))) hJ.files hg
  | _ => exact hJ.keep rfl hJ.slots hJ.files hg

theorem Turn.held : ∀ q ∈ ps, Held s' q := by
  refine fun q hq => ⟨fun slot hs => ?_, fun slot hs => ?_⟩
  · obtain ⟨rfl, he⟩ := turn.guest_from hq hs
    obtain ⟨id, hl, hb⟩ | ⟨slot₀, hg, hi, ho⟩ := he.guest_from hs
    · rw [(hI.slots_given hl).1]
      exact (hJ.slots hl).2 hb
    · rw [hi, ho]
      exact hH.guest slot₀ hg
  · obtain ⟨hp, -⟩ | ⟨id, _, rfl, rfl, rfl, rfl, -⟩ := turn.prep_from hq hs
    · rw [turn.persisted_eq hI hT hJ hH hG ?_]
      · exact hH.prep slot hp
      · intro _ hl hc
        exact hI.not_preparing hl (by rw [hc]; decide) (hT.prep slot hp).1
    · -- nothing was ever saved under a new ID
      have hf : id ∉ s.given := hG.1
      by_contra hse
      obtain ⟨_, ho⟩ := ne_none_iff_exists'.mp hse
      exact hf (hJ.given ho)

end

theorem tenancy_extension (cfg : Config) :
    System.Extension (manager cfg) SavesHonestly Ledger Placed Apart Tenanted Held where
  entry_holds e _ _ := by
    refine ⟨fun slot h => ?_, fun slot h => ?_⟩ <;> cases e <;> cases h
  local_step := by
    intro s s' p c ps hI hT hJ hH hG ha
    have turn := advance_turn ha
    exact ⟨turn.tenanted hI hT hJ hH hG, turn.held hI hT hJ hH hG⟩
  frame_step := by
    intro s s' p q c ps hI hT hU _ hJ hH hK hG ha
    have turn := advance_turn ha
    refine ⟨fun slot hs => ?_, fun slot hs => ?_⟩
    · exact turn.persisted_some hI hT hJ hH hG (hK.guest slot hs)
    rw [turn.persisted_eq hI hT hJ hH hG ?_]
    · exact hK.prep slot hs
    · intro _ hl hc
      exact hI.not_preparing hl (by rw [hc]; decide) (hU.prep slot hs).1

end Tenancy

theorem tenancy_outline (cfg : Config) :
    System.Outline (manager cfg) SavesHonestly (fun s => Ledger s ∧ Tenanted s)
      (fun s p => Placed s p ∧ Held s p) Apart :=
  (ledger_outline cfg).extend (fun _ _ _ hG => hG.1) (tenancy_extension cfg)

theorem tenanted_start (files : StringMap Slot) : Tenanted (.start files) where
  slots hl := by
    cases hl
  files {id file} hl := by
    have hf : files.lookup id = some file := hl
    unfold FileAgrees State.start
    dsimp only
    rw [hf, bind_some]
    exact ⟨fun hc => if_pos hc, fun hu => if_neg hu⟩
  given {id owner} h := by
    obtain ⟨file, hf, -⟩ := bind_eq_some_iff.mp h
    exact Finmap.mem_keys.mpr (Finmap.mem_of_lookup_eq_some hf)

theorem Tenanted.reset {s : State} (hJ : Tenanted s) : Tenanted s.reset where
  slots hl := by
    cases hl
  files hl := hJ.files hl
  given h := hJ.given h

abbrev Honest (cfg : Config) : Process State → Job Place Call → Choice → Prop :=
  (manager cfg).OnJobs SavesHonestly fun _ => True

/-- **A used slot stays used**: once its file is Bound or Destroying, it is never Clean again, and
`Acquire` returns it to no owner but the one it was saved under. -/
theorem used_slot_not_reused {cfg : Config} {files : StringMap Slot}
    (hfiles : ∀ {id : String} {slot : Slot}, files.lookup id = some slot → slot.id = id)
    {w₁ w₂ : World (Process State) (Job Place Call)}
    (h₁ : (system cfg).Reaches (Honest cfg) (boot files) w₁)
    (h₂ : (system cfg).Reaches (Honest cfg) w₁ w₂) {id : String} {file : Slot}
    (hfile : w₁.shared.memory.files.lookup id = some file) (hphase : file.phase ≠ .clean) :
    (∀ slot, w₂.shared.memory.slots.lookup id = some slot → slot.phase ≠ .clean) ∧
    (∀ file', w₂.shared.memory.files.lookup id = some file' → file'.phase ≠ .clean) ∧
    ∀ {ev : Event (Option Call) Choice} {w₃ : World (Process State) (Job Place Call)},
      System.Allowed (Honest cfg) w₂ ev → (system cfg).step w₂ ev = some w₃ →
      ∀ {owner : Owner} {slot : Slot},
        w₃.shared.memory.answers = w₂.shared.memory.answers ++ [(owner, slot)] → slot.id = id →
        owner = file.owner := by
  have he : ∀ {s : State}, True → Ledger s ∧ Tenanted s → Ledger s.reset ∧ Tenanted s.reset :=
    fun _ hI => ⟨hI.1.reset, hI.2.reset⟩
  have hw₁ := holds_of_reaches (tenancy_outline cfg) he
    ⟨ledger_start hfiles, tenanted_start files⟩ h₁
  have hw₂ := ((tenancy_outline cfg).restarting he).reaches hw₁ h₂
  have hJ := hw₂.inv.2
  have hr : w₂.shared.memory.persisted id = some file.owner := by
    have hh : ∀ {s : State}, True → Ledger s ∧ Tenanted s → s.persisted id = some file.owner →
        s.reset.persisted id = some file.owner := fun _ _ h => h
    refine (tenancy_outline cfg).keeps_restarting (J := fun s => s.persisted id = some file.owner)
      he ?_ hh hw₁ ((hw₁.inv.2.files hfile).2 hphase) h₂
    intro s _ p c ps hI hT hs hG hd
    exact (advance_turn hd).persisted_some hI.1 hT.1 hI.2 hT.2 hG hs
  refine ⟨fun slot hl hc => ?_, fun file' hl hc => ?_, fun ha hs owner slot hn hi => ?_⟩
  · rw [(hJ.slots hl).1 hc] at hr
    cases hr
  · rw [(hJ.files hl).1 hc] at hr
    cases hr
  obtain hm | hm | ⟨p, c, ps, hd, -, -⟩ := step_cases (tenancy_outline cfg) hw₂ ha hs
  · rw [hm] at hn
    simp at hn
  · rw [hm] at hn
    simp [State.reset] at hn
  obtain hm | ⟨_, _, w, key, _, _, -, -, hl, hre, hn', hca⟩ := (advance_turn hd).answers
  · rw [hm] at hn
    simp at hn
  rw [hn'] at hn
  have ht := append_cancel_left hn
  cases ht
  have hk : key = id := by rw [← hi, hre, (hw₂.inv.1.slots_given hl).1]
  subst hk
  rcases hca with ⟨hb, ho⟩ | hc
  · have how := (hJ.slots hl).2 hb
    rw [hr, ho] at how
    exact (Option.some.inj how).symm
  · rw [(hJ.slots hl).1 hc] at hr
    cases hr

def storedBound : StringMap Slot :=
  (∅ : StringMap Slot).insert "a" ((sampleSlot "a" 0xac1e0002).boundBy (sampleOwner "u"))

/-- A Fastlet that crashes, loads the slot of its Sandbox again and returns it to that Sandbox. -/
theorem reloaded_slot_kept : ∃ w₂,
    (system samplePod).Reaches (Honest samplePod) (boot storedBound) w₂ ∧
    (∃ slot, w₂.shared.memory.answers = [(sampleOwner "u", slot)] ∧ slot.id = "a") ∧
    ∀ slot, w₂.shared.memory.slots.lookup "a" = some slot → slot.phase ≠ .clean := by
  obtain ⟨w₂, hr, ht⟩ := System.exists_reaches_of_runMeeting
    (S := system samplePod) (G := Honest samplePod) (w := boot storedBound)
    ([.spawn none, .run 0 .go] ++
      loading [(sampleSlot "a" 0xac1e0002).boundBy (sampleOwner "u")] ++
      [.spawn (some (.acquire (sampleOwner "u"))), .run 1 (.acquired (some "a") .ok)])
    (fun w => w.shared.memory.answers == [(sampleOwner "u",
      (sampleSlot "a" 0xac1e0002).boundBy (sampleOwner "u"))]) (by decide)
  have hf : ∀ {id : String} {slot : Slot}, storedBound.lookup id = some slot → slot.id = id := by
    intro id slot hl
    obtain ⟨rfl, rfl⟩ | ⟨-, hl⟩ := lookup_insert_cases hl
    · rfl
    · cases hl
  have ho : (boot storedBound).shared.memory.files.lookup "a" =
      some ((sampleSlot "a" 0xac1e0002).boundBy (sampleOwner "u")) := Finmap.lookup_insert _
  have hk := used_slot_not_reused hf .refl hr ho nofun
  exact ⟨w₂, hr, ⟨_, eq_of_beq ht, rfl⟩, hk.1⟩

/-- A save of `Acquire` that fails after the rename leaves the file Bound to one Sandbox and the
slot Clean in memory; the next Sandbox gets it. -/
theorem failed_save_shares_namespace : ∃ w₁ w₂,
    (system samplePod).Reaches System.anyStep (boot storedOne) w₁ ∧
    (system samplePod).Reaches System.anyStep w₁ w₂ ∧
    (∃ file, w₁.shared.memory.files.lookup "a" = some file ∧ file.phase = .bound ∧
      file.owner = sampleOwner "u") ∧
    ∃ slot, w₂.shared.memory.answers = [(sampleOwner "v", slot)] ∧ slot.id = "a" := by
  obtain ⟨w₁, w₂, h₁, h₂, ht⟩ := System.exists_reaches_of_runs
    (S := system samplePod) (w := boot storedOne)
    (loading [sampleSlot "a" 0xac1e0002] ++
      [.spawn (some (.acquire (sampleOwner "u"))), .run 1 (.acquired none (.failed true))])
    [.spawn (some (.acquire (sampleOwner "v"))), .run 1 (.acquired none .ok)]
    (fun w₁ w₂ => decide (w₁.shared.memory.files.lookup "a" =
        some ((sampleSlot "a" 0xac1e0002).boundBy (sampleOwner "u")) ∧
      w₂.shared.memory.answers =
        [(sampleOwner "v", (sampleSlot "a" 0xac1e0002).boundBy (sampleOwner "v"))])) (by decide)
  obtain ⟨hf, ha⟩ := of_decide_eq_true ht
  exact ⟨w₁, w₂, h₁, h₂, ⟨_, hf, rfl, rfl⟩, _, ha, rfl⟩

end FastSandbox.Network
