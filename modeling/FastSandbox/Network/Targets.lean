import FastSandbox.Network.Slots

/-!
# Who may destroy which slot

`Reconcile` and `Release` pick their targets among slots that have an owner, and `Initialize`
among those it loaded, so none of them ever touches the slot under preparation. Only `Close` does,
which takes whatever is in the map; but it has then told every preparation to discard its slot.
`Release` must be called for a Sandbox: the reserved slot has an empty owner.
-/

namespace FastSandbox.Network

open Interleaving Cont List

def Cont.closes : Cont → Bool
  | close _ => true
  | _ => false

/-- The call is `Close`, after its first section. -/
def Place.closes : Place → Bool
  | mark _ k | readSlot _ k | destroying _ k | deleteFile _ k | forget _ k => k.closes
  | closeSnapshot | closing _ => true
  | _ => false

/-- `Release` names a Sandbox. -/
def Named (s : State) (p : Place) (c : Choice) : Prop :=
  Orderly s p c ∧
    match p with
    | .findTarget owner => owner.sandboxUID ≠ ""
    | _ => True

instance (s : State) (p : Place) (c : Choice) : Decidable (Named s p c) := by
  unfold Named
  split <;> infer_instance

/-- Only `Close` may destroy the slot under preparation. -/
structure Clear (s : State) (p : Place) : Prop where
  closed : p.closes → s.closed
  targets : p.closes = false → ∀ id ∈ p.targets, s.preparing ≠ some id

section Targets

variable {cfg : Config} {s s' : State} {p q : Place} {c : Choice} {ps : List Place}

theorem Cont.after_closes (k : Cont) : k.after.closes = k.closes := by
  cases k <;> rfl

theorem Leads.closes (h : Leads s p q) : q.closes = p.closes := by
  cases h with
  | absent hp _ hq =>
    rw [mem_next hq, after_closes]
    rcases hp with rfl | rfl <;> rfl
  | stuck _ hq =>
    rw [mem_next hq, after_closes]
    rfl
  | _ => rfl

section

variable (turn : Turn cfg s p c s' ps)
include turn

theorem Turn.closes_eq (hq : q ∈ ps) : q.closes = p.closes ∨ s'.closed ∧ q.targets = ∅ := by
  have hn : ∀ {k : Cont} {ok : Bool}, q ∈ k.next ok → q.closes = k.closes := by
    intro k ok he
    rw [mem_next he, after_closes]
  cases turn with
  | glances c hp hs => exact .inl (hs q hq).closes
  | inserts hs =>
    rw [(hs q hq).1]
    exact .inl rfl
  | returns | binds | strands | guests => cases hq
  | misses | lingers | forgets => exact .inl (hn hq)
  | unreserves slot more hs =>
    rw [hs q hq]
    exact .inl rfl
  | discards slot raced ok hq0 =>
    rcases hq0 with rfl | rfl <;> cases mem_singleton.mp hq <;> exact .inl rfl
  | closes =>
    cases mem_singleton.mp hq
    exact .inr ⟨rfl, rfl⟩
  | _ =>
    cases mem_singleton.mp hq
    exact .inl rfl

theorem Turn.closed (h : s.closed) : s'.closed := by
  cases turn with
  | closes => rfl
  | _ => exact h

/-- A call adds a target only by finding it in the map, or by loading it into a new manager. -/
theorem Turn.targets (hI : Ledger s) (hG : Orderly s p c) (hq : q ∈ ps) {id : String}
    (hi : id ∈ q.targets) : id ∈ p.targets ∨ Found s p id ∨ s'.preparing = none := by
  have hn : ∀ {k : Cont} {ok : Bool}, q ∈ k.next ok → id ∈ k.targets := by
    intro k ok he
    rw [mem_next he, after_targets] at hi
    exact hi
  cases turn with
  | glances c hp hs => exact (hs q hq).targets hI hi |>.imp_right .inl
  | inserts => exact .inr (.inr (hI.unused hG).2.1)
  | returns | binds | strands | guests => cases hq
  | misses | lingers | forgets => exact .inl (Finset.mem_insert_of_mem (hn hq))
  | marks | destroys | deletes =>
    cases mem_singleton.mp hq
    exact .inl hi
  | tears k hl =>
    cases mem_singleton.mp hq
    rw [Place.targets, (hI.slots_given hl).1] at hi
    exact .inl hi
  | unreserves slot more hs =>
    rw [hs q hq] at hi
    cases hi
  | discards slot raced ok hq0 =>
    rcases hq0 with rfl | rfl <;> cases mem_singleton.mp hq <;> cases hi
  | _ =>
    cases mem_singleton.mp hq
    cases hi

theorem Turn.preparing_from (hG : Orderly s p c) {id : String} (h : s'.preparing = some id)
    : s.preparing = some id ∨ id ∉ s.given := by
  cases turn with
  | reserves =>
    cases h
    exact .inr hG
  | publishes | unreserves => cases h
  | _ => exact .inl h

end

theorem clear_extension (cfg : Config) :
    System.Extension (manager cfg) Named Ledger Placed Apart (fun _ => True) Clear where
  entry_holds e _ _ := by
    refine ⟨fun h => ?_, fun _ id hi => ?_⟩
    · cases e <;> cases h
    · cases e <;> cases hi
  local_step := by
    intro s s' p c ps hI hT _ hc hG ha
    have turn := advance_turn ha
    refine ⟨trivial, fun q hq => ⟨fun hl => ?_, fun hl id hi hr => ?_⟩⟩
    · rcases turn.closes_eq hq with heq | ⟨hcd, -⟩
      · exact turn.closed (hc.closed (heq ▸ hl))
      · exact hcd
    rcases turn.closes_eq hq with heq | ⟨-, he⟩
    · have hp : p.closes = false := heq ▸ hl
      rcases turn.targets hI hG.1 hq hi with hold | ⟨slot, hk, hfd⟩ | hnn
      · rcases turn.preparing_from hG.1 hr with hb | hf
        · exact hc.targets hp id hold hb
        · exact hf (hT.targets id hold).2
      · rcases turn.preparing_from hG.1 hr with hb | hf
        · obtain ⟨hh, ho⟩ := (hI.reserved hb).2 slot hk
          rcases hfd with hd | rfl | rfl
          · rw [hh] at hd
            cases hd
          · have hn : slot.owner.sandboxUID ≠ "" := hG.2
            rw [ho] at hn
            exact hn rfl
          · cases hp
        · exact hf (hI.slots_given hk).2.1
      · rw [hnn] at hr
        cases hr
    · rw [he] at hi
      cases hi
  frame_step := by
    intro s s' p q c ps hI hT hU _ _ _ hc hG ha
    have turn := advance_turn ha
    refine ⟨fun hl => turn.closed (hc.closed hl), fun hl id hi hr => ?_⟩
    rcases turn.preparing_from hG.1 hr with hb | hf
    · exact hc.targets hl id hi hb
    · exact hf (hU.targets id hi).2

theorem clear_outline (cfg : Config) :
    System.Outline (manager cfg) Named Ledger (fun s p => Placed s p ∧ Clear s p) Apart :=
  (ledger_outline cfg).extendTasks (fun _ _ _ hG => hG.1) (clear_extension cfg)

end Targets

end FastSandbox.Network
