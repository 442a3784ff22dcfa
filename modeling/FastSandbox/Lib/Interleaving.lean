import Mathlib.Data.List.Basic

/-!
# Interleaved tasks over shared state

A system runs any number of tasks over one shared state. A task is the point at which a call
stands between two critical sections; advancing it executes the next section, and returns the
new shared state together with the tasks that replace it: its own continuation, and whatever the
section started. `System.step` advances one task, so a run is an arbitrary interleaving.

`Outline` is the proof rule used for such systems: an invariant `I` of the shared state, an
assertion `T` attached to every task, and a symmetric relation `C` between the tasks that may
coexist. Each section is checked once for itself and once against an arbitrary other task.
-/

namespace Interleaving

open List Option

variable {σ τ ε χ : Type*}

/-- The sections of a system. `entry` is the task a new call starts as; `χ` is what the
environment decides when a section runs, such as the answer of a remote call. -/
structure System (σ τ ε χ : Type*) where
  entry : ε → τ
  advance : σ → τ → χ → Option (σ × List τ)

/-- The shared state and the tasks in flight. -/
structure World (σ τ : Type*) where
  shared : σ
  tasks : List τ

/-- One step of a run: a new call, or the next section of the `i`-th task. -/
inductive Event (ε χ : Type*)
  | spawn (e : ε)
  | run (i : ℕ) (c : χ)

/-- The same event among the calls and choices of a larger system. -/
def Event.map {ε' χ' : Type*} (f : ε → ε') (g : χ → χ') : Event ε χ → Event ε' χ'
  | .spawn e => .spawn (f e)
  | .run i c => .run i (g c)

namespace System

variable (S : System σ τ ε χ)

/-- Execute one event. A task's continuation keeps its place in the list. -/
def step (w : World σ τ) : Event ε χ → Option (World σ τ)
  | .spawn e => some { w with tasks := w.tasks ++ [S.entry e] }
  | .run i c =>
    match w.tasks[i]? with
    | none => none
    | some t =>
      match S.advance w.shared t c with
      | none => none
      | some (s', ts) => some ⟨s', w.tasks.take i ++ ts ++ w.tasks.drop (i + 1)⟩

/-- Execute a list of events, failing at the first one that is not enabled. -/
def run : World σ τ → List (Event ε χ) → Option (World σ τ)
  | w, [] => some w
  | w, ev :: evs => (S.step w ev).bind fun w' => run w' evs

/-- The event's section meets the condition `G` on the state before it. -/
def Allowed (G : σ → τ → χ → Prop) (w : World σ τ) : Event ε χ → Prop
  | .spawn _ => True
  | .run i c => ∀ t, w.tasks[i]? = some t → G w.shared t c

/-- `S.Reaches G w w'`: some run from `w`, each of whose steps meets `G`, ends in `w'`. -/
inductive Reaches (G : σ → τ → χ → Prop) (w : World σ τ) : World σ τ → Prop
  | refl : Reaches G w w
  | tail {w1 w2 : World σ τ} {ev : Event ε χ} : Reaches G w w1 → Allowed G w1 ev →
      S.step w1 ev = some w2 → Reaches G w w2

/-- The condition that every step meets. -/
def anyStep : σ → τ → χ → Prop := fun _ _ _ => True

variable {S} {G : σ → τ → χ → Prop} {w w' w1 w2 : World σ τ}

theorem Reaches.trans {w0 : World σ τ} (h0 : S.Reaches G w0 w1) (h1 : S.Reaches G w1 w2) :
    S.Reaches G w0 w2 := by
  induction h1 with
  | refl => exact h0
  | tail _ ha hs ih => exact ih.tail ha hs

variable {i : ℕ} {c : χ}

theorem Reaches.run {t : τ} (h : S.Reaches G w w1) (ht : w1.tasks[i]? = some t)
    (hG : G w1.shared t c) (hs : S.step w1 (.run i c) = some w2) : S.Reaches G w w2 := by
  have ha : Allowed G w1 (.run (ε := ε) i c) := by
    intro _ ht'
    rw [ht] at ht'
    cases ht'
    exact hG
  exact h.tail ha hs

theorem Reaches.mono {G' : σ → τ → χ → Prop} (hG : ∀ s t c, G s t c → G' s t c)
    (h : S.Reaches G w w') : S.Reaches G' w w' := by
  induction h with
  | refl => exact .refl
  | @tail w1 w2 ev _ ha hs ih =>
    refine ih.tail ?_ hs
    cases ev with
    | spawn e => trivial
    | run i c => exact fun t ht => hG _ _ _ (ha t ht)

theorem allowed_anyStep (w : World σ τ) (ev : Event ε χ) : Allowed anyStep w ev := by
  cases ev with
  | spawn => trivial
  | run => exact fun _ _ => trivial

variable {evs : List (Event ε χ)}

theorem reaches_of_run (h : S.run w evs = some w') : S.Reaches anyStep w w' := by
  induction evs generalizing w with
  | nil =>
    cases h
    exact .refl
  | cons ev evs ih =>
    obtain ⟨_, h1, h2⟩ := bind_eq_some_iff.mp h
    exact (Reaches.refl.tail (allowed_anyStep w ev) h1).trans (ih h2)

/-- Execute a list of events as long as each step meets a decidable condition. -/
def runMeeting (S : System σ τ ε χ) (G : σ → τ → χ → Prop) [∀ s t c, Decidable (G s t c)] :
    World σ τ → List (Event ε χ) → Option (World σ τ)
  | w, [] => some w
  | w, .spawn e :: evs => (S.step w (.spawn e)).bind fun w' => runMeeting S G w' evs
  | w, .run i c :: evs =>
    match w.tasks[i]? with
    | none => none
    | some t =>
      if G w.shared t c then (S.step w (.run i c)).bind fun w' => runMeeting S G w' evs else none

theorem reaches_of_runMeeting [∀ s t c, Decidable (G s t c)] (h : S.runMeeting G w evs = some w') :
    S.Reaches G w w' := by
  induction evs generalizing w with
  | nil =>
    cases h
    exact .refl
  | cons ev evs ih =>
    cases ev with
    | spawn e =>
      obtain ⟨w1, h1, h2⟩ := bind_eq_some_iff.mp h
      have ha : Allowed G w (.spawn (χ := χ) e) := trivial
      exact (Reaches.refl.tail ha h1).trans (ih h2)
    | run i c =>
      simp only [runMeeting] at h
      split at h
      · cases h
      rename_i t ht
      split at h
      · rename_i hG
        obtain ⟨w1, h1, h2⟩ := bind_eq_some_iff.mp h
        exact (Reaches.refl.run ht hG h1).trans (ih h2)
      · cases h

variable (evs)

theorem exists_reaches_of_runMeeting [∀ s t c, Decidable (G s t c)]
    (test : World σ τ → Bool) (h : (S.runMeeting G w evs).map test = some true) :
    ∃ w', S.Reaches G w w' ∧ test w' := by
  obtain ⟨w', hr, ht⟩ := map_eq_some_iff.mp h
  exact ⟨w', reaches_of_runMeeting hr, ht⟩

theorem exists_reaches_of_run (test : World σ τ → Bool)
    (h : (S.run w evs).map test = some true) : ∃ w', S.Reaches anyStep w w' ∧ test w' := by
  obtain ⟨w', hr, ht⟩ := map_eq_some_iff.mp h
  exact ⟨w', reaches_of_run hr, ht⟩

theorem exists_reaches_of_runs (evs1 evs2 : List (Event ε χ)) (test : World σ τ → World σ τ → Bool)
    (h : ((S.run w evs1).bind fun w1 => (S.run w1 evs2).map (test w1)) = some true) :
    ∃ w1 w2, S.Reaches anyStep w w1 ∧ S.Reaches anyStep w1 w2 ∧ test w1 w2 := by
  obtain ⟨w1, h1, h'⟩ := bind_eq_some_iff.mp h
  obtain ⟨w2, h2, ht⟩ := map_eq_some_iff.mp h'
  exact ⟨w1, w2, reaches_of_run h1, reaches_of_run h2, ht⟩

theorem exists_step_of_run (ev : Event ε χ) (test : World σ τ → World σ τ → Bool)
    (h : ((S.run w evs).bind fun w1 => (S.step w1 ev).map (test w1)) = some true) :
    ∃ w1 w2, S.Reaches anyStep w w1 ∧ S.step w1 ev = some w2 ∧ test w1 w2 := by
  obtain ⟨w1, h1, h'⟩ := bind_eq_some_iff.mp h
  obtain ⟨w2, h2, ht⟩ := map_eq_some_iff.mp h'
  exact ⟨w1, w2, reaches_of_run h1, h2, ht⟩

/-- A conditional run and one more step under the same condition, whose ends pass a test
together. -/
theorem exists_step_of_runMeeting [∀ s t c, Decidable (G s t c)] (i : ℕ)
    (c : χ) (test : World σ τ → World σ τ → Bool)
    (h : ((S.runMeeting G w evs).bind fun w1 => (S.runMeeting G w1 [.run i c]).map (test w1)) =
      some true) :
    ∃ w1 w2, S.Reaches G w w1 ∧ Allowed G w1 (.run (ε := ε) i c) ∧
      S.step w1 (.run i c) = some w2 ∧ test w1 w2 := by
  obtain ⟨w1, h1, h'⟩ := bind_eq_some_iff.mp h
  obtain ⟨w2, h2, htt⟩ := map_eq_some_iff.mp h'
  simp only [runMeeting] at h2
  split at h2
  · cases h2
  rename_i t ht
  split at h2
  · rename_i hG
    obtain ⟨_, hs, he⟩ := bind_eq_some_iff.mp h2
    cases he
    refine ⟨w1, w2, reaches_of_runMeeting h1, fun _ ht' => ?_, hs, htt⟩
    rw [ht] at ht'
    cases ht'
    exact hG
  · cases h2

theorem exists_steps_of_runMeeting [∀ s t c, Decidable (G s t c)] (evs1 : List (Event ε χ))
    (ev1 : Event ε χ) (evs2 : List (Event ε χ)) (ev2 : Event ε χ)
    (test : World σ τ → World σ τ → World σ τ → Bool)
    (h : ((S.runMeeting G w evs1).bind fun w1 => (S.step w1 ev1).bind fun w2 =>
      (S.runMeeting G w2 evs2).bind fun w3 => (S.step w3 ev2).map (test w1 w3)) = some true) :
    ∃ w1 w2 w3 w4, S.Reaches G w w1 ∧ S.step w1 ev1 = some w2 ∧ S.Reaches G w2 w3 ∧
      S.step w3 ev2 = some w4 ∧ test w1 w3 w4 := by
  obtain ⟨w1, h1, h'⟩ := bind_eq_some_iff.mp h
  obtain ⟨w2, h2, h'⟩ := bind_eq_some_iff.mp h'
  obtain ⟨w3, h3, h'⟩ := bind_eq_some_iff.mp h'
  obtain ⟨w4, h4, ht⟩ := map_eq_some_iff.mp h'
  exact ⟨w1, w2, w3, w4, reaches_of_runMeeting h1, h2, reaches_of_runMeeting h3, h4, ht⟩

/-- One executed run that fails a necessary test refutes a property of all reachable worlds. -/
theorem not_forall_reaches {P : World σ τ → Prop} (test : World σ τ → Bool)
    (hP : ∀ w, P w → test w) (w : World σ τ) (evs : List (Event ε χ))
    (h : (S.run w evs).map test = some false) : ¬ ∀ w', S.Reaches anyStep w w' → P w' := by
  intro ha
  obtain ⟨w', hr, hf⟩ := map_eq_some_iff.mp h
  have ht := hP w' (ha w' (reaches_of_run hr))
  rw [hf] at ht
  exact Bool.false_ne_true ht

theorem step_run_cases (h : S.step w (.run i c) = some w') :
    ∃ t s' ts pre post, w.tasks[i]? = some t ∧ S.advance w.shared t c = some (s', ts) ∧
      w.tasks = pre ++ t :: post ∧ w' = ⟨s', pre ++ ts ++ post⟩ := by
  simp only [step] at h
  split at h
  · cases h
  rename_i t ht
  split at h
  · cases h
  rename_i s' ts ha
  cases h
  obtain ⟨_, hg⟩ := List.getElem?_eq_some_iff.mp ht
  refine ⟨t, s', ts, w.tasks.take i, w.tasks.drop (i + 1), ht, ha, ?_, rfl⟩
  rw [← hg, getElem_cons_drop, take_append_drop]

/-! ## Proof outlines -/

/-- A proof outline. `local_step` checks a section against its own task's assertion,
`frame_step` against the assertion of any other task that may coexist with it. -/
structure Outline (S : System σ τ ε χ) (G : σ → τ → χ → Prop) (I : σ → Prop) (T : σ → τ → Prop)
    (C : τ → τ → Prop) : Prop where
  symm : ∀ {t u : τ}, C t u → C u t
  entry_holds : ∀ {s : σ} (e : ε), I s → T s (S.entry e)
  entry_compat : ∀ (e : ε) (u : τ), C (S.entry e) u
  local_step : ∀ {s s' : σ} {t : τ} {c : χ} {ts : List τ}, I s → T s t → G s t c →
    S.advance s t c = some (s', ts) → I s' ∧ (∀ t' ∈ ts, T s' t') ∧ ts.Pairwise C
  frame_step : ∀ {s s' : σ} {t u : τ} {c : χ} {ts : List τ}, I s → T s t → T s u → C t u →
    G s t c → S.advance s t c = some (s', ts) → T s' u ∧ ∀ t' ∈ ts, C t' u

/-- The invariant, every task's assertion and the pairwise compatibility of the tasks. -/
structure Holds (I : σ → Prop) (T : σ → τ → Prop) (C : τ → τ → Prop) (w : World σ τ) : Prop where
  inv : I w.shared
  task : ∀ t ∈ w.tasks, T w.shared t
  compat : w.tasks.Pairwise C

variable {I : σ → Prop} {T : σ → τ → Prop} {C : τ → τ → Prop}

/-- Before any call has been made, only the invariant is to be shown. -/
theorem Holds.start {s : σ} (h : I s) : Holds I T C ⟨s, []⟩ := ⟨h, by simp, .nil⟩

section

variable (h : Outline S G I T C) (hw : Holds I T C w)
include h hw

theorem Outline.step_run
    (ha : ∀ t, w.tasks[i]? = some t → G w.shared t c) (hs : S.step w (.run i c) = some w') :
    Holds I T C w' := by
  obtain ⟨t, s', ts, pre, post, hg, had, hta, rfl⟩ := step_run_cases hs
  obtain ⟨hn, hk, ho⟩ := hw
  have hG := ha t hg
  rw [hta] at hk ho
  have ht : T w.shared t := hk t (by simp)
  obtain ⟨he, hd, hc⟩ := pairwise_append.mp ho
  obtain ⟨htp, hp⟩ := pairwise_cons.mp hd
  obtain ⟨hn', hts, htc⟩ := h.local_step hn ht hG had
  -- every other task keeps its assertion and stays compatible with the new ones
  have hot : ∀ u, u ∈ pre ∨ u ∈ post → T s' u ∧ ∀ t' ∈ ts, C t' u := by
    intro u hu
    rcases hu with hu | hu
    · exact h.frame_step hn ht (hk u (by simp [hu])) (h.symm (hc u hu t (by simp))) hG had
    · exact h.frame_step hn ht (hk u (by simp [hu])) (htp u hu) hG had
  refine ⟨hn', ?_, ?_⟩
  · intro u hu
    simp only [mem_append] at hu
    rcases hu with (hu | hu) | hu
    · exact (hot u (.inl hu)).1
    · exact hts u hu
    · exact (hot u (.inr hu)).1
  · refine pairwise_append.mpr ⟨pairwise_append.mpr ⟨he, htc, ?_⟩, hp, ?_⟩
    · intro u hu t' ht'
      exact h.symm ((hot u (.inl hu)).2 t' ht')
    intro u hu v hv
    rcases mem_append.mp hu with hu | hu
    · exact hc u hu v (by simp [hv])
    · exact (hot v (.inr hv)).2 u hu

theorem Outline.step_spawn {e : ε} (hs : S.step w (.spawn e) = some w') : Holds I T C w' := by
  cases hs
  refine ⟨hw.inv, ?_, ?_⟩
  · intro t ht
    rcases mem_append.mp ht with ht | ht
    · exact hw.task t ht
    · rw [mem_singleton.mp ht]
      exact h.entry_holds e hw.inv
  · refine pairwise_append.mpr ⟨hw.compat, pairwise_singleton _ _, ?_⟩
    intro u _ t ht
    rw [mem_singleton.mp ht]
    exact h.symm (h.entry_compat e u)

/-- **The outline rule.** Along a run whose steps all meet `G` the outline holds in every
world reached. -/
theorem Outline.reaches (hr : S.Reaches G w w') : Holds I T C w' := by
  induction hr with
  | refl => exact hw
  | @tail w1 w2 ev _ ha hs ih =>
    cases ev with
    | spawn e => exact h.step_spawn ih hs
    | run i c => exact h.step_run ih ha hs

end

/-! ## Layered outlines -/

/-- A second outline whose checks may use the first one, `I0 T0 C0`, before the section. -/
structure Extension (S : System σ τ ε χ) (G : σ → τ → χ → Prop) (I0 : σ → Prop) (T0 : σ → τ → Prop)
    (C0 : τ → τ → Prop) (I : σ → Prop) (T : σ → τ → Prop) : Prop where
  entry_holds : ∀ {s : σ} (e : ε), I0 s → I s → T s (S.entry e)
  local_step : ∀ {s s' : σ} {t : τ} {c : χ} {ts : List τ}, I0 s → T0 s t → I s → T s t → G s t c →
    S.advance s t c = some (s', ts) → I s' ∧ ∀ t' ∈ ts, T s' t'
  frame_step : ∀ {s s' : σ} {t u : τ} {c : χ} {ts : List τ}, I0 s → T0 s t → T0 s u → C0 t u →
    I s → T s t → T s u → G s t c → S.advance s t c = some (s', ts) → T s' u

variable {G0 : σ → τ → χ → Prop} {I0 : σ → Prop} {T0 : σ → τ → Prop} {C0 : τ → τ → Prop}

section

variable (h0 : Outline S G0 I0 T0 C0) (hG : ∀ s t c, G s t c → G0 s t c)
include h0 hG

theorem Outline.extend (h : Extension S G I0 T0 C0 I T) :
    Outline S G (fun s => I0 s ∧ I s) (fun s t => T0 s t ∧ T s t) C0 where
  symm := h0.symm
  entry_holds e hI := ⟨h0.entry_holds e hI.1, h.entry_holds e hI.1 hI.2⟩
  entry_compat := h0.entry_compat
  local_step := by
    intro s s' t c ts hI hT hg ha
    obtain ⟨h1, h2, h3⟩ := h0.local_step hI.1 hT.1 (hG _ _ _ hg) ha
    obtain ⟨h4, h5⟩ := h.local_step hI.1 hT.1 hI.2 hT.2 hg ha
    exact ⟨⟨h1, h4⟩, fun t' ht' => ⟨h2 t' ht', h5 t' ht'⟩, h3⟩
  frame_step := by
    intro s s' t u c ts hI hT hU hC hg ha
    obtain ⟨h1, h2⟩ := h0.frame_step hI.1 hT.1 hU.1 hC (hG _ _ _ hg) ha
    exact ⟨⟨h1, h.frame_step hI.1 hT.1 hU.1 hC hI.2 hT.2 hU.2 hg ha⟩, h2⟩

/-- An extension that only adds to the assertions of the tasks. -/
theorem Outline.extendTasks (h : Extension S G I0 T0 C0 (fun _ => True) T) :
    Outline S G I0 (fun s t => T0 s t ∧ T s t) C0 where
  symm := h0.symm
  entry_holds e hI := ⟨h0.entry_holds e hI, h.entry_holds e hI trivial⟩
  entry_compat := h0.entry_compat
  local_step := by
    intro s _ t c _ hI hT hg ha
    obtain ⟨⟨hI', -⟩, ht, hC⟩ := (h0.extend hG h).local_step ⟨hI, trivial⟩ hT hg ha
    exact ⟨hI', ht, hC⟩
  frame_step hI hT hU hC hg ha := (h0.extend hG h).frame_step ⟨hI, trivial⟩ hT hU hC hg ha

/-- An extension that also restricts which tasks may coexist. -/
structure Layer (S : System σ τ ε χ) (G : σ → τ → χ → Prop) (I0 : σ → Prop) (T0 : σ → τ → Prop)
    (C0 : τ → τ → Prop) (T : σ → τ → Prop) (C : τ → τ → Prop) : Prop where
  symm : ∀ {t u : τ}, C t u → C u t
  entry_holds : ∀ {s : σ} (e : ε), I0 s → T s (S.entry e)
  entry_compat : ∀ (e : ε) (u : τ), C (S.entry e) u
  local_step : ∀ {s s' : σ} {t : τ} {c : χ} {ts : List τ}, I0 s → T0 s t → T s t → G s t c →
    S.advance s t c = some (s', ts) → (∀ t' ∈ ts, T s' t') ∧ ts.Pairwise C
  frame_step : ∀ {s s' : σ} {t u : τ} {c : χ} {ts : List τ}, I0 s → T0 s t → T0 s u → C0 t u →
    T s t → T s u → C t u → G s t c → S.advance s t c = some (s', ts) → T s' u ∧ ∀ t' ∈ ts, C t' u

theorem Outline.layer (h : Layer S G I0 T0 C0 T C) :
    Outline S G I0 (fun s t => T0 s t ∧ T s t) (fun t u => C0 t u ∧ C t u) where
  symm hC := ⟨h0.symm hC.1, h.symm hC.2⟩
  entry_holds e hI := ⟨h0.entry_holds e hI, h.entry_holds e hI⟩
  entry_compat e u := ⟨h0.entry_compat e u, h.entry_compat e u⟩
  local_step := by
    intro s s' t c ts hI hT hg ha
    obtain ⟨h1, h2, h3⟩ := h0.local_step hI hT.1 (hG _ _ _ hg) ha
    obtain ⟨h4, h5⟩ := h.local_step hI hT.1 hT.2 hg ha
    exact ⟨h1, fun t' ht' => ⟨h2 t' ht', h4 t' ht'⟩, h3.and h5⟩
  frame_step := by
    intro s s' t u c ts hI hT hU hC hg ha
    obtain ⟨h1, h2⟩ := h0.frame_step hI hT.1 hU.1 hC.1 (hG _ _ _ hg) ha
    obtain ⟨h3, h4⟩ := h.frame_step hI hT.1 hU.1 hC.1 hT.2 hU.2 hC.2 hg ha
    exact ⟨⟨h1, h3⟩, fun t' ht' => ⟨h2 t' ht', h4 t' ht'⟩⟩

end

/-- A property of the shared state alone: under an outline, one check per section makes it an
invariant of the run. -/
theorem Outline.keeps {J : σ → Prop} (h : Outline S G0 I T C) (hG : ∀ s t c, G s t c → G0 s t c)
    (hJ : ∀ {s s' : σ} {t : τ} {c : χ} {ts : List τ}, I s → T s t → J s → G s t c →
      S.advance s t c = some (s', ts) → J s')
    (hw : Holds I T C w) (hj : J w.shared) (hr : S.Reaches G w w') : J w'.shared := by
  have he : Extension S G I T C J (fun _ _ => True) := {
    entry_holds := fun _ _ _ => trivial
    local_step := fun hI hT hs _ hg ha => ⟨hJ hI hT hs hg ha, fun _ _ => trivial⟩
    frame_step := fun _ _ _ _ _ _ _ _ _ => trivial }
  have hw' : Holds (fun s => I s ∧ J s) (fun s t => T s t ∧ True) C w :=
    ⟨⟨hw.inv, hj⟩, fun t ht => ⟨hw.task t ht, trivial⟩, hw.compat⟩
  exact ((h.extend hG he).reaches hw' hr).inv.2

/-! ## A component beside the shared state -/

/-- The system with a second component of the shared state, which every section updates beside its
own work. The environment also decides the `δ` of a section, such as the time that has passed. -/
def alongside {κ δ : Type*} (S : System σ τ ε χ) (effect : κ → σ → τ → χ → δ → κ) :
    System (σ × κ) τ ε (χ × δ) where
  entry := S.entry
  advance s t c := (S.advance s.1 t c.1).map fun out => ((out.1, effect s.2 s.1 t c.1 c.2), out.2)

section

variable {κ δ : Type*} {effect : κ → σ → τ → χ → δ → κ}

theorem alongside_advance {s s' : σ × κ} {t : τ} {c : χ × δ} {ts : List τ}
    (h : (S.alongside effect).advance s t c = some (s', ts)) :
    S.advance s.1 t c.1 = some (s'.1, ts) ∧ s'.2 = effect s.2 s.1 t c.1 c.2 := by
  obtain ⟨_, ha, heq⟩ := map_eq_some_iff.mp h
  cases heq
  exact ⟨ha, rfl⟩

theorem Outline.alongside {G' : σ × κ → τ → χ × δ → Prop} (h : Outline S G I T C)
    (hG : ∀ s t c, G' s t c → G s.1 t c.1) :
    Outline (S.alongside effect) G' (fun s => I s.1) (fun s t => T s.1 t) C where
  symm := h.symm
  entry_holds e hI := h.entry_holds e hI
  entry_compat := h.entry_compat
  local_step hI hT hg ha := h.local_step hI hT (hG _ _ _ hg) (alongside_advance ha).1
  frame_step hI hT hU hC hg ha := h.frame_step hI hT hU hC (hG _ _ _ hg) (alongside_advance ha).1

end

/-! ## A second system beside the first -/

/-- A second system that runs beside the first: its sections read the first one's shared state and
change only their own. -/
def beside {κ τ' ε' χ' : Type*} (S : System σ τ ε χ) (entry : ε' → τ')
    (advance : σ → κ → τ' → χ' → Option (κ × List τ')) :
    System (σ × κ) (τ ⊕ τ') (ε ⊕ ε') (χ ⊕ χ') where
  entry := Sum.map S.entry entry
  advance s t c :=
    match t, c with
    | .inl t, .inl c => (S.advance s.1 t c).map fun out => ((out.1, s.2), out.2.map .inl)
    | .inr t, .inr c => (advance s.1 s.2 t c).map fun out => ((s.1, out.1), out.2.map .inr)
    | _, _ => none

section

variable {κ τ' ε' χ' : Type*} {entry : ε' → τ'} {advance : σ → κ → τ' → χ' → Option (κ × List τ')}

theorem beside_advance {s s' : σ × κ} {t : τ ⊕ τ'} {c : χ ⊕ χ'} {ts : List (τ ⊕ τ')}
    (h : (S.beside entry advance).advance s t c = some (s', ts)) :
    (∃ t1 c1 ts1, t = .inl t1 ∧ c = .inl c1 ∧ S.advance s.1 t1 c1 = some (s'.1, ts1) ∧
        s'.2 = s.2 ∧ ts = ts1.map .inl) ∨
      ∃ t2 c2 ts2, t = .inr t2 ∧ c = .inr c2 ∧ advance s.1 s.2 t2 c2 = some (s'.2, ts2) ∧
        s'.1 = s.1 ∧ ts = ts2.map .inr := by
  rcases t with t | t <;> rcases c with c | c
  · obtain ⟨⟨m, ts1⟩, ha, heq⟩ := map_eq_some_iff.mp h
    cases heq
    exact .inl ⟨t, c, ts1, rfl, rfl, ha, rfl, rfl⟩
  · cases h
  · cases h
  · obtain ⟨⟨k, ts2⟩, ha, heq⟩ := map_eq_some_iff.mp h
    cases heq
    exact .inr ⟨t, c, ts2, rfl, rfl, ha, rfl, rfl⟩

/-- The assertion of a task of the second system. -/
def onSecond (T : κ → τ' → Prop) (s : σ × κ) : τ ⊕ τ' → Prop
  | .inl _ => True
  | .inr t => T s.2 t

/-- Which tasks of the second system may coexist. -/
def amongSecond (C : τ' → τ' → Prop) : τ ⊕ τ' → τ ⊕ τ' → Prop
  | .inr t, .inr u => C t u
  | _, _ => True

theorem Outline.beside {G2 : σ → κ → τ' → χ' → Prop} {G' : σ × κ → τ ⊕ τ' → χ ⊕ χ' → Prop}
    {J : κ → Prop} {T2 : κ → τ' → Prop} {C2 : τ' → τ' → Prop}
    (h : ∀ s, Outline ⟨entry, advance s⟩ (G2 s) J T2 C2)
    (hG : ∀ s t c, G' s (.inr t) (.inr c) → G2 s.1 s.2 t c) (s0 : σ) :
    Outline (S.beside entry advance) G' (fun s => J s.2) (onSecond T2) (amongSecond C2) where
  symm := by
    intro t u hC
    rcases t with t | t <;> rcases u with u | u
    all_goals first | trivial | exact (h s0).symm hC
  entry_holds := by
    intro s e hJ
    rcases e with e | e
    · trivial
    · exact (h s.1).entry_holds e hJ
  entry_compat := by
    intro e u
    rcases e with e | e <;> rcases u with u | u
    all_goals first | trivial | exact (h s0).entry_compat e u
  local_step := by
    intro s s' t c ts hJ hT hg hd
    obtain ⟨t1, c1, ts1, rfl, rfl, -, hs, rfl⟩ | ⟨t2, c2, ts2, rfl, rfl, ha2, -, rfl⟩ :=
      beside_advance hd
    · refine ⟨by rw [hs]; exact hJ, ?_, ?_⟩
      · intro t' ht'
        obtain ⟨t'', -, rfl⟩ := mem_map.mp ht'
        trivial
      · exact pairwise_map.mpr (pairwise_of_forall fun _ _ => trivial)
    · obtain ⟨hJ', hts, hC⟩ := (h s.1).local_step hJ hT (hG _ _ _ hg) ha2
      refine ⟨hJ', ?_, pairwise_map.mpr hC⟩
      intro t' ht'
      obtain ⟨t'', ht'', rfl⟩ := mem_map.mp ht'
      exact hts t'' ht''
  frame_step := by
    intro s s' t u c ts hJ hT hU hC hg hd
    obtain ⟨t1, c1, ts1, rfl, rfl, -, hs, rfl⟩ | ⟨t2, c2, ts2, rfl, rfl, ha2, -, rfl⟩ :=
      beside_advance hd
    · refine ⟨?_, ?_⟩
      · rcases u with u | u
        · trivial
        · change T2 s'.2 u
          rw [hs]
          exact hU
      · intro t' ht'
        obtain ⟨t'', -, rfl⟩ := mem_map.mp ht'
        trivial
    · rcases u with u | u
      · refine ⟨trivial, ?_⟩
        intro t' ht'
        obtain ⟨t'', -, rfl⟩ := mem_map.mp ht'
        trivial
      · obtain ⟨hU', hts⟩ := (h s.1).frame_step hJ hT hU hC (hG _ _ _ hg) ha2
        refine ⟨hU', ?_⟩
        intro t' ht'
        obtain ⟨t'', ht'', rfl⟩ := mem_map.mp ht'
        exact hts t'' ht''

end

end System

end Interleaving
