import FastSandbox.Lib.Interleaving

/-!
# Processes that crash and start again

A system of interleaved tasks becomes one whose process may crash between any two sections. The
tasks of the crashed process never continue, what `reset` keeps of the shared state is what was
durable, and calls keep arriving at whichever process runs. An outline of the system is one of
the process too, as soon as `reset` keeps its invariant.
-/

namespace Interleaving

variable {σ τ ε χ : Type*}

/-- The shared state of the process that runs now. -/
structure Process (σ : Type*) where
  memory : σ
  incarnation : ℕ

/-- What may happen to a process: a crash, a call that arrives, or the continuation of a call
that arrived at one incarnation. -/
inductive Job (τ ε : Type*)
  | crash
  | arrival (e : ε)
  | call (incarnation : ℕ) (t : τ)

namespace System

/-- The system of the processes that follow each other. -/
def restarting (S : System σ τ ε χ) (reset : σ → σ) :
    System (Process σ) (Job τ ε) (Option ε) χ where
  entry
    | none => .crash
    | some e => .arrival e
  advance p job c :=
    let execute (t : τ) := (S.advance p.memory t c).map fun (s', ts) =>
      (({ p with memory := s' } : Process σ), ts.map (Job.call (ε := ε) p.incarnation))
    match job with
    | .crash => some ({ memory := reset p.memory, incarnation := p.incarnation + 1 }, [])
    | .arrival e => execute (S.entry e)
    | .call n t => if n = p.incarnation then execute t else none

/-- A condition on the sections, and one on the state a crash finds. -/
def OnJobs (S : System σ τ ε χ) (G : σ → τ → χ → Prop) (R : σ → Prop) :
    Process σ → Job τ ε → χ → Prop
  | p, .crash, _ => R p.memory
  | p, .arrival e, c => G p.memory (S.entry e) c
  | p, .call _ t, c => G p.memory t c

instance (S : System σ τ ε χ) (G : σ → τ → χ → Prop) (R : σ → Prop)
    [∀ s t c, Decidable (G s t c)] [DecidablePred R] (p : Process σ) (job : Job τ ε) (c : χ) :
    Decidable (S.OnJobs G R p job c) :=
  match job with
  | .crash => inferInstanceAs (Decidable (R p.memory))
  | .arrival e => inferInstanceAs (Decidable (G p.memory (S.entry e) c))
  | .call _ t => inferInstanceAs (Decidable (G p.memory t c))

/-- The assertion of a job: that of its task, if the process it belongs to still runs. -/
def JobHolds (T : σ → τ → Prop) (p : Process σ) : Job τ ε → Prop
  | .crash => True
  | .arrival _ => True
  | .call n t => n ≤ p.incarnation ∧ (n = p.incarnation → T p.memory t)

/-- Tasks of different incarnations never meet. -/
def JobsMeet (C : τ → τ → Prop) : Job τ ε → Job τ ε → Prop
  | .call n t, .call m u => n = m → C t u
  | _, _ => True

variable {S : System σ τ ε χ} {reset : σ → σ} {G : σ → τ → χ → Prop} {R I : σ → Prop}
  {T : σ → τ → Prop} {C : τ → τ → Prop} {p p' : Process σ} {job : Job τ ε} {c : χ}
  {jobs : List (Job τ ε)}

theorem restarting_cases (h : (S.restarting reset).advance p job c = some (p', jobs)) :
    (job = .crash ∧ p' = ⟨reset p.memory, p.incarnation + 1⟩ ∧ jobs = []) ∨
      ∃ t s' ts, S.advance p.memory t c = some (s', ts) ∧ p' = ⟨s', p.incarnation⟩ ∧
        jobs = ts.map (.call p.incarnation) ∧
        ((∃ e, job = .arrival e ∧ t = S.entry e) ∨ job = .call p.incarnation t) := by
  cases job with
  | crash =>
    cases h
    exact .inl ⟨rfl, rfl, rfl⟩
  | arrival e =>
    obtain ⟨⟨s', ts⟩, ha, heq⟩ := Option.map_eq_some_iff.mp h
    cases heq
    exact .inr ⟨S.entry e, s', ts, ha, rfl, rfl, .inl ⟨e, rfl, rfl⟩⟩
  | call n t =>
    simp only [restarting] at h
    split at h
    · rename_i hn
      obtain ⟨⟨s', ts⟩, ha, heq⟩ := Option.map_eq_some_iff.mp h
      cases heq
      exact .inr ⟨t, s', ts, ha, rfl, rfl, .inr (by rw [hn])⟩
    · cases h

theorem task_of_job {t : τ} (he : ∀ e, T p.memory (S.entry e))
    (hj : (∃ e, job = .arrival e ∧ t = S.entry e) ∨ job = .call p.incarnation t)
    (hT : JobHolds T p job) (hG : S.OnJobs G R p job c) : T p.memory t ∧ G p.memory t c := by
  obtain ⟨e, rfl, rfl⟩ | rfl := hj
  · exact ⟨he e, hG⟩
  · exact ⟨hT.2 rfl, hG⟩

section

variable (h : Outline S G I T C) (hrt : ∀ {s}, R s → I s → I (reset s))
include h hrt

/-- **Crashes keep an outline.** -/
theorem Outline.restarting :
    Outline (S.restarting reset) (S.OnJobs G R) (fun p => I p.memory) (JobHolds T)
      (JobsMeet C) where
  symm := by
    intro job other hC
    cases job <;> cases other <;> try trivial
    exact fun hn => h.symm (hC hn.symm)
  entry_holds e _ := by cases e <;> trivial
  entry_compat e u := by cases e <;> trivial
  local_step := by
    intro p p' job c jobs hI hT hG ha
    obtain ⟨rfl, rfl, rfl⟩ | ⟨t, s', ts, he, rfl, rfl, hj⟩ := restarting_cases ha
    · exact ⟨hrt hG hI, by simp, .nil⟩
    obtain ⟨ht, hg⟩ := task_of_job (fun e => h.entry_holds e hI) hj hT hG
    obtain ⟨hI', hs, hp⟩ := h.local_step hI ht hg he
    refine ⟨hI', ?_, hp.map _ fun t u hC _ => hC⟩
    intro job' hj'
    obtain ⟨t', ht', rfl⟩ := List.mem_map.mp hj'
    exact ⟨Nat.le_refl _, fun _ => hs t' ht'⟩
  frame_step := by
    intro p p' job other c jobs hI hT hU hC hG ha
    obtain ⟨rfl, rfl, rfl⟩ | ⟨t, s', ts, he, rfl, rfl, hj⟩ := restarting_cases ha
    · refine ⟨?_, by simp⟩
      cases other with
      | crash | arrival => trivial
      | call => exact ⟨Nat.le_succ_of_le hU.1, fun hn => absurd hU.1 (by simp [hn])⟩
    · obtain ⟨ht, hg⟩ := task_of_job (fun e => h.entry_holds e hI) hj hT hG
      cases other with
      | crash | arrival => exact ⟨trivial, fun job' hj' => by cases job' <;> trivial⟩
      | call n u =>
        have hm : n = p.incarnation → C t u := by
          intro hn
          obtain ⟨e, rfl, rfl⟩ | rfl := hj
          · exact h.entry_compat e u
          · exact hC hn.symm
        refine ⟨⟨hU.1, fun hn => ?_⟩, ?_⟩
        · exact (h.frame_step hI ht (hU.2 hn) (hm hn) hg he).1
        intro job' hj'
        obtain ⟨t', ht', rfl⟩ := List.mem_map.mp hj'
        intro hn
        exact (h.frame_step hI ht (hU.2 hn.symm) (hm hn.symm) hg he).2 t' ht'

theorem Outline.keeps_restarting {J : σ → Prop}
    (hJ : ∀ {s s' : σ} {t : τ} {c : χ} {ts : List τ}, I s → T s t → J s → G s t c →
      S.advance s t c = some (s', ts) → J s')
    (hJre : ∀ {s}, R s → I s → J s → J (reset s)) {w w' : World (Process σ) (Job τ ε)}
    (hw : Holds (fun p : Process σ => I p.memory) (JobHolds T) (JobsMeet C) w)
    (hj : J w.shared.memory) (hr : (S.restarting reset).Reaches (S.OnJobs G R) w w') :
    J w'.shared.memory := by
  refine (h.restarting hrt).keeps (J := fun p => J p.memory) (fun _ _ _ hG => hG) ?_ hw hj hr
  intro p _ _ c _ hI hT hs hG ha
  obtain ⟨rfl, rfl, rfl⟩ | ⟨t, s', ts, he, rfl, rfl, ho⟩ := restarting_cases ha
  · exact hJre hG hI hs
  · obtain ⟨ht, hg⟩ := task_of_job (fun e => h.entry_holds e hI) ho hT hG
    exact hJ hI ht hs hg he

end

end System

end Interleaving
