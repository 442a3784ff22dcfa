import FastSandbox.Lib.Interleaving

/-!
# Threads that run sequential programs

A program is a tree of calls: each node is an operation on the shared state, and its answer
decides how the program goes on. A machine says what an operation does and answers. Threads run
programs, an operation of one thread at a time; a thread may also stop at any point, and then
nothing of its program is left.

`Prog.Safe` is a program logic in the rely-guarantee style. Thread `i` relies on the others to
change the state within `R i`, and in turn stays within `R j` for every other thread `j`.
-/

namespace Threads

open Interleaving List Nat

/-! ## Programs -/

/-- A program: it returns, or performs an operation and goes on with the answer. -/
inductive Prog (Op : Type) (Ans : Op → Type) (α : Type) : Type
  | ret (a : α)
  | call (op : Op) (k : Ans op → Prog Op Ans α)

namespace Prog

variable {Op : Type} {Ans : Op → Type} {α β : Type}

def bind : Prog Op Ans α → (α → Prog Op Ans β) → Prog Op Ans β
  | ret a, f => f a
  | call op k, f => call op fun x => bind (k x) f

instance : Monad (Prog Op Ans) where
  pure := ret
  bind := bind

/-- One operation. -/
def perform (op : Op) : Prog Op Ans (Ans op) := call op ret

end Prog

/-! ## What a thread knows

A thread's view of the system is a value of `τ` that its own operations change and those of the
other threads do not. -/

/-- `step l op x l'`: the answer `x` to `op` changes the thread's view from `l` to `l'`. `P l op`
is what has to hold when the thread performs `op`. -/
structure Local (Op : Type) (Ans : Op → Type) (τ : Type) where
  step : τ → (op : Op) → Ans op → τ → Prop
  P : τ → Op → Prop

section

variable {Op τ α β : Type} {Ans : Op → Type}

/-- From the view `l` the program performs only what it may, and `Q` holds at its end. -/
def Along (L : Local Op Ans τ) : Prog Op Ans α → (τ → α → Prop) → τ → Prop
  | .ret a, Q, l => Q l a
  | .call op k, Q, l => L.P l op ∧ ∀ x l', L.step l op x l' → Along L (k x) Q l'

variable {L : Local Op Ans τ}

theorem Along.mono {p : Prog Op Ans α} {Q Q' : τ → α → Prop} {l : τ} (h : Along L p Q l)
    (hQ : ∀ l a, Q l a → Q' l a) : Along L p Q' l := by
  induction p generalizing l with
  | ret a => exact hQ l a h
  | call op k ih => exact ⟨h.1, fun x l' hs => ih x (h.2 x l' hs)⟩

theorem Along.pure {a : α} {Q : τ → α → Prop} {l : τ} (h : Q l a) : Along L (pure a) Q l := h

theorem Along.ite {c : Prop} [Decidable c] {p q : Prog Op Ans α} {Q : τ → α → Prop} {l : τ}
    (hp : c → Along L p Q l) (hq : ¬ c → Along L q Q l) : Along L (if c then p else q) Q l := by
  split
  · exact hp ‹_›
  · exact hq ‹_›

/-- **Sequencing.** -/
theorem Along.bind {p : Prog Op Ans α} {f : α → Prog Op Ans β} {Q : τ → β → Prop} {l : τ}
    (h : Along L p (fun l' a => Along L (f a) Q l') l) : Along L (p >>= f) Q l := by
  induction p generalizing l with
  | ret => exact h
  | call op k ih => exact ⟨h.1, fun x l' hs => ih x (h.2 x l' hs)⟩

end

/-! ### Remembering everything -/

/-- What a thread did and was answered, latest first. -/
abbrev History (Op : Type) (Ans : Op → Type) := List (Σ op, Ans op)

section

variable {Op α β : Type} {Ans : Op → Type}

/-- The view of a thread that remembers everything. `T l op x`: after the history `l`, `x` can be
the answer to `op`. -/
def Local.remembering (T : History Op Ans → (op : Op) → Ans op → Prop)
    (P : History Op Ans → Op → Prop) : Local Op Ans (History Op Ans) where
  step l op x l' := l' = ⟨op, x⟩ :: l ∧ T l op x
  P := P

/-- `l'` has grown out of `l` by operations with the property `R`. -/
def Added (R : Op → Prop) (l l' : History Op Ans) : Prop :=
  ∃ new, l' = new ++ l ∧ ∀ entry ∈ new, R entry.1

theorem Added.refl (R : Op → Prop) (l : History Op Ans) : Added R l l := ⟨[], rfl, forall_mem_nil _⟩

variable {R : Op → Prop} {l l' : History Op Ans}

theorem Added.cons {op : Op} (x : Ans op) (ho : R op) (h : Added R (⟨op, x⟩ :: l) l') :
    Added R l l' := by
  obtain ⟨new, rfl, hnew⟩ := h
  refine ⟨new ++ [⟨op, x⟩], by simp, fun entry he => ?_⟩
  rcases mem_append.mp he with he | he
  · exact hnew entry he
  · rw [mem_singleton.mp he]
    exact ho

theorem Added.suffix (h : Added R l l') : l <:+ l' := by
  obtain ⟨new, rfl, -⟩ := h
  exact suffix_append new l

theorem Added.mem (h : Added R l l') {entry : Σ op, Ans op} (he : entry ∈ l') :
    R entry.1 ∨ entry ∈ l := by
  obtain ⟨_, rfl, hnew⟩ := h
  exact (mem_append.mp he).imp (hnew entry) id

variable {T : History Op Ans → (op : Op) → Ans op → Prop} {P : History Op Ans → Op → Prop}
  {l : History Op Ans}

theorem Along.perform {op : Op} {Q : History Op Ans → Ans op → Prop} (hP : P l op)
    (hQ : ∀ x, T l op x → Q (⟨op, x⟩ :: l) x) :
    Along (Local.remembering T P) (Prog.perform op) Q l := by
  refine ⟨hP, fun x _ hs => ?_⟩
  obtain ⟨rfl, hx⟩ := hs
  exact hQ x hx

variable {T' : History Op Ans → (op : Op) → Ans op → Prop} {P' : History Op Ans → Op → Prop}
  {p : Prog Op Ans α} {Q : History Op Ans → α → Prop}

section

variable (h : Along (Local.remembering T P) p Q l)
include h

theorem Along.weaken (hP : ∀ l op, P l op → P' l op) (hT : ∀ l op x, T' l op x → T l op x)
    : Along (Local.remembering T' P') p Q l := by
  induction p generalizing l with
  | ret => exact h
  | call op k ih => exact ⟨hP l op h.1, fun x l' hs => ih x (h.2 x l' ⟨hs.1, hT l op x hs.2⟩)⟩

theorem Along.and {Q' : History Op Ans → α → Prop} (h' : Along (Local.remembering T' P') p Q' l) :
    Along (Local.remembering (fun l op x => T l op x ∧ T' l op x) fun l op => P l op ∧ P' l op) p
      (fun l a => Q l a ∧ Q' l a) l := by
  induction p generalizing l with
  | ret => exact ⟨h, h'⟩
  | call op k ih =>
    refine ⟨⟨h.1, h'.1⟩, fun x l' hs => ?_⟩
    obtain ⟨hl', hT, hT'⟩ := hs
    exact ih x (h.2 x l' ⟨hl', hT⟩) (h'.2 x l' ⟨hl', hT'⟩)

theorem Along.recall (hR : ∀ l op, P l op → R op) :
    Along (Local.remembering T P) p (fun l' a => Added R l l' ∧ Q l' a) l := by
  induction p generalizing l with
  | ret => exact ⟨.refl R l, h⟩
  | call op k ih =>
    refine ⟨h.1, fun x l' hs => ?_⟩
    have hk := ih x (h.2 x l' hs)
    obtain ⟨rfl, -⟩ := hs
    exact hk.mono fun _ a hl'' => ⟨hl''.1.cons x (hR l op h.1), hl''.2⟩

end

/-- **Sequencing** that keeps what was known before. -/
theorem Along.then {f : α → Prog Op Ans β} {Q' : History Op Ans → β → Prop}
    (hp : Along (Local.remembering T P) p Q l)
    (hf : ∀ l' a, l <:+ l' → Q l' a → Along (Local.remembering T P) (f a) Q' l') :
    Along (Local.remembering T P) (p >>= f) Q' l := by
  have hr := hp.recall fun _ _ _ => trivial
  exact .bind (hr.mono fun l' a h => hf l' a h.1.suffix h.2)

end

/-! ## Machines and threads -/

/-- `handle s i op c` performs an operation for thread `i`, where `c` is what the environment
decides. `leave s i` is the state once thread `i` is gone. -/
structure Machine (σ Op : Type) (Ans : Op → Type) (χ : Type) where
  handle : σ → ℕ → (op : Op) → χ → Option (σ × Ans op)
  leave : σ → ℕ → σ

/-- Run a program without any other thread, where `choose` says what the environment decides. -/
def Machine.solo {σ Op χ α : Type} {Ans : Op → Type} (M : Machine σ Op Ans χ) (choose : Op → χ)
    (i : ℕ) : σ → Prog Op Ans α → Option (σ × α)
  | s, .ret a => some (s, a)
  | s, .call op k => (M.handle s i op (choose op)).bind fun (s', x) => M.solo choose i s' (k x)

theorem Machine.solo_bind {σ Op χ α β : Type} {Ans : Op → Type} (M : Machine σ Op Ans χ)
    (choose : Op → χ) (i : ℕ) (s : σ) (p : Prog Op Ans α) (f : α → Prog Op Ans β) :
    M.solo choose i s (p >>= f) =
      (M.solo choose i s p).bind fun (s', a) => M.solo choose i s' (f a) := by
  induction p generalizing s with
  | ret => rfl
  | call op k ih =>
    show (M.handle s i op (choose op)).bind _ = ((M.handle s i op (choose op)).bind _).bind _
    cases M.handle s i op (choose op) with
    | none => rfl
    | some out => exact ih out.2 out.1

/-- The program ends, and `Q` holds of the end. -/
def Machine.Ends {σ Op χ α : Type} {Ans : Op → Type} (M : Machine σ Op Ans χ) (choose : Op → χ)
    (i : ℕ) (s : σ) (p : Prog Op Ans α) (Q : σ → α → Prop) : Prop :=
  ∃ s' a, M.solo choose i s p = some (s', a) ∧ Q s' a

section

variable {σ Op χ α β : Type} {Ans : Op → Type} {M : Machine σ Op Ans χ} {choose : Op → χ} {i : ℕ}
  {s : σ}

theorem Machine.Ends.pure {a : α} {Q : σ → α → Prop} (h : Q s a) :
    M.Ends choose i s (pure a) Q := ⟨s, a, rfl, h⟩

theorem Machine.Ends.perform {op : Op} {s' : σ} {x : Ans op} {Q : σ → Ans op → Prop}
    (h : M.handle s i op (choose op) = some (s', x)) (hQ : Q s' x) :
    M.Ends choose i s (Prog.perform op) Q := by
  refine ⟨s', x, ?_, hQ⟩
  show (M.handle s i op (choose op)).bind _ = _
  rw [h]
  rfl

theorem Machine.Ends.bind {p : Prog Op Ans α} {f : α → Prog Op Ans β} {Q : σ → β → Prop}
    (h : M.Ends choose i s p fun s' a => M.Ends choose i s' (f a) Q) :
    M.Ends choose i s (p >>= f) Q := by
  obtain ⟨s', a, hp, s'', b, hf, hQ⟩ := h
  refine ⟨s'', b, ?_, hQ⟩
  rw [Machine.solo_bind, hp]
  exact hf

theorem Machine.Ends.mono {p : Prog Op Ans α} {Q Q' : σ → α → Prop} (h : M.Ends choose i s p Q)
    (hQ : ∀ s' a, Q s' a → Q' s' a) : M.Ends choose i s p Q' := by
  obtain ⟨s', a, hp, hq⟩ := h
  exact ⟨s', a, hp, hQ s' a hq⟩

end

structure Shared (σ : Type) where
  state : σ
  next : ℕ

inductive Task (ε Op : Type) (Ans : Op → Type)
  | start (e : ε)
  | run (i : ℕ) (p : Prog Op Ans Unit)

inductive Choice (χ : Type)
  | go (c : χ)
  | stop

section

variable {σ Op χ ε : Type} {Ans : Op → Type}

def advance (M : Machine σ Op Ans χ) (entry : ε → ℕ → Prog Op Ans Unit) (s : Shared σ) :
    Task ε Op Ans → Choice χ → Option (Shared σ × List (Task ε Op Ans))
  | .start e, .go _ => some (⟨s.state, s.next + 1⟩, [.run s.next (entry e s.next)])
  | .start _, .stop => some (s, [])
  | .run i (.call op k), .go c =>
    (M.handle s.state i op c).map fun (s', x) => (⟨s', s.next⟩, [.run i (k x)])
  | .run i (.ret _), .go _ => some (⟨M.leave s.state i, s.next⟩, [])
  | .run i _, .stop => some (⟨M.leave s.state i, s.next⟩, [])

def system (M : Machine σ Op Ans χ) (entry : ε → ℕ → Prog Op Ans Unit) :
    System (Shared σ) (Task ε Op Ans) ε (Choice χ) where
  entry := .start
  advance := advance M entry

/-- A condition on operations, as one on sections. -/
def Meets (G : σ → ℕ → Op → χ → Prop) (s : Shared σ) (t : Task ε Op Ans) (c : Choice χ) : Prop :=
  match t, c with
  | .run i (.call op _), .go c => G s.state i op c
  | _, _ => True

instance (G : σ → ℕ → Op → χ → Prop) [∀ s i op c, Decidable (G s i op c)] (s : Shared σ)
    (t : Task ε Op Ans) (c : Choice χ) : Decidable (Meets G s t c) :=
  match t, c with
  | .run _ (.call _ _), .go _ => inferInstanceAs (Decidable (G _ _ _ _))
  | .run _ (.ret _), .go _ => inferInstanceAs (Decidable True)
  | .run _ (.call _ _), .stop => inferInstanceAs (Decidable True)
  | .run _ (.ret _), .stop => inferInstanceAs (Decidable True)
  | .start _, .go _ => inferInstanceAs (Decidable True)
  | .start _, .stop => inferInstanceAs (Decidable True)

/-- What one task of a system of threads does. -/
inductive Step (M : Machine σ Op Ans χ) (entry : ε → ℕ → Prog Op Ans Unit) (s : Shared σ) :
    Task ε Op Ans → Choice χ → Shared σ → List (Task ε Op Ans) → Prop
  | start (e : ε) (c : χ) :
      Step M entry s (.start e) (.go c) ⟨s.state, s.next + 1⟩ [.run s.next (entry e s.next)]
  | drop (e : ε) : Step M entry s (.start e) .stop s []
  | perform (i : ℕ) (op : Op) (k : Ans op → Prog Op Ans Unit) (c : χ) (s' : σ) (x : Ans op)
      (h : M.handle s.state i op c = some (s', x)) :
      Step M entry s (.run i (.call op k)) (.go c) ⟨s', s.next⟩ [.run i (k x)]
  | leave (i : ℕ) (p : Prog Op Ans Unit) (c : Choice χ) :
      Step M entry s (.run i p) c ⟨M.leave s.state i, s.next⟩ []

theorem advance_step {M : Machine σ Op Ans χ} {entry : ε → ℕ → Prog Op Ans Unit}
    {s s' : Shared σ} {t : Task ε Op Ans} {c : Choice χ} {ts : List (Task ε Op Ans)}
    (h : advance M entry s t c = some (s', ts)) : Step M entry s t c s' ts := by
  cases t with
  | start e =>
    cases c with
    | go c =>
      cases h
      exact .start e c
    | stop =>
      cases h
      exact .drop e
  | run i p =>
    cases c with
    | stop =>
      cases p with
      | ret | call =>
        cases h
        exact .leave i _ _
    | go c =>
      cases p with
      | ret a =>
        cases h
        exact .leave i _ _
      | call op k =>
        obtain ⟨⟨s1, x⟩, hh, hp⟩ := Option.map_eq_some_iff.mp h
        obtain ⟨rfl, rfl⟩ := Prod.mk.inj hp
        exact .perform i op k c s1 x hh

end

/-! ## Rely and guarantee -/

section Rules

variable {σ Op χ ε α β : Type} {Ans : Op → Type}

/-- The parameters of a proof: a condition `G` on operations, an invariant `I n` of the state when
`n` threads have been started, and what a thread relies on. -/
structure Terms (σ Op : Type) (Ans : Op → Type) (χ : Type) where
  machine : Machine σ Op Ans χ
  G : σ → ℕ → Op → χ → Prop
  I : ℕ → σ → Prop
  R : ℕ → σ → σ → Prop

variable (T : Terms σ Op Ans χ)

/-- From state `s`, thread `i` can run the program within the terms, and `Q` holds at its end. -/
def Safe (i : ℕ) : Prog Op Ans α → (α → σ → Prop) → σ → Prop
  | .ret a, Q, s => Q a s
  | .call op k, Q, s => ∀ n s1, i < n → T.R i s s1 → T.I n s1 → ∀ c s2 x, T.G s1 i op c →
      T.machine.handle s1 i op c = some (s2, x) →
        T.I n s2 ∧ (∀ j, j ≠ i → T.R j s1 s2) ∧ Safe i (k x) Q s2

/-- What has to be checked for the programs of a system. -/
structure Terms.Sound (T : Terms σ Op Ans χ) (entry : ε → ℕ → Prog Op Ans Unit) : Prop where
  refl : ∀ i s, T.R i s s
  trans : ∀ {i s s1 s2}, T.R i s s1 → T.R i s1 s2 → T.R i s s2
  succ : ∀ {n s}, T.I n s → T.I (n + 1) s
  leave : ∀ {n s i}, i < n → T.I n s → T.I n (T.machine.leave s i) ∧
    ∀ j, j ≠ i → T.R j s (T.machine.leave s i)
  entry : ∀ {i s} (e : ε), T.I i s → Safe T i (entry e i) (fun _ _ => True) s

variable {T}

theorem Safe.rely {i : ℕ} {p : Prog Op Ans α} {s s' : σ}
    (ha : ∀ {i s s1 s2}, T.R i s s1 → T.R i s1 s2 → T.R i s s2)
    (h : Safe T i p (fun _ _ => True) s) (hR : T.R i s s') : Safe T i p (fun _ _ => True) s' := by
  cases p with
  | ret => trivial
  | call => exact fun n s1 hn hR' => h n s1 hn (ha hR hR')

/-- What has to be checked for programs that are verified against their views of the state.
`View i s l`: in state `s`, thread `i` may hold the view `l`. -/
structure Local.Sound {τ : Type} (L : Local Op Ans τ) (M : Machine σ Op Ans χ)
    (G : σ → ℕ → Op → χ → Prop) (I : ℕ → σ → Prop) (View : ℕ → σ → τ → Prop)
    (entry : ε → ℕ → Prog Op Ans Unit) : Prop where
  handle : ∀ {n i s l op c s' x}, i < n → I n s → View i s l → L.P l op → G s i op c →
    M.handle s i op c = some (s', x) →
      I n s' ∧ (∃ l', L.step l op x l' ∧ View i s' l') ∧ ∀ j, j ≠ i → ∀ l, View j s l → View j s' l
  succ : ∀ {n s}, I n s → I (n + 1) s
  leave : ∀ {n s i}, i < n → I n s → I n (M.leave s i) ∧
    ∀ j, j ≠ i → ∀ l, View j s l → View j (M.leave s i) l
  entry : ∀ {i s} (e : ε), I i s → ∃ l, View i s l ∧ Along L (entry e i) (fun _ _ => True) l

/-- The rely of the threads is that their views stay. -/
def Local.terms {τ : Type} (M : Machine σ Op Ans χ) (G : σ → ℕ → Op → χ → Prop)
    (I : ℕ → σ → Prop) (View : ℕ → σ → τ → Prop) : Terms σ Op Ans χ where
  machine := M
  G := G
  I := I
  R i s s' := ∀ l, View i s l → View i s' l

variable {M : Machine σ Op Ans χ} {G : σ → ℕ → Op → χ → Prop} {I : ℕ → σ → Prop}
  {entry : ε → ℕ → Prog Op Ans Unit}

theorem Local.Sound.safe {τ : Type} {L : Local Op Ans τ} {View : ℕ → σ → τ → Prop}
    (h : L.Sound M G I View entry) {i : ℕ} {s : σ} {l : τ} {p : Prog Op Ans α} {Q : τ → α → Prop}
    (hp : Along L p Q l) (hl : View i s l) :
    Safe (Local.terms M G I View) i p (fun _ _ => True) s := by
  induction p generalizing s l with
  | ret => trivial
  | call op k ih =>
    intro n _ hn hR hI c _ x hG hh
    obtain ⟨hI', ⟨l', hs, hv⟩, ho⟩ := h.handle hn hI (hR l hl) hp.1 hG hh
    exact ⟨hI', ho, ih x (hp.2 x l' hs) hv⟩

/-- **The rule for views.** -/
theorem Local.Sound.sound {τ : Type} {L : Local Op Ans τ} {View : ℕ → σ → τ → Prop}
    (h : L.Sound M G I View entry) : (Local.terms M G I View).Sound entry where
  refl _ _ _ hl := hl
  trans h1 h2 l hl := h2 l (h1 l hl)
  succ := h.succ
  leave := h.leave
  entry e hI := by
    obtain ⟨l, hl, hp⟩ := h.entry e hI
    exact h.safe hp hl

/-- A machine that keeps the history of every thread and a list of those that are gone. -/
structure Machine.Recording (M : Machine σ Op Ans χ) (past : σ → ℕ → History Op Ans)
    (ended : σ → List ℕ) : Prop where
  own : ∀ {s i op c s' x}, M.handle s i op c = some (s', x) → past s' i = ⟨op, x⟩ :: past s i
  others : ∀ {s i op c s' x}, M.handle s i op c = some (s', x) → ∀ j, j ≠ i → past s' j = past s j
  stays : ∀ {s i op c s' x}, M.handle s i op c = some (s', x) → ended s' = ended s
  leave_past : ∀ s i, past (M.leave s i) = past s
  leave_ended : ∀ s i, ended (M.leave s i) = i :: ended s

/-- **The rule for histories.** An invariant is checked for operations that the program performs
after their thread's history, and the answers it relies on are checked as well. -/
theorem Machine.Recording.sound {past : σ → ℕ → History Op Ans} {ended : σ → List ℕ}
    (hM : M.Recording past ended) {T : History Op Ans → (op : Op) → Ans op → Prop}
    {P : History Op Ans → Op → Prop} {J : σ → Prop}
    (hs : ∀ {s i op c s' x}, J s → i ∉ ended s → P (past s i) op → G s i op c →
      M.handle s i op c = some (s', x) → J s' ∧ T (past s i) op x)
    (hl : ∀ {s} (i : ℕ), J s → J (M.leave s i))
    (hn : ∀ e i, Along (Local.remembering T P) (entry e i) (fun _ _ => True) []) :
    (Local.remembering T P).Sound M G
      (fun n s => (∀ j, n ≤ j → past s j = []) ∧ (∀ j ∈ ended s, j < n) ∧ J s)
      (fun i s l => past s i = l ∧ i ∉ ended s) entry where
  handle := by
    intro n i s l op c s' x hi ⟨hf, he, hJ⟩ hv hP hG hh
    obtain ⟨rfl, hr⟩ := hv
    obtain ⟨hJ', hT⟩ := hs hJ hr hP hG hh
    refine ⟨⟨fun j hj => ?_, ?_, hJ'⟩, ⟨_, ⟨rfl, hT⟩, hM.own hh, ?_⟩, ?_⟩
    · rw [hM.others hh j (by omega)]
      exact hf j hj
    · rw [hM.stays hh]
      exact he
    · rw [hM.stays hh]
      exact hr
    · rintro j hj l ⟨rfl, hj'⟩
      rw [hM.others hh j hj, hM.stays hh]
      exact ⟨rfl, hj'⟩
  succ := by
    rintro n s ⟨hf, he, hJ⟩
    exact ⟨fun j hj => hf j (by omega), fun j hj => lt_succ_of_lt (he j hj), hJ⟩
  leave := by
    rintro n s i hi ⟨hf, he, hJ⟩
    rw [hM.leave_past, hM.leave_ended]
    refine ⟨⟨hf, ?_, hl i hJ⟩, ?_⟩
    · intro j hj
      rcases mem_cons.mp hj with rfl | hj
      · exact hi
      · exact he j hj
    · rintro j hj l ⟨rfl, hj'⟩
      exact ⟨rfl, fun hm => (mem_cons.mp hm).elim hj hj'⟩
  entry := by
    rintro i s e ⟨hf, he, -⟩
    exact ⟨[], ⟨hf i (Nat.le_refl i), fun hm => Nat.lt_irrefl i (he i hm)⟩, hn e i⟩

/-- A thread that runs is known to the invariant, and safe. -/
def Running (T : Terms σ Op Ans χ) (s : Shared σ) : Task ε Op Ans → Prop
  | .start _ => True
  | .run i p => i < s.next ∧ Safe T i p (fun _ _ => True) s.state

/-- No two threads have the same number. -/
def Apart : Task ε Op Ans → Task ε Op Ans → Prop
  | .run i _, .run j _ => i ≠ j
  | _, _ => True

/-- **The rely-guarantee rule.** -/
theorem Terms.Sound.outline (h : T.Sound entry) :
    (system T.machine entry).Outline (Meets T.G) (fun s => T.I s.next s.state) (Running T)
      Apart where
  symm := by
    intro t u hC
    cases t with
    | start => cases u <;> trivial
    | run =>
      cases u with
      | start => trivial
      | run j q => exact Ne.symm hC
  entry_holds := fun _ _ => trivial
  entry_compat := by
    intro e u
    cases u <;> trivial
  local_step := by
    intro s s' t c ts hI ht hG ha
    cases advance_step ha with
    | start e =>
      refine ⟨h.succ hI, ?_, pairwise_singleton _ _⟩
      intro t' ht'
      rw [mem_singleton.mp ht']
      exact ⟨lt_succ_self _, h.entry e hI⟩
    | drop => exact ⟨hI, nofun, .nil⟩
    | perform i op k c s1 x hh =>
      obtain ⟨hi, hs⟩ := ht
      have hr : T.I s.next s1 ∧ _ ∧ Safe T i (k x) (fun _ _ => True) s1 :=
        hs s.next s.state hi (h.refl i s.state) hI c s1 x hG hh
      refine ⟨hr.1, ?_, pairwise_singleton _ _⟩
      intro t' ht'
      rw [mem_singleton.mp ht']
      exact ⟨hi, hr.2.2⟩
    | leave => exact ⟨(h.leave ht.1 hI).1, nofun, .nil⟩
  frame_step := by
    intro s s' t u c ts hI ht hu hC hG ha
    cases advance_step ha with
    | start =>
      cases u with
      | start => exact ⟨trivial, fun t' ht' => by rw [mem_singleton.mp ht']; trivial⟩
      | run j q =>
        refine ⟨⟨lt_succ_of_lt hu.1, hu.2⟩, fun t' ht' => ?_⟩
        rw [mem_singleton.mp ht']
        exact Nat.ne_of_gt hu.1
    | drop => exact ⟨hu, nofun⟩
    | perform i op k c s1 x hh =>
      obtain ⟨hi, hs⟩ := ht
      obtain ⟨-, hR, -⟩ := hs s.next s.state hi (h.refl i s.state) hI c s1 x hG hh
      cases u with
      | start => exact ⟨trivial, fun t' ht' => by rw [mem_singleton.mp ht']; trivial⟩
      | run j q =>
        refine ⟨⟨hu.1, hu.2.rely h.trans (hR j (Ne.symm hC))⟩, fun t' ht' => ?_⟩
        rw [mem_singleton.mp ht']
        exact hC
    | leave =>
      refine ⟨?_, nofun⟩
      cases u with
      | start => trivial
      | run j q => exact ⟨hu.1, hu.2.rely h.trans ((h.leave ht.1 hI).2 j (Ne.symm hC))⟩

end Rules

end Threads
