import Mathlib.Data.Int.Notation
import FastSandbox.Lib.Interleaving

/-!
# The end of a sandbox-init run

`Supervisor.Run` starts the components and the user process, and at the end stops what is in its
process table. A monitor restarts its component on its own: between the exit and the restart the
component is not in the table. Processes are numbered in the order in which they are started: a
pid is not given twice. A SIGTERM is left out, since a process may exit at any time.
-/

namespace FastSandbox.Runtime.SandboxInit

open Interleaving System

inductive RestartPolicy
  | never
  | onFailure
  | always
deriving DecidableEq

/-- Any other text than the two policies is read as `never`. -/
def shouldRestart (policy : RestartPolicy) (failed : Bool) : Bool :=
  match policy with
  | .always => true
  | .onFailure => failed
  | .never => false

structure Component where
  (name command : String)
  restartPolicy : RestartPolicy

structure Config where
  version : ℤ
  sandboxUID : String
  components : List Component

def Config.validate (cfg : Config) : Bool :=
  cfg.version = 1 && cfg.sandboxUID ≠ "" &&
    cfg.components.all (fun c => c.name ≠ "" && c.command ≠ "") &&
    (cfg.components.map (·.name)).Nodup

/-- `returned` is how many processes had been started when `Run` returned. -/
structure Supervisor where
  started : ℕ := 0
  processes : List ℕ := []
  exited : List ℕ := []
  killed : List ℕ := []
  user : Option ℕ := none
  ctxDone : Bool := false
  cancelled : Bool := false
  userDone : Bool := false
  returned : Option ℕ := none

/-- Where `Run`, the goroutine of the user process and the monitors stand, and what the environment
does. `stopAll`, `forward`, `kill` and `finish` say whether `Run` waits for the user process. -/
inductive Task
  | run (cfg : Config) (userArgs : List String)
  | start (todo : List Component)
  | track (p : ℕ) (c : Component) (todo : List Component)
  | trackUser (p : ℕ)
  | select
  | stopAll (ctx : Bool)
  | forward (ctx : Bool)
  | kill (todo : List ℕ) (ctx : Bool)
  | finish (ctx : Bool)
  | userWait (p : ℕ)
  | userUntrack (p : ℕ)
  | userSend
  | wait (c : Component) (p : ℕ)
  | untrack (c : Component) (p : ℕ) (failed : Bool)
  | decide (c : Component) (failed : Bool)
  | pause (c : Component)
  | restart (c : Component)
  | retrack (c : Component) (p : ℕ)
  | exit (p : ℕ)
  | cancel

def Supervisor.track (s : Supervisor) (p : ℕ) : Supervisor :=
  { s with processes := p :: s.processes }

def Supervisor.untrack (s : Supervisor) (p : ℕ) : Supervisor :=
  { s with processes := s.processes.filter (· ≠ p) }

/-- The choice is whether a process could be started, whether it failed, or which branch of a
`select` is taken. -/
def advance (s : Supervisor) : Task → Bool → Option (Supervisor × List Task)
  | .run cfg userArgs, _ =>
    if cfg.validate && userArgs.head?.getD "" ≠ "" then some (s, [.start cfg.components])
    else some ({ s with returned := some s.started }, [])
  | .start (c :: todo), ok =>
    if ok then some ({ s with started := s.started + 1 }, [.track s.started c todo])
    else some (s, [.start todo])
  | .start [], ok =>
    if ok then
      some ({ s with started := s.started + 1, user := some s.started }, [.trackUser s.started])
    else some (s, [.stopAll false])
  | .track p c todo, _ => some (s.track p, [.start todo, .wait c p])
  | .trackUser p, _ => some (s.track p, [.select, .userWait p])
  | .select, ctx =>
    if ctx then if s.ctxDone then some (s, [.stopAll true]) else none
    else if s.userDone then some ({ s with cancelled := true }, [.stopAll false]) else none
  | .stopAll ctx, deadline =>
    if s.processes = [] then some (s, [.finish ctx])
    else some (s, [if deadline then .forward ctx else .stopAll ctx])
  | .forward ctx, _ => some (s, [.kill s.processes ctx])
  | .kill todo ctx, _ => some ({ s with killed := s.killed ++ todo }, [.finish ctx])
  | .finish ctx, _ =>
    if ctx && !s.userDone then none
    else some ({ s with cancelled := true, returned := some s.started }, [])
  | .userWait p, _ => if p ∈ s.exited then some (s, [.userUntrack p]) else none
  | .userUntrack p, _ => some (s.untrack p, [.userSend])
  | .userSend, _ => some ({ s with userDone := true }, [])
  | .wait c p, failed => if p ∈ s.exited then some (s, [.untrack c p failed]) else none
  | .untrack c p failed, _ => some (s.untrack p, [.decide c failed])
  | .decide c failed, _ =>
    some (s, if s.cancelled || !shouldRestart c.restartPolicy failed then [] else [.pause c])
  | .pause c, done =>
    if done then if s.cancelled then some (s, []) else none else some (s, [.restart c])
  | .restart c, ok =>
    if ok then some ({ s with started := s.started + 1 }, [.retrack c s.started]) else some (s, [])
  | .retrack c p, _ => some (s.track p, [.wait c p])
  | .exit p, _ => if p < s.started then some ({ s with exited := p :: s.exited }, []) else none
  | .cancel, _ => some ({ s with ctxDone := true, cancelled := true }, [])

/-- The environment ends a process, or the context of `Run`. -/
def system : System Supervisor Task (Option ℕ) Bool where
  entry e := e.elim .cancel .exit
  advance := advance

def init (cfg : Config) (userArgs : List String) : World Supervisor Task :=
  ⟨{}, [.run cfg userArgs]⟩

/-- Once `Run` has returned, no process is started any more, and each component's has exited or has
been sent SIGKILL. -/
def Stopped (s : Supervisor) : Prop :=
  ∀ n, s.returned = some n → s.started = n ∧ ∀ p < n, s.user ≠ some p → p ∈ s.exited ∨ p ∈ s.killed

/-! ## Without restarts -/

@[grind =] def Ended (s : Supervisor) : Prop :=
  ∀ n, s.returned = some n → s.started = n ∧ ∀ p < n, p ∈ s.exited ∨ p ∈ s.killed

/-- `Run` has not returned, and every process that has not exited is at hand. -/
@[grind =] def Running (s : Supervisor) (AtHand : ℕ → Prop) : Prop :=
  s.returned = none ∧ ∀ p < s.started, p ∈ s.exited ∨ AtHand p

/-- No component is restarted, so that only `Run` adds to the table. -/
@[grind =] def Known (s : Supervisor) : Task → Prop
  | .run cfg userArgs => s.started = 0 ∧ s.returned = none ∧ (cfg.validate →
      userArgs.head?.getD "" ≠ "" → ∀ c ∈ cfg.components, c.restartPolicy = .never)
  | .start todo => Running s (· ∈ s.processes) ∧ ∀ c ∈ todo, c.restartPolicy = .never
  | .track p c todo => Running s (fun q => q = p ∨ q ∈ s.processes) ∧
      ∀ c' ∈ c :: todo, c'.restartPolicy = .never
  | .trackUser p => Running s fun q => q = p ∨ q ∈ s.processes
  | .select | .stopAll _ | .forward _ => Running s (· ∈ s.processes)
  | .kill todo _ => Running s fun q => q ∈ s.killed ++ todo
  | .finish _ => Running s (· ∈ s.killed)
  | .userUntrack p => p ∈ s.exited
  | .wait c _ | .decide c _ => c.restartPolicy = .never
  | .untrack c p _ => p ∈ s.exited ∧ c.restartPolicy = .never
  | .pause _ | .restart _ | .retrack .. => False
  | .userWait _ | .userSend | .exit _ | .cancel => True

@[grind =] def Task.main : Task → Bool
  | .run .. | .start _ | .track .. | .trackUser _ | .select | .stopAll _ | .forward _ | .kill ..
  | .finish _ => true
  | _ => false

def Apart (t u : Task) : Prop := t.main → u.main = false

/-- What the tasks beside `Run` do. -/
structure Beside (s s' : Supervisor) : Prop where
  started : s'.started = s.started
  returned : s'.returned = s.returned
  exited : s.exited ⊆ s'.exited
  killed : s'.killed = s.killed
  processes : ∀ p ∈ s.processes, p ∈ s'.processes ∨ p ∈ s'.exited

variable {s s' : Supervisor} {t u : Task} {c : Bool} {ts : List Task}

theorem advance_beside (ht : Known s t) (hm : t.main = false) (h : advance s t c = some (s', ts)) :
    Beside s s' ∧ (∀ u ∈ ts, Known s' u ∧ u.main = false) ∧ ts.Pairwise Apart := by
  cases t with
  | exit p =>
    simp only [advance] at h
    split_ifs at h
    cases h
    exact ⟨⟨rfl, rfl, List.subset_cons_self .., rfl, fun _ => .inl⟩, nofun, .nil⟩
  | userUntrack | untrack =>
    cases h
    refine ⟨⟨rfl, rfl, fun _ => id, rfl, ?_⟩, ?_, by simp⟩ <;> grind [Supervisor.untrack]
  | wait | userWait =>
    simp only [advance] at h
    split_ifs at h
    cases h
    exact ⟨⟨rfl, rfl, fun _ => id, rfl, fun _ => .inl⟩, by grind, by simp⟩
  | decide c failed =>
    cases h
    have hr : shouldRestart c.restartPolicy failed = false := by
      rw [show c.restartPolicy = .never from ht]
      rfl
    exact ⟨⟨rfl, rfl, fun _ => id, rfl, fun _ => .inl⟩, by simp [hr], by simp [hr]⟩
  | userSend | cancel =>
    cases h
    exact ⟨⟨rfl, rfl, fun _ => id, rfl, fun _ => .inl⟩, nofun, .nil⟩
  | pause | restart | retrack => exact ht.elim
  | _ => cases hm

theorem advance_main (hs : Ended s) (ht : Known s t) (hm : t.main)
    (h : advance s t c = some (s', ts)) :
    s'.exited = s.exited ∧ Ended s' ∧ (∀ u ∈ ts, Known s' u) ∧ ts.Pairwise Apart := by
  cases t with
  | start todo =>
    cases todo <;> simp only [advance] at h <;> split_ifs at h <;> cases h <;>
      exact ⟨rfl, by grind, by grind, by simp⟩
  | stopAll ctx =>
    simp only [advance] at h
    split_ifs at h with he
    · cases h
      have hk : Running s (· ∈ s.killed) :=
        ⟨ht.1, fun p hp => .inl ((ht.2 p hp).resolve_right (he ▸ List.not_mem_nil))⟩
      exact ⟨rfl, hs, by grind, by simp⟩
    all_goals
      cases h
      exact ⟨rfl, hs, by grind, by simp⟩
  | run | select | finish =>
    simp only [advance] at h
    split_ifs at h <;> cases h <;> exact ⟨rfl, by grind, by grind, by simp⟩
  | forward | kill =>
    cases h
    exact ⟨rfl, by grind, by grind, by simp⟩
  | track | trackUser =>
    cases h
    exact ⟨rfl, hs, by grind [Supervisor.track], by simp [Apart, Task.main]⟩
  | _ => cases hm

theorem system_outline : system.Outline anyStep Ended Known Apart where
  symm := by grind [Apart]
  entry_holds e _ := by cases e <;> trivial
  entry_compat e u := by cases e <;> nofun
  local_step {_ _ t _ _} hs ht _ h := by
    cases hm : t.main with
    | false =>
      obtain ⟨⟨h1, h2, h3, h4, -⟩, hk, hp⟩ := advance_beside ht hm h
      refine ⟨?_, fun u hu => (hk u hu).1, hp⟩
      grind
    | true => exact (advance_main hs ht hm h).2
  frame_step {s s' t u _ _} hs ht hu hc _ h := by
    cases hm : t.main with
    | false =>
      obtain ⟨⟨h1, h2, h3, h4, h5⟩, hk, -⟩ := advance_beside ht hm h
      refine ⟨?_, fun v hv => ?_⟩
      · cases u <;> grind
      · grind [Apart]
    | true =>
      have he := (advance_main hs ht hm h).1
      have hn : u.main = false := hc hm
      refine ⟨?_, fun _ _ _ => hn⟩
      cases u <;> grind

/-! ## A restart that meets the end -/

theorem reaches_start (pre todo : List Component) (ts : List Task) :
    system.Reaches anyStep ⟨s, .start (pre ++ todo) :: ts⟩ ⟨s, .start todo :: ts⟩ := by
  induction pre with
  | nil => exact .refl
  | cons c pre ih => exact (reaches_of_run (show system.run _ [.run 0 false] = _ from rfl)).trans ih

/-- One component runs, and `Run` has not started the others yet. -/
def waiting (c : Component) (todo : List Component) : World Supervisor Task :=
  ⟨{ started := 1, processes := [0] }, [.start todo, .wait c 0]⟩

/-- The user process runs, and the component's monitor has passed its last test of the context. -/
def restarting (c : Component) : World Supervisor Task :=
  ⟨{ started := 2, processes := [1], exited := [0], user := some 1 },
    [.select, .userWait 1, .restart c]⟩

theorem reaches_restarting {c : Component} (h : c.restartPolicy ≠ .never) :
    system.Reaches anyStep (waiting c []) (restarting c) := by
  have hs : shouldRestart c.restartPolicy true := by
    cases hp : c.restartPolicy with
    | never => exact absurd hp h
    | onFailure | always => rfl
  have hw : system.run (waiting c []) [.run 0 true, .run 0 true, .spawn (some 0), .run 3 true,
      .run 2 true, .run 2 true, .run 2 true, .run 2 false] = some (restarting c) := by
    simp [waiting, restarting, run, step, system, advance, Supervisor.track, Supervisor.untrack, hs]
  exact reaches_of_run hw

/-- The user process exits, `Run` finds its table empty and returns; then the monitor goes on. -/
theorem restart_crosses_stop (c : Component) : ∃ w, system.Reaches anyStep (restarting c) w ∧
      (w.shared.returned = some 2 && w.shared.started = 3) :=
  exists_reaches_of_run [.spawn (some 1), .run 3 true, .run 1 true, .run 1 true, .run 1 true,
    .run 0 false, .run 0 true, .run 0 true, .run 0 true] _ rfl

variable {cfg : Config} {userArgs : List String}

theorem exists_restart (hv : cfg.validate) (hu : userArgs.head?.getD "" ≠ "")
    {c : Component} (hc : c ∈ cfg.components) (hr : c.restartPolicy ≠ .never) :
    ∃ w, system.Reaches anyStep (init cfg userArgs) w ∧ ¬ Stopped w.shared := by
  obtain ⟨pre, post, hl⟩ := List.append_of_mem hc
  have h1 : system.Reaches anyStep (init cfg userArgs) ⟨{}, [.start (pre ++ c :: post)]⟩ := by
    refine reaches_of_run (show system.run _ [.run 0 true] = _ from ?_)
    simp [run, step, init, system, advance, hv, hu, hl]
  have h2 : system.Reaches anyStep ⟨{}, [.start (c :: post)]⟩ (waiting c post) :=
    reaches_of_run (show system.run _ [.run 0 true, .run 0 true] = _ from rfl)
  have h3 : system.Reaches anyStep (waiting c post) (waiting c []) :=
    List.append_nil post ▸ reaches_start post [] _
  obtain ⟨w, h4, ht⟩ := restart_crosses_stop c
  refine ⟨w, (h1.trans (reaches_start pre _ _)).trans (h2.trans (h3.trans
    ((reaches_restarting hr).trans h4))), fun hs => ?_⟩
  simp only [Bool.and_eq_true, decide_eq_true_eq] at ht
  have := (hs 2 ht.1).1
  omega

/-- **The components are stopped** exactly if none of them is ever restarted. -/
theorem run_stops_iff : (∀ w, system.Reaches anyStep (init cfg userArgs) w → Stopped w.shared) ↔
    (cfg.validate = true → userArgs.head?.getD "" ≠ "" →
      ∀ c ∈ cfg.components, c.restartPolicy = .never) := by
  constructor
  · intro h hv hu c hc
    by_contra hr
    obtain ⟨w, hw, hs⟩ := exists_restart hv hu hc hr
    exact hs (h w hw)
  · intro h w hw n hn
    have hi : Holds Ended Known Apart (init cfg userArgs) :=
      ⟨nofun, by simpa [init, Known] using h, List.pairwise_singleton _ _⟩
    obtain ⟨hs, he⟩ := (system_outline.reaches hi hw).inv n hn
    exact ⟨hs, fun p hp _ => he p hp⟩

theorem component_outlives_run : ∃ w, system.Reaches anyStep
    (init ⟨1, "uid", [⟨"proxy", "/bin/proxy", .always⟩]⟩ ["sh"]) w ∧ ¬ Stopped w.shared :=
  exists_restart (by decide) (by decide) (.head _) nofun

end FastSandbox.Runtime.SandboxInit
