import Mathlib.Data.List.TakeWhile
import Mathlib.Data.String.Basic

/-!
# Ensuring that a Sandbox is absent from containerd

`ensureContainerdSandboxAbsent` removes the task, the container and the snapshot, collects the
errors on the way and believes only its verification at the end. A failed load stops it before
anything is removed; a failed container deletion does not keep it from removing the snapshot.
-/

namespace FastSandbox.Runtime.Absence

open List

inductive Answer
  | ok
  | notFound
  | failed (err : String)
deriving DecidableEq

inductive Signal
  | term
  | kill
deriving DecidableEq

inductive Call
  | loadContainer
  | task
  | status
  | wait
  | kill (signal : Signal)
  | deleteTask
  | deleteContainer
  | removeSnapshot
  | statSnapshot
deriving DecidableEq

/-- What the backend answers to each call. The task is `running`, and `exits` within the grace
period after the signal. -/
structure Backend where
  (load task status : Answer)
  running : Bool
  wait : Answer
  kill : Signal → Answer
  exits : Bool
  (deleteTask deleteContainer removeSnapshot loadAgain statSnapshot : Answer)

/-- The calls made with their answers, and the errors collected. -/
structure Cleanup where
  calls : List (Call × Answer) := []
  errors : List String := []

/-- A call whose error counts unless it is NotFound. -/
def Cleanup.call (c : Cleanup) (what : Call) (a : Answer) (message : String) : Cleanup where
  calls := c.calls ++ [(what, a)]
  errors :=
    match a with
    | .failed err => c.errors ++ [message ++ ": " ++ err]
    | .ok | .notFound => c.errors

variable (b : Backend) (sandboxID snapshotName : String)

def deleteContainerdTask (c : Cleanup) : Cleanup :=
  let container := "container " ++ sandboxID.quote
  let c := c.call .task b.task ("load task for " ++ container)
  if b.task ≠ .ok then c
  else
    let c := c.call .status b.status ("inspect task for " ++ container)
    let c :=
      if b.status = .ok ∧ b.running then
        let c := c.call .wait b.wait ("wait task for " ++ container)
        let c := c.call (.kill .term) (b.kill .term) ("signal task for " ++ container)
        -- without a channel there is nothing to wait for
        if b.wait = .ok ∧ !b.exits then
          c.call (.kill .kill) (b.kill .kill) ("force signal task for " ++ container)
        else c
      else c
    c.call .deleteTask b.deleteTask ("delete task for " ++ container)

def joinErrors : List String → Option String
  | [] => none
  | errs => some ("\n".intercalate errs)

/-- An object that verification looks up. -/
def verify (object : String) : Answer → List String
  | .ok => [object ++ " still exists after deletion"]
  | .notFound => []
  | .failed err => ["verify " ++ object ++ " deletion: " ++ err]

def verifyContainerdSandboxAbsent : Option String :=
  joinErrors (verify ("container " ++ sandboxID.quote) b.loadAgain ++
    verify ("snapshot " ++ snapshotName.quote) b.statSnapshot)

def removeAndVerify (c : Cleanup) : List (Call × Answer) × Option String :=
  let c := c.call .removeSnapshot b.removeSnapshot ("remove snapshot " ++ snapshotName.quote)
  (c.calls ++ [(.loadContainer, b.loadAgain), (.statSnapshot, b.statSnapshot)],
    match verifyContainerdSandboxAbsent b sandboxID snapshotName with
    | none => none
    | some err => joinErrors (c.errors ++ [err]))

def ensureContainerdSandboxAbsent : List (Call × Answer) × Option String :=
  let loaded : Cleanup := { calls := [(.loadContainer, b.load)] }
  match b.load with
  | .failed err =>
    (loaded.calls, some ("load container " ++ sandboxID.quote ++ " before deletion: " ++ err))
  | .notFound => removeAndVerify b sandboxID snapshotName loaded
  | .ok =>
    removeAndVerify b sandboxID snapshotName <|
      (deleteContainerdTask b sandboxID loaded).call .deleteContainer b.deleteContainer
        ("delete container " ++ sandboxID.quote)

/-! ## The guard and the answer -/

/-- The calls show that the container is absent. -/
def ShownAbsent (calls : List (Call × Answer)) : Prop :=
  (.loadContainer, .notFound) ∈ calls ∨ (.deleteContainer, .ok) ∈ calls ∨
    (.deleteContainer, .notFound) ∈ calls

/-- The snapshot is removed only of a container that is shown absent, and the answer is nil exactly
if the final lookups both find nothing. -/
def Safe (outcome : List (Call × Answer) × Option String) : Prop :=
  (.removeSnapshot ∈ outcome.1.map Prod.fst →
    ShownAbsent (outcome.1.takeWhile (·.1 ≠ .removeSnapshot))) ∧
  (outcome.2 = none ↔ [(.loadContainer, .notFound), (.statSnapshot, .notFound)] <:+ outcome.1)

instance (outcome : List (Call × Answer) × Option String) : Decidable (Safe outcome) :=
  inferInstanceAs (Decidable ((_ → _ ∨ _) ∧ _))

def Call.onTask : Call → Bool
  | .task | .status | .wait | .kill _ | .deleteTask => true
  | .loadContainer | .deleteContainer | .removeSnapshot | .statSnapshot => false

theorem deleteContainerdTask_calls (c : Cleanup) :
    ∃ calls, (deleteContainerdTask b sandboxID c).calls = c.calls ++ calls ∧
      ∀ x ∈ calls, x.1.onTask := by
  unfold deleteContainerdTask
  split_ifs
  all_goals
    simp only [Cleanup.call, append_assoc]
    exact ⟨_, rfl, by simp [Call.onTask]⟩

theorem joinErrors_eq_none_iff {errs : List String} : joinErrors errs = none ↔ errs = [] := by
  cases errs with
  | nil | cons => simp [joinErrors]

theorem verify_eq_none_iff : verifyContainerdSandboxAbsent b sandboxID snapshotName = none ↔
      b.loadAgain = .notFound ∧ b.statSnapshot = .notFound := by
  have hv : ∀ object a, verify object a = [] ↔ a = .notFound := fun object a => by
    cases a with
    | ok | notFound | failed => simp [verify]
  unfold verifyContainerdSandboxAbsent
  rw [joinErrors_eq_none_iff, append_eq_nil_iff, hv, hv]

variable {b sandboxID snapshotName}

theorem safe_removeAndVerify {c : Cleanup} (hc : ∀ x ∈ c.calls, x.1 ≠ .removeSnapshot) :
    Safe (removeAndVerify b sandboxID snapshotName c) ↔ ShownAbsent c.calls := by
  have ha : (removeAndVerify b sandboxID snapshotName c).2 = none ↔
      b.loadAgain = .notFound ∧ b.statSnapshot = .notFound := by
    rw [← verify_eq_none_iff b sandboxID snapshotName]
    unfold removeAndVerify
    cases verifyContainerdSandboxAbsent b sandboxID snapshotName with
    | none => simp
    | some err => simp [joinErrors_eq_none_iff]
  have hs : [(.loadContainer, .notFound), (.statSnapshot, .notFound)] <:+
      (removeAndVerify b sandboxID snapshotName c).1 ↔
      b.loadAgain = .notFound ∧ b.statSnapshot = .notFound := by
    constructor
    · rintro ⟨before, h⟩
      simpa using (append_inj' h rfl).2.symm
    · rintro ⟨hl, ht⟩
      exact ⟨_, by rw [removeAndVerify, hl, ht]⟩
  have hb : (removeAndVerify b sandboxID snapshotName c).1.takeWhile (·.1 ≠ .removeSnapshot) =
      c.calls := by
    simp only [removeAndVerify, Cleanup.call, append_assoc]
    rw [takeWhile_append_of_pos fun x hx => decide_eq_true (hc x hx)]
    simp
  unfold Safe
  rw [ha, hs, hb]
  simp [removeAndVerify, Cleanup.call]

/-- **The snapshot is safe** exactly if a container that was loaded could be deleted, or was gone
by then. -/
theorem ensureAbsent_safe_iff (b : Backend) (sandboxID snapshotName : String) :
    Safe (ensureContainerdSandboxAbsent b sandboxID snapshotName) ↔
      (b.load = .ok → ∀ err, b.deleteContainer ≠ .failed err) := by
  unfold ensureContainerdSandboxAbsent
  cases b.load with
  | failed err =>
    have hl : ¬[(Call.loadContainer, Answer.notFound), (.statSnapshot, .notFound)] <:+
        [(.loadContainer, .failed err)] := fun h => absurd h.length_le (by simp)
    simp [Safe, hl]
  | notFound => simp [safe_removeAndVerify, ShownAbsent]
  | ok =>
    obtain ⟨calls, hc, ht⟩ := deleteContainerdTask_calls b sandboxID
      { calls := [(.loadContainer, .ok)] }
    have hne : ∀ what : Call, what.onTask = false → ∀ a, (what, a) ∉ calls := fun what hw a hx => by
      simp [ht _ hx] at hw
    rw [safe_removeAndVerify]
    · unfold ShownAbsent Cleanup.call
      rw [hc]
      cases b.deleteContainer with
      | ok | notFound | failed => simp [hne .loadContainer rfl, hne .deleteContainer rfl]
    · unfold Cleanup.call
      rw [hc]
      rintro ⟨what, a⟩ hx rfl
      simp [hne .removeSnapshot rfl] at hx

def busyContainer : Backend :=
  ⟨.ok, .notFound, .notFound, false, .notFound, fun _ => .notFound, false, .notFound,
    .failed "container is busy", .ok, .ok, .notFound⟩

/-- The container cannot be deleted and is still there; its snapshot is removed all the same. -/
theorem snapshot_removed_of_live_container :
    (.removeSnapshot, .ok) ∈ (ensureContainerdSandboxAbsent busyContainer "sb" "snap").1 ∧
      (.loadContainer, .ok) ∈ (ensureContainerdSandboxAbsent busyContainer "sb" "snap").1 ∧
      ¬ Safe (ensureContainerdSandboxAbsent busyContainer "sb" "snap") := by
  decide

end FastSandbox.Runtime.Absence
