import WebsocketClient.ThreadPool

/-! What becomes of the tasks of a `ThreadPool`. -/

namespace WebsocketClient.ThreadPools
open Library.Runs Library.Places

def Place.task : Place → Option Task
  | .running task => some task
  | _ => none

def ThreadPool.running (s : ThreadPool) (task : Task) : Nat := s.mWorkers.countP (fun place => place.task = some task)

/-- The tasks that were scheduled up to now, those that have returned and those that `clear` has dropped. -/
structure Tally where
  scheduled : List Task
  returned : List Task
  dropped : List Task
  deriving DecidableEq, Repr

namespace Tally

def empty : Tally := ⟨[], [], []⟩

/-- What a step adds. -/
def note (tally : Tally) (s : ThreadPool) : Label → Tally
  | .schedule task _ => { tally with scheduled := tally.scheduled ++ [task] }
  | .ran worker => { tally with returned := tally.returned ++ (s.mWorkers[worker]?.bind Place.task).toList }
  | .clear => { tally with dropped := tally.dropped ++ s.mTasks }
  | _ => tally

def along (tally : Tally) : ThreadPool → List (Label × ThreadPool) → Tally
  | _, [] => tally
  | s, (label, next) :: rest => (tally.note s label).along next rest

def started (tally : Tally) (s : ThreadPool) (task : Task) : Nat := tally.returned.count task + s.running task

/-- Each task that was scheduled was started, was dropped or waits, and a task that was started is due. -/
structure Accounts (tally : Tally) (s : ThreadPool) : Prop where
  balance : ∀ task, tally.scheduled.count task = tally.started s task + tally.dropped.count task + s.mTasks.count task
  due : ∀ task, 0 < tally.started s task → task.time ≤ s.now

end Tally

section
variable {s next : ThreadPool} {tally later : Tally}

theorem ThreadPool.dequeue_spec (s : ThreadPool) (worker : Nat) (top : Option Task) :
    (s.dequeue worker top).now = s.now ∧ ∃ place, (s.dequeue worker top).mWorkers = s.mWorkers.set worker place ∧
      ((place.task = none ∧ (s.dequeue worker top).mTasks = s.mTasks) ∨
        ∃ task, top = some task ∧ task.time ≤ s.now ∧ place = .running task ∧
          (s.dequeue worker top).mTasks = s.mTasks.erase task) := by
  have woken : (s.wake worker).mWorkers = s.mWorkers ∧ (s.wake worker).mTasks = s.mTasks ∧
      (s.wake worker).now = s.now := by
    unfold ThreadPool.wake
    split <;> exact ⟨rfl, rfl, rfl⟩
  obtain ⟨workers, tasks, now⟩ := woken
  unfold ThreadPool.dequeue
  simp only [workers, tasks, now]
  cases (s.wake worker).mJoining with
  | true => exact ⟨rfl, .leaving, rfl, .inl ⟨rfl, rfl⟩⟩
  | false =>
    simp only [Bool.false_eq_true, if_false]
    cases top with
    | none => exact ⟨now, .waiting none false, by simp [ThreadPool.wait, workers], .inl ⟨rfl, tasks⟩⟩
    | some task =>
      by_cases due : task.time ≤ s.now
      · simp only [due, if_true]
        exact ⟨trivial, .running task, rfl, .inr ⟨task, rfl, due, rfl, rfl⟩⟩
      · simp only [due, if_false]
        exact ⟨now, .waiting (some task.time) false, by simp [ThreadPool.wait, workers], .inl ⟨rfl, tasks⟩⟩

theorem running_moved {worker : Nat} {old new : Place} (here : s.mWorkers[worker]? = some old)
    (workers : next.mWorkers = s.mWorkers.set worker new) (task : Task) :
    next.running task + (decide (old.task = some task)).toNat = s.running task +
        (decide (new.task = some task)).toNat := by
  unfold ThreadPool.running
  rw [workers]
  exact countP_moved (fun place => decide (place.task = some task)) here

theorem running_idle {worker : Nat} {old new : Place} (here : s.mWorkers[worker]? = some old)
    (workers : next.mWorkers = s.mWorkers.set worker new) (before : old.task = none) (after : new.task = none)
    (task : Task) : next.running task = s.running task := by
  have moved := running_moved here workers task
  rw [before, after] at moved
  exact Nat.add_right_cancel moved

theorem notify_task (place : Place) : place.notify.task = place.task := by cases place <;> rfl

theorem Tally.Accounts.mono (accounts : tally.Accounts s)
    (started : ∀ task, later.started next task = tally.started s task)
    (kept : ∀ task, later.scheduled.count task + (tally.dropped.count task + s.mTasks.count task) =
      tally.scheduled.count task + (later.dropped.count task + next.mTasks.count task)) (now : s.now ≤ next.now) :
    later.Accounts next where
  balance task := by
    have before := accounts.balance task
    have same := kept task
    rw [started task]
    omega
  due task some := by
    rw [started task] at some
    exact Nat.le_trans (accounts.due task some) now

theorem Tally.Accounts.quiet (accounts : tally.Accounts s) (running : ∀ task, next.running task = s.running task)
    (tasks : next.mTasks = s.mTasks) (now : s.now ≤ next.now) : tally.Accounts next := by
  refine accounts.mono ?_ ?_ now
  · intro task
    show tally.returned.count task + next.running task = _
    rw [running task]
    rfl
  · intro task
    rw [tasks]

theorem Tally.Accounts.dequeue (accounts : tally.Accounts s) {worker : Nat} {old : Place} {top : Option Task}
    (here : s.mWorkers[worker]? = some old) (before : old.task = none) (isTop : IsTop s.mTasks top) :
    tally.Accounts (s.dequeue worker top) := by
  obtain ⟨now, place, workers, ⟨none, tasks⟩ | ⟨taken, rfl, due, rfl, tasks⟩⟩ := s.dequeue_spec worker top
  · exact accounts.quiet (running_idle here workers before none) tasks (Nat.le_of_eq now.symm)
  · have positive : 0 < s.mTasks.count taken := List.count_pos_iff.mpr isTop.1
    have moved (task : Task) :
        (s.dequeue worker (some taken)).running task = s.running task + (decide (taken = task)).toNat := by
      have moved := running_moved here workers task
      rw [before] at moved
      simpa [Place.task] using moved
    constructor
    · intro task
      have balance := accounts.balance task
      show _ = tally.returned.count task + (s.dequeue worker (some taken)).running task + _ + _
      unfold Tally.started at balance
      rw [moved task, tasks]
      by_cases same : taken = task
      · subst same
        rw [List.count_erase_self, decide_eq_true rfl, Bool.toNat_true]
        omega
      · rw [List.count_erase_of_ne (Ne.symm same), decide_eq_false same, Bool.toNat_false]
        omega
    · intro task some
      rw [now]
      by_cases same : taken = task
      · exact same ▸ due
      · apply accounts.due task
        unfold Tally.started at some ⊢
        rw [moved task, decide_eq_false same] at some
        exact some

theorem Tally.Accounts.step (accounts : tally.Accounts s) {label : Label} (step : Step s label next) :
    (tally.note s label).Accounts next := by
  cases step with
  | spawn _ =>
    refine accounts.quiet ?_ rfl (Nat.le_refl _)
    intro task
    simp [ThreadPool.running, ThreadPool.spawn, Place.task]
  | run worker here => exact accounts.quiet (running_idle here rfl rfl rfl) rfl (Nat.le_refl _)
  | dequeue worker top here isTop => exact accounts.dequeue here rfl isTop
  | wakes worker «until» notified top here isTop => exact accounts.dequeue here rfl isTop
  | ran worker task here =>
    refine accounts.mono ?_ (fun _ => rfl) (Nat.le_refl _)
    intro other
    have moved : (s.ran worker).running other + _ = s.running other + _ := running_moved here rfl other
    show (tally.returned ++ (s.mWorkers[worker]?.bind Place.task).toList).count other + (s.ran worker).running other =
      tally.returned.count other + s.running other
    rw [here]
    by_cases same : task = other <;> simp [Place.task, same] at moved ⊢ <;> omega
  | leave worker here => exact accounts.quiet (running_idle here rfl rfl rfl) rfl (Nat.le_refl _)
  | schedule task woken wakes =>
    refine accounts.mono ?_ ?_ (Nat.le_refl _)
    · intro other
      have same : (s.schedule task woken).running other = s.running other := by
        unfold ThreadPool.running ThreadPool.schedule
        cases woken with
        | none => rfl
        | some worker =>
          apply countP_modify
          intro place
          rw [notify_task]
      show tally.returned.count other + (s.schedule task woken).running other = _
      rw [same]
      rfl
    · intro other
      show (tally.scheduled ++ [task]).count other + _ = _ +
          (tally.dropped.count other + (s.mTasks ++ [task]).count other)
      rw [List.count_append, List.count_append]
      omega
  | clear =>
    refine accounts.mono (fun _ => rfl) ?_ (Nat.le_refl _)
    intro task
    show _ = _ + ((tally.dropped ++ s.mTasks).count task + ([] : List Task).count task)
    rw [List.count_append, List.count_nil]
    rfl
  | join _ =>
    refine accounts.quiet ?_ rfl (Nat.le_refl _)
    intro task
    unfold ThreadPool.running ThreadPool.join
    rw [List.countP_map]
    congr 1
    funext place
    simp [notify_task]
  | lockWorkers _ _ => exact accounts.quiet (fun _ => rfl) rfl (Nat.le_refl _)
  | joined _ finished =>
    refine accounts.quiet ?_ rfl (Nat.le_refl _)
    intro task
    symm
    apply List.countP_eq_zero.mpr
    intro place member
    rw [finished place member]
    simp [Place.task]
  | tick now advance => exact accounts.quiet (fun _ => rfl) rfl advance

theorem accounts_along (trace : List (Label × ThreadPool)) (run : Run Step ThreadPool.initial trace) :
    (Tally.empty.along ThreadPool.initial trace).Accounts (last ThreadPool.initial trace) := by
  have along (trace : List (Label × ThreadPool)) : ∀ (s : ThreadPool) (tally : Tally), tally.Accounts s →
      Run Step s trace → (tally.along s trace).Accounts (last s trace) := by
    induction trace with
    | nil => exact fun _ _ accounts _ => accounts
    | cons taken rest ih => exact fun _ _ accounts run => ih _ _ (accounts.step run.1) run.2
  exact along trace _ _ ⟨fun _ => rfl, fun _ some => absurd some (Nat.lt_irrefl 0)⟩ run

/-- Whatever workers do and whenever the pool is joined, each task that was scheduled has returned, is run by one
worker, was dropped by `clear` or waits in the queue, no task does two of these, and none is started before its time. -/
theorem tasks_accounted (trace : List (Label × ThreadPool)) (run : Run Step ThreadPool.initial trace) :
    (Tally.empty.along ThreadPool.initial trace).Accounts (last ThreadPool.initial trace) :=
  accounts_along trace run

/-- After two tasks that are run, a third one is dropped by `clear`, and the workers wait as `join` is called. -/
def droppedThird : List (Label × ThreadPool) :=
  let both := last ThreadPool.initial (scheduledLater ++ ranBoth)
  let scheduled := both.schedule ⟨200, 3⟩ (some 1)
  let returned := scheduled.clear.ran 0
  let seen := (returned.dequeue 0 none).dequeue 1 none
  [(.schedule ⟨200, 3⟩ (some 1), scheduled), (.clear, scheduled.clear), (.ran 0, returned),
    (.dequeue 0 none, returned.dequeue 0 none), (.dequeue 1 none, seen), (.join, seen.join)]

theorem droppedThird_run : Run Step (last ThreadPool.initial (scheduledLater ++ ranBoth)) droppedThird :=
  ⟨.schedule _ _ ⟨none, rfl⟩, .clear, .ran 0 ⟨100, 1⟩ rfl, .dequeue 0 _ rfl (by decide),
    .wakes 1 none true _ rfl (by decide), .join rfl, trivial⟩

theorem accounted_droppedThird :
    (Tally.empty.along ThreadPool.initial (scheduledLater ++ ranBoth ++ droppedThird)).Accounts
      (last ThreadPool.initial (scheduledLater ++ ranBoth ++ droppedThird)) :=
  tasks_accounted (scheduledLater ++ ranBoth ++ droppedThird)
    ((scheduledLater_run.append ranBoth_run).append droppedThird_run)

end

end WebsocketClient.ThreadPools
