import Mathlib.Data.List.Basic
import WebsocketClient.Library.Places
import WebsocketClient.Library.Runs

/-! `impl/threadpool.cpp`. Tasks have a time from which on they may run. A worker without a due task waits
for the time of the first one, or without limit, and does not revise that while it waits. -/

namespace WebsocketClient.ThreadPools
open Library.Runs Library.Places

structure Task where
  time : Nat
  func : Nat
  deriving DecidableEq, Repr

inductive Place where
  /-- Before `run`. -/
  | starting
  /-- In `run`, before `dequeue` takes the mutex. -/
  | dequeuing
  /-- In `dequeue`, where it waits until a time or without limit. A notification may be on its way. -/
  | waiting («until» : Option Nat) (notified : Bool)
  | running (task : Task)
  /-- `dequeue` has returned no task. -/
  | leaving
  | finished
  deriving DecidableEq, Repr

structure ThreadPool where
  mWorkers : List Place
  mBusyWorkers : Int
  mJoining : Bool
  mTasks : List Task
  /-- `mWorkersMutex` is held by `join`. -/
  joins : Bool
  now : Nat
  deriving DecidableEq, Repr

def Place.notify : Place → Place
  | .waiting «until» _ => .waiting «until» true
  | place => place

namespace ThreadPool
variable (s : ThreadPool)

def spawn : ThreadPool := { s with mWorkers := s.mWorkers ++ [.starting] }

/-- The beginning of `run`. -/
def run (worker : Nat) : ThreadPool :=
  { s with mWorkers := s.mWorkers.set worker .dequeuing, mBusyWorkers := s.mBusyWorkers + 1 }

/-- A wait of `dequeue` is over when the mutex is taken again. -/
def wake (worker : Nat) : ThreadPool :=
  match s.mWorkers[worker]? with
  | some (.waiting _ _) => { s with mBusyWorkers := s.mBusyWorkers + 1 }
  | _ => s

def wait (worker : Nat) («until» : Option Nat) : ThreadPool :=
  { s with mWorkers := s.mWorkers.set worker (.waiting «until» false), mBusyWorkers := s.mBusyWorkers - 1 }

/-- One round of the loop of `dequeue`, for the task that `mTasks.top()` gives. -/
def dequeue (worker : Nat) (top : Option Task) : ThreadPool :=
  let s := s.wake worker
  if s.mJoining then { s with mWorkers := s.mWorkers.set worker .leaving }
  else
    match top with
    | none => s.wait worker none
    | some task =>
      if task.time ≤ s.now then
        { s with mWorkers := s.mWorkers.set worker (.running task), mTasks := s.mTasks.erase task }
      else s.wait worker (some task.time)

/-- The end of `runOne`. A task that throws keeps the exception to itself. -/
def ran (worker : Nat) : ThreadPool := { s with mWorkers := s.mWorkers.set worker .dequeuing }

/-- The end of `run`. -/
def leave (worker : Nat) : ThreadPool :=
  { s with mWorkers := s.mWorkers.set worker .finished, mBusyWorkers := s.mBusyWorkers - 1 }

/-- `schedule` at a time, with the worker that `notify_one` wakes. -/
def schedule (task : Task) (woken : Option Nat) : ThreadPool :=
  { s with
    mTasks := s.mTasks ++ [task]
    mWorkers := match woken with
      | none => s.mWorkers
      | some worker => s.mWorkers.modify worker Place.notify }

def clear : ThreadPool := { s with mTasks := [] }

/-- The first block of `join`. -/
def join : ThreadPool := { s with mJoining := true, mWorkers := s.mWorkers.map Place.notify }

def lockWorkers : ThreadPool := { s with joins := true }

def joined : ThreadPool := { s with joins := false, mWorkers := [], mJoining := false }

end ThreadPool

inductive Label where
  | spawn
  | run (worker : Nat)
  | dequeue (worker : Nat) (top : Option Task)
  | ran (worker : Nat)
  | leave (worker : Nat)
  | schedule (task : Task) (woken : Option Nat)
  | clear
  | join
  | lockWorkers
  | joined
  | tick (now : Nat)
  deriving DecidableEq, Repr

def IsTop (tasks : List Task) : Option Task → Prop
  | none => tasks = []
  | some task => task ∈ tasks ∧ ∀ other ∈ tasks, task.time ≤ other.time

instance (tasks : List Task) : (top : Option Task) → Decidable (IsTop tasks top)
  | none => inferInstanceAs (Decidable (tasks = []))
  | some task => inferInstanceAs (Decidable (task ∈ tasks ∧ ∀ other ∈ tasks, task.time ≤ other.time))

/-- `notify_one` wakes one of the threads that wait and have not been woken, if there is one. -/
def Wakes (workers : List Place) : Option Nat → Prop
  | none => ∀ «until», .waiting «until» false ∉ workers
  | some worker => ∃ «until», workers[worker]? = some (.waiting «until» false)

/-- A worker that waits may wake at any time. -/
inductive Step (s : ThreadPool) : Label → ThreadPool → Prop where
  | spawn : s.joins = false → Step s .spawn s.spawn
  | run (worker : Nat) : s.mWorkers[worker]? = some .starting → Step s (.run worker) (s.run worker)
  | dequeue (worker : Nat) (top : Option Task) : s.mWorkers[worker]? = some .dequeuing → IsTop s.mTasks top →
      Step s (.dequeue worker top) (s.dequeue worker top)
  | wakes (worker : Nat) («until» : Option Nat) (notified : Bool) (top : Option Task) :
      s.mWorkers[worker]? = some (.waiting «until» notified) → IsTop s.mTasks top →
      Step s (.dequeue worker top) (s.dequeue worker top)
  | ran (worker : Nat) (task : Task) : s.mWorkers[worker]? = some (.running task) → Step s (.ran worker) (s.ran worker)
  | leave (worker : Nat) : s.mWorkers[worker]? = some .leaving → Step s (.leave worker) (s.leave worker)
  | schedule (task : Task) (woken : Option Nat) : Wakes s.mWorkers woken →
      Step s (.schedule task woken) (s.schedule task woken)
  | clear : Step s .clear s.clear
  | join : s.mBusyWorkers = 0 → Step s .join s.join
  | lockWorkers : s.mJoining = true → s.joins = false → Step s .lockWorkers s.lockWorkers
  | joined : s.joins = true → (∀ place ∈ s.mWorkers, place = .finished) → Step s .joined s.joined
  | tick (now : Nat) : s.now ≤ now → Step s (.tick now) { s with now := now }

def ThreadPool.initial : ThreadPool where
  mWorkers := []
  mBusyWorkers := 0
  mJoining := false
  mTasks := []
  joins := false
  now := 0

def Place.isWaiting : Place → Bool
  | .waiting _ _ => true
  | _ => false

/-- A worker that waits comes back for these tasks: it is notified, or waits no longer than until the first. -/
def Place.Covers (tasks : List Task) : Place → Prop
  | .waiting «until» notified => notified = true ∨ ∃ time, «until» = some time ∧ ∀ task ∈ tasks, time ≤ task.time
  | _ => False

/-- While workers wait, one of them comes back for the tasks. -/
def Covered (s : ThreadPool) : Prop :=
  s.mTasks ≠ [] → s.mJoining = false → (∃ place ∈ s.mWorkers, place.isWaiting = true) →
    ∃ place ∈ s.mWorkers, place.Covers s.mTasks

/-! ### Counting tasks and workers by a time -/

/-- The worker waits and is notified, or waits until the time at most. -/
def Place.back (time : Nat) : Place → Bool
  | .waiting «until» notified => notified || «until».any (· ≤ time)
  | _ => false

namespace ThreadPool
variable (s : ThreadPool)

def due (time : Nat) : Nat := s.mTasks.countP (·.time ≤ time)

def waiting : Nat := s.mWorkers.countP Place.isWaiting

def back (time : Nat) : Nat := s.mWorkers.countP (Place.back time)

end ThreadPool

/-- The worker that `notify_one` wakes would not have been back by a time from which on the new task is due, or
enough of the workers that wait are back by then: one for each task, or all of them. -/
def WakesEnough (s : ThreadPool) (label : Label) : Prop :=
  ∀ task worker place time, label = .schedule task (some worker) → s.mWorkers[worker]? = some place →
    task.time ≤ time → place.back time = true → min (s.due time + 1) s.waiting ≤ s.back time

def Schedules : Label → Prop
  | .schedule _ _ => True
  | _ => False

/-- By any time, one of the workers that wait is back for each task, or all of them are. -/
def Supplied (s : ThreadPool) : Prop := ∀ time, min (s.due time) s.waiting ≤ s.back time

/-- While the pool is joining, the workers that wait are notified. -/
def JoinNotifies (s : ThreadPool) : Prop :=
  s.mJoining = true → ∀ «until», .waiting «until» false ∉ s.mWorkers

namespace Place

theorem isWaiting_of_back {time : Nat} {place : Place} (back : place.back time = true) : place.isWaiting = true := by
  cases place with
  | waiting => rfl
  | starting | dequeuing | running | leaving | finished => exact back

theorem back_of_notified {time : Nat} {workers : List Place} (notified : ∀ «until», .waiting «until» false ∉ workers)
    {place : Place} (member : place ∈ workers) : place.back time = place.isWaiting := by
  cases place with
  | waiting «until» note =>
    cases note with
    | true => rfl
    | false => exact absurd member (notified «until»)
  | starting | dequeuing | running | leaving | finished => rfl

end Place

section
variable {s next : ThreadPool}

theorem supplied_of_notified (notified : ∀ «until», .waiting «until» false ∉ s.mWorkers) : Supplied s := by
  intro time
  have all : s.back time = s.waiting := List.countP_congr fun place member => by
      rw [Place.back_of_notified notified member]
  rw [all]
  exact Nat.min_le_right _ _

theorem supplied_of_empty (none : s.mTasks = []) : Supplied s := by
  intro time
  have zero : s.due time = 0 := by rw [ThreadPool.due, none, List.countP_nil]
  rw [zero]
  exact Nat.le_trans (Nat.min_le_left _ _) (Nat.zero_le _)

theorem due_pos {task : Task} (member : task ∈ s.mTasks) {time : Nat} (early : task.time ≤ time) : 0 < s.due time :=
  List.countP_pos_iff.mpr ⟨task, member, by simpa using early⟩

theorem exists_top {tasks : List Task} (some_left : tasks ≠ []) : ∃ top, IsTop tasks (some top) := by
  induction tasks with
  | nil => exact absurd rfl some_left
  | cons task rest ih =>
    by_cases last : rest = []
    · subst last
      exact ⟨task, by simp [IsTop]⟩
    · obtain ⟨top, member, first⟩ := ih last
      by_cases earlier : task.time ≤ top.time
      · refine ⟨task, List.mem_cons_self .., fun other here => ?_⟩
        rcases List.mem_cons.mp here with rfl | later
        · exact Nat.le_refl _
        · exact Nat.le_trans earlier (first other later)
      · refine ⟨top, List.mem_cons_of_mem _ member, fun other here => ?_⟩
        rcases List.mem_cons.mp here with rfl | later
        · exact Nat.le_of_not_le earlier
        · exact first other later

theorem Supplied.covered (supplied : Supplied s) : Covered s := by
  intro left _ ⟨place, member, waits⟩
  obtain ⟨top, first⟩ := exists_top left
  have due := due_pos first.1 (Nat.le_refl _)
  have some_waits : 0 < s.waiting := List.countP_pos_iff.mpr ⟨place, member, waits⟩
  have counted := supplied top.time
  obtain ⟨covering, there, back⟩ := List.countP_pos_iff.mp (show 0 < s.back top.time by omega)
  refine ⟨covering, there, ?_⟩
  cases covering with
  | waiting «until» notified =>
    simp only [Place.back, Bool.or_eq_true, Option.any_eq_true, decide_eq_true_eq] at back
    rcases back with notified | ⟨time, same, before⟩
    · exact .inl notified
    · exact .inr ⟨time, same, fun task member => Nat.le_trans before (first.2 task member)⟩
  | starting | dequeuing | running | leaving | finished => cases back

theorem not_covered {time : Nat} (none : s.back time = 0) (due : 0 < s.due time) (waits : 0 < s.waiting)
    (running : s.mJoining = false) : ¬Covered s := by
  intro covered
  obtain ⟨task, member, early⟩ := List.countP_pos_iff.mp due
  obtain ⟨place, there, isWaiting⟩ := List.countP_pos_iff.mp waits
  obtain ⟨covering, here, covers⟩ := covered (List.ne_nil_of_mem member) running ⟨place, there, isWaiting⟩
  have away := List.countP_eq_zero.mp none covering here
  apply away
  cases covering with
  | waiting «until» notified =>
    rcases covers with rfl | ⟨time', rfl, before⟩
    · rfl
    · have early : task.time ≤ time := by simpa using early
      have first : time' ≤ time := Nat.le_trans (before task member) early
      simp [Place.back, first]
  | starting | dequeuing | running | leaving | finished => exact covers.elim

theorem ThreadPool.dequeue_cases (s : ThreadPool) (worker : Nat) (top : Option Task) :
    (s.mJoining = true ∧ (s.dequeue worker top).mWorkers = s.mWorkers.set worker .leaving) ∨
    (s.mJoining = false ∧ top = none ∧ (s.dequeue worker top).mTasks = s.mTasks) ∨
    (∃ task, s.mJoining = false ∧ top = some task ∧ task.time ≤ s.now ∧
      (s.dequeue worker top).mWorkers = s.mWorkers.set worker (.running task) ∧
      (s.dequeue worker top).mTasks = s.mTasks.erase task) ∨
    (∃ task, s.mJoining = false ∧ top = some task ∧ s.now < task.time ∧
      (s.dequeue worker top).mWorkers = s.mWorkers.set worker (.waiting (some task.time) false) ∧
      (s.dequeue worker top).mTasks = s.mTasks) := by
  have woken : (s.wake worker).mWorkers = s.mWorkers ∧ (s.wake worker).mTasks = s.mTasks ∧
      (s.wake worker).mJoining = s.mJoining ∧ (s.wake worker).now = s.now := by
    unfold ThreadPool.wake
    split <;> exact ⟨rfl, rfl, rfl, rfl⟩
  obtain ⟨workers, tasks, joining, now⟩ := woken
  unfold ThreadPool.dequeue
  simp only [joining, workers, tasks, now]
  cases running : s.mJoining with
  | true => exact .inl ⟨rfl, rfl⟩
  | false =>
    simp only [Bool.false_eq_true, if_false]
    apply Or.inr
    cases top with
    | none => exact .inl ⟨trivial, rfl, tasks⟩
    | some task =>
      apply Or.inr
      by_cases due : task.time ≤ s.now
      · simp only [due, if_true]
        exact .inl ⟨task, trivial, rfl, due, rfl, rfl⟩
      · simp only [due, if_false]
        exact .inr ⟨task, trivial, rfl, Nat.lt_of_not_le due, by simp [ThreadPool.wait, workers],
          by simp [ThreadPool.wait, tasks]⟩

theorem ThreadPool.dequeue_kept (s : ThreadPool) (worker : Nat) (top : Option Task) :
    (s.dequeue worker top).mJoining = s.mJoining ∧ (s.dequeue worker top).now = s.now := by
  have woken : (s.wake worker).mJoining = s.mJoining ∧ (s.wake worker).now = s.now := by
    unfold ThreadPool.wake
    split <;> exact ⟨rfl, rfl⟩
  unfold ThreadPool.dequeue ThreadPool.wait
  cases top with
  | none =>
    simp only
    split_ifs <;> exact woken
  | some task =>
    simp only
    split_ifs <;> exact woken

/-! ### What the steps do to the counts -/

theorem due_erase {task : Task} (member : task ∈ s.mTasks) (tasks : next.mTasks = s.mTasks.erase task) {time : Nat}
    (early : task.time ≤ time) : next.due time + 1 = s.due time := by
  have split : s.due time = (task :: s.mTasks.erase task).countP (·.time ≤ time) :=
    (List.perm_cons_erase member).countP_eq _
  rw [split, List.countP_cons_of_pos (by simpa using early), ThreadPool.due, tasks]

theorem due_zero {top : Task} (first : IsTop s.mTasks (some top)) {time : Nat} (before : time < top.time) :
    s.due time = 0 := by
  apply List.countP_eq_zero.mpr
  intro task member early
  have early : task.time ≤ time := by simpa using early
  have least := first.2 task member
  omega

theorem waiting_moved {worker : Nat} {old new : Place} (here : s.mWorkers[worker]? = some old)
    (workers : next.mWorkers = s.mWorkers.set worker new) :
    next.waiting + old.isWaiting.toNat = s.waiting + new.isWaiting.toNat := by
  rw [ThreadPool.waiting, workers]
  exact countP_moved Place.isWaiting here

theorem back_moved {worker : Nat} {old new : Place} (here : s.mWorkers[worker]? = some old)
    (workers : next.mWorkers = s.mWorkers.set worker new) (time : Nat) :
    next.back time + (old.back time).toNat = s.back time + (new.back time).toNat := by
  rw [ThreadPool.back, workers]
  exact countP_moved (Place.back time) here

theorem back_le_isWaiting (place : Place) (time : Nat) :
    (place.back time).toNat ≤ place.isWaiting.toNat ∧ place.isWaiting.toNat ≤ 1 := by
  refine ⟨?_, Bool.toNat_le _⟩
  cases back : place.back time with
  | false => exact Nat.zero_le _
  | true => simp [Place.isWaiting_of_back back]

theorem Supplied.taken (supplied : Supplied s) {worker : Nat} {old : Place} {task : Task}
    (here : s.mWorkers[worker]? = some old) (top : IsTop s.mTasks (some task))
    (workers : next.mWorkers = s.mWorkers.set worker (.running task)) (tasks : next.mTasks = s.mTasks.erase task) :
    Supplied next := by
  intro time
  have waiting : next.waiting + old.isWaiting.toNat = s.waiting + 0 := waiting_moved here workers
  have back : next.back time + (old.back time).toNat = s.back time + 0 := back_moved here workers time
  obtain ⟨inside, one⟩ := back_le_isWaiting old time
  have before := supplied time
  by_cases early : task.time ≤ time
  · have due := due_erase top.1 tasks early
    omega
  · have none : next.due time = 0 := by
      apply List.countP_eq_zero.mpr
      intro other member
      rw [tasks] at member
      exact List.countP_eq_zero.mp (due_zero top (Nat.lt_of_not_le early)) other (List.mem_of_mem_erase member)
    omega

theorem Supplied.sleeps (supplied : Supplied s) {worker : Nat} {old : Place} {task : Task}
    (here : s.mWorkers[worker]? = some old) (top : IsTop s.mTasks (some task))
    (workers : next.mWorkers = s.mWorkers.set worker (.waiting (some task.time) false))
    (tasks : next.mTasks = s.mTasks) : Supplied next := by
  intro time
  have due : next.due time = s.due time := by rw [ThreadPool.due, tasks, ThreadPool.due]
  by_cases early : task.time ≤ time
  · have waiting : next.waiting + old.isWaiting.toNat = s.waiting + 1 := waiting_moved here workers
    have back := back_moved here workers time
    have awake : (Place.waiting (some task.time) false).back time = true := by simp [Place.back, early]
    rw [awake, Bool.toNat_true] at back
    obtain ⟨inside, one⟩ := back_le_isWaiting old time
    have before := supplied time
    omega
  · have none := due_zero top (Nat.lt_of_not_le early)
    omega

theorem Supplied.set (supplied : Supplied s) {worker : Nat} {old new : Place} (here : s.mWorkers[worker]? = some old)
    (awake : old.isWaiting = false) (workers : next.mWorkers = s.mWorkers.set worker new)
    (stays : new.isWaiting = false) (tasks : next.mTasks = s.mTasks) : Supplied next := by
  intro time
  have due : next.due time = s.due time := by rw [ThreadPool.due, tasks, ThreadPool.due]
  have waiting := waiting_moved here workers
  have back := back_moved here workers time
  have before := supplied time
  have oldInside := (back_le_isWaiting old time).1
  have newInside := (back_le_isWaiting new time).1
  rw [awake] at waiting oldInside
  rw [stays] at waiting newInside
  simp only [Bool.toNat_false] at waiting oldInside newInside
  omega

theorem Supplied.of_same (supplied : Supplied s) (workers : next.mWorkers = s.mWorkers)
    (tasks : next.mTasks = s.mTasks) : Supplied next := by
  unfold Supplied ThreadPool.due ThreadPool.waiting ThreadPool.back
  rw [workers, tasks]
  exact supplied

theorem due_schedule (task : Task) (woken : Option Nat) (time : Nat) :
    (s.schedule task woken).due time = s.due time + (if task.time ≤ time then 1 else 0) := by
  simp only [ThreadPool.due, ThreadPool.schedule, List.countP_append, List.countP_singleton, decide_eq_true_eq]

theorem schedule_counts (task : Task) {worker : Nat} {«until» : Option Nat}
    (here : s.mWorkers[worker]? = some (.waiting «until» false)) (time : Nat) :
    (s.schedule task (some worker)).waiting = s.waiting ∧
      (s.schedule task (some worker)).back time + ((Place.waiting «until» false).back time).toNat =
          s.back time + 1 := by
  have workers : (s.schedule task (some worker)).mWorkers = s.mWorkers.set worker (.waiting «until» true) := by
    change s.mWorkers.modify worker Place.notify = _
    rw [List.modify_eq_set_getElem?, here]
    rfl
  have waiting := waiting_moved here workers
  refine ⟨?_, back_moved here workers time⟩
  simp only [Place.isWaiting, Bool.toNat_true] at waiting
  omega

theorem ThreadPool.schedule_supplied {task : Task} {woken : Option Nat} (supplied : Supplied s)
    (wakes : Wakes s.mWorkers woken) (enough : WakesEnough s (.schedule task woken)) :
    Supplied (s.schedule task woken) := by
  cases woken with
  | none => exact supplied_of_notified wakes
  | some worker =>
    obtain ⟨«until», here⟩ := wakes
    intro time
    obtain ⟨waiting, back⟩ := schedule_counts task here time
    have before := supplied time
    rw [due_schedule, waiting]
    cases awake : (Place.waiting «until» false).back time with
    | false =>
      rw [awake, Bool.toNat_false] at back
      split <;> omega
    | true =>
      rw [awake, Bool.toNat_true] at back
      split
      · rename_i early
        have enough := enough task worker _ time rfl here early awake
        omega
      · omega

/-! ### Runs -/

structure Invariant (s : ThreadPool) : Prop where
  supplied : Supplied s
  joining : JoinNotifies s

theorem notified_of_set {worker : Nat} {new : Place} (notified : ∀ «until», .waiting «until» false ∉ s.mWorkers)
    (moves : ∀ «until», new ≠ .waiting «until» false) (workers : next.mWorkers = s.mWorkers.set worker new) :
    ∀ «until», .waiting «until» false ∉ next.mWorkers := by
  intro «until» member
  rw [workers] at member
  exact notified «until» (mem_of_mem_set member (Ne.symm (moves «until»)))

/-- No worker begins to wait while the pool is joining. -/
theorem step_joinNotifies (s : ThreadPool) (label : Label) (next : ThreadPool) (joining : JoinNotifies s)
    (step : Step s label next) : JoinNotifies next := by
  have dequeued (worker : Nat) (top : Option Task) : JoinNotifies (s.dequeue worker top) := by
    intro joins
    rw [(s.dequeue_kept worker top).1] at joins
    rcases s.dequeue_cases worker top with ⟨_, workers⟩ | ⟨running, _⟩ | ⟨_, running, _⟩ | ⟨_, running, _⟩
    · exact notified_of_set (joining joins) (by simp) workers
    all_goals exact absurd (joins.symm.trans running) (by decide)
  cases step with
  | spawn _ =>
    intro joins «until» member
    rcases List.mem_append.mp member with before | new
    · exact joining joins «until» before
    · simp at new
  | run worker here => exact fun joins => notified_of_set (joining joins) (by simp) rfl
  | dequeue worker top here isTop => exact dequeued worker top
  | wakes worker «until» notified top here isTop => exact dequeued worker top
  | ran worker task here => exact fun joins => notified_of_set (joining joins) (by simp) rfl
  | leave worker here => exact fun joins => notified_of_set (joining joins) (by simp) rfl
  | schedule task woken wakes =>
    intro joins «until» member
    cases woken with
    | none => exact wakes «until» member
    | some worker =>
      obtain ⟨asleep, here⟩ := wakes
      exact joining joins asleep (List.mem_of_getElem? here)
  | clear => exact joining
  | join _ =>
    intro _ «until» member
    obtain ⟨place, _, same⟩ := List.mem_map.mp member
    cases place <;> simp [Place.notify] at same
  | lockWorkers _ _ => exact joining
  | joined _ _ => exact fun joins => absurd joins (by simp [ThreadPool.joined])
  | tick now _ => exact joining

theorem keeps_supplied (s : ThreadPool) (label : Label) (next : ThreadPool) (inv : Invariant s)
    (step : Step s label next) (enough : WakesEnough s label) : Supplied next := by
  have supplied := inv.supplied
  have dequeued {worker : Nat} {old : Place} {top : Option Task} (here : s.mWorkers[worker]? = some old)
      (isTop : IsTop s.mTasks top) : Supplied (s.dequeue worker top) := by
    rcases s.dequeue_cases worker top with ⟨joins, workers⟩ | ⟨_, rfl, tasks⟩ | ⟨task, _, rfl, _, workers, tasks⟩ |
      ⟨task, _, rfl, _, workers, tasks⟩
    · exact supplied_of_notified (notified_of_set (inv.joining joins) (by simp) workers)
    · exact supplied_of_empty (tasks.trans isTop)
    · exact supplied.taken here isTop workers tasks
    · exact supplied.sleeps here isTop workers tasks
  cases step with
  | spawn _ =>
    intro time
    have before := supplied time
    simpa [ThreadPool.due, ThreadPool.waiting, ThreadPool.back, ThreadPool.spawn, List.countP_append, Place.isWaiting,
      Place.back] using before
  | run worker here => exact supplied.set here rfl rfl rfl rfl
  | dequeue worker top here isTop => exact dequeued here isTop
  | wakes worker «until» notified top here isTop => exact dequeued here isTop
  | ran worker task here => exact supplied.set here rfl rfl rfl rfl
  | leave worker here => exact supplied.set here rfl rfl rfl rfl
  | schedule task woken wakes => exact ThreadPool.schedule_supplied supplied wakes enough
  | clear => exact supplied_of_empty rfl
  | join free =>
    have step : Step s .join s.join := .join free
    exact supplied_of_notified (step_joinNotifies s .join s.join inv.joining step rfl)
  | lockWorkers _ _ => exact supplied.of_same rfl rfl
  | joined _ _ => exact supplied_of_notified fun _ => List.not_mem_nil
  | tick now _ => exact supplied.of_same rfl rfl

theorem keeps_invariant (s : ThreadPool) (label : Label) (next : ThreadPool) (inv : Invariant s)
    (step : Step s label next) (enough : WakesEnough s label) : Invariant next :=
  ⟨keeps_supplied s label next inv step enough, step_joinNotifies s label next inv.joining step⟩

theorem initial_invariant : Invariant ThreadPool.initial :=
  ⟨supplied_of_empty rfl, fun joins => absurd joins (by decide)⟩

theorem covered_of_wakesEnough {trace : List (Label × ThreadPool)} (run : Run Step ThreadPool.initial trace)
    (enough : Guarded WakesEnough ThreadPool.initial trace) : Always Covered ThreadPool.initial trace :=
  always_mono (fun _ inv => inv.supplied.covered) trace _
    (always_of_guarded keeps_invariant trace _ initial_invariant run enough)

/-! ### Too few workers -/

/-- When the clock has come to the time, the workers that are back take a task each, by induction on their number,
and leave one. -/
theorem exists_stranded (count : Nat) (s : ThreadPool) (time : Nat) (back : s.back time = count)
    (few : s.back time < min (s.due time) s.waiting) (running : s.mJoining = false) (late : time ≤ s.now) :
    ∃ more, Run Step s more ∧ (∀ taken ∈ more, ¬Schedules taken.1) ∧ ¬Covered (last s more) := by
  induction count generalizing s with
  | zero =>
    have stranded : ¬Covered s := not_covered back (by omega) (by omega) running
    exact ⟨[], trivial, by simp, stranded⟩
  | succ count ih =>
    obtain ⟨place, member, isBack⟩ := List.countP_pos_iff.mp (show 0 < s.back time by omega)
    obtain ⟨worker, here⟩ := List.mem_iff_getElem?.mp member
    obtain ⟨task, there, early⟩ := List.countP_pos_iff.mp (show 0 < s.due time by omega)
    obtain ⟨top, first⟩ := exists_top (List.ne_nil_of_mem there)
    have early : task.time ≤ time := by simpa using early
    have least := first.2 task there
    have step : Step s (.dequeue worker (some top)) (s.dequeue worker (some top)) := by
      cases place with
      | waiting «until» notified => exact .wakes worker «until» notified _ here first
      | starting | dequeuing | running | leaving | finished => cases isBack
    rcases s.dequeue_cases worker (some top) with ⟨joins, _⟩ | ⟨_, absent, _⟩ | ⟨taken, _, same, _, workers, tasks⟩ |
      ⟨taken, _, same, future, _⟩
    · exact absurd (joins.symm.trans running) (by decide)
    · cases absent
    · obtain rfl := Option.some.inj same
      have waits := Place.isWaiting_of_back isBack
      have waiting : (s.dequeue worker (some top)).waiting + place.isWaiting.toNat = s.waiting + 0 :=
        waiting_moved here workers
      have moved : (s.dequeue worker (some top)).back time + (place.back time).toNat = s.back time + 0 :=
        back_moved here workers time
      rw [waits, Bool.toNat_true] at waiting
      rw [isBack, Bool.toNat_true] at moved
      have due := due_erase first.1 tasks (Nat.le_trans least early)
      obtain ⟨joining, now⟩ := s.dequeue_kept worker (some top)
      obtain ⟨more, run, quiet, stranded⟩ := ih (s.dequeue worker (some top)) (by omega) (by omega)
        (joining.trans running) (by omega)
      refine ⟨(.dequeue worker (some top), _) :: more, ⟨step, run⟩, ?_, stranded⟩
      intro taken member
      rcases List.mem_cons.mp member with rfl | later
      · exact id
      · exact quiet taken later
    · obtain rfl := Option.some.inj same
      omega

/-- Behind a call of `schedule` that wakes too few, some order of the workers' steps leaves the tasks to nobody. -/
theorem exists_stranded_of_schedule {label : Label} (joining : JoinNotifies s) (step : Step s label next)
    (few : ¬WakesEnough s label) :
    ∃ more, Run Step next more ∧ (∀ taken ∈ more, ¬Schedules taken.1) ∧ ¬Covered (last next more) := by
  unfold WakesEnough at few
  push Not at few
  obtain ⟨task, worker, place, time, rfl, here, early, awake, few⟩ := few
  cases step with
  | schedule _ _ wakes =>
    obtain ⟨«until», asleep⟩ := wakes
    obtain rfl := Option.some.inj (here.symm.trans asleep)
    have running : s.mJoining = false := by
      cases joins : s.mJoining with
      | false => rfl
      | true => exact absurd (List.mem_of_getElem? asleep) (joining joins «until»)
    obtain ⟨waiting, back⟩ := schedule_counts task asleep time
    rw [awake, Bool.toNat_true] at back
    have due := due_schedule (s := s) task (some worker) time
    rw [if_pos early] at due
    have short : (s.schedule task (some worker)).back time <
        min ((s.schedule task (some worker)).due time) (s.schedule task (some worker)).waiting := by omega
    let scheduled := s.schedule task (some worker)
    let later : ThreadPool := { scheduled with now := max scheduled.now time }
    have tick : Step scheduled (.tick (max scheduled.now time)) later := .tick _ (Nat.le_max_left _ _)
    obtain ⟨more, run, quiet, stranded⟩ := exists_stranded (later.back time) later time rfl
      short running (Nat.le_max_right _ _)
    refine ⟨(.tick _, later) :: more, ⟨tick, run⟩, ?_, stranded⟩
    intro taken member
    rcases List.mem_cons.mp member with rfl | behind
    · exact id
    · exact quiet taken behind

/-- Each call of `schedule` in a run wakes enough workers exactly when, at every time of the run and however the
workers go on from there, the tasks that are left have a worker that comes back for them. -/
theorem covered_iff (trace : List (Label × ThreadPool)) (run : Run Step ThreadPool.initial trace) :
    (∀ before after more, trace = before ++ after → Run Step (last ThreadPool.initial before) more →
      (∀ taken ∈ more, ¬Schedules taken.1) → Always Covered ThreadPool.initial (before ++ more)) ↔
      Guarded WakesEnough ThreadPool.initial trace := by
  constructor
  · intro always
    apply guarded_of_cuts trace
    intro before taken after same
    by_contra few
    rw [same] at run
    obtain ⟨ran, step, _⟩ := run.split
    have joining := (always_of_step step_joinNotifies before _ (fun joins => absurd joins (by decide)) ran).last
    obtain ⟨more, goesOn, quiet, stranded⟩ := exists_stranded_of_schedule joining step few
    have cut : last ThreadPool.initial (before ++ [taken]) = taken.2 := last_append _ _ _
    have covered := (always (before ++ [taken]) after more (by rw [same, List.append_assoc]; rfl)
      (cut ▸ goesOn) quiet).last
    rw [last_append, cut] at covered
    exact stranded covered
  · intro enough before after more same goesOn quiet
    subst same
    have ran := run.split.1
    have later : Guarded WakesEnough (last ThreadPool.initial before) more := by
      apply guarded_of_cuts more
      intro first taken rest cut task worker place time label
      have member : taken ∈ more := by
        rw [cut]
        simp
      exact absurd (label ▸ trivial) (quiet taken member)
    exact covered_of_wakesEnough (ran.append goesOn) (enough.before.append later)

end

/-- Two workers wait, and a task is scheduled for later. One of them waits until then. -/
def scheduledLater : List (Label × ThreadPool) :=
  let later : Task := ⟨100, 1⟩
  let one := ThreadPool.initial.spawn
  let two := one.spawn
  let three := two.run 0
  let four := three.run 1
  let five := four.dequeue 0 none
  let six := five.dequeue 1 none
  let seven := six.schedule later (some 0)
  let eight := seven.dequeue 0 (some later)
  [(.spawn, one), (.spawn, two), (.run 0, three), (.run 1, four), (.dequeue 0 none, five), (.dequeue 1 none, six),
    (.schedule later (some 0), seven), (.dequeue 0 (some later), eight)]

theorem scheduledLater_run : Run Step ThreadPool.initial scheduledLater :=
  ⟨.spawn rfl, .spawn rfl, .run 0 rfl, .run 1 rfl, .dequeue 0 _ rfl (by decide), .dequeue 1 _ rfl (by decide),
    .schedule _ _ ⟨none, rfl⟩, .wakes 0 none true _ rfl (by decide), trivial⟩

/-- A task that is due wakes the second worker and is run by it; the first worker runs the other one in its time. -/
def ranBoth : List (Label × ThreadPool) :=
  let later : Task := ⟨100, 1⟩
  let now : Task := ⟨0, 2⟩
  let nine := (last ThreadPool.initial scheduledLater).schedule now (some 1)
  let ten := nine.dequeue 1 (some now)
  let eleven : ThreadPool := { ten with now := 100 }
  let twelve := eleven.dequeue 0 (some later)
  let thirteen := twelve.ran 1
  [(.schedule now (some 1), nine), (.dequeue 1 (some now), ten), (.tick 100, eleven), (.dequeue 0 (some later), twelve),
    (.ran 1, thirteen), (.dequeue 1 none, thirteen.dequeue 1 none)]

theorem ranBoth_run : Run Step (last ThreadPool.initial scheduledLater) ranBoth :=
  ⟨.schedule _ _ ⟨none, rfl⟩, .wakes 1 none true _ rfl (by decide), .tick 100 (by decide),
    .wakes 0 (some 100) false _ rfl (by decide), .ran 1 ⟨0, 2⟩ rfl, .dequeue 1 _ rfl (by decide), trivial⟩

theorem wakesEnough_of_unlimited {s : ThreadPool} {task : Task} {worker : Nat}
    (here : s.mWorkers[worker]? = some (.waiting none false)) : WakesEnough s (.schedule task (some worker)) := by
  intro task worker place time same found _ back
  cases same
  obtain rfl := Option.some.inj (here.symm.trans found)
  cases back

theorem covered_ranBoth : Always Covered ThreadPool.initial (scheduledLater ++ ranBoth) := by
  have run := scheduledLater_run.append ranBoth_run
  have quiet {s : ThreadPool} {label : Label} (other : ¬Schedules label) : WakesEnough s label := by
    intro task worker place time same
    exact absurd (same ▸ trivial) other
  have enough : Guarded WakesEnough ThreadPool.initial (scheduledLater ++ ranBoth) :=
    ⟨quiet id, quiet id, quiet id, quiet id, quiet id, quiet id, wakesEnough_of_unlimited rfl, quiet id,
      wakesEnough_of_unlimited rfl, quiet id, quiet id, quiet id, quiet id, quiet id, trivial⟩
  have covered := (covered_iff _ run).mpr enough (scheduledLater ++ ranBoth) [] [] (List.append_nil _).symm trivial
  rw [List.append_nil] at covered
  exact covered (fun _ member => absurd member List.not_mem_nil)

/-- A task that is due takes the worker that waits for the other one, and the second worker sleeps without limit. -/
def scheduledNow : List (Label × ThreadPool) :=
  let now : Task := ⟨0, 2⟩
  let nine := (last ThreadPool.initial scheduledLater).schedule now (some 0)
  [(.schedule now (some 0), nine), (.dequeue 0 (some now), nine.dequeue 0 (some now))]

theorem scheduledNow_not_covered : ¬∀ trace : List (Label × ThreadPool), Run Step ThreadPool.initial trace →
    Always Covered ThreadPool.initial trace := by
  intro all
  have more : Run Step (last ThreadPool.initial scheduledLater) scheduledNow :=
    ⟨.schedule _ _ ⟨some 100, rfl⟩, .wakes 0 (some 100) true _ rfl (by decide), trivial⟩
  have covered := (all _ (scheduledLater_run.append more)).last
  rw [last_append] at covered
  obtain ⟨place, member, covers⟩ := covered (by decide) rfl ⟨.waiting none false, by decide, rfl⟩
  have places : place = .running ⟨0, 2⟩ ∨ place = .waiting none false := by
    simpa using (show place ∈ [Place.running ⟨0, 2⟩, .waiting none false] from member)
  rcases places with rfl | rfl
  · exact covers
  · rcases covers with notified | ⟨_, absent, _⟩
    · cases notified
    · cases absent

end WebsocketClient.ThreadPools
