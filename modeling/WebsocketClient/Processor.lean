import Mathlib.Data.List.Basic
import WebsocketClient.Library.Runs
import WebsocketClient.Queue

/-! `impl/processor.cpp`. A processor has one of its tasks in the thread pool at a time: the scope guard of
each task submits the next one. -/

namespace WebsocketClient.Processors
open Queues Library.Runs

/-- Where `enqueue` is that holds `mMutex`. -/
inductive Place (T : Type) where
  /-- The thread pool has the task, and `mPending` is about to be set. -/
  | submitted
  /-- In `Queue::push`. -/
  | pushing (task : T)
  deriving DecidableEq, Repr

structure Processor (T : Type) where
  mTasks : Queue T
  mPending : Bool
  /-- `none` when `mMutex` is free. -/
  enqueues : Option (Place T)
  /-- The tasks that the thread pool has not begun, and the bodies it runs. -/
  pool : List T
  running : List T
  /-- The scope guards that have still to call `schedule`, behind a body that is over. -/
  guards : Nat
  /-- The calls of `enqueue`, the bodies that were begun, and those that are over. -/
  enqueued : List T
  started : List T
  finished : List T
  deriving DecidableEq, Repr

variable {T : Type}

namespace Processor

def new (limit : Nat) : Processor T where
  mTasks := .new limit
  mPending := false
  enqueues := none
  pool := []
  running := []
  guards := 0
  enqueued := []
  started := []
  finished := []

variable (s : Processor T)

/-- Takes `mMutex`, and keeps it until `mPending` is set or the task is pushed. -/
def enqueue (task : T) : Processor T :=
  let s := { s with enqueued := s.enqueued ++ [task] }
  if !s.mPending then { s with pool := s.pool ++ [task], enqueues := some .submitted }
  else { s with enqueues := some (.pushing task) }

def setPending : Processor T := { s with mPending := true, enqueues := none }

/-- Nothing happens while the queue is full. -/
def push (task : T) : Processor T :=
  match s.mTasks.push (fun _ => 1) task with
  | some tasks => { s with mTasks := tasks, enqueues := none }
  | none => s

def start [DecidableEq T] (task : T) : Processor T :=
  { s with pool := s.pool.erase task, running := s.running ++ [task], started := s.started ++ [task] }

def finish [DecidableEq T] (task : T) : Processor T :=
  { s with running := s.running.erase task, guards := s.guards + 1, finished := s.finished ++ [task] }

/-- Called by a scope guard. -/
def schedule : Processor T :=
  let s := { s with guards := s.guards - 1 }
  match s.mTasks.pop (fun _ => 1) with
  | (some next, tasks) => { s with mTasks := tasks, pool := s.pool ++ [next] }
  | (none, _) => { s with mPending := false }

/-- The condition that `join` waits for. -/
def joins : Bool := !s.mPending && s.mTasks.empty

/-- The tasks in the thread pool: pending, or running until the next one is chained. -/
def inPool : Nat := s.pool.length + s.running.length + s.guards

def pushing : List T :=
  match s.enqueues with
  | some (.pushing task) => [task]
  | _ => []

end Processor

inductive Label (T : Type) where
  | enqueue (task : T)
  | setPending
  | push (task : T)
  | start (task : T)
  | finish (task : T) (throws : Bool)
  | schedule
  | join
  deriving DecidableEq, Repr

/-- The thread pool begins what it was given, in any order. -/
inductive Step [DecidableEq T] (s : Processor T) : Label T → Processor T → Prop where
  | enqueue (task : T) : s.enqueues = none → Step s (.enqueue task) (s.enqueue task)
  | setPending : s.enqueues = some .submitted → Step s .setPending s.setPending
  | push (task : T) : s.enqueues = some (.pushing task) → s.mTasks.hasRoom → Step s (.push task) (s.push task)
  | start (task : T) : task ∈ s.pool → Step s (.start task) (s.start task)
  | finish (task : T) (throws : Bool) : task ∈ s.running → Step s (.finish task throws) (s.finish task)
  | schedule : s.enqueues = none → 0 < s.guards → Step s .schedule s.schedule
  | join : s.enqueues = none → s.joins = true → Step s .join s

/-- What goes on without a new call. -/
structure Internal [DecidableEq T] (s : Processor T) (label : Label T) (next : Processor T) : Prop where
  notCall : ∀ task, label ≠ .enqueue task
  notJoin : label ≠ .join
  step : Step s label next

structure Orderly [DecidableEq T] (s : Processor T) : Prop where
  apart : s.running.length ≤ 1
  order : s.started <+: s.enqueued
  one : s.inPool ≤ 1
  /-- The call that hands a task to the thread pool sets `mPending` before it gives the mutex back. -/
  pending : s.mPending = true ∨ s.enqueues = some .submitted ↔ s.inPool = 1
  joined : ∀ next, Step s .join next → s.finished = s.enqueued
  completes : Inevitable Internal (fun s => s.finished = s.enqueued) s

/-- No call of `enqueue` has to wait for room in the queue. -/
def Room (s : Processor T) (label : Label T) : Prop :=
  ∀ task, label = .enqueue task → s.mPending = true → s.mTasks.hasRoom

structure Inv (s : Processor T) : Prop where
  order : s.enqueued = s.started ++ s.pool ++ s.mTasks.mQueue ++ s.pushing
  begun : s.started = s.finished ++ s.running
  one : s.inPool ≤ 1
  pending : s.mPending = true ∨ s.enqueues = some .submitted ↔ s.inPool = 1
  queued : s.mPending = false → s.mTasks.mQueue = []
  pushes : ∀ task, s.enqueues = some (.pushing task) → s.mPending = true ∧ s.mTasks.hasRoom
  goes : s.mTasks.mStopping = false

theorem eq_singleton {task : T} {tasks : List T} (member : task ∈ tasks) (bound : tasks.length ≤ 1) :
    tasks = [task] := by
  obtain ⟨other, rfl⟩ := List.length_eq_one_iff.mp (Nat.le_antisymm bound (List.length_pos_of_mem member))
  rw [List.mem_singleton.mp member]

namespace Inv
variable {s : Processor T}

theorem new (limit : Nat) : Inv (Processor.new limit : Processor T) where
  order := rfl
  begun := rfl
  one := Nat.zero_le 1
  pending := by simp [Processor.new, Processor.inPool]
  queued _ := rfl
  pushes := by simp [Processor.new]
  goes := rfl

theorem enqueue {task : T} (inv : Inv s) (free : s.enqueues = none) (room : Room s (.enqueue task)) :
    Inv (s.enqueue task) := by
  have order := inv.order
  have none : s.pushing = [] := by simp [Processor.pushing, free]
  rw [none, List.append_nil] at order
  unfold Processor.enqueue
  simp only
  split
  · rename_i idle
    have idle : s.mPending = false := by simpa using idle
    have absent : s.inPool ≠ 1 := fun one => by simpa [idle, free] using inv.pending.mpr one
    have zero : s.inPool = 0 := by
      have := inv.one
      omega
    have queue := inv.queued idle
    have fresh : s.pool = [] := by
      have : s.pool.length = 0 := by
        unfold Processor.inPool at zero
        omega
      exact List.length_eq_zero_iff.mp this
    refine ⟨?_, inv.begun, ?_, ?_, inv.queued, by simp, inv.goes⟩
    · simp [order, fresh, queue, Processor.pushing]
    · unfold Processor.inPool at zero ⊢
      simp only [List.length_append, List.length_singleton]
      omega
    · unfold Processor.inPool at zero ⊢
      simp only [List.length_append, List.length_singleton, or_true, true_iff]
      omega
  · rename_i busy
    have busy : s.mPending = true := by simpa using busy
    refine ⟨?_, inv.begun, inv.one, ?_, inv.queued, fun _ _ => ⟨busy, room task rfl busy⟩, inv.goes⟩
    · simp [order, Processor.pushing]
    · have one := inv.pending.mp (.inl busy)
      exact ⟨fun _ => one, fun _ => .inl busy⟩

theorem setPending (inv : Inv s) (here : s.enqueues = some .submitted) : Inv s.setPending := by
  have one : s.setPending.inPool = 1 := inv.pending.mp (.inr here)
  have order := inv.order
  simp only [Processor.pushing, here] at order
  exact ⟨order, inv.begun, inv.one, ⟨fun _ => one, fun _ => .inl rfl⟩,
      fun idle => absurd idle (by simp [Processor.setPending]),
    fun task there => absurd there (by simp [Processor.setPending]), inv.goes⟩

theorem push {task : T} (inv : Inv s) (here : s.enqueues = some (.pushing task)) : Inv (s.push task) := by
  obtain ⟨pending, room⟩ := inv.pushes task here
  have order := inv.order
  simp only [Processor.pushing, here] at order
  unfold Processor.push
  rw [Queue.push_running _ _ _ inv.goes room]
  have one : s.inPool = 1 := inv.pending.mp (.inl pending)
  refine ⟨?_, inv.begun, inv.one, ⟨fun _ => one, fun _ => .inl pending⟩, fun idle => ?_, by simp, inv.goes⟩
  · simp [order, Processor.pushing]
  · exact absurd (idle.symm.trans pending) (by decide)

theorem start [DecidableEq T] {task : T} (inv : Inv s) (member : task ∈ s.pool) : Inv (s.start task) := by
  have one := inv.one
  unfold Processor.inPool at one
  have pool : s.pool = [task] := eq_singleton member (by omega)
  have idle : s.running.length = 0 ∧ s.guards = 0 := by
    rw [pool, List.length_singleton] at one
    omega
  have running : s.running = [] := List.length_eq_zero_iff.mp idle.1
  have same : (s.start task).inPool = s.inPool := by simp [Processor.start, Processor.inPool, pool, running]
  refine ⟨?_, ?_, same ▸ inv.one, same ▸ inv.pending, inv.queued, inv.pushes, inv.goes⟩
  · simpa [Processor.start, Processor.pushing, pool] using inv.order
  · simp [Processor.start, inv.begun]

theorem finish [DecidableEq T] {task : T} (inv : Inv s) (member : task ∈ s.running) : Inv (s.finish task) := by
  have one := inv.one
  unfold Processor.inPool at one
  have running : s.running = [task] := eq_singleton member (by omega)
  have same : (s.finish task).inPool = s.inPool := by
    simp only [Processor.finish, Processor.inPool, running, List.erase_cons_head, List.length_nil,
        List.length_singleton]
    omega
  refine ⟨inv.order, ?_, same ▸ inv.one, same ▸ inv.pending, inv.queued, inv.pushes, inv.goes⟩
  simp [Processor.finish, inv.begun, running]

end Inv

theorem Processor.schedule_cases (s : Processor T) :
    (∃ next tasks, s.mTasks.mQueue = next :: tasks.mQueue ∧ tasks.mStopping = s.mTasks.mStopping ∧
      s.schedule = { s with mTasks := tasks, pool := s.pool ++ [next], guards := s.guards - 1 }) ∨
    (s.mTasks.mQueue = [] ∧ s.schedule = { s with mPending := false, guards := s.guards - 1 }) := by
  unfold schedule
  rcases popped : s.mTasks.pop (fun _ => 1) with ⟨_ | next, tasks⟩
  · simp only [popped]
    exact .inr ⟨(Queue.pop_eq_none popped).1, trivial⟩
  · simp only [popped]
    obtain ⟨shape, stopping⟩ := Queue.pop_eq_some popped
    exact .inl ⟨next, tasks, shape, stopping, rfl⟩

/-- The guard of the only task in the thread pool. -/
theorem Inv.schedule {s : Processor T} (inv : Inv s) (free : s.enqueues = none) (behind : 0 < s.guards) :
    Inv s.schedule := by
  have total := inv.one
  unfold Processor.inPool at total
  have alone : s.pool.length = 0 ∧ s.running.length = 0 ∧ s.guards = 1 := by omega
  have pool : s.pool = [] := List.length_eq_zero_iff.mp alone.1
  have one : s.inPool = 1 := by
    unfold Processor.inPool
    omega
  have busy : s.mPending = true := by simpa [free] using inv.pending.mpr one
  have order := inv.order
  have none : s.pushing = [] := by simp [Processor.pushing, free]
  rcases s.schedule_cases with ⟨next, tasks, shape, stopping, same⟩ | ⟨empty, same⟩
  · rw [same]
    refine ⟨?_, inv.begun, ?_, ?_, fun idle => ?_, ?_, stopping.trans inv.goes⟩
    · simpa [shape, pool, Processor.pushing, free] using order
    · simp [Processor.inPool, pool, alone]
    · simp [Processor.inPool, pool, alone, busy]
    · exact absurd (idle.symm.trans busy) (by decide)
    · simp [free]
  · rw [same]
    refine ⟨?_, inv.begun, ?_, ?_, fun _ => empty, ?_, inv.goes⟩
    · simpa [Processor.pushing, free] using order
    · simp [Processor.inPool, alone]
    · simp [Processor.inPool, alone, free]
    · simp [free]

section
variable [DecidableEq T]

theorem keeps_inv (s : Processor T) (label : Label T) (next : Processor T) (inv : Inv s) (step : Step s label next)
    (room : Room s label) : Inv next := by
  cases step with
  | enqueue task free => exact inv.enqueue free room
  | setPending here => exact inv.setPending here
  | push task here _ => exact inv.push here
  | start task member => exact inv.start member
  | finish task throws member => exact inv.finish member
  | schedule free behind => exact inv.schedule free behind
  | join => exact inv

/-- What is left to be done for the calls there were. -/
def Processor.work (s : Processor T) : Nat :=
  (match s.enqueues with
    | none => 0
    | some .submitted => 1
    | some (.pushing _) => 4) +
  3 * s.mTasks.mQueue.length + 3 * s.pool.length + 2 * s.running.length + s.guards

theorem work_decreases (s : Processor T) (label : Label T) (next : Processor T) (inv : Inv s)
    (internal : Internal s label next) : next.work < s.work := by
  obtain ⟨notCall, notJoin, step⟩ := internal
  cases step with
  | enqueue task => exact absurd rfl (notCall task)
  | setPending here => simp only [Processor.work, Processor.setPending, here]; omega
  | push task here room =>
    simp only [Processor.work, Processor.push, Queue.push_running _ _ _ inv.goes room, here, List.length_append,
      List.length_singleton]
    omega
  | start task member =>
    have positive := List.length_pos_of_mem member
    simp only [Processor.work, Processor.start, List.length_erase_of_mem member, List.length_append,
        List.length_singleton]
    omega
  | finish task throws member =>
    have positive := List.length_pos_of_mem member
    simp only [Processor.work, Processor.finish, List.length_erase_of_mem member]
    omega
  | schedule free behind =>
    rcases s.schedule_cases with ⟨next, tasks, shape, _, same⟩ | ⟨_, same⟩
    · rw [same]
      simp only [Processor.work, shape, List.length_append, List.length_cons, List.length_nil]
      omega
    · rw [same]
      simp only [Processor.work]
      omega
  | join => exact absurd rfl notJoin

theorem Inv.ends {s : Processor T} (inv : Inv s) (stuck : ∀ label next, ¬Internal s label next) :
    s.finished = s.enqueued := by
  have free : s.enqueues = none := by
    rcases here : s.enqueues with _ | _ | task
    · rfl
    · exact absurd ⟨by simp, by simp, .setPending here⟩ (stuck .setPending _)
    · exact absurd ⟨by simp, by simp, .push task here (inv.pushes task here).2⟩ (stuck (.push task) _)
  have pool : s.pool = [] := by
    apply List.eq_nil_iff_forall_not_mem.mpr
    intro task member
    exact stuck (.start task) _ ⟨by simp, by simp, .start task member⟩
  have running : s.running = [] := by
    apply List.eq_nil_iff_forall_not_mem.mpr
    intro task member
    exact stuck (.finish task false) _ ⟨by simp, by simp, .finish task false member⟩
  have guards : s.guards = 0 := by
    rcases Nat.eq_zero_or_pos s.guards with zero | behind
    · exact zero
    · exact absurd ⟨by simp, by simp, .schedule free behind⟩ (stuck .schedule _)
  have idle : s.mPending = false := by
    have pending := inv.pending
    simpa [free, Processor.inPool, pool, running, guards] using pending
  have order := inv.order
  have begun := inv.begun
  rw [pool, inv.queued idle, Processor.pushing, free] at order
  rw [running] at begun
  simpa [begun] using order.symm

theorem Internal.room {s : Processor T} {label : Label T} {next : Processor T} (internal : Internal s label next) :
    Room s label := by
  obtain ⟨notCall, _, _⟩ := internal
  exact fun task call => absurd call (notCall task)

theorem Inv.completes {s : Processor T} (inv : Inv s) : Inevitable Internal (fun s => s.finished = s.enqueued) s :=
  inevitable_of_measure Processor.work
    (fun s label next inv internal => keeps_inv s label next inv internal.step internal.room)
    work_decreases (fun _ inv stuck => inv.ends stuck) s inv

theorem Inv.orderly {s : Processor T} (inv : Inv s) : Orderly s where
  apart := by
    have one := inv.one
    unfold Processor.inPool at one
    omega
  order := by
    rw [inv.order, List.append_assoc, List.append_assoc]
    exact List.prefix_append _ _
  one := inv.one
  pending := inv.pending
  joined := by
    intro next step
    cases step with
    | join free joins =>
      simp only [Processor.joins, Queue.empty, Bool.and_eq_true, Bool.not_eq_true', List.isEmpty_iff] at joins
      have absent : s.inPool ≠ 1 := fun one => by simpa [joins.1, free] using inv.pending.mpr one
      have one := inv.one
      unfold Processor.inPool at absent one
      have pool : s.pool = [] := List.length_eq_zero_iff.mp (by omega)
      have running : s.running = [] := List.length_eq_zero_iff.mp (by omega)
      have order := inv.order
      have begun := inv.begun
      rw [pool, joins.2, Processor.pushing, free] at order
      rw [running] at begun
      simpa [begun] using order.symm
  completes := inv.completes

/-- A call that waits for room has the mutex with which `schedule` would make room. -/
structure Waits (s : Processor T) : Prop where
  here : ∃ task, s.enqueues = some (.pushing task)
  full : ¬s.mTasks.hasRoom
  order : s.started.length + s.pool.length < s.enqueued.length
  begun : s.finished.length + s.running.length = s.started.length

theorem Waits.internal (s : Processor T) (label : Label T) (next : Processor T) (waits : Waits s)
    (internal : Internal s label next) : Waits next := by
  obtain ⟨task, here⟩ := waits.here
  obtain ⟨_, notJoin, step⟩ := internal
  cases step with
  | enqueue _ free | schedule free => exact absurd (free.symm.trans here) (by simp)
  | setPending there => exact absurd (there.symm.trans here) (by simp)
  | push _ _ room => exact absurd room waits.full
  | start other member =>
    have positive := List.length_pos_of_mem member
    refine ⟨waits.here, waits.full, ?_, ?_⟩
    · have order := waits.order
      simp only [Processor.start, List.length_append, List.length_singleton, List.length_erase_of_mem member]
      omega
    · have begun := waits.begun
      simp only [Processor.start, List.length_append, List.length_singleton]
      omega
  | finish other throws member =>
    have positive := List.length_pos_of_mem member
    refine ⟨waits.here, waits.full, waits.order, ?_⟩
    have begun := waits.begun
    simp only [Processor.finish, List.length_append, List.length_singleton, List.length_erase_of_mem member]
    omega
  | join => exact absurd rfl notJoin

omit [DecidableEq T] in
theorem Waits.unfinished (s : Processor T) (waits : Waits s) : ¬s.finished = s.enqueued := by
  intro finished
  have order := waits.order
  have begun := waits.begun
  rw [finished] at begun
  omega

theorem breaks_orderly (s : Processor T) (label : Label T) (next : Processor T) (inv : Inv s) (step : Step s label next)
    (against : ¬Room s label) : ¬Orderly next := by
  unfold Room at against
  push Not at against
  obtain ⟨task, rfl, busy, full⟩ := against
  have same : next = s.enqueue task := by
    cases step with
    | enqueue => rfl
  have waiting : s.enqueue task = { s with enqueued := s.enqueued ++ [task], enqueues := some (.pushing task) } := by
    simp [Processor.enqueue, busy]
  have waits : Waits next := by
    rw [same, waiting]
    refine ⟨⟨task, rfl⟩, full, ?_, ?_⟩
    · rw [inv.order]
      simp only [List.length_append, List.length_singleton]
      omega
    · rw [inv.begun, List.length_append]
  exact fun orderly => not_inevitable Waits.internal Waits.unfinished next waits orderly.completes

/-- The tasks of a processor run one at a time, in order and to the last, exactly when no call finds the queue full. -/
theorem chained_iff (limit : Nat) (trace : List (Label T × Processor T)) (run : Run Step (Processor.new limit) trace) :
    Always Orderly (Processor.new limit) trace ↔ Guarded Room (Processor.new limit) trace :=
  always_iff (fun _ inv => inv.orderly) keeps_inv breaks_orderly trace _ (Inv.new limit) run

theorem step_mLimit (s : Processor T) (label : Label T) (next : Processor T) (step : Step s label next) :
    next.mTasks.mLimit = s.mTasks.mLimit := by
  cases step with
  | enqueue task _ =>
    unfold Processor.enqueue
    simp only
    split <;> rfl
  | push task _ room =>
    unfold Processor.push Queue.push
    rw [if_pos room]
    cases s.mTasks.mStopping <;> rfl
  | schedule _ _ =>
    unfold Processor.schedule Queue.pop
    simp only
    cases shape : s.mTasks.mQueue <;> rfl
  | setPending | start | finish | join => rfl

theorem orderly_unlimited (trace : List (Label T × Processor T)) (run : Run Step (Processor.new 0) trace) :
    Always Orderly (Processor.new 0) trace := by
  have room : ∀ s : Processor T, s.mTasks.mLimit = 0 → ∀ label, Room s label := fun s zero _ _ _ _ => .inl zero
  have always : Always (fun s : Processor T => Inv s ∧ s.mTasks.mLimit = 0) (Processor.new 0) trace :=
    always_of_step (fun s label next holds step =>
        ⟨keeps_inv s label next holds.1 step (room s holds.2 label), (step_mLimit s label next step).trans holds.2⟩)
      trace _ ⟨Inv.new 0, rfl⟩ run
  exact always_mono (fun _ holds => holds.1.orderly) trace _ always

end

/-- The second task is chained behind the first one, which throws. -/
def twoTasks : List (Label Nat × Processor Nat) :=
  let one := (Processor.new 1).enqueue 1
  let two := one.setPending
  let three := two.enqueue 2
  let four := three.push 2
  let five := four.start 1
  let six := five.finish 1
  let seven := six.schedule
  let eight := seven.start 2
  let nine := eight.finish 2
  [(.enqueue 1, one), (.setPending, two), (.enqueue 2, three), (.push 2, four), (.start 1, five), (.finish 1 true, six),
    (.schedule, seven), (.start 2, eight), (.finish 2 false, nine), (.schedule, nine.schedule), (.join, nine.schedule)]

theorem chained_twoTasks :
    Always Orderly (Processor.new 1) twoTasks ↔ Guarded Room (Processor.new 1) twoTasks :=
  chained_iff 1 twoTasks ⟨.enqueue 1 rfl, .setPending rfl, .enqueue 2 rfl, .push 2 rfl (by decide),
      .start 1 (by decide),
    .finish 1 true (by decide), .schedule rfl (by decide), .start 2 (by decide), .finish 2 false (by decide),
    .schedule rfl (by decide), .join rfl rfl, trivial⟩

/-- The third call waits for room while it has the mutex. -/
def threeTasks : List (Label Nat × Processor Nat) :=
  let one := (Processor.new 1).enqueue 1
  let two := one.setPending
  let three := two.enqueue 2
  let four := three.push 2
  [(.enqueue 1, one), (.setPending, two), (.enqueue 2, three), (.push 2, four), (.enqueue 3, four.enqueue 3)]

theorem threeTasks_not_chained : ¬∀ (limit : Nat) (trace : List (Label Nat × Processor Nat)),
    Run Step (Processor.new limit) trace → Always Orderly (Processor.new limit) trace := by
  intro all
  have orderly := all 1 threeTasks ⟨.enqueue 1 rfl, .setPending rfl, .enqueue 2 rfl, .push 2 rfl (by decide),
    .enqueue 3 rfl, trivial⟩
  have waits : Waits (last (Processor.new 1) threeTasks) := ⟨⟨3, rfl⟩, by decide, by decide, rfl⟩
  exact not_inevitable Waits.internal Waits.unfinished _ waits orderly.last.completes

end WebsocketClient.Processors
