import Mathlib.Logic.Function.Basic
import WebsocketClient.Library.Refinement
import WebsocketClient.Processor
import WebsocketClient.ThreadPoolTasks

/-! The tear-down processor over the thread pool. Its tasks are among those that the pool has of others, and
each of them ends with the scope guard that calls `schedule`. -/

namespace WebsocketClient.PooledProcessors
open Queues ThreadPools Processors Library.Runs Library.Refinement

inductive Phase where
  | body
  /-- The body is over, and the scope guard has still to call `schedule`. -/
  | guard
  | done
  deriving DecidableEq, Repr

/-- The functions of tasks are known by numbers. -/
structure Pooled where
  processor : Processor Nat
  threads : ThreadPool
  phase : Nat → Phase

inductive Label where
  | enqueue (func : Nat) (woken : Option Nat)
  | setPending
  | push (func : Nat)
  | finish (worker func : Nat) (throws : Bool)
  | schedule (worker : Nat) (woken : Option Nat)
  | join
  | threads (label : ThreadPools.Label)
  deriving DecidableEq, Repr

namespace Pooled
variable (mine : Nat → Bool) (s : Pooled)

/-- `ThreadPool::enqueue`. -/
def submit (func : Nat) (woken : Option Nat) : ThreadPool := s.threads.schedule ⟨s.threads.now, func⟩ woken

def enqueue (func : Nat) (woken : Option Nat) : Pooled :=
  { s with
    processor := s.processor.enqueue func
    threads := if !s.processor.mPending then s.submit func woken else s.threads }

def finish (worker func : Nat) : Pooled :=
  { s with processor := s.processor.finish func, phase := Function.update s.phase worker .guard }

/-- The call of a scope guard. -/
def schedule (worker : Nat) (woken : Option Nat) : Pooled :=
  { processor := s.processor.schedule
    threads := match s.processor.mTasks.mQueue with
      | [] => s.threads
      | next :: _ => s.submit next woken
    phase := Function.update s.phase worker .done }

/-- A round of `ThreadPool::dequeue`. A worker that takes a task of the processor begins it. -/
def dequeue (worker : Nat) (top : Option Task) : Pooled :=
  let threads := s.threads.dequeue worker top
  match threads.mWorkers[worker]?.bind Place.task with
  | some task =>
      if mine task.func then
        { processor := s.processor.start task.func
          threads := threads
          phase := Function.update s.phase worker .body }
      else { s with threads := threads }
  | none => { s with threads := threads }

def Runs (worker : Nat) (task : Task) : Prop := s.threads.mWorkers[worker]? = some (.running task) ∧
    mine task.func = true

def Inside (worker : Nat) : Prop := s.phase worker ≠ .done ∧ ∃ task, s.Runs mine worker task

end Pooled

/-- The other steps of the thread pool. Others do not schedule functions of the processor, and a task is over behind its
scope guard. -/
def Others (mine : Nat → Bool) (s : Pooled) : ThreadPools.Label → Prop
  | .dequeue _ _ => False
  | .schedule task _ => mine task.func = false
  | .ran worker => ∀ task, s.Runs mine worker task → s.phase worker = .done
  | _ => True

inductive Step (mine : Nat → Bool) (s : Pooled) : Label → Pooled → Prop where
  | enqueue (func : Nat) (woken : Option Nat) : mine func = true → s.processor.enqueues = none →
      (s.processor.mPending = false → Wakes s.threads.mWorkers woken) →
          Step mine s (.enqueue func woken) (s.enqueue func woken)
  | setPending : s.processor.enqueues = some .submitted →
      Step mine s .setPending { s with processor := s.processor.setPending }
  | push (func : Nat) : s.processor.enqueues = some (.pushing func) → s.processor.mTasks.hasRoom →
      Step mine s (.push func) { s with processor := s.processor.push func }
  | finish (worker : Nat) (task : Task) (throws : Bool) : s.Runs mine worker task → s.phase worker = .body →
      Step mine s (.finish worker task.func throws) (s.finish worker task.func)
  | schedule (worker : Nat) (task : Task) (woken : Option Nat) : s.Runs mine worker task → s.phase worker = .guard →
      s.processor.enqueues = none → (s.processor.mTasks.mQueue ≠ [] → Wakes s.threads.mWorkers woken) →
      Step mine s (.schedule worker woken) (s.schedule worker woken)
  | join : s.processor.enqueues = none → s.processor.joins = true → Step mine s .join s
  | dequeue (worker : Nat) (top : Option Task) (next : ThreadPool) :
      ThreadPools.Step s.threads (.dequeue worker top) next →
          Step mine s (.threads (.dequeue worker top)) (s.dequeue mine worker top)
  | threads (label : ThreadPools.Label) (next : ThreadPool) : ThreadPools.Step s.threads label next →
      Others mine s label →
      Step mine s (.threads label) { s with threads := next }

def opening : Pooled := ⟨Processor.new 0, ThreadPool.initial, fun _ => .done⟩

/-- What the processor has of its tasks agrees with what the workers do. -/
structure Linked (mine : Nat → Bool) (s : Pooled) : Prop where
  waiting : ∀ func, mine func = true →
    s.threads.mTasks.countP (fun task => task.func = func) ≤ s.processor.pool.count func
  body : ∀ worker task, s.Runs mine worker task → s.phase worker = .body → task.func ∈ s.processor.running
  guard : ∀ worker task, s.Runs mine worker task → s.phase worker = .guard → 0 < s.processor.guards
  alone : ∀ worker other, s.Inside mine worker → s.Inside mine other → worker = other

/-! ### The thread pool -/

section
variable {mine : Nat → Bool} {threads next : ThreadPool}

theorem notify_running {place : Place} {task : Task} (running : place.notify = .running task) :
    place = .running task := by
  cases place with
  | waiting => cases running
  | starting | dequeuing | running | leaving | finished => exact running

theorem schedule_running {task other : Task} {woken : Option Nat} {worker : Nat}
    (running : (threads.schedule task woken).mWorkers[worker]? = some (.running other)) :
    threads.mWorkers[worker]? = some (.running other) := by
  cases woken with
  | none => exact running
  | some notified =>
    have changed : (threads.mWorkers.modify notified Place.notify)[worker]? = some (.running other) := running
    rw [List.getElem?_modify] at changed
    split at changed
    · obtain ⟨place, here, same⟩ := Option.map_eq_some_iff.mp changed
      rw [here, notify_running same]
    · simpa using changed

theorem others_running {s : Pooled} {label : ThreadPools.Label} (step : ThreadPools.Step threads label next)
    (others : Others mine s label) {worker : Nat} {task : Task}
        (running : next.mWorkers[worker]? = some (.running task)) :
    threads.mWorkers[worker]? = some (.running task) := by
  cases step with
  | spawn _ =>
    rcases Library.Places.joined_cases running with ⟨_, here⟩ | ⟨_, other⟩
    · exact here
    · cases other
  | run _ here | leave _ here | ran _ _ here =>
    rcases Library.Places.moved_cases here running with ⟨_, other⟩ | ⟨_, still⟩
    · cases other
    · exact still
  | dequeue | wakes => exact others.elim
  | schedule => exact schedule_running running
  | join _ =>
    have changed : (threads.mWorkers.map Place.notify)[worker]? = some (.running task) := running
    rw [List.getElem?_map] at changed
    obtain ⟨place, here, same⟩ := Option.map_eq_some_iff.mp changed
    rw [here, notify_running same]
  | joined _ _ => cases running
  | clear | lockWorkers | tick => exact running

def waits (threads : ThreadPool) (func : Nat) : Nat := threads.mTasks.countP (fun task => task.func = func)

theorem waits_append (next : ThreadPool) (task : Task) (func : Nat) (tasks : threads.mTasks ++ [task] = next.mTasks) :
    waits next func = waits threads func + [task.func].count func := by
  unfold waits
  rw [← tasks, List.countP_append, List.countP_singleton, List.count_singleton]
  simp

theorem others_waits {s : Pooled} {label : ThreadPools.Label} (step : ThreadPools.Step threads label next)
    (others : Others mine s label) {func : Nat} (own : mine func = true) : waits next func ≤ waits threads func := by
  cases step with
  | dequeue | wakes => exact others.elim
  | schedule task woken _ =>
    have foreign : task.func ≠ func := by
      rintro rfl
      exact Bool.false_ne_true (others.symm.trans own)
    rw [waits_append (threads.schedule task woken) task func rfl, List.count_singleton, if_neg (by simpa using foreign)]
    exact Nat.le_refl _
  | clear => exact Nat.zero_le _
  | spawn | run | ran | leave | join | lockWorkers | joined | tick => exact Nat.le_refl _

theorem waits_erase (next : ThreadPool) {task : Task} (member : task ∈ threads.mTasks)
    (tasks : next.mTasks = threads.mTasks.erase task) (func : Nat) :
        waits threads func = waits next func + [task.func].count func := by
  unfold waits
  rw [tasks, (List.perm_cons_erase member).countP_eq, List.countP_cons, List.count_singleton]
  simp

end

/-! ### The steps -/

section
variable {mine : Nat → Bool} {s next : Pooled}

theorem Linked.inside_working (linked : Linked mine s) {worker : Nat} (inside : s.Inside mine worker) :
    0 < s.processor.running.length + s.processor.guards := by
  obtain ⟨phase, task, runs⟩ := inside
  cases here : s.phase worker with
  | body =>
    have positive := List.length_pos_of_mem (linked.body worker task runs here)
    omega
  | guard =>
    have positive := linked.guard worker task runs here
    omega
  | done => exact absurd here phase

theorem Linked.still (linked : Linked mine s)
    (waiting : ∀ func, mine func = true → waits next.threads func ≤ next.processor.pool.count func)
    (runs : ∀ worker task, next.Runs mine worker task → s.Runs mine worker task) (phase : next.phase = s.phase)
    (running : next.processor.running = s.processor.running) (guards : next.processor.guards = s.processor.guards) :
    Linked mine next where
  waiting := waiting
  body worker task here body := by
    rw [running]
    exact linked.body worker task (runs worker task here) (phase ▸ body)
  guard worker task here guard := by
    rw [guards]
    exact linked.guard worker task (runs worker task here) (phase ▸ guard)
  alone := by
    rintro worker other ⟨here, task, running⟩ ⟨there, task', running'⟩
    rw [phase] at here there
    exact linked.alone worker other ⟨here, task, runs _ _ running⟩ ⟨there, task', runs _ _ running'⟩

theorem Linked.enqueue (linked : Linked mine s) (func : Nat) (woken : Option Nat) :
    Linked mine (s.enqueue func woken) := by
  unfold Pooled.enqueue Processor.enqueue
  cases s.processor.mPending with
  | true => exact linked.still linked.waiting (fun _ _ => id) rfl rfl rfl
  | false =>
    refine linked.still (fun other own => ?_) (fun worker task runs => ⟨schedule_running runs.1, runs.2⟩) rfl rfl rfl
    have before := linked.waiting other own
    have more := waits_append (s.submit func woken) ⟨s.threads.now, func⟩ other rfl
    show waits (s.submit func woken) other ≤ (s.processor.pool ++ [func]).count other
    rw [List.count_append, more]
    exact Nat.add_le_add_right before _

theorem Linked.finish (linked : Linked mine s) {worker : Nat} {task : Task} (runs : s.Runs mine worker task)
    (body : s.phase worker = .body) : Linked mine (s.finish worker task.func) := by
  have inside : s.Inside mine worker := ⟨by rw [body]; decide, task, runs⟩
  have same (other : Nat) (here : (s.finish worker task.func).Inside mine other) : other = worker := by
    obtain ⟨phase, task', runs'⟩ := here
    by_cases same : other = worker
    · exact same
    · have kept : (s.finish worker task.func).phase other = s.phase other := Function.update_of_ne same ..
      exact linked.alone other worker ⟨kept ▸ phase, task', runs'⟩ inside
  have behind : (s.finish worker task.func).phase worker = .guard := Function.update_self ..
  constructor
  · exact linked.waiting
  · intro other task' runs' here
    obtain rfl := same other ⟨by rw [here]; decide, task', runs'⟩
    exact absurd (here.symm.trans behind) (by decide)
  · exact fun _ _ _ _ => Nat.succ_pos _
  · intro first second here there
    rw [same first here, same second there]

theorem Linked.schedule (linked : Linked mine s) {worker : Nat} {task : Task} (woken : Option Nat)
    (runs : s.Runs mine worker task) (guard : s.phase worker = .guard) : Linked mine (s.schedule worker woken) := by
  have inside : s.Inside mine worker := ⟨by rw [guard]; decide, task, runs⟩
  have still (other : Nat) (task : Task) (runs : (s.schedule worker woken).Runs mine other task) :
      s.Runs mine other task := by
    refine ⟨?_, runs.2⟩
    have there := runs.1
    unfold Pooled.schedule at there
    cases queue : s.processor.mTasks.mQueue with
    | nil =>
      rw [queue] at there
      exact there
    | cons next rest =>
      rw [queue] at there
      exact schedule_running there
  -- Nobody else was inside, and the worker itself is done.
  have empty (other : Nat) : ¬(s.schedule worker woken).Inside mine other := by
    rintro ⟨phase, task', runs'⟩
    by_cases same : other = worker
    · apply phase
      rw [same]
      exact Function.update_self ..
    · have kept : (s.schedule worker woken).phase other = s.phase other := Function.update_of_ne same ..
      exact same (linked.alone other worker ⟨kept ▸ phase, task', still other task' runs'⟩ inside)
  constructor
  · intro func own
    have before := linked.waiting func own
    show waits (s.schedule worker woken).threads func ≤ s.processor.schedule.pool.count func
    unfold Pooled.schedule
    rcases s.processor.schedule_cases with ⟨next, tasks, shape, _, same⟩ | ⟨shape, same⟩
    · have more := waits_append (s.submit next woken) ⟨s.threads.now, next⟩ func rfl
      rw [same, shape, List.count_append]
      show waits (s.submit next woken) func ≤ _
      rw [more]
      exact Nat.add_le_add_right before _
    · rw [same, shape]
      exact before
  · exact fun other task' runs' here => absurd ⟨by rw [here]; decide, task', runs'⟩ (empty other)
  · exact fun other task' runs' here => absurd ⟨by rw [here]; decide, task', runs'⟩ (empty other)
  · exact fun first _ here _ => absurd here (empty first)

/-- What a round of `dequeue` takes. -/
inductive Took (mine : Nat → Bool) (s : Pooled) (worker : Nat) (top : Option Task) : Pooled → Prop where
  /-- Nothing, or a task of others. -/
  | other : (∀ (other : Nat) (task : Task), (s.threads.dequeue worker top).mWorkers[other]? = some (.running task) →
      mine task.func = true →
        s.threads.mWorkers[other]? = some (.running task)) →
      (∀ func, waits (s.threads.dequeue worker top) func ≤ waits s.threads func) →
      Took mine s worker top { s with threads := s.threads.dequeue worker top }
  | own (task : Task) : mine task.func = true → task ∈ s.threads.mTasks →
      (s.threads.dequeue worker top).mTasks = s.threads.mTasks.erase task →
      (∀ (other : Nat) (task' : Task), other ≠ worker →
        (s.threads.dequeue worker top).mWorkers[other]? = some (.running task') →
        s.threads.mWorkers[other]? = some (.running task')) →
      (s.threads.dequeue worker top).mWorkers[worker]? = some (.running task) →
      Took mine s worker top
        { processor := s.processor.start task.func
          threads := s.threads.dequeue worker top
          phase := Function.update s.phase worker .body }

theorem dequeue_took {worker : Nat} {old : Place} {top : Option Task} (here : s.threads.mWorkers[worker]? = some old)
    (isTop : IsTop s.threads.mTasks top) : Took mine s worker top (s.dequeue mine worker top) := by
  obtain ⟨_, place, workers, taken⟩ := s.threads.dequeue_spec worker top
  have there : (s.threads.dequeue worker top).mWorkers[worker]? = some place := by
    rw [workers]
    exact Library.Places.getElem?_moved here
  have elsewhere (other : Nat) (task : Task) (apart : other ≠ worker)
      (running : (s.threads.dequeue worker top).mWorkers[other]? = some (.running task)) :
      s.threads.mWorkers[other]? = some (.running task) := by
    rw [workers, List.getElem?_set_ne apart.symm] at running
    exact running
  have foreign (nothing : ∀ task, place = .running task → mine task.func = false) (other : Nat) (task : Task)
      (running : (s.threads.dequeue worker top).mWorkers[other]? = some (.running task)) (own : mine task.func = true) :
      s.threads.mWorkers[other]? = some (.running task) := by
    by_cases same : other = worker
    · rw [same, there] at running
      exact absurd ((nothing task (Option.some.inj running)).symm.trans own) Bool.false_ne_true
    · exact elsewhere other task same running
  unfold Pooled.dequeue
  simp only [there, Option.bind_some]
  rcases taken with ⟨none, tasks⟩ | ⟨task, rfl, _, rfl, tasks⟩
  · rw [none]
    apply Took.other (foreign _)
    · intro func
      unfold waits
      rw [tasks]
    · rintro task rfl
      cases none
  · have less := waits_erase (s.threads.dequeue worker (some task)) isTop.1 tasks
    simp only [Place.task]
    cases own : mine task.func with
    | true => exact .own task own isTop.1 tasks elsewhere there
    | false =>
      apply Took.other (foreign _)
      · intro func
        rw [less func]
        exact Nat.le_add_right _ _
      · intro other same
        cases same
        exact own

theorem Linked.took (linked : Linked mine s) (one : s.processor.inPool ≤ 1) {worker : Nat} {top : Option Task}
    (took : Took mine s worker top next) : Linked mine next ∧ Refines Processors.Step Pooled.processor s next := by
  cases took with
  | other running waiting =>
    refine ⟨linked.still (fun func own => Nat.le_trans (waiting func) (linked.waiting func own))
      (fun other task runs => ⟨running other task runs.1 runs.2, runs.2⟩) rfl rfl rfl, .inl rfl⟩
  | own task own member tasks elsewhere there =>
    have less := waits_erase (s.threads.dequeue worker top) member tasks
    have handed : task.func ∈ s.processor.pool := by
      have before := linked.waiting task.func own
      have some := less task.func
      rw [List.count_singleton_self] at some
      apply List.count_pos_iff.mp
      unfold waits at some
      omega
    have nobody (other : Nat) : ¬s.Inside mine other := by
      intro inside
      have working := linked.inside_working inside
      have positive := List.length_pos_of_mem handed
      unfold Processor.inPool at one
      omega
    have outside (other : Nat) (task' : Task) (apart : other ≠ worker)
        (runs : (s.threads.dequeue worker top).mWorkers[other]? = some (.running task') ∧ mine task'.func = true) :
        s.phase other = .done :=
      not_not.mp fun phase => nobody other ⟨phase, task', elsewhere other task' apart runs.1, runs.2⟩
    refine ⟨⟨?_, ?_, ?_, ?_⟩, .inr ⟨.start task.func, .start task.func handed⟩⟩
    · intro func own'
      have before := linked.waiting func own'
      have count := (List.perm_cons_erase handed).count_eq func
      have some := less func
      rw [List.count_cons] at count
      rw [List.count_singleton] at some
      show waits (s.threads.dequeue worker top) func ≤ (s.processor.pool.erase task.func).count func
      unfold waits at some ⊢
      omega
    · intro other task' runs body
      by_cases same : other = worker
      · have found := runs.1
        rw [same] at found
        have equal : task = task' := Place.running.inj (Option.some.inj (there.symm.trans found))
        rw [← equal]
        exact List.mem_append_right _ (List.mem_singleton_self _)
      · have kept : s.phase other = .body := (Function.update_of_ne same ..).symm.trans body
        exact absurd (kept.symm.trans (outside other task' same runs)) (by decide)
    · intro other task' runs guard
      by_cases same : other = worker
      · rw [same] at guard
        exact absurd ((Function.update_self ..).symm.trans guard) (by decide)
      · have kept : s.phase other = .guard := (Function.update_of_ne same ..).symm.trans guard
        exact absurd (kept.symm.trans (outside other task' same runs)) (by decide)
    · have here (other : Nat) (task' : Task) (phase : Function.update s.phase worker .body other ≠ .done)
          (runs : (s.threads.dequeue worker top).mWorkers[other]? = some (.running task') ∧ mine task'.func = true) :
          other = worker := by
        apply Classical.byContradiction
        intro apart
        apply phase
        exact (Function.update_of_ne apart ..).trans (outside other task' apart runs)
      rintro first second ⟨phase, task', runs⟩ ⟨phase', task'', runs'⟩
      rw [here first task' phase runs, here second task'' phase' runs']

theorem Linked.step (linked : Linked mine s) (one : s.processor.inPool ≤ 1) {label : Label}
    (step : Step mine s label next) :
    Linked mine next ∧ Refines Processors.Step Pooled.processor s next := by
  cases step with
  | enqueue func woken own free _ => exact ⟨linked.enqueue func woken, .inr ⟨.enqueue func, .enqueue func free⟩⟩
  | setPending here =>
    exact ⟨linked.still linked.waiting (fun _ _ => id) rfl rfl rfl, .inr ⟨.setPending, .setPending here⟩⟩
  | push func here room =>
    have same : (s.processor.push func).pool = s.processor.pool ∧
        (s.processor.push func).running = s.processor.running ∧
        (s.processor.push func).guards = s.processor.guards := by
      unfold Processor.push
      split <;> exact ⟨rfl, rfl, rfl⟩
    refine ⟨linked.still (fun other own => ?_) (fun _ _ => id) rfl same.2.1 same.2.2,
        .inr ⟨.push func, .push func here room⟩⟩
    show waits s.threads other ≤ (s.processor.push func).pool.count other
    rw [same.1]
    exact linked.waiting other own
  | finish worker task throws runs body =>
    exact ⟨linked.finish runs body,
      .inr ⟨.finish task.func throws, .finish task.func throws (linked.body worker task runs body)⟩⟩
  | schedule worker task woken runs guard free _ =>
    exact ⟨linked.schedule woken runs guard, .inr ⟨.schedule, .schedule free (linked.guard worker task runs guard)⟩⟩
  | join free joins => exact ⟨linked, .inl rfl⟩
  | dequeue worker top next step =>
    apply linked.took one
    cases step with
    | dequeue _ _ here isTop => exact dequeue_took here isTop
    | wakes _ _ _ _ here isTop => exact dequeue_took here isTop
  | threads label next step others =>
    refine ⟨linked.still (fun func own => ?_)
        (fun worker task runs => ⟨others_running step others runs.1, runs.2⟩) rfl rfl rfl,
      .inl rfl⟩
    exact Nat.le_trans (others_waits step others own) (linked.waiting func own)

end

/-- Over the thread pool, with any number of workers and any tasks of others, the processor is what it is over a pool
that is only assumed to run its tasks: they begin in the order of the calls of `enqueue`, no two workers are in one of
them at a time, and `join` returns when each of them is over. -/
theorem always_serial (mine : Nat → Bool) (trace : List (Label × Pooled)) (run : Run (Step mine) opening trace) :
    Always (fun s => Reaches Processors.Step (Processor.new 0) s.processor ∧
      s.processor.started <+: s.processor.enqueued ∧
      (∀ worker other, s.Inside mine worker → s.Inside mine other → worker = other) ∧
      (s.processor.enqueues = none → s.processor.joins = true → s.processor.finished = s.processor.enqueued))
      opening trace := by
  have start : Linked mine opening := ⟨fun _ _ => Nat.zero_le _, nofun, nofun, nofun⟩
  have orderly {s : Pooled} (reaches : Reaches Processors.Step (Processor.new 0) s.processor) : Orderly s.processor :=
    reaches.holds orderly_unlimited
  have always : Always (fun s => Linked mine s ∧ Reaches Processors.Step (Processor.new 0) s.processor) opening trace :=
    always_reaches (fun _ _ _ linked reaches step => linked.step (orderly reaches).one step) trace opening start
      (.refl _) run
  apply always_mono _ trace _ always
  rintro s ⟨linked, reaches⟩
  exact ⟨reaches, (orderly reaches).order, linked.alone,
      fun free joins => (orderly reaches).joined _ (.join free joins)⟩

def tearDown (func : Nat) : Bool := decide (func < 10)

/-- Two tear-downs and a task of others share a worker. The first one throws, and its guard submits the second one. -/
def twoTearDowns : List (Label × Pooled) :=
  let first : Task := ⟨0, 1⟩
  let second : Task := ⟨0, 2⟩
  let foreign : Task := ⟨0, 50⟩
  let one : Pooled := { opening with threads := opening.threads.spawn }
  let two : Pooled := { one with threads := one.threads.run 0 }
  let three := two.enqueue 1 none
  let four : Pooled := { three with processor := three.processor.setPending }
  let five := four.dequeue tearDown 0 (some first)
  let six := five.enqueue 2 none
  let seven : Pooled := { six with processor := six.processor.push 2 }
  let eight : Pooled := { seven with threads := seven.threads.schedule foreign none }
  let nine := eight.finish 0 1
  let ten := nine.schedule 0 none
  let eleven : Pooled := { ten with threads := ten.threads.ran 0 }
  let twelve := eleven.dequeue tearDown 0 (some foreign)
  let thirteen : Pooled := { twelve with threads := twelve.threads.ran 0 }
  let fourteen := thirteen.dequeue tearDown 0 (some second)
  let fifteen := fourteen.finish 0 2
  [(.threads .spawn, one), (.threads (.run 0), two), (.enqueue 1 none, three), (.setPending, four),
    (.threads (.dequeue 0 (some first)), five), (.enqueue 2 none, six), (.push 2, seven),
    (.threads (.schedule foreign none), eight), (.finish 0 1 true, nine), (.schedule 0 none, ten),
    (.threads (.ran 0), eleven),
    (.threads (.dequeue 0 (some foreign)), twelve), (.threads (.ran 0), thirteen),
    (.threads (.dequeue 0 (some second)), fourteen), (.finish 0 2 false, fifteen),
    (.schedule 0 none, fifteen.schedule 0 none),
    (.join, fifteen.schedule 0 none)]

theorem twoTearDowns_run : Run (Step tearDown) opening twoTearDowns := by
  have asleep (workers : List ThreadPools.Place) (awake : ∀ place ∈ workers, place.isWaiting = false) :
      Wakes workers none :=
    fun _ member => absurd (awake _ member) (by simp [ThreadPools.Place.isWaiting])
  refine ⟨.threads .spawn _ (.spawn rfl) trivial, .threads (.run 0) _ (.run 0 rfl) trivial,
    .enqueue 1 none rfl rfl fun _ => asleep _ (by decide), .setPending rfl,
    .dequeue 0 (some ⟨0, 1⟩) _ (.dequeue 0 _ rfl (by decide)), .enqueue 2 none rfl rfl fun _ => asleep _ (by decide),
    .push 2 rfl (by decide), .threads (.schedule ⟨0, 50⟩ none) _ (.schedule _ _ (asleep _ (by decide))) rfl,
    .finish 0 ⟨0, 1⟩ true ⟨rfl, rfl⟩ rfl, .schedule 0 ⟨0, 1⟩ none ⟨rfl, rfl⟩ rfl rfl fun _ => asleep _ (by decide),
    .threads (.ran 0) _ (.ran 0 ⟨0, 1⟩ rfl) fun _ _ => rfl,
    .dequeue 0 (some ⟨0, 50⟩) _ (.dequeue 0 _ rfl (by decide)), .threads (.ran 0) _ (.ran 0 ⟨0, 50⟩ rfl) fun _ _ => rfl,
    .dequeue 0 (some ⟨0, 2⟩) _ (.dequeue 0 _ rfl (by decide)), .finish 0 ⟨0, 2⟩ false ⟨rfl, rfl⟩ rfl,
    .schedule 0 ⟨0, 2⟩ none ⟨rfl, rfl⟩ rfl rfl fun _ => asleep _ (by decide), .join rfl rfl, trivial⟩

theorem serial_twoTearDowns :
    Always (fun s => Reaches Processors.Step (Processor.new 0) s.processor ∧
      s.processor.started <+: s.processor.enqueued ∧
      (∀ worker other, s.Inside tearDown worker → s.Inside tearDown other → worker = other) ∧
      (s.processor.enqueues = none → s.processor.joins = true → s.processor.finished = s.processor.enqueued))
      opening twoTearDowns :=
  always_serial tearDown twoTearDowns twoTearDowns_run

end WebsocketClient.PooledProcessors
