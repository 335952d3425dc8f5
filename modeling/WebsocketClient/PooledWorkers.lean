import WebsocketClient.BusyWorkers
import WebsocketClient.Library.Refinement
import WebsocketClient.ThreadPoolTasks

/-! The two models of `impl/threadpool.cpp` agree: `BusyWorkers` refines `ThreadPools`. A round of the loop of `dequeue`
is one step there, taken when the worker leaves with a task or without one or finds nothing due, and so is `join` when
it finds the counter at zero, since it keeps the mutex until it has set `mJoining`. -/

namespace WebsocketClient.BusyWorkers
open Library.Runs Library.Places Library.Refinement
open ThreadPools (Task IsTop)

/-- The same worker in both models. The wait of `ThreadPools` lasts until the round behind it. -/
inductive Place.Is : Place → ThreadPools.Place → Prop where
  | starting : Is .starting .starting
  | entered : Is .entered .dequeuing
  | testing : Is .testing .dequeuing
  | testingAgain («until» : Option Nat) (notified : Bool) : Is .testing (.waiting «until» notified)
  | untimely («until» : Option Nat) (notified : Bool) : Is (.untimely «until») (.waiting «until» notified)
  | pausing («until» : Option Nat) (notified : Bool) : Is (.pausing «until») (.waiting «until» notified)
  | waiting («until» : Option Nat) (notified : Bool) : Is (.waiting «until») (.waiting «until» notified)
  | woken («until» : Option Nat) (notified : Bool) : Is .woken (.waiting «until» notified)
  | running (task : Task) : Is (.running task) (.running task)
  | leaving : Is .leaving .leaving
  | finished : Is .finished .finished

/-- The workers that `ThreadPools` counts. -/
def inRun : ThreadPools.Place → Bool
  | .dequeuing | .running _ | .leaving => true
  | .starting | .waiting _ _ | .finished => false

namespace Join

/-- `mJoining` is set in `ThreadPools`. -/
def sets : Join → Bool
  | .tested | .notifying | .unlocked | .joining _ => true
  | _ => false

def joinsThreads : Join → Bool
  | .joining _ => true
  | _ => false

end Join

structure Models (s : ThreadPool) (pool : ThreadPools.ThreadPool) : Prop where
  workers : List.Forall₂ Place.Is s.mWorkers pool.mWorkers
  busy : pool.mBusyWorkers = (pool.mWorkers.countP inRun : Nat)
  joining : pool.mJoining = s.join.sets
  tasks : pool.mTasks = s.mTasks
  joins : pool.joins = s.join.joinsThreads
  now : pool.now = s.now

/-- What the refinement relies on in the finer model. -/
structure Held (s : ThreadPool) : Prop where
  inv : Invariant s
  /-- `join` alone sets `mJoining`, and resets it. -/
  joining : s.mJoining = true → s.join.joins = true ∧ s.join ≠ .reset

variable {s next : ThreadPool} {pool : ThreadPools.ThreadPool}

theorem Held.step {label : Label} (held : Held s) (step : Step s label next) : Held next where
  inv := invariant_step s label next held.inv step
  joining := by
    have joining := held.joining
    cases step with
    | setJoining | unlock | lockWorkers | joinWorker | joined => exact fun _ => ⟨rfl, by simp⟩
    | join here | busy here | retest here | idle here =>
      rw [here] at joining
      exact fun set => absurd (joining set).1 (by decide)
    | resetJoining => exact fun set => Bool.noConfusion set
    | leaveJoin here => exact fun set => absurd here (joining set).2
    | _ => exact joining

/-! ### A worker goes on -/

theorem Models.stays (models : Models s pool) {worker : Nat} {old new : Place} {busy : Int} {mutex : Option Owner}
    (here : s.mWorkers[worker]? = some old) (is : ∀ place, old.Is place → new.Is place) :
    Models { s with mWorkers := s.mWorkers.set worker new, mBusyWorkers := busy, mMutex := mutex } pool := by
  obtain ⟨place, there, same⟩ := alike_there models.workers here
  exact { models with workers := alike_stays models.workers there (is place same) }

theorem Models.moves (models : Models s pool) {worker : Nat} {new : Place} {old' new' : ThreadPools.Place} {busy : Int}
    {tasks : List Task} {mutex : Option Owner} {pool' : ThreadPools.ThreadPool}
    (there : pool.mWorkers[worker]? = some old') (is : new.Is new')
        (workers : pool'.mWorkers = pool.mWorkers.set worker new')
    (counted : pool'.mBusyWorkers + (inRun old').toNat = pool.mBusyWorkers + (inRun new').toNat)
    (joining : pool'.mJoining = pool.mJoining) (taken : pool'.mTasks = tasks) (joins : pool'.joins = pool.joins)
    (now : pool'.now = pool.now) :
    Models { s with
      mWorkers := s.mWorkers.set worker new, mBusyWorkers := busy, mTasks := tasks, mMutex := mutex } pool' where
  workers := by
    rw [workers]
    exact alike_set models.workers is
  busy := by
    have moved : (pool.mWorkers.set worker new').countP inRun + (inRun old').toNat =
        pool.mWorkers.countP inRun + (inRun new').toNat := countP_moved inRun there
    have before := models.busy
    rw [workers]
    omega
  joining := joining.trans models.joining
  tasks := taken
  joins := joins.trans models.joins
  now := now.trans models.now

/-! ### A round of dequeue -/

/-- The worker that looks at the tasks is one that may do so in `ThreadPools`, where it is counted by then. -/
theorem Models.round (models : Models s pool) {worker : Nat} (here : s.mWorkers[worker]? = some .testing) :
    ∃ old', pool.mWorkers[worker]? = some old' ∧
      (pool.wake worker).mBusyWorkers + (inRun old').toNat = pool.mBusyWorkers + 1 ∧
      ∀ top, IsTop pool.mTasks top → ThreadPools.Step pool (.dequeue worker top) (pool.dequeue worker top) := by
  obtain ⟨old', there, is⟩ := alike_there models.workers here
  refine ⟨old', there, ?_⟩
  cases is with
  | testing =>
    refine ⟨?_, fun top isTop => .dequeue worker top there isTop⟩
    simp [ThreadPools.ThreadPool.wake, there, inRun]
  | testingAgain «until» notified =>
    refine ⟨?_, fun top isTop => .wakes worker «until» notified top there isTop⟩
    simp [ThreadPools.ThreadPool.wake, there, inRun]

theorem wake_kept (pool : ThreadPools.ThreadPool) (worker : Nat) :
    pool.wake worker = { pool with mBusyWorkers := (pool.wake worker).mBusyWorkers } := by
  unfold ThreadPools.ThreadPool.wake
  split <;> rfl

theorem dequeue_due (running : pool.mJoining = false) {task : Task} (due : task.time ≤ pool.now) (worker : Nat) :
    pool.dequeue worker (some task) = { pool with
      mWorkers := pool.mWorkers.set worker (.running task), mTasks := pool.mTasks.erase task
      mBusyWorkers := (pool.wake worker).mBusyWorkers } := by
  unfold ThreadPools.ThreadPool.dequeue
  rw [wake_kept]
  simp [running, due]

theorem dequeue_later (running : pool.mJoining = false) {top : Option Task}
    (later : ∀ task, top = some task → pool.now < task.time) (worker : Nat) :
    pool.dequeue worker top = { pool with
      mWorkers := pool.mWorkers.set worker (.waiting (top.map Task.time) false)
      mBusyWorkers := (pool.wake worker).mBusyWorkers - 1 } := by
  unfold ThreadPools.ThreadPool.dequeue
  rw [wake_kept]
  cases top with
  | none => simp [running, ThreadPools.ThreadPool.wait]
  | some task =>
    have early : ¬task.time ≤ pool.now := Nat.not_le_of_lt (later task rfl)
    simp [running, early, ThreadPools.ThreadPool.wait]

theorem dequeue_joining (set : pool.mJoining = true) (worker : Nat) (top : Option Task) :
    pool.dequeue worker top = { pool with
      mWorkers := pool.mWorkers.set worker .leaving, mBusyWorkers := (pool.wake worker).mBusyWorkers } := by
  unfold ThreadPools.ThreadPool.dequeue
  rw [wake_kept]
  simp [set]

theorem Models.running (models : Models s pool) (held : Held s) {worker : Nat}
    (here : s.mWorkers[worker]? = some .testing) (running : s.mJoining = false) : pool.mJoining = false := by
  have outside := held.inv.not_joins here running
  rw [models.joining]
  cases join : s.join with
  | outside | testing | waiting | cleared | reset => rfl
  | tested => exact absurd (.inl join) outside
  | notifying | unlocked | joining => exact absurd (.inr (by rw [join]; rfl)) outside

theorem Models.set (models : Models s pool) (held : Held s) {worker : Nat} {place : Place}
    (here : s.mWorkers[worker]? = some place) (set : s.mJoining = true) : pool.mJoining = true := by
  obtain ⟨joins, other⟩ := held.joining set
  rw [models.joining]
  cases join : s.join with
  | tested | notifying | unlocked | joining => rfl
  | outside | testing | waiting =>
    rw [join] at joins
    exact joins
  | cleared =>
    rw [held.inv.cleared (.inl join)] at here
    exact absurd here (by simp)
  | reset => exact absurd join other

/-! ### The steps -/

/-- What a step of the finer model is in `ThreadPools`. -/
def Matched (next : ThreadPool) (pool : ThreadPools.ThreadPool) : Prop :=
  Models next pool ∨ ∃ label pool', ThreadPools.Step pool label pool' ∧ Models next pool'

theorem Models.start (models : Models s pool) (held : Held s) {worker : Nat} {task : Task}
    (here : s.mWorkers[worker]? = some .testing) (running : s.mJoining = false) (top : IsTop s.mTasks (some task))
    (due : task.time ≤ s.now) :
    Matched { s with
      mWorkers := s.mWorkers.set worker (.running task), mTasks := s.mTasks.erase task, mMutex := none } pool := by
  obtain ⟨old', there, counted, steps⟩ := models.round here
  rw [← models.tasks] at top
  rw [← models.now] at due
  have ends := dequeue_due (models.running held here running) due worker
  refine .inr ⟨_, _, steps (some task) top, ?_⟩
  rw [ends]
  exact models.moves there (.running task) rfl counted rfl (congrArg (·.erase task) models.tasks) rfl rfl

theorem Models.delay (models : Models s pool) (held : Held s) {worker : Nat} {top : Option Task}
    (here : s.mWorkers[worker]? = some .testing) (running : s.mJoining = false) (isTop : IsTop s.mTasks top)
    (later : ∀ task, top = some task → s.now < task.time) :
    Matched { s with mWorkers := s.mWorkers.set worker (.untimely (top.map Task.time)) } pool := by
  obtain ⟨old', there, counted, steps⟩ := models.round here
  rw [← models.tasks] at isTop
  rw [← models.now] at later
  have ends := dequeue_later (models.running held here running) later worker
  refine .inr ⟨_, _, steps top isTop, ?_⟩
  rw [ends]
  refine models.moves there (.untimely _ false) rfl ?_ rfl models.tasks rfl rfl
  show (pool.wake worker).mBusyWorkers - 1 + (inRun old').toNat = pool.mBusyWorkers + (0 : Nat)
  omega

theorem Models.dismiss (models : Models s pool) (held : Held s) {worker : Nat}
    (here : s.mWorkers[worker]? = some .testing) (set : s.mJoining = true) :
    Matched { s with mWorkers := s.mWorkers.set worker .leaving, mMutex := none } pool := by
  obtain ⟨old', there, counted, steps⟩ := models.round here
  obtain ⟨top, isTop⟩ : ∃ top, IsTop pool.mTasks top := by
    by_cases none_left : pool.mTasks = []
    · exact ⟨none, none_left⟩
    · obtain ⟨task, first⟩ := ThreadPools.exists_top none_left
      exact ⟨some task, first⟩
  have ends := dequeue_joining (models.set held here set) worker top
  refine .inr ⟨_, _, steps top isTop, ?_⟩
  rw [ends]
  exact models.moves there .leaving rfl counted rfl models.tasks rfl rfl

theorem exists_woken (workers : List ThreadPools.Place) : ∃ woken, ThreadPools.Wakes workers woken := by
  by_cases asleep : ∃ «until», .waiting «until» false ∈ workers
  · obtain ⟨«until», member⟩ := asleep
    obtain ⟨worker, found⟩ := List.mem_iff_getElem?.mp member
    exact ⟨some worker, «until», found⟩
  · exact ⟨none, fun «until» member => asleep ⟨«until», member⟩⟩

theorem is_notify {place : Place} {place' : ThreadPools.Place} (is : place.Is place') : place.Is place'.notify := by
  cases is <;> constructor

theorem inRun_notify (place : ThreadPools.Place) : inRun place.notify = inRun place := by cases place <;> rfl

theorem Models.schedule (models : Models s pool) (task : Task) :
    Matched { s with mTasks := s.mTasks ++ [task] } pool := by
  obtain ⟨woken, wakes⟩ := exists_woken pool.mWorkers
  refine .inr ⟨_, _, .schedule task woken wakes, ?_⟩
  have tasks : pool.mTasks ++ [task] = s.mTasks ++ [task] := by rw [models.tasks]
  cases woken with
  | none => exact { models with tasks := tasks }
  | some worker =>
    refine { models with workers := ?_, busy := ?_, tasks := tasks }
    · exact alike_modify models.workers (fun _ _ => is_notify) worker
    · show pool.mBusyWorkers = ((pool.mWorkers.modify worker ThreadPools.Place.notify).countP inRun : Nat)
      rw [countP_modify inRun inRun_notify]
      exact models.busy

/-- A counter of zero is one of zero in both, since no worker has the mutex. -/
theorem Models.idle (models : Models s pool) (held : Held s) (here : s.join = .testing) (zero : s.mBusyWorkers = 0) :
    Matched { s with join := .tested } pool := by
  have mine : s.mMutex = some .join := held.inv.joinLocks (by rw [here]; rfl)
  have none_busy : ∀ place ∈ s.mWorkers, place.busy = false := by
    have busy := held.inv.busy
    have none : s.mWorkers.countP Place.busy = 0 := by omega
    exact fun place member => Bool.eq_false_iff.mpr (List.countP_eq_zero.mp none place member)
  have none_in_run : pool.mWorkers.countP inRun = 0 := by
    apply List.countP_eq_zero.mpr
    intro place' member
    obtain ⟨place, there, is⟩ := alike_mem models.workers member
    have idle := none_busy place there
    cases is with
    | entered | testing | running | leaving => exact absurd idle (by simp [Place.busy])
    | starting | testingAgain | untimely | pausing | waiting | woken | finished => simp [inRun]
  have free : pool.mBusyWorkers = 0 := by
    rw [models.busy, none_in_run]
    rfl
  refine .inr ⟨_, _, .join free, ?_⟩
  exact {
    workers := List.forall₂_map_right_iff.mpr (models.workers.imp fun _ _ => is_notify)
    busy := by
      show pool.mBusyWorkers = ((pool.mWorkers.map ThreadPools.Place.notify).countP inRun : Nat)
      rw [List.countP_map, models.busy]
      congr 2
      funext place
      exact (inRun_notify place).symm
    joining := rfl
    tasks := models.tasks
    joins := by
      show pool.joins = false
      rw [models.joins, here]
      rfl
    now := models.now }

theorem Models.finished (models : Models s pool) (held : Held s) (here : s.join = .joining s.mWorkers.length) :
    ∀ place ∈ pool.mWorkers, place = .finished := by
  intro place' member
  obtain ⟨place, there, is⟩ := alike_mem models.workers member
  obtain ⟨worker, found⟩ := List.mem_iff_getElem?.mp there
  have less : worker < s.mWorkers.length := (List.getElem?_eq_some_iff.mp found).1
  obtain rfl : place = .finished := Option.some.inj (found.symm.trans (held.inv.joined _ here worker less))
  cases is
  rfl

theorem matched_step (s : ThreadPool) (label : Label) (next : ThreadPool) (pool : ThreadPools.ThreadPool)
    (held : Held s)
    (models : Models s pool) (step : Step s label next) : Held next ∧ Matched next pool := by
  refine ⟨held.step step, ?_⟩
  have stopped {join : Join} (here : s.join = join) : pool.mJoining = join.sets ∧ pool.joins = join.joinsThreads := by
    rw [models.joining, models.joins, here]
    exact ⟨rfl, rfl⟩
  cases step with
  | spawn | spawned => exact .inl { models with }
  | emplace count owned =>
    have free : pool.joins = false := by
      have locks := held.inv.not_locksWorkers (by simp [owned])
      rw [models.joins]
      cases join : s.join with
      | joining => exact absurd (by rw [join]; rfl) locks
      | _ => rfl
    refine .inr ⟨_, _, .spawn free, { models with workers := ?_, busy := ?_ }⟩
    · exact List.rel_append models.workers (.cons .starting .nil)
    · show pool.mBusyWorkers = ((pool.mWorkers ++ [ThreadPools.Place.starting]).countP inRun : Nat)
      rw [List.countP_append]
      exact models.busy
  | run worker here =>
    obtain ⟨_, there, ⟨⟩⟩ := alike_there models.workers here
    exact .inr ⟨_, _, .run worker there, models.moves there .entered rfl (Int.add_zero _) rfl models.tasks rfl rfl⟩
  | lock worker here =>
    refine .inl (models.stays here ?_)
    rintro _ ⟨⟩
    exact .testing
  | start worker task here running top due => exact models.start held here running top due
  | delay worker top here running isTop later => exact models.delay held here running isTop later
  | pause worker «until» here =>
    refine .inl (models.stays here ?_)
    rintro _ ⟨⟩
    exact .pausing _ _
  | wait worker «until» here =>
    refine .inl (models.stays here ?_)
    rintro _ ⟨⟩
    exact .waiting _ _
  | wake worker «until» here =>
    refine .inl (models.stays here ?_)
    rintro _ ⟨⟩
    exact .woken _ _
  | resume worker here =>
    refine .inl (models.stays here ?_)
    rintro _ ⟨⟩
    exact .testingAgain _ _
  | ran worker task threw here =>
    obtain ⟨_, there, ⟨⟩⟩ := alike_there models.workers here
    exact .inr ⟨_, _, .ran worker task there, models.moves there .entered rfl rfl rfl models.tasks rfl rfl⟩
  | dismiss worker here set => exact models.dismiss held here set
  | leave worker here =>
    obtain ⟨_, there, ⟨⟩⟩ := alike_there models.workers here
    refine .inr ⟨_, _, .leave worker there, models.moves there .finished rfl ?_ rfl models.tasks rfl rfl⟩
    simp [ThreadPools.ThreadPool.leave, inRun]
  | schedule task => exact models.schedule task
  | clear => exact .inr ⟨_, _, .clear, { models with tasks := rfl }⟩
  | join here | busy here | retest here =>
    obtain ⟨joining, joins⟩ := stopped here
    exact .inl { models with joining := joining, joins := joins }
  | idle here zero => exact models.idle held here zero
  | setJoining here | unlock here =>
    obtain ⟨joining, joins⟩ := stopped here
    exact .inl { models with joining := joining, joins := joins }
  | lockWorkers here =>
    obtain ⟨joining, joins⟩ := stopped here
    exact .inr ⟨_, _, .lockWorkers joining joins, { models with joining := joining, joins := rfl }⟩
  | joinWorker count here =>
    obtain ⟨joining, joins⟩ := stopped here
    exact .inl { models with joining := joining, joins := joins }
  | joined here =>
    have finished := models.finished held here
    have idle : pool.mBusyWorkers = 0 := by
      rw [models.busy, List.countP_eq_zero.mpr fun place member => by simp [finished place member, inRun]]
      rfl
    refine .inr ⟨_, _, .joined (stopped here).2 finished, ?_⟩
    exact { workers := .nil, busy := idle, joining := rfl, tasks := models.tasks, joins := rfl, now := models.now }
  | resetJoining here | leaveJoin here =>
    obtain ⟨joining, joins⟩ := stopped here
    exact .inl { models with joining := joining, joins := joins }
  | tick now advance =>
    refine .inr ⟨_, _, .tick now (models.now ▸ advance), { models with now := rfl }⟩

theorem initial_models : Models ThreadPool.initial ThreadPools.ThreadPool.initial where
  workers := .nil
  busy := rfl
  joining := rfl
  tasks := rfl
  joins := rfl
  now := rfl

theorem initial_held : Held ThreadPool.initial := ⟨invariant_initial, fun set => Bool.noConfusion set⟩

theorem always_models (trace : List (Label × ThreadPool)) (run : Run Step ThreadPool.initial trace) :
    Always (fun s => Held s ∧ ∃ pool, Reaches ThreadPools.Step ThreadPools.ThreadPool.initial pool ∧ Models s pool)
      ThreadPool.initial trace :=
  always_related matched_step trace _ initial_held initial_models run

theorem always_runs_due (trace : List (Label × ThreadPool)) (run : Run Step ThreadPool.initial trace) :
    Always (fun s => ∀ task, .running task ∈ s.mWorkers → task.time ≤ s.now) ThreadPool.initial trace := by
  apply always_mono _ trace _ (always_models trace run)
  rintro s ⟨_, pool, ⟨coarse, reached, rfl⟩, models⟩ task member
  have accounts := ThreadPools.accounts_along coarse reached
  rw [← models.now]
  apply accounts.due task
  have started : 0 < (last ThreadPools.ThreadPool.initial coarse).running task := by
    obtain ⟨worker, found⟩ := List.mem_iff_getElem?.mp member
    obtain ⟨_, there, ⟨⟩⟩ := alike_there models.workers found
    exact List.countP_pos_iff.mpr ⟨_, List.mem_of_getElem? there, by simp [ThreadPools.Place.task]⟩
  unfold ThreadPools.Tally.started
  omega

end WebsocketClient.BusyWorkers
