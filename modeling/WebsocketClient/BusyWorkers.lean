import WebsocketClient.Library.Places
import WebsocketClient.Library.Runs
import WebsocketClient.ThreadPool

/-! `impl/threadpool.cpp` again, at a finer grain: `mMutex` and `mWorkersMutex` have owners, and what a worker
does to `mBusyWorkers` is a step of its own, with or without `mMutex` as in the source. Whoever waits for a
condition wakes at any time, so notifications need no place here. `Init` calls `spawn` and `join` one at a time. -/

namespace WebsocketClient.BusyWorkers
open Library.Runs Library.Places
open ThreadPools (Task IsTop)

inductive Place where
  /-- Before `run` counts it. -/
  | starting
  /-- In `run`, without the mutex. -/
  | entered
  /-- In `dequeue` with the mutex, at the head of the loop. -/
  | testing
  /-- With the mutex, where no task is due; before the counter goes down, and after. -/
  | untimely («until» : Option Nat)
  | pausing («until» : Option Nat)
  | waiting («until» : Option Nat)
  /-- With the mutex again, before the guard counts it. -/
  | woken
  | running (task : Task)
  /-- `dequeue` has returned no task. -/
  | leaving
  | finished
  deriving DecidableEq, Repr

inductive Join where
  | outside
  /-- With the mutex, before it looks at the counter. -/
  | testing
  | waiting
  /-- It has seen a counter of zero. -/
  | tested
  /-- It has set `mJoining`; first with the mutex, then without. -/
  | notifying
  | unlocked
  /-- With `mWorkersMutex`, and so many threads are joined. -/
  | joining (count : Nat)
  | cleared
  /-- Before it returns. -/
  | reset
  deriving DecidableEq, Repr

inductive Owner where
  | worker (worker : Nat)
  | join
  deriving DecidableEq, Repr

inductive WorkersOwner where
  /-- `spawn`, and how many threads it has yet to make. -/
  | spawn (count : Int)
  | join
  deriving DecidableEq, Repr

structure ThreadPool where
  mWorkers : List Place
  mBusyWorkers : Int
  mJoining : Bool
  mTasks : List Task
  mMutex : Option Owner
  mWorkersMutex : Option WorkersOwner
  join : Join
  now : Nat
  deriving DecidableEq, Repr

def ThreadPool.initial : ThreadPool where
  mWorkers := []
  mBusyWorkers := 0
  mJoining := false
  mTasks := []
  mMutex := none
  mWorkersMutex := none
  join := .outside
  now := 0

inductive Label where
  | spawn (count : Int)
  | emplace
  | spawned
  | run (worker : Nat)
  | lock (worker : Nat)
  | start (worker : Nat) (task : Task)
  | delay (worker : Nat) (top : Option Task)
  | pause (worker : Nat)
  | wait (worker : Nat)
  | wake (worker : Nat)
  | resume (worker : Nat)
  | ran (worker : Nat) (threw : Bool)
  | dismiss (worker : Nat)
  | leave (worker : Nat)
  | schedule (task : Task)
  | clear
  | join
  | tick (now : Nat)
  deriving DecidableEq, Repr

inductive Step (s : ThreadPool) : Label → ThreadPool → Prop where
  | spawn (count : Int) : s.mWorkersMutex = none →
      Step s (.spawn count) { s with mWorkersMutex := some (.spawn count) }
  | emplace (count : Int) : s.mWorkersMutex = some (.spawn count) → 0 < count →
      Step s .emplace { s with
        mWorkers := s.mWorkers ++ [.starting], mWorkersMutex := some (.spawn (count - 1)) }
  | spawned (count : Int) : s.mWorkersMutex = some (.spawn count) → count ≤ 0 →
      Step s .spawned { s with mWorkersMutex := none }
  -- the guard of `run` is outside of `dequeue`, and takes no mutex
  | run (worker : Nat) : s.mWorkers[worker]? = some .starting →
      Step s (.run worker) { s with
        mWorkers := s.mWorkers.set worker .entered, mBusyWorkers := s.mBusyWorkers + 1 }
  | lock (worker : Nat) : s.mWorkers[worker]? = some .entered → s.mMutex = none →
      Step s (.lock worker) { s with
        mWorkers := s.mWorkers.set worker .testing, mMutex := some (.worker worker) }
  | start (worker : Nat) (task : Task) : s.mWorkers[worker]? = some .testing → s.mJoining = false →
      IsTop s.mTasks (some task) → task.time ≤ s.now →
      Step s (.start worker task) { s with
        mWorkers := s.mWorkers.set worker (.running task), mTasks := s.mTasks.erase task, mMutex := none }
  | delay (worker : Nat) (top : Option Task) : s.mWorkers[worker]? = some .testing → s.mJoining = false →
      IsTop s.mTasks top → (∀ task, top = some task → s.now < task.time) →
      Step s (.delay worker top) { s with mWorkers := s.mWorkers.set worker (.untimely (top.map Task.time)) }
  | pause (worker : Nat) («until» : Option Nat) : s.mWorkers[worker]? = some (.untimely «until») →
      Step s (.pause worker) { s with
        mWorkers := s.mWorkers.set worker (.pausing «until»), mBusyWorkers := s.mBusyWorkers - 1 }
  | wait (worker : Nat) («until» : Option Nat) : s.mWorkers[worker]? = some (.pausing «until») →
      Step s (.wait worker) { s with mWorkers := s.mWorkers.set worker (.waiting «until»), mMutex := none }
  | wake (worker : Nat) («until» : Option Nat) : s.mWorkers[worker]? = some (.waiting «until») → s.mMutex = none →
      Step s (.wake worker) { s with
        mWorkers := s.mWorkers.set worker .woken, mMutex := some (.worker worker) }
  | resume (worker : Nat) : s.mWorkers[worker]? = some .woken →
      Step s (.resume worker) { s with
        mWorkers := s.mWorkers.set worker .testing, mBusyWorkers := s.mBusyWorkers + 1 }
  -- the packaged task keeps what was thrown
  | ran (worker : Nat) (task : Task) (threw : Bool) : s.mWorkers[worker]? = some (.running task) →
      Step s (.ran worker threw) { s with mWorkers := s.mWorkers.set worker .entered }
  | dismiss (worker : Nat) : s.mWorkers[worker]? = some .testing → s.mJoining = true →
      Step s (.dismiss worker) { s with mWorkers := s.mWorkers.set worker .leaving, mMutex := none }
  | leave (worker : Nat) : s.mWorkers[worker]? = some .leaving →
      Step s (.leave worker) { s with
        mWorkers := s.mWorkers.set worker .finished, mBusyWorkers := s.mBusyWorkers - 1 }
  | schedule (task : Task) : s.mMutex = none → Step s (.schedule task) { s with mTasks := s.mTasks ++ [task] }
  | clear : s.mMutex = none → Step s .clear { s with mTasks := [] }
  | join : s.join = .outside → s.mMutex = none → Step s .join { s with join := .testing, mMutex := some .join }
  | busy : s.join = .testing → s.mBusyWorkers ≠ 0 → Step s .join { s with join := .waiting, mMutex := none }
  | retest : s.join = .waiting → s.mMutex = none → Step s .join { s with join := .testing, mMutex := some .join }
  | idle : s.join = .testing → s.mBusyWorkers = 0 → Step s .join { s with join := .tested }
  | setJoining : s.join = .tested → Step s .join { s with join := .notifying, mJoining := true }
  | unlock : s.join = .notifying → Step s .join { s with join := .unlocked, mMutex := none }
  | lockWorkers : s.join = .unlocked → s.mWorkersMutex = none →
      Step s .join { s with join := .joining 0, mWorkersMutex := some .join }
  | joinWorker (count : Nat) : s.join = .joining count → s.mWorkers[count]? = some .finished →
      Step s .join { s with join := .joining (count + 1) }
  | joined : s.join = .joining s.mWorkers.length → Step s .join { s with join := .cleared, mWorkers := [] }
  | resetJoining : s.join = .cleared → Step s .join { s with join := .reset, mJoining := false }
  | leaveJoin : s.join = .reset → Step s .join { s with join := .outside, mWorkersMutex := none }
  | tick (now : Nat) : s.now ≤ now → Step s (.tick now) { s with now := now }

/-- A worker that has entered `run` and neither waits in `dequeue` nor has finished. It waits from the decrement in
the loop to the increment of the guard. -/
def Place.busy : Place → Bool
  | .entered | .testing | .untimely _ | .running _ | .leaving => true
  | _ => false

def Place.locks : Place → Bool
  | .testing | .untimely _ | .pausing _ | .woken => true
  | _ => false

namespace Join

def locks : Join → Bool
  | .testing | .tested | .notifying => true
  | _ => false

def locksWorkers : Join → Bool
  | .joining _ | .cleared | .reset => true
  | _ => false

/-- `mJoining` has been set, and `join` has not returned. -/
def joins : Join → Bool
  | .notifying | .unlocked | .joining _ | .cleared | .reset => true
  | _ => false

end Join

/-- What `join` relies on. A worker that starts a task is running it in the next state. -/
structure Sound (s : ThreadPool) : Prop where
  busy : s.mBusyWorkers = (s.mWorkers.countP Place.busy : Nat)
  nonnegative : 0 ≤ s.mBusyWorkers
  idle : s.join.joins = true → ∀ task, .running task ∉ s.mWorkers

/-- No worker starts a task between the setting of `mJoining` and the return of `join`. -/
def StartsNone (s : ThreadPool) (label : Label) : Prop :=
  s.join.joins = true → ∀ worker task, label ≠ .start worker task

structure Invariant (s : ThreadPool) : Prop where
  busy : s.mBusyWorkers = (s.mWorkers.countP Place.busy : Nat)
  locks : ∀ worker place, s.mWorkers[worker]? = some place → place.locks = true → s.mMutex = some (.worker worker)
  joinLocks : s.join.locks = true → s.mMutex = some .join
  joinLocksWorkers : s.join.locksWorkers = true → s.mWorkersMutex = some .join
  /-- `mJoining` is set until no worker is left. -/
  joining : s.join.joins = true → s.join ≠ .reset → s.mJoining = true
  /-- A worker that is late for the count is kept from the tasks by the mutex, and then by `mJoining`. -/
  idle : s.join = .tested ∨ s.join.joins = true → ∀ task, .running task ∉ s.mWorkers
  joined : ∀ count, s.join = .joining count → ∀ worker < count, s.mWorkers[worker]? = some .finished
  cleared : s.join = .cleared ∨ s.join = .reset → s.mWorkers = []

variable {s : ThreadPool}

theorem Invariant.sound (inv : Invariant s) : Sound s where
  busy := inv.busy
  nonnegative := by
    rw [inv.busy]
    exact Int.natCast_nonneg _
  idle := fun joins => inv.idle (.inr joins)

/-! ### Workers -/

/-- A worker goes on. It takes the mutex from no other thread, and no task while `join` is at work. -/
theorem Invariant.move (inv : Invariant s) {worker : Nat} {old new : Place} {busy : Int} {tasks : List Task}
    {mutex : Option Owner} (here : s.mWorkers[worker]? = some old)
    (counted : busy + old.busy.toNat = s.mBusyWorkers + new.busy.toNat) (alive : old ≠ .finished)
    (mine : new.locks = true → mutex = some (.worker worker))
    (theirs : ∀ owner, owner ≠ .worker worker → s.mMutex = some owner → mutex = some owner)
    (idle : s.join = .tested ∨ s.join.joins = true → ∀ task, new ≠ .running task) :
    Invariant { s with
      mWorkers := s.mWorkers.set worker new, mBusyWorkers := busy, mTasks := tasks, mMutex := mutex } := by
  refine ⟨?_, ?_, ?_, inv.joinLocksWorkers, inv.joining, ?_, ?_, ?_⟩
  · have moved : (s.mWorkers.set worker new).countP Place.busy + old.busy.toNat =
        s.mWorkers.countP Place.busy + new.busy.toNat := countP_moved Place.busy here
    have before := inv.busy
    simp only
    omega
  · intro index place found locks
    rcases moved_cases here found with ⟨rfl, rfl⟩ | ⟨other, there⟩
    · exact mine locks
    · refine theirs _ ?_ (inv.locks index place there locks)
      exact fun same => other (Owner.worker.inj same)
  · intro locks
    exact theirs .join (by simp) (inv.joinLocks locks)
  · intro joins task member
    exact inv.idle joins task (mem_of_mem_set member (idle joins task).symm)
  · intro count joining index less
    have finished := inv.joined count joining index less
    have other : worker ≠ index := by
      intro same
      rw [← same] at finished
      exact alive (Option.some.inj (here.symm.trans finished))
    exact (List.getElem?_set_ne other).trans finished
  · intro cleared
    have none := inv.cleared cleared
    rw [none] at here
    exact absurd here (by simp)

theorem Invariant.go (inv : Invariant s) {worker : Nat} {old new : Place} {busy : Int}
    (here : s.mWorkers[worker]? = some old) (counted : busy + old.busy.toNat = s.mBusyWorkers + new.busy.toNat)
    (alive : old ≠ .finished) (same : new.locks = true → old.locks = true) (idle : ∀ task, new ≠ .running task) :
    Invariant { s with mWorkers := s.mWorkers.set worker new, mBusyWorkers := busy } := by
  have mine : new.locks = true → s.mMutex = some (.worker worker) :=
    fun locks => inv.locks worker old here (same locks)
  exact inv.move here counted alive mine (fun _ _ => id) (fun _ => idle)

theorem Invariant.lock (inv : Invariant s) {worker : Nat} {old new : Place} (here : s.mWorkers[worker]? = some old)
    (counted : old.busy = new.busy) (alive : old ≠ .finished) (free : s.mMutex = none)
    (idle : ∀ task, new ≠ .running task) :
    Invariant { s with mWorkers := s.mWorkers.set worker new, mMutex := some (.worker worker) } := by
  refine inv.move here (by rw [counted]) alive (fun _ => rfl) ?_ (fun _ => idle)
  intro owner _ owned
  rw [free] at owned
  exact absurd owned (by simp)

theorem Invariant.unlock (inv : Invariant s) {worker : Nat} {old new : Place} {tasks : List Task}
    (here : s.mWorkers[worker]? = some old) (counted : old.busy = new.busy) (had : old.locks = true)
    (alive : old ≠ .finished) (has : new.locks = false)
    (idle : s.join = .tested ∨ s.join.joins = true → ∀ task, new ≠ .running task) :
    Invariant { s with mWorkers := s.mWorkers.set worker new, mTasks := tasks, mMutex := none } := by
  refine inv.move here (by rw [counted]) alive (fun locks => ?_) ?_ idle
  · rw [has] at locks
    exact absurd locks (by decide)
  · intro owner other owned
    have mine := inv.locks worker old here had
    exact absurd (Option.some.inj (owned.symm.trans mine)) other

theorem Invariant.not_joins (inv : Invariant s) {worker : Nat} (here : s.mWorkers[worker]? = some .testing)
    (running : s.mJoining = false) : ¬(s.join = .tested ∨ s.join.joins = true) := by
  have mine := inv.locks worker _ here rfl
  intro reached
  rcases reached with tested | joins
  · have owned := inv.joinLocks (by rw [tested]; rfl)
    rw [mine] at owned
    exact absurd owned (by simp)
  · by_cases reset : s.join = .reset
    · rw [inv.cleared (.inr reset)] at here
      exact absurd here (by simp)
    · have set := inv.joining joins reset
      rw [running] at set
      exact absurd set (by decide)

theorem Invariant.not_locksWorkers (inv : Invariant s) (other : s.mWorkersMutex ≠ some .join) :
    s.join.locksWorkers ≠ true := fun locks => other (inv.joinLocksWorkers locks)

theorem Invariant.passWorkers (inv : Invariant s) (other : s.mWorkersMutex ≠ some .join) (owner : Option WorkersOwner) :
    Invariant { s with mWorkersMutex := owner } := by
  refine ⟨inv.busy, inv.locks, inv.joinLocks, ?_, inv.joining, inv.idle, inv.joined, inv.cleared⟩
  exact fun locks => absurd locks (inv.not_locksWorkers other)

theorem Invariant.emplace (inv : Invariant s) {count left : Int} (owned : s.mWorkersMutex = some (.spawn count)) :
    Invariant { s with mWorkers := s.mWorkers ++ [.starting], mWorkersMutex := some (.spawn left) } := by
  have free : s.join.locksWorkers ≠ true := inv.not_locksWorkers (by simp [owned])
  refine ⟨?_, ?_, inv.joinLocks, fun locks => absurd locks free, inv.joining, ?_, ?_, ?_⟩
  · have new : [Place.starting].countP Place.busy = 0 := rfl
    simp only [List.countP_append, new, Nat.add_zero]
    exact inv.busy
  · intro index place found locks
    rcases joined_cases found with ⟨_, there⟩ | ⟨_, rfl⟩
    · exact inv.locks index place there locks
    · exact absurd locks (by decide)
  · intro joins task member
    rcases List.mem_append.mp member with before | new
    · exact inv.idle joins task before
    · exact absurd (List.mem_singleton.mp new) (by simp)
  · intro joined joining
    simp only at joining
    exact absurd (by rw [joining]; rfl) free
  · intro cleared
    simp only at cleared
    rcases cleared with cleared | cleared <;> exact absurd (by rw [cleared]; rfl) free

/-! ### The caller of join -/

theorem Invariant.idle_of_zero (inv : Invariant s) (zero : s.mBusyWorkers = 0) :
    ∀ task, .running task ∉ s.mWorkers := by
  intro task member
  have counted : 0 < s.mWorkers.countP Place.busy := List.countP_pos_iff.mpr ⟨_, member, rfl⟩
  have busy := inv.busy
  omega

theorem Invariant.moveJoin (inv : Invariant s) {join : Join} {joining : Bool} {mutex : Option Owner}
    {workersMutex : Option WorkersOwner}
    (theirs : ∀ worker, s.mMutex = some (.worker worker) → mutex = some (.worker worker))
    (mine : join.locks = true → mutex = some .join)
    (workers : join.locksWorkers = true → workersMutex = some .join)
    (set : join.joins = true → join ≠ .reset → joining = true)
    (idle : join = .tested ∨ join.joins = true → ∀ task, .running task ∉ s.mWorkers)
    (joined : ∀ count, join = .joining count → ∀ worker < count, s.mWorkers[worker]? = some .finished)
    (cleared : join = .cleared ∨ join = .reset → s.mWorkers = []) :
    Invariant { s with join := join, mJoining := joining, mMutex := mutex, mWorkersMutex := workersMutex } :=
  ⟨inv.busy, fun worker place here locks => theirs worker (inv.locks worker place here locks), mine, workers, set,
    idle, joined, cleared⟩

theorem Invariant.tryJoin (inv : Invariant s) {join : Join} {mutex : Option Owner}
    (theirs : ∀ worker, s.mMutex = some (.worker worker) → mutex = some (.worker worker))
    (mine : join.locks = true → mutex = some .join) (early : join.joins = false)
    (workers : join.locksWorkers = false) (idle : join = .tested → ∀ task, .running task ∉ s.mWorkers) :
    Invariant { s with join := join, mMutex := mutex } := by
  refine inv.moveJoin theirs mine ?_ ?_ ?_ ?_ ?_
  · intro locks
    exact absurd (workers.symm.trans locks) (by decide)
  · intro joins
    exact absurd (early.symm.trans joins) (by decide)
  · intro reached
    rcases reached with tested | joins
    · exact idle tested
    · exact absurd (early.symm.trans joins) (by decide)
  · intro count joining
    rw [joining] at early
    exact absurd early (by simp [Join.joins])
  · intro done
    rcases done with cleared | reset
    · rw [cleared] at early
      exact absurd early (by decide)
    · rw [reset] at early
      exact absurd early (by decide)

theorem free_theirs (free : s.mMutex = none) {mutex : Option Owner} (worker : Nat)
    (owned : s.mMutex = some (.worker worker)) : mutex = some (.worker worker) := by
  rw [free] at owned
  exact absurd owned (by simp)

theorem Invariant.join_theirs (inv : Invariant s) (locks : s.join.locks = true) {mutex : Option Owner} (worker : Nat)
    (owned : s.mMutex = some (.worker worker)) : mutex = some (.worker worker) := by
  have mine := inv.joinLocks locks
  rw [owned] at mine
  exact absurd mine (by simp)

theorem Invariant.joins_at (inv : Invariant s) {join : Join} (here : s.join = join) (joins : join.joins = true)
    (other : join ≠ .reset) : s.join.joins = true ∧ s.mJoining = true := by
  subst here
  exact ⟨joins, inv.joining joins other⟩

/-- The threads are joined one after the other, so that all of them have finished. -/
theorem Invariant.joinedAll (inv : Invariant s) (here : s.join = .joining s.mWorkers.length) :
    Invariant { s with join := .cleared, mWorkers := [] } := by
  have finished : ∀ place ∈ s.mWorkers, place = .finished := by
    intro place member
    obtain ⟨worker, found⟩ := List.mem_iff_getElem?.mp member
    have less : worker < s.mWorkers.length := (List.getElem?_eq_some_iff.mp found).1
    exact Option.some.inj (found.symm.trans (inv.joined _ here worker less))
  have none : s.mWorkers.countP Place.busy = 0 := by
    apply List.countP_eq_zero.mpr
    intro place member
    rw [finished place member]
    decide
  have set : s.mJoining = true := (inv.joins_at here rfl (by simp)).2
  refine ⟨?_, ?_, ?_, ?_, fun _ _ => set, ?_, ?_, fun _ => rfl⟩
  · have busy := inv.busy
    rw [none] at busy
    exact busy
  · intro worker place found
    exact absurd found (by simp)
  · intro locks
    exact absurd locks (by simp [Join.locks])
  · intro _
    exact inv.joinLocksWorkers (by rw [here]; rfl)
  · intro _ task
    exact List.not_mem_nil
  · intro count joining
    exact absurd joining (by simp)

theorem invariant_step (s : ThreadPool) (label : Label) (next : ThreadPool) (inv : Invariant s)
    (step : Step s label next) : Invariant next := by
  cases step with
  | spawn count free => exact inv.passWorkers (by simp [free]) _
  | emplace count owned more => exact inv.emplace owned
  | spawned count owned done => exact inv.passWorkers (by simp [owned]) _
  | run worker here => exact inv.go here (by simp [Place.busy]) (by simp) (by simp [Place.locks]) (by simp)
  | lock worker here free => exact inv.lock here rfl (by simp) free (by simp)
  | start worker task here running top due =>
    exact inv.unlock here rfl rfl (by simp) rfl fun joins => absurd joins (inv.not_joins here running)
  | delay worker top here running isTop later =>
    exact inv.go here (by simp [Place.busy]) (by simp) (fun _ => rfl) (by simp)
  | pause worker «until» here => exact inv.go here (by simp [Place.busy]) (by simp) (fun _ => rfl) (by simp)
  | wait worker «until» here => exact inv.unlock here rfl rfl (by simp) rfl fun _ => by simp
  | wake worker «until» here free => exact inv.lock here rfl (by simp) free (by simp)
  | resume worker here => exact inv.go here (by simp [Place.busy]) (by simp) (fun _ => rfl) (by simp)
  | ran worker task threw here =>
    exact inv.go here (by simp [Place.busy]) (by simp) (by simp [Place.locks]) (by simp)
  | dismiss worker here set => exact inv.unlock here rfl rfl (by simp) rfl fun _ => by simp
  | leave worker here => exact inv.go here (by simp [Place.busy]) (by simp) (by simp [Place.locks]) (by simp)
  | schedule | clear | tick =>
    exact ⟨inv.busy, inv.locks, inv.joinLocks, inv.joinLocksWorkers, inv.joining, inv.idle, inv.joined, inv.cleared⟩
  | join here free | retest here free => exact inv.tryJoin (free_theirs free) (fun _ => rfl) rfl rfl (by simp)
  | busy here counted =>
    exact inv.tryJoin (inv.join_theirs (by rw [here]; rfl)) (by simp [Join.locks]) rfl rfl (by simp)
  | idle here zero =>
    have mine : s.mMutex = some .join := inv.joinLocks (by rw [here]; rfl)
    exact inv.tryJoin (fun _ => id) (fun _ => mine) rfl rfl fun _ => inv.idle_of_zero zero
  | setJoining here =>
    have mine : s.mMutex = some .join := inv.joinLocks (by rw [here]; rfl)
    exact inv.moveJoin (fun _ => id) (fun _ => mine) (by simp [Join.locksWorkers]) (fun _ _ => rfl)
      (fun _ => inv.idle (.inl here)) (by simp) (by simp)
  | unlock here =>
    obtain ⟨joins, set⟩ := inv.joins_at here rfl (by simp)
    exact inv.moveJoin (inv.join_theirs (by rw [here]; rfl)) (by simp [Join.locks]) (by simp [Join.locksWorkers])
      (fun _ _ => set) (fun _ => inv.idle (.inr joins)) (by simp) (by simp)
  | lockWorkers here free =>
    obtain ⟨joins, set⟩ := inv.joins_at here rfl (by simp)
    refine inv.moveJoin (fun _ => id) (by simp [Join.locks]) (fun _ => rfl) (fun _ _ => set)
      (fun _ => inv.idle (.inr joins)) ?_ (by simp)
    intro count same worker less
    rw [← Join.joining.inj same] at less
    omega
  | joinWorker count here finished =>
    obtain ⟨joins, set⟩ := inv.joins_at here rfl (by simp)
    have owned : s.mWorkersMutex = some .join := inv.joinLocksWorkers (by rw [here]; rfl)
    refine inv.moveJoin (fun _ => id) (by simp [Join.locks]) (fun _ => owned) (fun _ _ => set)
      (fun _ => inv.idle (.inr joins)) ?_ (by simp)
    intro next same worker less
    obtain rfl := Join.joining.inj same
    by_cases last : worker = count
    · rw [last]
      exact finished
    · exact inv.joined count here worker (by omega)
  | joined here => exact inv.joinedAll here
  | resetJoining here =>
    have owned : s.mWorkersMutex = some .join := inv.joinLocksWorkers (by rw [here]; rfl)
    have none : s.mWorkers = [] := inv.cleared (.inl here)
    exact inv.moveJoin (fun _ => id) (by simp [Join.locks]) (fun _ => owned) (by simp)
      (fun _ => inv.idle (.inr (by rw [here]; rfl))) (by simp) (fun _ => none)
  | leaveJoin here =>
    exact inv.moveJoin (fun _ => id) (by simp [Join.locks]) (by simp [Join.locksWorkers]) (by simp [Join.joins])
      (by simp [Join.joins]) (by simp) (by simp)

theorem invariant_initial : Invariant ThreadPool.initial := by
  refine ⟨rfl, ?_, ?_, ?_, ?_, ?_, ?_, ?_⟩
  · intro worker place found
    exact absurd found (by simp [ThreadPool.initial])
  · intro locks
    exact absurd locks (by decide)
  · intro locks
    exact absurd locks (by decide)
  · intro joins
    exact absurd joins (by decide)
  · intro _ task
    exact List.not_mem_nil
  · intro count joining
    exact absurd joining (by simp [ThreadPool.initial])
  · exact fun _ => rfl

/-- A worker that starts a task runs it, where `join` has not moved. -/
theorem not_sound_of_starts (s : ThreadPool) (label : Label) (next : ThreadPool) (_ : Invariant s)
    (step : Step s label next) (starts : ¬StartsNone s label) : ¬Sound next := by
  unfold StartsNone at starts
  push Not at starts
  obtain ⟨joins, worker, task, rfl⟩ := starts
  intro sound
  cases step with
  | start _ _ here =>
    have member : Place.running task ∈ s.mWorkers.set worker (.running task) :=
      List.mem_of_getElem? (getElem?_moved here)
    exact sound.idle joins task member

/-- The counter is right in every state of a run, and `join` finds and keeps the workers without a task. -/
theorem busy_counted (trace : List (Label × ThreadPool)) (run : Run Step ThreadPool.initial trace) :
    Always Sound ThreadPool.initial trace ∧ Guarded StartsNone ThreadPool.initial trace := by
  have always : Always Invariant ThreadPool.initial trace :=
    always_of_step invariant_step trace _ invariant_initial run
  have sound : Always Sound ThreadPool.initial trace := always_mono (fun s inv => inv.sound) trace _ always
  have starts : Always Sound ThreadPool.initial trace ↔ Guarded StartsNone ThreadPool.initial trace :=
    always_iff (fun s inv => inv.sound) (fun s label next inv step _ => invariant_step s label next inv step)
      not_sound_of_starts trace _ invariant_initial run
  exact ⟨sound, starts.mp sound⟩

/-! ### A late worker -/

def pool (workers : List Place) (busy : Int) (joining : Bool) (mutex : Option Owner)
    (workersMutex : Option WorkersOwner) (join : Join) : ThreadPool :=
  ⟨workers, busy, joining, [⟨0, 1⟩], mutex, workersMutex, join, 0⟩

/-- The worker enters `run` after `join` has looked at the counter, and is dismissed without the task. -/
def late : List (Label × ThreadPool) :=
  [(.spawn 1, { ThreadPool.initial with mWorkersMutex := some (.spawn 1) }),
    (.emplace, { ThreadPool.initial with mWorkers := [.starting], mWorkersMutex := some (.spawn 0) }),
    (.spawned, { ThreadPool.initial with mWorkers := [.starting] }),
    (.schedule ⟨0, 1⟩, pool [.starting] 0 false none none .outside),
    (.join, pool [.starting] 0 false (some .join) none .testing),
    (.join, pool [.starting] 0 false (some .join) none .tested),
    (.run 0, pool [.entered] 1 false (some .join) none .tested),
    (.join, pool [.entered] 1 true (some .join) none .notifying),
    (.join, pool [.entered] 1 true none none .unlocked),
    (.lock 0, pool [.testing] 1 true (some (.worker 0)) none .unlocked),
    (.dismiss 0, pool [.leaving] 1 true none none .unlocked),
    (.join, pool [.leaving] 1 true none (some .join) (.joining 0)),
    (.leave 0, pool [.finished] 0 true none (some .join) (.joining 0)),
    (.join, pool [.finished] 0 true none (some .join) (.joining 1)),
    (.join, pool [] 0 true none (some .join) .cleared),
    (.join, pool [] 0 false none (some .join) .reset),
    (.join, pool [] 0 false none none .outside)]

theorem busy_counted_late : Always Sound ThreadPool.initial late ∧ Guarded StartsNone ThreadPool.initial late := by
  apply busy_counted
  refine ⟨.spawn 1 rfl, .emplace 1 rfl (by decide), .spawned 0 rfl (by decide), .schedule _ rfl, ?_⟩
  refine ⟨.join rfl rfl, .idle rfl rfl, .run 0 rfl, .setJoining rfl, .unlock rfl, .lock 0 rfl rfl, ?_⟩
  refine ⟨.dismiss 0 rfl rfl, .lockWorkers rfl rfl, .leave 0 rfl, .joinWorker 0 rfl rfl, .joined rfl, ?_⟩
  exact ⟨.resetJoining rfl, .leaveJoin rfl, trivial⟩

end WebsocketClient.BusyWorkers
