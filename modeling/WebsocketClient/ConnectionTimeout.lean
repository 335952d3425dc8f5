import Mathlib.Algebra.Ring.Nat
import Mathlib.Data.List.Basic
import WebsocketClient.Library.Runs
import WebsocketClient.WebSocketState

/-! The task that closes a connection attempt which takes too long. A task is scheduled by every
`open`, is never cancelled, and looks at the state of the `WebSocket` when its time has come. -/

namespace WebsocketClient.ConnectionTimeouts
open WebSocketStates Library.Runs

/-- A task of `scheduleConnectionTimeout`, with the `open` that scheduled it. -/
structure Timer where
  attempt : Nat
  due : Nat
  deriving DecidableEq, Repr

/-- Where a task is that has found the state `Connecting`. -/
inductive Pc where
  /-- Before `triggerError`. -/
  | report
  /-- Before the load of `close`. -/
  | close
  | changeClosing
  /-- Before the load of `remoteClose`. -/
  | load
  | changeClosed
  deriving DecidableEq, Repr

structure Task where
  timer : Timer
  pc : Pc
  /-- How many calls of `remoteClose` wait for the one that runs. -/
  depth : Nat
  deriving DecidableEq, Repr

inductive Effect where
  /-- The error "Connection timed out" goes to the error callback. -/
  | error
  | changed (newState : State)
  deriving DecidableEq, Repr

/-- What a task did, and in which attempt. -/
structure TimedOut where
  timer : Timer
  effect : Effect
  attempt : Nat
  elapsed : Nat
  deriving DecidableEq, Repr

structure System where
  /-- Milliseconds of the steady clock. -/
  now : Nat
  state : State
  /-- How many times `open` was called, and when it was last. -/
  attempt : Nat
  openedAt : Nat
  timers : List Timer
  tasks : List Task
  timedOut : List TimedOut
  deriving DecidableEq, Repr

inductive Label where
  | tick (elapsed : Nat)
  | «open»
  | connected
  | close
  | closeTransports
  | fire (timer : Timer)
  | task (task : Task) (nested : Bool)
  deriving DecidableEq, Repr

/-- `config.connectionTimeout`, half a minute unless it is set. -/
def connectionTimeout (config : Option Nat) : Nat := config.getD 30000

/-- `scheduleConnectionTimeout`. -/
def System.scheduleConnectionTimeout (s : System) (config : Option Nat) : System :=
  if 0 < connectionTimeout config then
    { s with timers := ⟨s.attempt, s.now + connectionTimeout config⟩ :: s.timers }
  else s

/-- `open`, up to the start of the TCP transport. -/
def System.open (s : System) (config : Option Nat) : System :=
  { s with state := .connecting, attempt := s.attempt + 1, openedAt := s.now }.scheduleConnectionTimeout config

def System.note (s : System) (timer : Timer) (effect : Effect) : System :=
  { s with timedOut := ⟨timer, effect, s.attempt, s.now - s.openedAt⟩ :: s.timedOut }

/-- `changeState`, called by a task. -/
def System.changeState (s : System) (timer : Timer) (newState : State) : System :=
  if s.state = newState then s else { s with state := newState }.note timer (.changed newState)

/-- The end of a call of `remoteClose`. The `close` that made it returns to its own caller. -/
def Task.return (task : Task) : List Task :=
  match task.depth with
  | 0 => []
  | depth + 1 => [{ task with pc := .load, depth := depth }]

def System.replace (s : System) (task : Task) (next : List Task) : System :=
  { s with tasks := next ++ s.tasks.erase task }

/-- One step of a task. With `nested`, `remoteClose` is called once more, by `close` when there is
no `WsTransport` or by the state callback of the one that is stopped. -/
def System.taskStep (s : System) (task : Task) (nested : Bool) : System :=
  match task.pc with
  | .report => (s.note task.timer .error).replace task [{ task with pc := .close }]
  | .close =>
    if s.state = .connecting ∨ s.state = .open then s.replace task [{ task with pc := .changeClosing }]
    else s.replace task [{ task with pc := .load }]
  | .changeClosing =>
    (s.changeState task.timer .closing).replace task
      [if nested then { task with pc := .close, depth := task.depth + 1 } else { task with pc := .load }]
  | .load =>
    if s.state = .closed then s.replace task task.return
    else s.replace task [{ task with pc := .changeClosed }]
  | .changeClosed => (s.changeState task.timer .closed).replace task task.return

/-- The steps for one configuration. The tasks run on the threads of the pool, so other steps may
come between theirs. -/
inductive Step (config : Option Nat) : System → Label → System → Prop where
  | tick (s : System) (elapsed : Nat) : Step config s (.tick elapsed) { s with now := s.now + elapsed }
  | «open» (s : System) : s.state = .closed → Step config s .open (s.open config)
  | connected (s : System) : s.state = .connecting → Step config s .connected { s with state := .open }
  | close (s : System) : s.state = .connecting ∨ s.state = .open →
      Step config s .close { s with state := .closing }
  | closeTransports (s : System) : s.state ≠ .closed →
      Step config s .closeTransports { s with state := .closed }
  | fire (s : System) (timer : Timer) : timer ∈ s.timers → timer.due ≤ s.now →
      Step config s (.fire timer) { s with
        timers := s.timers.erase timer
        tasks := if s.state = .connecting then ⟨timer, .report, 0⟩ :: s.tasks else s.tasks }
  | task (s : System) (task : Task) (nested : Bool) : task ∈ s.tasks →
      Step config s (.task task nested) (s.taskStep task nested)

def System.initial : System where
  now := 0
  state := .closed
  attempt := 0
  openedAt := 0
  timers := []
  tasks := []
  timedOut := []

/-- An attempt gets the error and is closed by the task of its own `open` only, and not before its time. -/
def Timely (config : Option Nat) (s : System) : Prop :=
  ∀ event ∈ s.timedOut, event.timer.attempt = event.attempt ∧ connectionTimeout config ≤ event.elapsed

/-- The task comes to report its error or to write a state that is a new one. -/
def Task.Acts (task : Task) (s : System) : Prop :=
  match task.pc with
  | .report => True
  | .changeClosing => s.state ≠ .closing
  | .changeClosed => s.state ≠ .closed
  | .close | .load => False

/-- A task that comes to act belongs to the last `open`. -/
def OwnAttempt (s : System) : Label → Prop
  | .task task _ => task.Acts s → task.timer.attempt = s.attempt
  | _ => True

/-- The time of a task, as far as the last `open` tells it. -/
structure Scheduled (config : Option Nat) (attempt openedAt : Nat) (timer : Timer) : Prop where
  known : timer.attempt ≤ attempt
  due : timer.attempt = attempt → timer.due = openedAt + connectionTimeout config

structure Invariant (config : Option Nat) (s : System) : Prop where
  timers : ∀ timer ∈ s.timers, Scheduled config s.attempt s.openedAt timer
  tasks : ∀ task ∈ s.tasks, Scheduled config s.attempt s.openedAt task.timer ∧ task.timer.due ≤ s.now
  timely : Timely config s

variable {config : Option Nat}

theorem Scheduled.reopened {attempt openedAt : Nat} {timer : Timer}
    (scheduled : Scheduled config attempt openedAt timer) (now : Nat) :
    Scheduled config (attempt + 1) now timer where
  known := Nat.le_succ_of_le scheduled.known
  due same := by
    have known := scheduled.known
    omega

theorem Invariant.open {s : System} (inv : Invariant config s) : Invariant config (s.open config) := by
  have tasks : ∀ task ∈ s.tasks, Scheduled config (s.attempt + 1) s.now task.timer ∧ task.timer.due ≤ s.now :=
    fun task member => ⟨(inv.tasks task member).1.reopened _, (inv.tasks task member).2⟩
  unfold System.open System.scheduleConnectionTimeout
  split
  · refine ⟨?_, tasks, inv.timely⟩
    intro timer member
    rcases List.mem_cons.mp member with rfl | earlier
    · exact ⟨Nat.le_refl _, fun _ => rfl⟩
    · exact (inv.timers timer earlier).reopened _
  · exact ⟨fun timer member => (inv.timers timer member).reopened _, tasks, inv.timely⟩

theorem Invariant.note {s : System} (inv : Invariant config s) {timer : Timer} (effect : Effect)
    (scheduled : Scheduled config s.attempt s.openedAt timer) (past : timer.due ≤ s.now)
    (own : timer.attempt = s.attempt) : Invariant config (s.note timer effect) := by
  refine ⟨inv.timers, inv.tasks, ?_⟩
  intro event member
  rcases List.mem_cons.mp member with rfl | earlier
  · have due := scheduled.due own
    refine ⟨own, ?_⟩
    simp only
    omega
  · exact inv.timely event earlier

theorem Invariant.changeState {s : System} (inv : Invariant config s) {timer : Timer} {newState : State}
    (scheduled : Scheduled config s.attempt s.openedAt timer) (past : timer.due ≤ s.now)
    (own : s.state ≠ newState → timer.attempt = s.attempt) : Invariant config (s.changeState timer newState) := by
  unfold System.changeState
  split
  · exact inv
  · rename_i changes
    have changed : Invariant config { s with state := newState } := ⟨inv.timers, inv.tasks, inv.timely⟩
    exact changed.note _ scheduled past (own changes)

theorem Invariant.replace {s : System} (inv : Invariant config s) {task : Task} {next : List Task}
    (scheduled : Scheduled config s.attempt s.openedAt task.timer) (past : task.timer.due ≤ s.now)
    (same : ∀ other ∈ next, other.timer = task.timer) : Invariant config (s.replace task next) := by
  refine ⟨inv.timers, ?_, inv.timely⟩
  intro other member
  rcases List.mem_append.mp member with new | earlier
  · rw [same other new]
    exact ⟨scheduled, past⟩
  · exact inv.tasks other (List.mem_of_mem_erase earlier)

theorem Task.return_timer {task other : Task} (member : other ∈ task.return) : other.timer = task.timer := by
  unfold Task.return at member
  split at member
  · exact absurd member List.not_mem_nil
  · rw [List.mem_singleton.mp member]

@[simp] theorem System.changeState_attempt (s : System) (timer : Timer) (newState : State) :
    (s.changeState timer newState).attempt = s.attempt := by
  unfold System.changeState
  split <;> rfl

@[simp] theorem System.changeState_openedAt (s : System) (timer : Timer) (newState : State) :
    (s.changeState timer newState).openedAt = s.openedAt := by
  unfold System.changeState
  split <;> rfl

@[simp] theorem System.changeState_now (s : System) (timer : Timer) (newState : State) :
    (s.changeState timer newState).now = s.now := by
  unfold System.changeState
  split <;> rfl

theorem Invariant.taskStep {s : System} (inv : Invariant config s) {task : Task} (nested : Bool)
    (running : task ∈ s.tasks) (own : OwnAttempt s (.task task nested)) :
    Invariant config (s.taskStep task nested) := by
  obtain ⟨scheduled, past⟩ := inv.tasks task running
  have one : ∀ {next : Task}, next.timer = task.timer → ∀ other ∈ [next], other.timer = task.timer := by
    intro next same other member
    rw [List.mem_singleton.mp member]
    exact same
  simp only [OwnAttempt, Task.Acts] at own
  unfold System.taskStep
  split
  case h_1 pc =>
    rw [pc] at own
    exact (inv.note .error scheduled past (own trivial)).replace scheduled past (one rfl)
  case h_2 pc =>
    split
    · exact inv.replace scheduled past (one rfl)
    · exact inv.replace scheduled past (one rfl)
  case h_3 pc =>
    rw [pc] at own
    refine (inv.changeState scheduled past own).replace (by simpa using scheduled) (by simpa using past) (one ?_)
    cases nested <;> rfl
  case h_4 pc =>
    split
    · exact inv.replace scheduled past fun other => Task.return_timer
    · exact inv.replace scheduled past (one rfl)
  case h_5 pc =>
    rw [pc] at own
    exact (inv.changeState scheduled past own).replace (by simpa using scheduled) (by simpa using past)
      fun other => Task.return_timer

theorem keeps_invariant (s : System) (label : Label) (next : System) (inv : Invariant config s)
    (step : Step config s label next) (own : OwnAttempt s label) : Invariant config next := by
  cases step with
  | tick elapsed =>
    refine ⟨inv.timers, ?_, inv.timely⟩
    intro task member
    obtain ⟨scheduled, past⟩ := inv.tasks task member
    exact ⟨scheduled, Nat.le_add_right_of_le past⟩
  | «open» closed => exact inv.open
  | connected place | close place | closeTransports place => exact ⟨inv.timers, inv.tasks, inv.timely⟩
  | fire timer waiting past =>
    have scheduled := inv.timers timer waiting
    refine ⟨fun other member => inv.timers other (List.mem_of_mem_erase member), ?_, inv.timely⟩
    intro task member
    simp only at member
    split at member
    · rcases List.mem_cons.mp member with rfl | earlier
      · exact ⟨scheduled, past⟩
      · exact inv.tasks task earlier
    · exact inv.tasks task member
  | task task nested running => exact inv.taskStep nested running own

theorem Invariant.initial : Invariant config .initial :=
  ⟨fun _ member => absurd member List.not_mem_nil, fun _ member => absurd member List.not_mem_nil,
    fun _ member => absurd member List.not_mem_nil⟩

/-- The steps of a task from its test of the state to the new state `Closing`. -/
def closing (s : System) (timer : Timer) : List (Label × System) :=
  let tested := { s with timers := s.timers.erase timer, tasks := ⟨timer, .report, 0⟩ :: s.tasks }
  let reported := tested.taskStep ⟨timer, .report, 0⟩ false
  let loaded := reported.taskStep ⟨timer, .close, 0⟩ false
  [(.fire timer, tested), (.task ⟨timer, .report, 0⟩ false, reported), (.task ⟨timer, .close, 0⟩ false, loaded),
    (.task ⟨timer, .changeClosing, 0⟩ true, loaded.taskStep ⟨timer, .changeClosing, 0⟩ true)]

/-- The connection is closed after half of the time and opened once more. -/
def reopened : List (Label × System) :=
  let opened := System.initial.open (some 10)
  let closed := { opened with now := 5, state := .closed }
  let again := closed.open (some 10)
  [(.open, opened), (.tick 5, { opened with now := 5 }), (.closeTransports, closed), (.open, again),
    (.tick 5, { again with now := 10 })] ++ closing { again with now := 10 } ⟨1, 10⟩

end WebsocketClient.ConnectionTimeouts
