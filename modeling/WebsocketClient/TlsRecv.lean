import Mathlib.Data.List.Basic
import WebsocketClient.Library.Places
import WebsocketClient.Library.Runs
import WebsocketClient.Queue
import WebsocketClient.Transport

/-! `enqueueRecv` and `doRecv` of `TlsTransport` as built with OpenSSL. Any number of threads call `incoming` and
`stop`, and the thread pool runs `doRecv` on any number of workers. -/

namespace WebsocketClient.TlsRecvs
open ByteString Queues Transports Library.Places Library.Runs

inductive Place where
  /-- Before `mRecvMutex` is locked. -/
  | entering
  /-- Before `mPendingRecvCount` is decremented. -/
  | locked
  /-- Before the state is looked at. -/
  | counted
  /-- At the head of the loop, before `running()`. -/
  | looping
  /-- Before `pop()`. -/
  | popping
  /-- With a message, in the handshake or in `SSL_read`. -/
  | handling
  /-- Behind the loop or an exception, before the state is changed. -/
  | closing
  /-- Before `mRecvMutex` is unlocked. -/
  | leaving
  | returned
  deriving DecidableEq, Repr

namespace Place

/-- `mRecvMutex` is held. -/
def inside : Place → Bool
  | .entering | .returned => false
  | _ => true

/-- The execution is still in `mPendingRecvCount`. -/
def pending : Place → Bool
  | .entering | .locked => true
  | _ => false

end Place

structure TlsTransport where
  state : State
  mIncomingQueue : Queue Bytes
  /-- `incoming(nullptr)` or `stop` has stopped the queue. -/
  stopped : Bool
  mPendingRecvCount : Int
  /-- The calls of `incoming` and `stop` behind their operation on the queue: those that have not come to look at
  `mPendingRecvCount`, those that have found it at zero, and those that have incremented it. -/
  queued : Nat
  tested : Nat
  incremented : Nat
  /-- The tasks of the thread pool that run `doRecv`. -/
  pool : Nat
  executions : List Place
  deriving DecidableEq, Repr

namespace TlsTransport
variable (t : TlsTransport)

/-- `incoming` with a message. Nothing happens while the queue is full. -/
def push (message : Bytes) : TlsTransport :=
  match t.mIncomingQueue.push List.length message with
  | some queue => { t with mIncomingQueue := queue, queued := t.queued + 1 }
  | none => t

/-- `incoming(nullptr)` and `stop`. -/
def stop : TlsTransport :=
  { t with mIncomingQueue := t.mIncomingQueue.stop, stopped := true, queued := t.queued + 1 }

/-- The first line of `enqueueRecv`. -/
def test : TlsTransport :=
  if 0 < t.mPendingRecvCount then { t with queued := t.queued - 1 }
  else { t with queued := t.queued - 1, tested := t.tested + 1 }

def increment : TlsTransport :=
  { t with mPendingRecvCount := t.mPendingRecvCount + 1, tested := t.tested - 1, incremented := t.incremented + 1 }

def submit : TlsTransport := { t with incremented := t.incremented - 1, pool := t.pool + 1 }

/-- A worker begins with `doRecv`. -/
def begin : TlsTransport := { t with pool := t.pool - 1, executions := t.executions ++ [.entering] }

def move (execution : Nat) (place : Place) : TlsTransport :=
  { t with executions := t.executions.set execution place }

def decrement (execution : Nat) : TlsTransport :=
  { t with mPendingRecvCount := t.mPendingRecvCount - 1 }.move execution .counted

def live : Bool := decide (t.state = State.connecting ∨ t.state = State.connected)

def check (execution : Nat) : TlsTransport :=
  if t.live then t.move execution .looping else t.move execution .leaving

def running (execution : Nat) : TlsTransport :=
  if t.mIncomingQueue.running then t.move execution .popping else t.move execution .closing

def pop (execution : Nat) : TlsTransport :=
  match t.mIncomingQueue.pop List.length with
  | (some _, queue) => { t with mIncomingQueue := queue }.move execution .handling
  | (none, _) => t.move execution .leaving

def connected : TlsTransport := { t with state := .connected }

/-- The last lines of `doRecv`. -/
def finish (execution : Nat) : TlsTransport :=
  let state : State := if t.state = .connected then .disconnected else .failed
  { t with state := state }.move execution .leaving

def alert : TlsTransport := { t with mIncomingQueue := t.mIncomingQueue.stop }

end TlsTransport

inductive Label where
  | push (message : Bytes)
  | stop
  | test
  | increment
  | submit
  | begin
  | lock (execution : Nat)
  | decrement (execution : Nat)
  | check (execution : Nat)
  | running (execution : Nat)
  | pop (execution : Nat)
  | connected (execution : Nat)
  /-- `SSL_read` has nothing more to give, and the loop goes on. -/
  | handled (execution : Nat)
  /-- The peer has closed the connection, or an exception was thrown. -/
  | leave (execution : Nat)
  | finish (execution : Nat)
  | unlock (execution : Nat)
  | alert
  deriving DecidableEq, Repr

inductive Step (t : TlsTransport) : Label → TlsTransport → Prop where
  | push (message : Bytes) : t.mIncomingQueue.hasRoom → Step t (.push message) (t.push message)
  | stop : Step t .stop t.stop
  | test : 0 < t.queued → Step t .test t.test
  | increment : 0 < t.tested → Step t .increment t.increment
  | submit : 0 < t.incremented → Step t .submit t.submit
  | begin : 0 < t.pool → Step t .begin t.begin
  | lock (execution : Nat) : t.executions[execution]? = some .entering →
      (∀ place ∈ t.executions, place.inside = false) → Step t (.lock execution) (t.move execution .locked)
  | decrement (execution : Nat) : t.executions[execution]? = some .locked →
      Step t (.decrement execution) (t.decrement execution)
  | check (execution : Nat) : t.executions[execution]? = some .counted → Step t (.check execution) (t.check execution)
  | running (execution : Nat) : t.executions[execution]? = some .looping →
      Step t (.running execution) (t.running execution)
  | pop (execution : Nat) : t.executions[execution]? = some .popping → Step t (.pop execution) (t.pop execution)
  | connected (execution : Nat) : t.executions[execution]? = some .handling → t.state = .connecting →
      Step t (.connected execution) t.connected
  | handled (execution : Nat) : t.executions[execution]? = some .handling →
      Step t (.handled execution) (t.move execution .looping)
  | leave (execution : Nat) : t.executions[execution]? = some .handling →
      Step t (.leave execution) (t.move execution .closing)
  | finish (execution : Nat) : t.executions[execution]? = some .closing →
      Step t (.finish execution) (t.finish execution)
  | unlock (execution : Nat) : t.executions[execution]? = some .leaving →
      Step t (.unlock execution) (t.move execution .returned)
  | alert : Step t .alert t.alert

/-- There is something for `doRecv` to find. -/
def TlsTransport.due (t : TlsTransport) : Prop := t.mIncomingQueue.mQueue ≠ [] ∨ t.stopped = true

/-- No call of `incoming` or `stop` is between its operation on the queue and the end of `enqueueRecv`. -/
def TlsTransport.settled (t : TlsTransport) : Prop := t.queued = 0 ∧ t.tested = 0 ∧ t.incremented = 0

def InProgress (t : TlsTransport) (execution : Nat) : Prop :=
  ∃ place, t.executions[execution]? = some place ∧ place ≠ .returned

/-- A step in which an execution tests the queue, or takes the transport to its end. -/
def Looks (execution : Nat) (taken : Label × TlsTransport) : Prop :=
  taken.1 = .running execution ∨
    taken.1 = .finish execution ∧ (taken.2.state = .disconnected ∨ taken.2.state = .failed)

/-- However the run goes on, one of the executions that are in progress looks before it returns. -/
def WillLook (t : TlsTransport) : Prop :=
  ∀ trace, Run Step t trace → ∃ execution, InProgress t execution ∧
    (¬InProgress (last t trace) execution → ∃ taken ∈ trace, Looks execution taken)

def Attended (t : TlsTransport) : Prop := t.live = true → t.due → t.settled → 0 < t.pool ∨ WillLook t

/-- `start` has returned, and the queue is empty. -/
structure Started (t : TlsTransport) : Prop where
  empty : t.mIncomingQueue.mQueue = []
  notStopped : t.stopped = false
  counts : t.mPendingRecvCount = t.pool + t.incremented + t.executions.countP Place.pending
  alone : ∀ (i j : Nat) (first second : Place), t.executions[i]? = some first → t.executions[j]? = some second →
    first.inside = true → second.inside = true → i = j

/-- An execution that finds what is due, or ends the transport. -/
def Place.finds (queue : List Bytes) : Place → Prop
  | .popping => queue ≠ []
  | .leaving | .returned => False
  | _ => True

structure Inv (t : TlsTransport) : Prop where
  stops : t.stopped = true → t.mIncomingQueue.mStopping = true
  counts : t.mPendingRecvCount = t.pool + t.incremented + t.executions.countP Place.pending
  alone : ∀ (i j : Nat) (first second : Place), t.executions[i]? = some first → t.executions[j]? = some second →
    first.inside = true → second.inside = true → i = j
  covered : t.live = true → t.due → 0 < t.queued + t.tested + t.incremented + t.pool ∨
    ∃ place ∈ t.executions, place.finds t.mIncomingQueue.mQueue

theorem Started.inv {t : TlsTransport} (started : Started t) : Inv t where
  stops stopped := absurd (stopped.symm.trans started.notStopped) (by decide)
  counts := started.counts
  alone := started.alone
  covered _ due := by
    rcases due with waiting | stopped
    · exact absurd started.empty waiting
    · exact absurd (stopped.symm.trans started.notStopped) (by decide)

theorem Place.finds.pushed {place : Place} {queue : List Bytes} (finds : place.finds queue) (message : Bytes) :
    place.finds (queue ++ [message]) := by
  cases place with
  | popping => exact List.append_ne_nil_of_left_ne_nil finds _
  | leaving | returned => exact finds.elim
  | entering | locked | counted | looping | handling | closing => trivial

theorem TlsTransport.push_cases (t : TlsTransport) (message : Bytes) (room : t.mIncomingQueue.hasRoom) :
    ∃ queue, t.push message = { t with mIncomingQueue := queue, queued := t.queued + 1 } ∧
      queue.mStopping = t.mIncomingQueue.mStopping ∧
      (queue.mQueue = t.mIncomingQueue.mQueue ∨ queue.mQueue = t.mIncomingQueue.mQueue ++ [message]) := by
  unfold push Queue.push
  rw [if_pos room]
  cases stopping : t.mIncomingQueue.mStopping with
  | true => exact ⟨_, rfl, stopping, .inl rfl⟩
  | false => exact ⟨_, rfl, rfl, .inr rfl⟩

section
variable {t next : TlsTransport} {execution : Nat} {old new : Place}

theorem alone_moved (alone : ∀ (i j : Nat) (first second : Place), t.executions[i]? = some first →
      t.executions[j]? = some second → first.inside = true → second.inside = true → i = j)
    (here : t.executions[execution]? = some old) (inside : old.inside = true ∨ new.inside = false ∨
      ∀ place ∈ t.executions, place.inside = false) :
    ∀ (i j : Nat) (first second : Place), (t.executions.set execution new)[i]? = some first →
      (t.executions.set execution new)[j]? = some second → first.inside = true → second.inside = true → i = j := by
  have other : ∀ (j : Nat) (place : Place), t.executions[j]? = some place → place.inside = true →
      new.inside = true → j = execution := by
    intro j place found isInside new
    rcases inside with old | out | free
    · exact alone j execution place _ found here isInside old
    · exact absurd (new.symm.trans out) (by decide)
    · exact absurd (isInside.symm.trans (free place (List.mem_of_getElem? found))) (by decide)
  intro i j first second foundFirst foundSecond firstInside secondInside
  rcases moved_cases here foundFirst with ⟨atFirst, rfl⟩ | ⟨_, keptFirst⟩ <;>
    rcases moved_cases here foundSecond with ⟨atSecond, rfl⟩ | ⟨_, keptSecond⟩
  · exact atFirst.trans atSecond.symm
  · exact (atFirst.trans (other j second keptSecond secondInside firstInside).symm)
  · exact (other i first keptFirst firstInside secondInside).trans atSecond.symm
  · exact alone i j first second keptFirst keptSecond firstInside secondInside

theorem Inv.moved (inv : Inv t) (here : t.executions[execution]? = some old)
    (places : next.executions = t.executions.set execution new)
    (inside : old.inside = true ∨ new.inside = false ∨ ∀ place ∈ t.executions, place.inside = false)
    (counts : next.mPendingRecvCount + old.pending.toNat = t.mPendingRecvCount + new.pending.toNat)
    (others : next.pool = t.pool ∧ next.incremented = t.incremented)
    (stops : next.stopped = true → next.mIncomingQueue.mStopping = true)
    (covered : next.live = true → next.due → 0 < next.queued + next.tested + next.incremented + next.pool ∨
      ∃ place ∈ next.executions, place.finds next.mIncomingQueue.mQueue) : Inv next where
  stops := stops
  counts := by
    have moved : (t.executions.set execution new).countP Place.pending + old.pending.toNat =
      t.executions.countP Place.pending + new.pending.toNat := countP_moved Place.pending here
    have before := inv.counts
    rw [places, others.1, others.2]
    omega
  alone := by
    rw [places]
    exact alone_moved inv.alone here inside
  covered := covered

theorem covered_of_finds (here : t.executions[execution]? = some old)
    (places : next.executions = t.executions.set execution new) (finds : new.finds next.mIncomingQueue.mQueue) :
    0 < next.queued + next.tested + next.incremented + next.pool ∨
      ∃ place ∈ next.executions, place.finds next.mIncomingQueue.mQueue := by
  refine .inr ⟨new, ?_, finds⟩
  rw [places]
  exact List.mem_of_getElem? (getElem?_moved here)

theorem Inv.covered_move (inv : Inv t) (here : t.executions[execution]? = some old)
    (nothing : ¬old.finds t.mIncomingQueue.mQueue) (live : t.live = true) (due : t.due) :
    0 < t.queued + t.tested + t.incremented + t.pool ∨
      ∃ place ∈ t.executions.set execution new, place.finds t.mIncomingQueue.mQueue := by
  rcases inv.covered live due with call | ⟨place, member, finds⟩
  · exact .inl call
  · refine .inr ⟨place, mem_set member here ?_, finds⟩
    rintro rfl
    exact nothing finds

theorem Inv.move (inv : Inv t) (here : t.executions[execution]? = some old)
    (inside : old.inside = true ∨ new.inside = false ∨ ∀ place ∈ t.executions, place.inside = false)
    (pending : old.pending = new.pending)
    (finds : t.live = true → t.due → new.finds t.mIncomingQueue.mQueue ∨ ¬old.finds t.mIncomingQueue.mQueue) :
    Inv (t.move execution new) := by
  have places : (t.move execution new).executions = t.executions.set execution new := rfl
  apply inv.moved here places inside (by rw [pending]; rfl) ⟨rfl, rfl⟩ inv.stops
  intro live due
  rcases finds live due with finds | nothing
  · exact covered_of_finds here places finds
  · exact inv.covered_move here nothing live due

theorem Inv.of_call (inv : Inv t) (places : next.executions = t.executions)
    (stops : next.stopped = true → next.mIncomingQueue.mStopping = true)
    (counts : next.mPendingRecvCount - next.pool - next.incremented = t.mPendingRecvCount - t.pool - t.incremented)
    (call : 0 < next.queued + next.tested + next.incremented + next.pool) : Inv next where
  stops := stops
  counts := by
    have before := inv.counts
    rw [places]
    omega
  alone := places ▸ inv.alone
  covered _ _ := .inl call

theorem Inv.found (inv : Inv t) (positive : 0 < t.mPendingRecvCount) :
    0 < t.incremented + t.pool ∨ ∃ place ∈ t.executions, place.finds t.mIncomingQueue.mQueue := by
  have counts := inv.counts
  by_cases call : 0 < t.incremented + t.pool
  · exact .inl call
  · have waiting : 0 < t.executions.countP Place.pending := by omega
    obtain ⟨place, member, pending⟩ := List.countP_pos_iff.mp waiting
    refine .inr ⟨place, member, ?_⟩
    cases place with
    | entering | locked => trivial
    | counted | looping | popping | handling | closing | leaving | returned => cases pending

theorem Inv.test (inv : Inv t) : Inv t.test := by
  unfold TlsTransport.test
  split
  · rename_i positive
    refine ⟨inv.stops, inv.counts, inv.alone, fun _ _ => ?_⟩
    rcases inv.found positive with call | found
    · exact .inl (by simp only; omega)
    · exact .inr found
  · exact inv.of_call rfl inv.stops rfl (by simp only; omega)

theorem Inv.running (inv : Inv t) (here : t.executions[execution]? = some .looping) : Inv (t.running execution) := by
  unfold TlsTransport.running
  split
  · rename_i running
    have filled : t.due → t.mIncomingQueue.mQueue ≠ [] := by
      rintro (filled | stopped)
      · exact filled
      · simpa [Queue.running, inv.stops stopped] using running
    exact inv.move here (.inl rfl) rfl (fun _ due => .inl (filled due))
  · exact inv.move here (.inl rfl) rfl (fun _ _ => .inl trivial)

theorem Inv.pop (inv : Inv t) (here : t.executions[execution]? = some .popping) : Inv (t.pop execution) := by
  unfold TlsTransport.pop
  rcases popped : t.mIncomingQueue.pop List.length with ⟨_ | message, queue⟩
  · simp only
    have empty := (Queue.pop_eq_none popped).1
    exact inv.move here (.inl rfl) rfl (fun _ _ => .inr (fun filled => filled empty))
  · simp only
    have stopping := (Queue.pop_eq_some popped).2
    have places : ({ t with mIncomingQueue := queue }.move execution .handling).executions =
      t.executions.set execution .handling := rfl
    apply inv.moved here places (.inl rfl) rfl ⟨rfl, rfl⟩
    · exact fun stopped => stopping.trans (inv.stops stopped)
    · exact fun _ _ => covered_of_finds here places trivial

theorem Inv.begin (inv : Inv t) (waiting : 0 < t.pool) : Inv t.begin := by
  refine ⟨inv.stops, ?_, ?_, fun _ _ => .inr ⟨.entering, by simp [TlsTransport.begin], trivial⟩⟩
  · have before := inv.counts
    simp only [TlsTransport.begin, List.countP_append, List.countP_singleton, Place.pending, if_true]
    omega
  · intro i j first second foundFirst foundSecond firstInside secondInside
    have inside : ∀ (i : Nat) (place : Place), t.begin.executions[i]? = some place → place.inside = true →
        t.executions[i]? = some place := by
      intro i place found isInside
      rcases joined_cases found with ⟨_, found⟩ | ⟨_, rfl⟩
      · exact found
      · cases isInside
    exact inv.alone i j first second (inside i first foundFirst firstInside) (inside j second foundSecond secondInside)
      firstInside secondInside

theorem keeps_inv (t : TlsTransport) (label : Label) (next : TlsTransport) (inv : Inv t) (step : Step t label next) :
    Inv next := by
  cases step with
  | push message room =>
    obtain ⟨queue, same, stopping, _⟩ := t.push_cases message room
    rw [same]
    exact inv.of_call rfl (fun stopped => stopping.trans (inv.stops stopped)) rfl (by simp only; omega)
  | stop => exact inv.of_call rfl (fun _ => rfl) rfl (by simp only [TlsTransport.stop]; omega)
  | test _ => exact inv.test
  | increment _ =>
    exact inv.of_call rfl inv.stops (by simp only [TlsTransport.increment]; omega)
      (by simp only [TlsTransport.increment]; omega)
  | submit waiting =>
    exact inv.of_call rfl inv.stops (by simp only [TlsTransport.submit]; omega)
      (by simp only [TlsTransport.submit]; omega)
  | begin waiting => exact inv.begin waiting
  | lock execution here free => exact inv.move here (.inr (.inr free)) rfl (fun _ _ => .inl trivial)
  | decrement execution here =>
    have places : (t.decrement execution).executions = t.executions.set execution .counted := rfl
    apply inv.moved here places (.inl rfl) ?_ ⟨rfl, rfl⟩ inv.stops
    · exact fun _ _ => covered_of_finds here places trivial
    · simp [TlsTransport.decrement, TlsTransport.move, Place.pending]
  | check execution here =>
    unfold TlsTransport.check
    split
    · exact inv.move here (.inl rfl) rfl (fun _ _ => .inl trivial)
    · rename_i dead
      exact inv.move here (.inl rfl) rfl (fun live => absurd live dead)
  | running execution here => exact inv.running here
  | pop execution here => exact inv.pop here
  | connected execution here connecting =>
    refine ⟨inv.stops, inv.counts, inv.alone, fun _ due => inv.covered ?_ due⟩
    simp [TlsTransport.live, connecting]
  | handled execution here => exact inv.move here (.inl rfl) rfl (fun _ _ => .inl trivial)
  | leave execution here => exact inv.move here (.inl rfl) rfl (fun _ _ => .inl trivial)
  | finish execution here =>
    have places : (t.finish execution).executions = t.executions.set execution .leaving := rfl
    apply inv.moved here places (.inl rfl) rfl ⟨rfl, rfl⟩ inv.stops
    intro live
    by_cases connected : t.state = .connected <;>
      simp [TlsTransport.live, TlsTransport.finish, TlsTransport.move, connected] at live
  | unlock execution here => exact inv.move here (.inl rfl) rfl (fun _ _ => .inr id)
  | alert => exact ⟨fun _ => rfl, inv.counts, inv.alone, inv.covered⟩

end

/-! ### What the executions in progress will do -/

def Finds (n : Nat) (t : TlsTransport) : Prop :=
  ∃ execution place, execution < n ∧ t.executions[execution]? = some place ∧ place.inside = true ∧
    place.finds t.mIncomingQueue.mQueue

/-- One of the first executions will be inside, and there are no others. -/
structure Enters (n : Nat) (t : TlsTransport) : Prop where
  here : ∃ execution, execution < n ∧ t.executions[execution]? = some .entering
  alone : t.executions.length = n
  pool : t.pool = 0
  tested : t.tested = 0
  incremented : t.incremented = 0

structure Watched (n : Nat) (t : TlsTransport) : Prop where
  inv : Inv t
  live : t.live = true
  watches : Finds n t ∨ Enters n t

section
variable {t next : TlsTransport} {n : Nat} {label : Label}

theorem Finds.same (finds : Finds n t) (places : ∀ (i : Nat) (place : Place), t.executions[i]? = some place →
      next.executions[i]? = some place)
    (queue : ∀ place : Place, place.finds t.mIncomingQueue.mQueue → place.finds next.mIncomingQueue.mQueue) :
    Finds n next := by
  obtain ⟨execution, place, first, here, inside, finds⟩ := finds
  exact ⟨execution, place, first, places execution place here, inside, queue place finds⟩

/-- The only execution that is inside goes on. -/
theorem Finds.moves (inv : Inv t) (finds : Finds n t) {execution : Nat} {old new : Place}
    (here : t.executions[execution]? = some old) (wasInside : old.inside = true)
    (places : next.executions = t.executions.set execution new) (inside : new.inside = true)
    (queue : old.finds t.mIncomingQueue.mQueue → new.finds next.mIncomingQueue.mQueue) : Finds n next := by
  obtain ⟨other, place, first, there, otherInside, finds⟩ := finds
  obtain rfl := inv.alone other execution place old there here otherInside wasInside
  obtain rfl : place = old := Option.some.inj (there.symm.trans here)
  refine ⟨other, new, first, ?_, inside, queue finds⟩
  rw [places]
  exact getElem?_moved here

theorem Finds.actor (inv : Inv t) (finds : Finds n t) {execution : Nat} {old : Place}
    (here : t.executions[execution]? = some old) (inside : old.inside = true) :
    execution < n ∧ old.finds t.mIncomingQueue.mQueue := by
  obtain ⟨other, place, first, there, otherInside, finds⟩ := finds
  obtain rfl := inv.alone other execution place old there here otherInside inside
  obtain rfl : place = old := Option.some.inj (there.symm.trans here)
  exact ⟨first, finds⟩

theorem Enters.moves (enters : Enters n t) {execution : Nat} {old new : Place}
    (here : t.executions[execution]? = some old) (other : old ≠ .entering)
    (places : next.executions = t.executions.set execution new)
    (calls : next.pool = t.pool ∧ next.tested = t.tested ∧ next.incremented = t.incremented) : Enters n next := by
  obtain ⟨waiting, first, there⟩ := enters.here
  have different : execution ≠ waiting := by
    rintro rfl
    exact other (Option.some.inj (here.symm.trans there))
  refine ⟨⟨waiting, first, ?_⟩, ?_, calls.1.trans enters.pool, calls.2.1.trans enters.tested,
    calls.2.2.trans enters.incremented⟩
  · rw [places]
    exact (List.getElem?_set_ne different).trans there
  · rw [places, List.length_set]
    exact enters.alone

theorem Enters.positive (inv : Inv t) (enters : Enters n t) : 0 < t.mPendingRecvCount := by
  obtain ⟨waiting, first, there⟩ := enters.here
  have counted : 0 < t.executions.countP Place.pending :=
    List.countP_pos_iff.mpr ⟨.entering, List.mem_of_getElem? there, rfl⟩
  have counts := inv.counts
  omega

theorem Enters.first (enters : Enters n t) {execution : Nat} {place : Place}
    (here : t.executions[execution]? = some place) : execution < n :=
  enters.alone ▸ (List.getElem?_eq_some_iff.mp here).1

theorem Watched.moves (watched : Watched n t) (inv : Inv next) {execution : Nat} {old new : Place}
    (here : t.executions[execution]? = some old) (wasInside : old.inside = true) (live : next.live = true)
    (places : next.executions = t.executions.set execution new)
    (queue : old.finds t.mIncomingQueue.mQueue → new.inside = true ∧ new.finds next.mIncomingQueue.mQueue)
    (calls : next.pool = t.pool ∧ next.tested = t.tested ∧ next.incremented = t.incremented) : Watched n next := by
  refine ⟨inv, live, ?_⟩
  rcases watched.watches with finds | enters
  · have found := queue (finds.actor watched.inv here wasInside).2
    exact .inl (finds.moves watched.inv here wasInside places found.1 (fun _ => found.2))
  · refine .inr (enters.moves here ?_ places calls)
    rintro rfl
    cases wasInside

theorem Watched.actor (watched : Watched n t) {execution : Nat} {old : Place}
    (here : t.executions[execution]? = some old) (inside : old.inside = true) : execution < n := by
  rcases watched.watches with finds | enters
  · exact (finds.actor watched.inv here inside).1
  · exact enters.first here

theorem Watched.same (watched : Watched n t) (inv : Inv next) (live : next.live = true)
    (places : next.executions = t.executions)
    (queue : ∀ place : Place, place.finds t.mIncomingQueue.mQueue → place.finds next.mIncomingQueue.mQueue)
    (calls : Enters n t → next.pool = 0 ∧ next.tested = 0 ∧ next.incremented = 0) : Watched n next := by
  refine ⟨inv, live, ?_⟩
  rcases watched.watches with finds | enters
  · exact .inl (finds.same (fun i place here => places ▸ here) queue)
  · obtain ⟨pool, tested, incremented⟩ := calls enters
    exact .inr ⟨places ▸ enters.here, places ▸ enters.alone, pool, tested, incremented⟩

theorem watched_step (watched : Watched n t) (step : Step t label next) :
    (∃ execution, execution < n ∧ InProgress t execution ∧ Looks execution (label, next)) ∨ Watched n next := by
  have inv := watched.inv
  have kept := keeps_inv t label next inv step
  have live := watched.live
  cases step with
  | push message room =>
    obtain ⟨queue, same, _, elements⟩ := t.push_cases message room
    rw [same] at kept ⊢
    refine .inr (watched.same kept live rfl ?_ fun enters => ⟨enters.pool, enters.tested, enters.incremented⟩)
    intro place finds
    rcases elements with elements | elements
    · exact elements ▸ finds
    · exact elements ▸ finds.pushed message
  | stop | alert =>
    exact .inr (watched.same kept live rfl (fun _ => id) fun enters => ⟨enters.pool, enters.tested, enters.incremented⟩)
  | test waiting =>
    unfold TlsTransport.test at kept ⊢
    split at kept
    · rename_i positive
      rw [if_pos positive]
      exact .inr (watched.same kept live rfl (fun _ => id)
        fun enters => ⟨enters.pool, enters.tested, enters.incremented⟩)
    · rename_i zero
      rw [if_neg zero]
      exact .inr (watched.same kept live rfl (fun _ => id) fun enters => absurd (enters.positive inv) zero)
  | increment waiting =>
    refine .inr (watched.same kept live rfl (fun _ => id) fun enters => ?_)
    exact absurd waiting (by simp [enters.tested])
  | submit waiting =>
    refine .inr (watched.same kept live rfl (fun _ => id) fun enters => ?_)
    exact absurd waiting (by simp [enters.incremented])
  | begin waiting =>
    refine .inr ⟨kept, live, .inl ?_⟩
    rcases watched.watches with finds | enters
    · refine finds.same (fun i place here => ?_) (fun _ => id)
      exact (List.getElem?_append_left (List.getElem?_eq_some_iff.mp here).1).trans here
    · exact absurd waiting (by simp [enters.pool])
  | lock execution here free =>
    refine .inr ⟨kept, live, .inl ?_⟩
    rcases watched.watches with ⟨_, place, _, there, inside, _⟩ | enters
    · exact absurd (inside.symm.trans (free place (List.mem_of_getElem? there))) (by decide)
    · exact ⟨execution, .locked, enters.first here, getElem?_moved here, rfl, trivial⟩
  | decrement execution here =>
    exact .inr (watched.moves kept here rfl live rfl (fun _ => ⟨rfl, trivial⟩) ⟨rfl, rfl, rfl⟩)
  | check execution here =>
    unfold TlsTransport.check at kept ⊢
    rw [if_pos live] at kept ⊢
    exact .inr (watched.moves kept here rfl live rfl (fun _ => ⟨rfl, trivial⟩) ⟨rfl, rfl, rfl⟩)
  | running execution here => exact .inl ⟨execution, watched.actor here rfl, ⟨_, here, by decide⟩, .inl rfl⟩
  | pop execution here =>
    unfold TlsTransport.pop at kept ⊢
    rcases popped : t.mIncomingQueue.pop List.length with ⟨_ | message, queue⟩
    · rw [popped] at kept
      have empty := (Queue.pop_eq_none popped).1
      exact .inr (watched.moves kept here rfl live rfl (fun filled => absurd empty filled) ⟨rfl, rfl, rfl⟩)
    · rw [popped] at kept
      exact .inr (watched.moves kept here rfl live rfl (fun _ => ⟨rfl, trivial⟩) ⟨rfl, rfl, rfl⟩)
  | connected execution here connecting =>
    exact .inr (watched.same kept rfl rfl (fun _ => id) fun enters => ⟨enters.pool, enters.tested, enters.incremented⟩)
  | handled execution here | leave execution here =>
    exact .inr (watched.moves kept here rfl live rfl (fun _ => ⟨rfl, trivial⟩) ⟨rfl, rfl, rfl⟩)
  | finish execution here =>
    refine .inl ⟨execution, watched.actor here rfl, ⟨_, here, by decide⟩, .inr ⟨rfl, ?_⟩⟩
    by_cases connected : t.state = .connected <;> simp [TlsTransport.finish, TlsTransport.move, connected]
  | unlock execution here => exact .inr (watched.moves kept here rfl live rfl (fun found => found.elim) ⟨rfl, rfl, rfl⟩)

theorem step_places (step : Step t label next) :
    next.executions = t.executions ∨ next.executions = t.executions ++ [.entering] ∨
      ∃ execution old new, t.executions[execution]? = some old ∧ old ≠ .returned ∧
        next.executions = t.executions.set execution new := by
  cases step with
  | push message room =>
    obtain ⟨queue, same, _⟩ := t.push_cases message room
    exact .inl (by rw [same])
  | test =>
    unfold TlsTransport.test
    split <;> exact .inl rfl
  | begin => exact .inr (.inl rfl)
  | check execution here =>
    unfold TlsTransport.check
    split <;> exact .inr (.inr ⟨execution, _, _, here, by decide, rfl⟩)
  | running execution here =>
    unfold TlsTransport.running
    split <;> exact .inr (.inr ⟨execution, _, _, here, by decide, rfl⟩)
  | pop execution here =>
    unfold TlsTransport.pop
    split <;> exact .inr (.inr ⟨execution, _, _, here, by decide, rfl⟩)
  | lock execution here | decrement execution here | handled execution here | leave execution here
  | finish execution here | unlock execution here => exact .inr (.inr ⟨execution, _, _, here, by decide, rfl⟩)
  | stop | increment | submit | connected | alert => exact .inl rfl

theorem inProgress_of_step (step : Step t label next) {execution : Nat} (known : execution < t.executions.length)
    (later : InProgress next execution) : InProgress t execution := by
  obtain ⟨place, there, active⟩ := later
  rcases step_places step with same | more | ⟨actor, old, new, here, notOver, moved⟩
  · exact ⟨place, same ▸ there, active⟩
  · rw [more, List.getElem?_append_left known] at there
    exact ⟨place, there, active⟩
  · rw [moved] at there
    rcases moved_cases here there with ⟨rfl, _⟩ | ⟨_, stays⟩
    · exact ⟨old, here, notOver⟩
    · exact ⟨place, stays, active⟩

theorem length_le_of_step (step : Step t label next) : t.executions.length ≤ next.executions.length := by
  rcases step_places step with same | more | ⟨_, _, _, _, _, moved⟩
  · rw [same]
  · rw [more, List.length_append]
    omega
  · rw [moved, List.length_set]

end

theorem watched_run (n : Nat) (trace : List (Label × TlsTransport)) :
    ∀ t : TlsTransport, n ≤ t.executions.length → Watched n t → Run Step t trace →
      ∃ execution, execution < n ∧ InProgress t execution ∧
        (¬InProgress (last t trace) execution → ∃ taken ∈ trace, Looks execution taken) := by
  induction trace with
  | nil =>
    intro t _ watched _
    rcases watched.watches with ⟨execution, place, first, here, inside, _⟩ | enters
    · have progress : InProgress t execution := ⟨place, here, by rintro rfl; cases inside⟩
      exact ⟨execution, first, progress, fun gone => absurd progress gone⟩
    · obtain ⟨execution, first, here⟩ := enters.here
      have progress : InProgress t execution := ⟨_, here, by decide⟩
      exact ⟨execution, first, progress, fun gone => absurd progress gone⟩
  | cons taken rest ih =>
    intro t known watched run
    rcases watched_step watched run.1 with ⟨execution, first, progress, looks⟩ | later
    · exact ⟨execution, first, progress, fun _ => ⟨taken, List.mem_cons_self, looks⟩⟩
    · obtain ⟨execution, first, progress, looks⟩ :=
      ih taken.2 (Nat.le_trans known (length_le_of_step run.1)) later run.2
      refine ⟨execution, first, inProgress_of_step run.1 (Nat.lt_of_lt_of_le first known) progress, fun gone => ?_⟩
      obtain ⟨look, member, looks⟩ := looks gone
      exact ⟨look, List.mem_cons_of_mem _ member, looks⟩

theorem Inv.attends {t : TlsTransport} (inv : Inv t) : Attended t := by
  intro live due settled
  by_cases pool : 0 < t.pool
  · exact .inl pool
  · refine .inr fun trace run => ?_
    have watches : Finds t.executions.length t ∨ Enters t.executions.length t := by
      rcases inv.covered live due with call | ⟨place, member, finds⟩
      · unfold TlsTransport.settled at settled
        omega
      · obtain ⟨execution, here⟩ := List.mem_iff_getElem?.mp member
        have first := (List.getElem?_eq_some_iff.mp here).1
        cases place with
        | entering => exact .inr ⟨⟨execution, first, here⟩, rfl, by omega, settled.2.1, settled.2.2⟩
        | locked | counted | looping | popping | handling | closing => exact .inl ⟨execution, _, first, here, rfl,
            finds⟩
        | leaving | returned => exact finds.elim
    obtain ⟨execution, _, progress, looks⟩ := watched_run _ trace t (Nat.le_refl _) ⟨inv, live, watches⟩ run
    exact ⟨execution, progress, looks⟩

/-- However `incoming`, `stop` and the executions of `doRecv` interleave. -/
theorem attended (t : TlsTransport) (started : Started t) (trace : List (Label × TlsTransport))
    (run : Run Step t trace) :
    Always Attended t trace := by
  have always : Always Inv t trace := always_of_step keeps_inv trace t started.inv run
  exact always_mono (fun _ inv => inv.attends) trace t always

def handshaking : TlsTransport where
  state := .connecting
  mIncomingQueue := .new 1024
  stopped := false
  mPendingRecvCount := 0
  queued := 0
  tested := 0
  incremented := 0
  pool := 0
  executions := []

/-- The stream ends between `running()` and `pop()`, when the execution is not counted any more. -/
def endsInside : List (Label × TlsTransport) :=
  let one := handshaking.push [22]
  let two := one.test
  let three := two.increment
  let four := three.submit
  let five := four.begin
  let six := five.move 0 .locked
  let seven := six.decrement 0
  let eight := seven.check 0
  let nine := eight.running 0
  let ten := nine.pop 0
  let eleven := ten.move 0 .looping
  let twelve := eleven.running 0
  let thirteen := twelve.stop
  let fourteen := thirteen.test
  let fifteen := fourteen.increment
  [(.push [22], one), (.test, two), (.increment, three), (.submit, four), (.begin, five), (.lock 0, six),
    (.decrement 0, seven), (.check 0, eight), (.running 0, nine), (.pop 0, ten), (.handled 0, eleven),
    (.running 0, twelve), (.stop, thirteen), (.test, fourteen), (.increment, fifteen), (.submit, fifteen.submit),
    (.pop 0, fifteen.submit.pop 0)]

theorem attended_endsInside : Always Attended handshaking endsInside :=
  attended handshaking
    ⟨rfl, rfl, rfl, fun _ _ _ _ found => absurd (List.mem_of_getElem? found) List.not_mem_nil⟩ endsInside
    ⟨.push _ (by decide), .test (by decide), .increment (by decide), .submit (by decide), .begin (by decide),
      .lock 0 rfl (by decide), .decrement 0 rfl, .check 0 rfl, .running 0 rfl, .pop 0 rfl, .handled 0 rfl,
      .running 0 rfl,
      .stop, .test (by decide), .increment (by decide), .submit (by decide), .pop 0 rfl, trivial⟩

end WebsocketClient.TlsRecvs
