import WebsocketClient.Library.Places
import WebsocketClient.Library.Runs
import WebsocketClient.Queue

/-! `impl/queue.hpp` with threads that wait in `push`. A thread takes the mutex once for each operation,
and once more for each time it wakes. -/

namespace WebsocketClient.QueueThreads
open Queues Queue Library.Runs Library.Places

variable {T : Type}

inductive Place (T : Type) where
  | outside
  /-- In the wait of `push`, asleep. -/
  | waiting (element : T)
  /-- In the wait of `push`, woken, before it takes the mutex again. -/
  | woken (element : T)
  deriving DecidableEq, Repr

def Place.notify : Place T → Place T
  | .waiting element => .woken element
  | place => place

/-- `notify_one`, with the thread that it wakes. -/
def notifyOne (places : List (Place T)) : Option Nat → List (Place T)
  | none => places
  | some thread => places.modify thread Place.notify

def Place.Awake : Place T → Bool
  | .woken _ => true
  | _ => false

/-- The queue and its threads, the elements whose push took effect, those popped, and those pushed
as `stop` first ran. -/
structure State (T : Type) where
  queue : Queue T
  places : List (Place T)
  pushed : List T
  popped : List T
  atStop : Option (List T)
  deriving DecidableEq, Repr

def initial (limit threads : Nat) : State T where
  queue := Queue.new limit
  places := List.replicate threads .outside
  pushed := []
  popped := []
  atStop := none

namespace State
variable (mAmountFunction : T → Nat) (s : State T)

/-- The test of the condition in `push`, and what follows it: the thread waits, returns because the queue
stops, or puts its element in. -/
def push (thread : Nat) (element : T) : State T :=
  match s.queue.push mAmountFunction element with
  | none => { s with places := s.places.set thread (.waiting element) }
  | some queue => { s with
      queue := queue
      places := s.places.set thread .outside
      pushed := if s.queue.mStopping then s.pushed else s.pushed ++ [element] }

/-- `pop`, with the thread that `notify_one` wakes. -/
def pop (woken : Option Nat) : State T :=
  match s.queue.pop mAmountFunction with
  | (none, _) => s
  | (some element, queue) => { s with
      queue := queue
      places := notifyOne s.places woken
      popped := s.popped ++ [element] }

def stop : State T := { s with
  queue := s.queue.stop
  places := s.places.map Place.notify
  atStop := s.atStop.or (some s.pushed) }

end State

inductive Label (T : Type) where
  | push (thread : Nat) (element : T)
  | retake (thread : Nat)
  | pop (woken : Option Nat)
  | peek
  | stop
  | wake (thread : Nat)
  deriving DecidableEq, Repr

/-- `notify_one` wakes one of the threads that sleep, if there is one. -/
def Wakes (places : List (Place T)) : Option Nat → Prop
  | none => ∀ element, .waiting element ∉ places
  | some thread => ∃ element, places[thread]? = some (.waiting element)

/-- Any thread outside calls `push`, `pop`, `peek` or `stop`, a woken one takes the mutex, and one that
sleeps wakes for no reason. -/
inductive Step (mAmountFunction : T → Nat) (s : State T) : Label T → State T → Prop where
  | push (thread : Nat) (element : T) : s.places[thread]? = some .outside →
      Step mAmountFunction s (.push thread element) (s.push mAmountFunction thread element)
  | retake (thread : Nat) (element : T) : s.places[thread]? = some (.woken element) →
      Step mAmountFunction s (.retake thread) (s.push mAmountFunction thread element)
  | pop (thread : Nat) (woken : Option Nat) : s.places[thread]? = some .outside → Wakes s.places woken →
      Step mAmountFunction s (.pop woken) (s.pop mAmountFunction woken)
  | peek (thread : Nat) : s.places[thread]? = some .outside → Step mAmountFunction s .peek s
  | stop (thread : Nat) : s.places[thread]? = some .outside → Step mAmountFunction s .stop s.stop
  | wake (thread : Nat) (element : T) : s.places[thread]? = some (.waiting element) →
      Step mAmountFunction s (.wake thread) { s with places := s.places.set thread (.woken element) }

def awake (places : List (Place T)) : Nat := places.countP Place.Awake

structure Sound (limit : Nat) (s : State T) : Prop where
  limit : s.queue.mLimit = limit
  limited : 0 < s.queue.mLimit → s.queue.mQueue.length ≤ s.queue.mLimit
  ordered : s.popped ++ s.queue.mQueue = s.pushed
  /-- No push took effect since `stop`. -/
  late : ∀ before, s.atStop = some before → s.pushed = before
  /-- No thread sleeps behind `stop`, and one that is woken returns. -/
  released : s.atStop ≠ none → s.queue.hasRoom ∧ ∀ element, .waiting element ∉ s.places
  /-- The free places are not more than the threads on their way to take them. -/
  covered : s.atStop = none → (∃ element, .waiting element ∈ s.places) →
    0 < s.queue.mLimit ∧ s.queue.mLimit - s.queue.mQueue.length ≤ awake s.places

/-- The same in the words of the queue, which knows of `stop` by `mStopping` alone. -/
structure Invariant (limit : Nat) (s : State T) : Prop where
  limit : s.queue.mLimit = limit
  limited : 0 < s.queue.mLimit → s.queue.mQueue.length ≤ s.queue.mLimit
  ordered : s.popped ++ s.queue.mQueue = s.pushed
  stopped : s.queue.mStopping = s.atStop.isSome
  late : s.queue.mStopping = true → s.atStop = some s.pushed
  released : s.queue.mStopping = true → s.queue.hasRoom ∧ ∀ element, .waiting element ∉ s.places
  covered : s.queue.mStopping = false → (∃ element, .waiting element ∈ s.places) →
    0 < s.queue.mLimit ∧ s.queue.mLimit - s.queue.mQueue.length ≤ awake s.places

theorem Invariant.sound {limit : Nat} {s : State T} (inv : Invariant limit s) : Sound limit s := by
  refine ⟨inv.limit, inv.limited, inv.ordered, ?_, ?_, ?_⟩
  · intro before stopped
    have pushed := inv.late (by rw [inv.stopped, stopped]; rfl)
    rw [stopped] at pushed
    exact (Option.some.inj pushed).symm
  · intro stopped
    exact inv.released (by rw [inv.stopped, Option.isSome_iff_ne_none]; exact stopped)
  · intro running
    exact inv.covered (by rw [inv.stopped, running]; rfl)

variable {mAmountFunction : T → Nat} {s : State T} {bound : Nat}

/-! ### The threads of a step -/

theorem awake_set {thread : Nat} {old new : Place T} (here : s.places[thread]? = some old) :
    awake (s.places.set thread new) + old.Awake.toNat = awake s.places + new.Awake.toNat :=
  countP_moved Place.Awake here

theorem notify_not_waiting (place : Place T) (element : T) : place.notify ≠ .waiting element := by
  cases place <;> simp [Place.notify]

theorem awake_notified {woken : Option Nat} (wakes : Wakes s.places woken)
    (sleeps : ∃ element, .waiting element ∈ s.places) :
    awake (notifyOne s.places woken) = awake s.places + 1 := by
  cases woken with
  | none =>
    obtain ⟨element, member⟩ := sleeps
    exact absurd member (wakes element)
  | some thread =>
    obtain ⟨element, here⟩ := wakes
    have moved : s.places.modify thread Place.notify = s.places.set thread (.woken element) := by
      rw [List.modify_eq_set_getElem?, here]
      rfl
    have counted : awake (s.places.set thread (.woken element)) + 0 = awake s.places + 1 := awake_set here
    rw [notifyOne, moved]
    exact counted

theorem waiting_of_notified {woken : Option Nat} {element : T}
    (member : .waiting element ∈ notifyOne s.places woken) : .waiting element ∈ s.places := by
  cases woken with
  | none => exact member
  | some thread =>
    rw [notifyOne] at member
    obtain ⟨index, found⟩ := List.mem_iff_getElem?.mp member
    rw [List.getElem?_modify] at found
    obtain ⟨place, here, same⟩ := Option.map_eq_some_iff.mp found
    by_cases notified : thread = index
    · rw [if_pos notified] at same
      exact absurd same (notify_not_waiting place element)
    · rw [if_neg notified] at same
      exact List.mem_iff_getElem?.mpr ⟨index, same ▸ here⟩

/-! ### Steps -/

/-- A push or the second look of a woken thread. The place that it leaves is no longer awake, and
the room that it takes is gone. -/
theorem push_invariant (inv : Invariant bound s) {thread : Nat} {element : T} {old : Place T}
    (here : s.places[thread]? = some old) : Invariant bound (s.push mAmountFunction thread element) := by
  have moved (new : Place T) : awake (s.places.set thread new) + old.Awake.toNat = awake s.places + new.Awake.toNat :=
    awake_set here
  have mine : old.Awake.toNat ≤ 1 := Bool.toNat_le _
  unfold State.push
  cases tested : s.queue.push mAmountFunction element with
  | none =>
    have full : ¬s.queue.hasRoom := by
      intro room
      simp only [Queue.push, if_pos room] at tested
      split at tested <;> exact absurd tested (by simp)
    have room : 0 < s.queue.mLimit ∧ s.queue.mLimit ≤ s.queue.mQueue.length ∧ s.queue.mStopping = false := by
      unfold hasRoom at full
      simp only [not_or, Bool.not_eq_true] at full
      exact ⟨by omega, by omega, full.2.2⟩
    refine ⟨inv.limit, inv.limited, inv.ordered, inv.stopped, inv.late, ?_, ?_⟩
    · intro stopping
      exact absurd stopping (by rw [room.2.2]; decide)
    · intro _ _
      refine ⟨room.1, ?_⟩
      simp only
      omega
  | some queue =>
    have room : s.queue.hasRoom := by
      by_contra full
      rw [Queue.push, if_neg full] at tested
      exact absurd tested (by simp)
    cases stopping : s.queue.mStopping with
    | true =>
      have same : queue = s.queue := by
        rw [Queue.push, if_pos room, if_pos stopping] at tested
        exact (Option.some.inj tested).symm
      subst same
      refine ⟨inv.limit, inv.limited, inv.ordered, inv.stopped, inv.late, ?_, ?_⟩
      · intro _
        refine ⟨room, fun other member => (inv.released stopping).2 other ?_⟩
        exact mem_of_mem_set member (by simp)
      · intro running
        exact absurd running (by rw [stopping]; decide)
    | false =>
      have pushed := push_eq_some stopping tested
      have free : s.queue.mLimit = 0 ∨ s.queue.mQueue.length < s.queue.mLimit := by
        rcases room with none | less | stops
        · exact .inl none
        · exact .inr less
        · exact absurd stops (by rw [stopping]; decide)
      subst pushed
      simp only [Bool.false_eq_true, if_false]
      refine ⟨inv.limit, ?_, ?_, inv.stopped, ?_, ?_, ?_⟩
      · intro limit
        simp only [List.length_append, List.length_singleton] at limit ⊢
        omega
      · simp only [← inv.ordered, List.append_assoc]
      · intro stops
        exact absurd stops (by simp only [stopping]; decide)
      · intro stops
        exact absurd stops (by simp only [stopping]; decide)
      · rintro _ ⟨other, member⟩
        have sleeps : .waiting other ∈ s.places := mem_of_mem_set member (by simp)
        obtain ⟨limit, covered⟩ := inv.covered stopping ⟨other, sleeps⟩
        have left := moved .outside
        have outside : (Place.outside : Place T).Awake.toNat = 0 := rfl
        refine ⟨limit, ?_⟩
        simp only [List.length_append, List.length_singleton]
        omega

theorem pop_invariant (inv : Invariant bound s) {woken : Option Nat} (wakes : Wakes s.places woken) :
    Invariant bound (s.pop mAmountFunction woken) := by
  unfold State.pop
  rcases popped : s.queue.pop mAmountFunction with ⟨- | element, queue⟩
  · exact inv
  · have shape := pop_eq_some popped
    have limit : queue.mLimit = s.queue.mLimit := by
      have after : (s.queue.pop mAmountFunction).2 = queue := congrArg Prod.snd popped
      rw [← after]
      unfold Queue.pop
      split <;> rfl
    have shorter : s.queue.mQueue.length = queue.mQueue.length + 1 := by
      rw [shape.1, List.length_cons]
    refine ⟨limit.trans inv.limit, ?_, ?_, shape.2 ▸ inv.stopped, ?_, ?_, ?_⟩
    · intro limited
      have before := inv.limited (limit ▸ limited)
      simp only [limit]
      omega
    · have ordered := inv.ordered
      rw [shape.1] at ordered
      simp only [List.append_assoc, List.singleton_append]
      exact ordered
    · intro stopping
      exact inv.late (shape.2 ▸ stopping)
    · intro stopping
      refine ⟨.inr (.inr stopping), fun other member => ?_⟩
      exact (inv.released (shape.2 ▸ stopping)).2 other (waiting_of_notified member)
    · rintro running ⟨other, member⟩
      have sleeps : ∃ element, .waiting element ∈ s.places := ⟨other, waiting_of_notified member⟩
      obtain ⟨limited, covered⟩ := inv.covered (shape.2 ▸ running) sleeps
      have one := awake_notified wakes sleeps
      refine ⟨limit ▸ limited, ?_⟩
      simp only [limit]
      omega

theorem stop_invariant (inv : Invariant bound s) : Invariant bound s.stop := by
  have none : ∀ element, .waiting element ∉ s.places.map Place.notify := by
    intro element member
    obtain ⟨place, _, same⟩ := List.mem_map.mp member
    exact notify_not_waiting place element same
  refine ⟨inv.limit, inv.limited, inv.ordered, ?_, ?_, fun _ => ⟨.inr (.inr rfl), none⟩, ?_⟩
  · simp [State.stop, Queue.stop]
  · intro _
    have stopped := inv.stopped
    simp only [State.stop]
    cases before : s.atStop with
    | none => rfl
    | some pushed =>
      rw [before] at stopped
      rw [← before, Option.or_of_isSome (by rw [before]; rfl)]
      exact inv.late stopped
  · intro running
    exact absurd running (by simp [State.stop, Queue.stop])

theorem wake_invariant (inv : Invariant bound s) {thread : Nat} {element : T}
    (here : s.places[thread]? = some (.waiting element)) :
    Invariant bound { s with places := s.places.set thread (.woken element) } := by
  refine ⟨inv.limit, inv.limited, inv.ordered, inv.stopped, inv.late, ?_, ?_⟩
  · intro stopping
    have member : .waiting element ∈ s.places := List.mem_of_getElem? here
    exact absurd member ((inv.released stopping).2 element)
  · rintro running ⟨other, member⟩
    obtain ⟨limit, covered⟩ := inv.covered running ⟨other, mem_of_mem_set member (by simp)⟩
    have moved : awake (s.places.set thread (.woken element)) + 0 = awake s.places + 1 := awake_set here
    refine ⟨limit, ?_⟩
    simp only
    omega

theorem step_invariant (s : State T) (label : Label T) (next : State T) (inv : Invariant bound s)
    (step : Step mAmountFunction s label next) : Invariant bound next := by
  cases step with
  | push thread element here => exact push_invariant inv here
  | retake thread element here => exact push_invariant inv here
  | pop thread woken here wakes => exact pop_invariant inv wakes
  | peek thread here => exact inv
  | stop thread here => exact stop_invariant inv
  | wake thread element here => exact wake_invariant inv here

theorem initial_invariant (limit threads : Nat) : Invariant limit (initial limit threads : State T) := by
  have none : ∀ element : T, Place.waiting element ∉ List.replicate threads Place.outside := by
    intro element member
    exact absurd (List.eq_of_mem_replicate member) (by simp)
  refine ⟨rfl, fun _ => Nat.zero_le _, rfl, rfl, ?_, ?_, fun _ ⟨element, member⟩ => absurd member (none element)⟩
  · intro stopping
    exact absurd stopping (by simp [initial, Queue.new])
  · intro stopping
    exact absurd stopping (by simp [initial, Queue.new])

/-- Whatever the threads do and whoever wakes, the queue keeps its limit, its order and its promise to those
who wait. -/
theorem always_sound (mAmountFunction : T → Nat) (limit threads : Nat) (trace : List (Label T × State T))
    (run : Run (Step mAmountFunction) (initial limit threads) trace) :
    Always (Sound limit) (initial limit threads) trace :=
  always_mono (fun _ inv => inv.sound) trace _
    (always_of_step step_invariant trace _ (initial_invariant limit threads) run)

/-! ### Two threads and one place -/

def one (places : List (Place Nat)) (queued popped pushed : List Nat) (amount : UInt64)
    (atStop : Option (List Nat)) : State Nat :=
  ⟨⟨1, amount, queued, atStop.isSome⟩, places, pushed, popped, atStop⟩

/-- The second push waits, a pop wakes it, and it takes the place. The third one waits until `stop`, and no
push takes effect from there on. -/
def handover : List (Label Nat × State Nat) :=
  [(.push 0 7, one [.outside, .outside] [7] [] [7] 1 none),
    (.push 1 8, one [.outside, .waiting 8] [7] [] [7] 1 none),
    (.pop (some 1), one [.outside, .woken 8] [] [7] [7] 0 none),
    (.retake 1, one [.outside, .outside] [8] [7] [7, 8] 1 none),
    (.push 0 9, one [.waiting 9, .outside] [8] [7] [7, 8] 1 none),
    (.stop, one [.woken 9, .outside] [8] [7] [7, 8] 1 (some [7, 8])),
    (.push 1 10, one [.woken 9, .outside] [8] [7] [7, 8] 1 (some [7, 8])),
    (.retake 0, one [.outside, .outside] [8] [7] [7, 8] 1 (some [7, 8])),
    (.pop none, one [.outside, .outside] [] [7, 8] [7, 8] 0 (some [7, 8]))]

theorem sound_handover : Always (Sound 1) (initial 1 2) handover :=
  always_sound (fun _ => 1) 1 2 handover
    ⟨.push 0 7 rfl, .push 1 8 rfl, .pop 0 (some 1) rfl ⟨8, rfl⟩, .retake 1 8 rfl, .push 0 9 rfl, .stop 1 rfl,
      .push 1 10 rfl, .retake 0 9 rfl, .pop 1 none rfl (by simp [Wakes, one]), trivial⟩

end WebsocketClient.QueueThreads
