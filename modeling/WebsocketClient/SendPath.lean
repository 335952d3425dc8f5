import Mathlib.Logic.Function.Basic
import WebsocketClient.ByteString

/-! The send path through `WsTransport::sendFrame`, `TcpTransport::send` and the poll service,
taken by any number of application threads and by the poll thread, on a plain connection that is
open. A step is one lock or unlock of a mutex, one operation of the send queue or one `::send`
system call. -/

namespace WebsocketClient.SendPaths
open ByteString

inductive Mutex where
  /-- `PollService::mMutex`, a recursive mutex. -/
  | poll
  /-- `WsTransport::mSendMutex`. -/
  | ws
  /-- `TcpTransport::mSendMutex`. -/
  | tcp
  deriving DecidableEq, Repr

inductive Thread (App : Type) where
  | poll
  | app (thread : App)
  deriving DecidableEq, Repr

inductive Kind where
  /-- An application thread in `TcpTransport::send`. -/
  | send
  /-- An application thread in `WebSocket::send`. -/
  | frame
  /-- The poll thread, answering a PING in an event `In`. -/
  | pong
  /-- The poll thread in `WsTransport::close`, for a CLOSE or a reserved opcode in an event `In`. -/
  | close
  /-- The poll thread, sending a PING in an event `Timeout`. -/
  | ping
  /-- The poll thread in an event `Out`: `trySendQueue` alone, and no mutex. -/
  | flush
  deriving DecidableEq, Repr

/-- Whether the walk is made by the poll thread, which holds the mutex of the poll service. -/
def Kind.polls : Kind → Bool
  | .pong | .close | .ping | .flush => true
  | _ => false

/-- Whether it goes through `sendFrame`. -/
def Kind.framed : Kind → Bool
  | .frame | .pong | .close | .ping => true
  | _ => false

/-- Whether it goes through `TcpTransport::send`. -/
def Kind.locked : Kind → Bool
  | .flush => false
  | _ => true

structure Entry where
  kind : Kind
  message : Bytes
  deriving DecidableEq, Repr

/-- An element of the send queue, with the identity of its `message_ptr`. -/
structure Element where
  id : Nat
  data : Bytes
  deriving DecidableEq, Repr

inductive Pc where
  | idle
  /-- `PollService::process` locks its mutex. -/
  | enter
  /-- `PollService::process`, between two events. -/
  | dispatch
  | lockWs (entry : Entry)
  | lockTcp (entry : Entry)
  /-- `trySendQueue`: the next round of its loop. -/
  | peek (entry : Entry)
  /-- `trySendMessage` on the element that was peeked. -/
  | trying (entry : Entry) (head : Element) (rest : Bytes)
  | pop (entry : Entry) (head : Element)
  | exchange (entry : Entry) (head : Element) (rest : Bytes)
  /-- `trySendMessage` on the message itself. -/
  | direct (entry : Entry) (rest : Bytes)
  | push (entry : Entry) (rest : Bytes)
  /-- `setPoll(Both)`: `PollService::add` locks its mutex. -/
  | register (entry : Entry)
  /-- Inside `PollService::add`; `again` when the thread held the mutex before. -/
  | registered (entry : Entry) (again : Bool)
  | unlockTcp (entry : Entry)
  | unlockWs (entry : Entry)
  /-- `setPoll(In)` or `remove` at the end of an event, with the mutex of the poll service held. -/
  | rearm
  deriving DecidableEq, Repr

inductive Action where
  | send (message : Bytes)
  | frame (message : Bytes)
  | wake
  | ping (message : Bytes)
  | close (message : Bytes)
  | timeout (message : Bytes)
  | writable
  | leave
  | lock
  | unlock
  | peek
  | accepted (length : Nat)
  | wouldBlock
  | failed
  | sent
  | pop
  | exchange
  | push
  deriving DecidableEq, Repr

/-- What the threads share. Every removal from the queue is noted with the element that was
peeked for it. -/
structure Shared (App : Type) where
  owner : Mutex → Option (Thread App)
  /-- `mCloseSent`. -/
  closeSent : Bool
  queue : List Element
  nextId : Nat
  wire : Bytes
  removed : List (Element × Option Element)

variable {App : Type}

def Shared.setOwner (s : Shared App) (mutex : Mutex) (owner : Option (Thread App)) : Shared App :=
  { s with owner := Function.update s.owner mutex owner }

/-- What follows `trySendQueue`, for its result. -/
def Entry.afterQueue (entry : Entry) (flushed : Bool) : Pc :=
  if entry.kind = .flush then if flushed then .rearm else .dispatch
  else if entry.message = [] then .unlockTcp entry
  else if flushed then .direct entry entry.message
  else .push entry entry.message

/-- Where an exception of `trySendMessage` leads: an event `Out` removes the socket, the others
give their mutexes back. -/
def Entry.afterFailure (entry : Entry) : Pc := if entry.kind = .flush then .rearm else .unlockTcp entry

/-- What follows a walk down the send path. -/
def Kind.next : Kind → Pc
  | .pong | .close => .dispatch
  | .ping => .rearm
  | _ => .idle

inductive ThreadStep (x : Thread App) : Shared App → Pc → Action → Shared App → Pc → Prop where
  | send (s : Shared App) (a : App) (message : Bytes) : x = .app a →
      ThreadStep x s .idle (.send message) s (.lockTcp ⟨.send, message⟩)
  | frame (s : Shared App) (a : App) (message : Bytes) : x = .app a → 2 ≤ message.length →
      ThreadStep x s .idle (.frame message) s (.lockWs ⟨.frame, message⟩)
  | wake (s : Shared App) : x = .poll → ThreadStep x s .idle .wake s .enter
  | enter (s : Shared App) : s.owner .poll = none →
      ThreadStep x s .enter .lock (s.setOwner .poll (some x)) .dispatch
  | ping (s : Shared App) (message : Bytes) : 2 ≤ message.length →
      ThreadStep x s .dispatch (.ping message) s (.lockWs ⟨.pong, message⟩)
  | close (s : Shared App) (message : Bytes) : s.closeSent = false → 2 ≤ message.length →
      ThreadStep x s .dispatch (.close message) { s with closeSent := true } (.lockWs ⟨.close, message⟩)
  | timeout (s : Shared App) (message : Bytes) : 2 ≤ message.length →
      ThreadStep x s .dispatch (.timeout message) s (.lockWs ⟨.ping, message⟩)
  | writable (s : Shared App) : ThreadStep x s .dispatch .writable s (.peek ⟨.flush, []⟩)
  | leave (s : Shared App) :
      ThreadStep x s .dispatch .leave (s.setOwner .poll none) .idle
  | lockWs (s : Shared App) (entry : Entry) : s.owner .ws = none →
      ThreadStep x s (.lockWs entry) .lock (s.setOwner .ws (some x)) (.lockTcp entry)
  | lockTcp (s : Shared App) (entry : Entry) : s.owner .tcp = none →
      ThreadStep x s (.lockTcp entry) .lock (s.setOwner .tcp (some x)) (.peek entry)
  | peekNone (s : Shared App) (entry : Entry) : s.queue = [] →
      ThreadStep x s (.peek entry) .peek s (entry.afterQueue true)
  | peekSome (s : Shared App) (entry : Entry) (head : Element) : s.queue.head? = some head →
      ThreadStep x s (.peek entry) .peek s (.trying entry head head.data)
  | tryAccepted (s : Shared App) (entry : Entry) (head : Element) (rest : Bytes) (length : Nat) :
      0 < length → length ≤ rest.length →
      ThreadStep x s (.trying entry head rest) (.accepted length)
        { s with wire := s.wire ++ rest.take length } (.trying entry head (rest.drop length))
  | tryBlocked (s : Shared App) (entry : Entry) (head : Element) (rest : Bytes) : rest ≠ [] →
      ThreadStep x s (.trying entry head rest) .wouldBlock s (.exchange entry head rest)
  | tryFailed (s : Shared App) (entry : Entry) (head : Element) (rest : Bytes) : rest ≠ [] →
      ThreadStep x s (.trying entry head rest) .failed s entry.afterFailure
  | trySent (s : Shared App) (entry : Entry) (head : Element) :
      ThreadStep x s (.trying entry head []) .sent s (.pop entry head)
  | pop (s : Shared App) (entry : Entry) (head : Element) :
      ThreadStep x s (.pop entry head) .pop
        { s with queue := s.queue.tail, removed := s.removed ++ [(head, s.queue.head?)] } (.peek entry)
  | exchange (s : Shared App) (entry : Entry) (head : Element) (rest : Bytes) :
      ThreadStep x s (.exchange entry head rest) .exchange
        { s with
          queue := if s.queue = [] then [] else ⟨s.nextId, rest⟩ :: s.queue.tail
          nextId := s.nextId + 1
          removed := s.removed ++ [(head, s.queue.head?)] } (entry.afterQueue false)
  | directAccepted (s : Shared App) (entry : Entry) (rest : Bytes) (length : Nat) :
      0 < length → length ≤ rest.length →
      ThreadStep x s (.direct entry rest) (.accepted length)
        { s with wire := s.wire ++ rest.take length } (.direct entry (rest.drop length))
  | directBlocked (s : Shared App) (entry : Entry) (rest : Bytes) : rest ≠ [] →
      ThreadStep x s (.direct entry rest) .wouldBlock s (.push entry rest)
  | directFailed (s : Shared App) (entry : Entry) (rest : Bytes) : rest ≠ [] →
      ThreadStep x s (.direct entry rest) .failed s (.unlockTcp entry)
  | directSent (s : Shared App) (entry : Entry) :
      ThreadStep x s (.direct entry []) .sent s (.unlockTcp entry)
  | push (s : Shared App) (entry : Entry) (rest : Bytes) :
      ThreadStep x s (.push entry rest) .push
        { s with queue := s.queue ++ [⟨s.nextId, rest⟩], nextId := s.nextId + 1 } (.register entry)
  | register (s : Shared App) (entry : Entry) : s.owner .poll = none →
      ThreadStep x s (.register entry) .lock (s.setOwner .poll (some x)) (.registered entry false)
  | registerAgain (s : Shared App) (entry : Entry) : s.owner .poll = some x →
      ThreadStep x s (.register entry) .lock s (.registered entry true)
  | registered (s : Shared App) (entry : Entry) :
      ThreadStep x s (.registered entry false) .unlock (s.setOwner .poll none) (.unlockTcp entry)
  | registeredAgain (s : Shared App) (entry : Entry) :
      ThreadStep x s (.registered entry true) .unlock s (.unlockTcp entry)
  | unlockTcp (s : Shared App) (entry : Entry) :
      ThreadStep x s (.unlockTcp entry) .unlock (s.setOwner .tcp none)
        (if entry.kind.framed then .unlockWs entry else entry.kind.next)
  | unlockWs (s : Shared App) (entry : Entry) :
      ThreadStep x s (.unlockWs entry) .unlock (s.setOwner .ws none) entry.kind.next
  | rearm (s : Shared App) : s.owner .poll = some x → ThreadStep x s .rearm .lock s .dispatch

/-! ### Which mutexes a thread holds -/

/-- The mutexes held on the way, with those of the two send paths or without. -/
def Entry.holds (entry : Entry) (ws tcp : Bool) : Mutex → Bool
  | .poll => entry.kind.polls
  | .ws => ws && entry.kind.framed
  | .tcp => tcp && entry.kind.locked

def Pc.holds : Pc → Mutex → Bool
  | .idle | .enter => fun _ => false
  | .dispatch | .rearm => fun mutex => mutex == .poll
  | .lockWs entry => entry.holds false false
  | .lockTcp entry | .unlockWs entry => entry.holds true false
  | .peek entry | .trying entry _ _ | .pop entry _ | .exchange entry _ _ | .direct entry _
  | .push entry _ | .register entry | .unlockTcp entry => entry.holds true true
  | .registered entry _ => fun mutex => mutex == .poll || entry.holds true true mutex

/-- The mutex that a thread asks for next. -/
def Pc.wants : Pc → Option Mutex
  | .enter | .register _ | .rearm => some .poll
  | .lockWs _ => some .ws
  | .lockTcp _ => some .tcp
  | _ => none

def Pc.entry : Pc → Option Entry
  | .lockWs entry | .lockTcp entry | .peek entry | .trying entry _ _ | .pop entry _
  | .exchange entry _ _ | .direct entry _ | .push entry _ | .register entry
  | .registered entry _ | .unlockTcp entry | .unlockWs entry => some entry
  | _ => none

/-- The poll thread walks for events, the application threads for sends. -/
def Own (x : Thread App) (entry : Entry) : Prop := entry.kind.polls = true ↔ x = .poll

def Fits (x : Thread App) : Pc → Prop
  | .idle => True
  | .enter | .dispatch | .rearm => x = .poll
  | .lockWs entry | .unlockWs entry => Own x entry ∧ entry.kind.framed = true
  | .lockTcp entry | .direct entry _ | .push entry _ | .register entry | .unlockTcp entry =>
      Own x entry ∧ entry.kind.locked = true
  | .registered entry again => Own x entry ∧ entry.kind.locked = true ∧ again = entry.kind.polls
  | .peek entry | .trying entry _ _ | .pop entry _ | .exchange entry _ _ => Own x entry

theorem afterQueue_holds (entry : Entry) (flushed : Bool) :
    (entry.afterQueue flushed).holds = entry.holds true true := by
  unfold Entry.afterQueue
  funext mutex
  split_ifs with flush <;> try rfl
  all_goals cases mutex <;> simp [Pc.holds, Entry.holds, flush, Kind.polls, Kind.framed, Kind.locked]

theorem afterQueue_fits {x : Thread App} {entry : Entry} (own : Own x entry) (flushed : Bool) :
    Fits x (entry.afterQueue flushed) := by
  have locked : entry.kind ≠ .flush → entry.kind.locked = true := by
    cases entry.kind <;> simp [Kind.locked]
  unfold Entry.afterQueue
  split_ifs with flush empty <;> first
    | exact ⟨own, locked flush⟩
    | exact own.mp (by rw [flush]; rfl)

theorem afterFailure_holds (entry : Entry) : entry.afterFailure.holds = entry.holds true true := by
  unfold Entry.afterFailure
  funext mutex
  split_ifs with flush
  · cases mutex <;> simp [Pc.holds, Entry.holds, flush, Kind.polls, Kind.framed, Kind.locked]
  · rfl

theorem afterFailure_fits {x : Thread App} {entry : Entry} (own : Own x entry) :
    Fits x entry.afterFailure := by
  unfold Entry.afterFailure
  split_ifs with flush
  · exact own.mp (by rw [flush]; rfl)
  · refine ⟨own, ?_⟩
    cases kind : entry.kind <;> first | rfl | exact absurd kind flush

theorem locked_of_framed {kind : Kind} (framed : kind.framed = true) : kind.locked = true := by
  cases kind <;> first | rfl | cases framed

/-- What a step of one thread means for the owners of the mutexes. -/
structure Keeps (x : Thread App) (s next : Shared App) (pc : Pc) : Prop where
  fits : Fits x pc
  own : ∀ mutex, next.owner mutex = some x ↔ pc.holds mutex = true
  others : ∀ y, y ≠ x → ∀ mutex, next.owner mutex = some y ↔ s.owner mutex = some y

theorem keeps_same {x : Thread App} {s next : Shared App} {pc pc' : Pc} (owner : next.owner = s.owner)
    (holds : pc'.holds = pc.holds) (fits : Fits x pc')
    (before : ∀ mutex, s.owner mutex = some x ↔ pc.holds mutex = true) : Keeps x s next pc' := by
  refine ⟨fits, ?_, ?_⟩
  · intro mutex
    rw [owner, holds]
    exact before mutex
  · intro y _ mutex
    rw [owner]

theorem keeps_lock {x : Thread App} {s : Shared App} {pc pc' : Pc} (taken : Mutex)
    (free : s.owner taken = none) (holds : ∀ mutex, pc'.holds mutex = (mutex == taken || pc.holds mutex))
    (fits : Fits x pc') (before : ∀ mutex, s.owner mutex = some x ↔ pc.holds mutex = true) :
    Keeps x s (s.setOwner taken (some x)) pc' := by
  refine ⟨fits, ?_, ?_⟩
  · intro mutex
    by_cases same : mutex = taken
    · simp [Shared.setOwner, holds, same]
    · simp [Shared.setOwner, holds, same, before]
  · intro y other mutex
    by_cases same : mutex = taken
    · simp [Shared.setOwner, same, free, Ne.symm other]
    · simp [Shared.setOwner, same]

theorem keeps_unlock {x : Thread App} {s : Shared App} {pc pc' : Pc} (given : Mutex)
    (held : pc.holds given = true)
    (holds : ∀ mutex, pc'.holds mutex = (mutex != given && pc.holds mutex))
    (fits : Fits x pc') (before : ∀ mutex, s.owner mutex = some x ↔ pc.holds mutex = true) :
    Keeps x s (s.setOwner given none) pc' := by
  have mine := (before given).mpr held
  refine ⟨fits, ?_, ?_⟩
  · intro mutex
    by_cases same : mutex = given
    · simp [Shared.setOwner, holds, same]
    · simp [Shared.setOwner, holds, same, before]
  · intro y other mutex
    by_cases same : mutex = given
    · simp [Shared.setOwner, same, mine, Ne.symm other]
    · simp [Shared.setOwner, same]

theorem ThreadStep.keeps {x : Thread App} {s next : Shared App} {pc pc' : Pc} {action : Action}
    (step : ThreadStep x s pc action next pc') (fits : Fits x pc)
    (before : ∀ mutex, s.owner mutex = some x ↔ pc.holds mutex = true) : Keeps x s next pc' := by
  cases step with
  | send a message isApp =>
    subst isApp
    exact keeps_same rfl (by funext m; cases m <;> rfl) (by simp [Fits, Own, Kind.polls, Kind.locked]) before
  | frame a message isApp long =>
    subst isApp
    exact keeps_same rfl (by funext m; cases m <;> rfl) (by simp [Fits, Own, Kind.polls, Kind.framed]) before
  | wake isPoll => exact keeps_same rfl rfl isPoll before
  | enter free => exact keeps_lock .poll free (by intro m; cases m <;> rfl) fits before
  | ping message long =>
    have isPoll : x = .poll := fits
    exact keeps_same rfl (by funext m; cases m <;> rfl)
      (by simp [Fits, Own, Kind.polls, Kind.framed, isPoll]) before
  | close message first long =>
    have isPoll : x = .poll := fits
    exact keeps_same rfl (by funext m; cases m <;> rfl)
      (by simp [Fits, Own, Kind.polls, Kind.framed, isPoll]) before
  | timeout message long =>
    have isPoll : x = .poll := fits
    exact keeps_same rfl (by funext m; cases m <;> rfl)
      (by simp [Fits, Own, Kind.polls, Kind.framed, isPoll]) before
  | writable =>
    have isPoll : x = .poll := fits
    exact keeps_same rfl (by funext m; cases m <;> rfl) (by simp [Fits, Own, Kind.polls, isPoll]) before
  | leave => exact keeps_unlock .poll rfl (by intro m; cases m <;> rfl) trivial before
  | lockWs entry free =>
    refine keeps_lock .ws free ?_ ⟨fits.1, locked_of_framed fits.2⟩ before
    intro m
    cases m <;> simp [Pc.holds, Entry.holds, fits.2]
  | lockTcp entry free =>
    refine keeps_lock .tcp free ?_ fits.1 before
    intro m
    cases m <;> simp [Pc.holds, Entry.holds, fits.2]
  | peekNone entry none =>
    exact keeps_same rfl (by rw [afterQueue_holds]; rfl) (afterQueue_fits fits true) before
  | peekSome entry head found => exact keeps_same rfl rfl fits before
  | tryAccepted entry head rest length => exact keeps_same rfl rfl fits before
  | tryBlocked entry head rest => exact keeps_same rfl rfl fits before
  | tryFailed entry head rest =>
    exact keeps_same rfl (by rw [afterFailure_holds]; rfl) (afterFailure_fits fits) before
  | trySent entry head => exact keeps_same rfl rfl fits before
  | pop entry head => exact keeps_same rfl rfl fits before
  | exchange entry head rest =>
    exact keeps_same rfl (by rw [afterQueue_holds]; rfl) (afterQueue_fits fits false) before
  | directAccepted entry rest length => exact keeps_same rfl rfl fits before
  | directBlocked entry rest => exact keeps_same rfl rfl fits before
  | directFailed entry rest => exact keeps_same rfl rfl fits before
  | directSent entry => exact keeps_same rfl rfl fits before
  | push entry rest => exact keeps_same rfl rfl fits before
  | register entry free =>
    -- a thread that holds the mutex takes the other step
    have outside : entry.kind.polls = false := by
      refine Bool.eq_false_iff.mpr (fun polls => ?_)
      have mine := (before .poll).mpr polls
      rw [free] at mine
      cases mine
    refine keeps_lock .poll free ?_ ⟨fits.1, fits.2, outside.symm⟩ before
    intro m
    rfl
  | registerAgain entry mine =>
    have polls : entry.kind.polls = true := (before .poll).mp mine
    refine keeps_same rfl ?_ ⟨fits.1, fits.2, polls.symm⟩ before
    funext m
    cases m <;> simp [Pc.holds, Entry.holds, polls]
  | registered entry =>
    have outside : entry.kind.polls = false := fits.2.2.symm
    refine keeps_unlock .poll rfl ?_ ⟨fits.1, fits.2.1⟩ before
    intro m
    cases m with
    | poll => exact outside
    | ws => rfl
    | tcp => rfl
  | registeredAgain entry =>
    refine keeps_same rfl ?_ ⟨fits.1, fits.2.1⟩ before
    funext m
    cases m <;> simp [Pc.holds, Entry.holds, ← fits.2.2]
  | unlockTcp entry =>
    obtain ⟨own, locked⟩ := fits
    refine keeps_unlock .tcp ?_ ?_ ?_ before
    · simp [Pc.holds, Entry.holds, locked]
    · intro m
      rcases entry with ⟨kind, message⟩
      cases kind <;> cases m <;> first | rfl | cases locked
    · rcases entry with ⟨kind, message⟩
      cases kind <;> first | exact ⟨own, rfl⟩ | trivial
  | unlockWs entry =>
    obtain ⟨own, framed⟩ := fits
    refine keeps_unlock .ws ?_ ?_ ?_ before
    · simp [Pc.holds, Entry.holds, framed]
    · intro m
      rcases entry with ⟨kind, message⟩
      cases kind <;> cases m <;> first | rfl | cases framed
    · rcases entry with ⟨kind, message⟩
      cases kind <;> first | exact own.mp rfl | trivial
  | rearm mine => exact keeps_same rfl rfl fits before

/-! ### All threads -/

structure System (App : Type) where
  shared : Shared App
  pc : Thread App → Pc

def System.initial : System App where
  shared := ⟨fun _ => none, false, [], 0, [], []⟩
  pc := fun _ => .idle

/-- Every thread is on a walk of its own, and owns what it holds there. -/
structure Owned (s : System App) : Prop where
  fits : ∀ x, Fits x (s.pc x)
  owner : ∀ x mutex, s.shared.owner mutex = some x ↔ (s.pc x).holds mutex = true

theorem initial_owned : Owned (System.initial : System App) :=
  ⟨fun _ => trivial, fun _ _ => by simp [System.initial, Pc.holds]⟩

theorem Owned.unique {s : System App} (owned : Owned s) {x y : Thread App} {mutex : Mutex}
    (one : (s.pc x).holds mutex = true) (other : (s.pc y).holds mutex = true) : x = y := by
  have first := (owned.owner x mutex).mpr one
  have second := (owned.owner y mutex).mpr other
  exact Option.some.inj (first.symm.trans second)

variable [DecidableEq App]

def System.move (s : System App) (x : Thread App) (shared : Shared App) (pc : Pc) : System App :=
  ⟨shared, Function.update s.pc x pc⟩

inductive Step : System App → Thread App × Action → System App → Prop where
  | mk (s : System App) (x : Thread App) (action : Action) (shared : Shared App) (pc : Pc) :
      ThreadStep x s.shared (s.pc x) action shared pc → Step s (x, action) (s.move x shared pc)

/-- The states of a run in which each thread in turn changes what is shared and goes on. -/
def System.walk (s : System App) :
    List ((Thread App × Action) × (Shared App → Shared App) × Pc) → List ((Thread App × Action) × System App)
  | [] => []
  | (label, change, pc) :: rest =>
      let next := s.move label.1 (change s.shared) pc
      (label, next) :: walk next rest

theorem move_pc_self (s : System App) (x : Thread App) (shared : Shared App) (pc : Pc) :
    (s.move x shared pc).pc x = pc := by
  simp [System.move]

theorem move_pc_other (s : System App) (x y : Thread App) (shared : Shared App) (pc : Pc)
    (other : y ≠ x) : (s.move x shared pc).pc y = s.pc y := by
  simp [System.move, other]

theorem Step.owned {s next : System App} {label : Thread App × Action} (step : Step s label next)
    (owned : Owned s) : Owned next := by
  cases step with
  | mk x action shared pc step =>
    have keeps := step.keeps (owned.fits x) (owned.owner x)
    refine ⟨fun y => ?_, fun y mutex => ?_⟩
    · by_cases same : y = x
      · rw [same, move_pc_self]
        exact keeps.fits
      · rw [move_pc_other s x y shared pc same]
        exact owned.fits y
    · by_cases same : y = x
      · rw [same, move_pc_self]
        exact keeps.own mutex
      · rw [move_pc_other s x y shared pc same, ← owned.owner y mutex]
        exact keeps.others y same mutex

end WebsocketClient.SendPaths
