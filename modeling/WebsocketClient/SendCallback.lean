import Mathlib.Data.List.Basic
import WebsocketClient.Library.Threads

/-! The application's callback for a low buffered amount, which `updateBufferedAmount` calls on the way of a
`send` or of an event `Out`. The callback may call `send` itself. -/

namespace WebsocketClient.SendCallbacks
open Library.Threads Library.Runs

inductive Mutex where
  /-- `WsTransport::mSendMutex`. -/
  | ws
  /-- `TcpTransport::mSendMutex`. -/
  | tcp
  deriving DecidableEq, Repr

inductive Kind where
  /-- `WsTransport::sendFrame`. -/
  | frame
  /-- `TcpTransport::send`, called for a request or for records of the TLS library. -/
  | send
  /-- `TcpTransport::resolve`, `attempt` and `close`. -/
  | connect
  /-- An event `Out` of the poll service: `trySendQueue` alone, and no mutex. -/
  | flush
  deriving DecidableEq, Repr

/-- What follows `updateBufferedAmount`. -/
inductive After where
  /-- The next round of `trySendQueue`. -/
  | again
  /-- `trySendQueue` returns false. -/
  | blocked
  /-- `setPoll(Both)`. -/
  | pushed
  deriving DecidableEq, Repr

/-- Where a call is, for a message of some size. Zero is the size of none. -/
inductive Pc where
  | lockWs
  /-- In the `outgoing` of `sendFrame`. -/
  | lower
  | lockTcp (size : Nat)
  /-- Before the state is tested. -/
  | test (size : Nat)
  /-- `trySendQueue`, before and behind `mSendQueue.peek()`. -/
  | peek (size : Nat)
  | trying (size head : Nat)
  | update (size : Nat) (delta : Int) (after : After)
  | trigger (size amount : Nat) (after : After)
  /-- `trySendMessage` for the message itself. -/
  | direct (size : Nat)
  | push (size : Nat)
  | unlockTcp
  deriving DecidableEq, Repr

structure Walk where
  kind : Kind
  pc : Pc
  deriving DecidableEq, Repr

/-- A call that waits for the callback to return. -/
structure Caller where
  kind : Kind
  size : Nat
  after : After
  deriving DecidableEq, Repr

/-- A thread in a call, or in the code of the application, which the callers may have called back. -/
structure Place where
  walk : Option Walk
  callers : List Caller
  deriving DecidableEq, Repr

structure Shared (T : Type) where
  owner : Mutex → Option T
  /-- The sizes of the messages in `mSendQueue`. -/
  mSendQueue : List Nat
  /-- Of the `TcpTransport`, and of the `Channel`. -/
  mBufferedAmount : Nat
  bufferedAmount : Nat
  bufferedAmountLowThreshold : Nat
  /-- Whether `mBufferedAmountCallback` and `bufferedAmountLowCallback` are set. -/
  mBufferedAmountCallback : Bool
  bufferedAmountLowCallback : Bool

variable {T : Type}

def Shared.setOwner (s : Shared T) (mutex : Mutex) (owner : Option T) : Shared T :=
  { s with owner := Function.update s.owner mutex owner }

namespace Kind

/-- `mSendMutex` of the `TcpTransport` is held in `trySendQueue`. -/
def locks : Kind → Bool
  | .flush => false
  | .frame | .send | .connect => true

/-- An exception, or a result of `trySendQueue` that is returned. -/
def done : Kind → Option Walk
  | .flush => none
  | kind => some ⟨kind, .unlockTcp⟩

def emptied (kind : Kind) (size : Nat) : Option Walk :=
  if kind = .flush ∨ size = 0 then kind.done else some ⟨kind, .direct size⟩

def resume (kind : Kind) (size : Nat) : After → Option Walk
  | .again => some ⟨kind, .peek size⟩
  | .blocked => if kind = .flush ∨ size = 0 then kind.done else some ⟨kind, .push size⟩
  | .pushed => kind.done

/-- `TcpTransport::mSendMutex` has been unlocked. -/
def unlocked : Kind → Option Walk
  | .frame => some ⟨.frame, .lower⟩
  | _ => none

end Kind

/-- The mutexes that a call holds in `trySendQueue`. -/
def Kind.holds (kind : Kind) : Mutex → Bool
  | .ws => kind = .frame
  | .tcp => kind.locks

def Walk.holds (walk : Walk) (mutex : Mutex) : Bool :=
  match walk.pc with
  | .lockWs => false
  | .lower | .lockTcp _ => mutex = .ws && walk.kind.holds .ws
  | _ => walk.kind.holds mutex

inductive Action where
  | setThreshold (threshold : Nat)
  | onBufferedAmount (callback : Bool)
  | onBufferedAmountLow (callback : Bool)
  /-- `send`, `close`, a PING or a PONG. -/
  | sendFrame
  | record (size : Nat)
  | connect
  | writable
  | lock
  | pass (size : Nat)
  | unlock
  | refuse
  | step
  /-- The kernel takes a message, takes a part of it and leaves the rest, or fails. -/
  | sent
  | partly (rest : Nat)
  | error
  /-- The callback returns. -/
  | return
  deriving DecidableEq, Repr

def addAmount (amount : Nat) (delta : Int) : Nat := (max ((amount : Int) + delta) 0).toNat

inductive ThreadStep (x : T) : Shared T → Place → Action → Shared T → Place → Prop where
  | setThreshold (s : Shared T) (callers : List Caller) (threshold : Nat) :
      ThreadStep x s ⟨none, callers⟩ (.setThreshold threshold) { s with bufferedAmountLowThreshold := threshold }
        ⟨none, callers⟩
  | onBufferedAmount (s : Shared T) (callers : List Caller) (callback : Bool) :
      ThreadStep x s ⟨none, callers⟩ (.onBufferedAmount callback) { s with mBufferedAmountCallback := callback }
        ⟨none, callers⟩
  | onBufferedAmountLow (s : Shared T) (callers : List Caller) (callback : Bool) :
      ThreadStep x s ⟨none, callers⟩ (.onBufferedAmountLow callback) { s with bufferedAmountLowCallback := callback }
        ⟨none, callers⟩
  | sendFrame (s : Shared T) (callers : List Caller) :
      ThreadStep x s ⟨none, callers⟩ .sendFrame s ⟨some ⟨.frame, .lockWs⟩, callers⟩
  | record (s : Shared T) (size : Nat) :
      ThreadStep x s ⟨none, []⟩ (.record size) s ⟨some ⟨.send, .lockTcp size⟩, []⟩
  | connect (s : Shared T) : ThreadStep x s ⟨none, []⟩ .connect s ⟨some ⟨.connect, .lockTcp 0⟩, []⟩
  | writable (s : Shared T) : ThreadStep x s ⟨none, []⟩ .writable s ⟨some ⟨.flush, .peek 0⟩, []⟩
  | lockWs (s : Shared T) (callers : List Caller) : s.owner .ws = none →
      ThreadStep x s ⟨some ⟨.frame, .lockWs⟩, callers⟩ .lock (s.setOwner .ws (some x)) ⟨some ⟨.frame, .lower⟩, callers⟩
  | pass (s : Shared T) (callers : List Caller) (size : Nat) :
      ThreadStep x s ⟨some ⟨.frame, .lower⟩, callers⟩ (.pass size) s ⟨some ⟨.frame, .lockTcp size⟩, callers⟩
  | unlockWs (s : Shared T) (callers : List Caller) :
      ThreadStep x s ⟨some ⟨.frame, .lower⟩, callers⟩ .unlock (s.setOwner .ws none) ⟨none, callers⟩
  | lockTcp (s : Shared T) (callers : List Caller) (kind : Kind) (size : Nat) : kind.locks = true →
      s.owner .tcp = none →
      ThreadStep x s ⟨some ⟨kind, .lockTcp size⟩, callers⟩ .lock (s.setOwner .tcp (some x))
        ⟨some ⟨kind, .test size⟩, callers⟩
  | refuse (s : Shared T) (callers : List Caller) (kind : Kind) (size : Nat) :
      ThreadStep x s ⟨some ⟨kind, .test size⟩, callers⟩ .refuse s ⟨kind.done, callers⟩
  | test (s : Shared T) (callers : List Caller) (kind : Kind) (size : Nat) : kind ≠ .connect →
      ThreadStep x s ⟨some ⟨kind, .test size⟩, callers⟩ .step s ⟨some ⟨kind, .peek size⟩, callers⟩
  | peekNone (s : Shared T) (callers : List Caller) (kind : Kind) (size : Nat) : s.mSendQueue = [] →
      ThreadStep x s ⟨some ⟨kind, .peek size⟩, callers⟩ .step s ⟨kind.emptied size, callers⟩
  | peek (s : Shared T) (callers : List Caller) (kind : Kind) (size head : Nat) : s.mSendQueue.head? = some head →
      ThreadStep x s ⟨some ⟨kind, .peek size⟩, callers⟩ .step s ⟨some ⟨kind, .trying size head⟩, callers⟩
  | pop (s : Shared T) (callers : List Caller) (kind : Kind) (size head : Nat) :
      ThreadStep x s ⟨some ⟨kind, .trying size head⟩, callers⟩ .sent { s with mSendQueue := s.mSendQueue.tail }
        ⟨some ⟨kind, .update size (-head) .again⟩, callers⟩
  | exchange (s : Shared T) (callers : List Caller) (kind : Kind) (size head rest : Nat) : 0 < rest → rest ≤ head →
      ThreadStep x s ⟨some ⟨kind, .trying size head⟩, callers⟩ (.partly rest)
        { s with mSendQueue := if s.mSendQueue = [] then [] else rest :: s.mSendQueue.tail }
        ⟨some ⟨kind, .update size (rest - head) .blocked⟩, callers⟩
  | error (s : Shared T) (callers : List Caller) (kind : Kind) (size head : Nat) :
      ThreadStep x s ⟨some ⟨kind, .trying size head⟩, callers⟩ .error s ⟨kind.done, callers⟩
  | unchanged (s : Shared T) (callers : List Caller) (kind : Kind) (size : Nat) (after : After) :
      ThreadStep x s ⟨some ⟨kind, .update size 0 after⟩, callers⟩ .step s ⟨kind.resume size after, callers⟩
  | update (s : Shared T) (callers : List Caller) (kind : Kind) (size : Nat) (delta : Int) (after : After) : delta ≠ 0 →
      ThreadStep x s ⟨some ⟨kind, .update size delta after⟩, callers⟩ .step
        { s with mBufferedAmount := addAmount s.mBufferedAmount delta }
        ⟨some ⟨kind, .trigger size (addAmount s.mBufferedAmount delta) after⟩, callers⟩
  | disconnected (s : Shared T) (callers : List Caller) (kind : Kind) (size amount : Nat) (after : After) :
      s.mBufferedAmountCallback = false →
      ThreadStep x s ⟨some ⟨kind, .trigger size amount after⟩, callers⟩ .step s ⟨kind.resume size after, callers⟩
  | trigger (s : Shared T) (callers : List Caller) (kind : Kind) (size amount : Nat) (after : After) :
      s.mBufferedAmountCallback = true →
      ¬(s.bufferedAmountLowThreshold < s.bufferedAmount ∧ amount ≤ s.bufferedAmountLowThreshold ∧
        s.bufferedAmountLowCallback = true) →
      ThreadStep x s ⟨some ⟨kind, .trigger size amount after⟩, callers⟩ .step { s with bufferedAmount := amount }
        ⟨kind.resume size after, callers⟩
  | callback (s : Shared T) (callers : List Caller) (kind : Kind) (size amount : Nat) (after : After) :
      s.mBufferedAmountCallback = true → s.bufferedAmountLowThreshold < s.bufferedAmount →
      amount ≤ s.bufferedAmountLowThreshold → s.bufferedAmountLowCallback = true →
      ThreadStep x s ⟨some ⟨kind, .trigger size amount after⟩, callers⟩ .step { s with bufferedAmount := amount }
        ⟨none, ⟨kind, size, after⟩ :: callers⟩
  | return (s : Shared T) (callers : List Caller) (caller : Caller) :
      ThreadStep x s ⟨none, caller :: callers⟩ .return s ⟨caller.kind.resume caller.size caller.after, callers⟩
  | sent (s : Shared T) (callers : List Caller) (kind : Kind) (size : Nat) :
      ThreadStep x s ⟨some ⟨kind, .direct size⟩, callers⟩ .sent s ⟨kind.done, callers⟩
  | partly (s : Shared T) (callers : List Caller) (kind : Kind) (size rest : Nat) : 0 < rest → rest ≤ size →
      ThreadStep x s ⟨some ⟨kind, .direct size⟩, callers⟩ (.partly rest) s ⟨some ⟨kind, .push rest⟩, callers⟩
  | failed (s : Shared T) (callers : List Caller) (kind : Kind) (size : Nat) :
      ThreadStep x s ⟨some ⟨kind, .direct size⟩, callers⟩ .error s ⟨kind.done, callers⟩
  | push (s : Shared T) (callers : List Caller) (kind : Kind) (size : Nat) :
      ThreadStep x s ⟨some ⟨kind, .push size⟩, callers⟩ .step { s with mSendQueue := s.mSendQueue ++ [size] }
        ⟨some ⟨kind, .update 0 size .pushed⟩, callers⟩
  | unlockTcp (s : Shared T) (callers : List Caller) (kind : Kind) : kind.locks = true →
      ThreadStep x s ⟨some ⟨kind, .unlockTcp⟩, callers⟩ .unlock (s.setOwner .tcp none) ⟨kind.unlocked, callers⟩

def initial : System T (Shared T) Place where
  shared :=
    { owner := fun _ => none
      mSendQueue := []
      mBufferedAmount := 0
      bufferedAmount := 0
      bufferedAmountLowThreshold := 0
      mBufferedAmountCallback := false
      bufferedAmountLowCallback := false }
  place := fun _ => ⟨none, []⟩

def Unblocked (s : System T (Shared T) Place) : Prop :=
  ∀ x walk, (s.place x).walk = some walk →
    (walk.pc = .lockWs → s.shared.owner .ws ≠ some x) ∧ (∀ size, walk.pc = .lockTcp size → s.shared.owner .tcp ≠ some x)

/-- A callback calls `send` only where no flush of `sendFrame` has called it back, and comes to
`TcpTransport::send` only where the event `Out` has. -/
def Apart (s : System T (Shared T) Place) (label : T × Action) : Prop :=
  (label.2 = .sendFrame → ∀ caller ∈ (s.place label.1).callers, caller.kind ≠ .frame) ∧
    (∀ size, label.2 = .pass size → ∀ caller ∈ (s.place label.1).callers, caller.kind = .flush)

/-! ### How often a thread holds a mutex -/

def heldBy (walk : Option Walk) (mutex : Mutex) : Nat :=
  match walk with
  | none => 0
  | some walk => (walk.holds mutex).toNat

def Place.count (place : Place) (mutex : Mutex) : Nat :=
  heldBy place.walk mutex + place.callers.countP (fun caller => caller.kind.holds mutex)

theorem toNat_eq_ite (held : Bool) : held.toNat = if held = true then 1 else 0 := by
  cases held <;> rfl

@[simp] theorem heldBy_none (mutex : Mutex) : heldBy none mutex = 0 := rfl

@[simp] theorem heldBy_some (walk : Walk) (mutex : Mutex) : heldBy (some walk) mutex = (walk.holds mutex).toNat := rfl

@[simp] theorem heldBy_done (kind : Kind) (mutex : Mutex) : heldBy kind.done mutex = (kind.holds mutex).toNat := by
  cases kind <;> cases mutex <;> rfl

@[simp] theorem heldBy_emptied (kind : Kind) (size : Nat) (mutex : Mutex) :
    heldBy (kind.emptied size) mutex = (kind.holds mutex).toNat := by
  unfold Kind.emptied
  split
  · exact heldBy_done kind mutex
  · rfl

@[simp] theorem heldBy_resume (kind : Kind) (size : Nat) (after : After) (mutex : Mutex) :
    heldBy (kind.resume size after) mutex = (kind.holds mutex).toNat := by
  cases after with
  | again => rfl
  | pushed => exact heldBy_done kind mutex
  | blocked =>
    unfold Kind.resume
    simp only
    split
    · exact heldBy_done kind mutex
    · rfl

/-- What a step of a thread does to the mutexes: nothing, or it locks or unlocks one of them. -/
inductive Moves (x : T) (s next : Shared T) (place place' : Place) : Prop where
  | stays : next.owner = s.owner → (∀ mutex, place'.count mutex = place.count mutex) → Moves x s next place place'
  | locks (taken : Mutex) : s.owner taken = none → next.owner = Function.update s.owner taken (some x) →
      place'.count taken = place.count taken + 1 →
      (∀ mutex, mutex ≠ taken → place'.count mutex = place.count mutex) → Moves x s next place place'
  | unlocks (given : Mutex) : next.owner = Function.update s.owner given none →
      place'.count given + 1 = place.count given →
      (∀ mutex, mutex ≠ given → place'.count mutex = place.count mutex) → Moves x s next place place'

theorem step_moves {x : T} {s next : Shared T} {place place' : Place} {action : Action}
    (step : ThreadStep x s place action next place') : Moves x s next place place' := by
  cases step with
  | lockWs callers free =>
    refine .locks .ws free rfl ?_ ?_
    · simp [Place.count, Walk.holds, Kind.holds]; omega
    · rintro (_ | _) other
      · exact absurd rfl other
      · simp [Place.count, Walk.holds]
  | unlockWs callers =>
    refine .unlocks .ws rfl ?_ ?_
    · simp [Place.count, Walk.holds, Kind.holds]; omega
    · rintro (_ | _) other
      · exact absurd rfl other
      · simp [Place.count, Walk.holds]
  | lockTcp callers kind size locks free =>
    refine .locks .tcp free rfl ?_ ?_
    · simp [Place.count, Walk.holds, Kind.holds, locks]; omega
    · rintro (_ | _) other
      · simp [Place.count, Walk.holds]
      · exact absurd rfl other
  | unlockTcp callers kind locks =>
    refine .unlocks .tcp rfl ?_ ?_
    · cases kind <;> simp [Place.count, Walk.holds, Kind.holds, Kind.unlocked, Kind.locks] at locks ⊢ <;> omega
    · rintro (_ | _) other
      · cases kind <;> simp [Place.count, Walk.holds, Kind.holds, Kind.unlocked]
      · exact absurd rfl other
  | callback callers kind | «return» callers caller =>
    refine .stays rfl fun mutex => ?_
    simp only [Place.count, Walk.holds, heldBy_none, heldBy_some, heldBy_resume, List.countP_cons, toNat_eq_ite]
    omega
  | _ =>
    refine .stays rfl fun mutex => ?_
    cases mutex <;> simp [Place.count, Walk.holds, Kind.holds, Kind.locks]

/-- What the callers hold is not what the thread is about to lock. -/
structure Place.Clear (place : Place) : Prop where
  ws : ∀ walk, place.walk = some walk → walk.pc = .lockWs → ∀ caller ∈ place.callers, caller.kind ≠ .frame
  tcp : ∀ walk size, place.walk = some walk → walk.pc = .lockTcp size → ∀ caller ∈ place.callers, caller.kind = .flush

theorem holds_ws_iff (kind : Kind) : kind.holds .ws = true ↔ kind = .frame := by simp [Kind.holds]

theorem holds_tcp_iff (kind : Kind) : kind.holds .tcp = true ↔ kind ≠ .flush := by
  cases kind <;> simp [Kind.holds, Kind.locks]

theorem unblocked_iff {s : System T (Shared T) Place}
    (counted : ∀ x mutex, (s.place x).count mutex = 0 ↔ s.shared.owner mutex ≠ some x) :
    Unblocked s ↔ ∀ x, (s.place x).Clear := by
  have ws : ∀ x walk, (s.place x).walk = some walk → walk.pc = .lockWs →
      (s.shared.owner .ws ≠ some x ↔ ∀ caller ∈ (s.place x).callers, caller.kind ≠ .frame) := by
    intro x walk here pc
    rw [← counted, Place.count, here, heldBy_some, Walk.holds, pc]
    simp [List.countP_eq_zero, holds_ws_iff]
  have tcp : ∀ x walk size, (s.place x).walk = some walk → walk.pc = .lockTcp size →
      (s.shared.owner .tcp ≠ some x ↔ ∀ caller ∈ (s.place x).callers, caller.kind = .flush) := by
    intro x walk size here pc
    rw [← counted, Place.count, here, heldBy_some, Walk.holds, pc]
    simp [List.countP_eq_zero, holds_tcp_iff]
  constructor
  · intro unblocked x
    exact ⟨fun walk here pc => (ws x walk here pc).mp ((unblocked x walk here).1 pc),
      fun walk size here pc => (tcp x walk size here pc).mp ((unblocked x walk here).2 size pc)⟩
  · intro clear x walk here
    exact ⟨fun pc => (ws x walk here pc).mpr ((clear x).ws walk here pc),
      fun size pc => (tcp x walk size here pc).mpr ((clear x).tcp walk size here pc)⟩

def Quiet (walk : Option Walk) : Prop :=
  ∀ walk', walk = some walk' → walk'.pc ≠ .lockWs ∧ ∀ size, walk'.pc ≠ .lockTcp size

theorem quiet_done (kind : Kind) : Quiet kind.done := by
  cases kind <;> simp [Quiet, Kind.done]

theorem quiet_emptied (kind : Kind) (size : Nat) : Quiet (kind.emptied size) := by
  unfold Kind.emptied
  split
  · exact quiet_done kind
  · simp [Quiet]

theorem quiet_resume (kind : Kind) (size : Nat) (after : After) : Quiet (kind.resume size after) := by
  cases after with
  | again => simp [Quiet, Kind.resume]
  | pushed => exact quiet_done kind
  | blocked =>
    unfold Kind.resume
    simp only
    split
    · exact quiet_done kind
    · simp [Quiet]

theorem Quiet.clear {walk : Option Walk} (quiet : Quiet walk) (callers : List Caller) :
    Place.Clear ⟨walk, callers⟩ where
  ws walk' here pc := absurd pc (quiet walk' here).1
  tcp walk' size here pc := absurd pc ((quiet walk' here).2 size)

/-- No call goes on to a lock but those that `sendFrame` makes, and those that no callback makes. -/
theorem step_clear {x : T} {s next : Shared T} {place place' : Place} {action : Action}
    (step : ThreadStep x s place action next place')
    (frame : action = .sendFrame → ∀ caller ∈ place.callers, caller.kind ≠ .frame)
    (pass : ∀ size, action = .pass size → ∀ caller ∈ place.callers, caller.kind = .flush) : place'.Clear := by
  cases step with
  | sendFrame callers =>
    refine ⟨fun _ _ _ => frame rfl, fun walk size here pc => ?_⟩
    cases here
    cases pc
  | pass callers size =>
    refine ⟨fun walk here pc => ?_, fun _ _ _ _ => pass size rfl⟩
    cases here
    cases pc
  | record | connect =>
    exact ⟨fun _ _ _ _ member => absurd member List.not_mem_nil, fun _ _ _ _ _ member => absurd member List.not_mem_nil⟩
  | unlockTcp callers kind locks =>
    apply Quiet.clear
    cases kind <;> simp [Quiet, Kind.unlocked]
  | refuse | error | sent | failed => exact (quiet_done _).clear _
  | peekNone => exact (quiet_emptied _ _).clear _
  | unchanged | disconnected | trigger | «return» => exact (quiet_resume _ _ _).clear _
  | _ =>
    apply Quiet.clear
    simp [Quiet]

section
variable [DecidableEq T]

def Counted (s : System T (Shared T) Place) : Prop :=
  ∀ x mutex, (s.place x).count mutex = if s.shared.owner mutex = some x then 1 else 0

theorem keeps_counted (s : System T (Shared T) Place) (label : T × Action) (next : System T (Shared T) Place)
    (counted : Counted s) (step : Step (fun x => ThreadStep x) s label next) : Counted next := by
  cases step with
  | mk x action shared place step =>
    intro y mutex
    have before := counted y mutex
    rcases step_moves step with ⟨owner, count⟩ | ⟨taken, free, owner, count, others⟩ | ⟨given, owner, count, others⟩
    · by_cases same : y = x
      · subst same
        rw [System.move_place_self, count mutex, before]
        simp only [System.move, owner]
      · rw [System.move_place_other _ _ _ same, before]
        simp only [System.move, owner]
    · by_cases same : y = x
      · subst same
        rw [System.move_place_self]
        by_cases here : mutex = taken
        · subst here
          rw [count, before, free]
          simp [System.move, owner]
        · rw [others mutex here, before]
          simp [System.move, owner, here]
      · rw [System.move_place_other _ _ _ same, before]
        by_cases here : mutex = taken
        · subst here
          simp [System.move, owner, free, Ne.symm same]
        · simp [System.move, owner, here]
    · have held := counted x given
      have mine : s.shared.owner given = some x := by
        by_cases mine : s.shared.owner given = some x
        · exact mine
        · rw [if_neg mine] at held
          omega
      by_cases same : y = x
      · subst same
        rw [System.move_place_self]
        by_cases here : mutex = given
        · subst here
          rw [if_pos mine] at held
          simp [System.move, owner]
          omega
        · rw [others mutex here, before]
          simp [System.move, owner, here]
      · rw [System.move_place_other _ _ _ same, before]
        by_cases here : mutex = given
        · subst here
          simp [System.move, owner, mine, Ne.symm same]
        · simp [System.move, owner, here]

theorem Counted.zero_iff {s : System T (Shared T) Place} (counted : Counted s) (x : T) (mutex : Mutex) :
    (s.place x).count mutex = 0 ↔ s.shared.owner mutex ≠ some x := by
  rw [counted x mutex]
  by_cases own : s.shared.owner mutex = some x <;> simp [own]

structure Inv (s : System T (Shared T) Place) : Prop where
  counted : Counted s
  clear : ∀ x, (s.place x).Clear

theorem Inv.unblocked {s : System T (Shared T) Place} (inv : Inv s) : Unblocked s :=
  (unblocked_iff inv.counted.zero_iff).mpr inv.clear

theorem keeps_inv (s : System T (Shared T) Place) (label : T × Action) (next : System T (Shared T) Place) (inv : Inv s)
    (step : Step (fun x => ThreadStep x) s label next) (apart : Apart s label) : Inv next := by
  refine ⟨keeps_counted s label next inv.counted step, ?_⟩
  cases step with
  | mk x action shared place step =>
    intro y
    by_cases same : y = x
    · subst same
      rw [System.move_place_self]
      exact step_clear step apart.1 apart.2
    · rw [System.move_place_other _ _ _ same]
      exact inv.clear y

theorem breaks_unblocked (s : System T (Shared T) Place) (label : T × Action) (next : System T (Shared T) Place)
    (inv : Inv s) (step : Step (fun x => ThreadStep x) s label next) (against : ¬Apart s label) : ¬Unblocked next := by
  have counted := keeps_counted s label next inv.counted step
  rw [unblocked_iff counted.zero_iff]
  intro clear
  apply against
  cases step with
  | mk x action shared place step =>
    have moved := clear x
    rw [System.move_place_self] at moved
    constructor
    · rintro rfl
      generalize s.place x = old at step
      cases step with
      | sendFrame callers => exact moved.ws _ rfl rfl
    · rintro size rfl
      generalize s.place x = old at step
      cases step with
      | pass callers size => exact moved.tcp _ _ rfl rfl

theorem initial_inv : Inv (initial : System T (Shared T) Place) where
  counted x mutex := by simp [initial, Place.count]
  clear x := by
    apply Quiet.clear
    simp [Quiet]

/-- No thread blocks on itself, exactly when callbacks call `send` only from where no mutex is held. -/
theorem unblocked_run_iff (trace : List ((T × Action) × System T (Shared T) Place))
    (run : Run (Step (fun x => ThreadStep x)) initial trace) :
    Always Unblocked initial trace ↔ Guarded Apart initial trace :=
  always_iff (fun _ inv => inv.unblocked) keeps_inv breaks_unblocked trace _ initial_inv run

end

/-- Both callbacks are set. -/
def called : Shared Bool :=
  { (initial : System Bool (Shared Bool) Place).shared with
    mBufferedAmountCallback := true
    bufferedAmountLowCallback := true }

/-- Ten bytes are queued by a thread that holds both mutexes. -/
def queued : Shared Bool :=
  { (called.setOwner .ws (some false)).setOwner .tcp (some false) with
    mSendQueue := [10]
    mBufferedAmount := 10
    bufferedAmount := 10 }

def released : Shared Bool := (queued.setOwner .tcp none).setOwner .ws none

/-- A thread goes down to the queue. -/
def entering (s : Shared Bool) (size : Nat) : List (Bool × Action × Shared Bool × Place) :=
  let ws := s.setOwner .ws (some false)
  let tcp := ws.setOwner .tcp (some false)
  [(false, .sendFrame, s, ⟨some ⟨.frame, .lockWs⟩, []⟩), (false, .lock, ws, ⟨some ⟨.frame, .lower⟩, []⟩),
    (false, .pass size, ws, ⟨some ⟨.frame, .lockTcp size⟩, []⟩), (false, .lock, tcp, ⟨some ⟨.frame, .test size⟩, []⟩),
    (false, .step, tcp, ⟨some ⟨.frame, .peek size⟩, []⟩)]

/-- A message that the kernel does not take is queued. -/
def queueing : List (Bool × Action × Shared Bool × Place) :=
  let half := { called with bufferedAmountLowCallback := false }
  let tcp := (called.setOwner .ws (some false)).setOwner .tcp (some false)
  [(false, .onBufferedAmount true, half, ⟨none, []⟩), (false, .onBufferedAmountLow true, called, ⟨none, []⟩)] ++
    entering called 10 ++
    [(false, .step, tcp, ⟨some ⟨.frame, .direct 10⟩, []⟩), (false, .partly 10, tcp, ⟨some ⟨.frame, .push 10⟩, []⟩),
      (false, .step, { tcp with mSendQueue := [10] }, ⟨some ⟨.frame, .update 0 10 .pushed⟩, []⟩),
      (false, .step, { tcp with mSendQueue := [10], mBufferedAmount := 10 },
          ⟨some ⟨.frame, .trigger 0 10 .pushed⟩, []⟩),
      (false, .step, queued, ⟨some ⟨.frame, .unlockTcp⟩, []⟩),
      (false, .unlock, queued.setOwner .tcp none, ⟨some ⟨.frame, .lower⟩, []⟩), (false, .unlock, released, ⟨none, []⟩)]

/-- The poll thread sends the queue, and the callback sends from there. -/
def flushing : List ((Bool × Action) × System Bool (Shared Bool) Place) :=
  let popped := { released with mSendQueue := [] }
  let low := { popped with mBufferedAmount := 0, bufferedAmount := 0 }
  initial.walk (queueing ++
    [(true, .writable, released, ⟨some ⟨.flush, .peek 0⟩, []⟩),
        (true, .step, released, ⟨some ⟨.flush, .trying 0 10⟩, []⟩),
      (true, .sent, popped, ⟨some ⟨.flush, .update 0 (-10) .again⟩, []⟩),
      (true, .step, { popped with mBufferedAmount := 0 }, ⟨some ⟨.flush, .trigger 0 0 .again⟩, []⟩),
      (true, .step, low, ⟨none, [⟨.flush, 0, .again⟩]⟩),
      (true, .sendFrame, low, ⟨some ⟨.frame, .lockWs⟩, [⟨.flush, 0, .again⟩]⟩),
      (true, .lock, low.setOwner .ws (some true), ⟨some ⟨.frame, .lower⟩, [⟨.flush, 0, .again⟩]⟩)])

theorem unblocked_flushing : Always Unblocked initial flushing ↔ Guarded Apart initial flushing :=
  unblocked_run_iff flushing
    ⟨.mk _ _ _ _ _ (.onBufferedAmount _ _ _), .mk _ _ _ _ _ (.onBufferedAmountLow _ _ _),
        .mk _ _ _ _ _ (.sendFrame _ _),
      .mk _ _ _ _ _ (.lockWs _ _ rfl), .mk _ _ _ _ _ (.pass _ _ _), .mk _ _ _ _ _ (.lockTcp _ _ _ _ rfl rfl),
      .mk _ _ _ _ _ (.test _ _ _ _ (by decide)), .mk _ _ _ _ _ (.peekNone _ _ _ _ rfl),
      .mk _ _ _ _ _ (.partly _ _ _ _ _ (by decide) (by decide)), .mk _ _ _ _ _ (.push _ _ _ _),
      .mk _ _ _ _ _ (.update _ _ _ _ _ _ (by decide)), .mk _ _ _ _ _ (.trigger _ _ _ _ _ _ rfl (by decide)),
      .mk _ _ _ _ _ (.unlockTcp _ _ _ rfl), .mk _ _ _ _ _ (.unlockWs _ _), .mk _ _ _ _ _ (.writable _),
      .mk _ _ _ _ _ (.peek _ _ _ _ _ rfl), .mk _ _ _ _ _ (.pop _ _ _ _ _),
      .mk _ _ _ _ _ (.update _ _ _ _ _ _ (by decide)),
      .mk _ _ _ _ _ (.callback _ _ _ _ _ _ rfl (by decide) (by decide) rfl), .mk _ _ _ _ _ (.sendFrame _ _),
      .mk _ _ _ _ _ (.lockWs _ _ rfl), trivial⟩

/-- The next message flushes the queue, and the callback sends while both mutexes are held. -/
def draining : List ((Bool × Action) × System Bool (Shared Bool) Place) :=
  let held := (released.setOwner .ws (some false)).setOwner .tcp (some false)
  let popped := { held with mSendQueue := [] }
  let low := { popped with mBufferedAmount := 0, bufferedAmount := 0 }
  initial.walk (queueing ++ entering released 4 ++
    [(false, .step, held, ⟨some ⟨.frame, .trying 4 10⟩, []⟩),
      (false, .sent, popped, ⟨some ⟨.frame, .update 4 (-10) .again⟩, []⟩),
      (false, .step, { popped with mBufferedAmount := 0 }, ⟨some ⟨.frame, .trigger 4 0 .again⟩, []⟩),
      (false, .step, low, ⟨none, [⟨.frame, 4, .again⟩]⟩),
      (false, .sendFrame, low, ⟨some ⟨.frame, .lockWs⟩, [⟨.frame, 4, .again⟩]⟩)])

theorem draining_not_unblocked : ¬∀ trace, Run (Step (fun x : Bool => ThreadStep x)) initial trace →
    Always Unblocked initial trace := by
  intro all
  have run : Run (Step (fun x : Bool => ThreadStep x)) initial draining :=
    ⟨.mk _ _ _ _ _ (.onBufferedAmount _ _ _), .mk _ _ _ _ _ (.onBufferedAmountLow _ _ _),
        .mk _ _ _ _ _ (.sendFrame _ _),
      .mk _ _ _ _ _ (.lockWs _ _ rfl), .mk _ _ _ _ _ (.pass _ _ _), .mk _ _ _ _ _ (.lockTcp _ _ _ _ rfl rfl),
      .mk _ _ _ _ _ (.test _ _ _ _ (by decide)), .mk _ _ _ _ _ (.peekNone _ _ _ _ rfl),
      .mk _ _ _ _ _ (.partly _ _ _ _ _ (by decide) (by decide)), .mk _ _ _ _ _ (.push _ _ _ _),
      .mk _ _ _ _ _ (.update _ _ _ _ _ _ (by decide)), .mk _ _ _ _ _ (.trigger _ _ _ _ _ _ rfl (by decide)),
      .mk _ _ _ _ _ (.unlockTcp _ _ _ rfl), .mk _ _ _ _ _ (.unlockWs _ _), .mk _ _ _ _ _ (.sendFrame _ _),
      .mk _ _ _ _ _ (.lockWs _ _ rfl), .mk _ _ _ _ _ (.pass _ _ _), .mk _ _ _ _ _ (.lockTcp _ _ _ _ rfl rfl),
      .mk _ _ _ _ _ (.test _ _ _ _ (by decide)), .mk _ _ _ _ _ (.peek _ _ _ _ _ rfl), .mk _ _ _ _ _ (.pop _ _ _ _ _),
      .mk _ _ _ _ _ (.update _ _ _ _ _ _ (by decide)),
      .mk _ _ _ _ _ (.callback _ _ _ _ _ _ rfl (by decide) (by decide) rfl), .mk _ _ _ _ _ (.sendFrame _ _), trivial⟩
  have unblocked := (all draining run).last
  exact (unblocked false ⟨.frame, .lockWs⟩ rfl).1 rfl rfl

end WebsocketClient.SendCallbacks
