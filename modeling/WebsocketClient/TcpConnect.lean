import Mathlib.Data.List.Basic
import Mathlib.Logic.Function.Basic
import WebsocketClient.Library.Runs
import WebsocketClient.Transport

/-! How a `TcpTransport` connects: its host is resolved, and the addresses are attempted one after the
other by tasks of the thread pool, each until the poll service reports on the socket. -/

namespace WebsocketClient.TcpConnects
open Transports Library.Runs

inductive Task where
  | resolve
  | attempt
  deriving DecidableEq, Repr

/-- What a socket is registered with. -/
inductive Callback where
  /-- The callback of `attempt`. -/
  | connecting
  | process
  deriving DecidableEq, Repr

/-- `PollService::Event`, with what `getsockopt` answers to an event `Out`. -/
inductive Event where
  | error
  | timeout
  | «in»
  | out (failed : Bool)
  deriving DecidableEq, Repr

/-- The poll service drops the registration before it reports an error or a timeout. -/
def Event.final : Event → Bool
  | .error | .timeout => true
  | .in | .out _ => false

structure TcpTransport (Address : Type) where
  state : State
  /-- `none` is `INVALID_SOCKET`. -/
  mSock : Option Nat
  mResolved : List Address
  /-- The tasks of this transport in the thread pool, and its sockets in the poll service. -/
  pool : List Task
  polls : Nat → Option Callback
  /-- The sockets that were created and not closed. -/
  opened : List Nat
  destroyed : Bool

/-- How `createSocket` ends. The socket is a number that no open socket has. -/
inductive Outcome where
  | noSocket
  /-- The socket cannot be configured, or `::connect` fails at once. -/
  | failed (sock : Nat)
  | created (sock : Nat)
  deriving DecidableEq, Repr

namespace TcpTransport
variable {Address : Type} (t : TcpTransport Address)

/-- A socket that is not valid is none of ours. -/
def closesocket (sock : Option Nat) : TcpTransport Address :=
  match sock with
  | none => t
  | some sock => { t with opened := t.opened.erase sock }

def enqueue (task : Task) : TcpTransport Address := { t with pool := t.pool ++ [task] }

/-- `PollService::add` and `PollService::remove` for `mSock`. -/
def add (callback : Callback) : TcpTransport Address :=
  match t.mSock with
  | none => t
  | some sock => { t with polls := Function.update t.polls sock (some callback) }

def remove : TcpTransport Address :=
  match t.mSock with
  | none => t
  | some sock => { t with polls := Function.update t.polls sock none }

/-- Throws unless the transport is neither connecting nor connected. -/
def connect : TcpTransport Address :=
  if t.state = .connecting ∨ t.state = .connected then t
  else enqueue { t with state := .connecting } .resolve

def start : TcpTransport Address :=
  if t.mSock = none then t.connect else add { t with state := .connected } .process

/-- The addresses, or `none` when the name cannot be resolved. -/
def resolve (resolved : Option (List Address)) : TcpTransport Address :=
  let t := { t with mResolved := [] }
  if t.state ≠ .connecting then t
  else
    match resolved with
    | none => { t with state := .failed }
    | some addresses => enqueue { t with mResolved := addresses } .attempt

/-- True when the socket was created and `::connect` was called; false for an exception. -/
def createSocket (outcome : Outcome) : Bool × TcpTransport Address :=
  match outcome with
  | .noSocket => (false, { t with mSock := none })
  | .failed sock =>
    let t := { t with mSock := some sock, opened := t.opened ++ [sock] }
    (false, { t.closesocket t.mSock with mSock := none })
  | .created sock => (true, { t with mSock := some sock, opened := t.opened ++ [sock] })

def attempt (outcome : Outcome) : TcpTransport Address :=
  if t.state ≠ .connecting then t
  else
    let t := if t.mSock = none then { t.closesocket t.mSock with mSock := none } else t
    match t.mResolved with
    | [] => { t with state := .failed }
    | _ :: rest =>
      match createSocket { t with mResolved := rest } outcome with
      | (false, t) => t.enqueue .attempt
      | (true, t) => t.add .connecting

/-- The callback of `attempt`. -/
def connecting (event : Event) : TcpTransport Address :=
  match event with
  | .out false => add { t with state := .connected } .process
  | .in => t
  | .error | .timeout | .out true => t.remove.enqueue .attempt

/-- `process`, as far as it concerns the socket. Data that cannot be received or sent (`lost`) ends the
connection. -/
def process (event : Event) (lost : Bool) : TcpTransport Address :=
  match event with
  | .timeout => t.add .process
  | .error => { t.remove with state := .disconnected }
  | .in | .out _ => if lost then { t.remove with state := .disconnected } else t

/-- The poll service finds the socket registered, and reports on it. -/
def event (sock : Nat) (event : Event) (lost : Bool) : TcpTransport Address :=
  let dropped := { t with polls := if event.final then Function.update t.polls sock none else t.polls }
  match t.polls sock with
  | none => t
  | some .connecting => dropped.connecting event
  | some .process => dropped.process event lost

/-- The destructor. -/
def close : TcpTransport Address :=
  match t.mSock with
  | none => { t with state := .disconnected }
  | some sock => { t.remove.closesocket (some sock) with mSock := none, state := .disconnected }

end TcpTransport

inductive Label (Address : Type) where
  | start
  | resolve (resolved : Option (List Address))
  | attempt (outcome : Outcome)
  | event (sock : Nat) (event : Event) (lost : Bool)
  /-- `setPoll` in a call of `send`. -/
  | sending
  | destroy
  deriving DecidableEq, Repr

/-- The system does not give out the number of an open socket. -/
def Outcome.Fresh (outcome : Outcome) (opened : List Nat) : Prop :=
  match outcome with
  | .noSocket => True
  | .failed sock | .created sock => sock ∉ opened

instance (outcome : Outcome) (opened : List Nat) : Decidable (outcome.Fresh opened) :=
  match outcome with
  | .noSocket => .isTrue trivial
  | .failed sock | .created sock => inferInstanceAs (Decidable (sock ∉ opened))

inductive Step {Address : Type} (t : TcpTransport Address) : Label Address → TcpTransport Address → Prop where
  | start : t.destroyed = false → Step t .start t.start
  | resolve (resolved : Option (List Address)) : t.destroyed = false → .resolve ∈ t.pool →
      Step t (.resolve resolved) (TcpTransport.resolve { t with pool := t.pool.erase .resolve } resolved)
  | attempt (outcome : Outcome) : t.destroyed = false → .attempt ∈ t.pool → outcome.Fresh t.opened →
      Step t (.attempt outcome) (TcpTransport.attempt { t with pool := t.pool.erase .attempt } outcome)
  | event (sock : Nat) (event : Event) (lost : Bool) : t.destroyed = false → (t.polls sock).isSome →
      Step t (.event sock event lost) (t.event sock event lost)
  | sending : t.destroyed = false → t.state = .connected → Step t .sending (t.add .process)
  | destroy : t.destroyed = false → Step t .destroy { t.close with destroyed := true }

def TcpTransport.new {Address : Type} : TcpTransport Address where
  state := .disconnected
  mSock := none
  mResolved := []
  pool := []
  polls := fun _ => none
  opened := []
  destroyed := false

section
variable {Address : Type}

/-- The open socket is the one in `mSock`, and a destroyed transport has none. -/
structure Kept (t : TcpTransport Address) : Prop where
  one : t.opened.length ≤ 1
  stored : ∀ sock ∈ t.opened, t.mSock = some sock
  closed : t.destroyed = true → t.opened = []

/-- `attempt` comes to `createSocket` without a socket in `mSock`. -/
def Vacant (t : TcpTransport Address) (label : Label Address) : Prop :=
  ∀ outcome, label = .attempt outcome → t.state = .connecting → t.mResolved ≠ [] → t.mSock = none

structure Inv (t : TcpTransport Address) : Prop where
  opened : t.opened = t.mSock.toList
  destroyed : t.destroyed = true → t.mSock = none

theorem Inv.kept {t : TcpTransport Address} (inv : Inv t) : Kept t := by
  have opened := inv.opened
  refine ⟨?_, ?_, ?_⟩
  · rw [opened]
    cases t.mSock <;> simp
  · intro sock member
    rw [opened] at member
    exact Option.mem_toList.mp member
  · intro destroyed
    rw [opened, inv.destroyed destroyed]
    rfl

/-- A step that neither opens nor closes a socket. -/
structure SameSocket (t next : TcpTransport Address) : Prop where
  mSock : next.mSock = t.mSock
  opened : next.opened = t.opened
  destroyed : next.destroyed = t.destroyed

theorem SameSocket.trans {t next later : TcpTransport Address} (first : SameSocket t next)
    (second : SameSocket next later) : SameSocket t later :=
  ⟨second.mSock.trans first.mSock, second.opened.trans first.opened, second.destroyed.trans first.destroyed⟩

theorem Inv.of_same {t next : TcpTransport Address} (inv : Inv t) (same : SameSocket t next) : Inv next where
  opened := by rw [same.opened, same.mSock, inv.opened]
  destroyed destroyed := by
    rw [same.mSock]
    exact inv.destroyed (same.destroyed.symm.trans destroyed)

namespace TcpTransport

theorem add_same (t : TcpTransport Address) (callback : Callback) : SameSocket t (t.add callback) := by
  unfold add
  split <;> exact ⟨rfl, rfl, rfl⟩

theorem remove_same (t : TcpTransport Address) : SameSocket t t.remove := by
  unfold remove
  split <;> exact ⟨rfl, rfl, rfl⟩

theorem start_same (t : TcpTransport Address) : SameSocket t t.start := by
  unfold start connect
  split
  · split <;> exact ⟨rfl, rfl, rfl⟩
  · exact (⟨rfl, rfl, rfl⟩ : SameSocket t { t with state := .connected }).trans (add_same _ _)

theorem resolve_same (t : TcpTransport Address) (resolved : Option (List Address)) :
    SameSocket t (t.resolve resolved) := by
  unfold resolve
  simp only
  split
  · exact ⟨rfl, rfl, rfl⟩
  · split <;> exact ⟨rfl, rfl, rfl⟩

theorem connecting_same (t : TcpTransport Address) (event : Event) : SameSocket t (t.connecting event) := by
  have removed : SameSocket t (t.remove.enqueue .attempt) :=
    (remove_same t).trans ⟨rfl, rfl, rfl⟩
  unfold connecting
  split
  · exact (⟨rfl, rfl, rfl⟩ : SameSocket t { t with state := .connected }).trans (add_same _ _)
  · exact ⟨rfl, rfl, rfl⟩
  · exact removed
  · exact removed
  · exact removed

theorem process_same (t : TcpTransport Address) (event : Event) (lost : Bool) :
    SameSocket t (t.process event lost) := by
  have gone : SameSocket t { t.remove with state := .disconnected } := (remove_same t).trans ⟨rfl, rfl, rfl⟩
  have either : SameSocket t (if lost then { t.remove with state := .disconnected } else t) := by
    split
    · exact gone
    · exact ⟨rfl, rfl, rfl⟩
  unfold process
  split
  · exact add_same t _
  · exact gone
  · exact either
  · exact either

theorem event_same (t : TcpTransport Address) (sock : Nat) (event : Event) (lost : Bool) :
    SameSocket t (t.event sock event lost) := by
  let dropped := { t with polls := if event.final then Function.update t.polls sock none else t.polls }
  have same : SameSocket t dropped := ⟨rfl, rfl, rfl⟩
  unfold TcpTransport.event
  simp only
  split
  · exact ⟨rfl, rfl, rfl⟩
  · exact same.trans (connecting_same dropped event)
  · exact same.trans (process_same dropped event lost)

theorem close_inv {t : TcpTransport Address} (inv : Inv t) : Inv { t.close with destroyed := true } := by
  have opened := inv.opened
  unfold close
  cases stored : t.mSock with
  | none =>
    rw [stored] at opened
    exact ⟨opened, fun _ => rfl⟩
  | some sock =>
    rw [stored] at opened
    refine ⟨?_, fun _ => rfl⟩
    simp [closesocket, (remove_same t).opened, opened]

theorem createSocket_inv {t : TcpTransport Address} (inv : Inv t) (alive : t.destroyed = false)
    (vacant : t.mSock = none) (outcome : Outcome) : Inv (t.createSocket outcome).2 := by
  have opened : t.opened = [] := by rw [inv.opened, vacant]; rfl
  have dead : t.destroyed = true → False := by simp [alive]
  cases outcome with
  | noSocket => exact ⟨opened, fun _ => rfl⟩
  | failed sock => exact ⟨by simp [createSocket, closesocket, opened], fun _ => rfl⟩
  | created sock => exact ⟨by simp [createSocket, opened], fun destroyed => (dead destroyed).elim⟩

theorem createSocket_leaks {t : TcpTransport Address} (inv : Inv t) {sock : Nat} (stored : t.mSock = some sock)
    {outcome : Outcome} (fresh : outcome.Fresh t.opened) : ¬Kept (t.createSocket outcome).2 := by
  have opened : t.opened = [sock] := by rw [inv.opened, stored]; rfl
  intro kept
  cases outcome with
  | noSocket => exact absurd (kept.stored sock (by simp [createSocket, opened])) (by simp [createSocket])
  | failed other =>
    have different : other ≠ sock := by simpa [Outcome.Fresh, opened] using fresh
    have left : sock ∈ (t.createSocket (.failed other)).2.opened := by
      simp [createSocket, closesocket, opened, Ne.symm different]
    exact absurd (kept.stored sock left) (by simp [createSocket])
  | created other => exact absurd kept.one (by simp [createSocket, opened])

theorem attempt_cases (t : TcpTransport Address) (outcome : Outcome) :
    (¬(t.state = .connecting ∧ t.mResolved ≠ []) ∧ SameSocket t (t.attempt outcome)) ∨
      (t.state = .connecting ∧ t.mResolved ≠ [] ∧ ∃ before, SameSocket t before ∧
        SameSocket (createSocket before outcome).2 (t.attempt outcome)) := by
  unfold attempt
  by_cases connecting : t.state = .connecting
  · rw [if_neg (not_not.mpr connecting)]
    have closed : ∃ before, SameSocket t before ∧ before.mResolved = t.mResolved ∧
        (if t.mSock = none then { t.closesocket t.mSock with mSock := none } else t) = before := by
      by_cases vacant : t.mSock = none
      · rw [if_pos vacant, vacant]
        exact ⟨{ t.closesocket none with mSock := none }, ⟨vacant.symm, rfl, rfl⟩, rfl, rfl⟩
      · rw [if_neg vacant]
        exact ⟨t, ⟨rfl, rfl, rfl⟩, rfl, rfl⟩
    obtain ⟨before, same, resolved, shape⟩ := closed
    simp only [shape]
    cases addresses : before.mResolved with
    | nil =>
      refine .inl ⟨fun both => both.2 (resolved.symm.trans addresses), ?_⟩
      exact same.trans ⟨rfl, rfl, rfl⟩
    | cons address rest =>
      refine .inr ⟨connecting, by simp [← resolved, addresses], { before with mResolved := rest },
        same.trans ⟨rfl, rfl, rfl⟩, ?_⟩
      simp only
      split
      · rename_i created next result
        rw [result]
        exact ⟨rfl, rfl, rfl⟩
      · rename_i created next result
        rw [result]
        exact add_same next _
  · rw [if_pos connecting]
    exact .inl ⟨fun both => connecting both.1, rfl, rfl, rfl⟩

end TcpTransport

theorem keeps_inv (t : TcpTransport Address) (label : Label Address) (next : TcpTransport Address) (inv : Inv t)
    (step : Step t label next) (vacant : Vacant t label) : Inv next := by
  cases step with
  | start alive => exact inv.of_same t.start_same
  | resolve resolved alive pending =>
    have taken : SameSocket t { t with pool := t.pool.erase .resolve } := ⟨rfl, rfl, rfl⟩
    exact inv.of_same (taken.trans (TcpTransport.resolve_same _ resolved))
  | attempt outcome alive pending fresh =>
    have taken : SameSocket t { t with pool := t.pool.erase .attempt } := ⟨rfl, rfl, rfl⟩
    rcases TcpTransport.attempt_cases { t with pool := t.pool.erase .attempt } outcome with
      ⟨_, same⟩ | ⟨connecting, resolved, before, same, after⟩
    · exact inv.of_same (taken.trans same)
    · have none := vacant outcome rfl connecting resolved
      have there := taken.trans same
      have created := TcpTransport.createSocket_inv (inv.of_same there) (there.destroyed.trans alive)
        (there.mSock.trans none) outcome
      exact created.of_same after
  | event sock event lost alive registered => exact inv.of_same (t.event_same sock event lost)
  | sending alive connected => exact inv.of_same (t.add_same _)
  | destroy alive => exact TcpTransport.close_inv inv

theorem breaks_kept (t : TcpTransport Address) (label : Label Address) (next : TcpTransport Address) (inv : Inv t)
    (step : Step t label next) (against : ¬Vacant t label) : ¬Kept next := by
  unfold Vacant at against
  push Not at against
  obtain ⟨outcome, rfl, connecting, resolved, stored⟩ := against
  obtain ⟨sock, stored⟩ := Option.ne_none_iff_exists'.mp stored
  cases step with
  | attempt _ alive pending fresh =>
    have taken : SameSocket t { t with pool := t.pool.erase .attempt } := ⟨rfl, rfl, rfl⟩
    rcases TcpTransport.attempt_cases { t with pool := t.pool.erase .attempt } outcome with
      ⟨skipped, _⟩ | ⟨_, _, before, same, after⟩
    · exact absurd ⟨connecting, resolved⟩ skipped
    · have there := taken.trans same
      have leaks := TcpTransport.createSocket_leaks (inv.of_same there) (there.mSock.trans stored)
        (there.opened ▸ fresh)
      intro kept
      refine leaks ⟨?_, ?_, ?_⟩
      · rw [← after.opened]
        exact kept.one
      · intro other member
        rw [← after.opened] at member
        rw [← after.mSock]
        exact kept.stored other member
      · intro destroyed
        rw [← after.opened]
        exact kept.closed (after.destroyed.trans destroyed)

theorem new_inv : Inv (TcpTransport.new : TcpTransport Address) := ⟨rfl, fun _ => rfl⟩

/-- No socket is lost in a run, exactly when no attempt is made over a socket that is still in `mSock`. -/
theorem kept_iff (trace : List (Label Address × TcpTransport Address)) (run : Run Step TcpTransport.new trace) :
    Always Kept TcpTransport.new trace ↔ Guarded Vacant TcpTransport.new trace :=
  always_iff (fun _ inv => inv.kept) keeps_inv breaks_kept trace _ new_inv run

end

/-- The first address fails at once, the second one is connected to. -/
def secondConnects : List (Label Nat × TcpTransport Nat) :=
  let one := TcpTransport.new.start
  let two := TcpTransport.resolve { one with pool := [] } (some [4, 6])
  let three := TcpTransport.attempt { two with pool := [] } (.failed 3)
  let four := TcpTransport.attempt { three with pool := [] } (.created 3)
  let five := four.event 3 (.out false) false
  [(.start, one), (.resolve (some [4, 6]), two), (.attempt (.failed 3), three), (.attempt (.created 3), four),
    (.event 3 (.out false) false, five), (.destroy, { five.close with destroyed := true })]

theorem kept_secondConnects :
    Always Kept TcpTransport.new secondConnects ↔ Guarded Vacant TcpTransport.new secondConnects :=
  kept_iff secondConnects ⟨.start rfl, .resolve _ rfl (by decide), .attempt _ rfl (by decide) (by decide),
    .attempt _ rfl (by decide) (by decide), .event _ _ _ rfl (by decide), .destroy rfl, trivial⟩

/-- The first address does not answer, and its socket stays open while the second one is attempted. -/
def firstTimesOut : List (Label Nat × TcpTransport Nat) :=
  let one := TcpTransport.new.start
  let two := TcpTransport.resolve { one with pool := [] } (some [4, 6])
  let three := TcpTransport.attempt { two with pool := [] } (.created 3)
  let four := three.event 3 .timeout false
  let five := TcpTransport.attempt { four with pool := [] } (.created 5)
  [(.start, one), (.resolve (some [4, 6]), two), (.attempt (.created 3), three), (.event 3 .timeout false, four),
    (.attempt (.created 5), five)]

theorem firstTimesOut_not_kept : ¬∀ trace : List (Label Nat × TcpTransport Nat), Run Step TcpTransport.new trace →
    Always Kept TcpTransport.new trace := by
  intro all
  have run : Run Step TcpTransport.new firstTimesOut :=
    ⟨.start rfl, .resolve _ rfl (by decide), .attempt _ rfl (by decide) (by decide), .event _ _ _ rfl (by decide),
      .attempt _ rfl (by decide) (by decide), trivial⟩
  exact absurd (all firstTimesOut run).last.one (by decide)

end WebsocketClient.TcpConnects
