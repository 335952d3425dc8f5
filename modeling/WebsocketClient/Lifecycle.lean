import WebsocketClient.Library.Threads
import WebsocketClient.Transport
import WebsocketClient.WebSocketState

/-! The life of one connection of `WebSocket`, from `open` on. Any number of threads call `close`
and `remoteClose`, the state callbacks of the `TcpTransport` and of the `WsTransport` above it, and
the task of the connection timeout. Every load, store and exchange of the state and of a transport
pointer is one step. There is neither a proxy nor TLS between the two transports. -/

namespace WebsocketClient.Lifecycles
open WebSocketStates Library.Threads Library.Runs

inductive Layer where
  | tcp
  | ws
  deriving DecidableEq, Repr

inductive Event (T : Type) where
  /-- An exchange that changed the state. -/
  | moved (thread : T) (state : State)
  | triggerOpen
  | triggerClosed
  deriving DecidableEq, Repr

variable {T : Type}

structure Shared (T : Type) where
  state : State
  /-- Whether `mTcpTransport` and `mWsTransport` are set. -/
  pointer : Layer → Bool
  /-- Whether the transport has its state callback, and who holds the recursive mutex of that. -/
  callback : Layer → Bool
  owner : Layer → Option T
  /-- The transport may change its state on a thread of the network. The `TcpTransport` does once it
  is started, the `WsTransport` when the poll thread is back from starting it. -/
  live : Layer → Bool
  /-- The thread that the one connection of the `TcpTransport` is told on. -/
  connected : Option T
  /-- What has happened, the last event first. -/
  events : List (Event T)

namespace Shared
variable (s : Shared T)

def setPointer (layer : Layer) (set : Bool) : Shared T :=
  { s with pointer := Function.update s.pointer layer set }

def setCallback (layer : Layer) (set : Bool) : Shared T :=
  { s with callback := Function.update s.callback layer set }

def setOwner (layer : Layer) (owner : Option T) : Shared T :=
  { s with owner := Function.update s.owner layer owner }

def setLive (layer : Layer) : Shared T := { s with live := Function.update s.live layer true }

def log (event : Event T) : Shared T := { s with events := event :: s.events }

/-- `changeState`, which tells whether it changes the state. -/
def changeState (t : T) (newState : State) : Shared T :=
  if s.state = newState then s else { s with state := newState, events := .moved t newState :: s.events }

end Shared

inductive Pc where
  /-- The function is over; with nothing to return to the thread is idle. -/
  | done
  | closeLoad
  | closeExchange
  | closeLoadWs
  | remoteLoad
  | closedExchange
  | exchangeWs
  | exchangeTcp (taken : List Layer)
  /-- The transports whose callbacks are still to be reset. -/
  | reset (transports : List Layer)
  | triggerClosed
  /-- Before the mutex of a state callback, with the new state of the transport. -/
  | enter (layer : Layer) (newState : Transports.State)
  | openLoad
  | openExchange
  | triggerOpen
  /-- `if (state == WebSocket::State::Connecting) remoteClose();` -/
  | ifConnecting
  | setTcp
  | initLoad
  | initLower
  | store (layer : Layer)
  | start (layer : Layer)
  | check (layer : Layer)
  | clear (layer : Layer) (thrown : Bool)
  | stop (layer : Layer)
  deriving DecidableEq, Repr

inductive Return where
  /-- `close` was called by `remoteClose`. -/
  | remoteClose
  /-- The call was made by a state callback, whose mutex is held. -/
  | leave (layer : Layer)
  /-- An exception is on its way to the handler, which calls `remoteClose`. -/
  | thrown
  /-- A `WsTransport` is destroyed, which stops the transport below. -/
  | destroy
  deriving DecidableEq, Repr

structure Place where
  pc : Pc
  stack : List Return
  deriving DecidableEq, Repr

def Place.remoteClose (stack : List Return) : Place := ⟨.closeLoad, .remoteClose :: stack⟩

/-- The state callbacks. -/
def Place.callback (stack : List Return) : Layer → Transports.State → Place
  | .tcp, .connected => ⟨.initLoad, stack⟩
  | .tcp, .failed => .remoteClose stack
  | .tcp, .disconnected => ⟨.ifConnecting, stack⟩
  | .ws, .connected => ⟨.openLoad, stack⟩
  | .ws, .failed | .ws, .disconnected => .remoteClose stack
  | _, _ => ⟨.done, stack⟩

/-- `emplaceTransport` stops a transport that it does not keep. -/
def Place.discard (stack : List Return) : Layer → Place
  | .tcp => ⟨.stop .tcp, stack⟩
  | .ws => ⟨.stop .ws, .destroy :: stack⟩

inductive Action where
  | close
  | remoteClose
  | timeout
  | changed (layer : Layer) (newState : Transports.State)
  | step
  /-- Starting the transport throws, or its CLOSE cannot be sent. -/
  | fail
  deriving DecidableEq, Repr

inductive ThreadStep (t : T) : Shared T → Place → Action → Shared T → Place → Prop where
  | close (s : Shared T) : ThreadStep t s ⟨.done, []⟩ .close s ⟨.closeLoad, []⟩
  | remoteClose (s : Shared T) : ThreadStep t s ⟨.done, []⟩ .remoteClose s (.remoteClose [])
  | timeout (s : Shared T) : ThreadStep t s ⟨.done, []⟩ .timeout s ⟨.ifConnecting, []⟩
  | connected (s : Shared T) : s.live .tcp = true → s.connected = none →
      ThreadStep t s ⟨.done, []⟩ (.changed .tcp .connected)
        { s with connected := some t } ⟨.enter .tcp .connected, []⟩
  | changed (s : Shared T) (layer : Layer) (newState : Transports.State) : s.live layer = true →
      layer = .ws ∨ newState ≠ .connected →
      ThreadStep t s ⟨.done, []⟩ (.changed layer newState) s ⟨.enter layer newState, []⟩
  -- `WebSocket::close`
  | closeLoad (s : Shared T) (stack : List Return) : s.state = .connecting ∨ s.state = .open →
      ThreadStep t s ⟨.closeLoad, stack⟩ .step s ⟨.closeExchange, stack⟩
  | closeLoadPast (s : Shared T) (stack : List Return) : s.state = .closing ∨ s.state = .closed →
      ThreadStep t s ⟨.closeLoad, stack⟩ .step s ⟨.done, stack⟩
  | closeExchange (s : Shared T) (stack : List Return) :
      ThreadStep t s ⟨.closeExchange, stack⟩ .step (s.changeState t .closing) ⟨.closeLoadWs, stack⟩
  | closeLoadWs (s : Shared T) (stack : List Return) : s.pointer .ws = true →
      ThreadStep t s ⟨.closeLoadWs, stack⟩ .step s ⟨.stop .ws, stack⟩
  | closeLoadNull (s : Shared T) (stack : List Return) : s.pointer .ws = false →
      ThreadStep t s ⟨.closeLoadWs, stack⟩ .step s (.remoteClose stack)
  -- `WebSocket::remoteClose`
  | closed (s : Shared T) (stack : List Return) :
      ThreadStep t s ⟨.done, .remoteClose :: stack⟩ .step s ⟨.remoteLoad, stack⟩
  | remoteLoad (s : Shared T) (stack : List Return) : s.state ≠ .closed →
      ThreadStep t s ⟨.remoteLoad, stack⟩ .step s ⟨.closedExchange, stack⟩
  | remoteLoadClosed (s : Shared T) (stack : List Return) : s.state = .closed →
      ThreadStep t s ⟨.remoteLoad, stack⟩ .step s ⟨.done, stack⟩
  -- `WebSocket::closeTransports`
  | closedExchange (s : Shared T) (stack : List Return) : s.state ≠ .closed →
      ThreadStep t s ⟨.closedExchange, stack⟩ .step (s.changeState t .closed) ⟨.exchangeWs, stack⟩
  | alreadyClosed (s : Shared T) (stack : List Return) : s.state = .closed →
      ThreadStep t s ⟨.closedExchange, stack⟩ .step (s.changeState t .closed) ⟨.done, stack⟩
  | exchangeWs (s : Shared T) (stack : List Return) :
      ThreadStep t s ⟨.exchangeWs, stack⟩ .step (s.setPointer .ws false)
        ⟨.exchangeTcp (if s.pointer .ws then [.ws] else []), stack⟩
  | exchangeTcp (s : Shared T) (taken : List Layer) (stack : List Return) :
      ThreadStep t s ⟨.exchangeTcp taken, stack⟩ .step (s.setPointer .tcp false)
        ⟨.reset (taken ++ if s.pointer .tcp then [.tcp] else []), stack⟩
  | reset (s : Shared T) (layer : Layer) (rest : List Layer) (stack : List Return) :
      s.owner layer = none ∨ s.owner layer = some t →
      ThreadStep t s ⟨.reset (layer :: rest), stack⟩ .step (s.setCallback layer false) ⟨.reset rest, stack⟩
  | resetDone (s : Shared T) (stack : List Return) :
      ThreadStep t s ⟨.reset [], stack⟩ .step s ⟨.triggerClosed, stack⟩
  | triggerClosed (s : Shared T) (stack : List Return) :
      ThreadStep t s ⟨.triggerClosed, stack⟩ .step (s.log .triggerClosed) ⟨.done, stack⟩
  -- `synchronized_callback::operator()`
  | enter (s : Shared T) (layer : Layer) (newState : Transports.State) (stack : List Return) :
      s.owner layer = none ∨ s.owner layer = some t → s.callback layer = true →
      ThreadStep t s ⟨.enter layer newState, stack⟩ .step (s.setOwner layer (some t))
        (.callback (.leave layer :: stack) layer newState)
  | enterReset (s : Shared T) (layer : Layer) (newState : Transports.State) (stack : List Return) :
      s.owner layer = none ∨ s.owner layer = some t → s.callback layer = false →
      ThreadStep t s ⟨.enter layer newState, stack⟩ .step s ⟨.done, stack⟩
  | leave (s : Shared T) (layer : Layer) (stack : List Return) :
      ThreadStep t s ⟨.done, .leave layer :: stack⟩ .step
        (s.setOwner layer (if .leave layer ∈ stack then some t else none)) ⟨.done, stack⟩
  -- The state callback of the `WsTransport`
  | openLoad (s : Shared T) (stack : List Return) : s.state = .connecting →
      ThreadStep t s ⟨.openLoad, stack⟩ .step s ⟨.openExchange, stack⟩
  | openLoadPast (s : Shared T) (stack : List Return) : s.state ≠ .connecting →
      ThreadStep t s ⟨.openLoad, stack⟩ .step s ⟨.done, stack⟩
  | openExchange (s : Shared T) (stack : List Return) : s.state ≠ .open →
      ThreadStep t s ⟨.openExchange, stack⟩ .step (s.changeState t .open) ⟨.triggerOpen, stack⟩
  | alreadyOpen (s : Shared T) (stack : List Return) : s.state = .open →
      ThreadStep t s ⟨.openExchange, stack⟩ .step (s.changeState t .open) ⟨.done, stack⟩
  | triggerOpen (s : Shared T) (stack : List Return) :
      ThreadStep t s ⟨.triggerOpen, stack⟩ .step (s.log .triggerOpen) ⟨.done, stack⟩
  | ifConnecting (s : Shared T) (stack : List Return) : s.state = .connecting →
      ThreadStep t s ⟨.ifConnecting, stack⟩ .step s (.remoteClose stack)
  | ifConnectingPast (s : Shared T) (stack : List Return) : s.state ≠ .connecting →
      ThreadStep t s ⟨.ifConnecting, stack⟩ .step s ⟨.done, stack⟩
  -- `setTcpTransport` and `initWsTransport`
  | setTcp (s : Shared T) (stack : List Return) : s.pointer .tcp = false →
      ThreadStep t s ⟨.setTcp, stack⟩ .step (s.setCallback .tcp true) ⟨.store .tcp, stack⟩
  | setTcpSet (s : Shared T) (stack : List Return) : s.pointer .tcp = true →
      ThreadStep t s ⟨.setTcp, stack⟩ .step s (.remoteClose stack)
  | initLoad (s : Shared T) (stack : List Return) : s.pointer .ws = false →
      ThreadStep t s ⟨.initLoad, stack⟩ .step s ⟨.initLower, stack⟩
  | initLoadSet (s : Shared T) (stack : List Return) : s.pointer .ws = true →
      ThreadStep t s ⟨.initLoad, stack⟩ .step s ⟨.done, stack⟩
  | initLower (s : Shared T) (stack : List Return) : s.pointer .tcp = true →
      ThreadStep t s ⟨.initLower, stack⟩ .step (s.setCallback .ws true) ⟨.store .ws, stack⟩
  | initLowerNull (s : Shared T) (stack : List Return) : s.pointer .tcp = false →
      ThreadStep t s ⟨.initLower, stack⟩ .step s (.remoteClose stack)
  -- `emplaceTransport`
  | store (s : Shared T) (layer : Layer) (stack : List Return) :
      ThreadStep t s ⟨.store layer, stack⟩ .step (s.setPointer layer true) ⟨.start layer, stack⟩
  | startTcp (s : Shared T) (stack : List Return) :
      ThreadStep t s ⟨.start .tcp, stack⟩ .step (s.setLive .tcp) ⟨.check .tcp, stack⟩
  | startWs (s : Shared T) (stack : List Return) :
      ThreadStep t s ⟨.start .ws, stack⟩ .step s ⟨.check .ws, stack⟩
  | startFails (s : Shared T) (layer : Layer) (stack : List Return) :
      ThreadStep t s ⟨.start layer, stack⟩ .fail s ⟨.clear layer true, stack⟩
  | checkTcp (s : Shared T) (stack : List Return) : s.state ≠ .closed →
      ThreadStep t s ⟨.check .tcp, stack⟩ .step s ⟨.done, stack⟩
  | checkWs (s : Shared T) (stack : List Return) : s.state ≠ .closed →
      ThreadStep t s ⟨.check .ws, stack⟩ .step (s.setLive .ws) ⟨.done, stack⟩
  | checkClosed (s : Shared T) (layer : Layer) (stack : List Return) : s.state = .closed →
      ThreadStep t s ⟨.check layer, stack⟩ .step s ⟨.clear layer false, stack⟩
  | clear (s : Shared T) (layer : Layer) (thrown : Bool) (stack : List Return) :
      ThreadStep t s ⟨.clear layer thrown, stack⟩ .step (s.setPointer layer false)
        (.discard (if thrown then .thrown :: stack else stack) layer)
  | thrown (s : Shared T) (stack : List Return) :
      ThreadStep t s ⟨.done, .thrown :: stack⟩ .step s (.remoteClose stack)
  | destroy (s : Shared T) (stack : List Return) :
      ThreadStep t s ⟨.done, .destroy :: stack⟩ .step s ⟨.stop .tcp, stack⟩
  | stop (s : Shared T) (layer : Layer) (stack : List Return) :
      ThreadStep t s ⟨.stop layer, stack⟩ .step s ⟨.done, stack⟩
  | stopDisconnects (s : Shared T) (layer : Layer) (stack : List Return) :
      ThreadStep t s ⟨.stop layer, stack⟩ .fail s ⟨.enter layer .disconnected, stack⟩

/-- `open` has made the state `Connecting` and goes on with the `TcpTransport`. -/
def initial [DecidableEq T] (opener : T) : System T (Shared T) Place where
  shared := {
    state := .connecting
    pointer := fun _ => false
    callback := fun _ => false
    owner := fun _ => none
    live := fun _ => false
    connected := none
    events := [] }
  place := fun t => if t = opener then ⟨.setTcp, []⟩ else ⟨.done, []⟩

/-- What may come after what. -/
def Follows : Event T → Event T → Prop
  | .moved _ next, .moved _ before => before.toNat < next.toNat
  | .triggerOpen, .triggerOpen | .triggerOpen, .triggerClosed => False
  | .triggerClosed, .triggerClosed => False
  | _, _ => True

/-- The state only moves forward; `triggerOpen` comes at most once and not after `triggerClosed`,
which comes at most once. -/
def Orderly (s : System T (Shared T) Place) : Prop := s.shared.events.Pairwise Follows

/-- The exchange of `close` or of the callback of the `WsTransport`, if it comes next, does not take
the state back. -/
def Forward (s : Shared T) (place : Place) : Prop :=
  match place.pc with
  | .closeExchange => s.state ≠ .closed
  | .openExchange => s.state = .connecting ∨ s.state = .open
  | _ => True

end WebsocketClient.Lifecycles
