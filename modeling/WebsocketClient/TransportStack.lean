import Mathlib.Algebra.Ring.Nat
import Mathlib.Logic.Function.Basic
import WebsocketClient.Library.Runs
import WebsocketClient.Transport
import WebsocketClient.WebSocketState

/-! The transports of a `WebSocket`, each created by the state callback of the one below it, and all
torn down by `closeTransports`. Calls and callbacks are executed one at a time. -/

namespace WebsocketClient.TransportStacks
open WebSocketStates Library.Runs

/-- `mTcpTransport`, `mProxyTransport`, `mTlsTransport` and `mWsTransport`. -/
inductive Layer where
  | tcp
  | proxy
  | tls
  | ws
  deriving DecidableEq, Repr

structure Transport where
  /-- Transports are numbered as they are created. -/
  number : Nat
  mLower : Option Nat
  /-- The call of `open` in which it was created. -/
  attempt : Nat
  deriving DecidableEq, Repr

structure WebSocket where
  state : State
  mIsSecure : Bool
  pointer : Layer → Option Transport
  created : Nat
  /-- How many times the state went to `Connecting`. -/
  attempt : Nat

/-- What happens while a transport starts: a callback may close the connection, and `start` may throw. -/
structure Outcome where
  closes : Bool
  throws : Bool
  deriving DecidableEq, Repr

namespace WebSocket

def store (s : WebSocket) (layer : Layer) (transport : Option Transport) : WebSocket :=
  { s with pointer := Function.update s.pointer layer transport }

def closeTransports (s : WebSocket) : WebSocket :=
  if s.state = .closed then s
  else ((({ s with state := .closed }).store .ws none).store .tls none).store .tcp none

/-- With a `WsTransport`, `close` leaves the rest to the peer when its CLOSE is `sent`. Otherwise
`remoteClose` is called, by `close` or by the state callback, whose own `close` then finds `Closing`. -/
def close (s : WebSocket) (sent : Bool) : WebSocket :=
  if s.state = .connecting ∨ s.state = .open then
    let s := { s with state := .closing }
    if (s.pointer .ws).isSome ∧ sent = true then s else s.closeTransports
  else s

def remoteClose (s : WebSocket) (sent : Bool) : WebSocket :=
  let s := s.close sent
  if s.state = .closed then s else s.closeTransports

/-- `emplaceTransport`, and the handler around it. -/
def emplaceTransport (s : WebSocket) (layer : Layer) (mLower : Option Nat) (outcome : Outcome) : WebSocket :=
  let s := { s.store layer (some ⟨s.created, mLower, s.attempt⟩) with created := s.created + 1 }
  let s := if outcome.closes then s.remoteClose true else s
  if outcome.throws then (s.store layer none).remoteClose true
  else if s.state = .closed then s.store layer none
  else s

def setTcpTransport (s : WebSocket) (outcome : Outcome) : WebSocket :=
  if (s.pointer .tcp).isSome then s.remoteClose true else s.emplaceTransport .tcp none outcome

/-- What the three functions below have in common. -/
def initTransport (s : WebSocket) (layer lower : Layer) (outcome : Outcome) : WebSocket :=
  if (s.pointer layer).isSome then s
  else match s.pointer lower with
    | none => s.remoteClose true
    | some transport => s.emplaceTransport layer (some transport.number) outcome

def initProxyTransport (s : WebSocket) (outcome : Outcome) : WebSocket := s.initTransport .proxy .tcp outcome

end WebSocket

/-- The transport that `TlsTransport` is made on. -/
def tlsLower (proxyServer : Bool) : Layer := if proxyServer then .proxy else .tcp

/-- The transport that `WsTransport` is made on. -/
def wsLower (proxyServer mIsSecure : Bool) : Layer :=
  if mIsSecure then .tls else if proxyServer then .proxy else .tcp

namespace WebSocket

def initTlsTransport (s : WebSocket) (proxyServer : Bool) (outcome : Outcome) : WebSocket :=
  s.initTransport .tls (tlsLower proxyServer) outcome

def initWsTransport (s : WebSocket) (proxyServer : Bool) (outcome : Outcome) : WebSocket :=
  s.initTransport .ws (wsLower proxyServer s.mIsSecure) outcome

/-- `open` with a valid URL; it throws unless the state is `Closed`. -/
def «open» (s : WebSocket) (secure : Bool) (outcome : Outcome) : WebSocket :=
  if s.state = .closed then
    { s with mIsSecure := secure, state := .connecting, attempt := s.attempt + 1 }.setTcpTransport outcome
  else s

/-- The state callbacks of the transports for `Connected`. -/
def connected (s : WebSocket) (proxyServer : Bool) (outcome : Outcome) : Layer → WebSocket
  | .tcp =>
    if proxyServer then s.initProxyTransport outcome
    else if s.mIsSecure then s.initTlsTransport proxyServer outcome
    else s.initWsTransport proxyServer outcome
  | .proxy =>
    if s.mIsSecure then s.initTlsTransport proxyServer outcome else s.initWsTransport proxyServer outcome
  | .tls => s.initWsTransport proxyServer outcome
  | .ws => if s.state = .connecting then { s with state := .open } else s

/-- The state callbacks for `Disconnected`. -/
def disconnected (s : WebSocket) : Layer → WebSocket
  | .tcp | .proxy | .tls => if s.state = .connecting then s.remoteClose true else s
  | .ws => s.remoteClose true

def stateChange (s : WebSocket) (proxyServer : Bool) (layer : Layer) (outcome : Outcome) :
    Transports.State → WebSocket
  | .connected => s.connected proxyServer outcome layer
  | .failed => s.remoteClose true
  | .disconnected => s.disconnected layer
  | .connecting | .completed => s

end WebSocket

inductive Label where
  | «open» (secure : Bool) (outcome : Outcome)
  | close (sent : Bool)
  | remoteClose (sent : Bool)
  | stateChange (layer : Layer) (newState : Transports.State) (outcome : Outcome)
  deriving DecidableEq, Repr

/-- A transport that was let go of has no callback any more. -/
inductive Step (proxyServer : Bool) : WebSocket → Label → WebSocket → Prop where
  | «open» (s : WebSocket) (secure : Bool) (outcome : Outcome) :
      Step proxyServer s (.open secure outcome) (s.open secure outcome)
  | close (s : WebSocket) (sent : Bool) : Step proxyServer s (.close sent) (s.close sent)
  | remoteClose (s : WebSocket) (sent : Bool) : Step proxyServer s (.remoteClose sent) (s.remoteClose sent)
  | stateChange (s : WebSocket) (layer : Layer) (newState : Transports.State) (outcome : Outcome) :
      (s.pointer layer).isSome →
      Step proxyServer s (.stateChange layer newState outcome) (s.stateChange proxyServer layer outcome newState)

/-- A `WebSocket` before its first `open`. -/
def WebSocket.new (mIsSecure : Bool) : WebSocket where
  state := .closed
  mIsSecure := mIsSecure
  pointer := fun _ => none
  created := 0
  attempt := 0

/-- The layer below another one, as the configuration and the URL have it. -/
def below (proxyServer mIsSecure : Bool) : Layer → Option Layer
  | .tcp => none
  | .proxy => some .tcp
  | .tls => some (tlsLower proxyServer)
  | .ws => some (wsLower proxyServer mIsSecure)

def OnTop (s : WebSocket) (transport : Transport) : Option Layer → Prop
  | none => transport.mLower = none
  | some lower => ∃ other, s.pointer lower = some other ∧ transport.mLower = some other.number

structure Stacked (proxyServer : Bool) (s : WebSocket) : Prop where
  closed : s.state = .closed → ∀ layer, s.pointer layer = none
  fresh : ∀ layer transport, s.pointer layer = some transport → transport.attempt = s.attempt
  onTop : ∀ layer transport, s.pointer layer = some transport →
    OnTop s transport (below proxyServer s.mIsSecure layer)

/-- `initTransport` does not come to its end. -/
def Fails (s : WebSocket) (layer lower : Layer) (outcome : Outcome) : Prop :=
  s.pointer layer = none ∧ (s.pointer lower = none ∨ outcome.closes = true ∨ outcome.throws = true)

/-- The layer that the callback of a transport initialises when that is `Connected`. -/
def above (proxyServer mIsSecure : Bool) : Layer → Option Layer
  | .tcp => some (if proxyServer then .proxy else if mIsSecure then .tls else .ws)
  | .proxy => some (if mIsSecure then .tls else .ws)
  | .tls => some .ws
  | .ws => none

/-- The step of a connection that is not closed runs the body of `closeTransports`. -/
def Closes (proxyServer : Bool) (s : WebSocket) : Label → Prop
  | .open _ _ => False
  | .close sent => (s.state = .connecting ∨ s.state = .open) ∧ (s.pointer .ws = none ∨ sent = false)
  | .remoteClose _ => s.state ≠ .closed
  | .stateChange layer .connected outcome =>
    ∃ next lower, above proxyServer s.mIsSecure layer = some next ∧
      below proxyServer s.mIsSecure next = some lower ∧ Fails s next lower outcome
  | .stateChange _ .failed _ => s.state ≠ .closed
  | .stateChange layer .disconnected _ => (layer = .ws ∧ s.state ≠ .closed) ∨ s.state = .connecting
  | .stateChange _ _ _ => False

/-- The connection is closed without a proxy transport only. -/
def Unproxied (proxyServer : Bool) (s : WebSocket) (label : Label) : Prop :=
  Closes proxyServer s label → s.pointer .proxy = none

/-- What `closeTransports` leaves: all but the proxy transport is gone. -/
structure Torn (s next : WebSocket) : Prop where
  state : next.state = .closed
  pointer : ∀ layer, next.pointer layer = if layer = .proxy then s.pointer .proxy else none

namespace WebSocket

@[simp] theorem store_state (s : WebSocket) (layer : Layer) (transport : Option Transport) :
    (s.store layer transport).state = s.state := rfl

@[simp] theorem store_self (s : WebSocket) (layer : Layer) (transport : Option Transport) :
    (s.store layer transport).pointer layer = transport :=
  Function.update_self ..

theorem store_other (s : WebSocket) {layer other : Layer} (transport : Option Transport) (different : other ≠ layer) :
    (s.store layer transport).pointer other = s.pointer other :=
  Function.update_of_ne different ..

theorem closeTransports_closed {s : WebSocket} (closed : s.state = .closed) : s.closeTransports = s :=
  if_pos closed

theorem closeTransports_torn {s : WebSocket} (alive : s.state ≠ .closed) : Torn s s.closeTransports := by
  rw [closeTransports, if_neg alive]
  refine ⟨rfl, ?_⟩
  intro layer
  cases layer <;> rfl

@[simp] theorem closeTransports_state (s : WebSocket) : s.closeTransports.state = .closed := by
  by_cases closed : s.state = .closed
  · rw [closeTransports_closed closed, closed]
  · exact (closeTransports_torn closed).state

theorem closeTransports_congr {s : WebSocket} (alive : s.state ≠ .closed) :
    { s with state := .closing }.closeTransports = s.closeTransports := by
  rw [closeTransports, closeTransports, if_neg alive, if_neg State.noConfusion]

theorem remoteClose_eq (s : WebSocket) (sent : Bool) : s.remoteClose sent = s.closeTransports := by
  unfold remoteClose close
  split
  · rename_i live
    have alive : s.state ≠ .closed := by
      rcases live with state | state <;> simp [state]
    simp only
    split
    · rw [if_neg State.noConfusion, closeTransports_congr alive]
    · rw [if_pos (closeTransports_state _), closeTransports_congr alive]
  · simp only
    split
    · rename_i closed
      exact (closeTransports_closed closed).symm
    · rfl

theorem emplaceTransport_started {s : WebSocket} (alive : s.state ≠ .closed) (layer : Layer) (mLower : Option Nat)
    {outcome : Outcome} (starts : ¬(outcome.closes = true ∨ outcome.throws = true)) :
    s.emplaceTransport layer mLower outcome =
      { s.store layer (some ⟨s.created, mLower, s.attempt⟩) with created := s.created + 1 } := by
  obtain ⟨opens, returns⟩ := not_or.mp starts
  unfold emplaceTransport
  simp only
  rw [if_neg opens, if_neg returns]
  exact if_neg alive

theorem torn_store {s stored torn : WebSocket} {layer : Layer} (vacant : s.pointer layer = none)
    (others : ∀ other, other ≠ layer → stored.pointer other = s.pointer other) (torn_stored : Torn stored torn) :
    Torn s (torn.store layer none) := by
  refine ⟨torn_stored.state, ?_⟩
  intro other
  by_cases same : other = layer
  · subst same
    rw [store_self]
    split
    · rename_i proxy
      rw [← vacant, proxy]
    · rfl
  · rw [store_other _ _ same, torn_stored.pointer]
    split
    · rename_i proxy
      exact others .proxy (proxy ▸ same)
    · rfl

theorem emplaceTransport_failed {s : WebSocket} (alive : s.state ≠ .closed) {layer : Layer}
    (vacant : s.pointer layer = none) (mLower : Option Nat) {outcome : Outcome}
    (fails : outcome.closes = true ∨ outcome.throws = true) : Torn s (s.emplaceTransport layer mLower outcome) := by
  let stored := { s.store layer (some ⟨s.created, mLower, s.attempt⟩) with created := s.created + 1 }
  have others : ∀ other, other ≠ layer → stored.pointer other = s.pointer other :=
    fun other different => store_other s _ different
  have torn : Torn s (stored.closeTransports.store layer none) :=
    torn_store vacant others (closeTransports_torn alive)
  unfold emplaceTransport
  simp only [remoteClose_eq]
  by_cases closes : outcome.closes = true
  · rw [if_pos closes]
    split
    · rw [closeTransports_closed torn.state]
      exact torn
    · rw [if_pos (closeTransports_state _)]
      exact torn
  · have throws := fails.resolve_left closes
    rw [if_neg closes, if_pos throws]
    have taken := closeTransports_torn (s := stored.store layer none) alive
    refine ⟨taken.state, ?_⟩
    intro other
    rw [taken.pointer]
    by_cases same : layer = .proxy
    · subst same
      rw [store_self, vacant]
    · rw [store_other _ _ (Ne.symm same), others .proxy (Ne.symm same)]

theorem initTransport_cases {s : WebSocket} (alive : s.state ≠ .closed) (layer lower : Layer) (outcome : Outcome) :
    (Fails s layer lower outcome ∧ Torn s (s.initTransport layer lower outcome)) ∨
      (¬Fails s layer lower outcome ∧ (s.initTransport layer lower outcome = s ∨
        ∃ transport, s.pointer layer = none ∧ s.pointer lower = some transport ∧
          s.initTransport layer lower outcome =
            { s.store layer (some ⟨s.created, some transport.number, s.attempt⟩) with created := s.created + 1 })) := by
  unfold initTransport Fails
  cases vacant : s.pointer layer with
  | some transport => exact .inr ⟨by simp, .inl (if_pos rfl)⟩
  | none =>
    rw [if_neg (by simp)]
    cases base : s.pointer lower with
    | none =>
      refine .inl ⟨⟨rfl, .inl rfl⟩, ?_⟩
      simp only [remoteClose_eq]
      exact closeTransports_torn alive
    | some transport =>
      by_cases fails : outcome.closes = true ∨ outcome.throws = true
      · exact .inl ⟨⟨rfl, .inr fails⟩, emplaceTransport_failed alive vacant _ fails⟩
      · refine .inr ⟨?_, .inr ⟨transport, rfl, rfl, emplaceTransport_started alive layer _ fails⟩⟩
        simpa using fails

theorem connected_eq {proxyServer : Bool} {s : WebSocket} {layer next lower : Layer}
    (up : above proxyServer s.mIsSecure layer = some next) (down : below proxyServer s.mIsSecure next = some lower)
    (outcome : Outcome) : s.connected proxyServer outcome layer = s.initTransport next lower outcome := by
  cases layer with
  | ws => exact nomatch up
  | tcp | proxy | tls =>
    unfold connected initProxyTransport initTlsTransport initWsTransport
    simp only [above, Option.some.injEq] at up
    subst up
    cases proxyServer <;> cases secure : s.mIsSecure <;> simp_all [below]

end WebSocket

theorem exists_below {proxyServer mIsSecure : Bool} {layer next : Layer}
    (up : above proxyServer mIsSecure layer = some next) : ∃ lower, below proxyServer mIsSecure next = some lower := by
  cases next with
  | tcp =>
    cases layer <;> cases proxyServer <;> cases mIsSecure <;> exact nomatch up
  | proxy | tls | ws => exact ⟨_, rfl⟩

section
variable {proxyServer : Bool} {s next : WebSocket}

theorem Torn.stacked (torn : Torn s next) (unproxied : s.pointer .proxy = none) : Stacked proxyServer next := by
  have null : ∀ layer, next.pointer layer = none := by
    intro layer
    rw [torn.pointer]
    split
    · exact unproxied
    · rfl
  exact ⟨fun _ => null, fun layer transport stored => absurd stored (by simp [null]),
    fun layer transport stored => absurd stored (by simp [null])⟩

theorem Stacked.emplaced (inv : Stacked proxyServer s) (alive : s.state ≠ .closed) {layer : Layer}
    {mLower : Option Nat} (vacant : s.pointer layer = none)
    (onTop : OnTop s ⟨s.created, mLower, s.attempt⟩ (below proxyServer s.mIsSecure layer)) :
    Stacked proxyServer
      { s.store layer (some ⟨s.created, mLower, s.attempt⟩) with created := s.created + 1 } := by
  -- what another transport stands on is not the vacant layer
  have keeps : ∀ transport lower, OnTop s transport lower →
      OnTop { s.store layer (some ⟨s.created, mLower, s.attempt⟩) with created := s.created + 1 } transport lower := by
    intro transport lower stands
    cases lower with
    | none => exact stands
    | some lower =>
      obtain ⟨other, stored, same⟩ := stands
      have different : lower ≠ layer := by
        rintro rfl
        exact absurd (vacant.symm.trans stored) (by simp)
      exact ⟨other, (WebSocket.store_other s _ different).trans stored, same⟩
  refine ⟨fun closed => absurd closed alive, ?_, ?_⟩
  · intro other transport stored
    by_cases same : other = layer
    · subst same
      rw [← Option.some.inj ((WebSocket.store_self s other _).symm.trans stored)]
      rfl
    · exact inv.fresh other transport ((WebSocket.store_other s _ same).symm.trans stored)
  · intro other transport stored
    by_cases same : other = layer
    · subst same
      rw [← Option.some.inj ((WebSocket.store_self s other _).symm.trans stored)]
      exact keeps _ _ onTop
    · exact keeps _ _ (inv.onTop other transport ((WebSocket.store_other s _ same).symm.trans stored))

theorem Stacked.alive (inv : Stacked proxyServer s) {layer : Layer} (stored : (s.pointer layer).isSome) :
    s.state ≠ .closed := by
  intro closed
  rw [inv.closed closed layer] at stored
  exact absurd stored (by simp)

theorem Stacked.moved (inv : Stacked proxyServer s) {newState : State} (alive : newState ≠ .closed) :
    Stacked proxyServer { s with state := newState } :=
  ⟨fun closed => absurd closed alive, inv.fresh, inv.onTop⟩

theorem Stacked.open_cases (inv : Stacked proxyServer s) (closed : s.state = .closed) (secure : Bool)
    (outcome : Outcome) :
    let opened : WebSocket := { s with mIsSecure := secure, state := .connecting, attempt := s.attempt + 1 }
    Torn opened (s.open secure outcome) ∨ s.open secure outcome =
      { opened.store .tcp (some ⟨s.created, none, s.attempt + 1⟩) with created := s.created + 1 } := by
  intro opened
  have alive : opened.state ≠ .closed := State.noConfusion
  have vacant : opened.pointer .tcp = none := inv.closed closed .tcp
  rw [WebSocket.open, if_pos closed, WebSocket.setTcpTransport, if_neg (by simp [inv.closed closed])]
  by_cases fails : outcome.closes = true ∨ outcome.throws = true
  · exact .inl (WebSocket.emplaceTransport_failed alive vacant none fails)
  · exact .inr (WebSocket.emplaceTransport_started alive .tcp none fails)

theorem Stacked.open (inv : Stacked proxyServer s) (secure : Bool) (outcome : Outcome) :
    Stacked proxyServer (s.open secure outcome) := by
  by_cases closed : s.state = .closed
  · have null := inv.closed closed
    rcases inv.open_cases closed secure outcome with torn | started
    · exact torn.stacked (null .proxy)
    · rw [started]
      have fresh : Stacked proxyServer
          { s with mIsSecure := secure, state := .connecting, attempt := s.attempt + 1 } :=
        ⟨State.noConfusion, fun layer transport stored => absurd ((null layer).symm.trans stored) (by simp),
          fun layer transport stored => absurd ((null layer).symm.trans stored) (by simp)⟩
      exact fresh.emplaced State.noConfusion (null .tcp) rfl
  · rw [WebSocket.open, if_neg closed]
    exact inv

theorem step_torn (inv : Stacked proxyServer s) {label : Label} (step : Step proxyServer s label next)
    (closes : Closes proxyServer s label) : Torn s next := by
  cases step with
  | «open» secure outcome => exact closes.elim
  | close sent =>
    obtain ⟨live, unsent⟩ := closes
    have alive : s.state ≠ .closed := by
      rcases live with state | state <;> simp [state]
    have stops : ¬((s.pointer .ws).isSome ∧ sent = true) := by
      rintro ⟨stored, sends⟩
      rcases unsent with none | fails
      · simp [none] at stored
      · simp [fails] at sends
    rw [WebSocket.close, if_pos live]
    simp only
    rw [if_neg stops, WebSocket.closeTransports_congr alive]
    exact WebSocket.closeTransports_torn alive
  | remoteClose sent =>
    rw [WebSocket.remoteClose_eq]
    exact WebSocket.closeTransports_torn closes
  | stateChange layer newState outcome stored =>
    have alive := inv.alive stored
    have torn := WebSocket.closeTransports_torn alive
    cases newState with
    | connected =>
      obtain ⟨up, lower, isAbove, isBelow, fails⟩ := closes
      rw [WebSocket.stateChange, WebSocket.connected_eq isAbove isBelow]
      exact (WebSocket.initTransport_cases alive up lower outcome).elim And.right fun other => absurd fails other.1
    | failed =>
      rw [WebSocket.stateChange, WebSocket.remoteClose_eq]
      exact torn
    | disconnected =>
      unfold WebSocket.stateChange WebSocket.disconnected
      rcases closes with ⟨rfl, _⟩ | connecting
      · simp only [WebSocket.remoteClose_eq]
        exact torn
      · cases layer <;> simp only [WebSocket.remoteClose_eq, if_pos connecting] <;> exact torn
    | connecting | completed => exact closes.elim

/-- A step that does not close the connection opens it, changes its state at most, or puts a transport
on top of one that is stored. -/
theorem step_goesOn (inv : Stacked proxyServer s) {label : Label} (step : Step proxyServer s label next)
    (goesOn : ¬Closes proxyServer s label) :
    (∃ secure outcome, next = s.open secure outcome) ∨
      next = s ∨ (∃ newState, newState ≠ .closed ∧ next = { s with state := newState }) ∨
      ∃ source layer lower transport, above proxyServer s.mIsSecure source = some layer ∧
        below proxyServer s.mIsSecure layer = some lower ∧ s.state ≠ .closed ∧ s.pointer layer = none ∧
        s.pointer lower = some transport ∧
        next = { s.store layer (some ⟨s.created, some transport.number, s.attempt⟩) with
          created := s.created + 1 } := by
  cases step with
  | «open» secure outcome => exact .inl ⟨secure, outcome, rfl⟩
  | close sent =>
    right
    unfold WebSocket.close
    split
    · rename_i live
      simp only
      split
      · exact .inr (.inl ⟨.closing, State.noConfusion, rfl⟩)
      · rename_i stops
        refine absurd ⟨live, ?_⟩ goesOn
        cases stored : s.pointer .ws with
        | none => exact .inl rfl
        | some transport =>
          right
          simpa [stored] using stops
    · exact .inl rfl
  | remoteClose sent =>
    have closed : s.state = .closed := not_not.mp goesOn
    rw [WebSocket.remoteClose_eq, WebSocket.closeTransports_closed closed]
    exact .inr (.inl rfl)
  | stateChange layer newState outcome stored =>
    have alive := inv.alive stored
    right
    cases newState with
    | connected =>
      cases up : above proxyServer s.mIsSecure layer with
      | none =>
        cases layer with
        | ws =>
          unfold WebSocket.stateChange WebSocket.connected
          simp only
          split
          · exact .inr (.inl ⟨.open, State.noConfusion, rfl⟩)
          · exact .inl rfl
        | tcp | proxy | tls => exact nomatch up
      | some next =>
        obtain ⟨lower, isBelow⟩ := exists_below up
        rw [WebSocket.stateChange, WebSocket.connected_eq up isBelow]
        rcases WebSocket.initTransport_cases alive next lower outcome with ⟨fails, _⟩ | ⟨_, same | emplaced⟩
        · exact absurd ⟨next, lower, up, isBelow, fails⟩ goesOn
        · exact .inl same
        · obtain ⟨transport, vacant, base, same⟩ := emplaced
          exact .inr (.inr ⟨layer, next, lower, transport, up, isBelow, alive, vacant, base, same⟩)
    | failed => exact absurd alive goesOn
    | disconnected =>
      obtain ⟨other, later⟩ := not_or.mp goesOn
      unfold WebSocket.stateChange WebSocket.disconnected
      cases layer with
      | ws => exact absurd ⟨rfl, alive⟩ other
      | tcp | proxy | tls => exact .inl (if_neg later)
    | connecting | completed => exact .inl rfl

theorem step_stacked (inv : Stacked proxyServer s) {label : Label} (step : Step proxyServer s label next)
    (goesOn : ¬Closes proxyServer s label) : Stacked proxyServer next := by
  rcases step_goesOn inv step goesOn with ⟨secure, outcome, rfl⟩ | rfl | ⟨newState, alive, rfl⟩ | emplaced
  · exact inv.open secure outcome
  · exact inv
  · exact inv.moved alive
  · obtain ⟨source, layer, lower, transport, _, isBelow, alive, vacant, base, rfl⟩ := emplaced
    apply inv.emplaced alive vacant
    rw [isBelow]
    exact ⟨transport, base, rfl⟩

theorem open_unproxied (inv : Stacked proxyServer s) (secure : Bool) (outcome : Outcome)
    (unproxied : s.pointer .proxy = none) : (s.open secure outcome).pointer .proxy = none := by
  by_cases closed : s.state = .closed
  · rcases inv.open_cases closed secure outcome with torn | started
    · rw [torn.pointer]
      exact unproxied
    · rw [started]
      exact unproxied
  · rw [WebSocket.open, if_neg closed]
    exact unproxied

theorem step_unproxied (inv : Stacked false s) {label : Label} (step : Step false s label next)
    (unproxied : s.pointer .proxy = none) : next.pointer .proxy = none := by
  by_cases closes : Closes false s label
  · rw [(step_torn inv step closes).pointer]
    exact unproxied
  · rcases step_goesOn inv step closes with ⟨secure, outcome, rfl⟩ | rfl | ⟨newState, _, rfl⟩ | emplaced
    · exact open_unproxied inv secure outcome unproxied
    · exact unproxied
    · exact unproxied
    · obtain ⟨source, layer, lower, transport, isAbove, _, _, _, _, rfl⟩ := emplaced
      have direct : .proxy ≠ layer := by
        rintro rfl
        cases source <;> simp [above] at isAbove <;> split at isAbove <;> exact nomatch isAbove
      exact (WebSocket.store_other s _ direct).trans unproxied

end

theorem keeps_stacked {proxyServer : Bool} (s : WebSocket) (label : Label) (next : WebSocket)
    (inv : Stacked proxyServer s) (step : Step proxyServer s label next) (unproxied : Unproxied proxyServer s label) :
    Stacked proxyServer next := by
  by_cases closes : Closes proxyServer s label
  · exact (step_torn inv step closes).stacked (unproxied closes)
  · exact step_stacked inv step closes

theorem breaks_stacked {proxyServer : Bool} (s : WebSocket) (label : Label) (next : WebSocket)
    (inv : Stacked proxyServer s) (step : Step proxyServer s label next) (against : ¬Unproxied proxyServer s label) :
    ¬Stacked proxyServer next := by
  intro stacked
  apply against
  intro closes
  have torn := step_torn inv step closes
  have null := stacked.closed torn.state .proxy
  rwa [torn.pointer, if_pos rfl] at null

theorem new_stacked (proxyServer mIsSecure : Bool) : Stacked proxyServer (.new mIsSecure) :=
  ⟨fun _ _ => rfl, nofun, nofun⟩

/-- In a run the transports stand on each other, belong to the last `open` and are gone when the state is
`Closed`, exactly when the connection is closed only while there is no proxy transport. -/
theorem stacked_iff (proxyServer mIsSecure : Bool) (trace : List (Label × WebSocket))
    (run : Run (Step proxyServer) (.new mIsSecure) trace) :
    Always (Stacked proxyServer) (.new mIsSecure) trace ↔ Guarded (Unproxied proxyServer) (.new mIsSecure) trace :=
  always_iff (fun _ inv => inv) keeps_stacked breaks_stacked trace _ (new_stacked proxyServer mIsSecure) run

def fine : Outcome := ⟨false, false⟩

theorem unproxied_connected {proxyServer : Bool} {s : WebSocket} {layer next lower : Layer}
    (up : above proxyServer s.mIsSecure layer = some next) (down : below proxyServer s.mIsSecure next = some lower)
    (built : s.pointer lower ≠ none) : Unproxied proxyServer s (.stateChange layer .connected fine) := by
  rintro ⟨next', lower', up', down', _, fails⟩
  obtain rfl : next = next' := Option.some.inj (up.symm.trans up')
  obtain rfl : lower = lower' := Option.some.inj (down.symm.trans down')
  rcases fails with null | closes | throws
  · exact absurd null built
  · cases closes
  · cases throws

/-- The proxy cannot be reached, and the connection is closed. The next `open` goes through all four layers, and the
application closes it with a CLOSE. -/
def redialled : List (Label × WebSocket) :=
  let refused := ((WebSocket.new false).open true fine).stateChange true .tcp fine .failed
  let opened := refused.open true fine
  let asked := opened.stateChange true .tcp fine .connected
  let answered := asked.stateChange true .proxy fine .connected
  let secured := answered.stateChange true .tls fine .connected
  let upgraded := secured.stateChange true .ws fine .connected
  [(.open true fine, (WebSocket.new false).open true fine), (.stateChange .tcp .failed fine, refused),
    (.open true fine, opened), (.stateChange .tcp .connected fine, asked),
    (.stateChange .proxy .connected fine, answered),
    (.stateChange .tls .connected fine, secured), (.stateChange .ws .connected fine, upgraded),
    (.close true, upgraded.close true)]

theorem redialled_run : Run (Step true) (.new false) redialled :=
  ⟨.open _ _ _, .stateChange _ _ _ _ rfl, .open _ _ _, .stateChange _ _ _ _ rfl, .stateChange _ _ _ _ rfl,
    .stateChange _ _ _ _ rfl, .stateChange _ _ _ _ rfl, .close _ _, trivial⟩

theorem redialled_unproxied : Guarded (Unproxied true) (.new false) redialled := by
  refine ⟨False.elim, fun _ => rfl, False.elim, fun _ => rfl, ?_, ?_, ?_, ?_, trivial⟩
  · exact unproxied_connected rfl rfl (Option.some_ne_none _)
  · exact unproxied_connected rfl rfl (Option.some_ne_none _)
  · rintro ⟨_, _, up, _⟩
    cases up
  · rintro ⟨_, null | unsent⟩
    · exact absurd null (Option.some_ne_none _)
    · cases unsent

theorem stacked_redialled : Always (Stacked true) (.new false) redialled :=
  (stacked_iff true false redialled redialled_run).mpr redialled_unproxied

/-- The connection is closed while the proxy has not answered. -/
def proxied : List (Label × WebSocket) :=
  let opened := (WebSocket.new false).open false fine
  let asked := opened.stateChange true .tcp fine .connected
  [(.open false fine, opened), (.stateChange .tcp .connected fine, asked), (.close true, asked.close true)]

theorem proxied_not_stacked : ¬∀ trace, Run (Step true) (.new false) trace →
    Always (Stacked true) (.new false) trace := by
  intro all
  have stacked := (all proxied ⟨.open _ _ _, .stateChange _ _ _ _ rfl, .close _ _, trivial⟩).last
  have null := stacked.closed rfl .proxy
  exact absurd null (Option.some_ne_none _)

theorem stacked_without_proxy (mIsSecure : Bool) (trace : List (Label × WebSocket))
    (run : Run (Step false) (.new mIsSecure) trace) : Always (Stacked false) (.new mIsSecure) trace := by
  have keeps : ∀ s label next, Stacked false s ∧ s.pointer .proxy = none → Step false s label next →
      Stacked false next ∧ next.pointer .proxy = none := by
    intro s label next inv step
    exact ⟨keeps_stacked s label next inv.1 step fun _ => inv.2, step_unproxied inv.1 step inv.2⟩
  have kept := always_of_step keeps trace _ ⟨new_stacked false mIsSecure, rfl⟩ run
  exact always_mono (fun _ inv => inv.1) trace _ kept

end WebsocketClient.TransportStacks
