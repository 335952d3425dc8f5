import WebsocketClient.TlsDoRecv
import WebsocketClient.WsTerminal
import WebsocketClient.WsUpgrade

/-! The states that the callbacks of a `WsTransport` and of a `TlsTransport` are notified of, from `start`
to the end, when calls, chunks and tasks follow each other in any order. -/

namespace WebsocketClient.TerminalStates
open ByteString Messages Transports WsTransports WsMessages WsTerminals Library.Histories Library.Runs
open TlsDoRecvs (Build Answer Exit Outcome TlsTransport andThen handshake records receive doHandshake sslRead handle
  messages)

/-! ### `TlsTransport` -/

/-- What leaves the state alone. -/
structure Untold (t next : TlsTransport) : Prop where
  state : next.state = t.state
  notified : changes next.log = changes t.log

/-- A transport in the `try` block of `doRecv`. -/
structure Receiving (t : TlsTransport) : Prop where
  recorded : Recorded t.state t.log
  live : t.Live

def Receives (outcome : Outcome) : Prop :=
  ∀ exit answers next, outcome = some (exit, answers, next) → Receiving next

/-- With GnuTLS no execution of `doRecv` finds `Disconnected`, and the transport is not started again. -/
def TlsGuard (build : Build) (t : TlsTransport) (label : TlsDoRecvs.Label) : Prop :=
  Started t.log →
    match label with
    | .start _ => ¬Terminal t.state
    | .doRecv _ => build = .gnutls → t.state ≠ .disconnected
    | .send _ | .stop | .incoming _ => True

section
variable {errors : TlsTransports.Errors} {build : Build} {t next later : TlsTransport} {outcome : Outcome}

theorem Untold.trans (first : Untold t next) (second : Untold next later) : Untold t later :=
  ⟨second.state.trans first.state, second.notified.trans first.notified⟩

theorem Untold.recorded (untold : Untold t next) (recorded : Recorded t.state t.log) :
    Recorded next.state next.log := by
  rw [untold.state]
  exact recorded.of_changes untold.notified

theorem tls_changeState_recorded (recorded : Recorded t.state t.log) (s : State)
    (goesOn : t.state ≠ s → Started t.log → ¬Terminal t.state) :
    Recorded (t.changeState s).state (t.changeState s).log := by
  unfold TlsTransport.changeState
  split
  · exact recorded
  · rename_i other
    exact recorded.change s (goesOn other)

theorem tls_changeState_not_final (recorded : Recorded t.state t.log) (started : Started t.log)
    (terminal : Terminal t.state) {s : State} (other : t.state ≠ s) :
    ¬Final .connecting Terminal (changes (t.changeState s).log) := by
  rw [TlsTransport.changeState, if_neg other]
  exact recorded.not_final started terminal s

theorem changes_replicate (count : Nat) (message : Option Message) :
    changes (List.replicate count (.recv message)) = [] := by
  induction count with
  | zero => rfl
  | succ count ih =>
    rw [List.replicate_succ]
    exact ih

theorem called_untold (answer : Answer) : Untold t (t.called answer) where
  state := rfl
  notified := by rw [TlsTransport.called, changes_append, changes_replicate, List.append_nil]

theorem recv_untold (message : Option Bytes) : Untold t (t.recv message) where
  state := rfl
  notified := by
    rw [TlsTransport.recv, changes_append]
    exact List.append_nil _

theorem enqueueRecv_untold : Untold t t.enqueueRecv := by
  unfold TlsTransport.enqueueRecv
  split <;> exact ⟨rfl, rfl⟩

theorem queue_untold (queue : Queues.Queue Bytes) : Untold t { t with mIncomingQueue := queue } := ⟨rfl, rfl⟩

theorem start_untold (answer : Answer) (build : Build) :
    Untold (t.changeState .connecting) (t.start answer build).2 := by
  cases build with
  | gnutls => exact enqueueRecv_untold
  | mbedtls => exact enqueueRecv_untold
  | openssl =>
    unfold TlsTransport.start
    simp only
    split <;> exact called_untold answer

theorem Receiving.of_untold (receiving : Receiving t) (untold : Untold t next) : Receiving next where
  recorded := untold.recorded receiving.recorded
  live := by
    unfold TlsTransport.Live
    rw [untold.state]
    exact receiving.live

theorem Receiving.called (receiving : Receiving t) (answer : Answer) : Receiving (t.called answer) :=
  receiving.of_untold (called_untold answer)

theorem Receiving.recv (receiving : Receiving t) (message : Option Bytes) : Receiving (t.recv message) :=
  receiving.of_untold (recv_untold message)

theorem Receiving.not_terminal (receiving : Receiving t) : ¬Terminal t.state := by
  rcases receiving.live with state | state <;> rw [state] <;> decide

theorem Receiving.connected (receiving : Receiving t) : Receiving (t.changeState .connected) where
  recorded := tls_changeState_recorded receiving.recorded .connected fun _ _ => receiving.not_terminal
  live := by
    unfold TlsTransport.changeState
    split
    · exact receiving.live
    · exact .inr rfl

theorem Receiving.receives (receiving : Receiving t) (exit : Exit) (answers : List Answer) :
    Receives (some (exit, answers, t)) := by
  rintro _ _ _ ⟨⟩
  exact receiving

theorem receives_none : Receives none := nofun

theorem handshake_receives (again : Int) (check : Int → Except Exception Bool) (answers : List Answer)
    (receiving : Receiving t) : Receives (handshake again check answers t) := by
  induction answers generalizing t with
  | nil => exact receives_none
  | cons answer answers ih =>
    have called := receiving.called answer
    unfold handshake
    simp only
    split
    · exact called.receives _ _
    · split
      · exact called.receives _ _
      · split
        · exact called.receives _ _
        · exact ih called
        · exact called.connected.receives _ _

theorem records_receives (again closed : Int) (check : Int → Except Exception Bool) (answers : List Answer)
    (receiving : Receiving t) : Receives (records again closed check answers t) := by
  induction answers generalizing t with
  | nil => exact receives_none
  | cons answer answers ih =>
    have called := receiving.called answer
    unfold records
    simp only
    split
    · exact called.receives _ _
    · split
      · exact called.receives _ _
      · split
        · exact called.receives _ _
        · split
          · exact called.receives _ _
          · exact ih called
          · split
            · exact called.receives _ _
            · exact ih (called.recv _)

theorem Receives.behind (receives : Receives outcome) (further : List Answer → TlsTransport → Outcome)
    (goesOn : ∀ answers next, Receiving next → Receives (further answers next)) :
    Receives (andThen outcome further) := by
  unfold andThen
  split
  · exact goesOn _ _ (receives _ _ _ rfl)
  · exact receives

theorem receive_receives (again closed : Int) (check : Int → Except Exception Bool) (answers : List Answer)
    (receiving : Receiving t) : Receives (receive again closed check answers t) := by
  have shaken : Receives (if t.state = .connecting then handshake again check answers t
      else some (.further, answers, t)) := by
    split
    · exact handshake_receives again check answers receiving
    · exact receiving.receives _ _
  unfold receive
  apply shaken.behind
  intro answers next receiving
  split
  · exact records_receives again closed check answers receiving
  · exact receiving.receives _ _

theorem doHandshake_receives (answers : List Answer) (receiving : Receiving t) :
    Receives (doHandshake answers t) := by
  cases answers with
  | nil => exact receives_none
  | cons answer answers =>
    have called := receiving.called answer
    unfold doHandshake
    simp only
    split
    · exact called.receives _ _
    · split
      · exact called.receives _ _
      · exact called.receives _ _
      · exact called.connected.receives _ _

theorem sslRead_receives (answers : List Answer) (receiving : Receiving t) : Receives (sslRead answers t) := by
  induction answers generalizing t with
  | nil => exact receives_none
  | cons answer answers ih =>
    have called := receiving.called answer
    unfold sslRead
    simp only
    split
    · exact called.receives _ _
    · split
      · exact called.receives _ _
      · split
        · exact called.receives _ _
        · exact called.receives _ _
        · exact ih (called.recv _)

theorem handle_receives (answers : List Answer) (message : Bytes) (receiving : Receiving t) :
    Receives (handle answers message t) := by
  have passed : Receiving (if 0 < message.length then t else t.recv (some message)) := by
    split
    · exact receiving
    · exact receiving.recv _
  unfold handle
  generalize (if 0 < message.length then t else t.recv (some message)) = t at passed
  have shaken : Receives (if t.state = .connecting then doHandshake answers t else some (.further, answers, t)) := by
    split
    · exact doHandshake_receives answers passed
    · exact passed.receives _ _
  apply shaken.behind
  intro answers next receiving
  split
  · exact sslRead_receives answers receiving
  · exact receiving.receives _ _

theorem messages_receives (rounds : Nat) (answers : List Answer) (receiving : Receiving t) :
    Receives (messages rounds answers t) := by
  induction rounds generalizing answers t with
  | zero => exact receives_none
  | succ rounds ih =>
    unfold messages
    split
    · exact receiving.receives _ _
    · split
      · exact receiving.receives _ _
      · rename_i message queue popped
        have handled : Receives (handle answers message { t with mIncomingQueue := queue }) :=
          handle_receives answers message ⟨receiving.recorded, receiving.live⟩
        apply handled.behind
        exact fun answers next receiving => ih answers receiving

theorem Receiving.close (receiving : Receiving t) : Recorded t.close.state t.close.log := by
  unfold TlsTransport.close
  split
  · apply (recv_untold none).recorded
    exact tls_changeState_recorded receiving.recorded .disconnected fun _ _ => receiving.not_terminal
  · exact tls_changeState_recorded receiving.recorded .failed fun _ _ => receiving.not_terminal

theorem Receives.leave (receives : Receives outcome) (left : TlsTransport.leave outcome = some next) :
    Recorded next.state next.log := by
  unfold TlsTransport.leave at left
  split at left
  · exact absurd left (by simp)
  · obtain rfl := Option.some.inj left
    have receiving := receives _ _ _ rfl
    exact receiving.recorded
  · obtain rfl := Option.some.inj left
    have receiving := receives _ _ _ rfl
    exact receiving.close

theorem doRecv_live (recorded : Recorded t.state t.log) (live : t.Live) {answers : List Answer}
    (done : t.doRecv errors answers build = some next) : Recorded next.state next.log := by
  have receiving : Receiving t.decrement := ⟨recorded, live⟩
  have entered : ¬¬t.decrement.Live := not_not.mpr live
  cases build with
  | gnutls => exact (receive_receives _ _ _ answers receiving).leave done
  | mbedtls =>
    simp only [TlsTransport.doRecv, TlsTransport.doRecvMbedtls, if_neg entered] at done
    exact (receive_receives _ _ _ answers receiving).leave done
  | openssl =>
    simp only [TlsTransport.doRecv, TlsTransport.doRecvOpenssl, if_neg entered] at done
    exact (messages_receives _ answers receiving).leave done

/-- With Mbed TLS and OpenSSL the state is looked at first; with GnuTLS the execution goes to its last lines. -/
theorem doRecv_over (dead : ¬t.Live) {answers : List Answer} (done : t.doRecv errors answers build = some next) :
    next = if build = .gnutls then t.decrement.changeState .failed else t.decrement := by
  have left : ¬t.decrement.Live := dead
  obtain ⟨connecting, connected⟩ := not_or.mp left
  cases build with
  | gnutls =>
    simp only [TlsTransport.doRecv, TlsTransport.doRecvGnutls, receive, if_neg connecting, andThen, if_neg connected,
      TlsTransport.leave, TlsTransport.close] at done
    exact (Option.some.inj done).symm
  | mbedtls =>
    simp only [TlsTransport.doRecv, TlsTransport.doRecvMbedtls, if_pos left] at done
    exact (Option.some.inj done).symm
  | openssl =>
    simp only [TlsTransport.doRecv, TlsTransport.doRecvOpenssl, if_pos left] at done
    exact (Option.some.inj done).symm

theorem tls_keeps {label : TlsDoRecvs.Label} (recorded : Recorded t.state t.log)
    (step : TlsDoRecvs.Step errors build t label next) (guard : TlsGuard build t label) :
    Recorded next.state next.log := by
  cases step with
  | start answer =>
    apply (start_untold answer build).recorded
    exact tls_changeState_recorded recorded .connecting fun _ started => guard started
  | send alerted =>
    unfold TlsTransport.send
    split <;> exact recorded
  | stop => exact ((queue_untold _).trans enqueueRecv_untold).recorded recorded
  | incoming message _ taken =>
    cases message with
    | none =>
      obtain rfl := Option.some.inj taken
      exact ((queue_untold _).trans enqueueRecv_untold).recorded recorded
    | some message =>
      obtain ⟨queue, _, rfl⟩ := Option.map_eq_some_iff.mp taken
      exact ((queue_untold queue).trans enqueueRecv_untold).recorded recorded
  | doRecv answers _ _ done =>
    by_cases live : t.Live
    · exact doRecv_live recorded live done
    · rw [doRecv_over live done]
      split
      · rename_i gnutls
        apply tls_changeState_recorded (t := t.decrement) recorded
        intro other started
        exact fun terminal => terminal.elim (guard started gnutls) other
      · exact recorded

theorem tls_breaks {label : TlsDoRecvs.Label} (recorded : Recorded t.state t.log)
    (step : TlsDoRecvs.Step errors build t label next) (against : ¬TlsGuard build t label) :
    ¬Final .connecting Terminal (changes next.log) := by
  unfold TlsGuard at against
  obtain ⟨started, against⟩ := Classical.not_imp.mp against
  cases step with
  | start answer =>
    have terminal : Terminal t.state := not_not.mp against
    rw [(start_untold answer build).notified]
    exact tls_changeState_not_final recorded started terminal terminal.ne_connecting
  | send alerted => exact absurd trivial against
  | stop => exact absurd trivial against
  | incoming message _ taken => exact absurd trivial against
  | doRecv answers _ _ done =>
    push Not at against
    obtain ⟨gnutls, closed⟩ := against
    have dead : ¬t.Live := by
      unfold TlsTransport.Live
      rw [closed]
      decide
    have other : t.decrement.state ≠ .failed := by
      rw [TlsTransport.decrement, closed]
      decide
    rw [doRecv_over dead done, if_pos gnutls]
    exact tls_changeState_not_final (t := t.decrement) recorded started (.inl closed) other

end

/-! ### Runs -/

inductive Transport where
  | ws (t : WsTransport)
  | tls (build : Build) (t : TlsTransport)

inductive Label where
  | ws (label : WsLabel)
  | tls (label : TlsDoRecvs.Label)
  deriving DecidableEq, Repr

inductive Step (env : Environment) (errors : TlsTransports.Errors) : Transport → Label → Transport → Prop where
  | ws {t next : WsTransport} {label : WsLabel} : WsStep env t label next →
      Step env errors (.ws t) (.ws label) (.ws next)
  | tls {build : Build} {t next : TlsTransport} {label : TlsDoRecvs.Label} :
      TlsDoRecvs.Step errors build t label next → Step env errors (.tls build t) (.tls label) (.tls build next)

namespace Transport

def state : Transport → State
  | .ws t => t.state
  | .tls _ t => t.state

def log : Transport → List Effect
  | .ws t => t.log
  | .tls _ t => t.log

end Transport

/-- A transport as it is constructed. -/
structure Constructed (t : Transport) : Prop where
  state : t.state = .disconnected
  log : t.log = []

/-- What is asked of a step. -/
def Guard (env : Environment) : Transport → Label → Prop
  | .ws t, .ws label => WsGuard env t label
  | .tls build t, .tls label => TlsGuard build t label
  | _, _ => True

theorem Constructed.recorded {t : Transport} (constructed : Constructed t) : Recorded t.state t.log := by
  rw [constructed.state, constructed.log]
  exact ⟨rfl, List.Pairwise.nil⟩

/-- A transport that was started has at most one terminal state in its life, which never changes again, exactly when
it is not started once more in a terminal state, a `WsTransport` refuses no PONG to a PING behind the frame that ended
the connection and has not failed when the timer of its CLOSE runs, and with GnuTLS no `doRecv` is run in the state
`Disconnected`. -/
theorem settled_iff (env : Environment) (errors : TlsTransports.Errors) (t : Transport) (constructed : Constructed t)
    (trace : List (Label × Transport)) (run : Run (Step env errors) t trace) :
    Always (fun t => Settled t.log) t trace ↔ Guarded (Guard env) t trace := by
  refine always_iff (fun _ recorded => Recorded.settled recorded) ?_ ?_ trace t constructed.recorded run
  · intro t label next recorded step guard
    cases step with
    | ws step => exact ws_keeps recorded step guard
    | tls step => exact tls_keeps recorded step guard
  · intro t label next recorded step against settled
    cases step with
    | ws step => exact ws_breaks recorded step against settled.final
    | tls step => exact tls_breaks recorded step against settled.final

/-! ### Transports that end once, and twice -/

def lost : Environment := { WsUpgrades.peer with
  lower := fun n => if n < 2 then .ok true else .error (.runtimeError (text "Connection is not open")) }

def errors : TlsTransports.Errors := ⟨fun _ => true, fun _ => [], fun _ => []⟩

/-- A call that leaves the queue as it is. -/
def answered (ret err : Int) (queue : Queues.Queue Bytes) : Answer where
  ret := ret
  err := err
  lastError := []
  throws := none
  buffer := []
  idle := 0
  queue := queue

/-- The stream ends in the handshake, and `stop` has `doRecv` run once more. -/
def cutShort : List (Label × Transport) :=
  let wantsRead := answered (-1) 2 TlsTransport.initial.mIncomingQueue
  let started := (TlsTransport.initial.start wantsRead .openssl).2
  let ended := started.stop
  let failed := ended.decrement.close
  let stopped := failed.stop
  [(.tls (.start wantsRead), .tls .openssl started), (.tls (.incoming none), .tls .openssl ended),
    (.tls (.doRecv []), .tls .openssl failed), (.tls .stop, .tls .openssl stopped),
    (.tls (.doRecv []), .tls .openssl stopped.decrement)]

theorem settled_cutShort : Always (fun t => Settled t.log) (.tls .openssl .initial) cutShort := by
  refine (settled_iff lost errors (.tls .openssl .initial) ⟨rfl, rfl⟩ cutShort
    ⟨.tls (.start _), .tls (.incoming _ _ rfl), .tls (.doRecv _ _ (by decide) rfl), .tls .stop,
      .tls (.doRecv _ _ (by decide) rfl), trivial⟩).mpr ?_
  have other : Build.openssl ≠ .gnutls := by decide
  exact ⟨fun started => absurd started List.not_mem_nil, fun _ => trivial, fun _ gnutls => absurd gnutls other,
    fun _ => trivial, fun _ gnutls => absurd gnutls other, trivial⟩

def client : WsTransport := { openClient with
  mHandshake := { mHost := text "a", mPath := text "/" }
  mMaxMessageSize := 65536
  state := .disconnected }

/-- A PING behind the CLOSE, when the PONG cannot be sent any more. -/
def closePing : List (Label × Transport) :=
  let response := HandshakeRoundTrip.headText (WsUpgrades.responseWith (text "Server: a"))
  let started := (client.start lost WsUpgrades.zeroKey).2
  let connected := started.incoming lost (some response)
  [(.ws (.start WsUpgrades.zeroKey), .ws started), (.ws (.incoming (some response)), .ws connected),
    (.ws (.incoming (some [0x88, 0, 0x89, 0])), .ws (connected.incoming lost (some [0x88, 0, 0x89, 0])))]

/-- The peer closes the connection, and `stop` has `doRecv` run once more. -/
def closeStop : List (Label × Transport) :=
  let queue := TlsTransport.initial.mIncomingQueue
  let done := answered 0 0 queue
  let again := answered TlsTransports.GNUTLS_E_AGAIN 0 queue
  let ends := answered 0 0 queue.stop
  let started := (TlsTransport.initial.start done .gnutls).2
  let connected := started.decrement.changeState .connected
  let ended := connected.stop
  let closed := ended.decrement.close
  let stopped := closed.stop
  [(.tls (.start done), .tls .gnutls started), (.tls (.doRecv [done, again]), .tls .gnutls connected),
    (.tls (.incoming none), .tls .gnutls ended), (.tls (.doRecv [ends]), .tls .gnutls closed),
    (.tls .stop, .tls .gnutls stopped), (.tls (.doRecv []), .tls .gnutls stopped.decrement.close)]

/-- Either way the transport is notified of `Disconnected`, and then of `Failed`. -/
theorem disconnected_then_failed :
    (¬∀ trace, Run (Step lost errors) (.ws client) trace → Always (fun t => Settled t.log) (.ws client) trace) ∧
      ¬∀ trace, Run (Step lost errors) (.tls .gnutls .initial) trace →
        Always (fun t => Settled t.log) (.tls .gnutls .initial) trace := by
  constructor
  · intro all
    have settled := (all closePing ⟨.ws (.start _), .ws (.incoming _), .ws (.incoming _), trivial⟩).last
    exact absurd settled.once (by decide +kernel)
  · intro all
    have settled := (all closeStop ⟨.tls (.start _), .tls (.doRecv _ _ (by decide) (by decide +kernel)),
      .tls (.incoming _ _ rfl), .tls (.doRecv _ _ (by decide) (by decide +kernel)), .tls .stop,
      .tls (.doRecv _ _ (by decide) rfl), trivial⟩).last
    exact absurd settled.once (by decide +kernel)

end WebsocketClient.TerminalStates
