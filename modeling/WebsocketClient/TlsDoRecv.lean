import WebsocketClient.Library.Runs
import WebsocketClient.TlsRead
import WebsocketClient.WsTransport

/-! `TlsTransport::doRecv` in the builds with GnuTLS, Mbed TLS and OpenSSL. An execution is known by the
answers of the library to its calls. -/

namespace WebsocketClient.TlsDoRecvs
open ByteString Messages Queues ReceiveQueues Transports WsTransports

inductive Build where
  | gnutls
  | mbedtls
  | openssl
  deriving DecidableEq, Repr

def GNUTLS_E_PREMATURE_TERMINATION : Int := -110
def SSL_ERROR_NONE : Int := 0
def SSL_ERROR_SSL : Int := 1
def SSL_ERROR_SYSCALL : Int := 5
def SSL_ERROR_ZERO_RETURN : Int := 6

structure Answer where
  ret : Int
  /-- The answer of `SSL_get_error`. -/
  err : Int
  /-- The text of the last error with a colon before it, or nothing. -/
  lastError : Bytes
  /-- What a callback or `flushOutput` throws. -/
  throws : Option Exception
  buffer : Bytes
  /-- The number of zero-sized messages that `ReadCallback` has passed on. -/
  idle : Nat
  /-- The queue after the callbacks, and after what other threads have pushed meanwhile. -/
  queue : Queue Bytes
  deriving DecidableEq, Repr

/-- `openssl::check_error`, false on a recoverable error. -/
def checkError (message : Bytes) (answer : Answer) : Except Exception Bool :=
  if answer.err = SSL_ERROR_NONE then .ok true
  else if answer.err = SSL_ERROR_ZERO_RETURN then .error (.runtimeError (message ++ text ": peer closed connection"))
  else if answer.err = SSL_ERROR_SYSCALL then .error (.runtimeError (message ++ text ": fatal I/O error"))
  else if answer.err = SSL_ERROR_SSL then .error (.runtimeError (message ++ answer.lastError))
  else .ok false

structure TlsTransport where
  state : State
  mIncomingQueue : Queue Bytes
  mPendingRecvCount : Nat
  log : List Effect
  deriving DecidableEq, Repr

namespace TlsTransport
variable (t : TlsTransport)

def initial : TlsTransport where
  state := .disconnected
  mIncomingQueue := .new RECV_QUEUE_LIMIT
  mPendingRecvCount := 0
  log := []

def recv (message : Option Bytes) : TlsTransport :=
  { t with log := t.log ++ [.recv (message.map fun data => ⟨data, .binary⟩)] }

def called (answer : Answer) : TlsTransport :=
  { t with
    mIncomingQueue := answer.queue
    log := t.log ++ List.replicate answer.idle (.recv (some ⟨[], .binary⟩)) }

def changeState (s : State) : TlsTransport :=
  if t.state = s then t else { t with state := s, log := t.log ++ [.stateChange s] }

def enqueueRecv : TlsTransport :=
  if 0 < t.mPendingRecvCount then t else { t with mPendingRecvCount := t.mPendingRecvCount + 1 }

/-- With OpenSSL the handshake is begun at once, and an error is thrown with the state as it is. -/
def start (answer : Answer) : Build → Except Exception Unit × TlsTransport
  | .gnutls | .mbedtls => (.ok (), (t.changeState .connecting).enqueueRecv)
  | .openssl =>
    let t := (t.changeState .connecting).called answer
    match answer.throws with
    | some e => (.error e, t)
    | none => ((checkError (text "Handshake failed") answer).map fun _ => (), t)

def stop : TlsTransport := { t with mIncomingQueue := t.mIncomingQueue.stop }.enqueueRecv

/-- `none` while the queue is full. -/
def incoming : Option Bytes → Option TlsTransport
  | none => some t.stop
  | some message =>
    (t.mIncomingQueue.push List.length message).map fun queue => { t with mIncomingQueue := queue }.enqueueRecv

def alert : TlsTransport := { t with mIncomingQueue := t.mIncomingQueue.stop }

/-- What `send` does besides making records: with OpenSSL there may be an alert. -/
def send (build : Build) (alerted : Bool) : TlsTransport :=
  if build = .openssl ∧ t.state = .connected ∧ alerted = true then t.alert else t

end TlsTransport

inductive Exit where
  /-- Behind the loop. -/
  | further
  /-- It returns at once. -/
  | back
  /-- To the last lines, by an exception or because nothing more can be read. -/
  | tail
  deriving DecidableEq, Repr

/-- A loop, with the answers that are left. It is `none` when they do not suffice. -/
abbrev Outcome := Option (Exit × List Answer × TlsTransport)

def andThen (outcome : Outcome) (lines : List Answer → TlsTransport → Outcome) : Outcome :=
  match outcome with
  | some (.further, answers, t) => lines answers t
  | outcome => outcome

/-! ### GnuTLS and Mbed TLS -/

/-- The handshake is called again on a non-fatal error. -/
def handshake (again : Int) (check : Int → Except Exception Bool) : List Answer → TlsTransport → Outcome
  | [], _ => none
  | answer :: answers, t =>
    let t := t.called answer
    if answer.throws.isSome then some (.tail, answers, t)
    else if answer.ret = again then some (.back, answers, t)
    else match check answer.ret with
      | .error _ => some (.tail, answers, t)
      | .ok false => handshake again check answers t
      | .ok true => some (.further, answers, t.changeState .connected)

/-- Records are read until there is none, or no more will come. -/
def records (again closed : Int) (check : Int → Except Exception Bool) : List Answer → TlsTransport → Outcome
  | [], _ => none
  | answer :: answers, t =>
    let t := t.called answer
    if answer.throws.isSome then some (.tail, answers, t)
    else if answer.ret = again then some (.back, answers, t)
    else if answer.ret = closed then some (.tail, answers, t)
    else match check answer.ret with
      | .error _ => some (.tail, answers, t)
      | .ok false => records again closed check answers t
      | .ok true =>
        if answer.ret = 0 then some (.tail, answers, t)
        else records again closed check answers (t.recv (some (answer.buffer.take answer.ret.toNat)))

/-- The `try` block. -/
def receive (again closed : Int) (check : Int → Except Exception Bool) (answers : List Answer) (t : TlsTransport) :
    Outcome :=
  andThen (if t.state = .connecting then handshake again check answers t else some (.further, answers, t))
    fun answers t => if t.state = .connected then records again closed check answers t else some (.tail, answers, t)

/-! ### OpenSSL -/

/-- One call for the handshake. -/
def doHandshake : List Answer → TlsTransport → Outcome
  | [], _ => none
  | answer :: answers, t =>
    let t := t.called answer
    if answer.throws.isSome then some (.tail, answers, t)
    else match checkError (text "Handshake failed") answer with
      | .error _ => some (.tail, answers, t)
      | .ok false => some (.further, answers, t)
      | .ok true => some (.further, answers, t.changeState .connected)

def sslRead : List Answer → TlsTransport → Outcome
  | [], _ => none
  | answer :: answers, t =>
    let t := t.called answer
    if answer.throws.isSome then some (.tail, answers, t)
    else if answer.err = SSL_ERROR_ZERO_RETURN then some (.tail, answers, t)
    else match checkError (text "OpenSSL error") answer with
      | .error _ => some (.tail, answers, t)
      | .ok false => some (.further, answers, t)
      | .ok true => sslRead answers (t.recv (some (answer.buffer.take answer.ret.toNat)))

/-- A message is given to the library. -/
def handle (answers : List Answer) (message : Bytes) (t : TlsTransport) : Outcome :=
  let t := if 0 < message.length then t else t.recv (some message)
  andThen (if t.state = .connecting then doHandshake answers t else some (.further, answers, t))
    fun answers t => if t.state = .connected then sslRead answers t else some (.further, answers, t)

/-- The loop over the queue. Every round needs an answer, so their number bounds the number of rounds. -/
def messages : Nat → List Answer → TlsTransport → Outcome
  | 0, _, _ => none
  | rounds + 1, answers, t =>
    if t.mIncomingQueue.running = false then some (.tail, answers, t)
    else match t.mIncomingQueue.pop List.length with
      | (none, _) => some (.back, answers, t)
      | (some message, queue) =>
        andThen (handle answers message { t with mIncomingQueue := queue }) (messages rounds)

/-! ### `doRecv` -/

namespace TlsTransport
variable (errors : TlsTransports.Errors) (answers : List Answer) (t : TlsTransport)

def close : TlsTransport :=
  if t.state = .connected then (t.changeState .disconnected).recv none else t.changeState .failed

/-- What the `try` block leaves. -/
def leave : Outcome → Option TlsTransport
  | none => none
  | some (.back, _, t) => some t
  | some (_, _, t) => some t.close

def decrement : TlsTransport := { t with mPendingRecvCount := t.mPendingRecvCount - 1 }

def Live : Prop := t.state = .connecting ∨ t.state = .connected

instance : Decidable t.Live := inferInstanceAs (Decidable (_ ∨ _))

def doRecvGnutls : Option TlsTransport :=
  leave (receive TlsTransports.GNUTLS_E_AGAIN GNUTLS_E_PREMATURE_TERMINATION
    (fun ret => TlsTransports.Build.check errors .gnutls (TlsTransports.Build.checked .gnutls ret)) answers t.decrement)

def doRecvMbedtls : Option TlsTransport :=
  let t := t.decrement
  if ¬t.Live then some t
  else leave (receive TlsTransports.MBEDTLS_ERR_SSL_WANT_READ TlsTransports.MBEDTLS_ERR_SSL_PEER_CLOSE_NOTIFY
    (TlsTransports.Build.check errors .mbedtls) answers t)

def doRecvOpenssl : Option TlsTransport :=
  let t := t.decrement
  if ¬t.Live then some t else leave (messages (answers.length + 1) answers t)

def doRecv : Build → Option TlsTransport
  | .gnutls => t.doRecvGnutls errors answers
  | .mbedtls => t.doRecvMbedtls errors answers
  | .openssl => t.doRecvOpenssl answers

end TlsTransport

inductive Label where
  | start (answer : Answer)
  | send (alerted : Bool)
  | stop
  | incoming (message : Option Bytes)
  | doRecv (answers : List Answer)
  deriving DecidableEq, Repr

/-- One call. `doRecv` is run by the thread pool, once for each time it was enqueued. -/
inductive Step (errors : TlsTransports.Errors) (build : Build) (t : TlsTransport) :
    Label → TlsTransport → Prop where
  | start (answer : Answer) : Step errors build t (.start answer) (t.start answer build).2
  | send (alerted : Bool) : Step errors build t (.send alerted) (t.send build alerted)
  | stop : Step errors build t .stop t.stop
  | incoming (message : Option Bytes) (next : TlsTransport) : t.incoming message = some next →
      Step errors build t (.incoming message) next
  | doRecv (answers : List Answer) (next : TlsTransport) : 0 < t.mPendingRecvCount →
      t.doRecv errors answers build = some next → Step errors build t (.doRecv answers) next

end WebsocketClient.TlsDoRecvs
