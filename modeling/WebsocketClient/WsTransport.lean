import WebsocketClient.Frame
import WebsocketClient.Handshake

/-! `impl/wstransport.cpp`. What the transport does to its neighbours is kept in a log:
messages passed up, state notifications, and texts and frames accepted by the lower
transport. The user's callbacks do not re-enter the transport. -/

namespace WebsocketClient.WsTransports
open ByteString Messages Frames Handshake Transports

/-- The hash, the random engine and the lower transport, the last two indexed by the number
of `outgoing` calls made before. -/
structure Environment where
  sha1 : Bytes → Digest
  maskingKey : Nat → MaskingKey
  lower : Nat → Except Exception Bool

inductive Sent where
  | http (text : Bytes)
  | frame (frame : Frame) (key : MaskingKey)
  deriving DecidableEq, Repr

def Sent.wire : Sent → Bytes
  | .http text => text
  | .frame sent key => encodeFrame key sent

inductive Effect where
  | recv (message : Option Message)
  | stateChange (state : State)
  | outgoing (sent : Sent)
  | scheduleClose
  deriving DecidableEq, Repr

structure WsTransport where
  mHandshake : WsHandshake
  mIsClient : Bool
  mMaxMessageSize : Nat
  mMaxOutstandingPings : Int
  mBuffer : Bytes
  mPartial : Bytes
  mPartialOpcode : Opcode
  mIgnoreLength : Nat
  /-- An `int` in the source, which does not wrap as long as fewer than 2^31 PINGs are outstanding. -/
  mOutstandingPings : Int
  mCloseSent : Bool
  state : State
  sends : Nat
  log : List Effect

namespace WsTransport
variable (env : Environment) (t : WsTransport)

def note (effect : Effect) : WsTransport := { t with log := t.log ++ [effect] }

def recv (message : Option Message) : WsTransport := t.note (.recv message)

def changeState (s : State) : WsTransport :=
  if t.state = s then t else { t with state := s, log := t.log ++ [.stateChange s] }

/-- `Transport::outgoing`: the lower transport takes the bytes or throws. -/
def outgoing (sent : Sent) : Except Exception Bool × WsTransport :=
  match env.lower t.sends with
  | .error e => (.error e, { t with sends := t.sends + 1 })
  | .ok result => (.ok result, { t with sends := t.sends + 1, log := t.log ++ [.outgoing sent] })

def sendFrame (frame : Frame) : Except Exception Bool × WsTransport :=
  t.outgoing env (.frame frame (env.maskingKey t.sends))

def sendHttpRequest (random : Key) : Except Exception Bool × WsTransport :=
  let (handshake, request) := t.mHandshake.generateHttpRequest random
  outgoing env { t with mHandshake := handshake } (.http request)

def sendHttpResponse : Except Exception Bool × WsTransport :=
  t.outgoing env (.http (t.mHandshake.generateHttpResponse env.sha1))

def sendHttpError (code : Nat) : Except Exception Bool × WsTransport :=
  t.outgoing env (.http (generateHttpError code))

def start (random : Key) : Except Exception Bool × WsTransport :=
  let t := t.changeState .connecting
  if t.mIsClient then t.sendHttpRequest env random else (.ok true, t)

def send (message : Option Message) : Except Exception Bool × WsTransport :=
  if t.state ≠ .connected then (.error (.runtimeError (text "WebSocket is not open")), t)
  else
    match message with
    | none => (.ok false, t)
    | some m =>
      t.sendFrame env {
        opcode := if m.type = .string then .textFrame else .binaryFrame
        payload := m.data
        mask := t.mIsClient }

def close : WsTransport :=
  if t.state ≠ .connected then t
  else if t.mCloseSent then t
  else
    match sendFrame env { t with mCloseSent := true }
        { opcode := .close, payload := [], mask := t.mIsClient } with
    | (.error _, t) => t.changeState .disconnected
    | (.ok _, t) => t.note .scheduleClose

def messageType (opcode : Opcode) : MessageType :=
  if opcode = .textFrame then .string else .binary

def recvData (frame : Frame) : WsTransport :=
  let payload := frame.payload.take t.mMaxMessageSize
  let t :=
    if t.mPartial = [] then t
    else { t.recv (some ⟨t.mPartial, messageType t.mPartialOpcode⟩) with mPartial := [] }
  let t := { t with mPartialOpcode := frame.opcode }
  if frame.fin then t.recv (some ⟨payload, messageType frame.opcode⟩)
  else { t with mPartial := t.mPartial ++ payload }

def recvContinuation (frame : Frame) : WsTransport :=
  let t := { t with mPartial := (t.mPartial ++ frame.payload).take t.mMaxMessageSize }
  if frame.fin then
    { t.recv (some ⟨t.mPartial, messageType t.mPartialOpcode⟩) with mPartial := [] }
  else t

def recvFrame (frame : Frame) : Except Exception Unit × WsTransport :=
  match frame.opcode with
  | .textFrame | .binaryFrame => (.ok (), t.recvData frame)
  | .continuation => (.ok (), t.recvContinuation frame)
  | .ping =>
      let (result, t) :=
        t.sendFrame env { opcode := .pong, payload := frame.payload, mask := t.mIsClient }
      (result.map (fun _ => ()), t)
  | .pong => (.ok (), { t with mOutstandingPings := 0 })
  | .close => (.ok (), (t.close env).changeState .disconnected)
  | .other _ => (.ok (), t.close env)

def addOutstandingPing : WsTransport :=
  let t := { t with mOutstandingPings := t.mOutstandingPings + 1 }
  if 0 < t.mMaxOutstandingPings ∧ t.mMaxOutstandingPings < t.mOutstandingPings then
    t.changeState .failed
  else t

/-- A PONG is masked in the buffer its payload points into, the one of the PING. -/
def maskPong (frame : Frame) (key : Bytes) (position : Nat) : WsTransport :=
  if frame.opcode = .ping ∧ t.mIsClient then
    { t with mBuffer := overwrite t.mBuffer position (applyMask key frame.payload) }
  else t

end WsTransport

/-- The frame loop of `incoming`. Every round shortens the buffer, so its size bounds the
number of rounds. -/
def frameLoop (env : Environment) : Nat → WsTransport → Except Exception Unit × WsTransport
  | 0, t => (.ok (), t)
  | rounds + 1, t =>
      match parseFrame t.mMaxMessageSize t.mBuffer with
      | none => (.ok (), t)
      | some parsed =>
          let t := { t with mBuffer := parsed.buffer }
          if parsed.consumed = 0 then (.ok (), t)
          else
            let key := env.maskingKey t.sends
            match t.recvFrame env parsed.frame with
            | (.error e, t) => (.error e, t.maskPong parsed.frame key parsed.position)
            | (.ok (), t) =>
                let t := t.maskPong parsed.frame key parsed.position
                if t.mBuffer.length < parsed.consumed then
                  (.ok (), { t with
                    mIgnoreLength := parsed.consumed - t.mBuffer.length, mBuffer := [] })
                else frameLoop env rounds { t with mBuffer := t.mBuffer.drop parsed.consumed }

namespace WsTransport
variable (env : Environment) (t : WsTransport)

/-- The bytes of an oversized frame that are still to come are dropped first. -/
def skipIgnored : WsTransport :=
  let length := min t.mIgnoreLength t.mBuffer.length
  { t with mBuffer := t.mBuffer.drop length, mIgnoreLength := t.mIgnoreLength - length }

def processFrames : Except Exception Unit × WsTransport :=
  let t := t.skipIgnored
  if t.mIgnoreLength = 0 then frameLoop env (t.mBuffer.length + 1) t else (.ok (), t)

def processHandshake : Except Exception Unit × WsTransport :=
  if t.mIsClient then
    match t.mHandshake.parseHttpResponse env.sha1 t.mBuffer with
    | .error e => (.error e, t)
    | .ok length =>
        if length = 0 then (.ok (), t)
        else
          let t := t.changeState .connected
          (.ok (), { t with mBuffer := t.mBuffer.drop length })
  else
    let (handshake, result) := t.mHandshake.parseHttpRequest t.mBuffer
    let t := { t with mHandshake := handshake }
    match result with
    | .error e => (.error e, t)
    | .ok length =>
        if length = 0 then (.ok (), t)
        else
          match t.sendHttpResponse env with
          | (.error e, t) => (.error e, t)
          | (.ok _, t) =>
              let t := t.changeState .connected
              (.ok (), { t with mBuffer := t.mBuffer.drop length })

/-- A zero-sized message tells that TCP is idle. -/
def sendPing : Except Exception Unit × WsTransport :=
  match t.sendFrame env { opcode := .ping, payload := [0, 0, 0, 0], mask := t.mIsClient } with
  | (.error e, t) => (.error e, t)
  | (.ok _, t) => (.ok (), t.addOutstandingPing)

/-- The `try` block of `incoming`. -/
def process (message : Bytes) : Except Exception Unit × WsTransport :=
  let t := { t with mBuffer := t.mBuffer ++ message }
  let (result, t) := if t.state = .connecting then t.processHandshake env else (.ok (), t)
  match result with
  | .error e => (.error e, t)
  | .ok () =>
      if t.state = .connected then
        if message = [] then t.sendPing env else t.processFrames env
      else (.ok (), t)

/-- The `catch` clauses: only a `RequestError` is answered. -/
def handleError : Exception → WsTransport
  | .requestError _ code => (t.sendHttpError env code).2
  | _ => t

/-- The end of `incoming`, reached after an exception and on a null message. -/
def disconnect : WsTransport :=
  if t.state = .connected then (t.changeState .disconnected).recv none
  else t.changeState .failed

def incoming (message : Option Bytes) : WsTransport :=
  if t.state ≠ .connecting ∧ t.state ≠ .connected then t
  else
    match message with
    | none => t.disconnect
    | some message =>
        match t.process env message with
        | (.ok (), t) => t
        | (.error e, t) => (t.handleError env e).disconnect

end WsTransport
end WebsocketClient.WsTransports
