import WebsocketClient.WsChunks

/-! What the lower transport returns when it takes a message goes back to the caller of `send`. Nothing that a
`WsTransport` does depends on it. -/

namespace WebsocketClient.WsAnswers
open ByteString Messages Frames Handshake Transports WsTransports WsTransport WsChunks

/-- Two environments with the same hash and the same random engine, whose lower transports take all they are given. -/
structure Agrees (a b : Environment) : Prop where
  sha1 : a.sha1 = b.sha1
  maskingKey : a.maskingKey = b.maskingKey
  first : Quiet a
  second : Quiet b

section
variable {a b : Environment} (agrees : Agrees a b) (t : WsTransport)
include agrees

theorem outgoing_same (sent : Sent) :
    ∃ one other next, t.outgoing a sent = (.ok one, next) ∧ t.outgoing b sent = (.ok other, next) := by
  obtain ⟨one, first⟩ := agrees.first t.sends
  obtain ⟨other, second⟩ := agrees.second t.sends
  let next : WsTransport := { t with sends := t.sends + 1, log := t.log ++ [.outgoing sent] }
  exact ⟨one, other, next, by simp only [outgoing, first, next], by simp only [outgoing, second, next]⟩

theorem sendFrame_same (frame : Frame) :
    ∃ one other next, t.sendFrame a frame = (.ok one, next) ∧ t.sendFrame b frame = (.ok other, next) := by
  unfold sendFrame
  rw [agrees.maskingKey]
  exact outgoing_same agrees t _

theorem start_same (random : Key) : (t.start a random).2 = (t.start b random).2 := by
  simp only [start, sendHttpRequest]
  generalize t.changeState .connecting = begun
  obtain ⟨one, other, next, first, second⟩ := outgoing_same agrees
    { begun with mHandshake := (begun.mHandshake.generateHttpRequest random).1 }
    (.http (begun.mHandshake.generateHttpRequest random).2)
  rw [first, second]
  split <;> rfl

theorem send_same (message : Message) :
    (∃ e, t.send a (some message) = (.error e, t) ∧ t.send b (some message) = (.error e, t)) ∨
      ∃ one other next, t.send a (some message) = (.ok one, next) ∧ t.send b (some message) = (.ok other, next) := by
  unfold send
  by_cases closed : t.state ≠ .connected
  · rw [if_pos closed, if_pos closed]
    exact .inl ⟨_, rfl, rfl⟩
  · rw [if_neg closed, if_neg closed]
    exact .inr (sendFrame_same agrees t _)

theorem close_same : t.close a = t.close b := by
  unfold close
  obtain ⟨one, other, next, first, second⟩ :=
    sendFrame_same agrees { t with mCloseSent := true } { opcode := .close, payload := [], mask := t.mIsClient }
  rw [first, second]

theorem recvFrame_same (frame : Frame) : t.recvFrame a frame = t.recvFrame b frame := by
  unfold recvFrame
  obtain ⟨one, other, next, first, second⟩ :=
    sendFrame_same agrees t { opcode := .pong, payload := frame.payload, mask := t.mIsClient }
  rw [close_same agrees t, first, second]
  rfl

theorem frameLoop_same (rounds : Nat) : ∀ t : WsTransport, frameLoop a rounds t = frameLoop b rounds t := by
  induction rounds with
  | zero => exact fun _ => rfl
  | succ rounds ih =>
    intro t
    simp only [frameLoop, recvFrame_same agrees, agrees.maskingKey, ih]

theorem processFrames_same : t.processFrames a = t.processFrames b := by
  simp only [processFrames, frameLoop_same agrees]

theorem processHandshake_same : t.processHandshake a = t.processHandshake b := by
  unfold processHandshake
  by_cases client : t.mIsClient = true
  · rw [if_pos client, if_pos client, agrees.sha1]
  · rw [if_neg client, if_neg client]
    simp only [sendHttpResponse, agrees.sha1]
    obtain ⟨one, other, next, first, second⟩ := outgoing_same agrees
      { t with mHandshake := (t.mHandshake.parseHttpRequest t.mBuffer).1 }
      (.http ((t.mHandshake.parseHttpRequest t.mBuffer).1.generateHttpResponse b.sha1))
    rw [first, second]

theorem sendPing_same : t.sendPing a = t.sendPing b := by
  unfold sendPing
  obtain ⟨one, other, next, first, second⟩ :=
    sendFrame_same agrees t { opcode := .ping, payload := [0, 0, 0, 0], mask := t.mIsClient }
  rw [first, second]

theorem process_same (message : Bytes) : t.process a message = t.process b message := by
  simp only [process, processHandshake_same agrees, sendPing_same agrees, processFrames_same agrees]

theorem handleError_same (e : Exception) : t.handleError a e = t.handleError b e := by
  unfold handleError
  cases e with
  | requestError what code =>
    obtain ⟨one, other, next, first, second⟩ := outgoing_same agrees t (.http (generateHttpError code))
    simp only [sendHttpError, first, second]
  | _ => rfl

theorem incoming_same (message : Option Bytes) : t.incoming a message = t.incoming b message := by
  simp only [incoming, process_same agrees, handleError_same agrees]

end

end WebsocketClient.WsAnswers
