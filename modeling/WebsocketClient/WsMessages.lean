import WebsocketClient.WsTransport

/-! Reassembly of fragmented messages. The specification collects the whole payloads of a
data message and cuts once, at its end; the code cuts in `parseFrame`, in the first frame
and in every continuation. -/

namespace WebsocketClient.WsMessages
open ByteString Messages Frames Transports WsTransports WsTransport

def delivered (log : List Effect) : List Message :=
  log.filterMap (fun effect => match effect with
    | .recv message => message
    | _ => none)

def sentFrames (log : List Effect) : List Frame :=
  log.filterMap (fun effect => match effect with
    | .outgoing (.frame sent _) => some sent
    | _ => none)

/-- The frames that `recvFrame` handles one after the other, up to an exception. -/
def recvFrames (env : Environment) : WsTransport → List Frame → Except Exception Unit × WsTransport
  | t, [] => (.ok (), t)
  | t, frame :: rest =>
      match t.recvFrame env frame with
      | (.error e, t) => (.error e, t)
      | (.ok (), t) => recvFrames env t rest

/-- What `parseFrame` leaves of a frame that was sent with its whole payload. -/
def truncate (maxMessageSize : Nat) (frame : Frame) : Frame :=
  { frame with payload := frame.payload.take (maxFrameLength maxMessageSize) }

/-- RFC 6455 5.4, for any initial part of a sequence: a data message is a TEXT or BINARY frame
and continuations up to a final one, with PING and PONG frames anywhere. -/
def WellFormed : (inProgress : Bool) → List Frame → Prop
  | _, [] => True
  | inProgress, frame :: rest =>
      match frame.opcode with
      | .textFrame | .binaryFrame => inProgress = false ∧ WellFormed (!frame.fin) rest
      | .continuation => inProgress = true ∧ WellFormed (!frame.fin) rest
      | .ping | .pong =>
          frame.payload.length ≤ maxControlFrameLength ∧ WellFormed inProgress rest
      | .close | .other _ => False

/-- One message for each completed data message, of the type of its first frame. `current`
holds the type and the bytes of a message in progress, none of them cut. -/
def messagesOf (maxMessageSize : Nat) : Option (MessageType × Bytes) → List Frame → List Message
  | _, [] => []
  | current, frame :: rest =>
      match frame.opcode with
      | .textFrame | .binaryFrame =>
          let type := messageType frame.opcode
          if frame.fin then
            ⟨frame.payload.take maxMessageSize, type⟩ :: messagesOf maxMessageSize none rest
          else messagesOf maxMessageSize (some (type, frame.payload)) rest
      | .continuation =>
          match current with
          | none => messagesOf maxMessageSize none rest
          | some (type, bytes) =>
              if frame.fin then
                ⟨(bytes ++ frame.payload).take maxMessageSize, type⟩ ::
                  messagesOf maxMessageSize none rest
              else messagesOf maxMessageSize (some (type, bytes ++ frame.payload)) rest
      | _ => messagesOf maxMessageSize current rest

def pongsOf (mask : Bool) (frames : List Frame) : List Frame :=
  (frames.filter (fun frame => frame.opcode = .ping)).map
    (fun ping => { opcode := .pong, payload := ping.payload, mask })

/-- `mPartial` is the cut image of the message in progress. It is empty without one, and may
be empty with one. -/
def Reassembles (t : WsTransport) : Option (MessageType × Bytes) → Prop
  | none => t.mPartial = []
  | some (type, bytes) =>
      t.mPartial = bytes.take t.mMaxMessageSize ∧ messageType t.mPartialOpcode = type

theorem take_append_take (bytes payload : Bytes) (limit wide : Nat) (le : limit ≤ wide) :
    (bytes.take limit ++ payload.take wide).take limit = (bytes ++ payload).take limit := by
  rw [List.take_append, List.take_append, List.take_take, List.length_take, List.take_take,
    Nat.min_self]
  by_cases short : bytes.length ≤ limit
  · have same : min limit bytes.length = bytes.length := Nat.min_eq_right short
    have cut : min (limit - bytes.length) wide = limit - bytes.length := by omega
    rw [same, cut]
  · have first : limit - min limit bytes.length = 0 := by omega
    have second : limit - bytes.length = 0 := by omega
    rw [first, second, Nat.zero_min]

theorem le_maxFrameLength (limit : Nat) : limit ≤ maxFrameLength limit := Nat.le_max_right _ _

@[simp] theorem delivered_append (log more : List Effect) :
    delivered (log ++ more) = delivered log ++ delivered more := List.filterMap_append

@[simp] theorem sentFrames_append (log more : List Effect) :
    sentFrames (log ++ more) = sentFrames log ++ sentFrames more := List.filterMap_append

/-- What one data frame does when no unfinished message is pending. -/
structure Handled (t next : WsTransport) (messages : List Message)
    (current : Option (MessageType × Bytes)) : Prop where
  delivered : delivered next.log = delivered t.log ++ messages
  sent : sentFrames next.log = sentFrames t.log
  limit : next.mMaxMessageSize = t.mMaxMessageSize
  client : next.mIsClient = t.mIsClient
  reassembles : Reassembles next current

theorem recvData_handled (t : WsTransport) (frame : Frame) (idle : t.mPartial = []) :
    Handled t (t.recvData (truncate t.mMaxMessageSize frame))
      (if frame.fin then [⟨frame.payload.take t.mMaxMessageSize, messageType frame.opcode⟩] else [])
      (if frame.fin then none else some (messageType frame.opcode, frame.payload)) := by
  have cut : (frame.payload.take (maxFrameLength t.mMaxMessageSize)).take t.mMaxMessageSize =
      frame.payload.take t.mMaxMessageSize := by
    rw [List.take_take, Nat.min_eq_left (le_maxFrameLength _)]
  cases last : frame.fin with
  | true =>
    constructor <;> simp [recvData, truncate, idle, last, cut, recv, note, delivered, sentFrames,
      Reassembles]
  | false =>
    constructor <;> simp [recvData, truncate, idle, last, cut, Reassembles]

theorem recvContinuation_handled (t : WsTransport) (frame : Frame) (type : MessageType)
    (bytes : Bytes) (started : Reassembles t (some (type, bytes))) :
    Handled t (t.recvContinuation (truncate t.mMaxMessageSize frame))
      (if frame.fin then [⟨(bytes ++ frame.payload).take t.mMaxMessageSize, type⟩] else [])
      (if frame.fin then none else some (type, bytes ++ frame.payload)) := by
  obtain ⟨collected, kind⟩ := started
  have cut := take_append_take bytes frame.payload t.mMaxMessageSize _
    (le_maxFrameLength t.mMaxMessageSize)
  rw [← collected] at cut
  cases last : frame.fin with
  | true =>
    constructor <;> simp [recvContinuation, truncate, last, cut, kind, recv, note, delivered,
      sentFrames, Reassembles]
  | false =>
    constructor <;> simp [recvContinuation, truncate, last, cut, kind, Reassembles]

theorem Handled.limit_eq {t next : WsTransport} {messages : List Message}
    {current : Option (MessageType × Bytes)} (step : Handled t next messages current) :
    truncate t.mMaxMessageSize = truncate next.mMaxMessageSize := by
  rw [step.limit]

theorem truncate_control (limit : Nat) (frame : Frame)
    (short : frame.payload.length ≤ maxControlFrameLength) : truncate limit frame = frame := by
  have whole : frame.payload.take (maxFrameLength limit) = frame.payload :=
    List.take_of_length_le (Nat.le_trans short (Nat.le_max_left _ _))
  simp only [truncate, whole]

/-- The outcome of a run: the part of the frames that was handled, what it delivered and
sent, and, when frames are left, the PING whose PONG the lower transport refused. -/
structure Outcome (env : Environment) (t : WsTransport) (current : Option (MessageType × Bytes))
    (frames : List Frame) (result : Except Exception Unit) (last : WsTransport) : Prop where
  split : ∃ handled rest, frames = handled ++ rest ∧
    delivered last.log = delivered t.log ++ messagesOf t.mMaxMessageSize current handled ∧
    sentFrames last.log = sentFrames t.log ++ pongsOf t.mIsClient handled ∧
    ((rest = [] ∧ result = .ok ()) ∨
      ∃ ping later e n, rest = ping :: later ∧ ping.opcode = .ping ∧ result = .error e ∧
        env.lower n = .error e)

theorem Outcome.cons {env : Environment} {t next last : WsTransport} {frame : Frame}
    {current after : Option (MessageType × Bytes)} {frames : List Frame}
    {result : Except Exception Unit} (outcome : Outcome env next after frames result last)
    (limit : next.mMaxMessageSize = t.mMaxMessageSize) (client : next.mIsClient = t.mIsClient)
    (messages : ∀ handled, delivered t.log ++ messagesOf t.mMaxMessageSize current (frame :: handled) =
      delivered next.log ++ messagesOf t.mMaxMessageSize after handled)
    (pongs : ∀ handled, sentFrames t.log ++ pongsOf t.mIsClient (frame :: handled) =
      sentFrames next.log ++ pongsOf t.mIsClient handled) :
    Outcome env t current (frame :: frames) result last := by
  obtain ⟨handled, rest, split, outDelivered, outSent, ending⟩ := outcome.split
  refine ⟨frame :: handled, rest, by rw [split, List.cons_append], ?_, ?_, ending⟩
  · rw [outDelivered, limit, messages]
  · rw [outSent, client, pongs]

/-- Only a PING is answered. -/
theorem pongsOf_cons (mask : Bool) {frame : Frame} (frames : List Frame) (other : frame.opcode ≠ .ping) :
    pongsOf mask (frame :: frames) = pongsOf mask frames := by
  simp [pongsOf, other]

theorem wellFormed_isSome {fin : Bool} {frames : List Frame} (rest : WellFormed (!fin) frames)
    (collected : MessageType × Bytes) : WellFormed (if fin then none else some collected).isSome frames := by
  cases fin <;> simpa using rest

theorem Outcome.data {env : Environment} {t last : WsTransport} {frame : Frame} {frames : List Frame}
    {result : Except Exception Unit} (idle : t.mPartial = [])
    (kind : frame.opcode = .textFrame ∨ frame.opcode = .binaryFrame)
    (outcome : Outcome env (t.recvData (truncate t.mMaxMessageSize frame))
      (if frame.fin then none else some (messageType frame.opcode, frame.payload)) frames result last) :
    Outcome env t none (frame :: frames) result last := by
  have step := recvData_handled t frame idle
  refine outcome.cons step.limit step.client ?_ ?_
  · intro handled
    rw [step.delivered, List.append_assoc]
    cases last : frame.fin <;> rcases kind with kind | kind <;> simp [messagesOf, kind, last]
  · intro handled
    rw [step.sent, pongsOf_cons _ _ (by rcases kind with kind | kind <;> simp [kind])]

theorem Outcome.continuation {env : Environment} {t last : WsTransport} {frame : Frame} {frames : List Frame}
    {result : Except Exception Unit} {type : MessageType} {bytes : Bytes}
    (started : Reassembles t (some (type, bytes))) (kind : frame.opcode = .continuation)
    (outcome : Outcome env (t.recvContinuation (truncate t.mMaxMessageSize frame))
      (if frame.fin then none else some (type, bytes ++ frame.payload)) frames result last) :
    Outcome env t (some (type, bytes)) (frame :: frames) result last := by
  have step := recvContinuation_handled t frame type bytes started
  refine outcome.cons step.limit step.client ?_ ?_
  · intro handled
    rw [step.delivered, List.append_assoc]
    cases last : frame.fin <;> simp [messagesOf, kind, last]
  · intro handled
    rw [step.sent, pongsOf_cons _ _ (by simp [kind])]

theorem recvFrame_data (env : Environment) (t : WsTransport) {frame : Frame}
    (kind : frame.opcode = .textFrame ∨ frame.opcode = .binaryFrame) :
    recvFrame env t (truncate t.mMaxMessageSize frame) =
      (.ok (), t.recvData (truncate t.mMaxMessageSize frame)) := by
  rcases kind with kind | kind <;> simp only [recvFrame, truncate, kind]

theorem recvFrames_outcome (env : Environment) (t : WsTransport)
    (current : Option (MessageType × Bytes)) (frames : List Frame)
    (reassembles : Reassembles t current) (wellFormed : WellFormed current.isSome frames) :
    Outcome env t current frames (recvFrames env t (frames.map (truncate t.mMaxMessageSize))).1
      (recvFrames env t (frames.map (truncate t.mMaxMessageSize))).2 := by
  induction frames generalizing t current with
  | nil => exact ⟨[], [], rfl, by simp [recvFrames, messagesOf], by simp [recvFrames, pongsOf],
      Or.inl ⟨rfl, rfl⟩⟩
  | cons frame frames ih =>
    rw [List.map_cons, recvFrames]
    rw [WellFormed] at wellFormed
    have data : (frame.opcode = .textFrame ∨ frame.opcode = .binaryFrame) →
        (current = none ∧ WellFormed (!frame.fin) frames) →
        Outcome env t current (frame :: frames)
          (recvFrames env (t.recvData (truncate t.mMaxMessageSize frame))
            (frames.map (truncate t.mMaxMessageSize))).1
          (recvFrames env (t.recvData (truncate t.mMaxMessageSize frame))
            (frames.map (truncate t.mMaxMessageSize))).2 := by
      rintro kind ⟨rfl, rest⟩
      have step := recvData_handled t frame reassembles
      have outcome := ih _ _ step.reassembles (wellFormed_isSome rest _)
      rw [← step.limit_eq] at outcome
      exact outcome.data reassembles kind
    cases opcode : frame.opcode with
    | textFrame =>
      rw [recvFrame_data env t (Or.inl opcode)]
      exact data (Or.inl opcode) (by simpa [opcode] using wellFormed)
    | binaryFrame =>
      rw [recvFrame_data env t (Or.inr opcode)]
      exact data (Or.inr opcode) (by simpa [opcode] using wellFormed)
    | continuation =>
      simp only [opcode] at wellFormed
      obtain ⟨started, rest⟩ := wellFormed
      obtain ⟨⟨type, bytes⟩, rfl⟩ := Option.isSome_iff_exists.mp started
      have step := recvContinuation_handled t frame type bytes reassembles
      have outcome := ih _ _ step.reassembles (wellFormed_isSome rest _)
      rw [← step.limit_eq] at outcome
      have branch : recvFrame env t (truncate t.mMaxMessageSize frame) =
          (.ok (), t.recvContinuation (truncate t.mMaxMessageSize frame)) := by
        simp only [recvFrame, truncate, opcode]
      rw [branch]
      exact outcome.continuation reassembles opcode
    | ping =>
      simp only [opcode] at wellFormed
      rw [truncate_control _ _ wellFormed.1]
      simp only [recvFrame, opcode, sendFrame, outgoing]
      cases answer : env.lower t.sends with
      | error e =>
        refine ⟨[], frame :: frames, rfl, by simp [messagesOf, Except.map], by simp [pongsOf, Except.map],
          Or.inr ⟨frame, frames, e, t.sends, rfl, opcode, rfl, answer⟩⟩
      | ok accepted =>
        simp only [Except.map]
        refine (ih _ current ?_ wellFormed.2).cons rfl rfl ?_ ?_
        · cases current <;> exact reassembles
        · intro handled
          simp [messagesOf, opcode, delivered]
        · intro handled
          simp [pongsOf, opcode, sentFrames]
    | pong =>
      simp only [opcode] at wellFormed
      have branch : recvFrame env t (truncate t.mMaxMessageSize frame) =
          (.ok (), { t with mOutstandingPings := 0 }) := by
        simp only [recvFrame, truncate, opcode]
      rw [branch]
      refine (ih _ current ?_ wellFormed.2).cons rfl rfl ?_ ?_
      · cases current <;> exact reassembles
      · intro handled
        simp [messagesOf, opcode]
      · intro handled
        rw [pongsOf_cons _ _ (by simp [opcode])]
    | close => simp only [opcode] at wellFormed
    | other code => simp only [opcode] at wellFormed

/-- A well-formed sequence gives one message for each completed data message and one PONG for
each PING. It is handled to its end unless the lower transport throws on a PONG. -/
theorem recvFrames_wellFormed (env : Environment) (t : WsTransport) (frames : List Frame)
    (idle : t.mPartial = []) (wellFormed : WellFormed false frames) :
    ∃ handled rest result last,
      recvFrames env t (frames.map (truncate t.mMaxMessageSize)) = (result, last) ∧
      frames = handled ++ rest ∧
      delivered last.log = delivered t.log ++ messagesOf t.mMaxMessageSize none handled ∧
      sentFrames last.log = sentFrames t.log ++ pongsOf t.mIsClient handled ∧
      ((rest = [] ∧ result = .ok ()) ∨
        ∃ ping later e n, rest = ping :: later ∧ ping.opcode = .ping ∧ result = .error e ∧
          env.lower n = .error e) := by
  obtain ⟨handled, rest, split, messages, pongs, ending⟩ :=
    (recvFrames_outcome env t none frames idle wellFormed).split
  exact ⟨handled, rest, _, _, rfl, split, messages, pongs, ending⟩

/-- A lower transport that takes everything, under one masking key. -/
def accepting (key : MaskingKey) : Environment where
  sha1 := fun _ => ⟨List.replicate 20 0, rfl⟩
  maskingKey := fun _ => key
  lower := fun _ => .ok true

def sampleKey : MaskingKey := ⟨[1, 2, 3, 4], rfl⟩

def openClient : WsTransport where
  mHandshake := {}
  mIsClient := true
  mMaxMessageSize := 3
  mMaxOutstandingPings := 0
  mBuffer := []
  mPartial := []
  mPartialOpcode := .continuation
  mIgnoreLength := 0
  mOutstandingPings := 0
  mCloseSent := false
  state := .connected
  sends := 0
  log := []

/-- An empty first fragment, a PING inside the message and a continuation over the limit. -/
def emptyFirstFragment : List Frame :=
  [⟨.textFrame, [], false, false⟩, ⟨.ping, [7], true, false⟩,
    ⟨.continuation, [65, 66, 67, 68], true, false⟩]

theorem recvFrames_emptyFirstFragment :
    ∃ handled rest result last,
      recvFrames (accepting ⟨[1, 2, 3, 4], rfl⟩) openClient (emptyFirstFragment.map (truncate 3)) =
        (result, last) ∧
      emptyFirstFragment = handled ++ rest ∧
      delivered last.log = delivered [] ++ messagesOf 3 none handled ∧
      sentFrames last.log = sentFrames [] ++ pongsOf true handled ∧
      ((rest = [] ∧ result = .ok ()) ∨
        ∃ ping later e n, rest = ping :: later ∧ ping.opcode = .ping ∧ result = .error e ∧
          (accepting ⟨[1, 2, 3, 4], rfl⟩).lower n = .error e) :=
  recvFrames_wellFormed _ openClient _ rfl (by simp [emptyFirstFragment, WellFormed, maxControlFrameLength])

example : delivered
    (recvFrames (accepting ⟨[1, 2, 3, 4], rfl⟩) openClient emptyFirstFragment).2.log =
      [⟨[65, 66, 67], .string⟩] := by
  decide

end WebsocketClient.WsMessages
