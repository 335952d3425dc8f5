import WebsocketClient.Library.Runs
import WebsocketClient.TcpPoll

/-! The two copies of the buffered amount: the one of the `TcpTransport`, and the one of the `Channel`, which
hears of every change through a callback as long as the transport is the one of the connection. -/

namespace WebsocketClient.BufferedAmounts
open ByteString Queues Transports TcpTransports Library.Runs

/-- The size of the messages in `mSendQueue`. -/
def total (t : TcpTransport) : Nat := (t.mSendQueue.mQueue.map List.length).sum

structure WebSocket where
  mTcpTransport : Option TcpTransport
  bufferedAmount : Nat
  bufferedAmountLowThreshold : Nat
  /-- How often `bufferedAmountLowCallback` was called, and how often the total went from above the threshold to
  the threshold or below. -/
  lowCalls : Nat
  lows : Nat
  deriving DecidableEq, Repr

/-- A transport that is constructed, with `start` to follow. -/
def transport : TcpTransport where
  state := .connecting
  mSendQueue := .new 0
  mBufferedAmount := 0
  poll := none
  wire := []
  sendCalls := 0
  updates := []

/-- The amount that `updateBufferedAmount` comes to. -/
def amountOf (update : Nat × Int) : Nat := (max ((update.1 : Int) + update.2) 0).toNat

def passes (threshold before after : Nat) : Nat := if threshold < before ∧ after ≤ threshold then 1 else 0

/-- The least total on the way through `send`: behind `trySendQueue`, which takes from the queue only. -/
def lowest (kernel : Kernel) (t : TcpTransport) : Nat :=
  if t.state ≠ .connected then total t
  else
    match t.trySendQueue kernel with
    | none => total t
    | some (_, next) => total next

namespace WebSocket
variable (ws : WebSocket)

def triggerBufferedAmount (amount : Nat) : WebSocket :=
  let previous := ws.bufferedAmount
  let threshold := ws.bufferedAmountLowThreshold
  let ws := { ws with bufferedAmount := amount }
  if threshold < previous ∧ amount ≤ threshold then { ws with lowCalls := ws.lowCalls + 1 } else ws

def hear (updates : List (Nat × Int)) : WebSocket :=
  updates.foldl (fun ws update => ws.triggerBufferedAmount (amountOf update)) ws

/-- The total of the current `TcpTransport`. -/
def total : Nat :=
  match ws.mTcpTransport with
  | none => 0
  | some t => BufferedAmounts.total t

/-- An operation of the transport, with the totals on its way. -/
def follow (t next : TcpTransport) (lowest : Nat) : WebSocket :=
  let lows := passes ws.bufferedAmountLowThreshold (BufferedAmounts.total t) lowest +
    passes ws.bufferedAmountLowThreshold lowest (BufferedAmounts.total next)
  { ws with mTcpTransport := some next, lows := ws.lows + lows }.hear (next.updates.drop t.updates.length)

def new : WebSocket where
  mTcpTransport := none
  bufferedAmount := 0
  bufferedAmountLowThreshold := 0
  lowCalls := 0
  lows := 0

/-- The first half of `closeTransports`: the transport is let go of, and is not heard any more. -/
def closeTransports : WebSocket :=
  { ws with mTcpTransport := none, lows := ws.lows + passes ws.bufferedAmountLowThreshold ws.total 0 }

end WebSocket

inductive Label where
  | «open»
  | connected
  /-- A message that a transport above hands down, and the kernel's answers. -/
  | send (kernel : Kernel) (message : Option Bytes)
  | out (kernel : Kernel)
  | lost
  | close
  | setBufferedAmountLowThreshold (threshold : Nat)

/-- The operations come one at a time. -/
inductive Step (ws : WebSocket) : Label → WebSocket → Prop where
  | «open» : ws.mTcpTransport = none → Step ws .open { ws with mTcpTransport := some transport }
  | connected (t : TcpTransport) : ws.mTcpTransport = some t →
      Step ws .connected { ws with mTcpTransport := some ({ t with state := .connected }.setPoll .in) }
  | send (t next : TcpTransport) (kernel : Kernel) (message : Option Bytes) (result : Except Exception Bool) :
      ws.mTcpTransport = some t → t.send kernel message = some (result, next) →
      Step ws (.send kernel message) (ws.follow t next (lowest kernel t))
  | out (t next : TcpTransport) (kernel : Kernel) : ws.mTcpTransport = some t → t.processOut kernel = some next →
      Step ws (.out kernel) (ws.follow t next (total next))
  | lost (t : TcpTransport) : ws.mTcpTransport = some t →
      Step ws .lost { ws with mTcpTransport := some t.disconnect }
  | close : Step ws .close ws.closeTransports
  | setBufferedAmountLowThreshold (threshold : Nat) :
      Step ws (.setBufferedAmountLowThreshold threshold) { ws with bufferedAmountLowThreshold := threshold }

/-- The amount is that of the queue, and the application has heard of each low. -/
structure Exact (ws : WebSocket) : Prop where
  amount : ws.bufferedAmount = ws.total
  lows : ws.lowCalls = ws.lows

/-- The connection is not closed while anything is queued. -/
def ClosesEmpty (ws : WebSocket) (label : Label) : Prop :=
  match label with
  | .close => ws.total = 0
  | _ => True

/-! ### Lows -/

theorem passes_trans {threshold before between after : Nat} (first : between ≤ before) (second : after ≤ between) :
    passes threshold before between + passes threshold between after = passes threshold before after := by
  unfold passes
  split_ifs <;> omega

theorem passes_up {threshold before after : Nat} (up : before ≤ after) : passes threshold before after = 0 := by
  unfold passes
  split_ifs
  · omega
  · rfl

theorem WebSocket.triggerBufferedAmount_eq (ws : WebSocket) (amount : Nat) :
    ws.triggerBufferedAmount amount =
      { ws with
        bufferedAmount := amount
        lowCalls := ws.lowCalls + passes ws.bufferedAmountLowThreshold ws.bufferedAmount amount } := by
  unfold WebSocket.triggerBufferedAmount passes
  simp only
  split <;> rfl

/-- An operation calls back so that the channel comes to the amount, with some number of lows. -/
def Tells (t next : TcpTransport) (lows : Nat → Nat) : Prop :=
  ∃ updates, next.updates = t.updates ++ updates ∧
    ∀ ws : WebSocket, ws.bufferedAmount = t.mBufferedAmount →
      ws.hear updates = { ws with
        bufferedAmount := next.mBufferedAmount
        lowCalls := ws.lowCalls + lows ws.bufferedAmountLowThreshold }

theorem Tells.trans {first second third : TcpTransport} {lows later : Nat → Nat} (one : Tells first second lows)
    (two : Tells second third later) : Tells first third (fun threshold => lows threshold + later threshold) := by
  obtain ⟨updates, recorded, heard⟩ := one
  obtain ⟨more, recordedMore, heardMore⟩ := two
  refine ⟨updates ++ more, ?_, fun ws same => ?_⟩
  · rw [recordedMore, recorded, List.append_assoc]
  · have joined : ws.hear (updates ++ more) = (ws.hear updates).hear more := List.foldl_append
    rw [joined, heard ws same, heardMore _ rfl, Nat.add_assoc]

theorem Tells.of_same {t next : TcpTransport} (updates : next.updates = t.updates)
    (amount : next.mBufferedAmount = t.mBufferedAmount) : Tells t next (fun _ => 0) := by
  refine ⟨[], by rw [updates, List.append_nil], fun ws same => ?_⟩
  rw [amount, ← same]
  rfl

theorem tells_update (t : TcpTransport) (delta : Int) :
    Tells t (t.updateBufferedAmount delta)
      (fun threshold => passes threshold t.mBufferedAmount (t.updateBufferedAmount delta).mBufferedAmount) := by
  unfold TcpTransport.updateBufferedAmount
  split
  · refine ⟨[], by rw [List.append_nil], fun ws same => ?_⟩
    simp only [passes_up (Nat.le_refl _), ← same]
    rfl
  · refine ⟨[(t.mBufferedAmount, delta)], rfl, fun ws same => ?_⟩
    have one : ws.hear [(t.mBufferedAmount, delta)] =
        ws.triggerBufferedAmount (amountOf (t.mBufferedAmount, delta)) := rfl
    rw [one, ws.triggerBufferedAmount_eq, same]
    rfl

/-! ### What the operations of a transport tell -/

/-- The amount is that of the queue, which has no limit. -/
structure Buffered (t : TcpTransport) : Prop where
  amount : t.mBufferedAmount = total t
  unlimited : t.mSendQueue.mLimit = 0
  running : t.mSendQueue.mStopping = false

/-- An operation keeps the amount, and tells of the lows that are met from the first total to the last. -/
structure Told (t next : TcpTransport) (lows : Nat → Nat) : Prop where
  buffered : Buffered next
  tells : Tells t next lows

section
variable {kernel : Kernel}

theorem trySendFrom_rest (rounds : Nat) :
    ∀ (data rest : Bytes) (t next : TcpTransport),
      TcpTransport.trySendFrom kernel rounds data t = some (.ok (some rest), next) → rest.length ≤ data.length := by
  induction rounds with
  | zero =>
    intro data rest t next returned
    cases data with
    | nil => simp [TcpTransport.trySendFrom] at returned
    | cons b later => simp [TcpTransport.trySendFrom] at returned
  | succ rounds ih =>
    intro data rest t next returned
    cases data with
    | nil => simp [TcpTransport.trySendFrom] at returned
    | cons b later =>
      rw [TcpTransport.trySendFrom] at returned
      cases answer : kernel.send t.sendCalls (toInt (b :: later).length) with
      | accepted length =>
        simp only [answer] at returned
        have bound := ih _ _ _ _ returned
        rw [List.length_drop] at bound
        omega
      | wouldBlock =>
        simp only [answer, Option.some.injEq, Prod.mk.injEq, Except.ok.injEq] at returned
        rw [← returned.1]
      | error => simp only [answer, Option.some.injEq, Prod.mk.injEq, reduceCtorEq, false_and] at returned

theorem told_update (t between : TcpTransport) (delta : Int) (amount : between.mBufferedAmount = t.mBufferedAmount)
    (updates : between.updates = t.updates) (unlimited : between.mSendQueue.mLimit = 0)
    (running : between.mSendQueue.mStopping = false) (buffered : Buffered t)
    (sum : (total between : Int) = total t + delta) :
    Told t (between.updateBufferedAmount delta) (fun threshold => passes threshold (total t) (total between)) ∧
      total (between.updateBufferedAmount delta) = total between := by
  have queue := TcpTransports.updateBufferedAmount_queue between delta
  have same : total (between.updateBufferedAmount delta) = total between := by
    unfold total
    rw [queue]
  have next : (between.updateBufferedAmount delta).mBufferedAmount = total between := by
    have before := buffered.amount
    unfold TcpTransport.updateBufferedAmount
    split
    · omega
    · simp only
      omega
  refine ⟨⟨⟨next.trans same.symm, by rw [queue, unlimited], by rw [queue, running]⟩, ?_⟩, same⟩
  have both := (Tells.of_same updates amount).trans (tells_update between delta)
  rw [amount, buffered.amount, next] at both
  simpa using both

theorem Told.trans {first second third : TcpTransport} {lows later : Nat → Nat} (one : Told first second lows)
    (two : Told second third later) : Told first third (fun threshold => lows threshold + later threshold) :=
  ⟨two.buffered, one.tells.trans two.tells⟩

theorem Told.of_same {t next : TcpTransport} (buffered : Buffered t) (queue : next.mSendQueue = t.mSendQueue)
    (amount : next.mBufferedAmount = t.mBufferedAmount) (updates : next.updates = t.updates) :
    Told t next (fun _ => 0) := by
  refine ⟨⟨?_, by rw [queue, buffered.unlimited], by rw [queue, buffered.running]⟩, Tells.of_same updates amount⟩
  rw [amount, buffered.amount]
  unfold total
  rw [queue]

/-- `trySendQueue` only takes from the queue. -/
structure Flushed (t next : TcpTransport) : Prop where
  told : Told t next (fun threshold => passes threshold (total t) (total next))
  down : total next ≤ total t

theorem Flushed.trans {first second third : TcpTransport} (one : Flushed first second) (two : Flushed second third) :
    Flushed first third := by
  refine ⟨?_, Nat.le_trans two.down one.down⟩
  have both := one.told.trans two.told
  simpa only [passes_trans one.down two.down] using both

theorem Flushed.of_same {t next : TcpTransport} (buffered : Buffered t) (queue : next.mSendQueue = t.mSendQueue)
    (amount : next.mBufferedAmount = t.mBufferedAmount) (updates : next.updates = t.updates) : Flushed t next := by
  have same : total next = total t := by
    unfold total
    rw [queue]
  refine ⟨?_, Nat.le_of_eq same⟩
  simpa only [same, passes_up (Nat.le_refl _)] using Told.of_same buffered queue amount updates

theorem flushed_update (t between : TcpTransport) (delta : Int) (amount : between.mBufferedAmount = t.mBufferedAmount)
    (updates : between.updates = t.updates) (unlimited : between.mSendQueue.mLimit = 0)
    (running : between.mSendQueue.mStopping = false) (buffered : Buffered t)
    (sum : (total between : Int) = total t + delta) (down : delta ≤ 0) :
    Flushed t (between.updateBufferedAmount delta) := by
  obtain ⟨told, same⟩ := told_update t between delta amount updates unlimited running buffered sum
  refine ⟨same ▸ told, ?_⟩
  rw [same]
  omega

theorem popped_flushed {t : TcpTransport} {message : Bytes} {later : List Bytes} (wire : Bytes) (calls : Nat)
    (buffered : Buffered t) (queue : t.mSendQueue.mQueue = message :: later) :
    Flushed t (TcpTransport.updateBufferedAmount
      { t with wire := wire, sendCalls := calls, mSendQueue := (t.mSendQueue.pop TcpTransport.count).2 }
      (-message.length)) := by
  have whole : total t = message.length + (later.map List.length).sum := by simp [total, queue]
  apply flushed_update t
  · rfl
  · rfl
  · simp [Queue.pop, queue, buffered.unlimited]
  · simp [Queue.pop, queue, buffered.running]
  · exact buffered
  · have left : (t.mSendQueue.pop TcpTransport.count).2.mQueue = later := by simp [Queue.pop, queue]
    rw [whole]
    simp only [total, left]
    omega
  · omega

theorem exchanged_flushed {t : TcpTransport} {message rest : Bytes} {later : List Bytes} (wire : Bytes) (calls : Nat)
    (buffered : Buffered t) (queue : t.mSendQueue.mQueue = message :: later) (shorter : rest.length ≤ message.length) :
    Flushed t (TcpTransport.updateBufferedAmount
      { t with wire := wire, sendCalls := calls, mSendQueue := (t.mSendQueue.exchange rest).2 }
      (-message.length + rest.length)) := by
  have whole : total t = message.length + (later.map List.length).sum := by simp [total, queue]
  apply flushed_update t
  · rfl
  · rfl
  · simp [Queue.exchange, queue, buffered.unlimited]
  · simp [Queue.exchange, queue, buffered.running]
  · exact buffered
  · have left : (t.mSendQueue.exchange rest).2.mQueue = rest :: later := by simp [Queue.exchange, queue]
    rw [whole]
    simp only [total, left, List.map_cons, List.sum_cons]
    omega
  · omega

theorem trySendQueueFrom_flushed (rounds : Nat) :
    ∀ (t next : TcpTransport) (result : Except Exception Bool), Buffered t →
      TcpTransport.trySendQueueFrom kernel rounds t = some (result, next) → Flushed t next := by
  induction rounds with
  | zero =>
    intro t next result _ returned
    simp [TcpTransport.trySendQueueFrom] at returned
  | succ rounds ih =>
    intro t next result buffered returned
    rw [TcpTransport.trySendQueueFrom] at returned
    cases queue : t.mSendQueue.mQueue with
    | nil =>
      simp only [Queue.peek, queue, List.head?_nil, Option.some.injEq, Prod.mk.injEq] at returned
      exact returned.2 ▸ Flushed.of_same buffered rfl rfl rfl
    | cons message later =>
      simp only [Queue.peek, queue, List.head?_cons] at returned
      rcases tried : t.trySendMessage kernel message with _ | ⟨_ | _ | rest, between⟩
      · simp [tried] at returned
      · simp only [tried, Option.some.injEq, Prod.mk.injEq] at returned
        obtain ⟨wire, calls, same⟩ := TcpPolls.trySendFrom_frame _ _ _ _ _ tried
        rw [← returned.2, same]
        exact Flushed.of_same buffered rfl rfl rfl
      · simp only [tried] at returned
        obtain ⟨wire, calls, same⟩ := TcpPolls.trySendFrom_frame _ _ _ _ _ tried
        have head := popped_flushed wire calls buffered queue
        simp only [same] at returned
        exact head.trans (ih _ next result head.told.buffered returned)
      · simp only [tried, Option.some.injEq, Prod.mk.injEq] at returned
        obtain ⟨wire, calls, same⟩ := TcpPolls.trySendFrom_frame _ _ _ _ _ tried
        rw [← returned.2, same]
        exact exchanged_flushed wire calls buffered queue (trySendFrom_rest _ _ _ _ _ tried)

theorem trySendQueue_flushed {t next : TcpTransport} {result : Except Exception Bool} (buffered : Buffered t)
    (returned : t.trySendQueue kernel = some (result, next)) : Flushed t next :=
  trySendQueueFrom_flushed _ t next result buffered returned

/-- A message that is queued only adds to the amount. -/
theorem enqueue_told {t next : TcpTransport} {message : Bytes} {result : Except Exception Bool} (buffered : Buffered t)
    (returned : t.enqueue message = some (result, next)) : Told t next (fun _ => 0) ∧ total t ≤ total next := by
  have room : t.mSendQueue.hasRoom := .inl buffered.unlimited
  simp only [TcpTransport.enqueue, Queue.push_running _ _ _ buffered.running room, Option.some.injEq,
    Prod.mk.injEq] at returned
  obtain ⟨_, rfl⟩ := returned
  obtain ⟨told, same⟩ := told_update t
    { t with mSendQueue := { t.mSendQueue with
        mAmount := t.mSendQueue.mAmount + UInt64.ofNat (TcpTransport.count message)
        mQueue := t.mSendQueue.mQueue ++ [message] } }
    message.length rfl rfl buffered.unlimited buffered.running buffered (by simp [total])
  have grown : total t ≤ total { t with mSendQueue := { t.mSendQueue with
        mAmount := t.mSendQueue.mAmount + UInt64.ofNat (TcpTransport.count message)
        mQueue := t.mSendQueue.mQueue ++ [message] } } := by
    simp [total]
  simp only [passes_up grown] at told
  exact ⟨⟨⟨told.buffered.amount, told.buffered.unlimited, told.buffered.running⟩, told.tells⟩, by
    rw [← same] at grown
    exact grown⟩

theorem outgoing_cases {t next : TcpTransport} {message : Bytes} {result : Except Exception Bool}
    (buffered : Buffered t)
    (returned : t.outgoing kernel message = some (result, next)) :
    ∃ flushed between, t.trySendQueue kernel = some (flushed, between) ∧ Told between next (fun _ => 0) ∧
      total between ≤ total next := by
  rw [TcpTransport.outgoing] at returned
  rcases flush : t.trySendQueue kernel with _ | ⟨_ | _ | _, between⟩
  · simp [flush] at returned
  all_goals
    have between_buffered := (trySendQueue_flushed buffered flush).told.buffered
    refine ⟨_, between, rfl, ?_⟩
    simp only [flush] at returned
  · obtain ⟨_, rfl⟩ := Prod.mk.inj (Option.some.inj returned)
    exact ⟨.of_same between_buffered rfl rfl rfl, Nat.le_refl _⟩
  · exact enqueue_told between_buffered returned
  · rcases tried : between.trySendMessage kernel message with _ | ⟨_ | _ | rest, after⟩
    · simp [tried] at returned
    all_goals
      obtain ⟨wire, calls, same⟩ := TcpPolls.trySendFrom_frame _ _ _ _ _ tried
      have kept : Told between after (fun _ => 0) := by
        rw [same]
        exact .of_same between_buffered rfl rfl rfl
      have equal : total after = total between := by rw [same]; rfl
      simp only [tried] at returned
    · obtain ⟨_, rfl⟩ := Prod.mk.inj (Option.some.inj returned)
      exact ⟨kept, Nat.le_of_eq equal.symm⟩
    · obtain ⟨_, rfl⟩ := Prod.mk.inj (Option.some.inj returned)
      exact ⟨kept, Nat.le_of_eq equal.symm⟩
    · obtain ⟨told, grown⟩ := enqueue_told kept.buffered returned
      exact ⟨kept.trans told, equal ▸ grown⟩

theorem send_told {t next : TcpTransport} {message : Option Bytes} {result : Except Exception Bool}
    (buffered : Buffered t) (returned : t.send kernel message = some (result, next)) :
    Told t next (fun threshold => passes threshold (total t) (lowest kernel t) +
      passes threshold (lowest kernel t) (total next)) := by
  unfold TcpTransport.send at returned
  unfold lowest
  by_cases connected : t.state ≠ .connected
  · rw [if_pos connected] at returned ⊢
    obtain ⟨_, rfl⟩ := Prod.mk.inj (Option.some.inj returned)
    simpa only [passes_up (Nat.le_refl _)] using Told.of_same buffered rfl rfl rfl
  · rw [if_neg connected] at returned ⊢
    have flush : t.trySendQueue kernel = some (result, next) →
        Told t next (fun threshold =>
          passes threshold (total t) (total next) + passes threshold (total next) (total next)) := by
      intro returned
      simpa only [passes_up (Nat.le_refl _), Nat.add_zero] using (trySendQueue_flushed buffered returned).told
    cases message with
    | none =>
      simp only at returned
      rw [returned]
      exact flush returned
    | some message =>
      simp only at returned
      split at returned
      · rw [returned]
        exact flush returned
      · obtain ⟨flushed, between, flushes, later, grown⟩ := outgoing_cases buffered returned
        simp only [flushes]
        have both := (trySendQueue_flushed buffered flushes).told.trans later
        simpa only [passes_up grown] using both

theorem processOut_told {t next : TcpTransport} (buffered : Buffered t)
    (returned : t.processOut kernel = some next) :
    Told t next (fun threshold => passes threshold (total t) (total next)) := by
  unfold TcpTransport.processOut at returned
  rcases flush : t.trySendQueue kernel with _ | ⟨_ | _ | _, between⟩
  · simp [flush] at returned
  all_goals
    have told := (trySendQueue_flushed buffered flush).told
    simp only [flush, Option.some.injEq] at returned
    subst returned
    exact ⟨⟨told.buffered.amount, told.buffered.unlimited, told.buffered.running⟩, told.tells⟩

end

/-! ### Runs -/

structure Inv (ws : WebSocket) : Prop extends Exact ws where
  buffered : ∀ t, ws.mTcpTransport = some t → Buffered t

theorem Inv.follow {ws : WebSocket} {t next : TcpTransport} {lowest : Nat} (inv : Inv ws)
    (current : ws.mTcpTransport = some t)
    (told : Told t next (fun threshold => passes threshold (total t) lowest + passes threshold lowest (total next))) :
    Inv (ws.follow t next lowest) := by
  have amount := inv.amount
  have lows := inv.lows
  simp only [WebSocket.total, current] at amount
  obtain ⟨updates, recorded, heard⟩ := told.tells
  have before : ws.bufferedAmount = t.mBufferedAmount := by rw [amount, (inv.buffered t current).amount]
  have followed : ws.follow t next lowest =
      { ws with
        mTcpTransport := some next
        bufferedAmount := next.mBufferedAmount
        lowCalls := ws.lowCalls + (passes ws.bufferedAmountLowThreshold (total t) lowest +
          passes ws.bufferedAmountLowThreshold lowest (total next))
        lows := ws.lows + (passes ws.bufferedAmountLowThreshold (total t) lowest +
          passes ws.bufferedAmountLowThreshold lowest (total next)) } := by
    unfold WebSocket.follow
    rw [recorded, List.drop_left]
    exact heard { ws with mTcpTransport := some next, lows := _ } before
  rw [followed]
  refine ⟨⟨told.buffered.amount, ?_⟩, ?_⟩
  · simp only [lows]
  · rintro other same
    rw [← Option.some.inj same]
    exact told.buffered

theorem Inv.replace {ws : WebSocket} {t next : TcpTransport} (inv : Inv ws) (current : ws.mTcpTransport = some t)
    (queue : next.mSendQueue = t.mSendQueue) (amount : next.mBufferedAmount = t.mBufferedAmount) :
    Inv { ws with mTcpTransport := some next } := by
  have buffered := inv.buffered t current
  have same : total next = total t := by
    unfold total
    rw [queue]
  refine ⟨⟨?_, inv.lows⟩, ?_⟩
  · have before := inv.amount
    simp only [WebSocket.total, current] at before ⊢
    rw [before, same]
  · rintro other found
    rw [← Option.some.inj found]
    exact ⟨by rw [amount, buffered.amount, same], by rw [queue, buffered.unlimited], by rw [queue, buffered.running]⟩

theorem keeps_inv (ws : WebSocket) (label : Label) (next : WebSocket) (inv : Inv ws) (step : Step ws label next)
    (closes : ClosesEmpty ws label) : Inv next := by
  cases step with
  | «open» none =>
    refine ⟨⟨?_, inv.lows⟩, ?_⟩
    · have before := inv.amount
      simp only [WebSocket.total, none] at before
      exact before
    · rintro t same
      rw [← Option.some.inj same]
      exact ⟨rfl, rfl, rfl⟩
  | connected t current => exact inv.replace current rfl rfl
  | send t after kernel message result current returned =>
    exact inv.follow current (send_told (inv.buffered t current) returned)
  | out t after kernel current returned =>
    have told := processOut_told (inv.buffered t current) returned
    apply inv.follow current
    simpa only [passes_up (Nat.le_refl _), Nat.add_zero] using told
  | lost t current => exact inv.replace current rfl rfl
  | close =>
    have zero : ws.total = 0 := closes
    refine ⟨⟨inv.amount.trans zero, ?_⟩, fun t none => absurd none (by simp [WebSocket.closeTransports])⟩
    have lows := inv.lows
    simp only [WebSocket.closeTransports, zero, passes_up (Nat.le_refl 0)]
    exact lows
  | setBufferedAmountLowThreshold threshold => exact ⟨⟨inv.amount, inv.lows⟩, inv.buffered⟩

theorem breaks_exact (ws : WebSocket) (label : Label) (next : WebSocket) (inv : Inv ws) (step : Step ws label next)
    (against : ¬ClosesEmpty ws label) : ¬Exact next := by
  cases step with
  | close =>
    intro exact'
    have after : ws.bufferedAmount = 0 := exact'.amount
    exact against (inv.amount.symm.trans after)
  | «open» | connected | send | out | lost | setBufferedAmountLowThreshold => exact absurd trivial against

theorem new_inv : Inv WebSocket.new := ⟨⟨rfl, rfl⟩, fun _ none => absurd none (by simp [WebSocket.new])⟩

/-- The amount is exact, and each low is called back once, exactly when nothing is queued where the connection is
closed. -/
theorem buffered_iff (trace : List (Label × WebSocket)) (run : Run Step WebSocket.new trace) :
    Always Exact WebSocket.new trace ↔ Guarded ClosesEmpty WebSocket.new trace :=
  always_iff (fun _ inv => inv.toExact) keeps_inv breaks_exact trace _ new_inv run

/-- A message is queued. -/
def queueing : List (Label × WebSocket) :=
  let one := { WebSocket.new with mTcpTransport := some transport }
  let start := { transport with state := .connected }.setPoll .in
  let two := { one with mTcpTransport := some start }
  let waiting := { start with
    mSendQueue := ⟨0, 1, [[71]], false⟩
    mBufferedAmount := 1
    poll := some .both
    sendCalls := 1
    updates := [(0, 1)] }
  [(.open, one), (.connected, two), (.send TcpPolls.blocked (some [71]), two.follow start waiting 0)]

theorem queueing_run : Run Step WebSocket.new queueing := by
  refine ⟨.open rfl, .connected _ rfl, ?_, trivial⟩
  exact .send _ _ _ _ (.ok false) rfl (by decide)

theorem buffered_queueing : Always Exact WebSocket.new queueing ↔ Guarded ClosesEmpty WebSocket.new queueing :=
  buffered_iff queueing queueing_run

/-- The connection is closed, and its amount stays. -/
theorem closing_not_exact : ¬∀ trace : List (Label × WebSocket), Run Step WebSocket.new trace →
    Always Exact WebSocket.new trace := by
  intro all
  have more : Run Step (last WebSocket.new queueing) [(.close, (last WebSocket.new queueing).closeTransports)] :=
    ⟨.close, trivial⟩
  have amount := (all _ (queueing_run.append more)).last.amount
  rw [last_append] at amount
  exact absurd amount (by decide)

end WebsocketClient.BufferedAmounts
