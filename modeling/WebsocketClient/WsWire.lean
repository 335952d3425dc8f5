import WebsocketClient.FrameLoop
import WebsocketClient.Library.Runs
import WebsocketClient.SessionFrames
import WebsocketClient.WsTerminal
import WebsocketClient.WsUpgrade

/-! What a `WsTransport` writes in any run, whatever the other end and the network do. -/

namespace WebsocketClient.WsWires
open ByteString Messages Frames Http Handshake Transports WsTransports WsTransport WsLogs WsTerminals Library.Runs
open Sessions (sentOf sents sents_append changeState_unsent changeState_state)

/-- A frame that an end may write: a whole message or a control frame, masked by the client alone. -/
structure Proper (client : Bool) (frame : Frame) : Prop where
  fin : frame.fin = true
  mask : frame.mask = client
  opcode : frame.opcode ∈ [Opcode.textFrame, .binaryFrame, .close, .ping, .pong]
  close : frame.opcode = .close → frame.payload = []
  ping : frame.opcode = .ping → frame.payload = [0, 0, 0, 0]

def Framed (client : Bool) : Sent → Prop
  | .http _ => False
  | .frame frame _ => Proper client frame

/-- No lower transport throws a `RequestError`. -/
def Foreign (env : Environment) : Prop := ∀ n what code, env.lower n ≠ .error (.requestError what code)

/-- What a transport that was started has written: the head of its handshake and then frames, or, at a server, nothing
yet or only the answer to a request that it has refused. -/
inductive Written (env : Environment) (random : Key) (t : WsTransport) : Prop where
  | client (frames : List Sent) : t.mIsClient = true →
      sents t.log = .http (t.mHandshake.generateHttpRequest random).2 :: frames →
      (∀ sent ∈ frames, Framed true sent) → (t.state = .connecting → frames = []) → Written env random t
  | silent : t.mIsClient = false → t.state ≠ .connected → sents t.log = [] → Written env random t
  | refused (code : Nat) : t.mIsClient = false → t.state = .failed ∨ t.state = .disconnected →
      sents t.log = [.http (generateHttpError code)] → Written env random t
  | server (frames : List Sent) : t.mIsClient = false → t.state ≠ .connecting →
      sents t.log = .http (t.mHandshake.generateHttpResponse env.sha1) :: frames →
      (∀ sent ∈ frames, Framed false sent) → Written env random t

/-! ### Frames -/

/-- The transport went on by some frames, and does not open again. -/
structure Writes (t next : WsTransport) : Prop where
  grows : ∃ more, sents next.log = sents t.log ++ more ∧ ∀ sent ∈ more, Framed t.mIsClient sent
  client : next.mIsClient = t.mIsClient
  handshake : next.mHandshake = t.mHandshake
  state : next.state = t.state ∨ next.state = .disconnected ∨ next.state = .failed

section
variable {env : Environment} {t next later : WsTransport}

theorem Writes.of_unsent (sent : sents next.log = sents t.log) (client : next.mIsClient = t.mIsClient)
    (handshake : next.mHandshake = t.mHandshake)
    (state : next.state = t.state ∨ next.state = .disconnected ∨ next.state = .failed) : Writes t next :=
  ⟨⟨[], by rw [sent, List.append_nil], nofun⟩, client, handshake, state⟩

theorem Writes.refl (t : WsTransport) : Writes t t := .of_unsent rfl rfl rfl (.inl rfl)

theorem Writes.trans (first : Writes t next) (second : Writes next later) : Writes t later where
  grows := by
    obtain ⟨more, grown, framed⟩ := first.grows
    obtain ⟨others, grown', framed'⟩ := second.grows
    refine ⟨more ++ others, by rw [grown', grown, List.append_assoc], ?_⟩
    intro sent member
    rcases List.mem_append.mp member with early | late
    · exact framed sent early
    · rw [← first.client]
      exact framed' sent late
  client := second.client.trans first.client
  handshake := second.handshake.trans first.handshake
  state := by
    rcases second.state with same | gone
    · rw [same]
      exact first.state
    · exact .inr gone

theorem Writes.note {effect : Effect} (other : sentOf effect = none) : Writes t (t.note effect) := by
  have same : sents (t.note effect).log = sents t.log := by
    have none : sents [effect] = [] := List.filterMap_cons_none other
    show sents (t.log ++ [effect]) = sents t.log
    rw [sents_append, none, List.append_nil]
  exact .of_unsent same rfl rfl (.inl rfl)

theorem changeState_writes {s : State} (final : s = .disconnected ∨ s = .failed) : Writes t (t.changeState s) := by
  unfold changeState
  split
  · exact .refl t
  · exact .of_unsent (by rw [sents_append]; exact List.append_nil _) rfl rfl (.inr final)

theorem sendFrame_writes {frame : Frame} (proper : Proper t.mIsClient frame) : Writes t (t.sendFrame env frame).2 := by
  unfold sendFrame outgoing
  split
  · exact .of_unsent rfl rfl rfl (.inl rfl)
  · refine ⟨⟨[.frame frame (env.maskingKey t.sends)], sents_append .., ?_⟩, rfl, rfl, .inl rfl⟩
    intro sent member
    rw [List.mem_singleton.mp member]
    exact proper

theorem close_writes : Writes t (t.close env) := by
  have proper : Proper t.mIsClient { opcode := .close, payload := [], mask := t.mIsClient } :=
    ⟨rfl, rfl, by simp, fun _ => rfl, nofun⟩
  have marked : Writes t { t with mCloseSent := true } := .of_unsent rfl rfl rfl (.inl rfl)
  have sent : Writes t (sendFrame env { t with mCloseSent := true } _).2 := marked.trans (sendFrame_writes proper)
  unfold close
  split
  · exact .refl t
  · split
    · exact .refl t
    · split
      · rename_i e after result
        rw [result] at sent
        exact sent.trans (changeState_writes (.inl rfl))
      · rename_i answer after result
        rw [result] at sent
        exact sent.trans (.note rfl)

theorem recvData_writes (frame : Frame) : Writes t (t.recvData frame) := by
  unfold recvData
  simp only
  have flushed : Writes t (if t.mPartial = [] then t
      else { t.recv (some ⟨t.mPartial, messageType t.mPartialOpcode⟩) with mPartial := [] }) := by
    split
    · exact .refl t
    · exact (Writes.note rfl).trans (.of_unsent rfl rfl rfl (.inl rfl))
  generalize (if t.mPartial = [] then t
    else { t.recv (some ⟨t.mPartial, messageType t.mPartialOpcode⟩) with mPartial := [] }) = kept at flushed ⊢
  have marked : Writes t { kept with mPartialOpcode := frame.opcode } :=
    flushed.trans (.of_unsent rfl rfl rfl (.inl rfl))
  split
  · exact marked.trans (.note rfl)
  · exact marked.trans (.of_unsent rfl rfl rfl (.inl rfl))

theorem recvContinuation_writes (frame : Frame) : Writes t (t.recvContinuation frame) := by
  have grown : Writes t { t with mPartial := (t.mPartial ++ frame.payload).take t.mMaxMessageSize } :=
    .of_unsent rfl rfl rfl (.inl rfl)
  unfold recvContinuation
  simp only
  split
  · exact (grown.trans (.note rfl)).trans (.of_unsent rfl rfl rfl (.inl rfl))
  · exact grown

theorem recvFrame_writes (frame : Frame) : Writes t (t.recvFrame env frame).2 := by
  unfold recvFrame
  split
  · exact recvData_writes frame
  · exact recvData_writes frame
  · exact recvContinuation_writes frame
  · exact sendFrame_writes ⟨rfl, rfl, by simp, nofun, nofun⟩
  · exact .of_unsent rfl rfl rfl (.inl rfl)
  · exact close_writes.trans (changeState_writes (.inl rfl))
  · exact close_writes

theorem processFrames_writes : Writes t (t.processFrames env).2 :=
  processFrames_relates (R := Writes) .refl (fun first second => first.trans second)
    (fun _ _ _ => .of_unsent rfl rfl rfl (.inl rfl)) (fun _ frame _ => recvFrame_writes frame) t fun _ _ => trivial

theorem sendPing_writes : Writes t (t.sendPing env).2 := by
  have proper : Proper t.mIsClient { opcode := .ping, payload := [0, 0, 0, 0], mask := t.mIsClient } :=
    ⟨rfl, rfl, by simp, nofun, fun _ => rfl⟩
  have pinged : Writes t (t.sendFrame env _).2 := sendFrame_writes proper
  unfold sendPing
  split
  · rename_i e after result
    rw [result] at pinged
    exact pinged
  · rename_i answer after result
    rw [result] at pinged
    apply pinged.trans
    have counted : Writes after { after with mOutstandingPings := after.mOutstandingPings + 1 } :=
      .of_unsent rfl rfl rfl (.inl rfl)
    unfold addOutstandingPing
    simp only
    split
    · exact counted.trans (changeState_writes (.inr rfl))
    · exact counted

theorem send_writes (message : Option Message) : Writes t (t.send env message).2 := by
  unfold WsTransport.send
  split
  · exact .refl t
  · cases message with
    | none => exact .refl t
    | some message =>
      apply sendFrame_writes
      by_cases string : message.type = .string <;>
        exact ⟨rfl, rfl, by simp [string], by simp [string], by simp [string]⟩

end

/-! ### Whole runs -/

section
variable {env : Environment} {random : Key} {t next : WsTransport}

theorem Written.writes (written : Written env random t) (connected : t.state = .connected) (writes : Writes t next) :
    Written env random next := by
  obtain ⟨more, grown, framed⟩ := writes.grows
  have past : next.state ≠ .connecting := by
    rcases writes.state with same | gone | gone
    · rw [same, connected]
      decide
    · rw [gone]
      decide
    · rw [gone]
      decide
  cases written with
  | client frames client head all _ =>
    refine .client (frames ++ more) (writes.client.trans client) ?_ ?_ fun connecting => absurd connecting past
    · rw [grown, head, writes.handshake]
      rfl
    · rw [client] at framed
      exact fun sent member => (List.mem_append.mp member).elim (all sent) (framed sent)
  | silent _ closed => exact absurd connected closed
  | refused _ _ closed => rcases closed with closed | closed <;> exact absurd (closed.symm.trans connected) (by decide)
  | server frames server _ head all =>
    refine .server (frames ++ more) (writes.client.trans server) past ?_ ?_
    · rw [grown, head, writes.handshake]
      rfl
    · rw [server] at framed
      exact fun sent member => (List.mem_append.mp member).elim (all sent) (framed sent)

theorem Written.ends (written : Written env random t) {s : State} (final : s = .disconnected ∨ s = .failed)
    (sent : sents next.log = sents t.log) (client : next.mIsClient = t.mIsClient)
    (handshake : next.mHandshake = t.mHandshake) (state : next.state = s) : Written env random next := by
  have past : next.state ≠ .connecting ∧ next.state ≠ .connected := by
    rw [state]
    rcases final with rfl | rfl <;> decide
  have closed : next.state = .failed ∨ next.state = .disconnected := by
    rw [state]
    exact final.symm
  cases written with
  | client frames client' head all _ =>
    exact .client frames (client.trans client')
        (by rw [sent, head, handshake]) all fun connecting => absurd connecting past.1
  | silent server _ none => exact .silent (client.trans server) past.2 (sent.trans none)
  | refused code server _ one => exact .refused code (client.trans server) closed (sent.trans one)
  | server frames server _ head all =>
    exact .server frames (client.trans server) past.1 (by rw [sent, head, handshake]) all

theorem Written.reads (written : Written env random t) (connecting : t.state = .connecting) {handshake : WsHandshake}
    (same : t.mIsClient = true → handshake = t.mHandshake) (bytes : Bytes) (sends : Nat) :
    Written env random { t with mHandshake := handshake, mBuffer := bytes, sends := sends } := by
  cases written with
  | client frames client head all early =>
    refine .client frames client ?_ all early
    rw [same client]
    exact head
  | silent server closed none => exact .silent server closed none
  | refused _ _ closed => rcases closed with closed | closed <;> exact absurd (closed.symm.trans connecting) (by decide)
  | server _ _ past => exact absurd connecting past

/-- What the `try` block leaves when it throws. -/
structure Thrown (env : Environment) (random : Key) (e : Exception) (next : WsTransport) : Prop where
  written : Written env random next
  state : next.state = .connecting ∨ ∀ what code, e ≠ .requestError what code
  client : next.mIsClient = true → ∀ what code, e ≠ .requestError what code

def Left (env : Environment) (random : Key) : Except Exception Unit × WsTransport → Prop
  | (.ok (), next) => Written env random next
  | (.error e, next) => Thrown env random e next

theorem parseHttpResponse_error {sha1 : Bytes → Digest} {h : WsHandshake} {buffer : Bytes} {e : Exception}
    (failed : h.parseHttpResponse sha1 buffer = .error e) (what : Bytes) (code : Nat) :
        e ≠ .requestError what code := by
  rw [WsHandshake.parseHttpResponse] at failed
  simp only at failed
  split at failed
  · cases failed
  · by_cases accepts : WsUpgrades.Accepts WsUpgrades.asItStands sha1 h.mKey (parseHttpLines buffer).2
    · rw [WsUpgrades.readResponse_ok accepts] at failed
      cases failed
    · obtain ⟨thrown, error, silent⟩ := WsUpgrades.readResponse_error accepts
      rw [error] at failed
      rw [← Except.error.inj failed]
      exact silent what code

theorem processHandshake_left (written : Written env random t) (connecting : t.state = .connecting) :
    Left env random (t.processHandshake env) := by
  have opens : t.state ≠ .connected := by
    rw [connecting]
    decide
  unfold processHandshake
  by_cases client : t.mIsClient = true
  · rw [if_pos client]
    cases parsed : t.mHandshake.parseHttpResponse env.sha1 t.mBuffer with
    | error e => exact ⟨written, .inl connecting, fun _ => parseHttpResponse_error parsed⟩
    | ok length =>
      by_cases none : length = 0
      · simp only [if_pos none]
        exact written
      · simp only [if_neg none, changeState, if_neg opens]
        cases written with
        | client frames client head all early =>
          exact .client frames client
              (by rw [sents_append]; exact (List.append_nil _).trans head) all fun _ => early connecting
        | silent server | refused _ server | server _ server => exact absurd (client.symm.trans server) (by decide)
  · have server : t.mIsClient = false := Bool.eq_false_iff.mpr client
    rw [if_neg client]
    rcases request : t.mHandshake.parseHttpRequest t.mBuffer with ⟨handshake, result⟩
    have read : Written env random { t with mHandshake := handshake } :=
      written.reads connecting (fun client' => absurd client' client) t.mBuffer t.sends
    simp only
    cases result with
    | error e => exact ⟨read, .inl connecting, fun client' => absurd client' client⟩
    | ok length =>
      by_cases none : length = 0
      · simp only [if_pos none]
        exact read
      · simp only [if_neg none, sendHttpResponse, outgoing]
        cases answer : env.lower t.sends with
        | error e =>
          exact ⟨written.reads connecting (fun client' => absurd client' client) t.mBuffer (t.sends + 1),
              .inl connecting,
            fun client' => absurd client' client⟩
        | ok sent =>
          simp only [changeState, if_neg opens]
          cases written with
          | client _ client' => exact absurd client' client
          | silent _ _ nothing =>
            refine .server [] server (by simp) ?_ (by simp)
            rw [sents_append, sents_append, nothing]
            rfl
          | refused _ _ closed =>
            rcases closed with closed | closed <;> exact absurd (closed.symm.trans connecting) (by decide)
          | server _ _ past => exact absurd connecting past

theorem connected_left (foreign : Foreign env) (written : Written env random t) (connected : t.state = .connected)
    (message : Bytes) : Left env random (if message = [] then t.sendPing env else t.processFrames env) := by
  have lowers {e : Exception} (thrown : ∃ n, env.lower n = .error e) (what : Bytes) (code : Nat) :
      e ≠ .requestError what code := by
    obtain ⟨n, answer⟩ := thrown
    rintro rfl
    exact foreign n what code answer
  have frames (result : Except Exception Unit) (after : WsTransport) (writes : Writes t after)
      (error : ∀ e, result = .error e → ∃ n, env.lower n = .error e) : Left env random (result, after) := by
    have kept := written.writes connected writes
    cases result with
    | ok => exact kept
    | error e => exact ⟨kept, .inr (lowers (error e rfl)), fun _ => lowers (error e rfl)⟩
  split
  · apply frames _ _ sendPing_writes
    intro e failed
    unfold sendPing sendFrame outgoing at failed
    cases answer : env.lower t.sends with
    | error thrown =>
      simp only [answer, Except.error.injEq] at failed
      exact ⟨t.sends, by rw [answer, failed]⟩
    | ok sent => simp [answer] at failed
  · exact frames _ _ processFrames_writes fun _ failed => FrameLoops.processFrames_error failed

theorem process_left (foreign : Foreign env) (written : Written env random t)
    (live : t.state = .connecting ∨ t.state = .connected) (message : Bytes) :
        Left env random (t.process env message) := by
  have goesOn {next : WsTransport} (written : Written env random next) : Left env random
      (if next.state = .connected then if message = [] then next.sendPing env else next.processFrames env
        else (.ok (), next)) := by
    by_cases connected : next.state = .connected
    · rw [if_pos connected]
      exact connected_left foreign written connected message
    · rw [if_neg connected]
      exact written
  unfold process
  rcases live with connecting | connected
  · have pushed : Written env random { t with mBuffer := t.mBuffer ++ message } :=
      written.reads connecting (fun _ => rfl) (t.mBuffer ++ message) t.sends
    have shaken := processHandshake_left pushed connecting
    simp only [if_pos connecting]
    rcases result : WsTransport.processHandshake env { t with mBuffer := t.mBuffer ++ message } with ⟨_ | _, next⟩
    · rw [result] at shaken
      exact shaken
    · rw [result] at shaken
      exact goesOn shaken
  · have past : t.state ≠ .connecting := by
      rw [connected]
      decide
    have pushed : Written env random { t with mBuffer := t.mBuffer ++ message } :=
      written.writes connected (.of_unsent rfl rfl rfl (.inl rfl))
    simp only [if_neg past]
    exact goesOn pushed

theorem changeState_written (written : Written env random t) {s : State} (final : s = .disconnected ∨ s = .failed) :
    Written env random (t.changeState s) :=
  have same := changeState_unsent t s
  written.ends final same.sents same.client same.handshake (changeState_state t s)

theorem disconnect_written (written : Written env random t) : Written env random t.disconnect := by
  unfold disconnect
  split
  · rename_i connected
    exact written.writes connected ((changeState_writes (.inl rfl)).trans (.note rfl))
  · exact changeState_written written (.inr rfl)

/-- Only a server answers an exception, and it has written nothing before. -/
theorem Thrown.disconnected {e : Exception} (thrown : Thrown env random e t) :
    Written env random (t.handleError env e).disconnect := by
  cases e with
  | invalidArgument | runtimeError | handshakeError => exact disconnect_written thrown.written
  | requestError what code =>
    have server : t.mIsClient = false := Bool.eq_false_iff.mpr fun client => thrown.client client what code rfl
    have connecting : t.state = .connecting := thrown.state.resolve_right fun other => other what code rfl
    have nothing : sents t.log = [] := by
      cases thrown.written with
      | client _ client => exact absurd (client.symm.trans server) (by decide)
      | silent _ _ none => exact none
      | refused _ _ closed =>
        rcases closed with closed | closed <;> exact absurd (closed.symm.trans connecting) (by decide)
      | server _ _ past => exact absurd connecting past
    have other : t.state ≠ .connected ∧ t.state ≠ .failed := by
      rw [connecting]
      decide
    simp only [handleError, sendHttpError, outgoing]
    cases answer : env.lower t.sends with
    | error e => exact disconnect_written (thrown.written.reads connecting (fun _ => rfl) t.mBuffer (t.sends + 1))
    | ok result =>
      simp only [disconnect, if_neg other.1, changeState, if_neg other.2]
      refine .refused code server (.inl rfl) ?_
      rw [sents_append, sents_append, nothing]
      rfl

theorem incoming_written (foreign : Foreign env) (written : Written env random t) (message : Option Bytes) :
    Written env random (t.incoming env message) := by
  unfold incoming
  split
  · exact written
  · rename_i entered
    have live : t.state = .connecting ∨ t.state = .connected := by
      by_contra closed
      rw [not_or] at closed
      exact entered closed
    cases message with
    | none => exact disconnect_written written
    | some message =>
      have left := process_left foreign written live message
      simp only
      split
      · rename_i next result
        rw [result] at left
        exact left
      · rename_i e next result
        rw [result] at left
        exact Thrown.disconnected left

/-- Only a transport that is open sends and closes. -/
theorem Written.step (written : Written env random t) (foreign : Foreign env) {label : WsLabel}
    (step : WsStep env t label next) (once : ∀ random, label ≠ .start random) : Written env random next := by
  cases step with
  | start random => exact absurd rfl (once random)
  | send message =>
    by_cases connected : t.state = .connected
    · exact written.writes connected (send_writes message)
    · unfold WsTransport.send
      rw [if_pos connected]
      exact written
  | close =>
    by_cases connected : t.state = .connected
    · exact written.writes connected close_writes
    · rw [WsTransport.close, if_pos connected]
      exact written
  | incoming message => exact incoming_written foreign written message
  | closeTimeout _ => exact changeState_written written (.inl rfl)

end

structure Unstarted (t : WsTransport) : Prop where
  state : t.state = .disconnected
  log : t.log = []

theorem start_written {env : Environment} {random : Key} {t : WsTransport} (unstarted : Unstarted t)
    (started : ∃ result, (t.start env random).1 = .ok result) : Written env random (t.start env random).2 := by
  have changes : t.state ≠ .connecting := by
    rw [unstarted.state]
    decide
  obtain ⟨result, done⟩ := started
  unfold start at done ⊢
  simp only [changeState, if_neg changes, unstarted.log] at done ⊢
  by_cases client : t.mIsClient = true
  · simp only [if_pos client, sendHttpRequest, outgoing] at done ⊢
    cases answer : env.lower t.sends with
    | error e => simp [answer] at done
    | ok sent => exact .client [] client rfl (by simp) fun _ => rfl
  · simp only [if_neg client]
    exact .silent (Bool.eq_false_iff.mpr client) (by simp) rfl

/-- Whatever the other end sends, in whatever pieces, and whatever the lower transport refuses: a client has written its
request and then frames that are all masked, a server has written its response and then frames that are not, or nothing,
or only the answer to a request that it has refused. Each frame is a whole message or a control frame. -/
theorem always_written (env : Environment) (foreign : Foreign env) (random : Key) (t : WsTransport)
    (unstarted : Unstarted t)
    (started : ∃ result, (t.start env random).1 = .ok result) (trace : List (WsLabel × WsTransport))
    (run : Run (WsStep env) (t.start env random).2 trace)
    (once : ∀ taken ∈ trace, ∀ random, taken.1 ≠ .start random) :
    Always (Written env random) (t.start env random).2 trace :=
  always_of_guarded (fun _ _ _ written step once => written.step foreign step once) trace _
    (start_written unstarted started) run (guarded_of_labels trace once _)

/-! ### A hostile client -/

/-- A server whose lower transport takes everything. -/
def exampleServer : WsTransport where
  mHandshake := {}
  mIsClient := false
  mMaxMessageSize := 100
  mMaxOutstandingPings := 0
  mBuffer := []
  mPartial := []
  mPartialOpcode := .continuation
  mIgnoreLength := 0
  mOutstandingPings := 0
  mCloseSent := false
  state := .disconnected
  sends := 0
  log := []

def exampleEnvironment : Environment := WsMessages.accepting WsMessages.sampleKey

def exampleKey : Key := ⟨List.replicate 16 5, rfl⟩

/-- A request, a message, a PING without a mask, a CLOSE and a reserved opcode. -/
def exampleTrace : List (WsLabel × WsTransport) :=
  let request := HandshakeRoundTrip.headText
    (HandshakeRoundTrip.requestLines (text "a") (text "/") [] (generateKey exampleKey))
  let one := (exampleServer.start exampleEnvironment exampleKey).2.incoming exampleEnvironment (some request)
  let two := (one.send exampleEnvironment (some ⟨text "on", .string⟩)).2
  let three := two.incoming exampleEnvironment (some [0x89, 0x01, 0x41])
  let four := three.close exampleEnvironment
  [(.incoming (some request), one), (.send (some ⟨text "on", .string⟩), two),
      (.incoming (some [0x89, 0x01, 0x41]), three),
    (.close, four), (.incoming (some [0x83, 0x00]), four.incoming exampleEnvironment (some [0x83, 0x00]))]

theorem written_exampleTrace : Always (Written exampleEnvironment exampleKey)
    (exampleServer.start exampleEnvironment exampleKey).2 exampleTrace :=
  always_written exampleEnvironment (fun _ _ _ => nofun) exampleKey exampleServer ⟨rfl, rfl⟩ ⟨true, rfl⟩ exampleTrace
    ⟨.incoming _, .send _, .incoming _, .close, .incoming _, trivial⟩ (by simp [exampleTrace])

end WebsocketClient.WsWires
