import WebsocketClient.BufferedAmount
import WebsocketClient.CloseOrder
import WebsocketClient.ConnectionTimeout
import WebsocketClient.Delivery
import WebsocketClient.LifecycleOrder
import WebsocketClient.TransportStack

/-! `close`, `remoteClose` and `closeTransports` in the models that have them. `TransportStacks` executes each at
once; the others, which look at a part of the `WebSocket` or take the functions apart, come to the same when nothing
interferes. -/

namespace WebsocketClient.CloseModels
open WebSocketStates Library.Runs Library.Threads

/-! ### What they come to -/

theorem past_of_not_live {state : State} (past : ¬(state = .connecting ∨ state = .open)) :
    state = .closing ∨ state = .closed := by
  cases state with
  | connecting => exact absurd (.inl rfl) past
  | «open» => exact absurd (.inr rfl) past
  | closing => exact .inl rfl
  | closed => exact .inr rfl

section
variable (stack : TransportStacks.WebSocket)

@[simp] theorem remoteClose_state (sent : Bool) : (stack.remoteClose sent).state = .closed := by
  rw [TransportStacks.WebSocket.remoteClose_eq]
  exact TransportStacks.WebSocket.closeTransports_state stack

theorem close_past (past : stack.state = .closing ∨ stack.state = .closed) (sent : Bool) :
    stack.close sent = stack := by
  apply if_neg
  rcases past with state | state <;> rw [state] <;> decide

theorem close_sent (live : stack.state = .connecting ∨ stack.state = .open) (some : (stack.pointer .ws).isSome) :
    stack.close true = { stack with state := .closing } := by
  rw [TransportStacks.WebSocket.close, if_pos live]
  exact if_pos ⟨some, rfl⟩

theorem close_torn (live : stack.state = .connecting ∨ stack.state = .open) {sent : Bool}
    (unsent : stack.pointer .ws = none ∨ sent = false) : TransportStacks.Torn stack (stack.close sent) := by
  have alive : stack.state ≠ .closed := by
    rcases live with state | state <;> rw [state] <;> decide
  have falls : ¬((stack.pointer .ws).isSome ∧ sent = true) := by
    rintro ⟨some, rfl⟩
    rcases unsent with none | unsent
    · rw [none] at some
      exact absurd some (by decide)
    · exact absurd unsent (by decide)
  rw [TransportStacks.WebSocket.close, if_pos live]
  simp only
  rw [if_neg falls, TransportStacks.WebSocket.closeTransports_congr alive]
  exact TransportStacks.WebSocket.closeTransports_torn alive

end

/-! ### One step after the other -/

section
variable {T : Type} {s : Lifecycles.Shared T} {t : T} {stack : TransportStacks.WebSocket}
open Lifecycles

/-- The state and the two pointers that `Lifecycles` has. -/
structure Agrees (s : Shared T) (stack : TransportStacks.WebSocket) : Prop where
  state : s.state = stack.state
  tcp : s.pointer .tcp = (stack.pointer .tcp).isSome
  ws : s.pointer .ws = (stack.pointer .ws).isSome

def Free (t : T) (s : Shared T) : Prop := ∀ layer, s.owner layer = none ∨ s.owner layer = some t

/-- What `closeTransports` leaves. -/
structure Over (s s' : Shared T) : Prop where
  state : s'.state = .closed
  pointer : ∀ layer, s'.pointer layer = false
  owner : s'.owner = s.owner

theorem changeState_kept (s : Shared T) (t : T) (newState : State) :
    (s.changeState t newState).state = newState ∧ (s.changeState t newState).pointer = s.pointer ∧
      (s.changeState t newState).owner = s.owner ∧ (s.changeState t newState).callback = s.callback := by
  unfold Shared.changeState
  split
  · rename_i same
    exact ⟨same, rfl, rfl, rfl⟩
  · exact ⟨rfl, rfl, rfl, rfl⟩

theorem resets_alone (free : Free t s) (layers : List Layer) (rest : List Return) :
    ∃ s', Alone ThreadStep t s ⟨.reset layers, rest⟩ s' ⟨.reset [], rest⟩ ∧ s'.state = s.state ∧
      s'.pointer = s.pointer ∧ s'.owner = s.owner := by
  induction layers generalizing s with
  | nil => exact ⟨s, .rest _ _, rfl, rfl, rfl⟩
  | cons layer layers ih =>
    obtain ⟨s', alone, state, pointer, owner⟩ := ih (s := s.setCallback layer false) free
    exact ⟨s', .step (.reset s layer layers rest (free layer)) alone, state, pointer, owner⟩

theorem closeTransports_alone (free : Free t s) (alive : s.state ≠ .closed) (rest : List Return) :
    ∃ s', Alone ThreadStep t s ⟨.closedExchange, rest⟩ s' ⟨.done, rest⟩ ∧ Over s s' := by
  obtain ⟨state, _, owner, _⟩ := changeState_kept s t .closed
  let closed := s.changeState t .closed
  let taken := (closed.setPointer .ws false).setPointer .tcp false
  have free_taken : Free t taken := by
    intro layer
    show closed.owner layer = none ∨ closed.owner layer = some t
    rw [owner]
    exact free layer
  obtain ⟨s', resets, state', pointer', owner'⟩ := resets_alone free_taken
    ((if closed.pointer .ws then [.ws] else []) ++
      if (closed.setPointer .ws false).pointer .tcp then [.tcp] else []) rest
  refine ⟨s'.log .triggerClosed, ?_, ?_⟩
  · apply Alone.step (.closedExchange s rest alive)
    apply Alone.step (.exchangeWs _ rest)
    apply Alone.step (.exchangeTcp _ _ rest)
    apply Alone.trans resets
    apply Alone.step (.resetDone s' rest)
    exact .step (.triggerClosed s' rest) (.rest _ _)
  · refine ⟨state'.trans state, ?_, owner'.trans owner⟩
    intro layer
    show s'.pointer layer = false
    rw [pointer']
    cases layer with
    | tcp => rfl
    | ws => rfl

theorem remoteClose_alone (free : Free t s) (closing : s.state = .closing) (rest : List Return) :
    ∃ s', Alone ThreadStep t s (.remoteClose rest) s' ⟨.done, rest⟩ ∧ Over s s' := by
  have alive : s.state ≠ .closed := by rw [closing]; decide
  obtain ⟨s', alone, leaves⟩ := closeTransports_alone free alive rest
  refine ⟨s', ?_, leaves⟩
  apply Alone.step (.closeLoadPast s (.remoteClose :: rest) (.inl closing))
  apply Alone.step (.closed s rest)
  exact .step (.remoteLoad s rest alive) alone

theorem Over.agrees {s' : Shared T} (leaves : Over s s') {torn : TransportStacks.WebSocket}
    (stacked : TransportStacks.Torn stack torn) : Agrees s' torn where
  state := leaves.state.trans stacked.state.symm
  tcp := by
    rw [leaves.pointer, stacked.pointer]
    rfl
  ws := by
    rw [leaves.pointer, stacked.pointer]
    rfl

theorem Over.free {s' : Shared T} (leaves : Over s s') (free : Free t s) : Free t s' := by
  intro layer
  rw [leaves.owner]
  exact free layer

theorem unsent_alone (free : Free t s) (closing : s.state = .closing) (told : s.callback .ws = true)
    (rest : List Return) :
    ∃ s', Alone ThreadStep t s ⟨.stop .ws, rest⟩ s' ⟨.done, rest⟩ ∧ Free t s' ∧ s'.state = .closed ∧
      ∀ layer, s'.pointer layer = false := by
  have entered : Free t (s.setOwner .ws (some t)) := by
    intro layer
    show Function.update s.owner .ws (some t) layer = none ∨ Function.update s.owner .ws (some t) layer = some t
    cases layer with
    | tcp => exact free .tcp
    | ws => exact .inr rfl
  obtain ⟨s', alone, leaves⟩ := remoteClose_alone entered closing (.leave .ws :: rest)
  refine ⟨s'.setOwner .ws (if .leave .ws ∈ rest then some t else none), ?_, ?_, leaves.state, leaves.pointer⟩
  · apply Alone.step (.stopDisconnects s .ws rest)
    apply Alone.step (.enter s .ws .disconnected rest (free .ws) told)
    apply Alone.trans alone
    exact .step (.leave s' .ws rest) (.rest _ _)
  · intro layer
    cases layer with
    | tcp => exact leaves.free entered .tcp
    | ws =>
      show (if .leave .ws ∈ rest then some t else none) = none ∨ (if .leave .ws ∈ rest then some t else none) = some t
      split
      · exact .inr rfl
      · exact .inl rfl

/-- A thread that calls `close` while the others rest does what `TransportStacks` has it do. -/
theorem close_alone (agrees : Agrees s stack) (free : Free t s) {sent : Bool}
    (told : sent = false → s.callback .ws = true) (rest : List Return) :
    ∃ s', Alone ThreadStep t s ⟨.closeLoad, rest⟩ s' ⟨.done, rest⟩ ∧ Agrees s' (stack.close sent) ∧ Free t s' := by
  obtain ⟨state, pointer, owner, callback⟩ := changeState_kept s t .closing
  by_cases live : s.state = .connecting ∨ s.state = .open
  · have stack_live : stack.state = .connecting ∨ stack.state = .open := by rwa [← agrees.state]
    let closing := s.changeState t .closing
    have begins : Alone ThreadStep t s ⟨.closeLoad, rest⟩ closing ⟨.closeLoadWs, rest⟩ :=
      .step (.closeLoad s rest live) (.step (.closeExchange s rest) (.rest _ _))
    have free_closing : Free t closing := by
      intro layer
      show closing.owner layer = none ∨ closing.owner layer = some t
      rw [owner]
      exact free layer
    cases set : s.pointer .ws with
    | false =>
      have null : closing.pointer .ws = false := by rw [pointer, set]
      have stack_null : stack.pointer .ws = none := by
        apply Option.not_isSome_iff_eq_none.mp
        rw [← agrees.ws, set]
        decide
      obtain ⟨s', alone, leaves⟩ := remoteClose_alone free_closing state rest
      refine ⟨s', begins.trans (.step (.closeLoadNull closing rest null) alone), ?_, leaves.free free_closing⟩
      exact leaves.agrees (close_torn stack stack_live (.inl stack_null))
    | true =>
      have there : closing.pointer .ws = true := by rw [pointer, set]
      have stops := begins.trans (.step (.closeLoadWs closing rest there) (.rest _ _))
      cases sent with
      | true =>
        refine ⟨closing, stops.trans (.step (.stop closing .ws rest) (.rest _ _)), ?_, free_closing⟩
        rw [close_sent stack stack_live (by rw [← agrees.ws, set])]
        refine ⟨state, ?_, ?_⟩
        · rw [pointer]
          exact agrees.tcp
        · rw [pointer]
          exact agrees.ws
      | false =>
        obtain ⟨s', alone, free', closed, gone⟩ :=
          unsent_alone free_closing state (by rw [callback]; exact told rfl) rest
        have torn := close_torn stack stack_live (.inr rfl : stack.pointer .ws = none ∨ false = false)
        refine ⟨s', stops.trans alone, ⟨closed.trans torn.state.symm, ?_, ?_⟩, free'⟩
        · rw [gone, torn.pointer]
          rfl
        · rw [gone, torn.pointer]
          rfl
  · have past := past_of_not_live live
    refine ⟨s, .step (.closeLoadPast s rest past) (.rest _ _), ?_, free⟩
    rw [close_past stack (by rwa [← agrees.state])]
    exact agrees

theorem remoteClose_agrees (agrees : Agrees s stack) (free : Free t s) {sent : Bool}
    (told : sent = false → s.callback .ws = true) (rest : List Return) :
    ∃ s', Alone ThreadStep t s (.remoteClose rest) s' ⟨.done, rest⟩ ∧ Agrees s' (stack.remoteClose sent) ∧
        Free t s' := by
  obtain ⟨closed, alone, agrees', free'⟩ := close_alone agrees free told (.remoteClose :: rest)
  have returns := alone.trans (.step (.closed closed rest) (.rest _ _))
  by_cases state : closed.state = .closed
  · refine ⟨closed, returns.trans (.step (.remoteLoadClosed closed rest state) (.rest _ _)), ?_, free'⟩
    rw [TransportStacks.WebSocket.remoteClose, if_pos (by rwa [← agrees'.state])]
    exact agrees'
  · obtain ⟨s', tears, leaves⟩ := closeTransports_alone free' state rest
    refine ⟨s', returns.trans (.step (.remoteLoad closed rest state) tears), ?_, leaves.free free'⟩
    have stack_state : (stack.close sent).state ≠ .closed := by rwa [← agrees'.state]
    rw [TransportStacks.WebSocket.remoteClose, if_neg stack_state]
    exact leaves.agrees (TransportStacks.WebSocket.closeTransports_torn stack_state)

theorem close_run [DecidableEq T] (sys : System T (Shared T) Place) (idle : sys.place t = ⟨.done, []⟩)
    (agrees : Agrees sys.shared stack) (free : Free t sys.shared) {sent : Bool}
    (told : sent = false → sys.shared.callback .ws = true) :
    ∃ trace, Run (Step ThreadStep) sys trace ∧ (∀ taken ∈ trace, taken.1.1 = t) ∧
      Agrees (last sys trace).shared (stack.close sent) ∧ (last sys trace).place t = ⟨.done, []⟩ := by
  obtain ⟨s', alone, agrees', _⟩ := close_alone agrees free told []
  have calls : Alone ThreadStep t sys.shared ⟨.done, []⟩ s' ⟨.done, []⟩ := .step (.close sys.shared) alone
  obtain ⟨trace, run, mine, shared, place⟩ := calls.run sys rfl idle
  exact ⟨trace, run, mine, shared ▸ agrees', place⟩

end

/-! ### With the frames that are sent -/

section
variable {env : WsTransports.Environment} {s : CloseOrders.WebSocket} {stack : TransportStacks.WebSocket}

/-- The state and the one pointer that `CloseOrders` has. -/
structure Frames (s : CloseOrders.WebSocket) (stack : TransportStacks.WebSocket) : Prop where
  state : s.state = stack.state
  ws : s.mWsTransport = (stack.pointer .ws).isSome

theorem frames_torn {torn : TransportStacks.WebSocket} (stacked : TransportStacks.Torn stack torn)
    {closed : CloseOrders.WebSocket}
    (state : closed.state = .closed) (gone : closed.mWsTransport = false) : Frames closed torn where
  state := state.trans stacked.state.symm
  ws := by
    rw [gone, stacked.pointer]
    rfl

theorem frames_close (frames : Frames s stack) : Frames (s.close env)
    (stack.close (decide ((s.transport.close env).state = s.transport.state))) := by
  by_cases live : s.state = .connecting ∨ s.state = .open
  · have stack_live : stack.state = .connecting ∨ stack.state = .open := by rwa [← frames.state]
    rw [CloseOrders.WebSocket.close, if_pos live]
    cases set : s.mWsTransport with
    | false =>
      have null : stack.pointer .ws = none := by
        apply Option.not_isSome_iff_eq_none.mp
        rw [← frames.ws, set]
        decide
      exact frames_torn (close_torn stack stack_live (.inl null)) rfl rfl
    | true =>
      have there : (stack.pointer .ws).isSome := by rw [← frames.ws, set]
      simp only [if_true, CloseOrders.WebSocket.stop]
      by_cases sent : (s.transport.close env).state = s.transport.state
      · rw [if_pos sent, decide_eq_true sent, close_sent stack stack_live there]
        exact ⟨rfl, there.symm⟩
      · rw [if_neg sent, decide_eq_false sent]
        exact frames_torn (close_torn stack stack_live (.inr rfl)) rfl rfl
  · have past := past_of_not_live live
    rw [CloseOrders.WebSocket.close, if_neg live, close_past stack (by rwa [← frames.state])]
    exact frames

theorem frames_remoteClose (frames : Frames s stack) : Frames (s.remoteClose env)
    (stack.remoteClose (decide ((s.transport.close env).state = s.transport.state))) := by
  have closed : Frames (s.close env)
      (stack.close (decide ((s.transport.close env).state = s.transport.state))) := frames_close frames
  rw [CloseOrders.WebSocket.remoteClose, TransportStacks.WebSocket.remoteClose]
  by_cases state : (s.close env).state = .closed
  · rw [if_neg (not_not.mpr state), if_pos (by rwa [← closed.state])]
    exact closed
  · have stack_state : (stack.close (decide ((s.transport.close env).state = s.transport.state))).state ≠ .closed := by
      rwa [← closed.state]
    rw [if_pos state, if_neg stack_state]
    apply frames_torn (TransportStacks.WebSocket.closeTransports_torn stack_state)
    · rw [CloseOrders.WebSocket.closeTransports, if_neg state]
    · rw [CloseOrders.WebSocket.closeTransports, if_neg state]

end

/-! ### In a task of the connection timeout -/

section
variable {config : Option Nat} {s : ConnectionTimeouts.System} {task : ConnectionTimeouts.Task}
open ConnectionTimeouts

/-- Steps of tasks alone bring the state to `Closed`. -/
def Closes (config : Option Nat) (s : System) : Prop :=
  ∃ trace, Run (ConnectionTimeouts.Step config) s trace ∧
    (∀ taken ∈ trace, ∃ task nested, taken.1 = .task task nested) ∧ (last s trace).state = .closed

theorem Closes.here (closed : s.state = .closed) : Closes config s :=
  ⟨[], trivial, fun _ member => absurd member List.not_mem_nil, closed⟩

theorem Closes.step (running : task ∈ s.tasks) (later : Closes config (s.taskStep task false)) : Closes config s := by
  obtain ⟨trace, run, tasks, closed⟩ := later
  refine ⟨(.task task false, s.taskStep task false) :: trace, ⟨.task s task false running, run⟩, ?_, closed⟩
  intro taken member
  rcases List.mem_cons.mp member with rfl | later
  · exact ⟨task, false, rfl⟩
  · exact tasks taken later

theorem mem_replace (s : System) (task next : ConnectionTimeouts.Task) : next ∈ (s.replace task [next]).tasks :=
  List.mem_append_left _ (List.mem_singleton.mpr rfl)

theorem changeClosed_closes (running : task ∈ s.tasks) (pc : task.pc = .changeClosed) : Closes config s := by
  apply Closes.step running
  apply Closes.here
  simp only [System.taskStep, pc]
  show (s.changeState task.timer .closed).state = .closed
  unfold System.changeState
  split
  · assumption
  · rfl

theorem load_closes (running : task ∈ s.tasks) (pc : task.pc = .load) : Closes config s := by
  by_cases closed : s.state = .closed
  · exact .here closed
  · apply Closes.step running
    simp only [System.taskStep, pc, if_neg closed]
    exact changeClosed_closes (mem_replace s task { task with pc := .changeClosed }) rfl

/-- A task that runs its `remoteClose` while the others rest leaves the state that `TransportStacks` has. -/
theorem timeout_alone (running : task ∈ s.tasks) (pc : task.pc = .close) (stack : TransportStacks.WebSocket)
    (sent : Bool) :
    ∃ trace, Run (ConnectionTimeouts.Step config) s trace ∧
      (∀ taken ∈ trace, ∃ task nested, taken.1 = .task task nested) ∧
      (last s trace).state = (stack.remoteClose sent).state := by
  rw [remoteClose_state]
  show Closes config s
  apply Closes.step running
  by_cases live : s.state = .connecting ∨ s.state = .open
  · simp only [System.taskStep, pc, if_pos live]
    apply Closes.step (mem_replace s task { task with pc := .changeClosing })
    simp only [System.taskStep, Bool.false_eq_true, if_false]
    exact load_closes (mem_replace _ _ { task with pc := .load }) rfl
  · simp only [System.taskStep, pc, if_neg live]
    exact load_closes (mem_replace s task { task with pc := .load }) rfl

end

/-! ### Beside the poll thread -/

section
variable {s : Deliveries.System} {stack : TransportStacks.WebSocket}
open Deliveries

theorem delivery_close (state : s.state = stack.state) (some : (stack.pointer .ws).isSome) :
    closeState s.state = (stack.close true).state := by
  by_cases live : stack.state = .connecting ∨ stack.state = .open
  · rw [close_sent stack live some, state]
    rcases live with connecting | «open»
    · rw [connecting]
      rfl
    · rw [«open»]
      rfl
  · have past := past_of_not_live live
    rw [close_past stack past, state]
    rcases past with closing | closed
    · rw [closing]
      rfl
    · rw [closed]
      rfl

def AppCloses (s : System) : Prop :=
  ∃ trace, Run Deliveries.Step s trace ∧ (∀ taken ∈ trace, ¬taken.1.polls) ∧
    (last s trace).state = .closed ∧ (last s trace).app = .idle

theorem AppCloses.step {label : Deliveries.Label} {next : System} (taken : Deliveries.Step s label next)
    (mine : ¬label.polls)
    (later : AppCloses next) : AppCloses s := by
  obtain ⟨trace, run, others, closed⟩ := later
  refine ⟨(label, next) :: trace, ⟨taken, run⟩, ?_, closed⟩
  intro taken member
  rcases List.mem_cons.mp member with rfl | later
  · exact mine
  · exact others taken later

theorem closeTransports_closes (there : s.app = .closeTransports) (alive : s.state ≠ .closed)
    (free : s.recvMutex = none) :
    AppCloses s := by
  apply AppCloses.step (.closeTransports s there alive) (by simp [Label.polls])
  have resets := Deliveries.Step.onRecv { s with app := .onRecv, state := .closed } rfl free
  apply AppCloses.step resets (by simp [Label.polls])
  exact ⟨[], trivial, fun _ member => absurd member List.not_mem_nil, rfl, rfl⟩

theorem forceClose_alone (idle : s.app = .idle) (alive : s.destroyed = false) (free : s.recvMutex = none)
    (sent : Bool) :
    ∃ trace, Run Deliveries.Step s trace ∧ (∀ taken ∈ trace, ¬taken.1.polls) ∧
      (last s trace).state = (stack.remoteClose sent).state ∧ (last s trace).app = .idle := by
  rw [remoteClose_state]
  show AppCloses s
  apply AppCloses.step (.forceClose s idle alive) (by simp [Label.polls])
  cases state : s.state with
  | connecting | «open» =>
    apply AppCloses.step (.sent _ true rfl) (by simp [Label.polls])
    exact closeTransports_closes rfl (by simp [closeState]) free
  | closing => exact closeTransports_closes rfl (by simp [closeState]) free
  | closed => exact ⟨[], trivial, fun _ member => absurd member List.not_mem_nil, rfl, rfl⟩

end

/-! ### With the buffered amounts -/

theorem amounts_closeTransports (ws : BufferedAmounts.WebSocket) {stack : TransportStacks.WebSocket}
    (alive : stack.state ≠ .closed) :
    ws.closeTransports.mTcpTransport.isSome = (stack.closeTransports.pointer .tcp).isSome := by
  rw [(TransportStacks.WebSocket.closeTransports_torn alive).pointer]
  rfl

end WebsocketClient.CloseModels
