import WebsocketClient.Lifecycle

/-! When the state of a `WebSocket` only moves forward. Each place of a thread has an assertion, which
the other threads leave true as long as no exchange takes the state back. -/

namespace WebsocketClient.LifecycleOrders
open WebSocketStates Lifecycles Library.Threads Library.Runs

variable {T : Type}

/-- No callback of the `WsTransport` runs any more. -/
def Shut (s : Shared T) : Prop := s.callback .ws = false ∨ s.live .ws = false

/-- The thread has closed the connection, and is to tell the application. -/
structure Closer (events : List (Event T)) (t : T) : Prop where
  moved : .moved t .closed ∈ events
  first : .triggerClosed ∉ events

structure Opener (s : Shared T) (t : T) : Prop where
  owner : s.owner .ws = some t
  callback : s.callback .ws = true
  live : s.live .ws = true

/-- The thread has opened the connection, and is to tell the application. -/
structure Opened (events : List (Event T)) (t : T) : Prop where
  moved : .moved t .open ∈ events
  first : .triggerOpen ∉ events

structure Emplacer (s : Shared T) (t : T) : Prop where
  connected : s.connected = some t
  live : s.live .ws = false

def Pointed (s : Shared T) : Prop := s.live .ws = true → s.pointer .ws = true

/-- The assertion at a place. -/
def Needs (s : Shared T) (t : T) : Pc → Prop
  | .exchangeWs => Closer s.events t ∧ Pointed s
  | .exchangeTcp taken => Closer s.events t ∧ (.ws ∈ taken ∨ Shut s)
  | .reset transports => Closer s.events t ∧ (.ws ∈ transports ∨ Shut s)
  | .triggerClosed => Closer s.events t ∧ Shut s
  | .enter .ws .connected => s.live .ws = true
  | .enter .tcp .connected | .initLoad | .initLower | .store .ws | .clear .ws _ => Emplacer s t
  | .start .ws | .check .ws => Emplacer s t ∧ (s.pointer .ws = true ∨ s.state = .closed)
  | .openLoad | .openExchange => Opener s t
  | .triggerOpen => Opener s t ∧ Opened s.events t
  | _ => True

structure Own (s : Shared T) (t : T) (place : Place) : Prop where
  holds : ∀ layer, .leave layer ∈ place.stack → s.owner layer = some t
  needs : Needs s t place.pc

structure Good (s : Shared T) : Prop where
  order : s.events.Pairwise Follows
  newest : ∀ t state, .moved t state ∈ s.events → state.toNat ≤ s.state.toNat
  written : s.state = .connecting ∨ ∃ t, .moved t s.state ∈ s.events
  opened : .triggerOpen ∈ s.events → ∃ t, .moved t .open ∈ s.events
  closed : .triggerClosed ∈ s.events → s.state = .closed ∧ Shut s
  pointed : s.state ≠ .closed → Pointed s
  unconnected : s.connected = none → s.live .ws = false

/-! ### Who has made a change -/

theorem eq_or_rel_of_pairwise {A : Type} {R : A → A → Prop} {list : List A} (pairwise : list.Pairwise R)
    {a b : A} (first : a ∈ list) (second : b ∈ list) : a = b ∨ R a b ∨ R b a := by
  induction pairwise with
  | nil => cases first
  | cons head tail ih =>
    rcases List.mem_cons.mp first with rfl | aTail
    · rcases List.mem_cons.mp second with rfl | bTail
      · exact .inl rfl
      · exact .inr (.inl (head b bTail))
    · rcases List.mem_cons.mp second with rfl | bTail
      · exact .inr (.inr (head a aTail))
      · exact ih aTail bTail

theorem mover_unique {s : Shared T} (good : Good s) {t u : T} {state : State}
    (mine : .moved t state ∈ s.events) (other : .moved u state ∈ s.events) : u = t := by
  rcases eq_or_rel_of_pairwise good.order other mine with same | later | earlier
  · exact (Event.moved.inj same).1
  · exact absurd later (Nat.lt_irrefl _)
  · exact absurd earlier (Nat.lt_irrefl _)

/-! ### What others leave true -/

/-- What a step of another thread keeps for a thread. -/
structure Stable (s next : Shared T) (t : T) : Prop where
  owner : ∀ layer, s.owner layer = some t → next.owner layer = some t
  closer : Closer s.events t → Closer next.events t
  shut : Closer s.events t → Shut s → Shut next
  pointed : Closer s.events t → Pointed s → Pointed next
  live : s.live .ws = true → next.live .ws = true
  callback : s.owner .ws = some t → s.callback .ws = true → next.callback .ws = true
  opened : Opened s.events t → Opened next.events t
  emplacer : Emplacer s t → Emplacer next t
  stored : Emplacer s t → s.pointer .ws = true ∨ s.state = .closed →
    next.pointer .ws = true ∨ next.state = .closed

theorem Stable.opener {s next : Shared T} {t : T} (stable : Stable s next t) (opener : Opener s t) :
    Opener next t where
  owner := stable.owner .ws opener.owner
  callback := stable.callback opener.owner opener.callback
  live := stable.live opener.live

theorem Stable.needs {s next : Shared T} {t : T} (stable : Stable s next t) (pc : Pc)
    (needs : Needs s t pc) : Needs next t pc := by
  unfold Needs at needs ⊢
  split at needs
  case h_1 => exact ⟨stable.closer needs.1, stable.pointed needs.1 needs.2⟩
  case h_2 => exact ⟨stable.closer needs.1, needs.2.imp id (stable.shut needs.1)⟩
  case h_3 => exact ⟨stable.closer needs.1, needs.2.imp id (stable.shut needs.1)⟩
  case h_4 => exact ⟨stable.closer needs.1, stable.shut needs.1 needs.2⟩
  case h_5 => exact stable.live needs
  case h_6 | h_7 | h_8 | h_9 | h_10 => exact stable.emplacer needs
  case h_11 | h_12 => exact ⟨stable.emplacer needs.1, stable.stored needs.1 needs.2⟩
  case h_13 | h_14 => exact stable.opener needs
  case h_15 => exact ⟨stable.opener needs.1, stable.opened needs.2⟩
  case h_16 => trivial

theorem Stable.own {s next : Shared T} {t : T} (stable : Stable s next t) (place : Place)
    (own : Own s t place) : Own next t place where
  holds layer member := stable.owner layer (own.holds layer member)
  needs := stable.needs place.pc own.needs

/-- What a step of a thread comes to. -/
structure Change (t : T) (s next : Shared T) : Prop where
  good : Good next
  stable : ∀ u, u ≠ t → Stable s next u

variable {s : Shared T} {t : T}

theorem Closer.closed (good : Good s) (closer : Closer s.events t) : s.state = .closed :=
  State.eq_closed (good.newest t .closed closer.moved)

theorem Closer.unique (good : Good s) (closer : Closer s.events t) {u : T} (other : Closer s.events u) : u = t :=
  mover_unique good closer.moved other.moved

theorem Emplacer.unique (emplacer : Emplacer s t) {u : T} (other : Emplacer s u) : u = t :=
  Option.some.inj (other.connected.symm.trans emplacer.connected)

theorem Stable.refl (s : Shared T) (t : T) : Stable s s t :=
  ⟨fun _ => id, id, fun _ => id, fun _ => id, id, fun _ => id, id, id, fun _ => id⟩

theorem change_refl (good : Good s) : Change t s s := ⟨good, fun u _ => .refl s u⟩

theorem change_connected (good : Good s) (none : s.connected = none) :
    Change t s { s with connected := some t } where
  good := ⟨good.order, good.newest, good.written, good.opened, good.closed, good.pointed, by simp⟩
  stable u _ := by
    refine { Stable.refl s u with emplacer := ?_ }
    intro emplacer
    rw [emplacer.connected] at none
    cases none

theorem change_changeState (good : Good s) (state : State) (forward : s.state.toNat ≤ state.toNat) :
    Change t s (s.changeState t state) := by
  unfold Shared.changeState
  split
  · exact change_refl good
  · next moves =>
    have higher : s.state.toNat < state.toNat :=
      Nat.lt_of_le_of_ne forward (fun same => moves (State.toNat_injective same))
    have notClosed : s.state ≠ .closed := by
      intro closed
      have bound := state.toNat_le
      rw [closed] at higher
      exact absurd higher (Nat.not_lt.mpr bound)
    constructor
    · constructor
      · refine List.pairwise_cons.mpr ⟨?_, good.order⟩
        intro event member
        cases event with
        | moved u before => exact Nat.lt_of_le_of_lt (good.newest u before member) higher
        | triggerOpen | triggerClosed => trivial
      · intro u before member
        rcases List.mem_cons.mp member with same | earlier
        · cases same
          exact Nat.le_refl _
        · exact Nat.le_of_lt (Nat.lt_of_le_of_lt (good.newest u before earlier) higher)
      · exact .inr ⟨t, List.mem_cons_self ..⟩
      · intro opened
        have earlier : Event.triggerOpen ∈ s.events := by simpa using opened
        obtain ⟨u, moved⟩ := good.opened earlier
        exact ⟨u, List.mem_cons_of_mem _ moved⟩
      · intro closed
        have earlier : Event.triggerClosed ∈ s.events := by simpa using closed
        exact absurd (good.closed earlier).1 notClosed
      · exact fun _ => good.pointed notClosed
      · exact good.unconnected
    · intro u _
      refine { Stable.refl s u with closer := ?_, opened := ?_, emplacer := ?_, stored := ?_ }
      · exact fun closer => ⟨List.mem_cons_of_mem _ closer.moved, by simpa using closer.first⟩
      · exact fun opened => ⟨List.mem_cons_of_mem _ opened.moved, by simpa using opened.first⟩
      · exact fun emplacer => ⟨emplacer.connected, emplacer.live⟩
      · exact fun _ stored => stored.imp id (fun closed => absurd closed notClosed)

theorem change_triggerOpen (good : Good s) (opener : Opener s t) (opened : Opened s.events t) :
    Change t s (s.log .triggerOpen) where
  good := by
    refine ⟨?_, ?_, ?_, ?_, ?_, good.pointed, good.unconnected⟩
    · refine List.pairwise_cons.mpr ⟨?_, good.order⟩
      intro event member
      cases event with
      | moved u before => trivial
      | triggerOpen => exact opened.first member
      | triggerClosed =>
        rcases (good.closed member).2 with reset | idle
        · simp [opener.callback] at reset
        · simp [opener.live] at idle
    · intro u state member
      exact good.newest u state (by simpa [Shared.log] using member)
    · exact good.written.imp id (fun ⟨u, moved⟩ => ⟨u, List.mem_cons_of_mem _ moved⟩)
    · exact fun _ => ⟨t, List.mem_cons_of_mem _ opened.moved⟩
    · intro closed
      exact good.closed (by simpa [Shared.log] using closed)
  stable u other := by
    refine { Stable.refl s u with closer := ?_, opened := ?_, emplacer := ?_ }
    · exact fun closer => ⟨List.mem_cons_of_mem _ closer.moved, by simpa [Shared.log] using closer.first⟩
    · exact fun openedToo => absurd (mover_unique good opened.moved openedToo.moved) other
    · exact fun emplacer => ⟨emplacer.connected, emplacer.live⟩

theorem change_triggerClosed (good : Good s) (closer : Closer s.events t) (shut : Shut s) :
    Change t s (s.log .triggerClosed) where
  good := by
    have closed : s.state = .closed := closer.closed good
    refine ⟨?_, ?_, ?_, ?_, ?_, good.pointed, good.unconnected⟩
    · refine List.pairwise_cons.mpr ⟨?_, good.order⟩
      intro event member
      cases event with
      | moved u before => trivial
      | triggerOpen => trivial
      | triggerClosed => exact closer.first member
    · intro u state member
      exact good.newest u state (by simpa [Shared.log] using member)
    · exact good.written.imp id (fun ⟨u, moved⟩ => ⟨u, List.mem_cons_of_mem _ moved⟩)
    · intro opened
      obtain ⟨u, moved⟩ := good.opened (by simpa [Shared.log] using opened)
      exact ⟨u, List.mem_cons_of_mem _ moved⟩
    · exact fun _ => ⟨closed, shut⟩
  stable u other := by
    refine { Stable.refl s u with closer := ?_, opened := ?_, emplacer := ?_ }
    · exact fun closerToo => absurd (closer.unique good closerToo) other
    · exact fun opened => ⟨List.mem_cons_of_mem _ opened.moved, by simpa [Shared.log] using opened.first⟩
    · exact fun emplacer => ⟨emplacer.connected, emplacer.live⟩

theorem change_setOwner (good : Good s) (layer : Layer) (owner : Option T)
    (mine : s.owner layer = none ∨ s.owner layer = some t) : Change t s (s.setOwner layer owner) where
  good := ⟨good.order, good.newest, good.written, good.opened, good.closed, good.pointed, good.unconnected⟩
  stable u other := by
    refine { Stable.refl s u with owner := ?_, emplacer := fun e => ⟨e.connected, e.live⟩ }
    intro at_ holds
    by_cases same : at_ = layer
    · subst same
      rw [holds] at mine
      rcases mine with free | mine
      · cases free
      · exact absurd (Option.some.inj mine) other
    · show Function.update s.owner layer owner at_ = some u
      rw [Function.update_of_ne same]
      exact holds

theorem change_setPointer_tcp (good : Good s) (set : Bool) : Change t s (s.setPointer .tcp set) where
  good := ⟨good.order, good.newest, good.written, good.opened, good.closed, good.pointed, good.unconnected⟩
  stable u _ := { Stable.refl s u with emplacer := fun e => ⟨e.connected, e.live⟩ }

theorem change_setPointer (good : Good s) (layer : Layer) : Change t s (s.setPointer layer true) := by
  cases layer with
  | tcp => exact change_setPointer_tcp good true
  | ws =>
    constructor
    · exact ⟨good.order, good.newest, good.written, good.opened, good.closed, fun _ _ => rfl, good.unconnected⟩
    · intro u _
      exact { Stable.refl s u with
        pointed := fun _ _ _ => rfl
        emplacer := fun e => ⟨e.connected, e.live⟩
        stored := fun _ _ => .inl rfl }

theorem change_exchangeWs (good : Good s) (closer : Closer s.events t) :
    Change t s (s.setPointer .ws false) := by
  have closed : s.state = .closed := closer.closed good
  constructor
  · exact ⟨good.order, good.newest, good.written, good.opened, good.closed, fun alive => absurd closed alive,
      good.unconnected⟩
  · intro u other
    exact { Stable.refl s u with
      pointed := fun closerToo => absurd (closer.unique good closerToo) other
      emplacer := fun e => ⟨e.connected, e.live⟩
      stored := fun _ _ => .inr closed }

theorem change_clearWs (good : Good s) (emplacer : Emplacer s t) :
    Change t s (s.setPointer .ws false) := by
  have idle : Pointed (s.setPointer .ws false) := by
    intro live
    rw [show (s.setPointer .ws false).live .ws = false from emplacer.live] at live
    cases live
  constructor
  · exact ⟨good.order, good.newest, good.written, good.opened, good.closed, fun _ => idle, good.unconnected⟩
  · intro u other
    exact { Stable.refl s u with
      pointed := fun _ _ => idle
      emplacer := fun e => ⟨e.connected, e.live⟩
      stored := fun emplacerToo => absurd (emplacer.unique emplacerToo) other }

theorem change_resetCallback (good : Good s) (layer : Layer)
    (mine : s.owner layer = none ∨ s.owner layer = some t) : Change t s (s.setCallback layer false) := by
  have shut : Shut s → Shut (s.setCallback layer false) := by
    intro shut
    cases layer with
    | tcp => exact shut
    | ws => exact .inl rfl
  constructor
  · exact ⟨good.order, good.newest, good.written, good.opened,
      fun closed => ⟨(good.closed closed).1, shut (good.closed closed).2⟩, good.pointed, good.unconnected⟩
  · intro u other
    refine { Stable.refl s u with
      shut := fun _ => shut, callback := ?_, emplacer := fun e => ⟨e.connected, e.live⟩ }
    intro owner callback
    cases layer with
    | tcp => exact callback
    | ws =>
      rw [owner] at mine
      rcases mine with free | mine
      · cases free
      · exact absurd (Option.some.inj mine) other

theorem change_setCallback_tcp (good : Good s) : Change t s (s.setCallback .tcp true) where
  good := ⟨good.order, good.newest, good.written, good.opened, good.closed, good.pointed, good.unconnected⟩
  stable u _ := { Stable.refl s u with emplacer := fun e => ⟨e.connected, e.live⟩ }

theorem change_setCallback_ws (good : Good s) (emplacer : Emplacer s t) :
    Change t s (s.setCallback .ws true) where
  good := ⟨good.order, good.newest, good.written, good.opened,
    fun closed => ⟨(good.closed closed).1, .inr emplacer.live⟩, good.pointed, good.unconnected⟩
  stable u _ := { Stable.refl s u with
    shut := fun _ _ => .inr emplacer.live
    callback := fun _ _ => rfl
    emplacer := fun e => ⟨e.connected, e.live⟩ }

theorem change_setLive_tcp (good : Good s) : Change t s (s.setLive .tcp) where
  good := ⟨good.order, good.newest, good.written, good.opened, good.closed, good.pointed, good.unconnected⟩
  stable u _ := { Stable.refl s u with
    emplacer := fun e => ⟨e.connected, e.live⟩ }

theorem change_setLive_ws (good : Good s) (emplacer : Emplacer s t) (pointer : s.pointer .ws = true)
    (alive : s.state ≠ .closed) : Change t s (s.setLive .ws) := by
  have noCloser : ∀ u, ¬Closer s.events u := fun u closer => alive (closer.closed good)
  constructor
  · refine ⟨good.order, good.newest, good.written, good.opened, ?_, fun _ _ => pointer, ?_⟩
    · exact fun closed => absurd (good.closed closed).1 alive
    · intro none
      rw [show (s.setLive .ws).connected = some t from emplacer.connected] at none
      cases none
  · intro u other
    exact { Stable.refl s u with
      shut := fun closer => absurd closer (noCloser u)
      pointed := fun _ _ _ => pointer
      live := fun _ => rfl
      emplacer := fun emplacerToo => absurd (emplacer.unique emplacerToo) other }

/-! ### The steps -/

variable {next : Shared T} {place after : Place} {action : Action}

theorem step_change (good : Good s) (own : Own s t place) (forward : Forward s place)
    (step : ThreadStep t s place action next after) : Change t s next := by
  have needs := own.needs
  cases step with
  | connected live none => exact change_connected good none
  | closeExchange stack =>
    apply change_changeState good .closing
    have notClosed : s.state ≠ .closed := forward
    revert notClosed
    cases s.state <;> simp [State.toNat]
  | closedExchange | alreadyClosed => exact change_changeState good .closed (State.toNat_le _)
  | openExchange stack | alreadyOpen stack =>
    apply change_changeState good .open
    rcases forward with early | already
    · simp [early, State.toNat]
    · simp [already, State.toNat]
  | exchangeWs stack => exact change_exchangeWs good needs.1
  | exchangeTcp taken stack => exact change_setPointer_tcp good false
  | reset layer rest stack mine => exact change_resetCallback good layer mine
  | triggerClosed stack => exact change_triggerClosed good needs.1 needs.2
  | enter layer newState stack mine => exact change_setOwner good layer _ mine
  | leave layer stack =>
    exact change_setOwner good layer _ (.inr (own.holds layer (List.mem_cons_self ..)))
  | triggerOpen stack => exact change_triggerOpen good needs.1 needs.2
  | setTcp stack => exact change_setCallback_tcp good
  | initLower stack => exact change_setCallback_ws good needs
  | store layer stack => exact change_setPointer good layer
  | startTcp stack => exact change_setLive_tcp good
  | checkWs stack alive =>
    obtain ⟨emplacer, stored⟩ := needs
    exact change_setLive_ws good emplacer (stored.resolve_right alive) alive
  | clear layer thrown stack =>
    cases layer with
    | tcp => exact change_setPointer_tcp good false
    | ws => exact change_clearWs good needs
  | _ => exact change_refl good

@[simp] theorem changeState_owner (state : State) : (s.changeState t state).owner = s.owner := by
  unfold Shared.changeState
  split <;> rfl

@[simp] theorem leave_mem_callback (stack : List Return) (layer at_ : Layer) (newState : Transports.State) :
    .leave at_ ∈ (Place.callback stack layer newState).stack ↔ .leave at_ ∈ stack := by
  cases layer <;> cases newState <;> simp [Place.callback, Place.remoteClose]

@[simp] theorem leave_mem_discard (stack : List Return) (layer at_ : Layer) :
    .leave at_ ∈ (Place.discard stack layer).stack ↔ .leave at_ ∈ stack := by
  cases layer <;> simp [Place.discard]

theorem step_holds (own : Own s t place) (step : ThreadStep t s place action next after) (layer : Layer)
    (member : .leave layer ∈ after.stack) : next.owner layer = some t := by
  have holds := own.holds layer
  cases step with
  | enter at_ newState stack mine set =>
    show Function.update s.owner at_ (some t) layer = some t
    by_cases same : layer = at_
    · rw [same, Function.update_self]
    · rw [Function.update_of_ne same]
      apply holds
      simpa [same] using member
  | leave at_ stack =>
    show Function.update s.owner at_ (if .leave at_ ∈ stack then some t else none) layer = some t
    by_cases same : layer = at_
    · subst same
      rw [Function.update_self, if_pos member]
    · rw [Function.update_of_ne same]
      exact holds (List.mem_cons_of_mem _ member)
  | closeExchange | closedExchange | alreadyClosed | openExchange | alreadyOpen =>
    rw [changeState_owner]
    exact holds member
  | clear at_ thrown stack =>
    apply holds
    cases thrown <;> simpa using member
  | close | remoteClose | timeout | connected | changed => simp [Place.remoteClose] at member
  | _ => exact holds (by simpa [Place.remoteClose] using member)

theorem changeState_moves {state : State} (moves : s.state ≠ state) :
    s.changeState t state = { s with state := state, events := .moved t state :: s.events } :=
  if_neg moves

theorem step_needs (good : Good s) (own : Own s t place) (forward : Forward s place)
    (step : ThreadStep t s place action next after) : Needs next t after.pc := by
  have needs := own.needs
  cases step with
  | connected live none => exact ⟨rfl, good.unconnected none⟩
  | changed layer newState live other =>
    cases layer with
    | tcp =>
      have notConnected : newState ≠ .connected := other.resolve_left (by decide)
      cases newState <;> trivial
    | ws => cases newState <;> trivial
  | closedExchange stack alive =>
    rw [changeState_moves alive]
    refine ⟨⟨List.mem_cons_self .., ?_⟩, good.pointed alive⟩
    intro closed
    exact alive (good.closed (by simpa using closed)).1
  | exchangeWs stack =>
    refine ⟨needs.1, ?_⟩
    cases pointer : s.pointer .ws with
    | true => exact .inl (by simp)
    | false =>
      have idle : s.live .ws = false := by
        have pointed := needs.2
        unfold Pointed at pointed
        simpa [pointer] using pointed
      exact .inr (.inr idle)
  | exchangeTcp taken stack => exact ⟨needs.1, needs.2.imp (List.mem_append_left _) id⟩
  | reset layer rest stack mine =>
    refine ⟨needs.1, ?_⟩
    cases layer with
    | tcp => exact needs.2.imp (fun member => by simpa using member) id
    | ws => exact .inr (.inl rfl)
  | resetDone stack => exact ⟨needs.1, needs.2.resolve_left (by simp)⟩
  | enter layer newState stack mine set =>
    cases layer with
    | tcp => cases newState <;> first | trivial | exact ⟨needs.connected, needs.live⟩
    | ws => cases newState <;> first | trivial | exact ⟨rfl, set, needs⟩
  | openLoad stack start => exact needs
  | openExchange stack moves =>
    have start : s.state = .connecting := forward.resolve_right moves
    rw [changeState_moves moves]
    refine ⟨⟨needs.owner, needs.callback, needs.live⟩, List.mem_cons_self .., ?_⟩
    intro opened
    obtain ⟨u, moved⟩ := good.opened (by simpa using opened)
    have reached := good.newest u .open moved
    rw [start] at reached
    exact absurd reached (by decide)
  | initLoad stack null => exact needs
  | initLower stack pointer => exact ⟨needs.connected, needs.live⟩
  | store layer stack =>
    cases layer with
    | tcp => trivial
    | ws => exact ⟨⟨needs.connected, needs.live⟩, .inl rfl⟩
  | startWs stack => exact needs
  | startFails layer stack =>
    cases layer with
    | tcp => trivial
    | ws => exact needs.1
  | checkClosed layer stack closed =>
    cases layer with
    | tcp => trivial
    | ws => exact needs.1
  | clear layer thrown stack => cases layer <;> trivial
  | stopDisconnects layer stack => cases layer <;> trivial
  | _ => trivial

/-! ### Runs -/

theorem keeps_annotated [DecidableEq T] (s : System T (Shared T) Place) (label : T × Action)
    (next : System T (Shared T) Place) (annotated : Annotated Good Own s)
    (step : Step ThreadStep s label next) (forward : Forward s.shared (s.place label.1)) :
    Annotated Good Own next := by
  refine annotated.step ?_ ?_ step forward
  · intro t shared place action shared' place' good own forward step
    have change := step_change good own forward step
    exact ⟨change.good, step_holds own step, step_needs good own forward step⟩
  · intro t u shared place action shared' place' other good own forward step elsewhere ownOther
    exact ((step_change good own forward step).stable u other).own elsewhere ownOther

theorem orderly_of_annotated (s : System T (Shared T) Place) (annotated : Annotated Good Own s) : Orderly s :=
  annotated.good.order

theorem initial_annotated [DecidableEq T] (opener : T) : Annotated Good Own (initial opener) where
  good := ⟨.nil, by simp [initial], .inl rfl, by simp [initial], by simp [initial],
    fun _ live => by simp [initial] at live, fun _ => rfl⟩
  own t := by
    by_cases same : t = opener
    · rw [show (initial opener).place t = ⟨.setTcp, []⟩ from if_pos same]
      exact ⟨by simp, trivial⟩
    · rw [show (initial opener).place t = ⟨.done, []⟩ from if_neg same]
      exact ⟨by simp, trivial⟩

theorem not_orderly_of_back {s : Shared T} (good : Good s) (t : T) {state : State}
    (back : state.toNat < s.state.toNat) : ¬(s.changeState t state).events.Pairwise Follows := by
  intro order
  have moves : s.state ≠ state := by
    intro same
    rw [same] at back
    exact absurd back (Nat.lt_irrefl _)
  rw [changeState_moves moves] at order
  rcases good.written with start | ⟨u, moved⟩
  · rw [start] at back
    exact absurd back (Nat.not_lt_zero _)
  · have follows : state.toNat < s.state.toNat ∧ s.state.toNat < state.toNat :=
      ⟨back, (List.pairwise_cons.mp order).1 _ moved⟩
    omega

theorem breaks_orderly [DecidableEq T] (s : System T (Shared T) Place) (label : T × Action)
    (next : System T (Shared T) Place) (annotated : Annotated Good Own s)
    (step : Step ThreadStep s label next) (back : ¬Forward s.shared (s.place label.1)) : ¬Orderly next := by
  cases step with
  | mk t action shared place step =>
    show ¬shared.events.Pairwise Follows
    change ¬Forward s.shared (s.place t) at back
    generalize s.place t = before at step back
    cases step with
    | closeExchange stack =>
      apply not_orderly_of_back annotated.good
      rw [show s.shared.state = .closed from not_not.mp back]
      decide
    | openExchange stack moves | alreadyOpen stack moves =>
      apply not_orderly_of_back annotated.good
      simp only [Forward, not_or] at back
      revert back
      cases s.shared.state <;> simp [State.toNat]
    | _ => exact absurd trivial back

/-- In a run the state only moves forward, and `triggerOpen` and `triggerClosed` come at most once and in
this order, exactly when no `close` makes its exchange on a closed connection, and no callback of the
`WsTransport` makes its own on one that is closing or closed. -/
theorem orderly_iff [DecidableEq T] (opener : T) (trace : List ((T × Action) × System T (Shared T) Place))
    (run : Run (Step ThreadStep) (initial opener) trace) :
    Always Orderly (initial opener) trace ↔
      Guarded (fun s label => Forward s.shared (s.place label.1)) (initial opener) trace :=
  always_iff orderly_of_annotated keeps_annotated breaks_orderly trace _ (initial_annotated opener) run

/-! ### A connection that opens and is closed -/

def dialing : Shared Bool :=
  (((initial false).shared.setCallback .tcp true).setPointer .tcp true).setLive .tcp

/-- The second thread is told of the connection and starts the `WsTransport`. -/
def shaking : Shared Bool :=
  (((({ dialing with connected := some true }.setOwner .tcp (some true)).setCallback .ws true).setPointer .ws
    true).setLive .ws).setOwner .tcp none

def opened : Shared Bool :=
  (((shaking.setOwner .ws (some true)).changeState true .open).log .triggerOpen).setOwner .ws none

/-- The first thread has called `close`, and the second one is told of the CLOSE of the peer. -/
def hungUp : Shared Bool := (opened.changeState false .closing).setOwner .ws (some true)

def hungUpOver : Shared Bool :=
  (((((hungUp.changeState true .closed).setPointer .ws false).setPointer .tcp false).setCallback .ws
    false).setCallback .tcp false).log .triggerClosed

/-- The connection opens, the first thread closes it, and once it is closed it calls `close` again. -/
def openedAndClosed : List ((Bool × Action) × System Bool (Shared Bool) Place) :=
  let listening := (initial false).shared.setCallback .tcp true
  let connected := { dialing with connected := some true }
  let entered := connected.setOwner .tcp (some true)
  let listeningWs := entered.setCallback .ws true
  let set := listeningWs.setPointer .ws true
  let entering := shaking.setOwner .ws (some true)
  let moved := entering.changeState true .open
  let closing := opened.changeState false .closing
  let closed := hungUp.changeState true .closed
  let taken := (closed.setPointer .ws false).setPointer .tcp false
  let reset := (taken.setCallback .ws false).setCallback .tcp false
  (initial false).walk [
    (false, .step, listening, ⟨.store .tcp, []⟩),
    (false, .step, listening.setPointer .tcp true, ⟨.start .tcp, []⟩),
    (false, .step, dialing, ⟨.check .tcp, []⟩),
    (false, .step, dialing, ⟨.done, []⟩),
    (true, .changed .tcp .connected, connected, ⟨.enter .tcp .connected, []⟩),
    (true, .step, entered, ⟨.initLoad, [.leave .tcp]⟩),
    (true, .step, entered, ⟨.initLower, [.leave .tcp]⟩),
    (true, .step, listeningWs, ⟨.store .ws, [.leave .tcp]⟩),
    (true, .step, set, ⟨.start .ws, [.leave .tcp]⟩),
    (true, .step, set, ⟨.check .ws, [.leave .tcp]⟩),
    (true, .step, set.setLive .ws, ⟨.done, [.leave .tcp]⟩),
    (true, .step, shaking, ⟨.done, []⟩),
    (true, .changed .ws .connected, shaking, ⟨.enter .ws .connected, []⟩),
    (true, .step, entering, ⟨.openLoad, [.leave .ws]⟩),
    (true, .step, entering, ⟨.openExchange, [.leave .ws]⟩),
    (true, .step, moved, ⟨.triggerOpen, [.leave .ws]⟩),
    (true, .step, moved.log .triggerOpen, ⟨.done, [.leave .ws]⟩),
    (true, .step, opened, ⟨.done, []⟩),
    (false, .close, opened, ⟨.closeLoad, []⟩),
    (false, .step, opened, ⟨.closeExchange, []⟩),
    (false, .step, closing, ⟨.closeLoadWs, []⟩),
    (false, .step, closing, ⟨.stop .ws, []⟩),
    (false, .step, closing, ⟨.done, []⟩),
    (true, .changed .ws .disconnected, closing, ⟨.enter .ws .disconnected, []⟩),
    (true, .step, hungUp, .remoteClose [.leave .ws]),
    (true, .step, hungUp, ⟨.done, [.remoteClose, .leave .ws]⟩),
    (true, .step, hungUp, ⟨.remoteLoad, [.leave .ws]⟩),
    (true, .step, hungUp, ⟨.closedExchange, [.leave .ws]⟩),
    (true, .step, closed, ⟨.exchangeWs, [.leave .ws]⟩),
    (true, .step, closed.setPointer .ws false, ⟨.exchangeTcp [.ws], [.leave .ws]⟩),
    (true, .step, taken, ⟨.reset [.ws, .tcp], [.leave .ws]⟩),
    (true, .step, taken.setCallback .ws false, ⟨.reset [.tcp], [.leave .ws]⟩),
    (true, .step, reset, ⟨.reset [], [.leave .ws]⟩),
    (true, .step, reset, ⟨.triggerClosed, [.leave .ws]⟩),
    (true, .step, hungUpOver, ⟨.done, [.leave .ws]⟩),
    (true, .step, hungUpOver.setOwner .ws none, ⟨.done, []⟩),
    (false, .close, hungUpOver.setOwner .ws none, ⟨.closeLoad, []⟩),
    (false, .step, hungUpOver.setOwner .ws none, ⟨.done, []⟩)]

theorem openedAndClosed_run : Run (Step ThreadStep) (initial false) openedAndClosed :=
  ⟨.mk _ _ _ _ _ (.setTcp _ _ rfl), .mk _ _ _ _ _ (.store _ _ _), .mk _ _ _ _ _ (.startTcp _ _),
    .mk _ _ _ _ _ (.checkTcp _ _ (by decide)), .mk _ _ _ _ _ (.connected _ rfl rfl),
    .mk _ _ _ _ _ (.enter _ _ _ _ (.inl rfl) rfl), .mk _ _ _ _ _ (.initLoad _ _ rfl),
    .mk _ _ _ _ _ (.initLower _ _ rfl), .mk _ _ _ _ _ (.store _ _ _), .mk _ _ _ _ _ (.startWs _ _),
    .mk _ _ _ _ _ (.checkWs _ _ (by decide)), .mk _ _ _ _ _ (.leave _ _ _),
    .mk _ _ _ _ _ (.changed _ _ _ rfl (.inl rfl)), .mk _ _ _ _ _ (.enter _ _ _ _ (.inl rfl) rfl),
    .mk _ _ _ _ _ (.openLoad _ _ rfl), .mk _ _ _ _ _ (.openExchange _ _ (by decide)),
    .mk _ _ _ _ _ (.triggerOpen _ _), .mk _ _ _ _ _ (.leave _ _ _),
    .mk _ _ _ _ _ (.close _), .mk _ _ _ _ _ (.closeLoad _ _ (.inr rfl)), .mk _ _ _ _ _ (.closeExchange _ _),
    .mk _ _ _ _ _ (.closeLoadWs _ _ rfl), .mk _ _ _ _ _ (.stop _ _ _),
    .mk _ _ _ _ _ (.changed _ _ _ rfl (.inl rfl)), .mk _ _ _ _ _ (.enter _ _ _ _ (.inl rfl) rfl),
    .mk _ _ _ _ _ (.closeLoadPast _ _ (.inl rfl)), .mk _ _ _ _ _ (.closed _ _),
    .mk _ _ _ _ _ (.remoteLoad _ _ (by decide)), .mk _ _ _ _ _ (.closedExchange _ _ (by decide)),
    .mk _ _ _ _ _ (.exchangeWs _ _), .mk _ _ _ _ _ (.exchangeTcp _ _ _), .mk _ _ _ _ _ (.reset _ _ _ _ (.inr rfl)),
    .mk _ _ _ _ _ (.reset _ _ _ _ (.inl rfl)), .mk _ _ _ _ _ (.resetDone _ _), .mk _ _ _ _ _ (.triggerClosed _ _),
    .mk _ _ _ _ _ (.leave _ _ _), .mk _ _ _ _ _ (.close _), .mk _ _ _ _ _ (.closeLoadPast _ _ (.inr rfl)), trivial⟩

/-- The exchanges of the first `close` and of the callback go forward, and the second `close` makes none. -/
theorem openedAndClosed_forward :
    Guarded (fun s label => Forward s.shared (s.place label.1)) (initial false) openedAndClosed :=
  ⟨trivial, trivial, trivial, trivial, trivial, trivial, trivial, trivial, trivial, trivial, trivial, trivial, trivial,
    trivial, trivial, .inl rfl, trivial, trivial, trivial, trivial, (by decide : State.open ≠ .closed), trivial,
    trivial,
    trivial, trivial, trivial, trivial, trivial, trivial, trivial, trivial, trivial, trivial, trivial, trivial, trivial,
    trivial, trivial, trivial⟩

theorem orderly_openedAndClosed : Always Orderly (initial false) openedAndClosed :=
  (orderly_iff false openedAndClosed openedAndClosed_run).mpr openedAndClosed_forward

/-! ### A closed connection that closes again -/

def closedByOther : Shared Bool :=
  (((((dialing.changeState true .closing).changeState true .closed).setPointer .ws false).setPointer .tcp
    false).setCallback .tcp false).log .triggerClosed

/-- The first thread takes the state back, and closes the connection once more. -/
def closedAgain : Shared Bool :=
  ((((closedByOther.changeState false .closing).changeState false .closed).setPointer .ws false).setPointer
    .tcp false).log .triggerClosed

/-- Between the load and the exchange of a `close`, another thread runs the whole of `remoteClose`. -/
def closingTwice : List ((Bool × Action) × System Bool (Shared Bool) Place) :=
  let listening := (initial false).shared.setCallback .tcp true
  let closing := dialing.changeState true .closing
  let closed := closing.changeState true .closed
  let taken := (closed.setPointer .ws false).setPointer .tcp false
  let back := closedByOther.changeState false .closing
  let again := back.changeState false .closed
  let takenAgain := (again.setPointer .ws false).setPointer .tcp false
  (initial false).walk [
    (false, .step, listening, ⟨.store .tcp, []⟩),
    (false, .step, listening.setPointer .tcp true, ⟨.start .tcp, []⟩),
    (false, .step, dialing, ⟨.check .tcp, []⟩),
    (false, .step, dialing, ⟨.done, []⟩),
    (false, .close, dialing, ⟨.closeLoad, []⟩),
    (false, .step, dialing, ⟨.closeExchange, []⟩),
    (true, .remoteClose, dialing, .remoteClose []),
    (true, .step, dialing, ⟨.closeExchange, [.remoteClose]⟩),
    (true, .step, closing, ⟨.closeLoadWs, [.remoteClose]⟩),
    (true, .step, closing, .remoteClose [.remoteClose]),
    (true, .step, closing, ⟨.done, [.remoteClose, .remoteClose]⟩),
    (true, .step, closing, ⟨.remoteLoad, [.remoteClose]⟩),
    (true, .step, closing, ⟨.closedExchange, [.remoteClose]⟩),
    (true, .step, closed, ⟨.exchangeWs, [.remoteClose]⟩),
    (true, .step, closed.setPointer .ws false, ⟨.exchangeTcp [], [.remoteClose]⟩),
    (true, .step, taken, ⟨.reset [.tcp], [.remoteClose]⟩),
    (true, .step, taken.setCallback .tcp false, ⟨.reset [], [.remoteClose]⟩),
    (true, .step, taken.setCallback .tcp false, ⟨.triggerClosed, [.remoteClose]⟩),
    (true, .step, closedByOther, ⟨.done, [.remoteClose]⟩),
    (false, .step, back, ⟨.closeLoadWs, []⟩),
    (false, .step, back, .remoteClose []),
    (false, .step, back, ⟨.done, [.remoteClose]⟩),
    (false, .step, back, ⟨.remoteLoad, []⟩),
    (false, .step, back, ⟨.closedExchange, []⟩),
    (false, .step, again, ⟨.exchangeWs, []⟩),
    (false, .step, again.setPointer .ws false, ⟨.exchangeTcp [], []⟩),
    (false, .step, takenAgain, ⟨.reset [], []⟩),
    (false, .step, takenAgain, ⟨.triggerClosed, []⟩),
    (false, .step, closedAgain, ⟨.done, []⟩)]

theorem closingTwice_run : Run (Step ThreadStep) (initial false) closingTwice :=
  ⟨.mk _ _ _ _ _ (.setTcp _ _ rfl), .mk _ _ _ _ _ (.store _ _ _), .mk _ _ _ _ _ (.startTcp _ _),
    .mk _ _ _ _ _ (.checkTcp _ _ (by decide)), .mk _ _ _ _ _ (.close _),
    .mk _ _ _ _ _ (.closeLoad _ _ (.inl rfl)), .mk _ _ _ _ _ (.remoteClose _),
    .mk _ _ _ _ _ (.closeLoad _ _ (.inl rfl)), .mk _ _ _ _ _ (.closeExchange _ _),
    .mk _ _ _ _ _ (.closeLoadNull _ _ rfl), .mk _ _ _ _ _ (.closeLoadPast _ _ (.inl rfl)),
    .mk _ _ _ _ _ (.closed _ _), .mk _ _ _ _ _ (.remoteLoad _ _ (by decide)),
    .mk _ _ _ _ _ (.closedExchange _ _ (by decide)), .mk _ _ _ _ _ (.exchangeWs _ _),
    .mk _ _ _ _ _ (.exchangeTcp _ _ _), .mk _ _ _ _ _ (.reset _ _ _ _ (.inl rfl)),
    .mk _ _ _ _ _ (.resetDone _ _), .mk _ _ _ _ _ (.triggerClosed _ _),
    .mk _ _ _ _ _ (.closeExchange _ _), .mk _ _ _ _ _ (.closeLoadNull _ _ rfl),
    .mk _ _ _ _ _ (.closeLoadPast _ _ (.inl rfl)), .mk _ _ _ _ _ (.closed _ _),
    .mk _ _ _ _ _ (.remoteLoad _ _ (by decide)), .mk _ _ _ _ _ (.closedExchange _ _ (by decide)),
    .mk _ _ _ _ _ (.exchangeWs _ _), .mk _ _ _ _ _ (.exchangeTcp _ _ _), .mk _ _ _ _ _ (.resetDone _ _),
    .mk _ _ _ _ _ (.triggerClosed _ _), trivial⟩

/-- The state goes from `Closed` back to `Closing`, and the application is told twice. -/
theorem closingTwice_not_orderly :
    ¬∀ trace : List ((Bool × Action) × System Bool (Shared Bool) Place),
      Run (Step ThreadStep) (initial false) trace → Always Orderly (initial false) trace := by
  intro all
  have order : closedAgain.events.Pairwise Follows := (all closingTwice closingTwice_run).last
  exact (List.pairwise_cons.mp order).1 .triggerClosed (by decide)

end WebsocketClient.LifecycleOrders
