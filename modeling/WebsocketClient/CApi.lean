import Mathlib.Algebra.Ring.Nat
import Mathlib.Data.List.Nodup
import Mathlib.Logic.Function.Basic
import WebsocketClient.Library.Runs
import WebsocketClient.Transport

/-! The tables of `capi.cpp`: the sockets and the user pointers by their ids. Every callback of the C
interface is passed on only if its id has a user pointer. -/

namespace WebsocketClient.CApis
open ByteString Transports Library.Runs

def WSC_ERR_SUCCESS : Int := 0
def WSC_ERR_INVALID : Int := -1
def WSC_ERR_FAILURE : Int := -2

/-- `std::unordered_map<int, Value>`. -/
abbrev Map (Value : Type) := Int → Option Value

namespace Map
variable {Value : Type}

def emplace (map : Map Value) (key : Int) (value : Value) : Map Value :=
  Function.update map key (some ((map key).getD value))

/-- `map[key] = value`. -/
def assign (map : Map Value) (key : Int) (value : Value) : Map Value := Function.update map key (some value)

def erase (map : Map Value) (key : Int) : Map Value := Function.update map key none

def clear : Map Value := fun _ => none

end Map

/-- The globals. `Socket` is a `shared_ptr<WebSocket>`, and a `void *` is its address. -/
structure Capi (Socket : Type) where
  webSocketMap : Map Socket
  userPointerMap : Map Nat
  lastId : Int

namespace Capi
variable {Socket : Type} (s : Capi Socket)

def initial : Capi Socket where
  webSocketMap := Map.clear
  userPointerMap := Map.clear
  lastId := 0

def getUserPointer (id : Int) : Option Nat := s.userPointerMap id

def setUserPointer (i : Int) (ptr : Nat) : Capi Socket :=
  { s with userPointerMap := s.userPointerMap.assign i ptr }

def eraseAll : Capi Socket := { s with webSocketMap := Map.clear, userPointerMap := Map.clear }

def find (id : Int) : Except Exception Socket :=
  match s.webSocketMap id with
  | some webSocket => .ok webSocket
  | none => .error (.invalidArgument (text "WebSocket ID does not exist"))

def getChannel (id : Int) : Except Exception Socket := s.find id

def getWebSocket (id : Int) : Except Exception Socket := s.find id

def erase (id : Int) : Except Exception (Capi Socket) :=
  match s.webSocketMap id with
  | some _ => .ok { s with
      webSocketMap := s.webSocketMap.erase id, userPointerMap := s.userPointerMap.erase id }
  | none => .error (.invalidArgument (text "WebSocket ID does not exist"))

def eraseChannel (id : Int) : Except Exception (Capi Socket) := s.erase id

def eraseWebSocket (ws : Int) : Except Exception (Capi Socket) := s.erase ws

/-- `++lastId` on a 32-bit `int`. -/
def nextId : Int := (s.lastId + 1).bmod (2 ^ 32)

def emplaceWebSocket (ptr : Socket) : Int × Capi Socket :=
  let ws := s.nextId
  (ws, { s with
    lastId := ws
    webSocketMap := s.webSocketMap.emplace ws ptr
    userPointerMap := s.userPointerMap.emplace ws 0 })

/-- An exception becomes an error code. -/
def wrap (func : Except Exception (Int × Capi Socket)) : Int × Capi Socket :=
  match func with
  | .ok result => result
  | .error (.invalidArgument _) => (WSC_ERR_INVALID, s)
  | .error _ => (WSC_ERR_FAILURE, s)

/-- `wscCreateWebSocket` and `wscCreateWebSocketEx`, which first make a `WebSocket` and open it. -/
def wscCreateWebSocket (opened : Except Exception Socket) : Int × Capi Socket :=
  s.wrap do
    let webSocket ← opened
    return s.emplaceWebSocket webSocket

def wscDelete (id : Int) : Int × Capi Socket :=
  s.wrap do
    let _ ← s.getChannel id
    return (WSC_ERR_SUCCESS, ← s.eraseChannel id)

def wscDeleteWebSocket (ws : Int) : Int × Capi Socket :=
  s.wrap do
    let _ ← s.getWebSocket ws
    return (WSC_ERR_SUCCESS, ← s.eraseWebSocket ws)

def wscCleanup : Capi Socket := s.eraseAll

def wscSetUserPointer (i : Int) (ptr : Nat) : Capi Socket := s.setUserPointer i ptr

def wscGetUserPointer (i : Int) : Nat := (s.getUserPointer i).getD 0

end Capi

/-- What the application sees. -/
inductive Event where
  | created (id : Int)
  | deleted (id : Int)
  | assigned (id : Int)
  /-- A callback with its user pointer. -/
  | called (id : Int) (ptr : Nat)
  deriving DecidableEq, Repr

inductive Call (Socket : Type) where
  | wscCreateWebSocket (opened : Except Exception Socket)
  | wscDelete (id : Int)
  | wscDeleteWebSocket (ws : Int)
  | wscCleanup
  | wscSetUserPointer (i : Int) (ptr : Nat)
  /-- A `WebSocket` runs a callback that was set under an id. -/
  | callback (id : Int)

structure Session (Socket : Type) where
  capi : Capi Socket
  log : List Event

def Event.createdId : Event → Option Int
  | .created id => some id
  | _ => none

namespace Session
variable {Socket : Type} (s : Session Socket)

def initial : Session Socket where
  capi := Capi.initial
  log := []

def handed : List Int := s.log.filterMap Event.createdId

def note (capi : Capi Socket) (events : List Event) : Session Socket := ⟨capi, s.log ++ events⟩

def live : List Int := s.handed.filter fun id => (s.capi.webSocketMap id).isSome

def delete (id : Int) (result : Int × Capi Socket) : Session Socket :=
  s.note result.2 (if result.1 = WSC_ERR_SUCCESS then [.deleted id] else [])

def call : Call Socket → Session Socket
  | .wscCreateWebSocket opened =>
    let (id, capi) := s.capi.wscCreateWebSocket opened
    s.note capi (if 0 < id then [.created id] else [])
  | .wscDelete id => s.delete id (s.capi.wscDelete id)
  | .wscDeleteWebSocket ws => s.delete ws (s.capi.wscDeleteWebSocket ws)
  | .wscCleanup => s.note s.capi.wscCleanup (s.live.map .deleted)
  | .wscSetUserPointer i ptr => s.note (s.capi.wscSetUserPointer i ptr) [.assigned i]
  | .callback id =>
    match s.capi.getUserPointer id with
    | some ptr => s.note s.capi [.called id ptr]
    | none => s

end Session

/-- A call, in a program that creates fewer than 2^31 sockets. -/
inductive Step {Socket : Type} (s : Session Socket) : Call Socket → Session Socket → Prop where
  | call (call : Call Socket) :
      (∀ opened, call = .wscCreateWebSocket opened → s.handed.length + 1 < 2 ^ 31) → Step s call (s.call call)

section
variable {Socket : Type}

structure Consistent (s : Session Socket) : Prop where
  same : ∀ id, (s.capi.webSocketMap id).isSome = (s.capi.userPointerMap id).isSome
  handed : s.handed.Nodup
  fresh : ∀ before after id, s.log = before ++ .created id :: after → .assigned id ∉ after →
    .deleted id ∉ after → s.capi.getUserPointer id = some 0
  gone : ∀ id, .deleted id ∈ s.log → s.capi.getUserPointer id = none
  silent : s.log.Pairwise fun earlier later => ∀ id ptr, earlier = .deleted id → later ≠ .called id ptr

def Known (s : Session Socket) (call : Call Socket) : Prop :=
  ∀ i ptr, call = .wscSetUserPointer i ptr → (s.capi.webSocketMap i).isSome

end

def Event.id : Event → Int
  | .created id | .deleted id | .assigned id | .called id _ => id

section
variable {Socket : Type}

structure Inv (s : Session Socket) : Prop where
  same : ∀ id, (s.capi.webSocketMap id).isSome = (s.capi.userPointerMap id).isSome
  gone : ∀ id, .deleted id ∈ s.log → s.capi.getUserPointer id = none
  silent : s.log.Pairwise fun earlier later => ∀ id ptr, earlier = .deleted id → later ≠ .called id ptr
  /-- Nothing happens under an id before it is created. -/
  begins : s.log.Pairwise fun earlier later => ∀ id, later = .created id → earlier.id ≠ id
  null : ∀ id, .created id ∈ s.log → .assigned id ∉ s.log → .deleted id ∉ s.log → s.capi.getUserPointer id = some 0
  live : ∀ id, (s.capi.webSocketMap id).isSome → .created id ∈ s.log
  count : s.capi.lastId = s.handed.length
  range : ∀ event ∈ s.log, event.id ≤ s.capi.lastId

theorem mem_handed {s : Session Socket} {id : Int} : id ∈ s.handed ↔ .created id ∈ s.log := by
  unfold Session.handed
  rw [List.mem_filterMap]
  constructor
  · rintro ⟨event, member, created⟩
    cases event with
    | created other =>
      rw [← Option.some.inj created]
      exact member
    | deleted | assigned | called => exact nomatch created
  · intro member
    exact ⟨_, member, rfl⟩

theorem handed_note (s : Session Socket) (capi : Capi Socket) (events : List Event) :
    (s.note capi events).handed = s.handed ++ events.filterMap Event.createdId :=
  List.filterMap_append ..

theorem Inv.consistent {s : Session Socket} (inv : Inv s) : Consistent s where
  same := inv.same
  handed := by
    unfold Session.handed
    rw [List.nodup_iff_pairwise_ne, List.pairwise_filterMap]
    apply inv.begins.imp
    intro earlier later before id created other created' same
    cases earlier with
    | created first =>
      cases later with
      | created second =>
        rw [← Option.some.inj created, ← Option.some.inj created'] at same
        exact before second rfl same
      | deleted | assigned | called => exact nomatch created'
    | deleted | assigned | called => exact nomatch created
  fresh := by
    intro before after id split unassigned undeleted
    have begins := inv.begins
    rw [split, List.pairwise_append] at begins
    have elsewhere : ∀ event ∈ before, event.id ≠ id :=
      fun event member => begins.2.2 event member _ (List.mem_cons_self ..) id rfl
    have later : ∀ event : Event, event ≠ .created id → event.id = id → event ∉ after → event ∉ s.log := by
      intro event different same absent member
      rw [split] at member
      rcases List.mem_append.mp member with early | late
      · exact elsewhere event early same
      · rcases List.mem_cons.mp late with created | late
        · exact different created
        · exact absent late
    exact inv.null id (by simp [split]) (later _ (by simp) rfl unassigned) (later _ (by simp) rfl undeleted)
  gone := inv.gone
  silent := inv.silent

/-! ### What a call does -/

theorem Inv.note {s : Session Socket} (inv : Inv s) (capi : Capi Socket) (events : List Event)
    (lastId : capi.lastId = s.capi.lastId) (known : ∀ event ∈ events, .created event.id ∈ s.log)
    (old : ∀ event ∈ events, event.createdId = none)
    (same : ∀ id, (capi.webSocketMap id).isSome = (capi.userPointerMap id).isSome)
    (gone : ∀ id, .deleted id ∈ s.log ++ events → capi.getUserPointer id = none)
    (silent : (s.log ++ events).Pairwise fun earlier later =>
      ∀ id ptr, earlier = .deleted id → later ≠ .called id ptr)
    (null : ∀ id, .created id ∈ s.log → .assigned id ∉ s.log ++ events → .deleted id ∉ s.log ++ events →
      capi.getUserPointer id = some 0)
    (live : ∀ id, (capi.webSocketMap id).isSome → (s.capi.webSocketMap id).isSome) :
    Inv (s.note capi events) := by
  have created : ∀ id, .created id ∈ s.log ++ events → .created id ∈ s.log := by
    intro id member
    rcases List.mem_append.mp member with before | now
    · exact before
    · exact nomatch old _ now
  have none : events.filterMap Event.createdId = [] :=
    List.filterMap_eq_nil_iff.mpr old
  refine ⟨same, gone, silent, ?_, fun id member => null id (created id member), ?_, ?_, ?_⟩
  · refine List.pairwise_append.mpr ⟨inv.begins, ?_, ?_⟩
    · apply List.pairwise_of_forall_mem_list
      intro earlier _ later member id same
      exact nomatch (old later member).symm.trans (congrArg Event.createdId same)
    · intro earlier _ later member id same
      exact nomatch (old later member).symm.trans (congrArg Event.createdId same)
  · intro id present
    exact List.mem_append_left _ (inv.live id (live id present))
  · rw [handed_note, none, List.append_nil]
    exact lastId.trans inv.count
  · intro event member
    have bound : event.id ≤ s.capi.lastId := by
      rcases List.mem_append.mp member with before | now
      · exact inv.range event before
      · exact inv.range (.created event.id) (known event now)
    change event.id ≤ capi.lastId
    rw [lastId]
    exact bound

theorem Inv.erased {s : Session Socket} (inv : Inv s) (capi : Capi Socket) (ids : List Int)
    (inside : ∀ id ∈ ids, (s.capi.webSocketMap id).isSome) (lastId : capi.lastId = s.capi.lastId)
    (webSocketMap : ∀ id, capi.webSocketMap id = if id ∈ ids then none else s.capi.webSocketMap id)
    (userPointerMap : ∀ id, capi.userPointerMap id = if id ∈ ids then none else s.capi.userPointerMap id) :
    Inv (s.note capi (ids.map .deleted)) := by
  have event : ∀ event ∈ ids.map Event.deleted, ∃ id ∈ ids, event = .deleted id := by
    intro event member
    obtain ⟨id, inside, same⟩ := List.mem_map.mp member
    exact ⟨id, inside, same.symm⟩
  apply inv.note _ _ lastId
  · intro one member
    obtain ⟨id, present, rfl⟩ := event one member
    exact inv.live id (inside id present)
  · intro one member
    obtain ⟨id, _, rfl⟩ := event one member
    rfl
  · intro id
    rw [webSocketMap, userPointerMap]
    split
    · rfl
    · exact inv.same id
  · intro id member
    rw [Capi.getUserPointer, userPointerMap]
    split
    · rfl
    · rename_i absent
      rcases List.mem_append.mp member with before | now
      · exact inv.gone id before
      · obtain ⟨other, present, same⟩ := event _ now
        rw [Event.deleted.inj same] at absent
        exact absurd present absent
  · refine List.pairwise_append.mpr ⟨inv.silent, ?_, ?_⟩
    · apply List.pairwise_of_forall_mem_list
      intro _ _ later member id ptr _
      obtain ⟨other, _, rfl⟩ := event later member
      exact Event.noConfusion
    · intro _ _ later member id ptr _
      obtain ⟨other, _, rfl⟩ := event later member
      exact Event.noConfusion
  · intro id created unassigned undeleted
    rw [List.mem_append, not_or] at unassigned undeleted
    have absent : id ∉ ids := fun present => undeleted.2 (List.mem_map_of_mem present)
    rw [Capi.getUserPointer, userPointerMap, if_neg absent]
    exact inv.null id created unassigned.1 undeleted.1
  · intro id present
    rw [webSocketMap] at present
    split at present
    · cases present
    · exact present

theorem Inv.nextId {s : Session Socket} (inv : Inv s) (room : s.handed.length + 1 < 2 ^ 31) :
    s.capi.nextId = s.capi.lastId + 1 := by
  unfold Capi.nextId
  rw [inv.count]
  apply Int.bmod_eq_of_le <;> omega

theorem Inv.created {s : Session Socket} (inv : Inv s) (room : s.handed.length + 1 < 2 ^ 31) (ptr : Socket) :
    Inv (s.note (s.capi.emplaceWebSocket ptr).2 [.created s.capi.nextId]) := by
  have next := inv.nextId room
  have unused : ∀ event ∈ s.log, event.id ≠ s.capi.nextId := by
    intro event member
    have bound := inv.range event member
    omega
  have vacant : s.capi.webSocketMap s.capi.nextId = none := by
    cases present : s.capi.webSocketMap s.capi.nextId with
    | none => rfl
    | some webSocket =>
      have created := inv.live s.capi.nextId (by rw [present]; rfl)
      exact absurd rfl (unused _ created)
  have unset : s.capi.userPointerMap s.capi.nextId = none := by
    have same := inv.same s.capi.nextId
    rw [vacant] at same
    exact Option.isNone_iff_eq_none.mp (by simpa using same.symm)
  have elsewhere : ∀ id, id ≠ s.capi.nextId → (s.capi.emplaceWebSocket ptr).2.webSocketMap id = s.capi.webSocketMap id ∧
      (s.capi.emplaceWebSocket ptr).2.userPointerMap id = s.capi.userPointerMap id :=
    fun id different => ⟨Function.update_of_ne different .., Function.update_of_ne different ..⟩
  have here : (s.capi.emplaceWebSocket ptr).2.webSocketMap s.capi.nextId = some ptr ∧
      (s.capi.emplaceWebSocket ptr).2.userPointerMap s.capi.nextId = some 0 := by
    constructor
    · exact (Function.update_self ..).trans (by rw [vacant]; rfl)
    · exact (Function.update_self ..).trans (by rw [unset]; rfl)
  refine ⟨?_, ?_, ?_, ?_, ?_, ?_, ?_, ?_⟩
  · intro id
    by_cases same : id = s.capi.nextId
    · subst same
      exact (congrArg Option.isSome here.1).trans (congrArg Option.isSome here.2).symm
    · exact (congrArg Option.isSome (elsewhere id same).1).trans
        ((inv.same id).trans (congrArg Option.isSome (elsewhere id same).2).symm)
  · intro id member
    have before : .deleted id ∈ s.log := by simpa [Session.note] using member
    exact ((elsewhere id (unused _ before)).2).trans (inv.gone id before)
  · refine List.pairwise_append.mpr ⟨inv.silent, List.pairwise_singleton .., ?_⟩
    intro _ _ later member id ptr _
    rw [List.mem_singleton.mp member]
    exact Event.noConfusion
  · refine List.pairwise_append.mpr ⟨inv.begins, List.pairwise_singleton .., ?_⟩
    intro earlier before later member id same
    rw [List.mem_singleton.mp member] at same
    rw [← Event.created.inj same]
    exact unused earlier before
  · intro id created unassigned undeleted
    by_cases same : id = s.capi.nextId
    · subst same
      exact here.2
    · have before : .created id ∈ s.log := by simpa [Session.note, same] using created
      exact ((elsewhere id same).2).trans (inv.null id before (fun member => unassigned (List.mem_append_left _ member))
        (fun member => undeleted (List.mem_append_left _ member)))
  · intro id present
    by_cases same : id = s.capi.nextId
    · simp [Session.note, same]
    · exact List.mem_append_left _ (inv.live id (by rw [← (elsewhere id same).1]; exact present))
  · rw [handed_note]
    exact next.trans (by simp [inv.count, Event.createdId])
  · intro event member
    change event.id ≤ s.capi.nextId
    rcases List.mem_append.mp member with before | now
    · have bound := inv.range event before
      omega
    · rw [List.mem_singleton.mp now]
      exact Int.le_refl _

namespace Capi

theorem wrap_error (s : Capi Socket) (e : Exception) :
    (s.wrap (.error e)).1 < 0 ∧ (s.wrap (.error e)).2 = s := by
  cases e <;> exact ⟨Int.negSucc_lt_zero _, rfl⟩

theorem wscDelete_eq (s : Capi Socket) (id : Int) : s.wscDelete id =
    if (s.webSocketMap id).isSome then
      (WSC_ERR_SUCCESS, { s with
        webSocketMap := s.webSocketMap.erase id, userPointerMap := s.userPointerMap.erase id })
    else (WSC_ERR_INVALID, s) := by
  unfold wscDelete getChannel eraseChannel find erase
  cases s.webSocketMap id <;> rfl

theorem wscDeleteWebSocket_eq (s : Capi Socket) (ws : Int) : s.wscDeleteWebSocket ws = s.wscDelete ws := rfl

end Capi

theorem Session.note_nil (s : Session Socket) : s.note s.capi [] = s := by
  rw [Session.note, List.append_nil]

theorem Inv.delete {s : Session Socket} (inv : Inv s) (id : Int) : Inv (s.delete id (s.capi.wscDelete id)) := by
  unfold Session.delete
  rw [Capi.wscDelete_eq]
  by_cases present : (s.capi.webSocketMap id).isSome
  · rw [if_pos present]
    have erase : ∀ {Value : Type} (map : Map Value) (key : Int),
        map.erase id key = if key ∈ [id] then none else map key := by
      intro Value map key
      by_cases same : key = id
      · rw [same, if_pos (List.mem_singleton_self id)]
        exact Function.update_self ..
      · rw [if_neg (by simpa using same)]
        exact Function.update_of_ne same ..
    refine inv.erased _ [id] ?_ rfl (erase _) (erase _)
    intro other member
    rw [List.mem_singleton.mp member]
    exact present
  · rw [if_neg present]
    exact s.note_nil.symm ▸ inv

/-- The table holds live ids only. -/
theorem Inv.mem_live {s : Session Socket} (inv : Inv s) {id : Int} :
    id ∈ s.live ↔ (s.capi.webSocketMap id).isSome := by
  unfold Session.live
  rw [List.mem_filter, mem_handed]
  exact ⟨fun both => both.2, fun present => ⟨inv.live id present, present⟩⟩

theorem Inv.cleanup {s : Session Socket} (inv : Inv s) : Inv (s.note s.capi.wscCleanup (s.live.map .deleted)) := by
  refine inv.erased _ _ (fun id member => inv.mem_live.mp member) rfl ?_ ?_
  · intro id
    split
    · rfl
    · rename_i absent
      exact (Option.not_isSome_iff_eq_none.mp (fun present => absent (inv.mem_live.mpr present))).symm
  · intro id
    split
    · rfl
    · rename_i absent
      rw [inv.mem_live, inv.same] at absent
      exact (Option.not_isSome_iff_eq_none.mp absent).symm

theorem Inv.assigned {s : Session Socket} (inv : Inv s) {i : Int} (present : (s.capi.webSocketMap i).isSome)
    (ptr : Nat) : Inv (s.note (s.capi.wscSetUserPointer i ptr) [.assigned i]) := by
  have elsewhere : ∀ id, id ≠ i → (s.capi.wscSetUserPointer i ptr).userPointerMap id = s.capi.userPointerMap id :=
    fun id different => Function.update_of_ne different ..
  have here : (s.capi.wscSetUserPointer i ptr).userPointerMap i = some ptr := Function.update_self ..
  apply inv.note (s.capi.wscSetUserPointer i ptr) _ rfl
  · intro event member
    rw [List.mem_singleton.mp member]
    exact inv.live i present
  · intro event member
    rw [List.mem_singleton.mp member]
    rfl
  · intro id
    by_cases same : id = i
    · rw [same, here]
      exact present
    · rw [elsewhere id same]
      exact inv.same id
  · intro id member
    have before : .deleted id ∈ s.log := by simpa using member
    have gone := inv.gone id before
    have different : id ≠ i := by
      rintro rfl
      rw [inv.same id, ← Capi.getUserPointer, gone] at present
      cases present
    exact (elsewhere id different).trans gone
  · refine List.pairwise_append.mpr ⟨inv.silent, List.pairwise_singleton .., ?_⟩
    intro _ _ later member id ptr _
    rw [List.mem_singleton.mp member]
    exact Event.noConfusion
  · intro id created unassigned undeleted
    have different : id ≠ i := by
      rintro rfl
      exact unassigned (by simp)
    exact (elsewhere id different).trans (inv.null id created (fun member => unassigned (List.mem_append_left _ member))
      (fun member => undeleted (List.mem_append_left _ member)))
  · exact fun id present => present

theorem Inv.called {s : Session Socket} (inv : Inv s) {id : Int} {ptr : Nat}
    (set : s.capi.getUserPointer id = some ptr) : Inv (s.note s.capi [.called id ptr]) := by
  have present : (s.capi.webSocketMap id).isSome := by
    rw [inv.same, ← Capi.getUserPointer, set]
    rfl
  apply inv.note _ _ rfl
  · intro event member
    rw [List.mem_singleton.mp member]
    exact inv.live id present
  · intro event member
    rw [List.mem_singleton.mp member]
    rfl
  · exact inv.same
  · intro other member
    exact inv.gone other (by simpa using member)
  · refine List.pairwise_append.mpr ⟨inv.silent, List.pairwise_singleton .., ?_⟩
    intro earlier before later member other ptr' deleted called
    rw [List.mem_singleton.mp member] at called
    rw [deleted] at before
    have gone := inv.gone other before
    rw [← (Event.called.inj called).1, set] at gone
    cases gone
  · intro other created unassigned undeleted
    exact inv.null other created (fun member => unassigned (List.mem_append_left _ member))
      (fun member => undeleted (List.mem_append_left _ member))
  · exact fun id present => present

theorem keeps_inv (s : Session Socket) (call : Call Socket) (next : Session Socket) (inv : Inv s)
    (step : Step s call next) (known : Known s call) : Inv next := by
  obtain ⟨room⟩ := step
  cases call with
  | wscCreateWebSocket opened =>
    have enough := room opened rfl
    unfold Session.call
    cases opened with
    | error e =>
      have failed := s.capi.wrap_error e
      change Inv (s.note (s.capi.wrap (.error e)).2 (if 0 < (s.capi.wrap (.error e)).1 then _ else []))
      rw [if_neg (by omega), failed.2, s.note_nil]
      exact inv
    | ok webSocket =>
      have positive : 0 < s.capi.nextId := by
        rw [inv.nextId enough, inv.count]
        omega
      change Inv (s.note (s.capi.emplaceWebSocket webSocket).2
          (if 0 < s.capi.nextId then [.created s.capi.nextId] else []))
      rw [if_pos positive]
      exact inv.created enough webSocket
  | wscDelete id => exact inv.delete id
  | wscDeleteWebSocket ws =>
    rw [Session.call, Capi.wscDeleteWebSocket_eq]
    exact inv.delete ws
  | wscCleanup => exact inv.cleanup
  | wscSetUserPointer i ptr => exact inv.assigned (known i ptr rfl) ptr
  | callback id =>
    cases set : s.capi.getUserPointer id with
    | none =>
      simp only [Session.call, set]
      exact inv
    | some ptr =>
      simp only [Session.call, set]
      exact inv.called set

theorem breaks_consistent (s : Session Socket) (call : Call Socket) (next : Session Socket)
    (step : Step s call next) (against : ¬Known s call) : ¬Consistent next := by
  obtain ⟨room⟩ := step
  unfold Known at against
  push Not at against
  obtain ⟨i, ptr, rfl, absent⟩ := against
  intro consistent
  have same := consistent.same i
  have set : (s.capi.wscSetUserPointer i ptr).userPointerMap i = some ptr := Function.update_self ..
  exact absent (same.trans (congrArg Option.isSome set))

theorem initial_inv : Inv (Session.initial : Session Socket) where
  same _ := rfl
  gone _ _ := rfl
  silent := .nil
  begins := .nil
  null _ created := absurd created List.not_mem_nil
  live _ present := absurd present Bool.false_ne_true
  count := rfl
  range _ member := absurd member List.not_mem_nil

/-- The tables stay consistent in a run, exactly when each user pointer is set for an id of the table. -/
theorem consistent_iff (trace : List (Call Socket × Session Socket)) (run : Run Step Session.initial trace) :
    Always Consistent Session.initial trace ↔ Guarded Known Session.initial trace :=
  always_iff (fun _ inv => inv.consistent) keeps_inv (fun s call next _ => breaks_consistent s call next)
    trace _ initial_inv run

end

/-- A socket that is created, called back with its user pointer, and deleted. -/
def lifecycle : List (Call Unit × Session Unit) :=
  let one := Session.initial.call (.wscCreateWebSocket (.ok ()))
  let two := one.call (.wscSetUserPointer 1 7)
  let three := two.call (.callback 1)
  let four := three.call (.wscDelete 1)
  [(.wscCreateWebSocket (.ok ()), one), (.wscSetUserPointer 1 7, two), (.callback 1, three), (.wscDelete 1, four),
    (.callback 1, four.call (.callback 1))]

theorem consistent_lifecycle :
    Always Consistent Session.initial lifecycle ↔ Guarded Known Session.initial lifecycle :=
  consistent_iff lifecycle ⟨.call _ fun _ _ => by decide, .call _ (by simp), .call _ (by simp), .call _ (by simp),
    .call _ (by simp), trivial⟩

/-- The pointer of an id is set when that has been deleted, and its callbacks come through again. -/
def revived : List (Call Unit × Session Unit) :=
  let one := Session.initial.call (.wscCreateWebSocket (.ok ()))
  let two := one.call (.wscDelete 1)
  let three := two.call (.wscSetUserPointer 1 7)
  [(.wscCreateWebSocket (.ok ()), one), (.wscDelete 1, two), (.wscSetUserPointer 1 7, three),
    (.callback 1, three.call (.callback 1))]

theorem revived_not_consistent :
    ¬∀ trace : List (Call Unit × Session Unit), Run Step Session.initial trace →
      Always Consistent Session.initial trace := by
  intro all
  have run : Run Step Session.initial revived :=
    ⟨.call _ fun _ _ => by decide, .call _ (by simp), .call _ (by simp), .call _ (by simp), trivial⟩
  have called := (all revived run).last.silent
  exact absurd rfl (List.rel_of_pairwise_cons (List.pairwise_cons.mp called).2 (by decide) 1 7 rfl)

end WebsocketClient.CApis
