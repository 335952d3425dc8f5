import WebsocketClient.TcpConnect

/-! The chain of attempts of a `TcpTransport`, which is started once: the addresses that it tries, how they end, and
what becomes of the transport. A task or a callback of the chain ends with what it leaves to the pool or to the poll
service, so each is one step. -/

namespace WebsocketClient.ConnectChains
open Transports TcpConnects Library.Runs

variable {Address : Type}

/-- A transport with the history of its chain. -/
structure Chain (Address : Type) where
  transport : TcpTransport Address
  /-- What the name was resolved to. -/
  addresses : List Address
  /-- The addresses that were given to `createSocket`, and how those that have ended did; a success is true. -/
  tried : List Address
  results : List Bool
  /-- The calls of `attempt`. -/
  attempts : Nat
  /-- The states that the transport was changed to. -/
  became : List State

def outcomeResult : Outcome → Option Bool
  | .noSocket | .failed _ => some false
  | .created _ => none

/-- What the callback of `attempt` makes of an event. -/
def eventResult : Event → Option Bool
  | .error | .timeout => some false
  | .out failed => some (!failed)
  | .in => none

namespace Chain
variable (c : Chain Address)

def started : Chain Address where
  transport := TcpTransport.new.start
  addresses := []
  tried := []
  results := []
  attempts := 0
  became := [.connecting]

/-- The address that a step takes from the front of `mResolved`. -/
def triedBy : Label Address → Option Address
  | .attempt _ => if c.transport.state = .connecting then c.transport.mResolved.head? else none
  | _ => none

/-- How an address ends in a step. -/
def resultOf : Label Address → Option Bool
  | .attempt outcome => if (c.triedBy (.attempt outcome)).isSome then outcomeResult outcome else none
  | .event sock event _ => if c.transport.polls sock = some .connecting then eventResult event else none
  | _ => none

def record (label : Label Address) (next : TcpTransport Address) : Chain Address where
  transport := next
  addresses := match label with
    | .resolve (some addresses) => if c.transport.state = .connecting then addresses else c.addresses
    | _ => c.addresses
  tried := c.tried ++ (c.triedBy label).toList
  results := c.results ++ (c.resultOf label).toList
  attempts := match label with
    | .attempt _ => c.attempts + 1
    | _ => c.attempts
  became := if next.state = c.transport.state then c.became else c.became ++ [next.state]

end Chain

/-- The pool, the poll service and the owner of the transport go on in any order. -/
inductive ChainStep (c : Chain Address) : Label Address → Chain Address → Prop where
  | step (label : Label Address) (next : TcpTransport Address) : label ≠ .start → Step c.transport label next →
      ChainStep c label (c.record label next)

def Registered (t : TcpTransport Address) (sock : Nat) : Prop := t.polls sock = some .connecting

structure Orderly (c : Chain Address) : Prop where
  /-- The addresses are tried in their order, each once, and one after the other. -/
  order : c.tried <+: c.addresses
  sequential : c.results.length ≤ c.tried.length ∧ c.tried.length ≤ c.results.length + 1
  /-- There is one task or one socket at most. -/
  task : c.transport.pool.length ≤ 1
  socket : ∀ sock other, Registered c.transport sock → Registered c.transport other → sock = other
  exclusive : c.transport.pool ≠ [] → ∀ sock, ¬Registered c.transport sock
  connected : .connected ∈ c.became ↔ true ∈ c.results
  /-- No address is tried after one that succeeds. -/
  last : ∀ index : Nat, c.results[index]? = some true → c.tried.length = index + 1
  failed : .failed ∈ c.became → c.results = List.replicate c.addresses.length false
  /-- Where nothing is left to wait for, the transport has failed exactly when all addresses have, and connected
  otherwise. -/
  ended : c.transport.destroyed = false → c.transport.pool = [] → (∀ sock, ¬Registered c.transport sock) →
    (.failed ∈ c.became ↔ c.results = List.replicate c.addresses.length false) ∧
      (.connected ∈ c.became ∨ .failed ∈ c.became)
  bounded : c.attempts ≤ c.addresses.length + 1

/-! ### Where a chain is -/

structure Resolving (c : Chain Address) : Prop where
  state : c.transport.state = .connecting
  pool : c.transport.pool = [.resolve]
  polls : c.transport.polls = fun _ => none
  addresses : c.addresses = []
  tried : c.tried = []
  results : c.results = []
  attempts : c.attempts = 0
  became : c.became = [.connecting]

structure Pending (c : Chain Address) : Prop where
  state : c.transport.state = .connecting
  pool : c.transport.pool = [.attempt]
  polls : c.transport.polls = fun _ => none
  order : c.tried ++ c.transport.mResolved = c.addresses
  results : c.results = List.replicate c.tried.length false
  attempts : c.attempts = c.tried.length
  became : c.became = [.connecting]

structure Connecting (c : Chain Address) (sock : Nat) : Prop where
  state : c.transport.state = .connecting
  mSock : c.transport.mSock = some sock
  pool : c.transport.pool = []
  polls : c.transport.polls = Function.update (fun _ => none) sock (some .connecting)
  order : c.tried ++ c.transport.mResolved = c.addresses
  tried : c.tried.length = c.results.length + 1
  results : c.results = List.replicate c.results.length false
  attempts : c.attempts = c.tried.length
  became : c.became = [.connecting]

structure Succeeded (c : Chain Address) : Prop where
  pool : c.transport.pool = []
  polls : ∀ sock, ¬Registered c.transport sock
  order : c.tried ++ c.transport.mResolved = c.addresses
  results : ∃ before, c.results = List.replicate before false ++ [true] ∧ c.tried.length = before + 1
  attempts : c.attempts = c.tried.length
  connected : .connected ∈ c.became
  failed : .failed ∉ c.became

structure Failed (c : Chain Address) : Prop where
  state : c.transport.state = .failed
  pool : c.transport.pool = []
  polls : c.transport.polls = fun _ => none
  tried : c.tried = c.addresses
  results : c.results = List.replicate c.addresses.length false
  attempts : c.attempts ≤ c.addresses.length + 1
  became : c.became = [.connecting, .failed]

def Going (c : Chain Address) : Prop :=
  Resolving c ∨ Pending c ∨ (∃ sock, Connecting c sock) ∨ Succeeded c ∨ Failed c

section
variable {c : Chain Address}

theorem not_registered (polls : c.transport.polls = fun _ => none) (sock : Nat) : ¬Registered c.transport sock := by
  intro registered
  rw [Registered, polls] at registered
  exact absurd registered (by simp)

theorem no_success {results : List Bool} {count : Nat} (failures : results = List.replicate count false) (index : Nat) :
    results[index]? ≠ some true := by
  intro found
  have member : true ∈ results := List.mem_of_getElem? found
  rw [failures] at member
  exact absurd (List.eq_of_mem_replicate member) (by decide)

theorem Resolving.orderly (at_ : Resolving c) : Orderly c where
  order := by
    rw [at_.tried]
    exact List.nil_prefix
  sequential := by simp [at_.tried, at_.results]
  task := by simp [at_.pool]
  socket sock other registered := absurd registered (not_registered at_.polls sock)
  exclusive _ := not_registered at_.polls
  connected := by simp [at_.became, at_.results]
  last index found := by simp [at_.results] at found
  failed became := by simp [at_.became] at became
  ended _ pool := by simp [at_.pool] at pool
  bounded := by simp [at_.attempts]

theorem Pending.orderly (at_ : Pending c) : Orderly c where
  order := ⟨_, at_.order⟩
  sequential := by simp [at_.results]
  task := by simp [at_.pool]
  socket sock other registered := absurd registered (not_registered at_.polls sock)
  exclusive _ := not_registered at_.polls
  connected := by simp [at_.became, at_.results]
  last index found := absurd found (no_success at_.results index)
  failed became := by simp [at_.became] at became
  ended _ pool := by simp [at_.pool] at pool
  bounded := by
    rw [at_.attempts, ← at_.order, List.length_append]
    omega

theorem Connecting.registered {sock other : Nat} (at_ : Connecting c sock) :
    Registered c.transport other ↔ other = sock := by
  rw [Registered, at_.polls]
  by_cases same : other = sock
  · subst same
    simp
  · simp [same]

theorem Connecting.orderly {sock : Nat} (at_ : Connecting c sock) : Orderly c where
  order := ⟨_, at_.order⟩
  sequential := by
    have tried := at_.tried
    omega
  task := by simp [at_.pool]
  socket one other registered registered' := (at_.registered.mp registered).trans (at_.registered.mp registered').symm
  exclusive pool := absurd at_.pool pool
  connected := by
    rw [at_.became, at_.results]
    simp
  last index found := absurd found (no_success at_.results index)
  failed became := by simp [at_.became] at became
  ended _ _ silent := absurd (at_.registered.mpr rfl) (silent sock)
  bounded := by
    rw [at_.attempts, ← at_.order, List.length_append]
    omega

theorem Succeeded.orderly (at_ : Succeeded c) : Orderly c where
  order := ⟨_, at_.order⟩
  sequential := by
    obtain ⟨before, results, tried⟩ := at_.results
    rw [results, List.length_append, List.length_replicate, List.length_singleton]
    omega
  task := by simp [at_.pool]
  socket sock other registered := absurd registered (at_.polls sock)
  exclusive pool := absurd at_.pool pool
  connected := by
    obtain ⟨before, results, _⟩ := at_.results
    exact ⟨fun _ => by simp [results], fun _ => at_.connected⟩
  last index found := by
    obtain ⟨before, results, tried⟩ := at_.results
    rw [results, List.getElem?_append, List.length_replicate] at found
    split at found
    · exact absurd found (no_success rfl index)
    · have final : index - before = 0 := by
        have bound := (List.getElem?_eq_some_iff.mp found).1
        rw [List.length_singleton] at bound
        omega
      omega
  failed became := absurd became at_.failed
  ended _ _ _ := by
    obtain ⟨before, results, _⟩ := at_.results
    refine ⟨⟨fun became => absurd became at_.failed, fun failures => ?_⟩, .inl at_.connected⟩
    have success : c.results[before]? = some true := by simp [results]
    exact absurd success (no_success failures before)
  bounded := by
    rw [at_.attempts, ← at_.order, List.length_append]
    omega

theorem Failed.orderly (at_ : Failed c) : Orderly c where
  order := ⟨[], by rw [List.append_nil, at_.tried]⟩
  sequential := by simp [at_.tried, at_.results]
  task := by simp [at_.pool]
  socket sock other registered := absurd registered (not_registered at_.polls sock)
  exclusive _ := not_registered at_.polls
  connected := by simp [at_.became, at_.results]
  last index found := absurd found (no_success at_.results index)
  failed _ := at_.results
  ended _ _ _ := by
    have became : State.failed ∈ c.became := by simp [at_.became]
    exact ⟨⟨fun _ => at_.results, fun _ => became⟩, .inr became⟩
  bounded := at_.attempts

theorem Going.orderly (going : Going c) : Orderly c := by
  rcases going with resolving | pending | ⟨sock, connecting⟩ | succeeded | failed
  · exact resolving.orderly
  · exact pending.orderly
  · exact connecting.orderly
  · exact succeeded.orderly
  · exact failed.orderly

/-! ### Steps -/

theorem Resolving.resolve (at_ : Resolving c) (resolved : Option (List Address)) {next : Chain Address}
    (recorded : next = c.record (.resolve resolved)
      (TcpTransport.resolve { c.transport with pool := c.transport.pool.erase .resolve } resolved)) :
    Pending next ∨ Failed next := by
  subst recorded
  have state := at_.state
  have pool : c.transport.pool.erase .resolve = [] := by
    rw [at_.pool]
    rfl
  cases resolved with
  | none =>
    refine .inr ⟨?_, ?_, ?_, ?_, ?_, ?_, ?_⟩
    · simp [Chain.record, TcpTransport.resolve, state]
    · simpa [Chain.record, TcpTransport.resolve, state] using pool
    · simpa [Chain.record, TcpTransport.resolve, state] using at_.polls
    · simp [Chain.record, Chain.triedBy, at_.tried, at_.addresses]
    · simp [Chain.record, Chain.resultOf, at_.results, at_.addresses]
    · simp [Chain.record, at_.attempts]
    · simp [Chain.record, TcpTransport.resolve, state, at_.became]
  | some addresses =>
    refine .inl ⟨?_, ?_, ?_, ?_, ?_, ?_, ?_⟩
    · simp [Chain.record, TcpTransport.resolve, TcpTransport.enqueue, state]
    · simp [Chain.record, TcpTransport.resolve, TcpTransport.enqueue, state, pool]
    · simpa [Chain.record, TcpTransport.resolve, TcpTransport.enqueue, state] using at_.polls
    · simp [Chain.record, Chain.triedBy, TcpTransport.resolve, TcpTransport.enqueue, state, at_.tried]
    · simp [Chain.record, Chain.triedBy, Chain.resultOf, at_.tried, at_.results]
    · simp [Chain.record, Chain.triedBy, at_.tried, at_.attempts]
    · simp [Chain.record, TcpTransport.resolve, TcpTransport.enqueue, state, at_.became]

theorem vacate (t : TcpTransport Address) :
    (if t.mSock = none then { t.closesocket t.mSock with mSock := none } else t) = t := by
  split
  · rename_i vacant
    rw [vacant, TcpTransport.closesocket, ← vacant]
  · rfl

theorem attempt_exhausted (t : TcpTransport Address) (outcome : Outcome) (state : t.state = .connecting)
    (exhausted : t.mResolved = []) : t.attempt outcome = { t with state := .failed } := by
  rw [TcpTransport.attempt, if_neg (not_not.mpr state)]
  simp only [vacate, exhausted]

theorem attempt_fails (t : TcpTransport Address) {outcome : Outcome} {address : Address} {rest : List Address}
    (state : t.state = .connecting) (addresses : t.mResolved = address :: rest)
    (fails : outcomeResult outcome = some false) :
    (t.attempt outcome).state = .connecting ∧ (t.attempt outcome).pool = t.pool ++ [.attempt] ∧
      (t.attempt outcome).polls = t.polls ∧ (t.attempt outcome).mResolved = rest := by
  rw [TcpTransport.attempt, if_neg (not_not.mpr state)]
  simp only [vacate, addresses]
  cases outcome with
  | noSocket | failed => exact ⟨state, rfl, rfl, rfl⟩
  | created => cases fails

theorem attempt_creates (t : TcpTransport Address) {sock : Nat} {address : Address} {rest : List Address}
    (state : t.state = .connecting) (addresses : t.mResolved = address :: rest) :
    t.attempt (.created sock) = { t with
      mSock := some sock
      mResolved := rest
      opened := t.opened ++ [sock]
      polls := Function.update t.polls sock (some .connecting) } := by
  rw [TcpTransport.attempt, if_neg (not_not.mpr state)]
  simp only [vacate, addresses]
  rfl

theorem Pending.next (at_ : Pending c) {address : Address} {rest : List Address}
    (addresses : c.transport.mResolved = address :: rest) (outcome : Outcome) :
    c.triedBy (.attempt outcome) = some address ∧ c.tried ++ [address] ++ rest = c.addresses := by
  have order := at_.order
  rw [addresses] at order
  refine ⟨?_, by rw [List.append_assoc, List.singleton_append, order]⟩
  rw [Chain.triedBy, if_pos at_.state, addresses]
  rfl

theorem Pending.exhausted (at_ : Pending c) (outcome : Outcome) {next : TcpTransport Address}
    (exhausted : c.transport.mResolved = []) (state : next.state = .failed) (pool : next.pool = [])
    (polls : next.polls = c.transport.polls) : Failed (c.record (.attempt outcome) next) := by
  have order := at_.order
  rw [exhausted, List.append_nil] at order
  have untried : c.triedBy (.attempt outcome) = none := by
    rw [Chain.triedBy, if_pos at_.state, exhausted]
    rfl
  refine ⟨state, pool, polls.trans at_.polls, ?_, ?_, ?_, ?_⟩
  · simp [Chain.record, untried, order]
  · simp [Chain.record, Chain.resultOf, untried, at_.results, order]
  · simp [Chain.record, at_.attempts, order]
  · simp [Chain.record, state, at_.state, at_.became]

theorem Pending.failing (at_ : Pending c) {outcome : Outcome} {next : TcpTransport Address} {address : Address}
    {rest : List Address} (addresses : c.transport.mResolved = address :: rest)
    (fails : outcomeResult outcome = some false) (state : next.state = .connecting) (pool : next.pool = [.attempt])
    (polls : next.polls = c.transport.polls) (left : next.mResolved = rest) :
    Pending (c.record (.attempt outcome) next) := by
  obtain ⟨tried, order⟩ := at_.next addresses outcome
  refine ⟨state, pool, polls.trans at_.polls, ?_, ?_, ?_, ?_⟩
  · simp only [Chain.record, tried, Option.toList_some, left]
    exact order
  · simp only [Chain.record, Chain.resultOf, tried, Option.isSome_some, if_true, fails, Option.toList_some,
      List.length_append, List.length_singleton, List.replicate_succ', at_.results]
  · simp [Chain.record, tried, at_.attempts]
  · simp [Chain.record, state, at_.state, at_.became]

theorem Pending.creating (at_ : Pending c) {sock : Nat} {next : TcpTransport Address} {address : Address}
    {rest : List Address} (addresses : c.transport.mResolved = address :: rest) (state : next.state = .connecting)
    (mSock : next.mSock = some sock) (pool : next.pool = []) (left : next.mResolved = rest)
    (polls : next.polls = Function.update c.transport.polls sock (some .connecting)) :
    Connecting (c.record (.attempt (.created sock)) next) sock := by
  obtain ⟨tried, order⟩ := at_.next addresses (.created sock)
  have silent : c.resultOf (.attempt (.created sock)) = none := by
    rw [Chain.resultOf, tried]
    rfl
  refine ⟨state, mSock, pool, ?_, ?_, ?_, ?_, ?_, ?_⟩
  · rw [Chain.record, polls, at_.polls]
  · simp only [Chain.record, tried, Option.toList_some, left]
    exact order
  · simp [Chain.record, tried, silent, at_.results]
  · simp [Chain.record, silent, at_.results]
  · simp [Chain.record, tried, at_.attempts]
  · simp [Chain.record, state, at_.state, at_.became]

theorem Pending.attempt (at_ : Pending c) (outcome : Outcome) :
    Going (c.record (.attempt outcome)
      (TcpTransport.attempt { c.transport with pool := c.transport.pool.erase .attempt } outcome)) := by
  let taken : TcpTransport Address := { c.transport with pool := c.transport.pool.erase .attempt }
  have pool : taken.pool = [] := by
    simp only [taken, at_.pool]
    rfl
  have state : taken.state = .connecting := at_.state
  cases addresses : c.transport.mResolved with
  | nil =>
    have next : taken.attempt outcome = { taken with state := .failed } :=
      attempt_exhausted taken outcome state addresses
    refine .inr (.inr (.inr (.inr (at_.exhausted outcome addresses ?_ ?_ ?_))))
    · exact congrArg TcpTransport.state next
    · exact (congrArg TcpTransport.pool next).trans pool
    · have polls : taken.polls = c.transport.polls := rfl
      exact (congrArg TcpTransport.polls next).trans polls
  | cons address rest =>
    have failing (fails : outcomeResult outcome = some false) :
        Pending (c.record (.attempt outcome) (taken.attempt outcome)) := by
      obtain ⟨still, again, polls, left⟩ := attempt_fails taken state addresses fails
      rw [pool] at again
      exact at_.failing addresses fails still again polls left
    cases outcome with
    | created sock =>
      have next : taken.attempt (.created sock) = { taken with
          mSock := some sock
          mResolved := rest
          opened := taken.opened ++ [sock]
          polls := Function.update taken.polls sock (some .connecting) } := attempt_creates taken state addresses
      refine .inr (.inr (.inl ⟨sock, at_.creating addresses ?_ ?_ ?_ ?_ ?_⟩))
      · exact (congrArg TcpTransport.state next).trans state
      · exact congrArg TcpTransport.mSock next
      · exact (congrArg TcpTransport.pool next).trans pool
      · exact congrArg TcpTransport.mResolved next
      · exact congrArg TcpTransport.polls next
    | noSocket | failed => exact .inr (.inl (failing rfl))

theorem connecting_fails (t : TcpTransport Address) {event : Event} {sock : Nat} (stored : t.mSock = some sock)
    (fails : eventResult event = some false) :
    t.connecting event = { t with polls := Function.update t.polls sock none, pool := t.pool ++ [.attempt] } := by
  have removed : t.remove.enqueue .attempt =
      { t with polls := Function.update t.polls sock none, pool := t.pool ++ [.attempt] } := by
    simp only [TcpTransport.remove, stored, TcpTransport.enqueue]
  cases event with
  | error | timeout => exact removed
  | «in» => cases fails
  | out failed =>
    cases failed with
    | true => exact removed
    | false => cases fails

theorem connecting_succeeds (t : TcpTransport Address) {sock : Nat} (stored : t.mSock = some sock) :
    t.connecting (.out false) =
      { t with state := .connected, polls := Function.update t.polls sock (some .process) } := by
  simp only [TcpTransport.connecting, TcpTransport.add, stored]

theorem event_connecting (t : TcpTransport Address) {sock : Nat} {event : Event} {lost : Bool}
    (registered : Registered t sock) : t.event sock event lost = TcpTransport.connecting { t with
      polls := if event.final then Function.update t.polls sock none else t.polls } event := by
  rw [Registered] at registered
  simp only [TcpTransport.event, registered]

theorem resultOf_event {sock : Nat} {event : Event} {lost : Bool} (registered : Registered c.transport sock) :
    c.resultOf (.event sock event lost) = eventResult event := if_pos registered

theorem Connecting.failing {sock : Nat} (at_ : Connecting c sock) {event : Event} {lost : Bool}
    (fails : eventResult event = some false) :
    Pending (c.record (.event sock event lost) (c.transport.event sock event lost)) := by
  have registered : Registered c.transport sock := at_.registered.mpr rfl
  have result : c.resultOf (.event sock event lost) = some false := (resultOf_event registered).trans fails
  have gone : Function.update c.transport.polls sock none = fun _ => none := by
    rw [at_.polls, Function.update_idem]
    exact Function.update_eq_self sock (fun _ => none)
  have next : c.transport.event sock event lost = { c.transport with polls := fun _ => none, pool := [.attempt] } := by
    let dropped : TcpTransport Address := { c.transport with
      polls := if event.final then Function.update c.transport.polls sock none else c.transport.polls }
    have stored : dropped.mSock = some sock := at_.mSock
    rw [event_connecting _ registered, connecting_fails dropped stored fails]
    simp only [dropped, at_.pool, List.nil_append]
    split
    · rw [Function.update_idem, gone]
    · rw [gone]
  rw [next]
  refine ⟨at_.state, rfl, rfl, ?_, ?_, ?_, ?_⟩
  · simpa [Chain.record, Chain.triedBy] using at_.order
  · have tried : (c.record (.event sock event lost) { c.transport with
        polls := fun _ => none, pool := [.attempt] }).tried.length = c.results.length + 1 := by
      simpa [Chain.record, Chain.triedBy] using at_.tried
    rw [tried, List.replicate_succ', ← at_.results]
    simp only [Chain.record, result, Option.toList_some]
  · simpa [Chain.record, Chain.triedBy] using at_.attempts
  · simp [Chain.record, at_.became]

theorem Connecting.succeeding {sock : Nat} (at_ : Connecting c sock) (lost : Bool) :
    Succeeded (c.record (.event sock (.out false) lost) (c.transport.event sock (.out false) lost)) := by
  have registered : Registered c.transport sock := at_.registered.mpr rfl
  have result : c.resultOf (.event sock (.out false) lost) = some true := resultOf_event registered
  have next : c.transport.event sock (.out false) lost = { c.transport with
      state := .connected
      polls := Function.update c.transport.polls sock (some .process) } := by
    rw [event_connecting _ registered]
    exact connecting_succeeds c.transport at_.mSock
  rw [next]
  refine ⟨at_.pool, ?_, ?_, ⟨c.results.length, ?_, ?_⟩, ?_, ?_, ?_⟩
  · intro other still
    simp only [Registered, Chain.record] at still
    by_cases same : other = sock
    · subst same
      simp at still
    · rw [Function.update_of_ne same] at still
      exact same (at_.registered.mp still)
  · simpa [Chain.record, Chain.triedBy] using at_.order
  · rw [← at_.results]
    simp only [Chain.record, result, Option.toList_some]
  · simpa [Chain.record, Chain.triedBy] using at_.tried
  · simpa [Chain.record, Chain.triedBy] using at_.attempts
  · simp [Chain.record, at_.state]
  · simp [Chain.record, at_.state, at_.became]

theorem Connecting.ignoring {sock : Nat} (at_ : Connecting c sock) (lost : Bool) :
    Connecting (c.record (.event sock .in lost) (c.transport.event sock .in lost)) sock := by
  have registered : Registered c.transport sock := at_.registered.mpr rfl
  have next : c.transport.event sock .in lost = c.transport := event_connecting _ registered
  have result : c.resultOf (.event sock .in lost) = none := resultOf_event registered
  have same : c.record (.event sock .in lost) (c.transport.event sock .in lost) = c := by
    rw [next]
    simp [Chain.record, Chain.triedBy, result]
  rw [same]
  exact at_

theorem Connecting.event {sock other : Nat} (at_ : Connecting c sock) (event : Event) (lost : Bool)
    (found : (c.transport.polls other).isSome) :
    Going (c.record (.event other event lost) (c.transport.event other event lost)) := by
  have same : other = sock := by
    by_contra different
    rw [at_.polls, Function.update_of_ne different] at found
    exact absurd found (by decide)
  subst same
  cases event with
  | error | timeout => exact .inr (.inl (at_.failing rfl))
  | «in» => exact .inr (.inr (.inl ⟨other, at_.ignoring lost⟩))
  | out failed =>
    cases failed with
    | true => exact .inr (.inl (at_.failing rfl))
    | false => exact .inr (.inr (.inr (.inl (at_.succeeding lost))))

/-! ### Steps outside of the chain -/

/-- The transport is used or closed, which leaves the tasks alone and registers nothing for connection. -/
structure Quiet (t next : TcpTransport Address) : Prop where
  pool : next.pool = t.pool
  mResolved : next.mResolved = t.mResolved
  state : next.state = t.state ∨ next.state = .disconnected
  polls : ∀ sock, Registered next sock → Registered t sock

theorem Quiet.trans {t next later : TcpTransport Address} (first : Quiet t next) (second : Quiet next later) :
    Quiet t later := by
  refine ⟨second.pool.trans first.pool, second.mResolved.trans first.mResolved, ?_, ?_⟩
  · rcases second.state with same | gone
    · rw [same]
      exact first.state
    · exact .inr gone
  · exact fun sock registered => first.polls sock (second.polls sock registered)

theorem quiet_update (t : TcpTransport Address) (sock : Nat) {callback : Option Callback}
    (other : callback ≠ some .connecting) : Quiet t { t with polls := Function.update t.polls sock callback } := by
  refine ⟨rfl, rfl, .inl rfl, ?_⟩
  intro one registered
  simp only [Registered] at registered ⊢
  by_cases same : one = sock
  · subst same
    rw [Function.update_self] at registered
    exact absurd registered other
  · rw [Function.update_of_ne same] at registered
    exact registered

theorem add_quiet (t : TcpTransport Address) : Quiet t (t.add .process) := by
  unfold TcpTransport.add
  split
  · exact ⟨rfl, rfl, .inl rfl, fun _ => id⟩
  · exact quiet_update t _ (by decide)

theorem remove_quiet (t : TcpTransport Address) : Quiet t t.remove := by
  unfold TcpTransport.remove
  split
  · exact ⟨rfl, rfl, .inl rfl, fun _ => id⟩
  · exact quiet_update t _ (by decide)

theorem gone_quiet (t : TcpTransport Address) : Quiet t { t.remove with state := .disconnected } := by
  have removed := remove_quiet t
  exact ⟨removed.pool, removed.mResolved, .inr rfl, removed.polls⟩

theorem process_quiet (t : TcpTransport Address) (event : Event) (lost : Bool) : Quiet t (t.process event lost) := by
  have either : Quiet t (if lost then { t.remove with state := .disconnected } else t) := by
    split
    · exact gone_quiet t
    · exact ⟨rfl, rfl, .inl rfl, fun _ => id⟩
  cases event with
  | timeout => exact add_quiet t
  | error => exact gone_quiet t
  | «in» | out => exact either

theorem event_quiet (t : TcpTransport Address) {sock : Nat} (event : Event) (lost : Bool)
    (other : ¬Registered t sock) : Quiet t (t.event sock event lost) := by
  have dropped : Quiet t { t with polls := if event.final then Function.update t.polls sock none else t.polls } := by
    split
    · exact quiet_update t sock (by decide)
    · exact ⟨rfl, rfl, .inl rfl, fun _ => id⟩
  unfold TcpTransport.event
  simp only
  split
  · exact ⟨rfl, rfl, .inl rfl, fun _ => id⟩
  · rename_i registered
    exact absurd registered other
  · exact dropped.trans (process_quiet _ event lost)

theorem close_quiet (t : TcpTransport Address) : Quiet t { t.close with destroyed := true } := by
  unfold TcpTransport.close
  split
  · exact ⟨rfl, rfl, .inr rfl, fun _ => id⟩
  · have removed := remove_quiet t
    exact ⟨removed.pool, removed.mResolved, .inr rfl, removed.polls⟩

def Chain.goOn (c : Chain Address) (next : TcpTransport Address) : Chain Address := { c with
  transport := next
  became := if next.state = c.transport.state then c.became else c.became ++ [next.state] }

theorem mem_became {next : TcpTransport Address} (quiet : Quiet c.transport next) {state : State}
    (other : state ≠ .disconnected) : state ∈ (c.goOn next).became ↔ state ∈ c.became := by
  simp only [Chain.goOn]
  split
  · exact Iff.rfl
  · rename_i changed
    have gone := quiet.state.resolve_left changed
    rw [gone, List.mem_append, List.mem_singleton]
    exact or_iff_left other

theorem Succeeded.goOn (at_ : Succeeded c) {next : TcpTransport Address} (quiet : Quiet c.transport next) :
    Succeeded (c.goOn next) where
  pool := quiet.pool.trans at_.pool
  polls sock registered := at_.polls sock (quiet.polls sock registered)
  order := by
    simp only [Chain.goOn, quiet.mResolved]
    exact at_.order
  results := at_.results
  attempts := at_.attempts
  connected := (mem_became quiet (by decide)).mpr at_.connected
  failed became := at_.failed ((mem_became quiet (by decide)).mp became)

theorem Orderly.goOn (orderly : Orderly c) {next : TcpTransport Address} (quiet : Quiet c.transport next)
    (destroyed : next.destroyed = true) : Orderly (c.goOn next) where
  order := orderly.order
  sequential := orderly.sequential
  task := by
    simp only [Chain.goOn, quiet.pool]
    exact orderly.task
  socket sock other registered registered' :=
    orderly.socket sock other (quiet.polls sock registered) (quiet.polls other registered')
  exclusive pool sock registered := by
    simp only [Chain.goOn, quiet.pool] at pool
    exact orderly.exclusive pool sock (quiet.polls sock registered)
  connected := (mem_became quiet (by decide)).trans orderly.connected
  last := orderly.last
  failed became := orderly.failed ((mem_became quiet (by decide)).mp became)
  ended alive := by
    simp only [Chain.goOn, destroyed] at alive
    exact absurd alive (by decide)
  bounded := orderly.bounded

theorem record_sending (next : TcpTransport Address) : c.record .sending next = c.goOn next := by
  simp [Chain.record, Chain.goOn, Chain.triedBy, Chain.resultOf]

theorem record_destroy (next : TcpTransport Address) : c.record .destroy next = c.goOn next := by
  simp [Chain.record, Chain.goOn, Chain.triedBy, Chain.resultOf]

theorem record_event {sock : Nat} {event : Event} {lost : Bool} (other : ¬Registered c.transport sock)
    (next : TcpTransport Address) : c.record (.event sock event lost) next = c.goOn next := by
  have result : c.resultOf (.event sock event lost) = none := if_neg other
  simp [Chain.record, Chain.goOn, Chain.triedBy, result]

/-! ### Runs -/

structure Invariant (c : Chain Address) : Prop where
  orderly : Orderly c
  going : c.transport.destroyed = false → Going c

theorem Going.invariant (going : Going c) : Invariant c := ⟨going.orderly, fun _ => going⟩

theorem Going.resolve (going : Going c) (pending : .resolve ∈ c.transport.pool) : Resolving c := by
  rcases going with resolving | at_ | ⟨sock, at_⟩ | at_ | at_
  · exact resolving
  all_goals
    rw [at_.pool] at pending
    exact absurd pending (by decide)

theorem Going.attempt (going : Going c) (pending : .attempt ∈ c.transport.pool) : Pending c := by
  rcases going with at_ | pending | ⟨sock, at_⟩ | at_ | at_
  · rw [at_.pool] at pending
    exact absurd pending (by decide)
  · exact pending
  all_goals
    rw [at_.pool] at pending
    exact absurd pending (by decide)

theorem not_found (polls : c.transport.polls = fun _ => none) {sock : Nat} :
    (c.transport.polls sock).isSome ≠ true := by
  rw [polls]
  simp

theorem Going.event (going : Going c) {sock : Nat} (event : Event) (lost : Bool)
    (found : (c.transport.polls sock).isSome) :
    Going (c.record (.event sock event lost) (c.transport.event sock event lost)) := by
  rcases going with at_ | at_ | ⟨other, at_⟩ | at_ | at_
  · exact absurd found (not_found at_.polls)
  · exact absurd found (not_found at_.polls)
  · exact at_.event event lost found
  · rw [record_event (at_.polls sock)]
    exact .inr (.inr (.inr (.inl (at_.goOn (event_quiet _ event lost (at_.polls sock))))))
  · exact absurd found (not_found at_.polls)

theorem Going.sending (going : Going c) (state : c.transport.state = .connected) :
    Going (c.record .sending (c.transport.add .process)) := by
  rw [record_sending]
  rcases going with at_ | at_ | ⟨other, at_⟩ | at_ | at_
  · exact absurd (at_.state.symm.trans state) (by decide)
  · exact absurd (at_.state.symm.trans state) (by decide)
  · exact absurd (at_.state.symm.trans state) (by decide)
  · exact .inr (.inr (.inr (.inl (at_.goOn (add_quiet _)))))
  · exact absurd (at_.state.symm.trans state) (by decide)

theorem invariant_step (c : Chain Address) (label : Label Address) (next : Chain Address) (inv : Invariant c)
    (step : ChainStep c label next) : Invariant next := by
  obtain ⟨next, later, taken⟩ := step
  cases taken with
  | start alive => exact absurd rfl later
  | resolve resolved alive pending =>
    have resolving := (inv.going alive).resolve pending
    rcases resolving.resolve resolved rfl with at_ | at_
    · exact Going.invariant (.inr (.inl at_))
    · exact Going.invariant (.inr (.inr (.inr (.inr at_))))
  | attempt outcome alive pending fresh =>
    have waiting := (inv.going alive).attempt pending
    exact (waiting.attempt outcome).invariant
  | event sock event lost alive found => exact ((inv.going alive).event event lost found).invariant
  | sending alive state => exact ((inv.going alive).sending state).invariant
  | destroy alive =>
    rw [record_destroy]
    refine ⟨inv.orderly.goOn (close_quiet _) rfl, ?_⟩
    intro still
    exact absurd still (by simp [Chain.goOn])

theorem invariant_started : Invariant (Chain.started : Chain Address) := by
  have resolving : Resolving (Chain.started : Chain Address) := ⟨rfl, rfl, rfl, rfl, rfl, rfl, rfl, rfl⟩
  exact Going.invariant (.inl resolving)

/-- A step that brings the chain on: a task, or an event that ends an attempt. -/
def Progress (c : Chain Address) (label : Label Address) (next : Chain Address) : Prop :=
  ChainStep c label next ∧
    ((∃ resolved, label = .resolve resolved) ∨ (∃ outcome, label = .attempt outcome) ∨
      ∃ sock event lost, label = .event sock event lost ∧ c.resultOf label ≠ none)

def Ended (c : Chain Address) : Prop :=
  c.transport.destroyed = true ∨ .connected ∈ c.became ∨ .failed ∈ c.became

theorem Invariant.ended (inv : Invariant c) (stuck : ∀ label next, ¬Progress c label next) : Ended c := by
  cases alive : c.transport.destroyed with
  | true => exact .inl alive
  | false =>
    refine .inr ?_
    rcases inv.going alive with at_ | at_ | ⟨sock, at_⟩ | at_ | at_
    · have pending : Task.resolve ∈ c.transport.pool := by simp [at_.pool]
      exact absurd ⟨.step _ _ (by simp) (.resolve none alive pending), .inl ⟨none, rfl⟩⟩ (stuck _ _)
    · have pending : Task.attempt ∈ c.transport.pool := by simp [at_.pool]
      exact absurd ⟨.step _ _ (by simp) (.attempt .noSocket alive pending trivial), .inr (.inl ⟨_, rfl⟩)⟩ (stuck _ _)
    · have registered : Registered c.transport sock := at_.registered.mpr rfl
      have found : (c.transport.polls sock).isSome := by
        rw [registered]
        rfl
      have result : c.resultOf (.event sock .error false) ≠ none := by
        rw [resultOf_event registered]
        decide
      exact absurd ⟨.step _ _ (by simp) (.event sock .error false alive found), .inr (.inr ⟨_, _, _, rfl, result⟩)⟩
        (stuck _ _)
    · exact .inl at_.connected
    · exact .inr (by simp [at_.became])

def work (c : Chain Address) : Nat := 2 * c.addresses.length + 1 - c.attempts - c.results.length

theorem Progress.work_lt (inv : Invariant c) {label : Label Address} {next : Chain Address}
    (progress : Progress c label next) (later : ∀ resolved, label ≠ .resolve resolved) : work next < work c := by
  have orderly := (invariant_step c label next inv progress.1).orderly
  have results := orderly.sequential.1
  have tried := orderly.order.length_le
  have attempts := orderly.bounded
  obtain ⟨step, kind⟩ := progress
  obtain ⟨transport, _, taken⟩ := step
  rcases kind with ⟨resolved, rfl⟩ | ⟨outcome, rfl⟩ | ⟨sock, event, lost, rfl, result⟩
  · exact absurd rfl (later resolved)
  · simp only [Chain.record, List.length_append] at results tried attempts
    simp only [work, Chain.record, List.length_append]
    omega
  · obtain ⟨success, result⟩ := Option.ne_none_iff_exists'.mp result
    simp only [Chain.record, List.length_append, result, Option.toList_some, List.length_singleton]
      at results tried attempts
    simp only [work, Chain.record, List.length_append, result, Option.toList_some, List.length_singleton]
    omega

/-- The name is resolved only once. -/
theorem Progress.not_resolving (inv : Invariant c) {label : Label Address} {next : Chain Address}
    (progress : Progress c label next) : ¬Resolving next := by
  intro again
  obtain ⟨step, kind⟩ := progress
  obtain ⟨transport, _, taken⟩ := step
  rcases kind with ⟨resolved, rfl⟩ | ⟨outcome, rfl⟩ | ⟨sock, event, lost, rfl, result⟩
  · cases taken with
    | resolve _ alive pending =>
      have resolving := (inv.going alive).resolve pending
      rcases resolving.resolve resolved rfl with at_ | at_
      · exact absurd (at_.pool.symm.trans again.pool) (by decide)
      · exact absurd (at_.pool.symm.trans again.pool) (by decide)
  · exact absurd again.attempts (Nat.succ_ne_zero c.attempts)
  · obtain ⟨success, result⟩ := Option.ne_none_iff_exists'.mp result
    have none := again.results
    simp [Chain.record, result] at none

theorem ends_resolved : ∀ c : Chain Address, Invariant c ∧ ¬Resolving c → Inevitable Progress Ended c := by
  apply inevitable_of_measure work
  · intro c label next inv progress
    exact ⟨invariant_step c label next inv.1 progress.1, progress.not_resolving inv.1⟩
  · intro c label next inv progress
    apply progress.work_lt inv.1
    intro resolved same
    subst same
    obtain ⟨⟨transport, _, taken⟩, _⟩ := progress
    cases taken with
    | resolve _ alive pending => exact inv.2 ((inv.1.going alive).resolve pending)
  · intro c inv stuck
    exact inv.1.ended stuck

theorem Invariant.ends (inv : Invariant c) : Inevitable Progress Ended c := by
  refine .intro c inv.ended ?_
  intro label next progress
  exact ends_resolved next ⟨invariant_step c label next inv progress.1, progress.not_resolving inv⟩

/-- In every run the addresses are tried one after the other until one succeeds, and the chain ends. -/
theorem addresses_tried (trace : List (Label Address × Chain Address)) (run : Run ChainStep Chain.started trace) :
    Always (fun c => Orderly c ∧ Inevitable Progress Ended c) Chain.started trace := by
  have always : Always Invariant Chain.started trace := always_of_step invariant_step trace _ invariant_started run
  exact always_mono (fun c inv => ⟨inv.orderly, inv.ends⟩) trace _ always

end

/-- The first address fails at once, the second one does not answer, and the third one is connected to. -/
def thirdConnects : List (Label Nat × Chain Nat) :=
  let one := Chain.started.record (.resolve (some [4, 6, 8]))
    (TcpTransport.resolve { TcpTransport.new.start with pool := [] } (some [4, 6, 8]))
  let two := one.record (.attempt (.failed 3)) (TcpTransport.attempt { one.transport with pool := [] } (.failed 3))
  let three := two.record (.attempt (.created 3)) (TcpTransport.attempt { two.transport with pool := [] } (.created 3))
  let four := three.record (.event 3 .in false) (three.transport.event 3 .in false)
  let five := four.record (.event 3 .timeout false) (four.transport.event 3 .timeout false)
  let six := five.record (.attempt (.created 5)) (TcpTransport.attempt { five.transport with pool := [] } (.created 5))
  let seven := six.record (.event 5 (.out false) false) (six.transport.event 5 (.out false) false)
  [(.resolve (some [4, 6, 8]), one), (.attempt (.failed 3), two), (.attempt (.created 3), three),
    (.event 3 .in false, four), (.event 3 .timeout false, five), (.attempt (.created 5), six),
    (.event 5 (.out false) false, seven)]

theorem addresses_tried_third :
    Always (fun c => Orderly c ∧ Inevitable Progress Ended c) Chain.started thirdConnects := by
  apply addresses_tried
  refine ⟨.step _ _ (by simp) (.resolve _ rfl (by decide)), ?_⟩
  refine ⟨.step _ _ (by simp) (.attempt _ rfl (by decide) (by decide)), ?_⟩
  refine ⟨.step _ _ (by simp) (.attempt _ rfl (by decide) (by decide)), ?_⟩
  refine ⟨.step _ _ (by simp) (.event _ _ _ rfl (by decide)), ?_⟩
  refine ⟨.step _ _ (by simp) (.event _ _ _ rfl (by decide)), ?_⟩
  refine ⟨.step _ _ (by simp) (.attempt _ rfl (by decide) (by decide)), ?_⟩
  exact ⟨.step _ _ (by simp) (.event _ _ _ rfl (by decide)), trivial⟩

end WebsocketClient.ConnectChains
