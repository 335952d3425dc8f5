import WebsocketClient.PollService

/-! The timeout that `PollService::runLoop` passes to `::poll`. Times are nanoseconds of the steady clock, which
starts at zero; a deadline is said by its number, whether or not it is a `time_point`. -/

namespace WebsocketClient.PollTimeouts
open TcpTransports PollServices

abbrev Time := { now : Nat // now < 2 ^ 63 }

/-- The numbers of `clock::duration` and of `time_point`; `none` stands for an overflow. -/
def int64 (value : Int) : Option Int :=
  if -9223372036854775808 ≤ value ∧ value < 9223372036854775808 then some value else none

def millisecond : Nat := 1000000

def deadlineOf (entry : Nat × SocketEntry) : Option Nat := entry.2.until

def deadlines (s : PollService) : List Nat := s.mSocks.entries.filterMap deadlineOf

/-- What `prepare` leaves in `next`. -/
def next (s : PollService) : Option Nat :=
  match s.prepare.phase with
  | .polling _ next => next
  | _ => none

/-- From `next` to the argument of `::poll`. -/
def timeoutOf (now : Nat) : Option Nat → Option Int
  | none => some (-1)
  | some next => do
      let left ← int64 (next - now)
      let more ← int64 (left + millisecond)
      let msecs := max 0 more / millisecond
      some (toInt msecs.toNat)

/-- `none` when a deadline or a difference overflows. -/
def runLoopTimeout (s : PollService) (now : Time) : Option Int :=
  if ∀ deadline ∈ deadlines s, deadline < 9223372036854775808 then timeoutOf now.1 (next s) else none

/-- The timeout is right: `::poll` returns behind the earliest deadline and no more than a millisecond later than it
has to, and `process` then finds an entry that has expired. -/
structure Timely (s : PollService) (now : Time) (timeout : Int) : Prop where
  nonneg : 0 ≤ timeout
  /-- There is an earliest deadline, and it is over when the timeout is. -/
  earliest : ∃ deadline ∈ deadlines s, (∀ other ∈ deadlines s, deadline ≤ other) ∧
    (deadline : Int) ≤ now.1 + timeout * millisecond ∧
    timeout * millisecond ≤ max 0 ((deadline : Int) - now.1) + millisecond
  expired : ∀ later : Nat, now.1 + timeout * millisecond ≤ later →
    ∃ sock entry, (sock, entry) ∈ s.mSocks.entries ∧
      report ⟨sock, directionEvents entry.params.direction, noRevents⟩ entry later = .timeout

/-! ### The earliest deadline -/

/-- One round of the loop of `prepare`. -/
def earlier (next : Option Nat) (entry : Nat × SocketEntry) : Option Nat :=
  match deadlineOf entry with
  | none => next
  | some time => some (next.elim time (min time))

theorem foldl_earlier_some (entries : List (Nat × SocketEntry)) (first : Nat) :
    entries.foldl earlier (some first) = some ((entries.filterMap deadlineOf).foldl min first) := by
  induction entries generalizing first with
  | nil => rfl
  | cons entry entries ih =>
    rw [List.foldl_cons, earlier]
    cases waits : deadlineOf entry with
    | none =>
      rw [List.filterMap_cons_none waits]
      exact ih first
    | some time =>
      rw [List.filterMap_cons_some waits, List.foldl_cons, Nat.min_comm]
      exact ih (min time first)

theorem foldl_earlier (entries : List (Nat × SocketEntry)) :
    entries.foldl earlier none = (entries.filterMap deadlineOf).min? := by
  induction entries with
  | nil => rfl
  | cons entry entries ih =>
    rw [List.foldl_cons, earlier]
    cases waits : deadlineOf entry with
    | none =>
      rw [List.filterMap_cons_none waits]
      exact ih
    | some time =>
      rw [List.filterMap_cons_some waits, List.min?_cons']
      exact foldl_earlier_some entries time

theorem next_eq (s : PollService) : next s = (deadlines s).min? := foldl_earlier s.mSocks.entries

/-! ### The conversion -/

/-- A time left of less than a number of milliseconds that is no `int` is rounded up, and a deadline that is over
gives zero. -/
theorem timeoutOf_near (now : Time) (deadline : Nat) (near : deadline < now.1 + 2147483647 * millisecond) :
    ∃ timeout, timeoutOf now.1 (some deadline) = some timeout ∧ 0 ≤ timeout ∧
      (deadline : Int) ≤ now.1 + timeout * millisecond ∧
      timeout * millisecond ≤ max 0 ((deadline : Int) - now.1) + millisecond := by
  have bound := now.2
  simp only [millisecond] at near ⊢
  have left : int64 ((deadline : Int) - now.1) = some ((deadline : Int) - now.1) := if_pos (by omega)
  have more : int64 ((deadline : Int) - now.1 + (1000000 : Nat)) = some ((deadline : Int) - now.1 + (1000000 : Nat)) :=
    if_pos (by omega)
  have msecs : (max 0 ((deadline : Int) - now.1 + (1000000 : Nat)) / (1000000 : Nat)).toNat < 2 ^ 31 := by omega
  refine ⟨(max 0 ((deadline : Int) - now.1 + (1000000 : Nat)) / (1000000 : Nat)).toNat, ?_, Int.natCast_nonneg _, ?_,
      ?_⟩
  · simp only [timeoutOf, millisecond, left, more, Option.bind_eq_bind, Option.bind_some, toInt_eq _ msecs]
  · omega
  · omega

/-- From there on the number of milliseconds is no `int`, and what is made of it is negative or too small. -/
theorem timeoutOf_far (now : Time) (deadline : Nat) (far : now.1 + 2147483647 * millisecond ≤ deadline) {timeout : Int}
    (found : timeoutOf now.1 (some deadline) = some timeout) (nonneg : 0 ≤ timeout) :
    now.1 + timeout * millisecond < deadline := by
  simp only [timeoutOf, Option.bind_eq_bind, Option.bind_eq_some_iff, Option.some.injEq] at found
  obtain ⟨left, some, more, some', rfl⟩ := found
  obtain rfl : (deadline : Int) - now.1 = left := by
    unfold int64 at some
    split_ifs at some
    exact Option.some.inj some
  obtain rfl : (deadline : Int) - now.1 + millisecond = more := by
    unfold int64 at some'
    split_ifs at some'
    exact Option.some.inj some'
  simp only [millisecond] at far nonneg ⊢
  rcases toInt_cases (max 0 ((deadline : Int) - now.1 + (1000000 : Nat)) / (1000000 : Nat)).toNat with
    ⟨low, same⟩ | ⟨high, same⟩
  · rw [same]
    omega
  · rw [same] at nonneg
    omega

/-! ### The loop -/

theorem report_expired {entry : SocketEntry} {deadline later : Nat} (waits : entry.until = some deadline)
    (passed : deadline ≤ later) (sock : Nat) :
    report ⟨sock, directionEvents entry.params.direction, noRevents⟩ entry later = .timeout := by
  simp [report, noRevents, waits, passed]

/-- The timeout is right, exactly when all deadlines are points of time and one of them is less than 2^31 - 1
milliseconds away. -/
theorem polled_in_time_iff (s : PollService) (now : Time) (waits : deadlines s ≠ []) :
    (∃ timeout, runLoopTimeout s now = some timeout ∧ Timely s now timeout) ↔
      (∀ deadline ∈ deadlines s, deadline < 9223372036854775808) ∧
      ∃ deadline ∈ deadlines s, deadline < now.1 + 2147483647 * millisecond := by
  obtain ⟨first, least⟩ : ∃ first, (deadlines s).min? = some first := by
    rw [← Option.isSome_iff_exists, List.isSome_min?_iff]
    exact waits
  obtain ⟨member, before⟩ := List.min?_eq_some_iff.mp least
  rw [runLoopTimeout, next_eq, least]
  constructor
  · intro polled
    obtain ⟨timeout, found, timely⟩ := polled
    split_ifs at found with inside
    refine ⟨inside, first, member, ?_⟩
    by_contra far
    obtain ⟨deadline, listed, earliest, passed, _⟩ := timely.earliest
    have short := timeoutOf_far now first (Nat.le_of_not_lt far) found timely.nonneg
    have same := earliest first member
    have same' := before deadline listed
    omega
  · intro soonest
    obtain ⟨inside, deadline, listed, near⟩ := soonest
    have soon := before deadline listed
    obtain ⟨timeout, found, nonneg, passed, close⟩ := timeoutOf_near now first (by omega)
    rw [if_pos inside]
    refine ⟨timeout, found, nonneg, ⟨first, member, before, passed, close⟩, ?_⟩
    intro later behind
    obtain ⟨⟨sock, entry⟩, registered, until_⟩ := List.mem_filterMap.mp member
    exact ⟨sock, entry, registered, report_expired until_ (by omega) sock⟩

def registered (timeout : Nat) : PollService :=
  PollService.add ⟨⟨[], List.nodup_nil⟩, .idle, []⟩ 3 ⟨.in, some timeout, 0⟩ 0

theorem polled_in_time_registered :
    (∃ timeout, runLoopTimeout (registered 10000000000) ⟨5, by decide⟩ = some timeout ∧
      Timely (registered 10000000000) ⟨5, by decide⟩ timeout) ↔
      (∀ deadline ∈ deadlines (registered 10000000000), deadline < 9223372036854775808) ∧
      ∃ deadline ∈ deadlines (registered 10000000000), deadline < 5 + 2147483647 * millisecond :=
  polled_in_time_iff (registered 10000000000) ⟨5, by decide⟩ (by decide)

/-- The largest interval of the C interface, at the very time of its registration: `::poll` waits without limit. -/
theorem longest_not_in_time : ¬∀ (s : PollService) (now : Time), deadlines s ≠ [] →
    ∃ timeout, runLoopTimeout s now = some timeout ∧ Timely s now timeout := by
  intro all
  obtain ⟨timeout, found, timely⟩ := all (registered 2147483647000000) ⟨0, by decide⟩ (by decide)
  have negative : runLoopTimeout (registered 2147483647000000) ⟨0, by decide⟩ = some (-2147483648) := by decide +kernel
  obtain rfl := Option.some.inj (negative.symm.trans found)
  exact absurd timely.nonneg (by decide)

end WebsocketClient.PollTimeouts
