import WebsocketClient.Library.Runs
import WebsocketClient.Queue

/-! The counter of `impl/queue.hpp` in any order of calls, for a fixed amount of every element. It is
compared with the natural sum over the elements that are queued. -/

namespace WebsocketClient.QueueAmounts
open Queues Queue Library.Runs

variable {T : Type} (f : T → UInt64)

def measured (element : T) : Nat := (f element).toNat

inductive Call (T : Type) where
  | push (element : T)
  | pop
  | peek
  | exchange (element : T)
  | stop
  deriving DecidableEq, Repr

/-- A call that returns. A push that waits for room has not returned. -/
inductive Step : Queue T → Call T → Queue T → Prop where
  | push {q next : Queue T} {element : T} : q.push (measured f) element = some next → Step q (.push element) next
  | pop (q : Queue T) : Step q .pop (q.pop (measured f)).2
  | peek (q : Queue T) : Step q .peek q
  | exchange (q : Queue T) (element : T) : Step q (.exchange element) (q.exchange element).2
  | stop (q : Queue T) : Step q .stop q.stop

def sum (elements : List T) : Nat := (elements.map (measured f)).sum

/-- The counter is the sum, and the next `pop` does not take more from it than it has. -/
structure Exact (q : Queue T) : Prop where
  amount : q.amount.toNat = sum f q.mQueue
  pops : ∀ front ∈ q.mQueue.head?, (f front).toNat ≤ q.amount.toNat

/-- An element is replaced by one of the same amount, and the sum of a push has 64 bits. -/
def Balanced (q : Queue T) : Call T → Prop
  | .push element => q.mStopping = true ∨ sum f q.mQueue + measured f element < 2 ^ 64
  | .exchange element => ∀ front ∈ q.mQueue.head?, f element = f front
  | _ => True

variable {f} {q next : Queue T}

theorem Exact.of_amount (amount : q.amount.toNat = sum f q.mQueue) : Exact f q := by
  refine ⟨amount, ?_⟩
  intro front first
  cases elements : q.mQueue with
  | nil => simp [elements] at first
  | cons head rest =>
    have same : head = front := by simpa [elements] using first
    rw [amount, elements, same]
    exact Nat.le_add_right _ _

theorem sum_append (elements : List T) (element : T) :
    sum f (elements ++ [element]) = sum f elements + measured f element := by
  simp [sum]

theorem ofNat_measured (element : T) : UInt64.ofNat (measured f element) = f element := UInt64.ofNat_toNat

theorem push_amount {element : T} (running : q.mStopping = false) (exact' : Exact f q)
    (pushed : q.push (measured f) element = some next) :
    next.amount.toNat = (sum f q.mQueue + measured f element) % 2 ^ 64 ∧ next.mQueue = q.mQueue ++ [element] := by
  have after := push_eq_some running pushed
  have counted := exact'.amount
  unfold amount at counted
  rw [after, amount, ofNat_measured, UInt64.toNat_add, counted]
  exact ⟨rfl, rfl⟩

theorem push_stopping {element : T} (stopping : q.mStopping = true)
    (pushed : q.push (measured f) element = some next) : next = q := by
  have room : q.hasRoom := .inr (.inr stopping)
  rw [push, if_pos room, if_pos stopping] at pushed
  exact (Option.some.inj pushed).symm

theorem pop_exact (exact' : Exact f q) : Exact f (q.pop (measured f)).2 := by
  apply Exact.of_amount
  have counted := exact'.amount
  have enough := exact'.pops
  unfold amount at counted enough
  cases elements : q.mQueue with
  | nil =>
    have same : (q.pop (measured f)).2 = q := by simp only [pop, elements]
    rw [same]
    exact exact'.amount
  | cons front rest =>
    have first : f front ≤ q.mAmount := enough front (by rw [elements]; rfl)
    have total : q.mAmount.toNat = (f front).toNat + sum f rest := by
      rw [counted, elements]
      rfl
    simp only [pop, elements, amount, ofNat_measured]
    rw [UInt64.toNat_sub_of_le _ _ first, total]
    omega

theorem exchange_front {element front : T} {rest : List T} (elements : q.mQueue = front :: rest) :
    (q.exchange element).2 = { q with mQueue := element :: rest } := by
  simp only [exchange, elements]

theorem exchange_exact_iff {element front : T} {rest : List T} (exact' : Exact f q)
    (elements : q.mQueue = front :: rest) :
    (q.exchange element).2.amount.toNat = sum f (q.exchange element).2.mQueue ↔ f element = f front := by
  have counted : q.amount.toNat = (f front).toNat + sum f rest := by
    rw [exact'.amount, elements]
    rfl
  have replaced : sum f (element :: rest) = (f element).toNat + sum f rest := rfl
  rw [exchange_front elements]
  change q.amount.toNat = sum f (element :: rest) ↔ _
  rw [counted, replaced, ← UInt64.toNat_inj]
  omega

theorem keeps_exact (q : Queue T) (call : Call T) (next : Queue T) (exact' : Exact f q) (step : Step f q call next)
    (balanced : Balanced f q call) : Exact f next := by
  cases step with
  | @push _ element pushed =>
    cases stopping : q.mStopping with
    | true => rw [push_stopping stopping pushed]; exact exact'
    | false =>
      obtain ⟨counted, queued⟩ := push_amount stopping exact' pushed
      have fits : sum f q.mQueue + measured f element < 2 ^ 64 :=
        balanced.resolve_left (by rw [stopping]; decide)
      apply Exact.of_amount
      rw [counted, queued, sum_append, Nat.mod_eq_of_lt fits]
  | pop => exact pop_exact exact'
  | peek => exact exact'
  | exchange element =>
    cases elements : q.mQueue with
    | nil =>
      have same : (q.exchange element).2 = q := by simp only [exchange, elements]
      rw [same]
      exact exact'
    | cons front rest =>
      apply Exact.of_amount
      exact (exchange_exact_iff exact' elements).mpr (balanced front (by rw [elements]; rfl))
  | stop => exact ⟨exact'.amount, exact'.pops⟩

theorem breaks_exact (q : Queue T) (call : Call T) (next : Queue T) (exact' : Exact f q) (step : Step f q call next)
    (against : ¬Balanced f q call) : ¬Exact f next := by
  intro after
  cases step with
  | @push _ element pushed =>
    apply against
    cases stopping : q.mStopping with
    | true => exact .inl stopping
    | false =>
      obtain ⟨counted, queued⟩ := push_amount stopping exact' pushed
      have total := after.amount
      rw [counted, queued, sum_append] at total
      right
      rw [← total]
      exact Nat.mod_lt _ (by decide)
  | exchange element =>
    apply against
    intro front first
    obtain ⟨rest, elements⟩ : ∃ rest, q.mQueue = front :: rest := List.head?_eq_some_iff.mp first
    exact (exchange_exact_iff exact' elements).mp after.amount
  | pop | peek | stop => exact against trivial

theorem new_exact (f : T → UInt64) (limit : Nat) : Exact f (Queue.new limit) := Exact.of_amount rfl

/-- The counter is the sum over the queued elements in every state, exactly when no `exchange` puts in an
element of another amount and no sum reaches 2^64. -/
theorem amount_iff (f : T → UInt64) (limit : Nat) (trace : List (Call T × Queue T))
    (run : Run (Step f) (Queue.new limit) trace) :
    Always (Exact f) (Queue.new limit) trace ↔ Guarded (Balanced f) (Queue.new limit) trace :=
  always_iff (fun _ exact' => exact') keeps_exact breaks_exact trace _ (new_exact f limit) run

/-! ### Two messages, the amount of each its number -/

def pushed (number : UInt64) : Queue UInt64 := ⟨0, number, [number], false⟩

def pushPop : List (Call UInt64 × Queue UInt64) := [(.push 5, pushed 5), (.pop, ⟨0, 0, [], false⟩)]

theorem amount_pushPop : Always (Exact id) (Queue.new 0) pushPop ↔ Guarded (Balanced id) (Queue.new 0) pushPop :=
  amount_iff id 0 pushPop ⟨.push rfl, .pop _, trivial⟩

/-- After an exchange for a larger one, the pop leaves a counter of almost 2^64. -/
theorem exchanged_not_exact : ¬∀ trace : List (Call UInt64 × Queue UInt64),
    Run (Step id) (Queue.new 0) trace → Always (Exact id) (Queue.new 0) trace := by
  intro all
  have run : Run (Step id) (Queue.new 0)
      [(.push 5, pushed 5), (.exchange 6, ⟨0, 5, [6], false⟩), (.pop, ⟨0, 0 - 1, [], false⟩)] :=
    ⟨.push rfl, .exchange _ 6, .pop _, trivial⟩
  have counted := (all _ run).last.amount
  exact absurd counted (by decide)

end WebsocketClient.QueueAmounts
