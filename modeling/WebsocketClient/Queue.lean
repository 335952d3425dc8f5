import Mathlib.Algebra.Ring.Nat
import Mathlib.Data.List.Basic

/-! `impl/queue.hpp`: the queue of messages used on both sides of a connection. Every
operation holds the mutex of the queue, so each is one step. The amount function is a
parameter of the operations that count, since its answer can change while an element waits. -/

namespace WebsocketClient.Queues

/-- A limit of zero means no limit. -/
structure Queue (T : Type) where
  mLimit : Nat
  mAmount : UInt64
  mQueue : List T
  mStopping : Bool
  deriving DecidableEq, Repr

namespace Queue
variable {T : Type} (mAmountFunction : T → Nat) (q : Queue T)

def new (limit : Nat) : Queue T where
  mLimit := limit
  mAmount := 0
  mQueue := []
  mStopping := false

def stop : Queue T := { q with mStopping := true }

def running : Bool := !q.mQueue.isEmpty || !q.mStopping

def empty : Bool := q.mQueue.isEmpty

def full : Bool := 0 < q.mLimit && q.mLimit ≤ q.mQueue.length

def size : Nat := q.mQueue.length

def amount : UInt64 := q.mAmount

/-- The condition that `push` waits for. -/
def hasRoom : Prop := q.mLimit = 0 ∨ q.mQueue.length < q.mLimit ∨ q.mStopping = true

instance : Decidable q.hasRoom := inferInstanceAs (Decidable (_ ∨ _ ∨ _))

/-- `none` when the caller waits for room. -/
def push (element : T) : Option (Queue T) :=
  if q.hasRoom then
    if q.mStopping then some q
    else some { q with
      mAmount := q.mAmount + UInt64.ofNat (mAmountFunction element)
      mQueue := q.mQueue ++ [element] }
  else none

/-- The amount is that of the element as it is now. -/
def pop : Option T × Queue T :=
  match q.mQueue with
  | [] => (none, q)
  | front :: rest =>
      (some front, { q with
        mAmount := q.mAmount - UInt64.ofNat (mAmountFunction front)
        mQueue := rest })

def peek : Option T := q.mQueue.head?

/-- Puts an element in the place of the front one; the amount stays as it was. -/
def exchange (element : T) : Option T × Queue T :=
  match q.mQueue with
  | [] => (none, q)
  | front :: rest => (some front, { q with mQueue := element :: rest })

theorem full_iff (running : q.mStopping = false) : q.full = true ↔ ¬q.hasRoom := by
  unfold full hasRoom
  simp only [running, Bool.and_eq_true, decide_eq_true_eq, Bool.false_eq_true, or_false, not_or]
  omega

theorem push_running (element : T) (running : q.mStopping = false) (room : q.hasRoom) :
    q.push mAmountFunction element = some { q with
      mAmount := q.mAmount + UInt64.ofNat (mAmountFunction element)
      mQueue := q.mQueue ++ [element] } := by
  rw [push, if_pos room, running]
  rfl

theorem push_eq_some {mAmountFunction : T → Nat} {q next : Queue T} {element : T} (running : q.mStopping = false)
    (pushed : q.push mAmountFunction element = some next) : next = { q with
      mAmount := q.mAmount + UInt64.ofNat (mAmountFunction element)
      mQueue := q.mQueue ++ [element] } := by
  by_cases room : q.hasRoom
  · rw [push_running _ _ _ running room] at pushed
    exact (Option.some.inj pushed).symm
  · rw [push, if_neg room] at pushed
    exact absurd pushed.symm (Option.some_ne_none next)

theorem pop_eq_some {mAmountFunction : T → Nat} {q next : Queue T} {element : T}
    (popped : q.pop mAmountFunction = (some element, next)) :
    q.mQueue = element :: next.mQueue ∧ next.mStopping = q.mStopping := by
  unfold pop at popped
  split at popped
  · exact absurd (Prod.mk.inj popped).1.symm (Option.some_ne_none element)
  · rename_i front rest shape
    obtain ⟨same, rfl⟩ := Prod.mk.inj popped
    rw [← Option.some.inj same]
    exact ⟨shape, rfl⟩

theorem pop_eq_none {mAmountFunction : T → Nat} {q next : Queue T}
    (popped : q.pop mAmountFunction = (none, next)) : q.mQueue = [] ∧ next = q := by
  unfold pop at popped
  split at popped
  · rename_i empty
    exact ⟨empty, (Prod.mk.inj popped).2.symm⟩
  · exact absurd (Prod.mk.inj popped).1 (Option.some_ne_none _)

def total (elements : List T) : UInt64 := UInt64.ofNat (elements.map mAmountFunction).sum

theorem total_append (elements : List T) (element : T) :
    total mAmountFunction (elements ++ [element]) =
      total mAmountFunction elements + UInt64.ofNat (mAmountFunction element) := by
  unfold total
  rw [List.map_append, List.sum_append, List.map_singleton, List.sum_singleton, UInt64.ofNat_add]

theorem total_cons (front : T) (rest : List T) :
    total mAmountFunction (front :: rest) - UInt64.ofNat (mAmountFunction front) =
      total mAmountFunction rest := by
  unfold total
  rw [List.map_cons, List.sum_cons, UInt64.ofNat_add, UInt64.add_comm, UInt64.add_sub_cancel]

end Queue
end WebsocketClient.Queues
