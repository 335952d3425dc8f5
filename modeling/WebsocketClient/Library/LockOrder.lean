import Mathlib.Logic.Relation

/-! Threads that hold mutexes and wait for others. A fixed order of the mutexes, in which every
thread waits only for one above all that it holds, leaves no circular wait. -/

namespace WebsocketClient.Library.LockOrder

variable {Thread Mutex : Type}

/-- A mutex held by the thread that asks for it is recursive, and not waited for. -/
def Waits (holds wants : Thread → Mutex → Prop) (x : Thread) (mutex : Mutex) : Prop :=
  wants x mutex ∧ ¬holds x mutex

def Ordered (rank : Mutex → Nat) (holds wants : Thread → Mutex → Prop) : Prop :=
  ∀ x held mutex, holds x held → Waits holds wants x mutex → rank held < rank mutex

def WaitsFor (holds wants : Thread → Mutex → Prop) (x y : Thread) : Prop :=
  ∃ mutex, Waits holds wants x mutex ∧ holds y mutex

/-- One thread holds a mutex and waits for a second, while another holds the second and waits
for the first. -/
def CircularWait (holds wants : Thread → Mutex → Prop) : Prop :=
  ∃ x y first second, holds x first ∧ Waits holds wants x second ∧
    holds y second ∧ Waits holds wants y first

variable {rank : Mutex → Nat} {holds wants : Thread → Mutex → Prop}

theorem Ordered.rank_lt (ordered : Ordered rank holds wants) {x y : Thread}
    (chain : Relation.TransGen (WaitsFor holds wants) x y) :
    ∃ mutex, Waits holds wants x mutex ∧
      ∀ later, Waits holds wants y later → rank mutex < rank later := by
  induction chain with
  | single wait =>
    obtain ⟨mutex, waits, held⟩ := wait
    exact ⟨mutex, waits, fun later waits' => ordered _ mutex later held waits'⟩
  | tail _ wait ih =>
    obtain ⟨first, waits, below⟩ := ih
    obtain ⟨mutex, waits', held⟩ := wait
    exact ⟨first, waits, fun later waits'' =>
      Nat.lt_trans (below mutex waits') (ordered _ mutex later held waits'')⟩

theorem Ordered.no_cycle (ordered : Ordered rank holds wants) (x : Thread) :
    ¬Relation.TransGen (WaitsFor holds wants) x x := by
  intro cycle
  obtain ⟨mutex, waits, below⟩ := ordered.rank_lt cycle
  exact Nat.lt_irrefl _ (below mutex waits)

theorem Ordered.no_circular_wait (ordered : Ordered rank holds wants) : ¬CircularWait holds wants := by
  intro circular
  obtain ⟨x, y, first, second, xHolds, xWaits, yHolds, yWaits⟩ := circular
  have there : WaitsFor holds wants x y := ⟨second, xWaits, yHolds⟩
  have back : WaitsFor holds wants y x := ⟨first, yWaits, xHolds⟩
  exact ordered.no_cycle x (.tail (.single there) back)

end WebsocketClient.Library.LockOrder
