/-! `WebSocket::State` in `websocket.hpp`. -/

namespace WebsocketClient.WebSocketStates

inductive State where
  | connecting
  | «open»
  | closing
  | closed
  deriving DecidableEq, Repr

namespace State

/-- The value of the enumerator, which grows along the life of a connection. -/
def toNat : State → Nat
  | .connecting => 0
  | .open => 1
  | .closing => 2
  | .closed => 3

theorem toNat_le (a : State) : a.toNat ≤ 3 := by
  cases a <;> decide

theorem toNat_injective {a b : State} (same : a.toNat = b.toNat) : a = b := by
  cases a <;> cases b <;> first | rfl | cases same

theorem eq_closed {a : State} (last : 3 ≤ a.toNat) : a = .closed :=
  toNat_injective (Nat.le_antisymm a.toNat_le last)

end State
end WebsocketClient.WebSocketStates
