import WebsocketClient.ByteString

/-! `message.hpp` and `message.cpp`: typed messages and the variants handed to the
application. Stream, reliability and frame information are not read by the client. -/

namespace WebsocketClient.Messages
open ByteString

inductive MessageType where
  | binary
  | string
  | control
  | reset
  deriving DecidableEq, Repr

/-- A `Message` is a byte vector with a type. -/
structure Message where
  data : Bytes
  type : MessageType
  deriving DecidableEq, Repr

inductive MessageVariant where
  | binary (data : Bytes)
  | string (data : Bytes)
  deriving DecidableEq, Repr

def messageSize (m : Message) : Nat :=
  if m.type = .binary ∨ m.type = .string then m.data.length else 0

/-- `to_variant(const Message &)` copies in both branches. -/
def toVariantCopy (m : Message) : MessageVariant :=
  match m.type with
  | .string => .string m.data
  | _ => .binary m.data

/-- `to_variant(Message &&)`: the variant, and what is left of the message. The string is a
copy; the vector is moved out, which leaves an empty one behind. -/
def toVariant (m : Message) : MessageVariant × Message :=
  match m.type with
  | .string => (.string m.data, m)
  | _ => (.binary m.data, { m with data := [] })

theorem toVariant_fst (m : Message) : (toVariant m).1 = toVariantCopy m := by
  unfold toVariant toVariantCopy
  cases m.type <;> rfl

/-- Only a binary message that holds bytes is changed by the conversion. -/
theorem toVariant_snd_eq_iff (m : Message) :
    (toVariant m).2 = m ↔ m.type = .string ∨ m.data = [] := by
  rcases m with ⟨data, type⟩
  cases type <;> simp [toVariant, eq_comm]

end WebsocketClient.Messages
