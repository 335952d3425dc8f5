import WebsocketClient.Message

/-! `WsTransport::parseFrame` and the encoding half of `WsTransport::sendFrame`, on a
little-endian host, where `ntohs` and `ntohll` read a big-endian number. -/

namespace WebsocketClient.Frames
open ByteString

inductive Opcode where
  | continuation
  | textFrame
  | binaryFrame
  | close
  | ping
  | pong
  | other (code : UInt8)
  deriving DecidableEq, Repr

/-- `static_cast<Opcode>`. -/
def Opcode.ofByte (code : UInt8) : Opcode :=
  if code = 0 then .continuation
  else if code = 1 then .textFrame
  else if code = 2 then .binaryFrame
  else if code = 8 then .close
  else if code = 9 then .ping
  else if code = 10 then .pong
  else .other code

def Opcode.toByte : Opcode → UInt8
  | .continuation => 0
  | .textFrame => 1
  | .binaryFrame => 2
  | .close => 8
  | .ping => 9
  | .pong => 10
  | .other code => code

/-- The payload stands for the pointer and the length of the source. -/
structure Frame where
  opcode : Opcode
  payload : Bytes
  fin : Bool := true
  mask : Bool := true
  deriving DecidableEq, Repr

abbrev MaskingKey := { key : Bytes // key.length = 4 }

/-- `payload[i] ^= maskingKey[i % 4]` for every byte. -/
def applyMask (key payload : Bytes) : Bytes :=
  payload.mapIdx (fun i b => b ^^^ key.getD (i % 4) 0)

def bigEndian (digits : Bytes) : Nat := digits.foldl (fun value b => 256 * value + b.toNat) 0

/-- The `width` low bytes of a number, most significant first. -/
def bigEndianBytes : Nat → Nat → Bytes
  | 0, _ => []
  | width + 1, value => UInt8.ofNat (value / 256 ^ width) :: bigEndianBytes width value

/-- What the header of a frame says, and how many bytes it takes. -/
structure Header where
  opcode : Opcode
  fin : Bool
  maskingKey : Option Bytes
  length : Nat
  size : Nat
  deriving DecidableEq, Repr

/-- The declared length: the value and the number of extended bytes read. -/
def parseLength (short : Nat) (rest : Bytes) : Option (Nat × Nat) :=
  if short = 0x7E then if rest.length < 2 then none else some (bigEndian (rest.take 2), 2)
  else if short = 0x7F then if rest.length < 8 then none else some (bigEndian (rest.take 8), 8)
  else some (short, 0)

def parseHeader : Bytes → Option Header
  | b1 :: b2 :: rest =>
      match parseLength (b2 &&& 0x7F).toNat rest with
      | none => none
      | some (length, extended) =>
          let fin := b1 &&& 0x80 != 0
          let opcode := Opcode.ofByte (b1 &&& 0x0F)
          if b2 &&& 0x80 != 0 then
            if (rest.drop extended).length < 4 then none
            else some ⟨opcode, fin, some ((rest.drop extended).take 4), length, 2 + extended + 4⟩
          else some ⟨opcode, fin, none, length, 2 + extended⟩
  | _ => none

def maxControlFrameLength : Nat := 125

def maxFrameLength (maxMessageSize : Nat) : Nat := max maxControlFrameLength maxMessageSize

/-- Writes `bytes` over a buffer from a position on. -/
def overwrite (buffer : Bytes) (position : Nat) (bytes : Bytes) : Bytes :=
  buffer.take position ++ bytes ++ buffer.drop (position + bytes.length)

/-- A frame taken from the buffer: the number of bytes it occupies on the wire (it can be more
than the buffer holds), the position of the payload, and the buffer unmasked in place. -/
structure Parsed where
  consumed : Nat
  frame : Frame
  position : Nat
  buffer : Bytes
  deriving DecidableEq, Repr

/-- The first `frame.length` bytes of the payload, unmasked when a key is given. -/
def Header.payload (h : Header) (maxMessageSize : Nat) (buffer : Bytes) : Bytes :=
  let bytes := (buffer.drop h.size).take (min h.length (maxFrameLength maxMessageSize))
  match h.maskingKey with
  | none => bytes
  | some key => applyMask key bytes

/-- `none` stands for the returns of zero before anything is written. The sum returned at
the end is a pointer difference and wraps at 2^64. -/
def parseFrame (maxMessageSize : Nat) (buffer : Bytes) : Option Parsed :=
  match parseHeader buffer with
  | none => none
  | some h =>
      if buffer.length - h.size < min h.length (maxFrameLength maxMessageSize) then none
      else
        let payload := h.payload maxMessageSize buffer
        some {
          consumed := (h.size + h.length) % 2 ^ 64
          frame := { opcode := h.opcode, payload, fin := h.fin, mask := h.maskingKey.isSome }
          position := h.size
          buffer := overwrite buffer h.size payload }

/-- The bytes `sendFrame` passes down for a frame: header, masking key and payload. -/
def encodeFrame (key : MaskingKey) (frame : Frame) : Bytes :=
  let first := (frame.opcode.toByte &&& 0x0F) ||| (if frame.fin then 0x80 else 0)
  let maskBit : UInt8 := if frame.mask then 0x80 else 0
  let length := frame.payload.length
  let header :=
    if length < 0x7E then [first, (UInt8.ofNat length &&& 0x7F) ||| maskBit]
    else if length ≤ 0xFFFF then first :: (0x7E ||| maskBit) :: bigEndianBytes 2 length
    else first :: (0x7F ||| maskBit) :: bigEndianBytes 8 length
  if frame.mask then header ++ key.val ++ applyMask key.val frame.payload
  else header ++ frame.payload

/-! ### Reading a header needs only its own bytes -/

theorem parseLength_append {short : Nat} {rest : Bytes} {found : Nat × Nat} (later : Bytes)
    (parsed : parseLength short rest = some found) : parseLength short (rest ++ later) = some found := by
  unfold parseLength at parsed ⊢
  split_ifs at parsed with two few eight few'
  · rw [if_pos two, if_neg (by simp only [List.length_append]; omega),
      List.take_append_of_le_length (by omega)]
    exact parsed
  · rw [if_neg two, if_pos eight, if_neg (by simp only [List.length_append]; omega),
      List.take_append_of_le_length (by omega)]
    exact parsed
  · rw [if_neg two, if_neg eight]
    exact parsed

theorem parseLength_extended {short : Nat} {rest : Bytes} {length extended : Nat}
    (parsed : parseLength short rest = some (length, extended)) :
    extended ≤ 8 ∧ extended ≤ rest.length := by
  unfold parseLength at parsed
  split_ifs at parsed <;> simp only [Option.some.injEq, Prod.mk.injEq] at parsed <;> omega

theorem parseHeader_size {buffer : Bytes} {h : Header} (parsed : parseHeader buffer = some h) :
    2 ≤ h.size ∧ h.size ≤ 14 ∧ h.size ≤ buffer.length := by
  rcases buffer with - | ⟨b1, - | ⟨b2, rest⟩⟩
  · simp [parseHeader] at parsed
  · simp [parseHeader] at parsed
  · rw [parseHeader] at parsed
    cases read : parseLength (b2 &&& 0x7F).toNat rest with
    | none => simp only [read, reduceCtorEq] at parsed
    | some found =>
      rcases found with ⟨length, extended⟩
      have inside := parseLength_extended read
      simp only [read] at parsed
      split_ifs at parsed with masked few
      · simp only [Option.some.injEq] at parsed
        subst parsed
        simp only [List.length_drop, List.length_cons] at few ⊢
        omega
      · simp only [Option.some.injEq] at parsed
        subst parsed
        simp only [List.length_cons]
        omega

theorem parseHeader_append {buffer : Bytes} {h : Header} (later : Bytes)
    (parsed : parseHeader buffer = some h) : parseHeader (buffer ++ later) = some h := by
  rcases buffer with - | ⟨b1, - | ⟨b2, rest⟩⟩
  · simp [parseHeader] at parsed
  · simp [parseHeader] at parsed
  · rw [List.cons_append, List.cons_append, parseHeader]
    rw [parseHeader] at parsed
    cases read : parseLength (b2 &&& 0x7F).toNat rest with
    | none => simp only [read, reduceCtorEq] at parsed
    | some found =>
      rcases found with ⟨length, extended⟩
      have inside := (parseLength_extended read).2
      simp only [read] at parsed
      simp only [parseLength_append later read, List.drop_append_of_le_length inside]
      split_ifs at parsed with masked few
      · rw [if_pos masked, if_neg (by simp only [List.length_append]; omega),
          List.take_append_of_le_length (by omega)]
        exact parsed
      · rw [if_neg masked]
        exact parsed

/-! ### Complete frames -/

/-- The buffer holds the header and as much payload as `parseFrame` waits for. -/
def Complete (limit : Nat) (buffer : Bytes) (h : Header) : Prop :=
  parseHeader buffer = some h ∧ min h.length (maxFrameLength limit) ≤ buffer.length - h.size

theorem Complete.append {limit : Nat} {buffer : Bytes} {h : Header}
    (complete : Complete limit buffer h) (later : Bytes) : Complete limit (buffer ++ later) h := by
  refine ⟨parseHeader_append later complete.1, ?_⟩
  have enough := complete.2
  rw [List.length_append]
  omega

theorem Complete.unique {limit : Nat} {buffer : Bytes} {h other : Header}
    (complete : Complete limit buffer h) (again : Complete limit buffer other) : h = other :=
  Option.some.inj (complete.1.symm.trans again.1)

theorem parseFrame_none_iff (limit : Nat) (buffer : Bytes) :
    parseFrame limit buffer = none ↔ ∀ h, ¬Complete limit buffer h := by
  unfold parseFrame Complete
  cases parsed : parseHeader buffer with
  | none => simp
  | some h => simp

@[simp] theorem applyMask_length (key payload : Bytes) :
    (applyMask key payload).length = payload.length := by
  simp [applyMask]

theorem Complete.payload_length {limit : Nat} {buffer : Bytes} {h : Header}
    (complete : Complete limit buffer h) :
    (h.payload limit buffer).length = min h.length (maxFrameLength limit) := by
  have enough := complete.2
  unfold Header.payload
  cases h.maskingKey <;> simp only [applyMask_length, List.length_take, List.length_drop] <;> omega

theorem Complete.payload_append {limit : Nat} {buffer : Bytes} {h : Header}
    (complete : Complete limit buffer h) (later : Bytes) :
    h.payload limit (buffer ++ later) = h.payload limit buffer := by
  have enough := complete.2
  have inside := (parseHeader_size complete.1).2.2
  unfold Header.payload
  rw [List.drop_append_of_le_length inside,
    List.take_append_of_le_length (by rw [List.length_drop]; exact enough)]

/-- The frame that `parseFrame` reports for a complete header. -/
def Header.frame (h : Header) (limit : Nat) (buffer : Bytes) : Frame :=
  { opcode := h.opcode, payload := h.payload limit buffer, fin := h.fin
    mask := h.maskingKey.isSome }

theorem Complete.parseFrame_eq {limit : Nat} {buffer : Bytes} {h : Header}
    (complete : Complete limit buffer h) (small : h.length < 2 ^ 63) :
    parseFrame limit buffer = some {
      consumed := h.size + h.length
      frame := h.frame limit buffer
      position := h.size
      buffer := overwrite buffer h.size (h.payload limit buffer) } := by
  have size := (parseHeader_size complete.1).2.1
  have fits : (h.size + h.length) % 2 ^ 64 = h.size + h.length := Nat.mod_eq_of_lt (by omega)
  have enough : ¬buffer.length - h.size < min h.length (maxFrameLength limit) := by
    have := complete.2
    omega
  simp only [parseFrame, complete.1, if_neg enough, fits, Header.frame]

/-! ### Writing in place -/

theorem overwrite_length {buffer bytes : Bytes} {position : Nat}
    (inside : position + bytes.length ≤ buffer.length) :
    (overwrite buffer position bytes).length = buffer.length := by
  simp only [overwrite, List.length_append, List.length_take, List.length_drop]
  omega

theorem overwrite_drop {buffer bytes : Bytes} {position count : Nat}
    (inside : position + bytes.length ≤ buffer.length) (behind : position + bytes.length ≤ count) :
    (overwrite buffer position bytes).drop count = buffer.drop count := by
  have front : (buffer.take position ++ bytes).length = position + bytes.length := by
    rw [List.length_append, List.length_take]
    omega
  rw [overwrite, List.drop_append, List.drop_of_length_le (by omega), front, List.nil_append,
    List.drop_drop]
  congr 1
  omega

theorem parseFrame_complete {limit : Nat} {buffer : Bytes} {parsed : Parsed}
    (found : parseFrame limit buffer = some parsed) :
    ∃ h, Complete limit buffer h ∧ parsed = {
      consumed := (h.size + h.length) % 2 ^ 64
      frame := h.frame limit buffer
      position := h.size
      buffer := overwrite buffer h.size (h.payload limit buffer) } := by
  unfold parseFrame at found
  cases header : parseHeader buffer with
  | none => simp only [header, reduceCtorEq] at found
  | some h =>
    simp only [header] at found
    split_ifs at found with few
    exact ⟨h, ⟨header, Nat.not_lt.mp few⟩, (Option.some.inj found).symm⟩

theorem parseFrame_inside {limit : Nat} {buffer : Bytes} {parsed : Parsed}
    (found : parseFrame limit buffer = some parsed) :
    parsed.position + parsed.frame.payload.length ≤ buffer.length ∧ parsed.buffer.length = buffer.length := by
  obtain ⟨h, complete, rfl⟩ := parseFrame_complete found
  have size := complete.payload_length
  have start := (parseHeader_size complete.1).2.2
  have inside : h.size + (h.payload limit buffer).length ≤ buffer.length := by
    have enough := complete.2
    omega
  exact ⟨inside, overwrite_length inside⟩

end WebsocketClient.Frames
