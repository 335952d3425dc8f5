import WebsocketClient.Frame

/-! `WsTransport::parseFrame` with its pointers. Every byte is read and written at an offset, and an
access outside of the buffer is an error that names the offset. -/

namespace WebsocketClient.FramePointers
open ByteString Frames

/-! ### Accesses -/

def read (buffer : Bytes) (offset : Nat) : Except Nat UInt8 :=
  match buffer[offset]? with
  | some b => .ok b
  | none => .error offset

def write (buffer : Bytes) (offset : Nat) (b : UInt8) : Except Nat Bytes :=
  if offset < buffer.length then .ok (buffer.set offset b) else .error offset

/-- `ntohs` and `ntohll` of the bytes from an offset on. -/
def readNumber (buffer : Bytes) : (count offset value : Nat) → Except Nat Nat
  | 0, _, value => .ok value
  | count + 1, offset, value => do
      let b ← read buffer offset
      readNumber buffer count (offset + 1) (256 * value + b.toNat)

/-- The loop `frame.payload[i] ^= maskingKey[i % 4]`, from `i` on. -/
def unmask (maskingKey payload : Nat) : (count i : Nat) → Bytes → Except Nat Bytes
  | 0, _, buffer => .ok buffer
  | count + 1, i, buffer => do
      let k ← read buffer (maskingKey + i % 4)
      let b ← read buffer (payload + i)
      let buffer ← write buffer (payload + i) (b ^^^ k)
      unmask maskingKey payload count (i + 1) buffer

/-- The declared length, and `cur` behind it. `none` stands for the return of zero. -/
def lengthAt (buffer : Bytes) (short cur : Nat) : Except Nat (Option (Nat × Nat)) :=
  if short = 0x7E then
    if buffer.length - cur < 2 then .ok none
    else do
      let length ← readNumber buffer 2 cur 0
      .ok (some (length, cur + 2))
  else if short = 0x7F then
    if buffer.length - cur < 8 then .ok none
    else do
      let length ← readNumber buffer 8 cur 0
      .ok (some (length, cur + 8))
  else .ok (some (short, cur))

/-- From the masking key on, where `cur` stands at the payload. -/
def payloadAt (maxMessageSize : Nat) (buffer : Bytes) (b1 : UInt8) (length : Nat) (maskingKey : Option Nat)
    (cur : Nat) : Except Nat (Option Parsed) :=
  if buffer.length - cur < min length (maxFrameLength maxMessageSize) then .ok none
  else do
    let count := min length (maxFrameLength maxMessageSize)
    let buffer ← match maskingKey with
      | none => .ok buffer
      | some maskingKey => unmask maskingKey cur count 0 buffer
    .ok (some {
      consumed := (cur + length) % 2 ^ 64
      frame := {
        opcode := Opcode.ofByte (b1 &&& 0x0F)
        payload := (buffer.drop cur).take count
        fin := b1 &&& 0x80 != 0
        mask := maskingKey.isSome }
      position := cur
      buffer })

def parseFrameAt (maxMessageSize : Nat) (buffer : Bytes) : Except Nat (Option Parsed) :=
  if buffer.length < 2 then .ok none
  else do
    let b1 ← read buffer 0
    let b2 ← read buffer 1
    let found ← lengthAt buffer (b2 &&& 0x7F).toNat 2
    match found with
    | none => .ok none
    | some (length, cur) =>
      if b2 &&& 0x80 != 0 then
        if buffer.length - cur < 4 then .ok none
        else payloadAt maxMessageSize buffer b1 length (some cur) (cur + 4)
      else payloadAt maxMessageSize buffer b1 length none cur

/-! ### No access is outside -/

theorem read_eq {buffer : Bytes} {offset : Nat} (inside : offset < buffer.length) :
    read buffer offset = .ok buffer[offset] := by
  rw [read, List.getElem?_eq_getElem inside]

theorem readNumber_eq (buffer : Bytes) (count offset value : Nat) (inside : offset + count ≤ buffer.length) :
    readNumber buffer count offset value =
      .ok (((buffer.drop offset).take count).foldl (fun read b => 256 * read + b.toNat) value) := by
  induction count generalizing offset value with
  | zero => rfl
  | succ count ih =>
    have here : offset < buffer.length := by omega
    rw [readNumber, read_eq here, List.drop_eq_getElem_cons here, List.take_succ_cons, List.foldl_cons]
    exact ih (offset + 1) _ (by omega)

theorem lengthAt_eq (b1 b2 : UInt8) (rest : Bytes) (short : Nat) :
    lengthAt (b1 :: b2 :: rest) short 2 =
      .ok ((parseLength short rest).map (fun found => (found.1, 2 + found.2))) := by
  have size : (b1 :: b2 :: rest).length - 2 = rest.length := by simp
  have number (count : Nat) (enough : count ≤ rest.length) :
      readNumber (b1 :: b2 :: rest) count 2 0 = .ok (bigEndian (rest.take count)) :=
    readNumber_eq (b1 :: b2 :: rest) count 2 0 (by simp only [List.length_cons]; omega)
  unfold lengthAt parseLength
  rw [size]
  split_ifs with two few eight few'
  · rfl
  · rw [number 2 (by omega)]
    rfl
  · rfl
  · rw [number 8 (by omega)]
    rfl
  · rfl

theorem overwrite_set {buffer : Bytes} {position : Nat} (b : UInt8) (bytes : Bytes)
    (inside : position < buffer.length) :
    overwrite (buffer.set position b) (position + 1) bytes = overwrite buffer position (b :: bytes) := by
  have front : (buffer.set position b).take (position + 1) = buffer.take position ++ [b] := by
    rw [List.take_succ_eq_append_getElem (by rw [List.length_set]; exact inside), List.getElem_set_self,
      List.take_set_of_le (Nat.le_refl position)]
  have behind : (buffer.set position b).drop (position + 1 + bytes.length) =
      buffer.drop (position + (b :: bytes).length) := by
    rw [List.drop_set_of_lt (by omega), List.length_cons]
    congr 1
    omega
  rw [overwrite, overwrite, front, behind]
  simp only [List.append_assoc, List.singleton_append]

/-- What the loop has still to do, in the buffer that it has reached. The key stands in front of the payload
and is not written. -/
theorem unmask_eq (buffer : Bytes) (maskingKey payload count i : Nat) (front : maskingKey + 4 ≤ payload)
    (inside : payload + i + count ≤ buffer.length) :
    unmask maskingKey payload count i buffer =
      .ok (overwrite buffer (payload + i) (((buffer.drop (payload + i)).take count).mapIdx
        (fun j b => b ^^^ ((buffer.drop maskingKey).take 4).getD ((i + j) % 4) 0))) := by
  induction count generalizing i buffer with
  | zero =>
    simp only [unmask, List.take_zero, List.mapIdx_nil, overwrite, List.append_nil, List.length_nil, Nat.add_zero,
      List.take_append_drop]
  | succ count ih =>
    have small : i % 4 < 4 := Nat.mod_lt _ (by decide)
    have here : payload + i < buffer.length := by omega
    have key : maskingKey + i % 4 < buffer.length := by omega
    have keyByte : ((buffer.drop maskingKey).take 4).getD (i % 4) 0 = buffer[maskingKey + i % 4] := by
      rw [List.getD_eq_getElem?_getD, List.getElem?_take_of_lt small, List.getElem?_drop,
        List.getElem?_eq_getElem key, Option.getD_some]
    rw [unmask, read_eq key, read_eq here]
    simp only [bind, Except.bind, write, if_pos here]
    have keyKept (b : UInt8) : ((buffer.set (payload + i) b).drop maskingKey).take 4 =
        (buffer.drop maskingKey).take 4 := by
      rw [List.drop_set, if_neg (by omega), List.take_set_of_le (by omega)]
    have rest (b : UInt8) : (buffer.set (payload + i) b).drop (payload + (i + 1)) = buffer.drop (payload + i + 1) :=
      List.drop_set_of_lt (by omega)
    have shift (j : Nat) : i + 1 + j = i + (j + 1) := by omega
    rw [ih _ (i + 1) (by rw [List.length_set]; omega), keyKept, rest, ← Nat.add_assoc,
      overwrite_set _ _ here, List.drop_eq_getElem_cons here, List.take_succ_cons, List.mapIdx_cons]
    simp only [shift, Nat.add_zero, keyByte]

theorem overwrite_self (buffer : Bytes) (position count : Nat) (inside : position + count ≤ buffer.length) :
    overwrite buffer position ((buffer.drop position).take count) = buffer := by
  have length : ((buffer.drop position).take count).length = count := by
    rw [List.length_take, List.length_drop]
    omega
  rw [overwrite, length, List.append_assoc, ← List.drop_drop, List.take_append_drop, List.take_append_drop]

theorem overwrite_read {buffer bytes : Bytes} {position : Nat} (inside : position ≤ buffer.length) :
    ((overwrite buffer position bytes).drop position).take bytes.length = bytes := by
  have front : (buffer.take position).length = position := by
    rw [List.length_take]
    omega
  rw [overwrite, List.append_assoc, List.drop_left' front, List.take_left]

theorem payloadAt_eq (limit : Nat) (buffer : Bytes) (b1 : UInt8) (h : Header) (maskingKey : Option Nat)
    (opcode : h.opcode = Opcode.ofByte (b1 &&& 0x0F)) (fin : h.fin = (b1 &&& 0x80 != 0))
    (inside : h.size ≤ buffer.length)
    (key : h.maskingKey = maskingKey.map (fun position => (buffer.drop position).take 4))
    (front : ∀ position ∈ maskingKey, position + 4 ≤ h.size) :
    payloadAt limit buffer b1 h.length maskingKey h.size =
      .ok (if buffer.length - h.size < min h.length (maxFrameLength limit) then none
        else some {
          consumed := (h.size + h.length) % 2 ^ 64
          frame := { opcode := h.opcode, payload := h.payload limit buffer, fin := h.fin
                     mask := h.maskingKey.isSome }
          position := h.size
          buffer := overwrite buffer h.size (h.payload limit buffer) }) := by
  unfold payloadAt
  by_cases few : buffer.length - h.size < min h.length (maxFrameLength limit)
  · rw [if_pos few, if_pos few]
  · rw [if_neg few, if_neg few]
    have enough : h.size + min h.length (maxFrameLength limit) ≤ buffer.length := by omega
    cases maskingKey with
    | none =>
      have plain : h.payload limit buffer = (buffer.drop h.size).take (min h.length (maxFrameLength limit)) := by
        simp only [Header.payload, key, Option.map_none]
      simp only [bind, Except.bind, plain, overwrite_self _ _ _ enough, opcode, fin, key, Option.map_none,
        Option.isSome_none]
    | some position =>
      have masked : h.payload limit buffer = applyMask ((buffer.drop position).take 4)
          ((buffer.drop h.size).take (min h.length (maxFrameLength limit))) := by
        simp only [Header.payload, key, Option.map_some]
      have length : (h.payload limit buffer).length = min h.length (maxFrameLength limit) := by
        rw [masked, applyMask_length, List.length_take, List.length_drop]
        omega
      have loop : unmask position h.size (min h.length (maxFrameLength limit)) 0 buffer =
          .ok (overwrite buffer h.size (h.payload limit buffer)) := by
        rw [unmask_eq buffer position h.size _ 0 (front position rfl) enough, masked, applyMask]
        simp only [Nat.add_zero, Nat.zero_add]
      have handed : ((overwrite buffer h.size (h.payload limit buffer)).drop h.size).take
          (h.payload limit buffer).length = h.payload limit buffer := overwrite_read inside
      rw [length] at handed
      simp only [bind, Except.bind, loop, handed, opcode, fin, key, Option.map_some, Option.isSome_some]

theorem parseFrameAt_eq (limit : Nat) (buffer : Bytes) : parseFrameAt limit buffer = .ok (parseFrame limit buffer) := by
  rcases buffer with - | ⟨b1, - | ⟨b2, rest⟩⟩
  · rfl
  · rfl
  · have two : ¬(b1 :: b2 :: rest).length < 2 := by simp
    have first : read (b1 :: b2 :: rest) 0 = .ok b1 := rfl
    have second : read (b1 :: b2 :: rest) 1 = .ok b2 := rfl
    rw [parseFrameAt, if_neg two, first, second, parseFrame, parseHeader]
    simp only [bind, Except.bind, lengthAt_eq]
    cases found : parseLength (b2 &&& 0x7F).toNat rest with
    | none => rfl
    | some pair =>
      obtain ⟨length, extended⟩ := pair
      have extent := (parseLength_extended found).2
      have left : (b1 :: b2 :: rest).length - (2 + extended) = (rest.drop extended).length := by
        simp only [List.length_cons, List.length_drop]
        omega
      have key : (b1 :: b2 :: rest).drop (2 + extended) = rest.drop extended := by
        rw [Nat.add_comm]
        rfl
      simp only [Option.map_some, left]
      split_ifs with masked few
      · rfl
      · let h : Header := ⟨Opcode.ofByte (b1 &&& 0x0F), b1 &&& 0x80 != 0, some ((rest.drop extended).take 4), length,
          2 + extended + 4⟩
        refine payloadAt_eq limit (b1 :: b2 :: rest) b1 h (some (2 + extended)) rfl rfl ?_ ?_ ?_
        · simp only [h, List.length_cons, List.length_drop] at few ⊢
          omega
        · simp only [h, Option.map_some, key]
        · intro position same
          have start : 2 + extended = position := Option.some.inj same
          rw [← start]
      · let h : Header := ⟨Opcode.ofByte (b1 &&& 0x0F), b1 &&& 0x80 != 0, none, length, 2 + extended⟩
        refine payloadAt_eq limit (b1 :: b2 :: rest) b1 h none rfl rfl ?_ rfl (by simp)
        simp only [h, List.length_cons]
        omega

end WebsocketClient.FramePointers
