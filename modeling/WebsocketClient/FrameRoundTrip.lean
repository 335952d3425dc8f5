import Mathlib.Tactic.Ring
import WebsocketClient.WsTransport

/-! What `sendFrame` writes, `parseFrame` reads back, and no earlier than it is there. The two
functions meet in the header: its bytes and what they say are written once for the three length
encodings. -/

namespace WebsocketClient.FrameRoundTrips
open ByteString Frames WsTransports

/-! ### Numbers and masks -/

@[simp] theorem bigEndianBytes_length (width value : Nat) : (bigEndianBytes width value).length = width := by
  induction width generalizing value with
  | zero => rfl
  | succ width ih => rw [bigEndianBytes, List.length_cons, ih]

theorem foldl_bigEndianBytes (width value start : Nat) :
    (bigEndianBytes width value).foldl (fun read b => 256 * read + b.toNat) start =
      256 ^ width * start + value % 256 ^ width := by
  induction width generalizing start with
  | zero => simp [bigEndianBytes, Nat.mod_one]
  | succ width ih =>
    have digit : (UInt8.ofNat (value / 256 ^ width)).toNat = value / 256 ^ width % 256 := UInt8.toNat_ofNat
    have split : value % 256 ^ (width + 1) =
        256 ^ width * (value / 256 ^ width % 256) + value % 256 ^ width := by
      rw [Nat.pow_succ, Nat.mod_mul]
      omega
    rw [bigEndianBytes, List.foldl_cons, ih, digit, split]
    ring

theorem bigEndian_bigEndianBytes {width value : Nat} (fits : value < 256 ^ width) :
    bigEndian (bigEndianBytes width value) = value := by
  rw [bigEndian, foldl_bigEndianBytes, Nat.mul_zero, Nat.zero_add, Nat.mod_eq_of_lt fits]

theorem applyMask_twice (key payload : Bytes) : applyMask key (applyMask key payload) = payload := by
  apply List.ext_getElem
  · rw [applyMask_length, applyMask_length]
  · intro index inside inside'
    simp only [applyMask, List.getElem_mapIdx, UInt8.xor_assoc, UInt8.xor_self, UInt8.xor_zero]

theorem applyMask_take (key payload : Bytes) (count : Nat) :
    applyMask key (payload.take count) = (applyMask key payload).take count := by
  apply List.ext_getElem
  · simp only [applyMask_length, List.length_take]
  · intro index inside inside'
    simp only [applyMask, List.getElem_mapIdx, List.getElem_take]

/-! ### The first two bytes -/

theorem toByte_ofByte (code : UInt8) : (Opcode.ofByte code).toByte = code := by
  unfold Opcode.ofByte
  split_ifs <;> simp_all [Opcode.toByte]

def firstByte (code : UInt8) (fin : Bool) : UInt8 := (code &&& 0x0F) ||| (if fin then 0x80 else 0)

def maskBit (mask : Bool) : UInt8 := if mask then 0x80 else 0

theorem firstByte_bits : ∀ n < 16, ∀ fin : Bool,
    firstByte (UInt8.ofNat n) fin &&& 0x0F = UInt8.ofNat n ∧
      (firstByte (UInt8.ofNat n) fin &&& 0x80 != 0) = fin := by
  decide

theorem secondByte_bits : ∀ n < 128, ∀ mask : Bool,
    (UInt8.ofNat n ||| maskBit mask) &&& 0x7F = UInt8.ofNat n ∧
      ((UInt8.ofNat n ||| maskBit mask) &&& 0x80 != 0) = mask := by
  decide

theorem firstByte_reads (code : UInt8) (fin : Bool) (small : code < 16) :
    firstByte code fin &&& 0x0F = code ∧ (firstByte code fin &&& 0x80 != 0) = fin := by
  have bits := firstByte_bits code.toNat small fin
  rwa [UInt8.ofNat_toNat] at bits

theorem secondByte_reads (short : UInt8) (mask : Bool) (small : short < 128) :
    (short ||| maskBit mask) &&& 0x7F = short ∧ ((short ||| maskBit mask) &&& 0x80 != 0) = mask := by
  have bits := secondByte_bits short.toNat small mask
  rwa [UInt8.ofNat_toNat] at bits

/-! ### The length -/

/-- The seven bits of the length in the second byte, and the bytes behind it. -/
def lengthField (length : Nat) : UInt8 × Bytes :=
  if length < 0x7E then (UInt8.ofNat length &&& 0x7F, [])
  else if length ≤ 0xFFFF then (0x7E, bigEndianBytes 2 length)
  else (0x7F, bigEndianBytes 8 length)

theorem short_length : ∀ n < 0x7E, (UInt8.ofNat n &&& 0x7F).toNat = n := by decide

theorem lengthField_small (length : Nat) : (lengthField length).1 < 128 := by
  unfold lengthField
  split_ifs with short
  · have value := short_length length short
    rw [UInt8.lt_iff_toNat_lt, value]
    exact Nat.lt_trans short (by decide)
  · exact (by decide : (0x7E : UInt8) < 128)
  · exact (by decide : (0x7F : UInt8) < 128)

theorem parseLength_lengthField {length : Nat} (fits : length < 2 ^ 64) (rest : Bytes) :
    parseLength (lengthField length).1.toNat ((lengthField length).2 ++ rest) =
      some (length, (lengthField length).2.length) := by
  unfold lengthField parseLength
  by_cases short : length < 0x7E
  · rw [if_pos short, short_length length short, if_neg (by omega), if_neg (by omega)]
    rfl
  · rw [if_neg short]
    by_cases medium : length ≤ 0xFFFF
    · have value : bigEndian (bigEndianBytes 2 length) = length := bigEndian_bigEndianBytes (by omega)
      have digits : (bigEndianBytes 2 length).length = 2 := bigEndianBytes_length 2 length
      have code : (0x7E : UInt8).toNat = 0x7E := rfl
      rw [if_pos medium]
      dsimp only
      rw [if_pos code, if_neg (by rw [List.length_append]; omega), List.take_left' digits, value, digits]
    · have value : bigEndian (bigEndianBytes 8 length) = length := bigEndian_bigEndianBytes (by omega)
      have digits : (bigEndianBytes 8 length).length = 8 := bigEndianBytes_length 8 length
      have code : (0x7F : UInt8).toNat = 0x7F := rfl
      rw [if_neg medium]
      dsimp only
      rw [if_neg (by rw [code]; decide), if_pos code, if_neg (by rw [List.length_append]; omega),
        List.take_left' digits, value, digits]

/-! ### The header -/

variable (key : MaskingKey) (frame : Frame)

def keyField : Bytes := if frame.mask then key.val else []

def body : Bytes := if frame.mask then applyMask key.val frame.payload else frame.payload

theorem encodeFrame_eq : encodeFrame key frame =
    firstByte frame.opcode.toByte frame.fin ::
      ((lengthField frame.payload.length).1 ||| maskBit frame.mask) ::
        ((lengthField frame.payload.length).2 ++ (keyField key frame ++ body key frame)) := by
  unfold encodeFrame lengthField keyField body firstByte maskBit
  cases frame.mask <;> simp only [Bool.false_eq_true, if_false, if_true] <;> split_ifs <;>
    simp only [List.cons_append, List.nil_append, List.append_assoc]

/-- What the header of a frame that was sent says. -/
def header : Header where
  opcode := frame.opcode
  fin := frame.fin
  maskingKey := if frame.mask then some key.val else none
  length := frame.payload.length
  size := 2 + (lengthField frame.payload.length).2.length + (keyField key frame).length

theorem parseHeader_encodeFrame (fits : frame.payload.length < 2 ^ 64) (small : frame.opcode.toByte < 16)
    (known : Opcode.ofByte frame.opcode.toByte = frame.opcode) (rest : Bytes) :
    parseHeader (encodeFrame key frame ++ rest) = some (header key frame) := by
  obtain ⟨code, fin⟩ := firstByte_reads frame.opcode.toByte frame.fin small
  obtain ⟨short, mask⟩ := secondByte_reads _ frame.mask (lengthField_small frame.payload.length)
  have length := parseLength_lengthField fits (keyField key frame ++ (body key frame ++ rest))
  rw [encodeFrame_eq, List.cons_append, List.cons_append, List.append_assoc, List.append_assoc, parseHeader]
  simp only [short, length, code, fin, mask, known, List.drop_left, header]
  cases masked : frame.mask with
  | false => simp [keyField, masked]
  | true =>
    have size : key.val.length = 4 := key.property
    simp [keyField, masked, size]

theorem body_length : (body key frame).length = frame.payload.length := by
  unfold body
  split_ifs
  · exact applyMask_length _ _
  · rfl

theorem encodeFrame_length :
    (encodeFrame key frame).length = (header key frame).size + frame.payload.length := by
  rw [encodeFrame_eq]
  simp only [List.length_cons, List.length_append, body_length, header]
  omega

theorem encodeFrame_drop (rest : Bytes) :
    (encodeFrame key frame ++ rest).drop (header key frame).size = body key frame ++ rest := by
  have front : encodeFrame key frame ++ rest =
      (firstByte frame.opcode.toByte frame.fin ::
        ((lengthField frame.payload.length).1 ||| maskBit frame.mask) ::
          ((lengthField frame.payload.length).2 ++ keyField key frame)) ++ (body key frame ++ rest) := by
    rw [encodeFrame_eq]
    simp only [List.cons_append, List.append_assoc]
  rw [front, List.drop_left']
  simp only [List.length_cons, List.length_append, header]
  omega

theorem payload_encodeFrame (limit : Nat) (rest : Bytes) :
    (header key frame).payload limit (encodeFrame key frame ++ rest) =
      frame.payload.take (maxFrameLength limit) := by
  have length := body_length key frame
  have cut : (body key frame ++ rest).take (min frame.payload.length (maxFrameLength limit)) =
      (body key frame).take (maxFrameLength limit) := by
    rw [List.take_append_of_le_length (by rw [length]; exact Nat.min_le_left _ _), ← length, Nat.min_comm,
      ← List.take_take, List.take_length]
  have declared : (header key frame).length = frame.payload.length := rfl
  unfold Header.payload
  rw [encodeFrame_drop, declared, cut]
  cases masked : frame.mask with
  | false => simp [header, body, masked]
  | true =>
    have whole := applyMask_twice key.val frame.payload
    simp [header, body, masked, applyMask_take, whole]

theorem encodeFrame_complete (limit : Nat) (fits : frame.payload.length < 2 ^ 64)
    (small : frame.opcode.toByte < 16) (known : Opcode.ofByte frame.opcode.toByte = frame.opcode) (rest : Bytes) :
    Complete limit (encodeFrame key frame ++ rest) (header key frame) := by
  refine ⟨parseHeader_encodeFrame key frame fits small known rest, ?_⟩
  have length := encodeFrame_length key frame
  have declared : (header key frame).length = frame.payload.length := rfl
  rw [List.length_append]
  omega

/-- What `parseFrame` returns. -/
def returned (limit : Nat) (buffer : Bytes) : Nat :=
  match parseFrame limit buffer with
  | none => 0
  | some parsed => parsed.consumed

/-- What the buffer holds after `parseFrame`. -/
def left (limit : Nat) (buffer : Bytes) : Bytes :=
  match parseFrame limit buffer with
  | none => buffer
  | some parsed => parsed.buffer

/-- The frame of an opcode value, as the caller of `sendFrame` fills it in. -/
def frameOf (code : UInt8) (fin mask : Bool) (payload : Bytes) : Frame where
  opcode := Opcode.ofByte code
  payload := payload
  fin := fin
  mask := mask

/-- `parseFrame` reads back a frame that `sendFrame` passed down, whatever follows it, and waits as
long as the payload that it reports is not there. -/
theorem parseFrame_sent (code : UInt8) (small : code < 16) (fin mask : Bool) (key : MaskingKey)
    (payload : Bytes) (fits : payload.length < 2 ^ 63) (limit : Nat) (rest : Bytes) :
    let wire := (Sent.frame (frameOf code fin mask payload) key).wire
    (∃ parsed, parseFrame limit (wire ++ rest) = some parsed ∧ parsed.consumed = wire.length ∧
      parsed.frame = frameOf code fin mask (payload.take (max 125 limit))) ∧
    ∀ count, count + payload.length < wire.length + min payload.length (max 125 limit) →
      returned limit (wire.take count) = 0 ∧ left limit (wire.take count) = wire.take count := by
  intro wire
  let frame := frameOf code fin mask payload
  have byte : frame.opcode.toByte = code := toByte_ofByte code
  have complete (later : Bytes) : Complete limit (wire ++ later) (header key frame) :=
    encodeFrame_complete key frame limit (Nat.lt_trans fits (by decide)) (byte ▸ small)
      (congrArg Opcode.ofByte byte) later
  have length : wire.length = (header key frame).size + payload.length := encodeFrame_length key frame
  constructor
  · refine ⟨_, (complete rest).parseFrame_eq fits, length.symm, ?_⟩
    have read : (header key frame).payload limit (wire ++ rest) = payload.take (max 125 limit) :=
      payload_encodeFrame key frame limit rest
    rw [Header.frame, read]
    cases mask <;> rfl
  · intro count early
    suffices waits : parseFrame limit (wire.take count) = none by simp only [returned, left, waits, and_self]
    rw [parseFrame_none_iff]
    intro h found
    have whole := found.append (wire.drop count)
    rw [List.take_append_drop] at whole
    have same : h = header key frame := by
      have sent := complete []
      rw [List.append_nil] at sent
      exact whole.unique sent
    have size := (parseHeader_size found.1).2.2
    have enough := found.2
    have wide : maxFrameLength limit = max 125 limit := rfl
    have declared : (header key frame).length = payload.length := rfl
    rw [List.length_take] at size enough
    rw [same, declared, wide] at enough
    rw [same] at size
    omega

/-- A masked text of 200 bytes, with the length in two more bytes, at a receiver that takes 150. -/
theorem parseFrame_sent_long :
    let payload := List.replicate 200 (65 : UInt8)
    let wire := (Sent.frame (frameOf 1 true true payload) ⟨[1, 2, 3, 4], rfl⟩).wire
    (∃ parsed, parseFrame 150 (wire ++ [0x8A]) = some parsed ∧ parsed.consumed = wire.length ∧
      parsed.frame = frameOf 1 true true (payload.take (max 125 150))) ∧
    ∀ count, count + payload.length < wire.length + min payload.length (max 125 150) →
      returned 150 (wire.take count) = 0 ∧ left 150 (wire.take count) = wire.take count :=
  parseFrame_sent 1 (by decide) true true ⟨[1, 2, 3, 4], rfl⟩ (List.replicate 200 65)
    (by rw [List.length_replicate]; decide) 150 [0x8A]

end WebsocketClient.FrameRoundTrips
