import WebsocketClient.Handshake

/-! `base64_encode` with its signed index, and the decoder of RFC 4648 that undoes it. -/

namespace WebsocketClient.Base64s
open ByteString Utils Handshake

/-! ### The loop -/

/-- `data[i]` -/
def element (data : Bytes) (i : Int) : Option UInt8 := if 0 ≤ i then data[i.toNat]? else none

/-- `data.size() - i`, which is a `size_t`. -/
def remaining (data : Bytes) (i : Int) : Nat := ((data.length - i) % (2 ^ 64 : Nat)).toNat

/-- `int(data.size() - i)` -/
def leftOf (data : Bytes) (i : Int) : Int := (remaining data i : Int).bmod (2 ^ 32)

/-- What stands behind the loop. -/
def encodeLeft (data : Bytes) (i : Int) (out : Bytes) : Option Bytes :=
  let left := leftOf data i
  if left = 0 then some out
  else do
    let d0 ← element data i
    if left = 1 then some (out ++ [base64Char (d0 >>> 2), base64Char ((d0 &&& 3) <<< 4), padding, padding])
    else
      let d1 ← element data (i + 1)
      some (out ++ [base64Char (d0 >>> 2), base64Char (((d0 &&& 3) <<< 4) ||| (d1 >>> 4)),
        base64Char ((d1 &&& 0x0F) <<< 2), padding])

/-- `none` stands for an index outside of the data or of `int`, and for rounds that do not suffice to end the
loop. -/
def encodeFrom (data : Bytes) : Nat → Int → Bytes → Option Bytes
  | 0, _, _ => none
  | rounds + 1, i, out =>
      if 3 ≤ remaining data i then do
        let d0 ← element data i
        let d1 ← element data (i + 1)
        let d2 ← element data (i + 2)
        let out := out ++ [base64Char (d0 >>> 2), base64Char (((d0 &&& 3) <<< 4) ||| (d1 >>> 4)),
          base64Char (((d1 &&& 0x0F) <<< 2) ||| (d2 >>> 6)), base64Char (d2 &&& 0x3F)]
        if i + 3 < (2 ^ 31 : Nat) then encodeFrom data rounds (i + 3) out else none
      else encodeLeft data i out

def base64EncodeAt (data : Bytes) : Option Bytes := encodeFrom data (data.length + 1) 0 []

theorem element_append (before rest : Bytes) (i : Nat) : element (before ++ rest) (before.length + i) = rest[i]? := by
  have index : ((before.length : Int) + i).toNat = before.length + i := by omega
  rw [element, if_pos (by omega), index, List.getElem?_append_right (Nat.le_add_right ..), Nat.add_sub_cancel_left]

theorem remaining_append (before rest : Bytes) (small : (before ++ rest).length < 2 ^ 31) :
    remaining (before ++ rest) before.length = rest.length := by
  rw [List.length_append] at small
  rw [remaining, List.length_append, Int.natCast_add, Int.add_comm, Int.add_sub_cancel,
    Int.emod_eq_of_lt (by omega) (by omega), Int.toNat_natCast]

theorem leftOf_append (before rest : Bytes) (small : (before ++ rest).length < 2 ^ 31) :
    leftOf (before ++ rest) before.length = rest.length := by
  have same := remaining_append before rest small
  rw [List.length_append] at small
  unfold leftOf
  rw [same, Int.bmod_eq_of_le] <;> omega

theorem encodeLeft_eq (before rest out : Bytes) (small : (before ++ rest).length < 2 ^ 31) (few : rest.length < 3) :
    encodeLeft (before ++ rest) before.length out = some (out ++ base64Encode rest) := by
  have left := leftOf_append before rest small
  have zero := element_append before rest 0
  have one := element_append before rest 1
  simp only [Int.natCast_zero, Int.add_zero, Int.natCast_one] at zero one
  generalize (before.length : Int) = i at left zero one
  generalize before ++ rest = data at left zero one
  simp only [encodeLeft, left, zero, one]
  match rest with
  | [] => simp [base64Encode]
  | [d0] => simp [base64Encode]
  | [d0, d1] => simp [base64Encode]
  | _ :: _ :: _ :: _ => exact absurd few (by simp)

theorem encodeFrom_eq (rounds : Nat) (before rest out : Bytes) (small : (before ++ rest).length < 2 ^ 31)
    (enough : rest.length < rounds) :
    encodeFrom (before ++ rest) rounds before.length out = some (out ++ base64Encode rest) := by
  induction rounds generalizing before rest out with
  | zero => exact absurd enough (Nat.not_lt_zero _)
  | succ rounds ih =>
    have size := remaining_append before rest small
    rw [encodeFrom, size]
    match rest with
    | [] =>
      rw [if_neg (by simp)]
      exact encodeLeft_eq before _ out small (by simp)
    | [_] =>
      rw [if_neg (by simp)]
      exact encodeLeft_eq before _ out small (by simp)
    | [_, _] =>
      rw [if_neg (by simp)]
      exact encodeLeft_eq before _ out small (by simp)
    | d0 :: d1 :: d2 :: rest =>
      have zero := element_append before (d0 :: d1 :: d2 :: rest) 0
      have one := element_append before (d0 :: d1 :: d2 :: rest) 1
      have two := element_append before (d0 :: d1 :: d2 :: rest) 2
      simp only [Int.natCast_zero, Int.add_zero, Int.natCast_one, Nat.cast_ofNat] at zero one two
      have shape : before ++ d0 :: d1 :: d2 :: rest = (before ++ [d0, d1, d2]) ++ rest := by simp
      have next : (before.length : Int) + 3 = (before ++ [d0, d1, d2]).length := by simp
      have inside : (before.length : Int) + 3 < (2 ^ 31 : Nat) := by
        simp only [List.length_append, List.length_cons] at small
        omega
      have fewer : rest.length < rounds := by
        simp only [List.length_cons] at enough
        omega
      have later := ih (before ++ [d0, d1, d2]) rest (out ++ base64Encode [d0, d1, d2]) (shape ▸ small) fewer
      rw [← shape, ← next] at later
      generalize (before.length : Int) = i at zero one two inside later
      generalize before ++ d0 :: d1 :: d2 :: rest = data at zero one two later
      simp only [zero, one, two, List.getElem?_cons_zero, List.getElem?_cons_succ, Option.bind_eq_bind,
          Option.bind_some,
        List.length_cons, Nat.le_add_left, if_pos inside, if_true]
      simp only [base64Encode] at later ⊢
      rw [later, List.append_assoc]
      rfl

theorem base64EncodeAt_eq (data : Bytes) (small : data.length < 2 ^ 31) :
    base64EncodeAt data = some (base64Encode data) :=
  encodeFrom_eq _ [] data [] small (Nat.lt_succ_self _)

/-! ### The decoder -/

/-- The alphabet of RFC 4648, section 4. -/
def alphabet : Bytes :=
  (List.range 26).map (fun n => UInt8.ofNat (65 + n)) ++ (List.range 26).map (fun n => UInt8.ofNat (97 + n)) ++
    (List.range 10).map (fun n => UInt8.ofNat (48 + n)) ++ [43, 47]

def charValue (c : UInt8) : Option Nat := if alphabet.contains c then some (alphabet.idxOf c) else none

def toBytes (numbers : List Nat) : Bytes := numbers.map UInt8.ofNat

/-- Groups of four characters. The last one may be padded, and the bits that it does not need are zero. -/
def base64Decode : Bytes → Option Bytes
  | [] => some []
  | c0 :: c1 :: c2 :: c3 :: rest => do
      let v0 ← charValue c0
      let v1 ← charValue c1
      if c2 = padding then
        if c3 = padding ∧ rest = [] ∧ v1 % 16 = 0 then some (toBytes [4 * v0 + v1 / 16]) else none
      else
        let v2 ← charValue c2
        if c3 = padding then
          if rest = [] ∧ v2 % 4 = 0 then some (toBytes [4 * v0 + v1 / 16, 16 * (v1 % 16) + v2 / 4]) else none
        else
          let v3 ← charValue c3
          let later ← base64Decode rest
          some (toBytes [4 * v0 + v1 / 16, 16 * (v1 % 16) + v2 / 4, 64 * (v2 % 4) + v3] ++ later)
  | _ => none

/-! ### Six bits -/

theorem toNat_high (d : UInt8) : (d >>> 2).toNat = d.toNat / 4 := by
  rw [UInt8.toNat_shiftRight, Nat.shiftRight_eq_div_pow]
  rfl

theorem toNat_low (d : UInt8) : (d &&& 0x3F).toNat = d.toNat % 64 := by
  rw [UInt8.toNat_and]
  exact Nat.and_two_pow_sub_one_eq_mod d.toNat 6

theorem toNat_middle (d : UInt8) : ((d &&& 3) <<< 4).toNat = d.toNat % 4 * 16 := by
  rw [UInt8.toNat_shiftLeft, UInt8.toNat_and]
  have masked : d.toNat &&& UInt8.toNat 3 = d.toNat % 4 := Nat.and_two_pow_sub_one_eq_mod d.toNat 2
  have shift : UInt8.toNat 4 % 8 = 4 := rfl
  rw [masked, shift, Nat.shiftLeft_eq, Nat.mod_eq_of_lt (by omega)]

theorem toNat_middle' (d : UInt8) : ((d &&& 0x0F) <<< 2).toNat = d.toNat % 16 * 4 := by
  rw [UInt8.toNat_shiftLeft, UInt8.toNat_and]
  have masked : d.toNat &&& UInt8.toNat 0x0F = d.toNat % 16 := Nat.and_two_pow_sub_one_eq_mod d.toNat 4
  have shift : UInt8.toNat 2 % 8 = 2 := rfl
  rw [masked, shift, Nat.shiftLeft_eq, Nat.mod_eq_of_lt (by omega)]

theorem toNat_joined (d0 d1 : UInt8) :
    (((d0 &&& 3) <<< 4) ||| (d1 >>> 4)).toNat = d0.toNat % 4 * 16 + d1.toNat / 16 := by
  have bound := d1.toNat_lt
  have shifted : (d1 >>> 4).toNat = d1.toNat / 16 := by
    rw [UInt8.toNat_shiftRight, Nat.shiftRight_eq_div_pow]
    rfl
  have small : d1.toNat / 16 < 2 ^ 4 := by omega
  rw [UInt8.toNat_or, toNat_middle, shifted, ← Nat.shiftLeft_eq (d0.toNat % 4) 4,
    ← Nat.shiftLeft_add_eq_or_of_lt small]

theorem toNat_joined' (d1 d2 : UInt8) :
    (((d1 &&& 0x0F) <<< 2) ||| (d2 >>> 6)).toNat = d1.toNat % 16 * 4 + d2.toNat / 64 := by
  have bound := d2.toNat_lt
  have shifted : (d2 >>> 6).toNat = d2.toNat / 64 := by
    rw [UInt8.toNat_shiftRight, Nat.shiftRight_eq_div_pow]
    rfl
  have small : d2.toNat / 64 < 2 ^ 2 := by omega
  rw [UInt8.toNat_or, toNat_middle', shifted, ← Nat.shiftLeft_eq (d1.toNat % 16) 2,
    ← Nat.shiftLeft_add_eq_or_of_lt small]

/-- A character of the alphabet, which stands for six bits. -/
structure StandsFor (c : UInt8) (value : Nat) : Prop where
  value : charValue c = some value
  plain : c ≠ padding
  member : c ∈ alphabet

theorem base64Char_standsFor {index : UInt8} {value : Nat} (same : index.toNat = value) (small : value < 64) :
    StandsFor (base64Char index) value := by
  have all : ∀ n : Fin 64, charValue (base64Char (UInt8.ofNat n)) = some n.val ∧
      base64Char (UInt8.ofNat n) ≠ padding ∧ base64Char (UInt8.ofNat n) ∈ alphabet := by decide +kernel
  have found := all ⟨value, small⟩
  simp only [← same, UInt8.ofNat_toNat] at found
  rw [same] at found
  exact ⟨found.1, found.2.1, found.2.2⟩

section
variable (d0 d1 d2 : UInt8)

theorem high_standsFor : StandsFor (base64Char (d0 >>> 2)) (d0.toNat / 4) := by
  have bound := d0.toNat_lt
  exact base64Char_standsFor (toNat_high d0) (by omega)

theorem low_standsFor : StandsFor (base64Char (d2 &&& 0x3F)) (d2.toNat % 64) :=
  base64Char_standsFor (toNat_low d2) (by omega)

theorem joined_standsFor :
    StandsFor (base64Char (((d0 &&& 3) <<< 4) ||| (d1 >>> 4))) (d0.toNat % 4 * 16 + d1.toNat / 16) := by
  have bound := d1.toNat_lt
  exact base64Char_standsFor (toNat_joined d0 d1) (by omega)

theorem joined_standsFor' :
    StandsFor (base64Char (((d1 &&& 0x0F) <<< 2) ||| (d2 >>> 6))) (d1.toNat % 16 * 4 + d2.toNat / 64) := by
  have bound := d2.toNat_lt
  exact base64Char_standsFor (toNat_joined' d1 d2) (by omega)

theorem middle_standsFor : StandsFor (base64Char ((d0 &&& 3) <<< 4)) (d0.toNat % 4 * 16) :=
  base64Char_standsFor (toNat_middle d0) (by omega)

theorem middle_standsFor' : StandsFor (base64Char ((d1 &&& 0x0F) <<< 2)) (d1.toNat % 16 * 4) :=
  base64Char_standsFor (toNat_middle' d1) (by omega)

end

/-! ### Decoding what was encoded -/

theorem ofNat_byte {n : Nat} {d : UInt8} (same : n = d.toNat) : UInt8.ofNat n = d := by
  rw [same, UInt8.ofNat_toNat]

theorem base64Decode_encode (data : Bytes) : base64Decode (base64Encode data) = some data := by
  induction data using base64Encode.induct with
  | case1 d0 d1 d2 rest ih =>
    have bound := d1.toNat_lt
    have bound' := d2.toNat_lt
    have first : UInt8.ofNat (4 * (d0.toNat / 4) + (d0.toNat % 4 * 16 + d1.toNat / 16) / 16) = d0 :=
      ofNat_byte (by omega)
    have second : UInt8.ofNat (16 * ((d0.toNat % 4 * 16 + d1.toNat / 16) % 16) +
        (d1.toNat % 16 * 4 + d2.toNat / 64) / 4) = d1 :=
      ofNat_byte (by omega)
    have third : UInt8.ofNat (64 * ((d1.toNat % 16 * 4 + d2.toNat / 64) % 4) + d2.toNat % 64) = d2 :=
      ofNat_byte (by omega)
    rw [base64Encode, base64Decode]
    simp only [(high_standsFor d0).value, (joined_standsFor d0 d1).value, (joined_standsFor' d1 d2).value,
      (low_standsFor d2).value, if_neg (joined_standsFor' d1 d2).plain, if_neg (low_standsFor d2).plain, ih,
      Option.bind_eq_bind, Option.bind_some, toBytes, List.map_cons, List.map_nil, first, second, third]
    rfl
  | case2 d0 d1 =>
    have bound := d1.toNat_lt
    have first : UInt8.ofNat (4 * (d0.toNat / 4) + (d0.toNat % 4 * 16 + d1.toNat / 16) / 16) = d0 :=
      ofNat_byte (by omega)
    have second : UInt8.ofNat (16 * ((d0.toNat % 4 * 16 + d1.toNat / 16) % 16) + d1.toNat % 16 * 4 / 4) = d1 :=
      ofNat_byte (by omega)
    have zero : d1.toNat % 16 * 4 % 4 = 0 := by omega
    rw [base64Encode, base64Decode]
    simp only [(high_standsFor d0).value, (joined_standsFor d0 d1).value, (middle_standsFor' d1).value,
      if_neg (middle_standsFor' d1).plain, Option.bind_eq_bind, Option.bind_some, if_true, zero, and_self, toBytes,
      List.map_cons, List.map_nil, first, second]
  | case3 d0 =>
    have first : UInt8.ofNat (4 * (d0.toNat / 4) + d0.toNat % 4 * 16 / 16) = d0 := ofNat_byte (by omega)
    have zero : d0.toNat % 4 * 16 % 16 = 0 := by omega
    rw [base64Encode, base64Decode]
    simp only [(high_standsFor d0).value, (middle_standsFor d0).value, Option.bind_eq_bind, Option.bind_some, if_true,
      zero, and_self, toBytes, List.map_cons, List.map_nil, first]
  | case4 => rfl

/-- Characters of the alphabet, with so many of padding behind them that the last group is full. -/
def Padded (data encoded : Bytes) : Prop :=
  ∃ body, encoded = body ++ List.replicate ((3 - data.length % 3) % 3) padding ∧ ∀ c ∈ body, c ∈ alphabet

theorem base64Encode_shape (data : Bytes) :
    (base64Encode data).length = 4 * ((data.length + 2) / 3) ∧ Padded data (base64Encode data) := by
  induction data using base64Encode.induct with
  | case1 d0 d1 d2 rest ih =>
    obtain ⟨length, body, shape, inside⟩ := ih
    rw [base64Encode]
    refine ⟨?_, [base64Char (d0 >>> 2), base64Char (((d0 &&& 3) <<< 4) ||| (d1 >>> 4)),
      base64Char (((d1 &&& 0x0F) <<< 2) ||| (d2 >>> 6)), base64Char (d2 &&& 0x3F)] ++ body, ?_, ?_⟩
    · simp only [List.length_cons]
      omega
    · simp only [List.length_cons, Nat.add_assoc, Nat.reduceAdd, Nat.add_mod_right]
      rw [shape, List.append_assoc]
      rfl
    · simp only [List.cons_append, List.nil_append, List.mem_cons, forall_eq_or_imp]
      exact ⟨(high_standsFor d0).member, (joined_standsFor d0 d1).member, (joined_standsFor' d1 d2).member,
        (low_standsFor d2).member, inside⟩
  | case2 d0 d1 =>
    rw [base64Encode]
    refine ⟨by simp, [base64Char (d0 >>> 2), base64Char (((d0 &&& 3) <<< 4) ||| (d1 >>> 4)),
      base64Char ((d1 &&& 0x0F) <<< 2)], rfl, ?_⟩
    simp only [List.mem_cons, forall_eq_or_imp, List.not_mem_nil, false_implies, implies_true, and_true]
    exact ⟨(high_standsFor d0).member, (joined_standsFor d0 d1).member, (middle_standsFor' d1).member⟩
  | case3 d0 =>
    rw [base64Encode]
    refine ⟨by simp, [base64Char (d0 >>> 2), base64Char ((d0 &&& 3) <<< 4)], rfl, ?_⟩
    simp only [List.mem_cons, forall_eq_or_imp, List.not_mem_nil, false_implies, implies_true, and_true]
    exact ⟨(high_standsFor d0).member, (middle_standsFor d0).member⟩
  | case4 => exact ⟨rfl, [], rfl, fun _ none => absurd none List.not_mem_nil⟩

theorem base64Encode_injective : Function.Injective base64Encode := by
  intro data other same
  have decoded := congrArg base64Decode same
  rw [base64Decode_encode, base64Decode_encode] at decoded
  exact Option.some.inj decoded

/-- Two keys are accepted alike only if their digests are the same. -/
theorem computeAcceptKey_eq_iff (sha1 : Bytes → Digest) (key other : Bytes) :
    computeAcceptKey sha1 key = computeAcceptKey sha1 other ↔
      sha1 (key ++ text "258EAFA5-E914-47DA-95CA-C5AB0DC85B11") =
        sha1 (other ++ text "258EAFA5-E914-47DA-95CA-C5AB0DC85B11") :=
  base64Encode_injective.eq_iff.trans Subtype.val_inj

/-- Below the range of its index the encoder returns, with groups of four characters of the alphabet and padding
in the last one, and the decoder gives the bytes back. -/
theorem base64Encode_exact (data : Bytes) (small : data.length < 2 ^ 31) :
    base64EncodeAt data = some (base64Encode data) ∧
    (base64Encode data).length = 4 * ((data.length + 2) / 3) ∧
    Padded data (base64Encode data) ∧
    base64Decode (base64Encode data) = some data ∧
    ∀ other : Bytes, other.length < 2 ^ 31 → base64EncodeAt other = base64EncodeAt data → other = data := by
  have shape := base64Encode_shape data
  refine ⟨base64EncodeAt_eq data small, shape.1, shape.2, base64Decode_encode data, ?_⟩
  intro other small' same
  rw [base64EncodeAt_eq data small, base64EncodeAt_eq other small'] at same
  exact base64Encode_injective (Option.some.inj same)

theorem base64Encode_exact_text :
    base64EncodeAt (text "Many") = some (base64Encode (text "Many")) ∧
    (base64Encode (text "Many")).length = 4 * (((text "Many").length + 2) / 3) ∧
    Padded (text "Many") (base64Encode (text "Many")) ∧
    base64Decode (base64Encode (text "Many")) = some (text "Many") ∧
    ∀ other : Bytes, other.length < 2 ^ 31 → base64EncodeAt other = base64EncodeAt (text "Many") →
        other = text "Many" :=
  base64Encode_exact (text "Many") (by decide)

end WebsocketClient.Base64s
