import Mathlib.Algebra.Ring.Int.Defs
import WebsocketClient.Utils

/-! `url_decode` with its index and its exceptions, and what it does with every percent sign of a string. -/

namespace WebsocketClient.UrlDecodes
open ByteString Utils

/-! ### The loop -/

inductive Thrown where
  | exception
  | invalidArgument
  | outOfRange
  deriving DecidableEq, Repr

def substr (str : Bytes) (pos count : Nat) : Except Thrown Bytes :=
  if str.length < pos then .error .outOfRange else .ok ((str.drop pos).take count)

/-- `0x` before a digit is part of a number. -/
def withoutPrefix : Bytes → Bytes
  | zero :: x :: c :: rest =>
      if zero = 48 ∧ (x = 120 ∨ x = 88) ∧ isHexDigit c = true then c :: rest else zero :: x :: c :: rest
  | str => str

def hexNumber (digits : Bytes) : Nat := digits.foldl (fun value c => 16 * value + (hexValue c).toNat) 0

/-- `std::stoi(str, nullptr, 16)`. White space and a sign are skipped, and what stands behind the digits is left
alone. -/
def stoi (str : Bytes) : Except Thrown Int :=
  let start := str.dropWhile isSpace
  let negative := start.head? == some 45
  let unsigned := if negative || start.head? == some 43 then start.tail else start
  let digits := (withoutPrefix unsigned).takeWhile isHexDigit
  let value : Int := if negative then -(hexNumber digits : Int) else hexNumber digits
  if digits = [] then .error .invalidArgument
  else if value < -2 ^ 31 ∨ 2 ^ 31 ≤ value then .error .outOfRange
  else .ok value

/-- `static_cast<char>(value)` -/
def toChar (value : Int) : UInt8 := UInt8.ofNat (value % 256).toNat

/-- What the `try` block makes of the two characters behind a percent sign. -/
def unescape : Bytes → Except Thrown UInt8
  | [high, low] => if isHexDigit high && isHexDigit low then (stoi [high, low]).map toChar else .error .exception
  | _ => .error .exception

/-- The loop of `url_decode`. It is `none` when the rounds do not suffice to end it. -/
def decodeFrom (str : Bytes) : Nat → Nat → Bytes → Option (Except Thrown Bytes)
  | 0, i, result => if i < str.length then none else some (.ok result)
  | rounds + 1, i, result =>
      match str[i]? with
      | none => some (.ok result)
      | some c =>
        if c = percent then
          match substr str (i + 1) 2 with
          | .error e => some (.error e)
          | .ok value =>
            match unescape value with
            | .error _ => decodeFrom str rounds (i + 1) (result ++ [c])
            | .ok c => decodeFrom str rounds (i + 1 + 2) (result ++ [c])
        else decodeFrom str rounds (i + 1) (result ++ [c])

def urlDecodeAt (str : Bytes) : Option (Except Thrown Bytes) := decodeFrom str str.length 0 []

/-! ### Two digits -/

def TwoDigits (str : Bytes) : Prop :=
  ∃ high low rest, str = high :: low :: rest ∧ isHexDigit high = true ∧ isHexDigit low = true

theorem isHexDigit_cases {c : UInt8} (digit : isHexDigit c = true) :
    (48 ≤ c.toNat ∧ c.toNat ≤ 57) ∨ (65 ≤ c.toNat ∧ c.toNat ≤ 70) ∨ (97 ≤ c.toNat ∧ c.toNat ≤ 102) := by
  unfold isHexDigit isDigit at digit
  simp only [Bool.or_eq_true, Bool.and_eq_true, decide_eq_true_eq, UInt8.le_iff_toNat_le, UInt8.reduceToNat] at digit
  omega

theorem isHexDigit_percent : isHexDigit percent = false := by decide

theorem hexValue_lt {c : UInt8} (digit : isHexDigit c = true) : (hexValue c).toNat < 16 := by
  have range := isHexDigit_cases digit
  unfold hexValue isDigit toLower
  split_ifs with decimal upper
  all_goals
    simp only [Bool.and_eq_true, decide_eq_true_eq, UInt8.le_iff_toNat_le, UInt8.reduceToNat] at *
    simp only [UInt8.toNat_sub, UInt8.toNat_add, UInt8.reduceToNat]
    omega

theorem takeWhile_digits {high low : UInt8} (first : isHexDigit high = true) (second : isHexDigit low = true) :
    [high, low].takeWhile isHexDigit = [high, low] := by
  rw [List.takeWhile_cons_of_pos first, List.takeWhile_cons_of_pos second, List.takeWhile_nil]

theorem unescape_digits {high low : UInt8} (first : isHexDigit high = true) (second : isHexDigit low = true) :
    unescape [high, low] = .ok (16 * hexValue high + hexValue low) := by
  have range := isHexDigit_cases first
  have solid : isSpace high = false := by
    unfold isSpace
    simp only [Bool.or_eq_false_iff, beq_eq_false_iff_ne, Bool.and_eq_false_iff, decide_eq_false_iff_not, ne_eq,
      ← UInt8.toNat_inj, UInt8.le_iff_toNat_le, UInt8.reduceToNat]
    omega
  have unsigned : (some high == some (45 : UInt8)) = false ∧ (some high == some (43 : UInt8)) = false := by
    simp only [beq_eq_false_iff_ne, ne_eq, Option.some.injEq, ← UInt8.toNat_inj, UInt8.reduceToNat]
    omega
  have small := hexValue_lt first
  have small' := hexValue_lt second
  have number : stoi [high, low] = .ok (16 * (hexValue high).toNat + (hexValue low).toNat : Nat) := by
    unfold stoi
    simp only [List.dropWhile_cons_of_neg (by simp [solid] : ¬isSpace high = true), List.head?_cons, unsigned,
      Bool.or_self, Bool.false_eq_true, if_false, withoutPrefix, takeWhile_digits first second, hexNumber,
      List.foldl_cons, List.foldl_nil, Nat.mul_zero, Nat.zero_add, reduceCtorEq]
    rw [if_neg (by omega)]
  rw [unescape, first, second, number]
  simp only [Bool.and_self, if_true, Except.map, toChar, Except.ok.injEq]
  rw [← UInt8.toNat_inj, UInt8.toNat_ofNat', UInt8.toNat_add, UInt8.toNat_mul]
  simp only [UInt8.reduceToNat]
  omega

theorem unescape_other {str : Bytes} (other : ¬TwoDigits str) : unescape (str.take 2) = .error .exception := by
  match str with
  | [] => rfl
  | [_] => rfl
  | high :: low :: rest =>
    rw [List.take_succ_cons, List.take_succ_cons, List.take_zero, unescape, if_neg]
    rw [Bool.and_eq_true]
    exact fun digits => other ⟨high, low, rest, rfl, digits⟩

theorem urlDecode_escape {high low : UInt8} (first : isHexDigit high = true) (second : isHexDigit low = true)
    (rest : Bytes) :
    urlDecode (percent :: high :: low :: rest) = (16 * hexValue high + hexValue low) :: urlDecode rest := by
  rw [urlDecode, if_pos ⟨rfl, first, second⟩]

theorem urlDecode_malformed {rest : Bytes} (other : ¬TwoDigits rest) :
    urlDecode (percent :: rest) = percent :: urlDecode rest := by
  match rest with
  | [] => rfl
  | [_] => rfl
  | high :: low :: rest =>
    rw [urlDecode, if_neg]
    exact fun digits => other ⟨high, low, rest, rfl, digits.2⟩

/-! ### What the loop computes -/

theorem decodeFrom_eq (str : Bytes) (rounds i : Nat) (result : Bytes) (enough : str.length - i ≤ rounds) :
    decodeFrom str rounds i result = some (.ok (result ++ urlDecode (str.drop i))) := by
  induction rounds generalizing i result with
  | zero =>
    have beyond : str.length ≤ i := by omega
    rw [decodeFrom, if_neg (by omega), List.drop_eq_nil_of_le beyond, urlDecode, List.append_nil]
  | succ rounds ih =>
    rw [decodeFrom]
    rcases Nat.lt_or_ge i str.length with inside | beyond
    · have tail := List.drop_eq_getElem_cons inside
      rw [List.getElem?_eq_getElem inside]
      simp only
      by_cases sign : str[i] = percent
      · have within : ¬str.length < i + 1 := by omega
        rw [if_pos sign, substr, if_neg within, tail, sign]
        simp only
        by_cases digits : TwoDigits (str.drop (i + 1))
        · obtain ⟨high, low, rest, shape, first, second⟩ := digits
          have behind : str.drop (i + 1 + 2) = rest := by
            rw [← List.drop_drop, shape]
            rfl
          rw [shape, List.take_succ_cons, List.take_succ_cons, List.take_zero, unescape_digits first second]
          simp only
          rw [ih (i + 1 + 2) _ (by omega), behind, urlDecode_escape first second, List.append_assoc,
            List.singleton_append]
        · rw [unescape_other digits]
          simp only
          rw [ih (i + 1) _ (by omega), urlDecode_malformed digits, List.append_assoc, List.singleton_append]
      · rw [if_neg sign, ih (i + 1) _ (by omega), tail, urlDecode_cons sign, List.append_assoc,
          List.singleton_append]
    · rw [List.getElem?_eq_none beyond, List.drop_eq_nil_of_le beyond, urlDecode, List.append_nil]

theorem urlDecodeAt_eq (str : Bytes) : urlDecodeAt str = some (.ok (urlDecode str)) :=
  decodeFrom_eq str _ 0 [] (Nat.le_refl _)

/-! ### Encodings -/

def hexDigit (upper : Bool) (value : Nat) : UInt8 :=
  (if upper then text "0123456789ABCDEF" else text "0123456789abcdef").getD value 0

/-- A percent-encoding of a string. -/
inductive Encodes : Bytes → Bytes → Prop where
  | nil : Encodes [] []
  | plain {c : UInt8} {s e : Bytes} : c ≠ percent → Encodes s e → Encodes (c :: s) (c :: e)
  | escaped (c : UInt8) (upperHigh upperLow : Bool) {s e : Bytes} : Encodes s e →
      Encodes (c :: s) (percent :: hexDigit upperHigh (c.toNat / 16) :: hexDigit upperLow (c.toNat % 16) :: e)

theorem hexDigit_value (upper : Bool) {value : Nat} (small : value < 16) :
    isHexDigit (hexDigit upper value) = true ∧ hexValue (hexDigit upper value) = UInt8.ofNat value := by
  have all : ∀ upper, ∀ value : Fin 16, isHexDigit (hexDigit upper value) = true ∧
      hexValue (hexDigit upper value) = UInt8.ofNat value := by decide +kernel
  exact all upper ⟨value, small⟩

theorem Encodes.decode {s e : Bytes} (encodes : Encodes s e) : urlDecode e = s := by
  induction encodes with
  | nil => rfl
  | plain other _ ih => rw [urlDecode_cons other, ih]
  | escaped c upperHigh upperLow _ ih =>
    have bound : c.toNat < 256 := c.toNat_lt
    have small : c.toNat / 16 < 16 ∧ c.toNat % 16 < 16 := by omega
    have high := hexDigit_value upperHigh small.1
    have low := hexDigit_value upperLow small.2
    have whole : 16 * UInt8.ofNat (c.toNat / 16) + UInt8.ofNat (c.toNat % 16) = c := by
      rw [← UInt8.toNat_inj, UInt8.toNat_add, UInt8.toNat_mul, UInt8.toNat_ofNat', UInt8.toNat_ofNat']
      simp only [UInt8.reduceToNat]
      omega
    rw [urlDecode_escape high.1 low.1, high.2, low.2, whole, ih]

/-! ### Every percent sign -/

theorem urlDecode_append_percent (before rest : Bytes) :
    urlDecode (before ++ percent :: rest) = urlDecode before ++ urlDecode (percent :: rest) := by
  have unfinished (str : Bytes) (other : ¬TwoDigits str) : ¬TwoDigits (str ++ percent :: rest) := by
    intro escape
    obtain ⟨high, low, behind, shape, first, second⟩ := escape
    match str with
    | [] =>
      rw [(List.cons.inj shape).1.symm, isHexDigit_percent] at first
      cases first
    | [c] =>
      rw [(List.cons.inj (List.cons.inj shape).2).1.symm, isHexDigit_percent] at second
      cases second
    | c :: d :: str =>
      obtain ⟨rfl, tail⟩ := List.cons.inj shape
      obtain ⟨rfl, _⟩ := List.cons.inj tail
      exact other ⟨c, d, str, rfl, first, second⟩
  induction size : before.length using Nat.strongRecOn generalizing before with
  | ind length ih =>
    cases before with
    | nil => rfl
    | cons c before =>
      subst size
      have one := ih before.length (by simp) before rfl
      rw [List.cons_append]
      by_cases sign : c = percent
      · subst sign
        by_cases digits : TwoDigits before
        · obtain ⟨high, low, behind, rfl, first, second⟩ := digits
          have two := ih behind.length (by simp only [List.length_cons]; omega) behind rfl
          rw [List.cons_append, List.cons_append, urlDecode_escape first second, urlDecode_escape first second, two,
            List.cons_append]
        · rw [urlDecode_malformed digits, urlDecode_malformed (unfinished before digits), one, List.cons_append]
      · rw [urlDecode_cons sign, urlDecode_cons sign, one, List.cons_append]

/-- The loop ends without an exception and decodes every encoding. Wherever a percent sign stands, it is kept or
begins an escape by what is behind it alone, and what is behind that is decoded as if it stood by itself. -/
theorem urlDecode_exact (str : Bytes) :
    urlDecodeAt str = some (.ok (urlDecode str)) ∧
    (∀ s, Encodes s str → urlDecode str = s) ∧
    (∀ before rest, str = before ++ percent :: rest → ¬TwoDigits rest →
      urlDecode str = urlDecode before ++ percent :: urlDecode rest) ∧
    ∀ before high low rest, str = before ++ percent :: high :: low :: rest →
      isHexDigit high = true → isHexDigit low = true →
      urlDecode str = urlDecode before ++ (16 * hexValue high + hexValue low) :: urlDecode rest := by
  refine ⟨urlDecodeAt_eq str, fun s encodes => encodes.decode, ?_, ?_⟩
  · rintro before rest rfl other
    rw [urlDecode_append_percent, urlDecode_malformed other]
  · rintro before high low rest rfl first second
    rw [urlDecode_append_percent, urlDecode_escape first second]

example : urlDecode (text "%41%4%61%%2562%") = text "A%4a%%62%" := by decide

end WebsocketClient.UrlDecodes
