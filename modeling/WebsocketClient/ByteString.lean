import Mathlib.Algebra.Ring.Nat
import Mathlib.Data.List.Basic

/-! Byte strings, and the few library functions of the classic locale that the
client applies to them. `std::string` and `binary` are both sequences of bytes. -/

namespace WebsocketClient.ByteString

abbrev Bytes := List UInt8

def text (literal : String) : Bytes := literal.toList.map (fun c => UInt8.ofNat c.toNat)

def lf : UInt8 := 10
def cr : UInt8 := 13
def space : UInt8 := 32
def comma : UInt8 := 44
def colon : UInt8 := 58

def isSpace (c : UInt8) : Bool := c == 32 || (9 ≤ c && c ≤ 13)
def isControl (c : UInt8) : Bool := c < 32 || c == 127
def isDigit (c : UInt8) : Bool := 48 ≤ c && c ≤ 57
def toLower (c : UInt8) : UInt8 := if 65 ≤ c && c ≤ 90 then c + 32 else c

/-- `[first, last)` of a buffer. -/
def range (buffer : Bytes) (first last : Nat) : Bytes := (buffer.take last).drop first

/-- `stream >> word`: leading white space is skipped, and the word ends before the
next white space. An exhausted stream leaves the word empty. -/
def extractWord (stream : Bytes) : Bytes × Bytes :=
  let start := stream.dropWhile isSpace
  (start.takeWhile (fun c => !isSpace c), start.dropWhile (fun c => !isSpace c))

def digitsValue (digits : Bytes) : Nat :=
  digits.foldl (fun value c => 10 * value + (c.toNat - 48)) 0

/-- `stream >> code` for an `unsigned int`. A minus sign negates modulo 2^32, a value
out of range is replaced by the largest one, and no digit at all gives zero. -/
def extractUnsigned (stream : Bytes) : Nat :=
  let start := stream.dropWhile isSpace
  let negative := start.head? == some 45
  let unsigned := if negative || start.head? == some 43 then start.tail else start
  let value := digitsValue (unsigned.takeWhile isDigit)
  if 2 ^ 32 ≤ value then 2 ^ 32 - 1
  else if negative then (2 ^ 32 - value) % 2 ^ 32
  else value

theorem extractWord_append (word rest : Bytes) (first : word ≠ [])
    (solid : ∀ c ∈ word, isSpace c = false)
    (stops : ∀ c, rest.head? = some c → isSpace c = true) :
    extractWord (word ++ rest) = (word, rest) := by
  have start : (word ++ rest).dropWhile isSpace = word ++ rest := by
    cases word with
    | nil => exact absurd rfl first
    | cons c word => simp [solid c (by simp)]
  have restTaken : rest.takeWhile (fun c => !isSpace c) = [] := by
    cases rest with
    | nil => rfl
    | cons c rest => simp [stops c rfl]
  have restDropped : rest.dropWhile (fun c => !isSpace c) = rest := by
    cases rest with
    | nil => rfl
    | cons c rest => simp [stops c rfl]
  have wordTaken : ∀ c ∈ word, (fun c => !isSpace c) c = true := by
    intro c member
    simp [solid c member]
  simp only [extractWord, start, List.takeWhile_append_of_pos wordTaken,
    List.dropWhile_append_of_pos wordTaken, restTaken, restDropped, List.append_nil]

theorem extractWord_skip (c : UInt8) (stream : Bytes) (blank : isSpace c = true) :
    extractWord (c :: stream) = extractWord stream := by
  simp [extractWord, blank]

end WebsocketClient.ByteString
