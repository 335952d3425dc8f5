import Mathlib.Data.List.GetD
import WebsocketClient.ByteString

/-! `impl/utils.cpp`: splitting and joining of token lists, percent signs, and base64. -/

namespace WebsocketClient.Utils
open ByteString

/-- The `getline` loop of `explode`. The bytes read since the last delimiter are
in `token`; nothing is extracted, and the loop ends, when the stream is exhausted. -/
def explodeFrom (delim : UInt8) : Bytes → Bytes → List Bytes
  | [], [] => []
  | token, [] => [token]
  | token, c :: rest =>
      if c = delim then token :: explodeFrom delim [] rest
      else explodeFrom delim (token ++ [c]) rest

def explode (str : Bytes) (delim : UInt8) : List Bytes := explodeFrom delim [] str

/-- Every token is written with a delimiter behind it, and the last byte is cut off. -/
def implode (tokens : List Bytes) (delim : UInt8) : Bytes :=
  (tokens.flatMap (fun token => token ++ [delim])).dropLast

def percent : UInt8 := 37

/-- `std::isxdigit` -/
def isHexDigit (c : UInt8) : Bool := isDigit c || (65 ≤ c && c ≤ 70) || (97 ≤ c && c ≤ 102)

def hexValue (c : UInt8) : UInt8 := if isDigit c then c - 48 else toLower c - 87

/-- A percent sign without two hexadecimal digits behind it is kept. -/
def urlDecode : Bytes → Bytes
  | [] => []
  | c :: high :: low :: rest =>
      if c = percent ∧ isHexDigit high = true ∧ isHexDigit low = true then
        (16 * hexValue high + hexValue low) :: urlDecode rest
      else c :: urlDecode (high :: low :: rest)
  | c :: rest => c :: urlDecode rest

def base64Table : Bytes :=
  text "ABCDEFGHIJKLMNOPQRSTUVWXYZabcdefghijklmnopqrstuvwxyz0123456789+/"

/-- `tab[index]`; the array ends with the terminating zero of the literal. -/
def base64Char (index : UInt8) : UInt8 := base64Table.getD index.toNat 0

def padding : UInt8 := 61

def base64Encode : Bytes → Bytes
  | d0 :: d1 :: d2 :: rest =>
      base64Char (d0 >>> 2) :: base64Char (((d0 &&& 3) <<< 4) ||| (d1 >>> 4)) ::
        base64Char (((d1 &&& 0x0F) <<< 2) ||| (d2 >>> 6)) :: base64Char (d2 &&& 0x3F) ::
        base64Encode rest
  | [d0, d1] =>
      [base64Char (d0 >>> 2), base64Char (((d0 &&& 3) <<< 4) ||| (d1 >>> 4)),
        base64Char ((d1 &&& 0x0F) <<< 2), padding]
  | [d0] => [base64Char (d0 >>> 2), base64Char ((d0 &&& 3) <<< 4), padding, padding]
  | [] => []

/-! ### Token lists -/

theorem explodeFrom_append (delim : UInt8) (read token rest : Bytes) (plain : delim ∉ token) :
    explodeFrom delim read (token ++ rest) = explodeFrom delim (read ++ token) rest := by
  induction token generalizing read with
  | nil => simp
  | cons c token ih =>
    have other : c ≠ delim := fun same => plain (by simp [same])
    have later : delim ∉ token := fun member => plain (by simp [member])
    rw [List.cons_append, explodeFrom.eq_def]
    simp only [if_neg other]
    rw [ih (read ++ [c]) later, List.append_assoc, List.singleton_append]

theorem explode_token (delim : UInt8) (token rest : Bytes) (plain : delim ∉ token) :
    explode (token ++ delim :: rest) delim = token :: explode rest delim := by
  rw [explode, explodeFrom_append delim [] token _ plain, List.nil_append, explodeFrom.eq_def]
  simp [explode]

theorem explode_last (delim : UInt8) (token : Bytes) (full : token ≠ []) (plain : delim ∉ token) :
    explode token delim = [token] := by
  have read := explodeFrom_append delim [] token [] plain
  rw [List.append_nil, List.nil_append] at read
  rw [explode, read]
  cases token with
  | nil => exact absurd rfl full
  | cons c token => rfl

theorem explodeFrom_plain (delim : UInt8) (read str : Bytes) (plain : delim ∉ read) :
    ∀ token ∈ explodeFrom delim read str, delim ∉ token := by
  induction str generalizing read with
  | nil =>
    intro token member
    cases read with
    | nil => cases member
    | cons c read =>
      rw [explodeFrom, List.mem_singleton] at member
      · rwa [member]
      · exact fun none => absurd none (by simp)
  | cons c str ih =>
    intro token member
    rw [explodeFrom.eq_def] at member
    by_cases ended : c = delim
    · simp only [if_pos ended, List.mem_cons] at member
      rcases member with rfl | later
      · exact plain
      · exact ih [] List.not_mem_nil token later
    · simp only [if_neg ended] at member
      apply ih (read ++ [c]) _ token member
      rw [List.mem_append, List.mem_singleton, not_or]
      exact ⟨plain, Ne.symm ended⟩

theorem explode_plain (delim : UInt8) (str : Bytes) : ∀ token ∈ explode str delim, delim ∉ token :=
  explodeFrom_plain delim [] str List.not_mem_nil

theorem implode_cons (delim : UInt8) (token next : Bytes) (tokens : List Bytes) :
    implode (token :: next :: tokens) delim = token ++ delim :: implode (next :: tokens) delim := by
  have full : (next :: tokens).flatMap (fun token => token ++ [delim]) ≠ [] := by simp
  rw [implode, List.flatMap_cons, List.dropLast_append_of_ne_nil full]
  simp [implode]

theorem implode_singleton (delim : UInt8) (token : Bytes) : implode [token] delim = token := by
  simp [implode]

theorem explode_implode (delim : UInt8) (tokens : List Bytes)
    (full : ∀ token ∈ tokens, token ≠ []) (plain : ∀ token ∈ tokens, delim ∉ token) :
    explode (implode tokens delim) delim = tokens := by
  induction tokens with
  | nil => rfl
  | cons token tokens ih =>
    cases tokens with
    | nil =>
      rw [implode_singleton]
      exact explode_last delim token (full token (by simp)) (plain token (by simp))
    | cons next tokens =>
      rw [implode_cons, explode_token delim token _ (plain token (by simp))]
      rw [ih (fun other member => full other (List.mem_cons_of_mem _ member))
        (fun other member => plain other (List.mem_cons_of_mem _ member))]

theorem mem_implode (delim : UInt8) (tokens : List Bytes) (c : UInt8)
    (member : c ∈ implode tokens delim) : c = delim ∨ ∃ token ∈ tokens, c ∈ token := by
  have written := List.dropLast_subset _ member
  obtain ⟨token, listed, inside⟩ := List.mem_flatMap.mp written
  rcases List.mem_append.mp inside with own | mark
  · exact Or.inr ⟨token, listed, own⟩
  · exact Or.inl (List.mem_singleton.mp mark)

/-! ### Percent signs -/

theorem urlDecode_cons {c : UInt8} (plain : c ≠ percent) (rest : Bytes) :
    urlDecode (c :: rest) = c :: urlDecode rest := by
  match rest with
  | [] => rw [urlDecode.eq_def]
  | [other] => rw [urlDecode.eq_def]
  | high :: low :: rest => rw [urlDecode, if_neg fun escape => plain escape.1]

theorem urlDecode_plain {str : Bytes} (plain : percent ∉ str) : urlDecode str = str := by
  induction str with
  | nil => rfl
  | cons c rest ih =>
    have other : c ≠ percent := fun same => plain (by simp [same])
    rw [urlDecode_cons other, ih fun member => plain (List.mem_cons_of_mem _ member)]

/-! ### Base64 -/

theorem base64Encode_all (p : UInt8 → Prop) (table : ∀ c ∈ base64Table, p c) (zero : p 0)
    (pad : p padding) (data : Bytes) : ∀ c ∈ base64Encode data, p c := by
  have char : ∀ index, p (base64Char index) := by
    intro index
    by_cases inside : index.toNat < base64Table.length
    · rw [base64Char, List.getD_eq_getElem _ _ inside]
      exact table _ (List.getElem_mem inside)
    · rw [base64Char, List.getD_eq_default _ _ (by omega)]
      exact zero
  induction data using base64Encode.induct with
  | case1 d0 d1 d2 rest ih =>
    simp only [base64Encode, List.mem_cons, forall_eq_or_imp]
    exact ⟨char _, char _, char _, char _, ih⟩
  | case2 d0 d1 => simp [base64Encode, char, pad]
  | case3 d0 => simp [base64Encode, char, pad]
  | case4 => simp [base64Encode]

end WebsocketClient.Utils
