import WebsocketClient.ByteString
import Mathlib.Data.List.Basic

/-! `impl/http.cpp`: the head of an HTTP message. The scanning loop is kept with its
positions in the buffer; `Head` says what it computes without them. -/

namespace WebsocketClient.Http
open ByteString

def isHttpRequestFrom : Nat → Bytes → Bool
  | _, [] => true
  | i, c :: rest =>
      if 0 < i ∧ c = space then true
      else if 8 ≤ i ∨ c < 65 ∨ 90 < c then false
      else isHttpRequestFrom (i + 1) rest

def isHttpRequest (buffer : Bytes) : Bool := isHttpRequestFrom 0 buffer

/-- `std::find(cur, end, '\n')`. -/
def findLf (buffer : Bytes) (cur : Nat) : Nat := cur + (buffer.drop cur).findIdx (· == lf)

/-- The loop of `parseHttpLines`. Each round ends behind a line feed, so the size of the
buffer bounds the number of rounds. -/
def parseHttpLinesFrom (buffer : Bytes) : Nat → Nat → List Bytes → Nat × List Bytes
  | 0, _, lines => (0, lines)
  | rounds + 1, last, lines =>
      let cur := findLf buffer last
      if cur = buffer.length then (0, lines)
      else
        let lineEnd := if cur ≠ 0 ∧ buffer[cur - 1]? = some cr then cur - 1 else cur
        let line := range buffer last lineEnd
        if line = [] then (cur + 1, lines)
        else parseHttpLinesFrom buffer rounds (cur + 1) (lines ++ [line])

/-- The length of the head, zero while it is incomplete, and its lines. -/
def parseHttpLines (buffer : Bytes) : Nat × List Bytes :=
  parseHttpLinesFrom buffer (buffer.length + 1) 0 []

/-- The multimap of headers, equal names in the order of insertion. -/
abbrev Headers := List (Bytes × Bytes)

def parseHttpHeader (line : Bytes) : Bytes × Bytes :=
  if colon ∈ line then
    let key := line.takeWhile (fun c => c != colon)
    let value := (line.drop (key.length + 1)).dropWhile (fun c => c == space)
    (key.map toLower, value)
  else (line, [])

def parseHttpHeaders (lines : List Bytes) : Headers := lines.map parseHttpHeader

/-- `headers.find(name)`: the first header inserted under the name. -/
def find (headers : Headers) (name : Bytes) : Option Bytes :=
  (headers.find? (fun header => header.1 == name)).map Prod.snd

theorem parseHttpHeader_field (key rest : Bytes) (plain : colon ∉ key) :
    parseHttpHeader (key ++ colon :: rest) = (key.map toLower, rest.dropWhile (fun c => c == space)) := by
  have before : (key ++ colon :: rest).takeWhile (fun c => c != colon) = key := by
    rw [List.takeWhile_append_of_pos]
    · simp
    · intro c member
      simp only [bne_iff_ne, ne_eq]
      exact fun same => plain (same ▸ member)
  have behind : (key ++ colon :: rest).drop (key.length + 1) = rest := by
    rw [← List.drop_drop, List.drop_left]
    rfl
  rw [parseHttpHeader, if_pos (by simp)]
  simp only [before, behind]

/-! ### What the scanning loop computes -/

def chomp (line : Bytes) : Bytes := if line.getLast? = some cr then line.dropLast else line

/-- The stream starts with a complete head made of `lines`, and `after` follows it. -/
inductive Head : Bytes → List Bytes → Bytes → Prop where
  | stop {line after : Bytes} : lf ∉ line → chomp line = [] → Head (line ++ lf :: after) [] after
  | more {line rest after : Bytes} {lines : List Bytes} : lf ∉ line → chomp line ≠ [] →
      Head rest lines after → Head (line ++ lf :: rest) (chomp line :: lines) after

theorem Head.replace {stream after : Bytes} {lines : List Bytes} (head : Head stream lines after) :
    ∃ before, stream = before ++ after ∧ ∀ other, Head (before ++ other) lines other := by
  induction head with
  | @stop line after plain empty =>
    refine ⟨line ++ [lf], by simp, fun other => ?_⟩
    rw [List.append_assoc, List.singleton_append]
    exact .stop plain empty
  | @more line rest after lines plain full inner ih =>
    obtain ⟨before, rfl, any⟩ := ih
    refine ⟨line ++ lf :: before, by simp, fun other => ?_⟩
    rw [List.append_assoc, List.cons_append]
    exact .more plain full (any other)

theorem Head.append {stream after : Bytes} {lines : List Bytes} (head : Head stream lines after)
    (later : Bytes) : Head (stream ++ later) lines (after ++ later) := by
  obtain ⟨before, rfl, any⟩ := head.replace
  rw [List.append_assoc]
  exact any (after ++ later)

theorem Head.eq_append {stream after : Bytes} {lines : List Bytes} (head : Head stream lines after) :
    ∃ before, stream = before ++ lf :: after := by
  induction head with
  | stop plain empty => exact ⟨_, rfl⟩
  | @more line rest after lines plain full inner ih =>
    obtain ⟨before, same⟩ := ih
    exact ⟨line ++ lf :: before, by rw [same]; simp⟩

theorem Head.length_lt {stream after : Bytes} {lines : List Bytes} (head : Head stream lines after) :
    after.length < stream.length := by
  obtain ⟨before, same⟩ := head.eq_append
  rw [same, List.length_append, List.length_cons]
  omega

theorem Head.not_nil (lines : List Bytes) (after : Bytes) : ¬Head [] lines after :=
  fun head => absurd head.length_lt (Nat.not_lt_zero _)

theorem Head.drop {stream after : Bytes} {lines : List Bytes} (head : Head stream lines after) :
    stream.drop (stream.length - after.length) = after := by
  obtain ⟨before, same⟩ := head.eq_append
  have size : stream.length - after.length = (before ++ [lf]).length := by
    simp only [same, List.length_append, List.length_cons, List.length_nil]
    omega
  have shape : stream = (before ++ [lf]) ++ after := by simp [same]
  rw [size, shape, List.drop_left]

theorem findIdx_lf (line rest : Bytes) (plain : lf ∉ line) :
    (line ++ lf :: rest).findIdx (· == lf) = line.length := by
  induction line with
  | nil => simp [List.findIdx_cons]
  | cons c line ih =>
    have other : (c == lf) = false := beq_eq_false_iff_ne.mpr (fun same => plain (by simp [same]))
    have later : lf ∉ line := fun member => plain (by simp [member])
    simp [List.findIdx_cons, other, ih later]

theorem findLf_line (before line rest : Bytes) (plain : lf ∉ line) :
    findLf (before ++ (line ++ lf :: rest)) before.length = (before ++ line).length := by
  rw [findLf, List.drop_left, findIdx_lf line rest plain, List.length_append]

theorem findLf_none (before rest : Bytes) (plain : lf ∉ rest) :
    findLf (before ++ rest) before.length = (before ++ rest).length := by
  have missing : rest.findIdx (· == lf) = rest.length := by
    apply List.findIdx_eq_length_of_false
    intro c member
    simp only [beq_eq_false_iff_ne]
    exact fun same => plain (same ▸ member)
  rw [findLf, List.drop_left, missing, List.length_append]

/-- The position before a line feed holds the last byte of its line. For an empty line it
holds the line feed before, so no range ends before it starts. -/
theorem range_eq_chomp (before line rest : Bytes)
    (boundary : before = [] ∨ before.getLast? = some lf) :
    range (before ++ (line ++ lf :: rest)) before.length
      (if (before ++ line).length ≠ 0 ∧
          (before ++ (line ++ lf :: rest))[(before ++ line).length - 1]? = some cr
        then (before ++ line).length - 1 else (before ++ line).length) = chomp line := by
  have previous : (before ++ line).length ≠ 0 →
      (before ++ (line ++ lf :: rest))[(before ++ line).length - 1]? = (before ++ line).getLast? := by
    intro positive
    rw [List.getLast?_eq_getElem?, ← List.append_assoc, List.getElem?_append_left (by omega)]
  have last : (before ++ line).getLast? = some cr ↔ line.getLast? = some cr := by
    rcases List.eq_nil_or_concat line with rfl | ⟨start, c, rfl⟩
    · rcases boundary with rfl | ends
      · simp
      · simp [ends, lf, cr]
    · simp
  have shape : before ++ (line ++ lf :: rest) = (before ++ line) ++ lf :: rest := by simp
  by_cases ending : line.getLast? = some cr
  · have full : line ≠ [] := by rintro rfl; simp at ending
    have positive : (before ++ line).length ≠ 0 := by
      have := List.length_pos_iff.mpr full
      simp only [List.length_append]
      omega
    rw [if_pos ⟨positive, (previous positive).trans (last.mpr ending)⟩, chomp, if_pos ending, range,
      shape, List.take_append_of_le_length (by omega), ← List.dropLast_eq_take,
      List.dropLast_append_of_ne_nil full, List.drop_left]
  · have missing : ¬((before ++ line).length ≠ 0 ∧
        (before ++ (line ++ lf :: rest))[(before ++ line).length - 1]? = some cr) := by
      rintro ⟨positive, found⟩
      exact ending (last.mp ((previous positive).symm.trans found))
    rw [if_neg missing, chomp, if_neg ending, range, shape, List.take_left, List.drop_left]

theorem parseHttpLinesFrom_line (before line rest : Bytes) (rounds : Nat) (lines : List Bytes)
    (boundary : before = [] ∨ before.getLast? = some lf) (plain : lf ∉ line) :
    parseHttpLinesFrom (before ++ (line ++ lf :: rest)) (rounds + 1) before.length lines =
      if chomp line = [] then ((before ++ line).length + 1, lines)
      else parseHttpLinesFrom (before ++ (line ++ lf :: rest)) rounds ((before ++ line).length + 1)
        (lines ++ [chomp line]) := by
  have inside : (before ++ line).length ≠ (before ++ (line ++ lf :: rest)).length := by
    simp only [List.length_append, List.length_cons]
    omega
  rw [parseHttpLinesFrom, findLf_line before line rest plain]
  simp only [if_neg inside, range_eq_chomp before line rest boundary]

theorem parseHttpLinesFrom_head {stream after : Bytes} {found : List Bytes}
    (head : Head stream found after) (before : Bytes) (rounds : Nat) (lines : List Bytes)
    (boundary : before = [] ∨ before.getLast? = some lf) (enough : stream.length < rounds) :
    parseHttpLinesFrom (before ++ stream) rounds before.length lines =
      ((before ++ stream).length - after.length, lines ++ found) := by
  induction head generalizing before rounds lines with
  | @stop line after plain empty =>
    obtain ⟨rounds, rfl⟩ : ∃ r, rounds = r + 1 := ⟨rounds - 1, by omega⟩
    rw [parseHttpLinesFrom_line before line after rounds lines boundary plain, if_pos empty]
    simp only [List.length_append, List.length_cons, List.append_nil, Prod.mk.injEq, and_true]
    omega
  | @more line rest after found plain full inner ih =>
    obtain ⟨rounds, rfl⟩ : ∃ r, rounds = r + 1 := ⟨rounds - 1, by omega⟩
    rw [parseHttpLinesFrom_line before line rest rounds lines boundary plain, if_neg full]
    have shape : before ++ (line ++ lf :: rest) = (before ++ line ++ [lf]) ++ rest := by simp
    have size : (before ++ line).length + 1 = (before ++ line ++ [lf]).length := by
      simp [Nat.add_assoc]
    have left : rest.length < rounds := by
      simp only [List.length_append, List.length_cons] at enough
      omega
    rw [shape, size, ih (before ++ line ++ [lf]) rounds _ (Or.inr (by simp)) left]
    simp

theorem parseHttpLinesFrom_partial (stream before : Bytes) (rounds : Nat) (lines : List Bytes)
    (boundary : before = [] ∨ before.getLast? = some lf)
    (incomplete : ∀ found after, ¬Head stream found after) :
    (parseHttpLinesFrom (before ++ stream) rounds before.length lines).1 = 0 := by
  induction rounds generalizing stream before lines with
  | zero => rfl
  | succ rounds ih =>
    by_cases feed : lf ∈ stream
    · obtain ⟨line, rest, rfl, plain⟩ := List.eq_append_cons_of_mem feed
      rw [parseHttpLinesFrom_line before line rest rounds lines boundary plain]
      by_cases empty : chomp line = []
      · exact absurd (Head.stop plain empty) (incomplete [] rest)
      · have shape : before ++ (line ++ lf :: rest) = (before ++ line ++ [lf]) ++ rest := by simp
        have size : (before ++ line).length + 1 = (before ++ line ++ [lf]).length := by
          simp [Nat.add_assoc]
        rw [if_neg empty, shape, size]
        exact ih rest (before ++ line ++ [lf]) _ (Or.inr (by simp))
          (fun found after head => incomplete _ _ (Head.more plain empty head))
    · rw [parseHttpLinesFrom, findLf_none before stream feed]
      simp

theorem parseHttpLines_head {stream after : Bytes} {lines : List Bytes}
    (head : Head stream lines after) :
    parseHttpLines stream = (stream.length - after.length, lines) := by
  have run := parseHttpLinesFrom_head head [] (stream.length + 1) [] (Or.inl rfl) (by omega)
  simp only [List.nil_append, List.length_nil] at run
  exact run

theorem parseHttpLines_zero_iff (stream : Bytes) :
    (parseHttpLines stream).1 = 0 ↔ ∀ lines after, ¬Head stream lines after := by
  constructor
  · intro zero lines after head
    have size := head.length_lt
    rw [parseHttpLines_head head] at zero
    simp only at zero
    omega
  · intro incomplete
    exact parseHttpLinesFrom_partial stream [] (stream.length + 1) [] (Or.inl rfl) incomplete

theorem Head.unique {stream after after' : Bytes} {lines lines' : List Bytes} (head : Head stream lines after)
    (head' : Head stream lines' after') : lines = lines' ∧ after = after' := by
  have same := (parseHttpLines_head head).symm.trans (parseHttpLines_head head')
  obtain ⟨length, lines⟩ := Prod.mk.inj same
  refine ⟨lines, ?_⟩
  calc after = stream.drop (stream.length - after.length) := head.drop.symm
    _ = stream.drop (stream.length - after'.length) := by rw [length]
    _ = after' := head'.drop

theorem chomp_plain {line : Bytes} (plain : lf ∉ line) : lf ∉ chomp line := by
  unfold chomp
  split
  · exact fun member => plain (List.dropLast_subset _ member)
  · exact plain

theorem Head.plain {stream after : Bytes} {lines : List Bytes} (head : Head stream lines after) :
    ∀ line ∈ lines, lf ∉ line := by
  induction head with
  | stop => exact fun _ member => absurd member List.not_mem_nil
  | more plain full inner ih =>
    intro line member
    rcases List.mem_cons.mp member with rfl | later
    · exact chomp_plain plain
    · exact ih line later

theorem parseHttpLines_plain {stream : Bytes} (found : (parseHttpLines stream).1 ≠ 0) :
    ∀ line ∈ (parseHttpLines stream).2, lf ∉ line := by
  rw [ne_eq, parseHttpLines_zero_iff] at found
  simp only [not_forall, not_not] at found
  obtain ⟨lines, after, head⟩ := found
  rw [parseHttpLines_head head]
  exact head.plain

/-! ### The method check -/

theorem isHttpRequestFrom_append_false (i : Nat) (buffer later : Bytes)
    (invalid : isHttpRequestFrom i buffer = false) : isHttpRequestFrom i (buffer ++ later) = false := by
  induction buffer generalizing i with
  | nil => simp [isHttpRequestFrom] at invalid
  | cons c buffer ih =>
    rw [List.cons_append, isHttpRequestFrom]
    rw [isHttpRequestFrom] at invalid
    split_ifs at invalid ⊢ with ended wrong
    · rfl
    · exact ih _ invalid

/-- An accepted buffer with a line feed in it has its space before, so what follows the
buffer is not looked at. -/
theorem isHttpRequestFrom_append_true (i : Nat) (buffer later : Bytes) (feed : lf ∈ buffer)
    (valid : isHttpRequestFrom i buffer = true) : isHttpRequestFrom i (buffer ++ later) = true := by
  induction buffer generalizing i with
  | nil => simp at feed
  | cons c buffer ih =>
    rw [List.cons_append, isHttpRequestFrom]
    rw [isHttpRequestFrom] at valid
    split_ifs at valid ⊢ with ended wrong
    · rfl
    · rcases List.mem_cons.mp feed with first | rest
      · subst first
        exact absurd (Or.inr (Or.inl (by decide))) wrong
      · exact ih _ rest valid

theorem isHttpRequest_append_false (buffer later : Bytes) (invalid : isHttpRequest buffer = false) :
    isHttpRequest (buffer ++ later) = false :=
  isHttpRequestFrom_append_false 0 buffer later invalid

theorem isHttpRequest_append_head {buffer after : Bytes} {lines : List Bytes}
    (head : Head buffer lines after) (later : Bytes) :
    isHttpRequest (buffer ++ later) = isHttpRequest buffer := by
  have feed : lf ∈ buffer := by
    obtain ⟨before, same⟩ := head.eq_append
    simp [same]
  cases valid : isHttpRequest buffer with
  | true => exact isHttpRequestFrom_append_true 0 buffer later feed valid
  | false => exact isHttpRequest_append_false buffer later valid

end WebsocketClient.Http
