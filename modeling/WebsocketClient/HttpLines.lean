import WebsocketClient.Http

/-! `parseHttpLines` with its cursors, where a range that ends before it starts is an error, and what it
finds said on the positions of the buffer. What is behind the first empty line is not looked at. -/

namespace WebsocketClient.HttpLines
open ByteString Http

/-! ### The loop with its ranges checked -/

/-- `string(first, last)` of a buffer. -/
def rangeAt (buffer : Bytes) (first last : Nat) : Option Bytes :=
  if first ≤ last ∧ last ≤ buffer.length then some (range buffer first last) else none

/-- `none` stands for a range that is none, and for rounds that do not suffice to end the loop. -/
def linesAt (buffer : Bytes) : Nat → Nat → List Bytes → Option (Nat × List Bytes)
  | 0, _, _ => none
  | rounds + 1, last, lines =>
      let cur := findLf buffer last
      if cur = buffer.length then some (0, lines)
      else do
        let lineEnd := if cur ≠ 0 ∧ buffer[cur - 1]? = some cr then cur - 1 else cur
        let line ← rangeAt buffer last lineEnd
        if line = [] then some (cur + 1, lines) else linesAt buffer rounds (cur + 1) (lines ++ [line])

def parseHttpLinesAt (buffer : Bytes) : Option (Nat × List Bytes) := linesAt buffer (buffer.length + 1) 0 []

theorem findLf_ge (buffer : Bytes) (last : Nat) : last ≤ findLf buffer last := Nat.le_add_right _ _

theorem findLf_le {buffer : Bytes} {last : Nat} (inside : last ≤ buffer.length) :
    findLf buffer last ≤ buffer.length := by
  have bound : (buffer.drop last).findIdx (· == lf) ≤ (buffer.drop last).length := List.findIdx_le_length
  rw [List.length_drop] at bound
  unfold findLf
  omega

theorem findLf_found {buffer : Bytes} {last : Nat} (inside : last ≤ buffer.length)
    (found : findLf buffer last ≠ buffer.length) : buffer[findLf buffer last]? = some lf := by
  have bound := findLf_le inside
  have before : (buffer.drop last).findIdx (· == lf) < (buffer.drop last).length := by
    rw [List.length_drop]
    unfold findLf at found bound
    omega
  have feed := List.findIdx_getElem (w := before)
  have here : (buffer.drop last)[(buffer.drop last).findIdx (· == lf)]? = some lf := by
    rw [List.getElem?_eq_getElem before]
    exact congrArg some (beq_iff_eq.mp feed)
  rwa [List.getElem?_drop] at here

theorem le_lineEnd {buffer : Bytes} {last cur : Nat} (start : last = 0 ∨ buffer[last - 1]? = some lf)
    (behind : last ≤ cur) (back : cur ≠ 0 ∧ buffer[cur - 1]? = some cr) : last ≤ cur - 1 := by
  rcases Nat.lt_or_eq_of_le behind with less | same
  · omega
  · subst same
    rcases start with zero | feed
    · exact absurd zero back.1
    · exact absurd (Option.some.inj (feed.symm.trans back.2)) (by decide)

theorem linesAt_eq (buffer : Bytes) (rounds last : Nat) (lines : List Bytes) (inside : last ≤ buffer.length)
    (start : last = 0 ∨ buffer[last - 1]? = some lf) (enough : buffer.length - last < rounds) :
    linesAt buffer rounds last lines = some (parseHttpLinesFrom buffer rounds last lines) := by
  induction rounds generalizing last lines with
  | zero => omega
  | succ rounds ih =>
    rw [linesAt, parseHttpLinesFrom]
    have behind := findLf_ge buffer last
    have bound := findLf_le inside
    by_cases beyond : findLf buffer last = buffer.length
    · simp only [if_pos beyond]
    · have feed := findLf_found inside beyond
      have ordered : last ≤ (if findLf buffer last ≠ 0 ∧ buffer[findLf buffer last - 1]? = some cr then
          findLf buffer last - 1 else findLf buffer last) := by
        split_ifs with back
        · exact le_lineEnd start behind back
        · exact behind
      have within : (if findLf buffer last ≠ 0 ∧ buffer[findLf buffer last - 1]? = some cr then
          findLf buffer last - 1 else findLf buffer last) ≤ buffer.length := by
        split_ifs <;> omega
      simp only [if_neg beyond]
      generalize (if findLf buffer last ≠ 0 ∧ buffer[findLf buffer last - 1]? = some cr then
          findLf buffer last - 1 else findLf buffer last) = lineEnd at ordered within ⊢
      rw [rangeAt, if_pos ⟨ordered, within⟩, Option.bind_eq_bind, Option.bind_some]
      split_ifs
      · rfl
      · exact ih _ _ (by omega) (.inr feed) (by omega)

theorem parseHttpLinesAt_eq (buffer : Bytes) : parseHttpLinesAt buffer = some (parseHttpLines buffer) :=
  linesAt_eq buffer _ 0 [] (Nat.zero_le _) (.inl rfl) (by omega)

/-! ### Empty lines -/

def LineStart (buffer : Bytes) (start : Nat) : Prop := start = 0 ∨ buffer[start - 1]? = some lf

/-- A line feed at the start of a line, with one carriage return before it or none; `next` is behind it. -/
inductive EmptyLine (buffer : Bytes) : (start next : Nat) → Prop where
  | lf {start : Nat} : LineStart buffer start → buffer[start]? = some lf → EmptyLine buffer start (start + 1)
  | crlf {start : Nat} : LineStart buffer start → buffer[start]? = some cr → buffer[start + 1]? = some lf →
      EmptyLine buffer start (start + 2)

structure FirstEmptyLine (buffer : Bytes) (start next : Nat) : Prop where
  empty : EmptyLine buffer start next
  first : ∀ earlier < start, ∀ other, ¬EmptyLine buffer earlier other

/-- A text consists of lines with line feeds behind them, which are listed without a carriage return at the end. -/
def Lines (stream : Bytes) (lines : List Bytes) : Prop :=
  ∃ whole : List Bytes, (∀ line ∈ whole, lf ∉ line) ∧ stream = whole.flatMap (fun line => line ++ [lf]) ∧
    lines = whole.map chomp

theorem chomp_eq_nil_iff (line : Bytes) : chomp line = [] ↔ line = [] ∨ line = [cr] := by
  unfold chomp
  rcases List.eq_nil_or_concat line with rfl | ⟨start, c, rfl⟩
  · simp
  · rw [List.concat_eq_append, List.getLast?_concat, List.dropLast_concat]
    by_cases ends : c = cr
    · subst ends
      rw [if_pos rfl, List.append_eq_singleton_iff]
      simp
    · rw [if_neg fun same => ends (Option.some.inj same), List.append_eq_singleton_iff]
      simp [ends]

section
variable {line rest : Bytes}

theorem getElem?_behind (line rest : Bytes) (i : Nat) : (line ++ lf :: rest)[line.length + 1 + i]? = rest[i]? := by
  rw [List.getElem?_append_right (by omega), show line.length + 1 + i - line.length = i + 1 by omega,
    List.getElem?_cons_succ]

theorem lineStart_behind (line rest : Bytes) (start : Nat) :
    LineStart (line ++ lf :: rest) (line.length + 1 + start) ↔ LineStart rest start := by
  unfold LineStart
  cases start with
  | zero => simp
  | succ start =>
    rw [show line.length + 1 + (start + 1) - 1 = line.length + 1 + start by omega, getElem?_behind]
    simp

theorem emptyLine_behind (line rest : Bytes) {start next : Nat} (empty : EmptyLine rest start next) :
    EmptyLine (line ++ lf :: rest) (line.length + 1 + start) (line.length + 1 + next) := by
  cases empty with
  | lf here feed => exact .lf ((lineStart_behind ..).mpr here) ((getElem?_behind ..).trans feed)
  | crlf here back feed =>
    exact .crlf ((lineStart_behind ..).mpr here) ((getElem?_behind ..).trans back) ((getElem?_behind ..).trans feed)

theorem lineStart_first (plain : lf ∉ line) {start : Nat} (here : LineStart (line ++ lf :: rest) start)
    (early : start < line.length + 1) : start = 0 := by
  rcases here with zero | feed
  · exact zero
  · by_contra positive
    rw [List.getElem?_append_left (by omega)] at feed
    exact plain (List.mem_of_getElem? feed)

theorem emptyLine_cases (plain : lf ∉ line) {start next : Nat} (empty : EmptyLine (line ++ lf :: rest) start next) :
    (start = 0 ∧ next = line.length + 1 ∧ chomp line = []) ∨
      ∃ start' next', start = line.length + 1 + start' ∧ next = line.length + 1 + next' ∧
          EmptyLine rest start' next' := by
  rcases Nat.lt_or_ge start (line.length + 1) with early | late
  · apply Or.inl
    cases empty with
    | lf here feed =>
      obtain rfl := lineStart_first plain here early
      cases line with
      | nil => exact ⟨rfl, rfl, rfl⟩
      | cons c line => exact absurd (by simpa using feed : c = lf) fun same => plain (by simp [same])
    | crlf here back feed =>
      obtain rfl := lineStart_first plain here early
      match line with
      | [] => exact absurd (Option.some.inj back) (by decide)
      | [c] =>
        obtain rfl : c = cr := Option.some.inj back
        exact ⟨rfl, rfl, rfl⟩
      | c :: d :: line => exact absurd (by simpa using feed : d = lf) fun same => plain (by simp [same])
  · obtain ⟨start', rfl⟩ := Nat.exists_eq_add_of_le late
    apply Or.inr
    cases empty with
    | lf here feed =>
      exact ⟨start', start' + 1, rfl, rfl, .lf ((lineStart_behind ..).mp here) ((getElem?_behind ..).symm.trans feed)⟩
    | crlf here back feed =>
      exact ⟨start', start' + 2, rfl, rfl, .crlf ((lineStart_behind ..).mp here)
        ((getElem?_behind ..).symm.trans back) ((getElem?_behind line rest (start' + 1)).symm.trans feed)⟩

theorem emptyLine_stop (rest : Bytes) (empty : chomp line = []) :
    EmptyLine (line ++ lf :: rest) 0 (line.length + 1) := by
  rcases (chomp_eq_nil_iff line).mp empty with rfl | rfl
  · exact .lf (.inl rfl) rfl
  · exact .crlf (.inl rfl) rfl rfl

end

/-! ### The head and the first empty line -/

theorem firstEmptyLine_of_head {stream after : Bytes} {lines : List Bytes} (head : Head stream lines after) :
    ∃ start, FirstEmptyLine stream start (stream.length - after.length) ∧ Lines (stream.take start) lines ∧
      ∀ line ∈ lines, line ≠ [] := by
  induction head with
  | @stop line after plain empty =>
    have size : (line ++ lf :: after).length - after.length = line.length + 1 := by
      simp only [List.length_append, List.length_cons]
      omega
    rw [size]
    refine ⟨0, ⟨emptyLine_stop after empty, fun earlier none => absurd none (Nat.not_lt_zero _)⟩, ?_, by simp⟩
    exact ⟨[], by simp, by simp, rfl⟩
  | @more line rest after lines plain full inner ih =>
    obtain ⟨start, first, ⟨whole, feeds, shape, listed⟩, lengths⟩ := ih
    have shorter := inner.length_lt
    have size : (line ++ lf :: rest).length - after.length = line.length + 1 + (rest.length - after.length) := by
      simp only [List.length_append, List.length_cons]
      omega
    rw [size]
    refine ⟨line.length + 1 + start, ⟨emptyLine_behind line rest first.empty, ?_⟩, ⟨line :: whole, ?_, ?_, ?_⟩, ?_⟩
    · intro earlier before other empty
      rcases emptyLine_cases plain empty with ⟨_, _, none⟩ | ⟨earlier', other', rfl, rfl, inside⟩
      · exact full none
      · exact first.first earlier' (by omega) other' inside
    · intro other member
      rcases List.mem_cons.mp member with rfl | later
      · exact plain
      · exact feeds other later
    · have front : line ++ lf :: rest = (line ++ [lf]) ++ rest := by simp
      have length : (line ++ [lf]).length = line.length + 1 := by simp
      rw [List.flatMap_cons, ← shape, front, ← length, List.take_length_add_append]
    · rw [List.map_cons, listed]
    · intro other member
      rcases List.mem_cons.mp member with rfl | later
      · exact full
      · exact lengths other later

theorem head_of_emptyLine (stream : Bytes) {start next : Nat} (empty : EmptyLine stream start next) :
    ∃ lines after, Head stream lines after := by
  induction size : stream.length using Nat.strongRecOn generalizing stream start next with
  | ind length ih =>
    have feed : lf ∈ stream := by
      cases empty with
      | lf _ feed => exact List.mem_of_getElem? feed
      | crlf _ _ feed => exact List.mem_of_getElem? feed
    obtain ⟨line, rest, rfl, plain⟩ := List.eq_append_cons_of_mem feed
    by_cases none : chomp line = []
    · exact ⟨[], rest, .stop plain none⟩
    · rcases emptyLine_cases plain empty with ⟨_, _, here⟩ | ⟨start', next', _, _, inside⟩
      · exact absurd here none
      · have shorter : rest.length < length := by
          rw [← size, List.length_append, List.length_cons]
          omega
        obtain ⟨lines, after, head⟩ := ih rest.length shorter rest inside rfl
        exact ⟨_, after, .more plain none head⟩

theorem FirstEmptyLine.unique {buffer : Bytes} {start start' next next' : Nat} (one : FirstEmptyLine buffer start next)
    (other : FirstEmptyLine buffer start' next') : start = start' ∧ next = next' := by
  obtain rfl : start = start' := by
    rcases Nat.lt_trichotomy start start' with less | same | more
    · exact absurd one.empty (other.first start less next)
    · exact same
    · exact absurd other.empty (one.first start' more next')
  refine ⟨rfl, ?_⟩
  cases one.empty with
  | lf _ feed =>
    cases other.empty with
    | lf => rfl
    | crlf _ back => exact absurd (Option.some.inj (feed.symm.trans back)) (by decide)
  | crlf _ back =>
    cases other.empty with
    | lf _ feed => exact absurd (Option.some.inj (feed.symm.trans back)) (by decide)
    | crlf => rfl

/-! ### More and fewer bytes behind the head -/

theorem parseHttpLines_append {stream after : Bytes} {lines : List Bytes} (head : Head stream lines after)
    (later : Bytes) : parseHttpLines (stream ++ later) = parseHttpLines stream := by
  rw [parseHttpLines_head (head.append later), parseHttpLines_head head, List.length_append, List.length_append,
    Nat.add_sub_add_right]

theorem parseHttpLines_take {stream after : Bytes} {lines : List Bytes} (head : Head stream lines after) {size : Nat}
    (enough : stream.length - after.length ≤ size) : parseHttpLines (stream.take size) = parseHttpLines stream := by
  rw [parseHttpLines_head head]
  obtain ⟨before, rfl, any⟩ := head.replace
  rw [List.length_append, Nat.add_sub_cancel] at enough
  rw [List.take_append, List.take_of_length_le enough, parseHttpLines_head (any _), List.length_append,
    List.length_append, Nat.add_sub_cancel, Nat.add_sub_cancel]

theorem parseHttpLines_short {stream after : Bytes} {lines : List Bytes} (head : Head stream lines after) {size : Nat}
    (short : size < stream.length - after.length) : (parseHttpLines (stream.take size)).1 = 0 := by
  rw [parseHttpLines_zero_iff]
  intro lines' after' early
  have whole := early.append (stream.drop size)
  rw [List.take_append_drop] at whole
  have sizes := congrArg List.length (head.unique whole).2
  rw [List.length_append, List.length_drop] at sizes
  omega

/-- No range of the loop ends before it starts; the length is that of the bytes up to the first empty line, and
the lines are those before it; and the bytes behind it do not matter. -/
theorem parseHttpLines_exact (buffer : Bytes) :
    parseHttpLinesAt buffer = some (parseHttpLines buffer) ∧
    (∀ n, 0 < n → ((parseHttpLines buffer).1 = n ↔ ∃ start, FirstEmptyLine buffer start n)) ∧
    ((parseHttpLines buffer).1 = 0 ↔ ∀ start next, ¬EmptyLine buffer start next) ∧
    (∀ start n, FirstEmptyLine buffer start n →
      Lines (buffer.take start) (parseHttpLines buffer).2 ∧ ∀ line ∈ (parseHttpLines buffer).2, line ≠ []) ∧
    (0 < (parseHttpLines buffer).1 →
      (∀ later, parseHttpLines (buffer ++ later) = parseHttpLines buffer) ∧
      (∀ size, (parseHttpLines buffer).1 ≤ size → parseHttpLines (buffer.take size) = parseHttpLines buffer) ∧
      ∀ size < (parseHttpLines buffer).1, (parseHttpLines (buffer.take size)).1 = 0) := by
  by_cases complete : ∃ lines after, Head buffer lines after
  · obtain ⟨lines, after, head⟩ := complete
    obtain ⟨start, first, listed, full⟩ := firstEmptyLine_of_head head
    have found := parseHttpLines_head head
    have size : (parseHttpLines buffer).1 = buffer.length - after.length := congrArg Prod.fst found
    have shorter := head.length_lt
    refine ⟨parseHttpLinesAt_eq buffer, ?_, ?_, ?_, ?_⟩
    · intro n _
      rw [size]
      constructor
      · rintro rfl
        exact ⟨start, first⟩
      · rintro ⟨other, same⟩
        exact (first.unique same).2
    · constructor
      · intro zero
        omega
      · exact fun none => absurd first.empty (none start _)
    · intro other n same
      obtain ⟨rfl, _⟩ := first.unique same
      rw [found]
      exact ⟨listed, full⟩
    · rw [size]
      exact fun _ => ⟨parseHttpLines_append head, fun _ => parseHttpLines_take head, fun _ => parseHttpLines_short head⟩
  · have none : ∀ start next, ¬EmptyLine buffer start next := fun start next empty =>
      complete (head_of_emptyLine buffer empty)
    have zero : (parseHttpLines buffer).1 = 0 :=
      (parseHttpLines_zero_iff buffer).mpr fun lines after head => complete ⟨lines, after, head⟩
    refine ⟨parseHttpLinesAt_eq buffer, ?_, ⟨fun _ => none, fun _ => zero⟩, ?_, ?_⟩
    · intro n positive
      constructor
      · intro same
        omega
      · exact fun ⟨start, first⟩ => absurd first.empty (none start n)
    · exact fun start n first => absurd first.empty (none start n)
    · intro positive
      omega

/-- A carriage return alone does not end a line, and one line may end without any. -/
example : parseHttpLines (text "a\rb\nc\r\n\nd") = (8, [text "a\rb", text "c"]) := by decide

end WebsocketClient.HttpLines
