import Mathlib.Data.List.TakeDrop
import Mathlib.Data.List.TakeWhile

/-! Regular expressions with capture groups over any alphabet, matched by backtracking: a repetition takes
the longest run first, an option is taken first, and what follows an expression is its continuation. -/

namespace WebsocketClient.Library.Regexes

variable {α : Type}

inductive Regex (α : Type) where
  | one (allowed : α → Bool)
  /-- Any number of allowed characters. -/
  | star (allowed : α → Bool)
  | seq (first second : Regex α)
  | optional (inner : Regex α)
  | group (number : Nat) (inner : Regex α)

abbrev Captures (α : Type) := Nat → Option (List α)

def capture (captures : Captures α) (number : Nat) (text : List α) : Captures α :=
  fun other => if other = number then some text else captures other

/-- What is left to match, from the rest of the text on. -/
abbrev Next (α : Type) := List α → Captures α → Option (Captures α)

/-- The longest run of allowed characters behind which the rest matches. -/
def searchStar (allowed : α → Bool) (next : List α → Option (Captures α)) : List α → Option (Captures α)
  | [] => next []
  | c :: rest =>
    if allowed c then (searchStar allowed next rest).or (next (c :: rest)) else next (c :: rest)

def search : Regex α → Next α → Next α
  | .one _, _, [], _ => none
  | .one allowed, next, c :: rest, captures => if allowed c then next rest captures else none
  | .star allowed, next, text, captures => searchStar allowed (fun rest => next rest captures) text
  | .seq first second, next, text, captures => search first (search second next) text captures
  | .optional inner, next, text, captures => (search inner next text captures).or (next text captures)
  | .group number inner, next, text, captures =>
    search inner (fun rest captures => next rest (capture captures number (text.take (text.length - rest.length))))
      text captures

/-- The end of the text. -/
def finish : Next α
  | [], captures => some captures
  | _ :: _, _ => none

/-- The whole text is matched. -/
def fullMatch (regex : Regex α) (text : List α) : Option (Captures α) :=
  search regex finish text (fun _ => none)

/-- The text of a group, empty without a match. -/
def str (captures : Captures α) (number : Nat) : List α := (captures number).getD []

@[simp] theorem capture_same (captures : Captures α) (number : Nat) (text : List α) :
    capture captures number text number = some text :=
  if_pos rfl

@[simp] theorem capture_other (captures : Captures α) (number other : Nat) (text : List α)
    (differs : other ≠ number) : capture captures number text other = captures other :=
  if_neg differs

theorem str_none {captures : Captures α} {number : Nat} (fresh : captures number = none) :
    str captures number = [] := by
  rw [str, fresh, Option.getD_none]

@[simp] theorem str_same (captures : Captures α) (number : Nat) (text : List α) :
    str (capture captures number text) number = text := by
  rw [str, capture_same, Option.getD_some]

@[simp] theorem str_other (captures : Captures α) (number other : Nat) (text : List α) (differs : other ≠ number) :
    str (capture captures number text) other = str captures other := by
  rw [str, capture_other _ _ _ _ differs, str]

/-! ### The rules of the search -/

/-- `next` matches the texts that are `good`, whatever has been captured. -/
def Accepts (next : Next α) (good : List α → Prop) : Prop :=
  ∀ text captures, (next text captures).isSome ↔ good text

theorem accepts_finish : Accepts (finish (α := α)) (fun text => text = []) := by
  intro text captures
  cases text with
  | nil => simp [finish]
  | cons c rest => simp [finish]

theorem searchStar_longest (allowed : α → Bool) (next : List α → Option (Captures α)) (text : List α)
    (longest : ∀ run rest, text = run ++ rest → (∀ c ∈ run, allowed c = true) → (next rest).isSome →
      (next (text.dropWhile allowed)).isSome) :
    searchStar allowed next text = next (text.dropWhile allowed) := by
  induction text with
  | nil => rfl
  | cons c text ih =>
    by_cases taken : allowed c = true
    · have dropped : (c :: text).dropWhile allowed = text.dropWhile allowed := by simp [taken]
      have inner := ih fun run rest shape all some => by
        have := longest (c :: run) rest (by rw [shape, List.cons_append]) (by simpa [taken] using all) some
        rwa [dropped] at this
      rw [searchStar, if_pos taken, inner, dropped]
      cases found : next (text.dropWhile allowed) with
      | some captures => rfl
      | none =>
        have missing : next (c :: text) = none := by
          rw [← Option.not_isSome_iff_eq_none]
          intro some
          have := longest [] (c :: text) rfl (by simp) some
          rw [dropped, found] at this
          exact Bool.false_ne_true this
        rw [missing]
        rfl
    · rw [searchStar, if_neg taken, List.dropWhile_cons_of_neg taken]

/-- The text may lose an allowed character in front. -/
def Shrinks (allowed : α → Bool) (good : List α → Prop) : Prop :=
  ∀ c rest, allowed c = true → good (c :: rest) → good rest

theorem Shrinks.append {allowed : α → Bool} {good : List α → Prop} (shrinks : Shrinks allowed good)
    (run rest : List α) (all : ∀ c ∈ run, allowed c = true) (whole : good (run ++ rest)) : good rest := by
  induction run with
  | nil => exact whole
  | cons c run ih =>
    apply ih (fun other member => all other (List.mem_cons_of_mem _ member))
    exact shrinks c _ (all c (List.mem_cons_self ..)) whole

theorem Shrinks.dropWhile {allowed : α → Bool} {good : List α → Prop} (shrinks : Shrinks allowed good)
    {text : List α} (whole : good text) : good (text.dropWhile allowed) := by
  apply shrinks.append (text.takeWhile allowed) _ (fun c member => List.mem_takeWhile_imp member)
  rwa [List.takeWhile_append_dropWhile]

theorem search_star {next : Next α} {good : List α → Prop} (accepts : Accepts next good) (allowed : α → Bool)
    (shrinks : Shrinks allowed good) (text : List α) (captures : Captures α) :
    search (.star allowed) next text captures = next (text.dropWhile allowed) captures := by
  apply searchStar_longest
  intro run rest shape all some
  have whole := (accepts rest captures).mp some
  apply (accepts _ captures).mpr
  rw [shape, List.dropWhile_append_of_pos all]
  exact shrinks.dropWhile whole

theorem search_optional (inner : Regex α) (next : Next α) (text : List α) (captures : Captures α)
    (preferred : (next text captures).isSome → (search inner next text captures).isSome) :
    search (.optional inner) next text captures = search inner next text captures := by
  rw [search]
  cases found : search inner next text captures with
  | some result => rfl
  | none =>
    have missing : next text captures = none := by
      rw [← Option.not_isSome_iff_eq_none]
      intro some
      have := preferred some
      rw [found] at this
      exact Bool.false_ne_true this
    rw [missing]
    rfl

theorem search_optional_skipped (inner : Regex α) (next : Next α) (text : List α) (captures : Captures α)
    (fails : search inner next text captures = none) :
    search (.optional inner) next text captures = next text captures := by
  rw [search, fails]
  rfl

theorem take_of_dropWhile (allowed : α → Bool) (text : List α) :
    text.take (text.length - (text.dropWhile allowed).length) = text.takeWhile allowed := by
  have shape := List.takeWhile_append_dropWhile (p := allowed) (l := text)
  have size : text.length - (text.dropWhile allowed).length = (text.takeWhile allowed).length := by
    have := congrArg List.length shape
    rw [List.length_append] at this
    omega
  calc text.take (text.length - (text.dropWhile allowed).length)
      = (text.takeWhile allowed ++ text.dropWhile allowed).take (text.takeWhile allowed).length := by
        rw [size, shape]
    _ = text.takeWhile allowed := List.take_left ..

theorem Accepts.recorded {next : Next α} {good : List α → Prop} (accepts : Accepts next good)
    (record : List α → Captures α → Captures α) :
        Accepts (fun rest captures => next rest (record rest captures)) good :=
  fun rest captures => accepts rest (record rest captures)

theorem search_run {next : Next α} {good : List α → Prop} (accepts : Accepts next good) (number : Nat)
    (allowed : α → Bool) (shrinks : Shrinks allowed good) (text : List α) (captures : Captures α) :
    search (.group number (.star allowed)) next text captures =
      next (text.dropWhile allowed) (capture captures number (text.takeWhile allowed)) := by
  have run := search_star (accepts.recorded fun rest captures =>
    capture captures number (text.take (text.length - rest.length))) allowed shrinks text captures
  rw [search, run, take_of_dropWhile]

/-- The captures differ in the groups `first` to `last` at most. -/
def SameBut (first last : Nat) (captures captures' : Captures α) : Prop :=
  ∀ number, number < first ∨ last < number → captures' number = captures number

theorem SameBut.str {first last : Nat} {captures captures' : Captures α} (same : SameBut first last captures captures')
    (number : Nat) (outside : number < first ∨ last < number) : str captures' number = str captures number := by
  rw [Regexes.str, same number outside, Regexes.str]

/-! ### A mark and the run behind it -/

section
variable [DecidableEq α]

def literal (c : α) : Regex α := .one (fun other => decide (other = c))

/-- An optional group of a mark and a run, which is the next group. -/
def marked (number : Nat) (mark : α) (allowed : α → Bool) : Regex α :=
  .optional (.group number (.seq (literal mark) (.group (number + 1) (.star allowed))))

/-- What a mark and its run leave of a text, where there is one. -/
def behindMarked (mark : α) (allowed : α → Bool) (text : List α) : List α :=
  if text.head? = some mark then text.tail.dropWhile allowed else text

variable {next : Next α} {good : List α → Prop}

theorem search_literal (c other : α) (rest : List α) (captures : Captures α) :
    search (literal c) next (other :: rest) captures = if other = c then next rest captures else none := by
  simp [literal, search]

theorem accepts_literal (accepts : Accepts next good) (c : α) :
    Accepts (search (literal c) next) (fun text => ∃ rest, text = c :: rest ∧ good rest) := by
  intro text captures
  cases text with
  | nil => simp [literal, search]
  | cons other rest =>
    by_cases first : other = c
    · subst first
      rw [search_literal, if_pos rfl, accepts]
      simp
    · rw [search_literal, if_neg first]
      simp [first]

/-- A text without the character, if it starts with it. -/
def dropHead (c : α) : List α → List α
  | [] => []
  | other :: rest => if other = c then rest else other :: rest

theorem search_optional_literal (accepts : Accepts next good) (c : α)
    (preferred : ∀ rest, good (c :: rest) → good rest) (text : List α) (captures : Captures α) :
    search (.optional (literal c)) next text captures = next (dropHead c text) captures := by
  cases text with
  | nil => rw [search_optional_skipped _ _ _ _ rfl, dropHead]
  | cons other rest =>
    by_cases first : other = c
    · subst first
      rw [search_optional, search_literal, if_pos rfl, dropHead, if_pos rfl]
      intro some
      rw [search_literal, if_pos rfl]
      exact (accepts _ _).mpr (preferred rest ((accepts _ _).mp some))
    · rw [search_optional_skipped, dropHead, if_neg first]
      rw [search_literal, if_neg first]

theorem search_marked_taken (accepts : Accepts next good) (number : Nat) (mark : α) (allowed : α → Bool)
    (shrinks : Shrinks allowed good) (preferred : ∀ rest, good (mark :: rest) → good rest) (rest : List α)
    (captures : Captures α) :
    search (marked number mark allowed) next (mark :: rest) captures = next (rest.dropWhile allowed)
      (capture (capture captures (number + 1) (rest.takeWhile allowed)) number
        ((mark :: rest).take ((mark :: rest).length - (rest.dropWhile allowed).length))) := by
  have taken : search (.group number (.seq (literal mark) (.group (number + 1) (.star allowed)))) next (mark :: rest)
      captures = next (rest.dropWhile allowed) (capture (capture captures (number + 1) (rest.takeWhile allowed)) number
        ((mark :: rest).take ((mark :: rest).length - (rest.dropWhile allowed).length))) := by
    rw [search, search, search_literal, if_pos rfl]
    exact search_run (accepts.recorded fun behind captures =>
      capture captures number ((mark :: rest).take ((mark :: rest).length - behind.length)))
      (number + 1) allowed shrinks rest captures
  rw [marked, search_optional, taken]
  intro some
  rw [taken]
  apply (accepts _ _).mpr
  exact shrinks.dropWhile (preferred rest ((accepts _ _).mp some))

theorem search_marked_skipped (number : Nat) (mark : α) (allowed : α → Bool) (text : List α)
    (captures : Captures α) (unmarked : text.head? ≠ some mark) :
    search (marked number mark allowed) next text captures = next text captures := by
  apply search_optional_skipped
  cases text with
  | nil => rfl
  | cons c rest =>
    have other : c ≠ mark := fun same => unmarked (by simp [same])
    rw [search, search, search_literal, if_neg other]

/-- A mark is taken, unless the text must be left whole. -/
theorem search_marked (accepts : Accepts next good) (number : Nat) (mark : α) (allowed : α → Bool)
    (shrinks : Shrinks allowed good) (preferred : ∀ rest, good (mark :: rest) → good rest) (text : List α)
    (captures : Captures α) :
    ∃ captures', search (marked number mark allowed) next text captures =
        next (behindMarked mark allowed text) captures' ∧
      SameBut number (number + 1) captures captures' ∧
      (captures (number + 1) = none → str captures' (number + 1) =
        if text.head? = some mark then text.tail.takeWhile allowed else []) := by
  by_cases first : text.head? = some mark
  · obtain ⟨rest, rfl⟩ : ∃ rest, text = mark :: rest := List.head?_eq_some_iff.mp first
    rw [search_marked_taken accepts number mark allowed shrinks preferred, behindMarked, if_pos first]
    refine ⟨_, rfl, ?_, ?_⟩
    · intro other outside
      rw [capture_other _ _ _ _ (by omega), capture_other _ _ _ _ (by omega)]
    · intro _
      rw [str_other _ _ _ _ (by omega), str_same, if_pos first, List.tail_cons]
  · rw [search_marked_skipped number mark allowed text captures first, behindMarked, if_neg first]
    refine ⟨captures, rfl, fun _ _ => rfl, ?_⟩
    intro fresh
    rw [if_neg first, str_none fresh]

theorem accepts_marked (accepts : Accepts next good) (number : Nat) (mark : α) (allowed : α → Bool)
    (shrinks : Shrinks allowed good) (preferred : ∀ rest, good (mark :: rest) → good rest) :
    Accepts (search (marked number mark allowed) next) (fun text => good (behindMarked mark allowed text)) := by
  intro text captures
  obtain ⟨captures', found, -⟩ := search_marked accepts number mark allowed shrinks preferred text captures
  rw [found]
  exact accepts _ _

/-! ### A run that is cut in two at the first mark -/

/-- `inner` allows what `outer` allows, less the mark. -/
structure Cut (mark : α) (inner outer : α → Bool) : Prop where
  marks : outer mark = true
  less : ∀ c, inner c = (decide (c ≠ mark) && outer c)

namespace Cut
variable {mark : α} {inner outer : α → Bool} (cut : Cut mark inner outer)
include cut

theorem before (text : List α) :
    text.takeWhile inner = (text.takeWhile outer).takeWhile (fun c => decide (c ≠ mark)) := by
  rw [List.takeWhile_takeWhile]
  congr 1
  funext c
  rw [cut.less c, Bool.decide_and, Bool.decide_eq_true, Bool.decide_eq_true]

theorem rest (text : List α) : behindMarked mark outer (text.dropWhile inner) = text.dropWhile outer := by
  induction text with
  | nil => rfl
  | cons c text ih =>
    have less := cut.less c
    by_cases first : c = mark
    · subst first
      simp only [ne_eq, not_true_eq_false, decide_false, Bool.false_and] at less
      rw [List.dropWhile_cons_of_neg (by simp [less]), behindMarked, if_pos List.head?_cons, List.tail_cons,
        List.dropWhile_cons_of_pos cut.marks]
    · simp only [ne_eq, first, not_false_eq_true, decide_true, Bool.true_and] at less
      by_cases allowed : outer c = true
      · rw [List.dropWhile_cons_of_pos (by rw [less, allowed]), ih, List.dropWhile_cons_of_pos allowed]
      · rw [List.dropWhile_cons_of_neg (by rwa [less]), behindMarked, if_neg (by simpa using first),
          List.dropWhile_cons_of_neg allowed]

theorem after (text : List α) :
    (if (text.dropWhile inner).head? = some mark then (text.dropWhile inner).tail.takeWhile outer else []) =
      ((text.takeWhile outer).dropWhile (fun c => decide (c ≠ mark))).tail := by
  induction text with
  | nil => rfl
  | cons c text ih =>
    have less := cut.less c
    by_cases first : c = mark
    · subst first
      simp only [ne_eq, not_true_eq_false, decide_false, Bool.false_and] at less
      rw [List.dropWhile_cons_of_neg (by simp [less]), if_pos List.head?_cons, List.takeWhile_cons_of_pos cut.marks,
        List.dropWhile_cons_of_neg (by simp)]
      rfl
    · simp only [ne_eq, first, not_false_eq_true, decide_true, Bool.true_and] at less
      by_cases allowed : outer c = true
      · rw [List.dropWhile_cons_of_pos (by rw [less, allowed]), ih, List.takeWhile_cons_of_pos allowed,
          List.dropWhile_cons_of_pos (by simpa using first)]
      · rw [List.dropWhile_cons_of_neg (by rwa [less]), if_neg (by simpa using first),
          List.takeWhile_cons_of_neg allowed]
        rfl

theorem shrinks (whole : Shrinks outer good) (preferred : ∀ rest, good (mark :: rest) → good rest) :
    Shrinks inner (fun text => good (behindMarked mark outer text)) := by
  intro c text allowed kept
  rw [cut.less c, Bool.and_eq_true, decide_eq_true_eq] at allowed
  have unmarked : behindMarked mark outer (c :: text) = c :: text := if_neg (by simpa using allowed.1)
  rw [unmarked] at kept
  have rest := whole c text allowed.2 kept
  by_cases first : text.head? = some mark
  · obtain ⟨behind, rfl⟩ : ∃ behind, text = mark :: behind := List.head?_eq_some_iff.mp first
    rw [behindMarked, if_pos first]
    exact whole.dropWhile (preferred behind rest)
  · rwa [behindMarked, if_neg first]

theorem search_pair (accepts : Accepts next good) (whole : Shrinks outer good)
    (preferred : ∀ rest, good (mark :: rest) → good rest) (first number : Nat) (order : first < number)
    (text : List α) (captures : Captures α) :
    ∃ captures', search (.seq (.group first (.star inner)) (marked number mark outer)) next text captures =
        next (text.dropWhile outer) captures' ∧
      SameBut first (number + 1) captures captures' ∧
      str captures' first = (text.takeWhile outer).takeWhile (fun c => decide (c ≠ mark)) ∧
      (captures (number + 1) = none →
        str captures' (number + 1) = ((text.takeWhile outer).dropWhile (fun c => decide (c ≠ mark))).tail) := by
  have inside := accepts_marked accepts number mark outer whole preferred
  obtain ⟨captures', found, same, value⟩ := search_marked accepts number mark outer whole preferred
    (text.dropWhile inner) (capture captures first (text.takeWhile inner))
  rw [cut.rest] at found
  refine ⟨captures', ?_, ?_, ?_, ?_⟩
  · rw [search, search_run inside first inner (cut.shrinks whole preferred), found]
  · intro other outside
    rw [same other (by omega), capture_other _ _ _ _ (by omega)]
  · rw [same.str first (by omega), str_same, cut.before]
  · intro fresh
    rw [value (by rw [capture_other _ _ _ _ (by omega), fresh]), cut.after]

theorem accepts_pair (accepts : Accepts next good) (whole : Shrinks outer good)
    (preferred : ∀ rest, good (mark :: rest) → good rest) (first number : Nat) (order : first < number) :
    Accepts (search (.seq (.group first (.star inner)) (marked number mark outer)) next)
      (fun text => good (text.dropWhile outer)) := by
  intro text captures
  obtain ⟨captures', found, -⟩ := cut.search_pair accepts whole preferred first number order text captures
  rw [found]
  exact accepts _ _

end Cut
end

end WebsocketClient.Library.Regexes
