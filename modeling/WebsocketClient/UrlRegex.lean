import WebsocketClient.Library.Regex
import WebsocketClient.ByteString

/-! The regular expression by which `parse_url` and `WebSocket::open` take a URL apart, and the cuts it makes,
said without it. -/

namespace WebsocketClient.UrlRegexes
open ByteString Library.Regexes

def slash : UInt8 := 47
def question : UInt8 := 63
def hash : UInt8 := 35
def atSign : UInt8 := 64

/-- `[^...]` -/
def noneOf (excluded : String) (c : UInt8) : Bool := !(text excluded).contains c

/-- `.` of the extended grammar. -/
def anyByte (c : UInt8) : Bool := c != 0

/-- `(([^:.@/?#]+):)` -/
def schemeRegex : Regex UInt8 :=
  .group 1 (.seq
    (.group 2 (.seq (.one (noneOf ":.@/?#")) (.star (noneOf ":.@/?#"))))
    (literal colon))

/-- `/{0,2}` -/
def slashesRegex : Regex UInt8 := .optional (.seq (literal slash) (.optional (literal slash)))

/-- `((([^:@]*)(:([^@]*))?)@)` -/
def userRegex : Regex UInt8 :=
  .group 4 (.seq
    (.group 5 (.seq (.group 6 (.star (noneOf ":@"))) (marked 7 colon (noneOf "@"))))
    (literal atSign))

/-- `(([^:/?#]*)(:([^/?#]*))?)` -/
def hostRegex : Regex UInt8 :=
  .group 9 (.seq (.group 10 (.star (noneOf ":/?#"))) (marked 11 colon (noneOf "/?#")))

/-- `(/{0,2}((([^:@]*)(:([^@]*))?)@)?(([^:/?#]*)(:([^/?#]*))?))` -/
def authorityRegex : Regex UInt8 := .group 3 (.seq slashesRegex (.seq (.optional userRegex) hostRegex))

/-- `([^?#]*)(\?([^#]*))?` -/
def targetRegex : Regex UInt8 :=
  .seq (.group 13 (.star (noneOf "?#"))) (marked 14 question (noneOf "#"))

/-- `(#(.*))?` -/
def fragmentRegex : Regex UInt8 := marked 16 hash anyByte

def urlRegex : Regex UInt8 :=
  .group 0 (.seq (.optional schemeRegex) (.seq (.optional authorityRegex) (.seq targetRegex fragmentRegex)))

/-! ### The cuts -/

def schemeOf (url : Bytes) : Bytes :=
  if (url.dropWhile (noneOf ":.@/?#")).head? = some colon then url.takeWhile (noneOf ":.@/?#") else []

def behindScheme (url : Bytes) : Bytes :=
  if schemeOf url = [] then url else (url.dropWhile (noneOf ":.@/?#")).tail

def dropSlashes (url : Bytes) : Bytes := dropHead slash (dropHead slash url)

/-- What stands before the first `@` is the user, be it behind a slash. -/
def userOf (url : Bytes) : Bytes := if atSign ∈ url then url.takeWhile (noneOf "@") else []

def behindUser (url : Bytes) : Bytes := if atSign ∈ url then (url.dropWhile (noneOf "@")).tail else url

def fromHost (url : Bytes) : Bytes := behindUser (dropSlashes (behindScheme url))

def authorityOf (url : Bytes) : Bytes := (fromHost url).takeWhile (noneOf "/?#")

def targetOf (url : Bytes) : Bytes := ((fromHost url).dropWhile (noneOf "/?#")).takeWhile (noneOf "#")

def before (mark : UInt8) (text : Bytes) : Bytes := text.takeWhile (fun c => decide (c ≠ mark))

def after (mark : UInt8) (text : Bytes) : Bytes := (text.dropWhile (fun c => decide (c ≠ mark))).tail

structure Parts where
  scheme : Bytes
  username : Bytes
  password : Bytes
  hostname : Bytes
  service : Bytes
  path : Bytes
  query : Bytes
  deriving DecidableEq, Repr

def partsOf (url : Bytes) : Parts where
  scheme := schemeOf url
  username := before colon (userOf (dropSlashes (behindScheme url)))
  password := after colon (userOf (dropSlashes (behindScheme url)))
  hostname := before colon (authorityOf url)
  service := after colon (authorityOf url)
  path := before question (targetOf url)
  query := after question (targetOf url)

/-- The groups that the client reads. -/
def partsIn (m : Captures UInt8) : Parts where
  scheme := str m 2
  username := str m 6
  password := str m 8
  hostname := str m 10
  service := str m 12
  path := str m 13
  query := str m 15

/-- `.*` reaches the end of the text from its first `#` on. -/
def Closes (url : Bytes) : Prop := (0 : UInt8) ∉ url.dropWhile (noneOf "#")

instance (url : Bytes) : Decidable (Closes url) := inferInstanceAs (Decidable (_ ∉ _))

/-! ### Runs of allowed bytes -/

theorem noneOf_eq_true {excluded : String} {c : UInt8} : noneOf excluded c = true ↔ c ∉ text excluded := by
  simp [noneOf]

theorem noneOf_hash {c : UInt8} : noneOf "#" c = true ↔ c ≠ hash := by
  have listed : text "#" = [hash] := by decide
  rw [noneOf_eq_true, listed, List.mem_singleton]

theorem noneOf_at {c : UInt8} : noneOf "@" c = true ↔ c ≠ atSign := by
  have listed : text "@" = [atSign] := by decide
  rw [noneOf_eq_true, listed, List.mem_singleton]

theorem ne_of_noneOf {excluded : String} {mark : UInt8} (listed : mark ∈ text excluded) {c : UInt8}
    (allowed : noneOf excluded c = true) : c ≠ mark := by
  rintro rfl
  exact noneOf_eq_true.mp allowed listed

theorem noneOf_of_subset {inner outer : String} (listed : (text outer).all (text inner).contains = true) {c : UInt8}
    (allowed : noneOf inner c = true) : noneOf outer c = true := by
  rw [noneOf_eq_true] at allowed ⊢
  intro member
  exact allowed (List.contains_iff_mem.mp (List.all_eq_true.mp listed c member))

theorem cut_noneOf {inner outer : String} {mark : UInt8} (marks : mark ∉ text outer)
    (less : ∀ c, c ∈ text inner ↔ c = mark ∨ c ∈ text outer) : Cut mark (noneOf inner) (noneOf outer) where
  marks := noneOf_eq_true.mpr marks
  less c := by
    rw [Bool.eq_iff_iff, noneOf_eq_true, Bool.and_eq_true, decide_eq_true_eq, noneOf_eq_true, less, not_or]

theorem cut_user : Cut colon (noneOf ":@") (noneOf "@") := cut_noneOf (by decide) (by simp [text, colon])

theorem cut_host : Cut colon (noneOf ":/?#") (noneOf "/?#") := cut_noneOf (by decide) (by simp [text, colon])

theorem cut_target : Cut question (noneOf "?#") (noneOf "#") := cut_noneOf (by decide) (by simp [text, question])

theorem closes_cons {c : UInt8} {rest : Bytes} (other : c ≠ hash) : Closes (c :: rest) ↔ Closes rest := by
  rw [Closes, List.dropWhile_cons_of_pos (noneOf_hash.mpr other), Closes]

theorem closes_hash (rest : Bytes) : Closes (hash :: rest) ↔ ∀ c ∈ rest, anyByte c = true := by
  have stops : ¬noneOf "#" hash = true := by decide
  rw [Closes, List.dropWhile_cons_of_neg stops]
  simp only [List.mem_cons, anyByte, bne_iff_ne, ne_eq, not_or]
  constructor
  · rintro ⟨-, absent⟩ c member rfl
    exact absent member
  · intro all
    exact ⟨by decide, fun member => all 0 member rfl⟩

theorem shrinks_closes {excluded : String} (listed : hash ∈ text excluded) : Shrinks (noneOf excluded) Closes :=
  fun _ _ allowed closes => (closes_cons (ne_of_noneOf listed allowed)).mp closes

theorem closes_dropWhile {excluded : String} (listed : hash ∈ text excluded) (url : Bytes) :
    Closes (url.dropWhile (noneOf excluded)) ↔ Closes url := by
  induction url with
  | nil => rfl
  | cons c rest ih =>
    by_cases allowed : noneOf excluded c = true
    · rw [List.dropWhile_cons_of_pos allowed, ih, closes_cons (ne_of_noneOf listed allowed)]
    · rw [List.dropWhile_cons_of_neg allowed]

/-! ### The groups from the last one to the first -/

section
variable {next : Next UInt8}

/-- The text is empty or starts with the fragment, which is matched. -/
def Ends (url : Bytes) : Prop := url.takeWhile (noneOf "#") = [] ∧ Closes url

theorem shrinks_ends : Shrinks (noneOf "#") Ends := by
  intro c rest allowed closes
  have empty := closes.1
  rw [List.takeWhile_cons_of_pos allowed] at empty
  exact absurd empty (by simp)

theorem ends_dropWhile (url : Bytes) : Ends (url.dropWhile (noneOf "#")) ↔ Closes url := by
  induction url with
  | nil => simp [Ends, Closes]
  | cons c rest ih =>
    by_cases allowed : noneOf "#" c = true
    · rw [List.dropWhile_cons_of_pos allowed, ih, closes_cons (ne_of_noneOf (by decide) allowed)]
    · rw [List.dropWhile_cons_of_neg allowed, Ends, List.takeWhile_cons_of_neg allowed]
      exact and_iff_right rfl

theorem not_ends_question (rest : Bytes) : ¬Ends (question :: rest) := by
  intro closes
  have allowed : noneOf "#" question = true := by decide
  have empty := closes.1
  rw [List.takeWhile_cons_of_pos allowed] at empty
  exact absurd empty (by simp)

theorem ends_iff (url : Bytes) : Ends url ↔ behindMarked hash anyByte url = [] := by
  cases url with
  | nil => simp [behindMarked, Ends, Closes]
  | cons c rest =>
    by_cases first : c = hash
    · subst first
      have stops : (hash :: rest).takeWhile (noneOf "#") = [] := List.takeWhile_cons_of_neg (by decide)
      rw [behindMarked, if_pos (List.head?_cons), List.tail_cons, List.dropWhile_eq_nil_iff, Ends, closes_hash]
      exact and_iff_right stops
    · simp [behindMarked, first, Ends, noneOf_hash.mpr first]

theorem shrinks_nil (allowed : UInt8 → Bool) : Shrinks allowed (fun url => url = []) :=
  fun _ _ _ whole => absurd whole (by simp)

theorem accepts_fragment (ends : Accepts next (fun url => url = [])) : Accepts (search fragmentRegex next) Ends := by
  intro url captures
  rw [ends_iff]
  exact accepts_marked ends 16 hash anyByte (shrinks_nil _) (fun _ whole => absurd whole (by simp)) url captures

theorem search_fragment (ends : Accepts next (fun url => url = [])) (url : Bytes) (captures : Captures UInt8) :
    ∃ rest captures', search fragmentRegex next url captures = next rest captures' ∧
      SameBut 16 17 captures captures' := by
  obtain ⟨captures', found, same, -⟩ := search_marked ends 16 hash anyByte (shrinks_nil _)
    (fun _ whole => absurd whole (by simp)) url captures
  exact ⟨_, captures', found, same⟩

theorem accepts_target (accepts : Accepts next Ends) : Accepts (search targetRegex next) Closes := by
  intro url captures
  rw [← ends_dropWhile]
  exact cut_target.accepts_pair accepts shrinks_ends (fun rest closes => absurd closes (not_ends_question rest)) 13 14
    (by decide) url captures

theorem search_target (accepts : Accepts next Ends) (url : Bytes) (captures : Captures UInt8) :
    ∃ captures', search targetRegex next url captures = next (url.dropWhile (noneOf "#")) captures' ∧
      SameBut 13 15 captures captures' ∧
      str captures' 13 = before question (url.takeWhile (noneOf "#")) ∧
      (captures 15 = none → str captures' 15 = after question (url.takeWhile (noneOf "#"))) :=
  cut_target.search_pair accepts shrinks_ends (fun rest closes => absurd closes (not_ends_question rest)) 13 14
    (by decide) url captures

theorem search_host (accepts : Accepts next Closes) (url : Bytes) (captures : Captures UInt8) :
    ∃ captures', search hostRegex next url captures = next (url.dropWhile (noneOf "/?#")) captures' ∧
      SameBut 9 12 captures captures' ∧
      str captures' 10 = before colon (url.takeWhile (noneOf "/?#")) ∧
      (captures 12 = none → str captures' 12 = after colon (url.takeWhile (noneOf "/?#"))) := by
  obtain ⟨captures', found, same, host, service⟩ := cut_host.search_pair (accepts.recorded fun rest captures =>
    capture captures 9 (url.take (url.length - rest.length))) (shrinks_closes (by decide))
    (fun _ => (closes_cons (by decide)).mp) 10 11 (by decide) url captures
  refine ⟨_, found, ?_, ?_, ?_⟩
  · intro other outside
    rw [capture_other _ _ _ _ (by omega), same other (by omega)]
  · rw [str_other _ _ _ _ (by decide), host]
    rfl
  · intro fresh
    rw [str_other _ _ _ _ (by decide), service fresh]
    rfl

theorem accepts_host (accepts : Accepts next Closes) : Accepts (search hostRegex next) Closes := by
  intro url captures
  obtain ⟨captures', found, -⟩ := search_host accepts url captures
  rw [found, ← closes_dropWhile (by decide : hash ∈ text "/?#")]
  exact accepts _ _

theorem dropWhile_at {url : Bytes} (marked : atSign ∈ url) :
    url.dropWhile (noneOf "@") = atSign :: behindUser url := by
  obtain ⟨run, rest, rfl, plain⟩ := List.eq_append_cons_of_mem marked
  have all : ∀ c ∈ run, noneOf "@" c = true := fun c member =>
    noneOf_at.mpr fun same => plain (same ▸ member)
  rw [behindUser, if_pos marked, List.dropWhile_append_of_pos all, List.dropWhile_cons_of_neg (by decide)]
  rfl

theorem dropWhile_unmarked {url : Bytes} (unmarked : atSign ∉ url) : url.dropWhile (noneOf "@") = [] := by
  rw [List.dropWhile_eq_nil_iff]
  exact fun c member => noneOf_at.mpr fun same => unmarked (same ▸ member)

section
variable {good : Bytes → Prop} (accepts : Accepts next good) (url : Bytes) (captures : Captures UInt8)
include accepts

theorem search_userRegex :
    ∃ captures', search userRegex next url captures =
        search (literal atSign) (fun rest captures =>
            next rest (capture captures 4 (url.take (url.length - rest.length))))
          (url.dropWhile (noneOf "@"))
          (capture captures' 5 (url.take (url.length - (url.dropWhile (noneOf "@")).length))) ∧
      SameBut 6 8 captures captures' ∧
      str captures' 6 = before colon (url.takeWhile (noneOf "@")) ∧
      (captures 8 = none → str captures' 8 = after colon (url.takeWhile (noneOf "@"))) := by
  have inside := ((accepts_literal (accepts.recorded fun rest captures =>
    capture captures 4 (url.take (url.length - rest.length))) atSign).recorded fun rest captures =>
    capture captures 5 (url.take (url.length - rest.length)))
  apply cut_user.search_pair inside _ _ 6 7 (by decide) url captures
  · rintro c rest allowed ⟨behind, shape, -⟩
    exact absurd (List.cons.inj shape).1 (ne_of_noneOf (by decide) allowed)
  · rintro rest ⟨behind, shape, -⟩
    exact absurd (List.cons.inj shape).1 (by decide)

theorem search_user (preferred : ∀ url, good url → good (behindUser url)) :
    ∃ captures', search (.optional userRegex) next url captures = next (behindUser url) captures' ∧
      SameBut 4 8 captures captures' ∧
      (captures 6 = none → str captures' 6 = before colon (userOf url)) ∧
      (captures 8 = none → str captures' 8 = after colon (userOf url)) := by
  obtain ⟨captures', found, same, user, password⟩ := search_userRegex accepts url captures
  by_cases marked : atSign ∈ url
  · rw [dropWhile_at marked, search_literal, if_pos rfl] at found
    have taken : url.takeWhile (noneOf "@") = userOf url := by rw [userOf, if_pos marked]
    rw [taken] at user password
    rw [search_optional, found]
    · refine ⟨_, rfl, ?_, ?_, ?_⟩
      · intro other outside
        rw [capture_other _ _ _ _ (by omega), capture_other _ _ _ _ (by omega), same other (by omega)]
      · intro _
        rw [str_other _ _ _ _ (by decide), str_other _ _ _ _ (by decide), user]
      · intro fresh
        rw [str_other _ _ _ _ (by decide), str_other _ _ _ _ (by decide), password fresh]
    · intro some
      rw [found]
      apply (accepts _ _).mpr
      exact preferred url ((accepts _ _).mp some)
  · rw [dropWhile_unmarked marked] at found
    rw [search_optional_skipped _ _ _ _ found, behindUser, userOf, if_neg marked, if_neg marked]
    refine ⟨captures, rfl, fun _ _ => rfl, ?_, ?_⟩
    · exact fun fresh => str_none fresh
    · exact fun fresh => str_none fresh

theorem accepts_user (preferred : ∀ url, good url → good (behindUser url)) :
    (search (.optional userRegex) next url captures).isSome ↔ good (behindUser url) := by
  obtain ⟨captures', found, -⟩ := search_user accepts url captures preferred
  rw [found]
  exact accepts _ _

end

/-! ### The groups in front of the user -/

def Reaches (url : Bytes) : Prop := Closes (behindUser url)

theorem closes_of_cons {c : UInt8} {rest : Bytes} (closes : Closes (c :: rest)) : Closes rest := by
  by_cases first : c = hash
  · subst first
    have all := (closes_hash rest).mp closes
    intro member
    exact absurd (all 0 ((List.dropWhile_sublist _).subset member)) (by decide)
  · exact (closes_cons first).mp closes

theorem closes_behindUser {url : Bytes} (closes : Closes url) : Reaches url := by
  by_cases marked : atSign ∈ url
  · have shape := List.takeWhile_append_dropWhile (p := noneOf "@") (l := url)
    rw [dropWhile_at marked] at shape
    rw [← shape] at closes
    have drop : ∀ run : Bytes, Closes (run ++ atSign :: behindUser url) → Closes (behindUser url) := by
      intro run
      induction run with
      | nil => exact closes_of_cons
      | cons c run ih => exact fun whole => ih (closes_of_cons whole)
    exact drop _ closes
  · rwa [Reaches, behindUser, if_neg marked]

theorem reaches_cons {c : UInt8} (other : c ≠ hash) (plain : c ≠ atSign) (rest : Bytes) :
    Reaches (c :: rest) ↔ Reaches rest := by
  by_cases marked : atSign ∈ rest
  · rw [Reaches, behindUser, if_pos (List.mem_cons_of_mem _ marked),
      List.dropWhile_cons_of_pos (noneOf_at.mpr plain), Reaches, behindUser, if_pos marked]
  · have unmarked : atSign ∉ c :: rest := by
      rw [List.mem_cons, not_or]
      exact ⟨Ne.symm plain, marked⟩
    rw [Reaches, behindUser, if_neg unmarked, Reaches, behindUser, if_neg marked, closes_cons other]

theorem reaches_slash (rest : Bytes) : Reaches (slash :: rest) ↔ Reaches rest :=
  reaches_cons (by decide) (by decide) rest

theorem reaches_dropHead (url : Bytes) : Reaches (dropHead slash url) ↔ Reaches url := by
  cases url with
  | nil => rfl
  | cons c rest =>
    by_cases first : c = slash
    · rw [dropHead, if_pos first, first, reaches_slash]
    · rw [dropHead, if_neg first]

theorem reaches_dropSlashes (url : Bytes) : Reaches (dropSlashes url) ↔ Reaches url := by
  rw [dropSlashes, reaches_dropHead, reaches_dropHead]

theorem search_slashes (accepts : Accepts next Reaches) (url : Bytes) (captures : Captures UInt8) :
    search slashesRegex next url captures = next (dropSlashes url) captures := by
  have inner := search_optional_literal accepts slash fun rest => (reaches_slash rest).mp
  cases url with
  | nil =>
    rw [slashesRegex, search_optional_skipped _ _ _ _ rfl]
    rfl
  | cons c rest =>
    by_cases first : c = slash
    · subst first
      have taken : search (.seq (literal slash) (.optional (literal slash))) next (slash :: rest) captures =
          next (dropSlashes (slash :: rest)) captures := by
        rw [search, search_literal, if_pos rfl, inner, dropSlashes, dropHead, if_pos rfl]
      rw [slashesRegex, search_optional, taken]
      intro some
      rw [taken, accepts, reaches_dropSlashes]
      exact (accepts _ _).mp some
    · have kept : dropHead slash (c :: rest) = c :: rest := by rw [dropHead, if_neg first]
      rw [slashesRegex, search_optional_skipped, dropSlashes, kept, kept]
      rw [search, search_literal, if_neg first]

theorem search_authority (accepts : Accepts next Closes) (url : Bytes) (captures : Captures UInt8) :
    ∃ captures', search (.optional authorityRegex) next url captures =
        next ((behindUser (dropSlashes url)).dropWhile (noneOf "/?#")) captures' ∧
      SameBut 3 12 captures captures' ∧
      ((∀ number, 3 ≤ number → captures number = none) →
        str captures' 6 = before colon (userOf (dropSlashes url)) ∧
        str captures' 8 = after colon (userOf (dropSlashes url)) ∧
        str captures' 10 = before colon ((behindUser (dropSlashes url)).takeWhile (noneOf "/?#")) ∧
        str captures' 12 = after colon ((behindUser (dropSlashes url)).takeWhile (noneOf "/?#"))) := by
  have recorded := accepts.recorded fun rest captures => capture captures 3 (url.take (url.length - rest.length))
  have acceptsHost := accepts_host recorded
  obtain ⟨withUser, foundUser, sameUser, user, password⟩ :=
    search_user acceptsHost (dropSlashes url) captures (fun _ => closes_behindUser)
  obtain ⟨withHost, foundHost, sameHost, host, service⟩ :=
    search_host recorded (behindUser (dropSlashes url)) withUser
  have acceptsUser : Accepts _ Reaches := fun url captures =>
    accepts_user acceptsHost url captures (fun _ => closes_behindUser)
  have inner := search_slashes acceptsUser url captures
  rw [foundUser, foundHost] at inner
  have whole : search authorityRegex next url captures =
      next ((behindUser (dropSlashes url)).dropWhile (noneOf "/?#")) (capture withHost 3 (url.take
        (url.length - ((behindUser (dropSlashes url)).dropWhile (noneOf "/?#")).length))) := inner
  rw [search_optional, whole]
  · refine ⟨_, rfl, ?_, ?_⟩
    · intro number outside
      rw [capture_other _ _ _ _ (by omega), sameHost number (by omega), sameUser number (by omega)]
    · intro fresh
      have unset : withUser 12 = none := by rw [sameUser 12 (by decide), fresh 12 (by decide)]
      refine ⟨?_, ?_, ?_, ?_⟩
      · rw [str_other _ _ _ _ (by decide), sameHost.str 6 (by decide), user (fresh 6 (by decide))]
      · rw [str_other _ _ _ _ (by decide), sameHost.str 8 (by decide), password (fresh 8 (by decide))]
      · rw [str_other _ _ _ _ (by decide), host]
      · rw [str_other _ _ _ _ (by decide), service unset]
  -- without the authority the same fragment would have to be matched
  · intro some
    rw [whole, accepts, closes_dropWhile (by decide)]
    have closes := closes_behindUser ((accepts _ _).mp some)
    rwa [← Reaches, reaches_dropSlashes]

theorem accepts_authority (accepts : Accepts next Closes) :
    Accepts (search (.optional authorityRegex) next) Reaches := by
  intro url captures
  obtain ⟨captures', found, -⟩ := search_authority accepts url captures
  rw [found, accepts, closes_dropWhile (by decide), ← Reaches, reaches_dropSlashes]

theorem shrinks_reaches : Shrinks (noneOf ":.@/?#") Reaches := fun _ rest allowed reaches =>
  (reaches_cons (ne_of_noneOf (by decide) allowed) (ne_of_noneOf (by decide) allowed) rest).mp reaches

theorem search_schemeRegex (accepts : Accepts next Reaches) (c : UInt8) (rest : Bytes) (captures : Captures UInt8)
    (allowed : noneOf ":.@/?#" c = true) :
    search schemeRegex next (c :: rest) captures =
      search (literal colon) (fun behind captures =>
          next behind (capture captures 1 ((c :: rest).take ((c :: rest).length - behind.length))))
        ((c :: rest).dropWhile (noneOf ":.@/?#"))
        (capture captures 2 ((c :: rest).takeWhile (noneOf ":.@/?#"))) := by
  have inside := (accepts_literal (accepts.recorded fun behind captures =>
    capture captures 1 ((c :: rest).take ((c :: rest).length - behind.length))) colon).recorded fun behind captures =>
    capture captures 2 ((c :: rest).take ((c :: rest).length - behind.length))
  have shrinks : Shrinks (noneOf ":.@/?#") (fun text => ∃ rest, text = colon :: rest ∧ Reaches rest) := by
    rintro other text allowed ⟨behind, shape, -⟩
    exact absurd (List.cons.inj shape).1 (ne_of_noneOf (by decide) allowed)
  have run := search_star inside (noneOf ":.@/?#") shrinks rest captures
  have dropped : rest.dropWhile (noneOf ":.@/?#") = (c :: rest).dropWhile (noneOf ":.@/?#") :=
    (List.dropWhile_cons_of_pos allowed).symm
  rw [dropped, take_of_dropWhile] at run
  rw [schemeRegex, search, search, search, search, search, if_pos allowed]
  exact run

/-- A scheme is taken, where there is one. -/
theorem search_scheme (accepts : Accepts next Reaches) (url : Bytes) (captures : Captures UInt8) :
    ∃ captures', search (.optional schemeRegex) next url captures = next (behindScheme url) captures' ∧
      SameBut 1 2 captures captures' ∧ (captures 2 = none → str captures' 2 = schemeOf url) := by
  have skipped : search schemeRegex next url captures = none → schemeOf url = [] →
      ∃ captures', search (.optional schemeRegex) next url captures = next (behindScheme url) captures' ∧
        SameBut 1 2 captures captures' ∧ (captures 2 = none → str captures' 2 = schemeOf url) := by
    intro fails none
    rw [search_optional_skipped _ _ _ _ fails, behindScheme, if_pos none, none]
    exact ⟨captures, rfl, fun _ _ => rfl, str_none⟩
  cases url with
  | nil => exact skipped rfl rfl
  | cons c rest =>
    by_cases allowed : noneOf ":.@/?#" c = true
    · have found := search_schemeRegex accepts c rest captures allowed
      have full : (c :: rest).takeWhile (noneOf ":.@/?#") ≠ [] := by simp [allowed]
      have shrunk : Reaches (c :: rest) → Reaches ((c :: rest).dropWhile (noneOf ":.@/?#")) := shrinks_reaches.dropWhile
      by_cases first : ((c :: rest).dropWhile (noneOf ":.@/?#")).head? = some colon
      · have taken : schemeOf (c :: rest) = (c :: rest).takeWhile (noneOf ":.@/?#") := by rw [schemeOf, if_pos first]
        obtain ⟨behind, shape⟩ := List.head?_eq_some_iff.mp first
        rw [shape, search_literal, if_pos rfl] at found
        rw [search_optional, found, behindScheme, taken, if_neg full, shape]
        · refine ⟨_, rfl, ?_, ?_⟩
          · intro number outside
            rw [capture_other _ _ _ _ (by omega), capture_other _ _ _ _ (by omega)]
          · intro _
            rw [str_other _ _ _ _ (by decide), str_same]
        · intro some
          rw [found, accepts]
          have reaches := shrunk ((accepts _ _).mp some)
          rw [shape] at reaches
          exact (reaches_cons (by decide) (by decide) behind).mp reaches
      · apply skipped
        · rw [found]
          cases behind : (c :: rest).dropWhile (noneOf ":.@/?#") with
          | nil => rfl
          | cons other text =>
            rw [behind] at first
            rw [search_literal, if_neg (by simpa using first)]
        · rw [schemeOf, if_neg first]
    · apply skipped
      · rw [schemeRegex, search, search, search, search, search, if_neg allowed]
      · rw [schemeOf, List.takeWhile_cons_of_neg allowed, ite_self]

end

/-! ### The whole expression -/

theorem fullMatch_urlRegex (url : Bytes) :
    (fullMatch urlRegex url).map partsIn = if Closes (fromHost url) then some (partsOf url) else none := by
  have ends := accepts_finish.recorded fun rest captures =>
    capture captures 0 (url.take (url.length - rest.length))
  have acceptsTarget := accepts_target (accepts_fragment ends)
  obtain ⟨atHost, foundScheme, sameScheme, scheme⟩ :=
    search_scheme (accepts_authority acceptsTarget) url (fun _ => none)
  obtain ⟨atPath, foundAuthority, sameAuthority, authority⟩ :=
    search_authority acceptsTarget (behindScheme url) atHost
  obtain ⟨atFragment, foundTarget, sameTarget, path, query⟩ :=
    search_target (accepts_fragment ends) ((fromHost url).dropWhile (noneOf "/?#")) atPath
  obtain ⟨rest, atEnd, foundFragment, sameFragment⟩ :=
    search_fragment ends (((fromHost url).dropWhile (noneOf "/?#")).dropWhile (noneOf "#")) atFragment
  have found : fullMatch urlRegex url = search targetRegex (search fragmentRegex _)
      ((fromHost url).dropWhile (noneOf "/?#")) atPath := foundScheme.trans foundAuthority
  have closes : (fullMatch urlRegex url).isSome ↔ Closes (fromHost url) := by
    rw [found, acceptsTarget, closes_dropWhile (by decide)]
  rw [foundTarget, foundFragment] at found
  by_cases whole : Closes (fromHost url)
  · obtain ⟨m, matched⟩ := Option.isSome_iff_exists.mp (closes.mpr whole)
    have last : m = capture atEnd 0 (url.take (url.length - rest.length)) := by
      rw [matched] at found
      cases rest with
      | nil => exact Option.some.inj found
      | cons c rest => cases found
    have unset : ∀ number, 3 ≤ number → atHost number = none := fun number late => sameScheme number (by omega)
    obtain ⟨user, password, host, service⟩ := authority unset
    have unsetQuery : atPath 15 = none := by rw [sameAuthority 15 (by decide), unset 15 (by decide)]
    have late : ∀ number, 13 ≤ number → number < 16 → str m number = str atFragment number := by
      intro number low high
      rw [last, str_other _ _ _ _ (by omega), sameFragment.str number (by omega)]
    have early : ∀ number, 0 < number → number < 13 → str m number = str atPath number := by
      intro number low high
      rw [last, str_other _ _ _ _ (by omega), sameFragment.str number (by omega), sameTarget.str number (by omega)]
    have schemeRead : str m 2 = schemeOf url := by
      rw [early 2 (by decide) (by decide), sameAuthority.str 2 (by decide), scheme rfl]
    have parts : partsIn m = partsOf url := by
      rw [partsIn, schemeRead, early 6 (by decide) (by decide), early 8 (by decide) (by decide),
        early 10 (by decide) (by decide), early 12 (by decide) (by decide), late 13 (by decide) (by decide),
        late 15 (by decide) (by decide), user, password, host, service, path, query unsetQuery]
      rfl
    rw [matched, if_pos whole, Option.map_some, parts]
  · have missing : fullMatch urlRegex url = none := by
      rw [← Option.not_isSome_iff_eq_none, closes]
      exact whole
    rw [missing, if_neg whole]
    rfl

example : (fullMatch urlRegex (text "wss://me:pw@host:81/a/b?c=d#e")).map partsIn =
    some ⟨text "wss", text "me", text "pw", text "host", text "81", text "/a/b", text "c=d"⟩ := by decide +kernel

end WebsocketClient.UrlRegexes
