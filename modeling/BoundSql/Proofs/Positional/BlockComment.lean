import BoundSql.Proofs.Positional.Agreement
import BoundSql.Proofs.Positional.Settled

/-!
# Block comments

The search for placeholders knows comments that reach the end of their line, but not those between
`/*` and `*/`, whose bodies it reads like any other text. So a block comment is left alone exactly
when its body, read by itself, holds no placeholder and is settled (`Unseen`): otherwise a name is
taken from it, or an open quote or line comment hides the placeholders that follow.

* `assignPositions_append`: the positions in two texts, one after the other;
* `lexemes_around`: what is read around a block comment, and in it;
* `block_comment_untouched_iff`: the block comments that are left alone.
-/

namespace BoundSql

/-- A block comment. -/
def blockComment (body : String) : String :=
  "/*" ++ body ++ "*/"

/-- A text without quotes and without a beginning of a comment. -/
structure Uncommented (s : List Char) : Prop where
  quotes : ∀ c ∈ s, isQuote c = false
  lines : ¬ ['-', '-'] <:+: s
  blocks : ¬ ['/', '*'] <:+: s

/-- The positional form of a block comment between two texts leaves the comment as it is. The text
behind it goes on with the positions where the text before it stopped. -/
def LeavesComment (backend : Backend) (before body after : String) : Prop :=
  let left := assignPositions backend [] (lexemes before.toList)
  let right := assignPositions backend left.2 (lexemes after.toList)
  toPositional backend (before ++ blockComment body ++ after) =
    ⟨String.ofList left.1 ++ blockComment body ++ String.ofList right.1, right.2⟩

/-- The body of a block comment in which the search finds nothing, and behind which it goes on. -/
structure Unseen (body : String) : Prop where
  names : placeholderNames (lexemes body.toList) = []
  settled : Settled body.toList

/-! ## Positions in a row -/

theorem assignPositions_placeholder (backend : Backend) (bound : List String) (name : String)
    (rest : List Lexeme) :
    assignPositions backend bound (.placeholder name :: rest) =
      (backend.placeholder (assignPosition backend bound name).1 ++
          (assignPositions backend (assignPosition backend bound name).2 rest).1,
        (assignPositions backend (assignPosition backend bound name).2 rest).2) :=
  rfl

/-- The second text is numbered with the names of the first one bound. -/
theorem assignPositions_append (backend : Backend) (bound : List String) (p q : List Lexeme) :
    assignPositions backend bound (p ++ q) =
      ((assignPositions backend bound p).1 ++
          (assignPositions backend (assignPositions backend bound p).2 q).1,
        (assignPositions backend (assignPositions backend bound p).2 q).2) := by
  induction p generalizing bound with
  | nil => rfl
  | cons lexeme rest ih =>
    rcases lexeme.cases_name? with ⟨name, rfl⟩ | hn
    · rw [List.cons_append, assignPositions_placeholder, assignPositions_placeholder, ih,
        List.append_assoc]
    · rw [List.cons_append, assignPositions_other hn, assignPositions_other hn, ih,
        List.append_assoc]

/-- A backend that counts its placeholders writes the same for each, so what is written does not
depend on what was bound before. -/
theorem assignPositions_of_counts {backend : Backend} (hr : backend.reusesPositions = false)
    (bound : List String) (tokens : List Lexeme) :
    assignPositions backend bound tokens =
      ((assignPositions backend [] tokens).1, bound ++ placeholderNames tokens) := by
  have same (n : Nat) : backend.placeholder n = ['?'] := by
    cases backend with
    | postgres => cases hr
    | mysql | sqlite => rfl
  have text (bound : List String) : (assignPositions backend bound tokens).1 =
      fill tokens (List.replicate (placeholderNames tokens).length ['?']) := by
    rw [fst_assignPositions, List.map_congr_left fun n _ => same n, List.map_const',
      length_positions]
  exact Prod.ext ((text bound).trans (text []).symm) (positions_eq_range hr bound tokens).2

/-! ## Reading a block comment -/

theorem lexemes_slash (rest : List Char) : lexemes ('/' :: rest) = .other '/' :: lexemes rest :=
  lexemes_other rfl (by decide) fun h => absurd h (by decide)

theorem lexemes_star (rest : List Char) : lexemes ('*' :: rest) = .other '*' :: lexemes rest :=
  lexemes_other rfl (by decide) fun h => absurd h (by decide)

theorem toList_blockComment (body : String) :
    (blockComment body).toList = '/' :: '*' :: (body.toList ++ ['*', '/']) := by
  rw [blockComment, String.toList_append, String.toList_append]
  rfl

theorem toList_around (before body after : String) :
    (before ++ blockComment body ++ after).toList =
      before.toList ++ '/' :: '*' :: (body.toList ++ '*' :: '/' :: after.toList) := by
  simp only [String.toList_append, toList_blockComment, List.append_assoc, List.cons_append,
    List.nil_append]

/-- Behind a settled text a block comment and what follows it are read like any other text. -/
theorem lexemes_around {before : String} (hb : Settled before.toList) (body after : String) :
    lexemes (before ++ blockComment body ++ after).toList =
      lexemes before.toList ++
        .other '/' :: .other '*' :: lexemes (body.toList ++ '*' :: '/' :: after.toList) := by
  rw [toList_around, lexemes_append_of_settled hb (neutral_cons.2 (by decide)), lexemes_slash,
    lexemes_star]

/-- Behind a settled body the end of the comment is found. -/
theorem lexemes_behind {body : List Char} (hs : Settled body) (after : List Char) :
    lexemes (body ++ '*' :: '/' :: after) =
      lexemes body ++ .other '*' :: .other '/' :: lexemes after := by
  rw [lexemes_append_of_settled hs (neutral_cons.2 (by decide)), lexemes_star, lexemes_slash]

/-- A text without quotes, dashes and slashes begins no comment. -/
theorem uncommented_of_all {s : List Char}
    (h : s.all (fun c => !isQuote c && c != '-' && c != '/') = true) : Uncommented s := by
  rw [List.all_eq_true] at h
  refine ⟨fun c hc => ?_, fun hd => ?_, fun hb => ?_⟩
  · have hall := h c hc
    simp only [Bool.and_eq_true, Bool.not_eq_true'] at hall
    exact hall.1.1
  · exact absurd (h '-' (hd.subset List.mem_cons_self)) (by decide)
  · exact absurd (h '/' (hb.subset List.mem_cons_self)) (by decide)

theorem Uncommented.settled {s : List Char} (h : Uncommented s) : Settled s :=
  settled_of_no_quotes h.quotes h.lines

/-- A comment with an unseen body is left alone. -/
theorem Unseen.leavesComment {body : String} (h : Unseen body) (backend : Backend)
    {before : String} (hb : Settled before.toList) (after : String) :
    LeavesComment backend before body after := by
  let comment : List Lexeme :=
    .other '/' :: .other '*' :: (lexemes body.toList ++ [.other '*', .other '/'])
  have names : placeholderNames comment = [] := by
    show placeholderNames (lexemes body.toList ++ [.other '*', .other '/']) = []
    rw [placeholderNames, List.filterMap_append, ← placeholderNames, h.names]
    rfl
  have text : comment.flatMap Lexeme.text = (blockComment body).toList := by
    rw [toList_blockComment]
    simp only [comment, List.flatMap_cons, List.flatMap_append, text_lexemes, List.flatMap_nil,
      Lexeme.text, List.cons_append, List.nil_append]
  have reading : lexemes (before ++ blockComment body ++ after).toList =
      lexemes before.toList ++ (comment ++ lexemes after.toList) := by
    rw [lexemes_around hb, lexemes_behind h.settled]
    simp only [comment, List.cons_append, List.append_assoc, List.nil_append]
  unfold LeavesComment toPositional
  rw [reading, assignPositions_append, assignPositions_append, assignPositions_of_no_names names,
    text]
  simp only [String.ofList_append, String.ofList_toList, String.append_assoc]

/-- In what follows a body that is not settled, no placeholder is found. -/
theorem names_behind_open {body : List Char} (hs : ¬ Settled body) {after : List Char}
    (hq : ∀ c ∈ after, isQuote c = false) (hn : '\n' ∉ after) :
    placeholderNames (lexemes (body ++ '*' :: '/' :: after)) =
      placeholderNames (lexemes body) := by
  refine swallowed_of_not_settled hs ?_ ?_
  · rw [List.forall_mem_cons, List.forall_mem_cons]
    exact ⟨rfl, rfl, hq⟩
  · rw [List.mem_cons, List.mem_cons, not_or, not_or]
    exact ⟨by decide, by decide, hn⟩

/-- When a comment is left alone, no name is taken from it. -/
theorem LeavesComment.names {backend : Backend} (hr : backend.reusesPositions = false)
    {before body after : String} (h : LeavesComment backend before body after) :
    placeholderNames (lexemes (before ++ blockComment body ++ after).toList) =
      placeholderNames (lexemes before.toList) ++ placeholderNames (lexemes after.toList) := by
  have hbound := congrArg Positional.bindOrder h
  have left := (positions_eq_range hr [] (lexemes before.toList)).2
  rw [bindOrder_of_counts backend hr] at hbound
  rw [hbound, left, (positions_eq_range hr _ (lexemes after.toList)).2, List.nil_append]

theorem lexemes_empty : lexemes ("" : String).toList = [] := by
  rw [String.toList_empty, lexemes]

/-- A comment with nothing before it is left alone only when its body and the end of the comment
hold no placeholder. -/
theorem LeavesComment.names_behind {body after : String} (h : LeavesComment .sqlite "" body after) :
    placeholderNames (lexemes (body.toList ++ '*' :: '/' :: after.toList)) =
      placeholderNames (lexemes after.toList) := by
  have settled : Settled ("" : String).toList := by
    rw [Settled, lexemes_empty]
    intro lexeme hl
    cases hl
  have hnames := h.names rfl
  rw [lexemes_around settled, lexemes_empty] at hnames
  exact hnames

/-- A comment that is left alone with nothing behind it, and with a placeholder behind it, has an
unseen body. -/
theorem unseen_of_leavesComment {body : String} (alone : LeavesComment .sqlite "" body "")
    (followed : LeavesComment .sqlite "" body ":x") : Unseen body := by
  have plain : Uncommented ("" : String).toList := uncommented_of_all (by decide)
  have bound : Uncommented (":x" : String).toList := uncommented_of_all (by decide)
  have one : (":x" : String).toList = ':' :: (("x" : String).toList ++ []) := rfl
  have isName : IsName ("x" : String).toList := ⟨rfl, rfl⟩
  have found : lexemes (":x" : String).toList = [.placeholder "x"] := by
    rw [one, lexemes_placeholder isName calm_nil, lexemes]
  have none := alone.names_behind
  have single := followed.names_behind
  rw [lexemes_empty] at none
  rw [found] at single
  by_cases hs : Settled body.toList
  · refine ⟨?_, hs⟩
    rw [lexemes_behind hs, placeholderNames, List.filterMap_append, ← placeholderNames] at none
    exact (List.append_eq_nil_iff.1 none).1
  · -- The body has the names of both readings, with the placeholder behind it and without.
    rw [names_behind_open hs plain.quotes (by decide)] at none
    rw [names_behind_open hs bound.quotes (by decide)] at single
    rw [none] at single
    cases single

/-- For a backend that counts its placeholders, the texts around a comment that is left alone are
rewritten as each is by itself. -/
theorem leavesComment_iff_of_counts {backend : Backend} (hr : backend.reusesPositions = false)
    (before body after : String) :
    LeavesComment backend before body after ↔
      toPositional backend (before ++ blockComment body ++ after) =
        ⟨(toPositional backend before).sql ++ blockComment body ++
            (toPositional backend after).sql,
          (toPositional backend before).bindOrder ++ (toPositional backend after).bindOrder⟩ := by
  have left := (positions_eq_range hr [] (lexemes before.toList)).2
  have right := assignPositions_of_counts hr (placeholderNames (lexemes before.toList))
    (lexemes after.toList)
  rw [List.nil_append] at left
  rw [bindOrder_of_counts backend hr, bindOrder_of_counts backend hr]
  simp only [LeavesComment, left, right]
  rfl

/-- A block comment is left alone, between any texts without quotes and comments and for any
backend, exactly when its body is unseen. A backend that counts its placeholders then binds the
names before the comment and those behind it. For the search there are no block comments: what
stands in one is read like any other text, and so is what follows. -/
theorem block_comment_untouched_iff (body : String) :
    ((∀ backend before after, Uncommented before.toList → Uncommented after.toList →
        LeavesComment backend before body after) ↔ Unseen body) ∧
    (∀ backend : Backend, backend.reusesPositions = false → ∀ before after : String,
      (LeavesComment backend before body after ↔
        toPositional backend (before ++ blockComment body ++ after) =
          ⟨(toPositional backend before).sql ++ blockComment body ++
              (toPositional backend after).sql,
            (toPositional backend before).bindOrder ++ (toPositional backend after).bindOrder⟩)) ∧
    ∀ before after : String, Uncommented before.toList →
      lexemes (before ++ blockComment body ++ after).toList =
        lexemes before.toList ++
          .other '/' :: .other '*' :: lexemes (body ++ "*/" ++ after).toList := by
  refine ⟨⟨fun h => ?_, fun h backend before after hb _ => ?_⟩,
    fun backend hr before after => leavesComment_iff_of_counts hr before body after,
    fun before after hb => ?_⟩
  · have plain : Uncommented ("" : String).toList := uncommented_of_all (by decide)
    have bound : Uncommented (":x" : String).toList := uncommented_of_all (by decide)
    exact unseen_of_leavesComment (h .sqlite "" "" plain plain) (h .sqlite "" ":x" plain bound)
  · exact h.leavesComment backend hb.settled after
  · have closing : ("*/" : String).toList = ['*', '/'] := rfl
    rw [lexemes_around hb.settled]
    simp only [String.toList_append, closing, List.append_assoc, List.cons_append, List.nil_append]

/-- A name in a block comment is taken for a placeholder and bound. -/
theorem block_comment_rewritten :
    Uncommented ("SELECT a " : String).toList ∧
    Uncommented (" FROM t WHERE b = :b0" : String).toList ∧
    ¬ ['*', '/'] <:+: (" :x " : String).toList ∧
    toPositional .sqlite ("SELECT a " ++ blockComment " :x " ++ " FROM t WHERE b = :b0") =
      ⟨"SELECT a /* ? */ FROM t WHERE b = ?", ["x", "b0"]⟩ ∧
    ¬ LeavesComment .sqlite "SELECT a " " :x " " FROM t WHERE b = :b0" := by
  have first : IsName ("x" : String).toList := ⟨rfl, rfl⟩
  have second : IsName ("b0" : String).toList := ⟨rfl, rfl⟩
  have whole : ("SELECT a " ++ blockComment " :x " ++ " FROM t WHERE b = :b0").toList =
      ("SELECT a /* " : String).toList ++ ':' :: (("x" : String).toList ++
        ((" */ FROM t WHERE b = " : String).toList ++ ':' :: (("b0" : String).toList ++ []))) := by
    decide
  have behind : (" FROM t WHERE b = :b0" : String).toList =
      (" FROM t WHERE b = " : String).toList ++ ':' :: (("b0" : String).toList ++ []) := rfl
  have reading : lexemes ("SELECT a " ++ blockComment " :x " ++ " FROM t WHERE b = :b0").toList =
      ("SELECT a /* " : String).toList.map .other ++ .placeholder "x" ::
        ((" */ FROM t WHERE b = " : String).toList.map .other ++ [.placeholder "b0"]) := by
    rw [whole, lexemes_append (plain_of_all (by decide)) (apart_of_all (by decide)),
      lexemes_placeholder first (by decide),
      lexemes_append (plain_of_all (by decide)) (apart_of_all (by decide)),
      lexemes_placeholder second (by decide), lexemes]
  refine ⟨uncommented_of_all (by decide), uncommented_of_all (by decide),
    fun h => absurd (h.subset List.mem_cons_self) (by decide), ?_, fun h => ?_⟩
  · rw [toPositional, reading]
    rfl
  · have names := h.names rfl
    rw [reading, behind, ← List.append_nil ("SELECT a " : String).toList,
      lexemes_append (plain_of_all (by decide)) (apart_of_all (by decide)),
      lexemes_append (plain_of_all (by decide)) (apart_of_all (by decide)),
      lexemes_placeholder second (by decide), lexemes] at names
    exact absurd names (by decide)

end BoundSql
