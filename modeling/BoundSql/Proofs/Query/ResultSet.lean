import BoundSql.Proofs.Text.Layout
import BoundSql.ResultSet

/-!
# Which statements return rows, and their layout

A statement returns rows when its first word is one of a few keywords, which any blank or a
parenthesis ends, or when the word `RETURNING` stands in it between two plain spaces. The first test
does not depend on the layout of the statement (`opensWithRows_iff`). The second one does: between
other blanks, such as line ends, the word is not seen.

* `returnsRows_iff`: both tests, said without reading the statement;
* `rows_in_every_layout_iff`: the statements for which every layout is treated alike.
-/

namespace BoundSql

open Text

/-- The word that announces the rows of a statement that changes some. -/
def returningWord : List Char :=
  "RETURNING".toList

/-- The characters that end the first word. -/
def endsFirstWord (c : Char) : Bool :=
  isBlank c || c == '('

/-- The first word of the text, in any case, is a keyword of statements that return rows. -/
def OpensWithRows (s : List Char) : Prop :=
  ∃ keyword ∈ rowKeywords, ∃ w ws, Spells endsFirstWord (w :: ws) s ∧
    SameLetters w keyword.toList

/-! ## The first word -/

theorem endsFirstWord_toUpper (c : Char) : endsFirstWord c.toUpper = endsFirstWord c := by
  have hparenthesis : (c.toUpper == '(') = (c == '(') := by
    rw [Bool.eq_iff_iff, beq_iff_eq, beq_iff_eq, ← Char.toNat_inj, ← Char.toNat_inj,
      toNat_toUpper, show '('.toNat = 40 from rfl]
    split_ifs <;> omega
  rw [endsFirstWord, endsFirstWord, isBlank_toUpper, hparenthesis]

theorem endsFirstWord_of_isBlank {c : Char} (h : isBlank c = true) : endsFirstWord c = true := by
  rw [endsFirstWord, h, Bool.true_or]

theorem upperCase_of_mem_rowKeywords {keyword : String} (h : keyword ∈ rowKeywords) :
    upperCase keyword.toList = keyword.toList := by
  revert keyword
  decide

theorem opensWithRows_iff_fields {s : List Char} :
    OpensWithRows s ↔ ∃ keyword ∈ rowKeywords,
      keyword.toList ∈ ((fields endsFirstWord s).map upperCase).head? := by
  refine exists_congr fun keyword => and_congr_right fun hkeyword => ?_
  rw [List.head?_map, Option.mem_def, Option.map_eq_some_iff]
  constructor
  · rintro ⟨w, ws, hspells, hw⟩
    refine ⟨w, ?_, (sameLetters_iff.1 hw).trans (upperCase_of_mem_rowKeywords hkeyword)⟩
    rw [hspells.fields_eq]
    rfl
  · rintro ⟨w, hw, hupper⟩
    obtain ⟨ws, hfields⟩ : ∃ ws, fields endsFirstWord s = w :: ws :=
      ⟨_, List.eq_cons_of_mem_head? hw⟩
    refine ⟨w, ws, spells_iff.2 hfields, sameLetters_iff.2 ?_⟩
    rw [hupper, upperCase_of_mem_rowKeywords hkeyword]

/-- The first word is the same in every layout. -/
theorem opensWithRows_iff {s t : List Char} (h : Relaid s t) :
    OpensWithRows s ↔ OpensWithRows t := by
  have hfields := h.fields_append (fun _ => endsFirstWord_of_isBlank) endsFirstWord_toUpper []
  rw [List.append_nil, List.append_nil] at hfields
  rw [opensWithRows_iff_fields, opensWithRows_iff_fields, hfields]

theorem firstWord_mem_iff (s : List Char) :
    String.ofList (firstWord (upperCase (trimStart s))) ∈ rowKeywords ↔ OpensWithRows s := by
  have htrim : fields endsFirstWord (trimStart s) = fields endsFirstWord s := by
    conv_rhs => rw [← List.takeWhile_append_dropWhile (p := isBlank) (l := s)]
    rw [fields_gap_append fun c hc => endsFirstWord_of_isBlank (of_mem_takeWhile hc), trimStart]
  have hfirst : firstWord (upperCase (trimStart s)) =
      ((fields endsFirstWord s).map upperCase).headD [] := by
    rw [← htrim]
    exact congrArg (List.headD · []) (fields_map endsFirstWord_toUpper (trimStart s))
  rw [hfirst, opensWithRows_iff_fields]
  cases (fields endsFirstWord s).map upperCase with
  | nil => exact iff_of_false (by decide) fun ⟨_, _, hnone⟩ => Option.not_mem_none _ hnone
  | cons w ws =>
    constructor
    · intro h
      exact ⟨_, h, congrArg some String.toList_ofList.symm⟩
    · rintro ⟨keyword, hkeyword, hw⟩
      rw [List.headD_cons, Option.some.inj hw, String.ofList_toList]
      exact hkeyword

/-! ## The word between plain spaces -/

theorem contains_iff {part s : List Char} : contains part s = true ↔ part <:+: s := by
  induction s with
  | nil => rw [contains, List.isEmpty_iff, List.infix_nil]
  | cons c s ih =>
    rw [contains, startsWith, Bool.or_eq_true, ih, List.isPrefixOf_iff_prefix,
      List.infix_cons_iff]

theorem eq_space_of_toUpper {c : Char} (h : c.toUpper = ' ') : c = ' ' := by
  rw [← Char.toNat_inj, toNat_toUpper] at h
  rw [← Char.toNat_inj]
  rw [show ' '.toNat = 32 from rfl] at h ⊢
  split_ifs at h <;> omega

/-- Nothing stands before a text without its leading blanks, so that a word found in it between two
spaces is not its first. -/
theorem contains_returning_iff (s : List Char) :
    contains " RETURNING ".toList (upperCase (trimStart s)) = true ↔
      SetOff (· == ' ') returningWord s := by
  have hword : " RETURNING ".toList = ' ' :: (returningWord ++ [' ']) := by decide
  rw [contains_iff, hword]
  constructor
  · rintro ⟨a, b, htext⟩
    obtain ⟨front, after, htrim, hfront, -⟩ := List.map_eq_append_iff.1 htext.symm
    obtain ⟨before, middle, rfl, -, hmiddle⟩ := List.map_eq_append_iff.1 hfront
    obtain ⟨left, middle, rfl, hleft, hmiddle⟩ := List.map_eq_cons_iff.1 hmiddle
    obtain ⟨w, last, rfl, hw, hlast⟩ := List.map_eq_append_iff.1 hmiddle
    obtain ⟨right, rfl, hright⟩ := List.map_eq_singleton_iff.1 hlast
    have hbegins : EndsRun isBlank (trimStart s) := endsRun_dropWhile _ _
    rw [htrim, eq_space_of_toUpper hleft] at hbegins
    cases before with
    | nil => exact absurd (endsRun_cons.1 hbegins) (by decide)
    | cons c before =>
      refine ⟨s.takeWhile isBlank ++ c :: before, left, w, right, after, ?_,
        beq_iff_eq.2 (eq_space_of_toUpper hleft), beq_iff_eq.2 (eq_space_of_toUpper hright),
        sameLetters_iff.2 ?_, c, by simp, endsRun_cons.1 hbegins⟩
      · conv_lhs =>
          rw [← List.takeWhile_append_dropWhile (p := isBlank) (l := s), ← trimStart, htrim]
        simp
      · rw [upperCase, hw]
        decide
  · rintro ⟨before, left, w, right, after, rfl, hleft, hright, hw, c, hc, hblank⟩
    obtain rfl := beq_iff_eq.1 hleft
    obtain rfl := beq_iff_eq.1 hright
    have hsome : trimStart before ≠ [] := List.ne_nil_of_mem (mem_dropWhile hc hblank)
    have htrim : trimStart (before ++ ' ' :: w ++ ' ' :: after) =
        trimStart before ++ (' ' :: (w ++ [' ']) ++ after) := by
      rw [trimStart, List.append_assoc, List.dropWhile_append,
        if_neg (by simpa [trimStart] using hsome)]
      simp [trimStart]
    have hupper : upperCase (' ' :: (w ++ [' '])) = ' ' :: (returningWord ++ [' ']) := by
      have hw : upperCase w = returningWord := (sameLetters_iff.1 hw).trans (by decide)
      rw [← hw, upperCase, List.map_cons, List.map_append]
      rfl
    refine ⟨upperCase (trimStart before), upperCase after, ?_⟩
    rw [htrim, upperCase_append, upperCase_append, hupper, List.append_assoc]

/-! ## Statements that return rows -/

/-- A statement returns rows when its first word says so or `RETURNING` stands between two plain
spaces behind its first word. -/
theorem returnsRows_iff (sql : String) :
    returnsRows sql = true ↔
      OpensWithRows sql.toList ∨ SetOff (· == ' ') returningWord sql.toList := by
  rw [returnsRows, Bool.or_eq_true, decide_eq_true_eq, firstWord_mem_iff, contains_returning_iff]

theorem not_isBlank_returningWord : ∀ c ∈ returningWord, isBlank c = false := by
  have hall : returningWord.all (!isBlank ·) = true := by decide
  simpa using hall

theorem SetOff.mono {gap other : Char → Bool} (h : ∀ c, gap c = true → other c = true)
    {word s : List Char} (hs : SetOff gap word s) : SetOff other word s := by
  obtain ⟨before, left, w, right, after, htext, hleft, hright, hrest⟩ := hs
  exact ⟨before, left, w, right, after, htext, h _ hleft, h _ hright, hrest⟩

theorem isBlank_of_space {c : Char} (h : (c == ' ') = true) : isBlank c = true := by
  rw [beq_iff_eq.1 h]
  rfl

/-- Some layout of a statement with `RETURNING` between blanks is treated as one that returns
rows. -/
theorem exists_returnsRows {sql : String} (h : SetOff isBlank returningWord sql.toList) :
    ∃ other : String, Relaid sql.toList other.toList ∧ returnsRows other = true := by
  obtain ⟨t, hrelaid, hspaced⟩ := h.exists_relaid (· == ' ') (beq_self_eq_true ' ') rfl
  refine ⟨String.ofList t, ?_, (returnsRows_iff _).2 (.inr ?_)⟩
  · rwa [String.toList_ofList]
  · rwa [String.toList_ofList]

/-- Every statement has a layout in which only its first word counts. -/
theorem exists_returnsRows_iff_opens (sql : String) :
    ∃ other : String, Relaid sql.toList other.toList ∧
      (returnsRows other = true ↔ OpensWithRows sql.toList) := by
  have hrelaid : Relaid sql.toList (spaceless sql.toList) := relaid_append_spaceless [] _
  refine ⟨String.ofList (spaceless sql.toList), by rwa [String.toList_ofList], ?_⟩
  rw [returnsRows_iff, String.toList_ofList, ← opensWithRows_iff hrelaid, or_iff_left_iff_imp]
  rintro ⟨before, left, w, right, after, htext, hleft, -⟩
  refine absurd ?_ (space_not_mem_spaceless sql.toList)
  rw [htext, beq_iff_eq.1 hleft]
  simp

/-- Where all blanks are plain spaces, words between blanks stand between plain spaces. -/
theorem returnsRows_iff_of_spaces {sql : String}
    (h : ∀ c ∈ sql.toList, isBlank c = true → c = ' ') :
    returnsRows sql = true ↔
      OpensWithRows sql.toList ∨ SetOff isBlank returningWord sql.toList := by
  rw [returnsRows_iff]
  refine or_congr_right ⟨SetOff.mono fun _ => isBlank_of_space, ?_⟩
  rintro ⟨before, left, w, right, after, htext, hleft, hright, hrest⟩
  have hspace {c : Char} (hc : c ∈ sql.toList) (hblank : isBlank c = true) : (c == ' ') = true :=
    beq_iff_eq.2 (h c hc hblank)
  exact ⟨before, left, w, right, after, htext, hspace (by simp [htext]) hleft,
    hspace (by simp [htext]) hright, hrest⟩

/-- Which statements return rows, and for which of them that is told alike in every layout: those
that open with a keyword, and those in which `RETURNING` does not stand between blanks behind the
first word. So blanks matter only to statements that change rows and return them, and not even to
these as long as all blanks are plain spaces. -/
theorem rows_in_every_layout_iff (sql : String) :
    (returnsRows sql = true ↔
      OpensWithRows sql.toList ∨ SetOff (· == ' ') returningWord sql.toList) ∧
    ((∀ other : String, Relaid sql.toList other.toList → returnsRows other = returnsRows sql) ↔
      OpensWithRows sql.toList ∨ ¬ SetOff isBlank returningWord sql.toList) ∧
    ((∀ c ∈ sql.toList, isBlank c = true → c = ' ') →
      ∀ other : String, (∀ c ∈ other.toList, isBlank c = true → c = ' ') →
        Relaid sql.toList other.toList → returnsRows other = returnsRows sql) := by
  have hreturning {other : String} (h : Relaid sql.toList other.toList) :
      SetOff isBlank returningWord sql.toList ↔ SetOff isBlank returningWord other.toList :=
    h.setOff_iff (by decide) not_isBlank_returningWord
  refine ⟨returnsRows_iff sql, ⟨fun h => ?_, fun h other hrelaid => ?_⟩,
    fun hspaces other hspaces' hrelaid => ?_⟩
  · -- One layout shows the word to the test, another one hides it.
    rw [or_iff_not_imp_right, not_not]
    intro hsetOff
    obtain ⟨shown, hshown, hrows⟩ := exists_returnsRows hsetOff
    obtain ⟨hidden, hhidden, hopens⟩ := exists_returnsRows_iff_opens sql
    rw [← hopens, h hidden hhidden, ← h shown hshown, hrows]
  · rw [Bool.eq_iff_iff, returnsRows_iff, returnsRows_iff, ← opensWithRows_iff hrelaid]
    obtain hopens | hnone := h
    · exact iff_of_true (.inl hopens) (.inl hopens)
    · have hnone' := mt (hreturning hrelaid).2 hnone
      rw [or_iff_left (mt (SetOff.mono fun _ => isBlank_of_space) hnone),
        or_iff_left (mt (SetOff.mono fun _ => isBlank_of_space) hnone')]
  · rw [Bool.eq_iff_iff, returnsRows_iff_of_spaces hspaces, returnsRows_iff_of_spaces hspaces',
      opensWithRows_iff hrelaid, hreturning hrelaid]

/-- A deletion with other letters and a wider gap. -/
theorem rows_in_every_layout_iff_deletion :
    Relaid "DELETE FROM t RETURNING id".toList "delete from t   returning id".toList ∧
    returnsRows "delete from t   returning id" = returnsRows "DELETE FROM t RETURNING id" := by
  have hletters : Relaid "DELETE FROM t RETURNING id".toList
      "delete from t returning id".toList := .letters (by decide)
  have hgap := Relaid.gap "delete from t".toList "returning id".toList
    (List.cons_ne_nil ' ' []) (by simp [isBlank]) (List.cons_ne_nil ' ' [' ', ' '])
    (by simp [isBlank])
  have hrelaid : Relaid "DELETE FROM t RETURNING id".toList
      "delete from t   returning id".toList := hletters.trans (by simpa using hgap)
  have hspaces {s : List Char} (h : s.all (fun c => !isBlank c || c == ' ') = true) :
      ∀ c ∈ s, isBlank c = true → c = ' ' := fun c hc hblank => by
    simpa [hblank] using List.all_eq_true.1 h c hc
  exact ⟨hrelaid, (rows_in_every_layout_iff _).2.2 (hspaces (by decide)) _ (hspaces (by decide))
    hrelaid⟩

/-- An insertion with `RETURNING` behind a space and on a line of its own. -/
theorem returning_unseen_behind_line_end :
    Relaid "INSERT INTO t (name) VALUES (:x) RETURNING id".toList
      "INSERT INTO t (name) VALUES (:x)\nRETURNING id".toList ∧
    SetOff isBlank returningWord "INSERT INTO t (name) VALUES (:x)\nRETURNING id".toList ∧
    returnsRows "INSERT INTO t (name) VALUES (:x) RETURNING id" = true ∧
    returnsRows "INSERT INTO t (name) VALUES (:x)\nRETURNING id" = false := by
  have hgap := Relaid.gap "INSERT INTO t (name) VALUES (:x)".toList "RETURNING id".toList
    (List.cons_ne_nil ' ' []) (by simp [isBlank]) (List.cons_ne_nil '\n' []) (by simp [isBlank])
  have hsetOff : SetOff isBlank returningWord
      "INSERT INTO t (name) VALUES (:x)\nRETURNING id".toList :=
    ⟨"INSERT INTO t (name) VALUES (:x)".toList, '\n', returningWord, ' ', "id".toList,
      by decide, by decide, by decide, rfl, 'I', by decide, by decide⟩
  exact ⟨by simpa using hgap, hsetOff, by decide, by decide⟩

end BoundSql
