import BoundSql.Proofs.Positional.Agreement
import BoundSql.Proofs.Statement.PlainStatement
import BoundSql.Proofs.Statement.Spaced

/-!
# Which placeholders are found

The placeholders of a statement begin with what remains of a field, which may be a digit; the search
for placeholders finds only names that begin with a letter or an underscore. So the stem of a field
decides whether its placeholders can be found at all (`StemStarts`). Where they stand does not
matter: behind a blank or a parenthesis and before a text that goes on with no name (`Spaced`),
whatever texts were given, so a placeholder is found as soon as nothing before it is left open.

* `lexemes_behind_separator`: how a name of a statement is read where it stands;
* `FoundBehind.settled`: where a placeholder can be found at all;
* `derived_found_iff`: the placeholders of a statement that are found.
-/

namespace BoundSql

/-- The search for placeholders finds the name in the text, right behind its beginning `before`. -/
def FoundBehind (before name sql : String) : Prop :=
  ∃ earlier later, lexemes sql.toList = earlier ++ .placeholder name :: later ∧
    earlier.flatMap Lexeme.text = before.toList

/-- How the placeholder `name` of a field is read: as one, or character by character. -/
def readingOf (field name : String) : List Lexeme :=
  if StemStarts field then [.placeholder name] else (':' :: name.toList).map .other

/-! ## Readings cut in two -/

/-- A lexeme that stands before a text stands before each of its beginnings. -/
theorem StandsBefore.of_append {lexeme : Lexeme} {s t : List Char}
    (h : StandsBefore lexeme (s ++ t)) : StandsBefore lexeme s := by
  cases s with
  | cons c rest => exact h.congr rfl
  | nil =>
    cases h with
    | closed hq hi _ => exact .closed hq hi nofun
    | unclosed hq hi => exact .unclosed hq hi
    | comment hb _ => exact .comment hb nofun
    | cast => exact .cast
    | placeholder hn _ => exact .placeholder hn nofun
    | other hq _ _ => exact .other hq (fun _ => nofun) fun _ => nofun

theorem Reads.text_eq {s : List Char} {tokens : List Lexeme} (h : Reads s tokens) :
    tokens.flatMap Lexeme.text = s := by
  rw [h.eq_lexemes, text_lexemes]

theorem Reads.exists_standsBefore {s : List Char} {tokens : List Lexeme} {lexeme : Lexeme}
    (h : Reads s tokens) (hm : lexeme ∈ tokens) : ∃ after, StandsBefore lexeme after := by
  induction h with
  | nil => cases hm
  | cons hs _ ih =>
    rcases List.mem_cons.1 hm with rfl | hm
    · exact ⟨_, hs⟩
    · exact ih hm

theorem isName_of_mem_lexemes {s : List Char} {name : String}
    (h : Lexeme.placeholder name ∈ lexemes s) : IsName name.toList := by
  obtain ⟨_, hs⟩ := (reads_lexemes s).exists_standsBefore h
  cases hs with
  | placeholder hn _ => exact hn

/-- The beginning of a reading is a reading, and its last lexeme stands before the rest. -/
theorem Reads.of_append {s : List Char} {tokens others : List Lexeme}
    (h : Reads s (tokens ++ others)) :
    Reads (tokens.flatMap Lexeme.text) tokens ∧
      ∀ lexeme ∈ tokens.getLast?, StandsBefore lexeme (others.flatMap Lexeme.text) := by
  induction tokens generalizing s with
  | nil =>
    exact ⟨.nil, nofun⟩
  | cons lexeme rest ih =>
    rw [List.cons_append] at h
    cases h with
    | @cons _ after _ hs hr =>
      obtain ⟨hreads, hlast⟩ := ih hr
      have hafter := hr.text_eq
      rw [List.flatMap_append] at hafter
      subst hafter
      refine ⟨.cons hs.of_append hreads, ?_⟩
      cases rest with
      | nil =>
        rintro _ ⟨⟩
        exact hs
      | cons next rest => exact hlast

/-- A lexeme that stands before something else than the end of a line is complete. -/
theorem StandsBefore.complete {lexeme : Lexeme} {c : Char} {rest : List Char}
    (h : StandsBefore lexeme (c :: rest)) (hc : c ≠ '\n') : lexeme.Complete := by
  cases h with
  | closed _ hi _ => exact .quoted hi
  | comment _ ha => exact absurd (ha c rfl) hc
  | cast => exact .cast
  | placeholder _ _ => exact .placeholder _
  | other _ _ _ => exact .other _

/-- A placeholder is found behind settled text only, and its name is one. -/
theorem FoundBehind.settled {before name sql : String} (h : FoundBehind before name sql) :
    Settled before.toList ∧ IsName name.toList := by
  obtain ⟨earlier, later, hlexemes, htext⟩ := h
  have hreads := reads_lexemes sql.toList
  rw [hlexemes] at hreads
  obtain ⟨hearlier, hlast⟩ := hreads.of_append
  rw [htext] at hearlier
  refine ⟨fun lexeme hl => ?_, isName_of_mem_lexemes (s := sql.toList) ?_⟩
  · rw [← hearlier.eq_lexemes] at hl
    exact (hlast lexeme hl).complete (c := ':') (by decide)
  · rw [hlexemes]
    exact List.mem_append_right _ List.mem_cons_self

/-- The names that are bound are those of the placeholders that are found. -/
theorem mem_bindOrder_iff (backend : Backend) (sql name : String) :
    name ∈ (toPositional backend sql).bindOrder ↔
      Lexeme.placeholder name ∈ lexemes sql.toList := by
  have hnames : name ∈ placeholderNames (lexemes sql.toList) ↔
      Lexeme.placeholder name ∈ lexemes sql.toList := by
    rw [placeholderNames, List.mem_filterMap]
    constructor
    · rintro ⟨lexeme, hmem, hname⟩
      rcases lexeme.cases_name? with ⟨other, rfl⟩ | hnone
      · rwa [← Option.some.inj hname]
      · rw [hnone] at hname
        cases hname
    · exact fun hmem => ⟨_, hmem, rfl⟩
  cases hr : backend.reusesPositions with
  | true => rw [bindOrder_of_reuses backend hr, List.mem_eraseDups, hnames]
  | false => rw [bindOrder_of_counts backend hr, hnames]

/-! ## Names of fields -/

theorem all_isNameChar_stem (field : String) :
    (stemText field).toList.all Text.isNameChar = true := by
  rw [stemText, String.toList_ofList]
  exact List.all_eq_true.2 fun c hc => (List.mem_filter.1 hc).2

/-- The first character of a stem decides whether what it begins is a name. -/
theorem isName_append_iff {field suffix : String} (hf : Nameable field)
    (hs : suffix.toList.all Text.isNameChar = true) :
    IsName (stemText field ++ suffix).toList ↔ StemStarts field := by
  constructor
  · rintro ⟨hstart, -⟩
    rw [StemStarts]
    cases hc : stemChars field with
    | nil => exact absurd hc hf
    | cons c rest => simpa [stemText, hc] using hstart
  · intro hstart
    rw [String.toList_append]
    exact (isName_stem hstart).append hs

theorem Derived.exists_suffix {field name : String} (h : Derived field name) :
    ∃ suffix : String, suffix.toList.all Text.isNameChar = true ∧
      name = stemText field ++ suffix := by
  have behind (index : Nat) {tail : String} (ht : tail.toList.all Text.isNameChar = true) :
      (toString index ++ tail).toList.all Text.isNameChar = true := by
    rw [String.toList_append, List.all_append, all_isNameChar_digits, ht]
    rfl
  cases h with
  | column => exact ⟨"", rfl, String.append_empty.symm⟩
  | comparison index => exact ⟨toString index, all_isNameChar_digits index, rfl⟩
  | element index k =>
    refine ⟨toString index ++ ("in" ++ toString k), behind index ?_, ?_⟩
    · rw [String.toList_append, List.all_append, all_isNameChar_digits]
      rfl
    · rw [elementName, String.append_assoc, String.append_assoc]
  | low index => exact ⟨toString index ++ "btw0", behind index rfl, String.append_assoc⟩
  | high index => exact ⟨toString index ++ "btw1", behind index rfl, String.append_assoc⟩

/-! ## Names where they stand -/

theorem lexemes_quoted {quote : Char} {inside after : List Char} (hq : isQuote quote = true)
    (hi : Doubled quote inside) (ha : after.head? ≠ some quote) :
    lexemes (quote :: (inside ++ quote :: after)) =
      .quoted (quote :: (inside ++ [quote])) :: lexemes after := by
  rw [lexemes, nextLexeme_quoted hq, takeQuoted_closed hi ha]

theorem isHarmless_of_isNameChar {c : Char} (h : Text.isNameChar c = true) :
    isHarmless c = true := by
  have ne (d : Char) (hd : Text.isNameChar d = false) : c ≠ d := by
    rintro rfl
    rw [h] at hd
    cases hd
  simp [isHarmless, isQuote, ne '\'' rfl, ne '"' rfl, ne '\x60' rfl, ne ':' rfl, ne '-' rfl]

/-- A colon before a character that begins no name is read by itself, and so is what follows it. -/
theorem lexemes_colon_of_not_start {d : Char} {rest after : List Char}
    (hd : Text.isNameStart d = false) (hc : (d :: rest).all Text.isNameChar = true) :
    lexemes (':' :: (d :: rest ++ after)) =
      (':' :: d :: rest).map .other ++ lexemes after := by
  have hall : (d :: rest).all isHarmless = true := by
    rw [List.all_eq_true] at hc ⊢
    exact fun e he => isHarmless_of_isNameChar (hc e he)
  have hcolon : d ≠ ':' := by
    rintro rfl
    exact absurd (List.all_eq_true.1 hall ':' List.mem_cons_self) (by decide)
  have hnext : nextLexeme ':' (d :: rest ++ after) = (.other ':', d :: rest ++ after) :=
    nextLexeme_other rfl (fun h => absurd h (by decide)) fun _ e he => by
      obtain rfl : d = e := Option.some.inj he
      exact ⟨hcolon, hd⟩
  rw [lexemes, hnext, lexemes_append (plain_of_all hall) (apart_of_all hall)]
  rfl

/-- A name of a field is read as a whole or not at all, whatever goes on with no name behind it. -/
theorem lexemes_name {field suffix : String} (hf : Nameable field)
    (hs : suffix.toList.all Text.isNameChar = true) {after : List Char} (ha : Neutral after) :
    lexemes (':' :: ((stemText field ++ suffix).toList ++ after)) =
      readingOf field (stemText field ++ suffix) ++ lexemes after := by
  rw [readingOf]
  by_cases hstart : StemStarts field
  · rw [if_pos hstart, lexemes_placeholder ((isName_append_iff hf hs).2 hstart) ha.calm,
      List.singleton_append]
  · rw [if_neg hstart]
    have hall : (stemText field ++ suffix).toList.all Text.isNameChar = true := by
      rw [String.toList_append, List.all_append, all_isNameChar_stem, hs]
      rfl
    cases hc : stemChars field with
    | nil => exact absurd hc hf
    | cons d rest =>
      have htext : (stemText field ++ suffix).toList = d :: (rest ++ suffix.toList) := by
        rw [String.toList_append, stemText, String.toList_ofList, hc, List.cons_append]
      have hd : Text.isNameStart d = false := by
        simpa [StemStarts, hc] using hstart
      rw [htext] at hall ⊢
      exact lexemes_colon_of_not_start hd hall

/-- A name by itself, in positional form. -/
theorem toPositional_name (backend : Backend) {field suffix : String} (hf : Nameable field)
    (hs : suffix.toList.all Text.isNameChar = true) :
    toPositional backend (":" ++ (stemText field ++ suffix)) =
      if StemStarts field then
        ⟨String.ofList (backend.placeholder 1), [stemText field ++ suffix]⟩
      else ⟨":" ++ (stemText field ++ suffix), []⟩ := by
  have htext : (":" ++ (stemText field ++ suffix)).toList =
      ':' :: ((stemText field ++ suffix).toList ++ []) := by
    rw [String.toList_append, List.append_nil]
    rfl
  have hlexemes := lexemes_name hf hs neutral_nil
  rw [← htext, lexemes, List.append_nil, readingOf] at hlexemes
  by_cases hstart : StemStarts field
  · rw [if_pos hstart] at hlexemes ⊢
    unfold toPositional
    rw [hlexemes, assignPositions, assignPosition_of_not_mem List.not_mem_nil]
    simp [assignPositions]
  · rw [if_neg hstart] at hlexemes ⊢
    refine toPositional_of_no_names ?_
    rw [hlexemes]
    exact List.filterMap_eq_nil_iff.2 (List.forall_mem_map.2 fun _ _ => rfl)

/-- Where a statement has a name of a field, the name is read like any other text, unless something
before it is open. -/
theorem lexemes_behind_separator {before after : List Char} {field suffix : String}
    (hb : Settled before) (he : EndsApart before) (hf : Nameable field)
    (hs : suffix.toList.all Text.isNameChar = true) (ha : Neutral after) :
    lexemes (before ++ ':' :: ((stemText field ++ suffix).toList ++ after)) =
      lexemes before ++ readingOf field (stemText field ++ suffix) ++ lexemes after := by
  rw [lexemes_append_of_colon hb he.last, lexemes_name hf hs ha, List.append_assoc]

/-! ## Placeholders of statements -/

/-- A placeholder in the text of a statement is read like its name by itself, unless something
before it is open. -/
theorem lexemes_slot {parts before after : List Part} {field name : String} {value : Value}
    (hp : Spaced [] parts) (hl : parts = before ++ .slot name value :: after)
    (hf : Nameable field) (hd : Derived field name) (hb : Settled (sqlOf before).toList) :
    lexemes (sqlOf parts).toList =
      lexemes (sqlOf before).toList ++ readingOf field name ++ lexemes (sqlOf after).toList := by
  subst hl
  obtain ⟨suffix, hs, rfl⟩ := hd.exists_suffix
  obtain ⟨he, ha⟩ := hp.around
  have colon : (":" : String).toList = [':'] := rfl
  rw [← lexemes_behind_separator hb he hf hs ha, sqlOf_append, sqlOf_cons, Part.sql]
  simp only [String.toList_append, colon, List.append_assoc, List.cons_append, List.nil_append]

/-- A placeholder of a statement is found where it stands exactly when its stem begins like a name
and nothing before it is open. -/
theorem foundBehind_iff {parts before after : List Part} {field name : String} {value : Value}
    (hp : Spaced [] parts) (hl : parts = before ++ .slot name value :: after)
    (hf : Nameable field) (hd : Derived field name) :
    FoundBehind (sqlOf before) name (sqlOf parts) ↔
      StemStarts field ∧ Settled (sqlOf before).toList := by
  constructor
  · intro h
    obtain ⟨hsettled, hname⟩ := h.settled
    obtain ⟨suffix, hs, rfl⟩ := hd.exists_suffix
    exact ⟨(isName_append_iff hf hs).1 hname, hsettled⟩
  · rintro ⟨hstart, hsettled⟩
    refine ⟨lexemes (sqlOf before).toList, lexemes (sqlOf after).toList, ?_, text_lexemes _⟩
    rw [lexemes_slot hp hl hf hd hsettled, readingOf, if_pos hstart, List.append_assoc,
      List.singleton_append]

/-- The placeholders of a field are found exactly when what remains of the field begins with a
letter or an underscore; otherwise they are left in the text and never bound. This holds of a name
by itself, whatever is put behind the stem, and of every placeholder in the text of a statement that
compiles: its value is there under the name, the name is one of a field that the statement checks,
and where nothing before the placeholder is left open, by a quote or a comment in a text that was
given, the search finds it when the first character allows. -/
theorem derived_found_iff {field base : String} (h : stem field = .ok base) (backend : Backend) :
    (∀ suffix : String, suffix.toList.all Text.isNameChar = true →
      toPositional backend (":" ++ (base ++ suffix)) =
        if StemStarts field then ⟨String.ofList (backend.placeholder 1), [base ++ suffix]⟩
        else ⟨":" ++ (base ++ suffix), []⟩) ∧
    ∀ table intent clauses compiled, compile table intent clauses = .ok compiled →
      ∀ before name value after, layout table intent clauses = before ++ .slot name value :: after →
        compiled.values.get? name = some value ∧
        (∃ owner, Part.named owner ∈ layout table intent clauses ∧ Derived owner name) ∧
        (Derived field name →
          (FoundBehind (sqlOf before) name compiled.sql ↔
            StemStarts field ∧ Settled (sqlOf before).toList) ∧
          (Settled (sqlOf before).toList →
            lexemes compiled.sql.toList =
              lexemes (sqlOf before).toList ++ readingOf field name ++
                lexemes (sqlOf after).toList) ∧
          (¬ StemStarts field → name ∉ (toPositional backend compiled.sql).bindOrder)) := by
  obtain ⟨hf, rfl⟩ := stem_eq_ok_iff.1 h
  refine ⟨fun suffix hs => toPositional_name backend hf hs, ?_⟩
  intro table intent clauses compiled hc before name value after hl
  obtain ⟨hready, rfl⟩ := compile_eq_ok_iff.1 hc
  have hslot : Part.slot name value ∈ layout table intent clauses := by
    rw [hl]
    exact List.mem_append_right _ List.mem_cons_self
  have hspaced := spaced_layout table intent clauses
  refine ⟨?_, ?_, fun hd => ⟨foundBehind_iff hspaced hl hf hd, lexemes_slot hspaced hl hf hd,
    fun hstart hm => ?_⟩⟩
  · have hpair : (name, value) ∈
        (OrderedMap.ofList (pairsOf (layout table intent clauses))).entries := by
      rw [OrderedMap.entries_ofList_of_nodup hready.fresh]
      exact List.mem_flatMap.2 ⟨_, hslot, List.mem_singleton_self _⟩
    exact OrderedMap.get?_of_mem hpair
  · obtain ⟨owner, hd, hnamed⟩ := owned_layout table intent clauses name value hslot
    exact ⟨owner, hnamed, hd⟩
  · obtain ⟨suffix, hs, rfl⟩ := hd.exists_suffix
    exact hstart ((isName_append_iff hf hs).1
      (isName_of_mem_lexemes ((mem_bindOrder_iff backend _ _).1 hm)))

/-- A comparison of a column behind the name of its table. -/
theorem derived_found_iff_qualified :
    stem "u.age" = .ok "uage" ∧
    toPositional .postgres (":" ++ ("uage" ++ "0")) =
      ⟨String.ofList (Backend.postgres.placeholder 1), ["uage" ++ "0"]⟩ ∧
    FoundBehind "SELECT * FROM t WHERE u.age = " "uage0"
      "SELECT * FROM t WHERE u.age = :uage0" := by
  have hstem : stem "u.age" = .ok "uage" := rfl
  obtain ⟨alone, placed⟩ := derived_found_iff hstem .postgres
  have compiles : compile "t" (.select [])
      { conditions := ⟨[{ conjunction := .and,
                          condition := .compare "u.age" .eq (some (.int 1)) }]⟩ } =
      .ok ⟨"SELECT * FROM t WHERE u.age = :uage0", .ofList [("uage0", .int 1)]⟩ := by
    decide +kernel
  have settled : Settled ("SELECT * FROM t WHERE u.age = " : String).toList :=
    settled_of_all (by decide)
  obtain ⟨-, -, found⟩ := placed "t" (.select []) _ _ compiles
    [.text "SELECT * FROM t", .text "", .text " WHERE ", .named "u.age", .text "u.age = "]
    "uage0" (.int 1) [.text "", .text ""] (by decide +kernel)
  have hbefore : sqlOf [.text "SELECT * FROM t", .text "", .text " WHERE ", .named "u.age",
      .text "u.age = "] = "SELECT * FROM t WHERE u.age = " := by decide +kernel
  rw [hbefore] at found
  exact ⟨hstem, (alone "0" rfl).trans (if_pos (by decide)),
    (found (.comparison 0)).1.2 ⟨by decide, settled⟩⟩

/-- The placeholder of a quoted column that begins with a digit is left in the text, and nothing is
bound to it. -/
theorem digit_stem_not_found :
    stem "\"2fa\"" = .ok "2fa" ∧
    compile "t" (.select [])
        { conditions := ⟨[{ conjunction := .and,
                            condition := .compare "\"2fa\"" .eq (some (.int 1)) }]⟩ } =
      .ok ⟨"SELECT * FROM t WHERE \"2fa\" = :2fa0", OrderedMap.ofList [("2fa0", .int 1)]⟩ ∧
    (∀ backend, toPositional backend ":2fa0" = ⟨":2fa0", []⟩) ∧
    ∀ backend, toPositional backend "SELECT * FROM t WHERE \"2fa\" = :2fa0" =
      ⟨"SELECT * FROM t WHERE \"2fa\" = :2fa0", []⟩ := by
  have nameable : Nameable "2fa" := by
    rw [Nameable]
    decide
  have digits : ("0" : String).toList.all Text.isNameChar = true := rfl
  have unread : ¬ StemStarts "2fa" := by decide
  have doubled : Doubled '"' ['2', 'f', 'a'] :=
    .char (by decide) (.char (by decide) (.char (by decide) .nil))
  have whole : ("SELECT * FROM t WHERE \"2fa\" = :2fa0" : String).toList =
      ("SELECT * FROM t WHERE " : String).toList ++ '"' :: (['2', 'f', 'a'] ++ '"' ::
        ((" = " : String).toList ++ ':' :: ((stemText "2fa" ++ "0").toList ++ []))) := by
    decide
  refine ⟨by decide, by decide +kernel, fun backend => ?_, fun backend => ?_⟩
  · have alone := toPositional_name backend nameable digits
    rw [if_neg unread] at alone
    exact alone
  · refine toPositional_of_no_names ?_
    rw [whole, lexemes_append (plain_of_all (by decide)) (apart_of_all (by decide)),
      lexemes_quoted rfl doubled (by decide),
      lexemes_append (plain_of_all (by decide)) (apart_of_all (by decide)),
      lexemes_name nameable digits neutral_nil, lexemes, readingOf, if_neg unread]
    rfl

end BoundSql
