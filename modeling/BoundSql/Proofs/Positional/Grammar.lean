import BoundSql.Proofs.Positional.Plain

/-!
# The grammar of lexemes

Which stretches of SQL are read as one lexeme is said here without the reader. `StandsBefore` lists
the forms that a lexeme can have, each with what may follow it: a quoted stretch is closed by a
quote that is not doubled, or else reaches the end of the text; a comment reaches the end of its
line; a name is as long as it can be; any other character begins nothing longer. A reading of a text
(`Reads`) is a division of it, from left to right, into such lexemes.

* `nextLexeme_of_standsBefore`, `standsBefore_nextLexeme`: the next lexeme is that of the grammar;
* `reads_iff`: a text has one reading, and `lexemes` finds it.
-/

namespace BoundSql

/-- What a quoted stretch may hold: of its own quote, only two in a row. -/
inductive Doubled (quote : Char) : List Char → Prop where
  | nil : Doubled quote []
  | char {c : Char} {rest : List Char} (hc : c ≠ quote) (h : Doubled quote rest) :
    Doubled quote (c :: rest)
  | pair {rest : List Char} (h : Doubled quote rest) : Doubled quote (quote :: quote :: rest)

/-- A lexeme of the grammar, with a text that may follow it. -/
inductive StandsBefore : Lexeme → List Char → Prop where
  | closed {quote : Char} {inside after : List Char} (hq : isQuote quote = true)
    (hi : Doubled quote inside) (ha : after.head? ≠ some quote) :
    StandsBefore (.quoted (quote :: (inside ++ [quote]))) after
  | unclosed {quote : Char} {inside : List Char} (hq : isQuote quote = true)
    (hi : Doubled quote inside) : StandsBefore (.quoted (quote :: inside)) []
  | comment {body after : List Char} (hb : '\n' ∉ body) (ha : ∀ c ∈ after.head?, c = '\n') :
    StandsBefore (.comment ('-' :: '-' :: body)) after
  | cast {after : List Char} : StandsBefore .cast after
  | placeholder {name : String} {after : List Char} (hn : IsName name.toList)
    (ha : ∀ c ∈ after.head?, Text.isNameChar c = false) : StandsBefore (.placeholder name) after
  | other {c : Char} {after : List Char} (hq : isQuote c = false)
    (hd : c = '-' → after.head? ≠ some '-')
    (hc : c = ':' → ∀ d ∈ after.head?, d ≠ ':' ∧ Text.isNameStart d = false) :
    StandsBefore (.other c) after

/-- A division of a text into lexemes of the grammar. -/
inductive Reads : List Char → List Lexeme → Prop where
  | nil : Reads [] []
  | cons {lexeme : Lexeme} {after : List Char} {rest : List Lexeme}
    (h : StandsBefore lexeme after) (hr : Reads after rest) :
    Reads (lexeme.text ++ after) (lexeme :: rest)

/-! ## Quoted stretches -/

theorem takeQuoted_cons {quote c : Char} {rest : List Char} (hc : c ≠ quote) :
    takeQuoted quote (c :: rest) =
      (c :: (takeQuoted quote rest).1, (takeQuoted quote rest).2) := by
  cases rest <;> simp [takeQuoted, hc]

theorem takeQuoted_closed {quote : Char} {inside after : List Char} (h : Doubled quote inside)
    (ha : after.head? ≠ some quote) :
    takeQuoted quote (inside ++ quote :: after) = (inside ++ [quote], after) := by
  induction h with
  | nil =>
    cases after with
    | nil => simp [takeQuoted]
    | cons d rest =>
      have hd : d ≠ quote := by simpa using ha
      simp [takeQuoted, hd]
  | char hc h ih => rw [List.cons_append, takeQuoted_cons hc, ih, List.cons_append]
  | pair h ih => simp [takeQuoted, ih]

theorem takeQuoted_unclosed {quote : Char} {inside : List Char} (h : Doubled quote inside) :
    takeQuoted quote inside = (inside, []) := by
  induction h with
  | nil => rfl
  | char hc h ih => rw [takeQuoted_cons hc, ih]
  | pair h ih => simp [takeQuoted, ih]

/-- What follows an opening quote is closed by a quote that is not doubled, or never. -/
theorem takeQuoted_cases (quote : Char) (s : List Char) :
    (∃ inside after, Doubled quote inside ∧ after.head? ≠ some quote ∧
      takeQuoted quote s = (inside ++ [quote], after)) ∨
    (∃ inside, Doubled quote inside ∧ takeQuoted quote s = (inside, [])) := by
  fun_induction takeQuoted quote s with
  | case1 => exact .inr ⟨[], .nil, rfl⟩
  | case2 => exact .inl ⟨[], [], .nil, by simp, rfl⟩
  | case3 others inside after heq ih =>
    rw [heq] at ih
    rcases ih with ⟨body, rest, hbody, hrest, he⟩ | ⟨body, hbody, he⟩
    · obtain ⟨rfl, rfl⟩ := Prod.mk.inj he
      exact .inl ⟨quote :: quote :: body, after, .pair hbody, hrest, rfl⟩
    · obtain ⟨rfl, rfl⟩ := Prod.mk.inj he
      exact .inr ⟨_, .pair hbody, rfl⟩
  | case4 d others hd => exact .inl ⟨[], d :: others, .nil, by simpa using hd, rfl⟩
  | case5 c rest hc inside after heq ih =>
    rw [heq] at ih
    rcases ih with ⟨body, rest, hbody, hrest, he⟩ | ⟨body, hbody, he⟩
    · obtain ⟨rfl, rfl⟩ := Prod.mk.inj he
      exact .inl ⟨c :: body, after, .char hc hbody, hrest, rfl⟩
    · obtain ⟨rfl, rfl⟩ := Prod.mk.inj he
      exact .inr ⟨_, .char hc hbody, rfl⟩

/-! ## The next lexeme -/

theorem nextLexeme_quoted {quote : Char} (hq : isQuote quote = true) (rest : List Char) :
    nextLexeme quote rest =
      (.quoted (quote :: (takeQuoted quote rest).1), (takeQuoted quote rest).2) := by
  unfold nextLexeme
  rw [if_pos hq]

theorem endsRun_line {after : List Char} (h : ∀ c ∈ after.head?, c = '\n') :
    Text.EndsRun (· != '\n') after := by
  intro c hc
  simp [h c hc]

theorem nextLexeme_comment {body after : List Char} (hb : '\n' ∉ body)
    (ha : ∀ c ∈ after.head?, c = '\n') :
    nextLexeme '-' ('-' :: (body ++ after)) = (.comment ('-' :: '-' :: body), after) := by
  have hline : ∀ c ∈ body, (c != '\n') = true := by
    intro c hc
    have hne : c ≠ '\n' := fun he => hb (he ▸ hc)
    simpa using hne
  have take := Text.takeWhile_run hline (endsRun_line ha)
  have drop := Text.dropWhile_run hline (endsRun_line ha)
  show (Lexeme.comment ('-' :: '-' :: (body ++ after).takeWhile (· != '\n')),
    (body ++ after).dropWhile (· != '\n')) = _
  rw [take, drop]

/-- A lexeme of the grammar is read where it stands, up to its end. -/
theorem nextLexeme_of_standsBefore {lexeme : Lexeme} {after : List Char}
    (h : StandsBefore lexeme after) :
    ∃ c rest, lexeme.text ++ after = c :: rest ∧ nextLexeme c rest = (lexeme, after) := by
  cases h with
  | @closed quote inside after hq hi ha =>
    refine ⟨quote, inside ++ quote :: after, by simp [Lexeme.text], ?_⟩
    rw [nextLexeme_quoted hq, takeQuoted_closed hi ha]
  | @unclosed quote inside hq hi =>
    refine ⟨quote, inside, by simp [Lexeme.text], ?_⟩
    rw [nextLexeme_quoted hq, takeQuoted_unclosed hi]
  | comment hb ha => exact ⟨'-', _, rfl, nextLexeme_comment hb ha⟩
  | cast => exact ⟨':', _, rfl, rfl⟩
  | placeholder hn ha => exact ⟨':', _, rfl, nextLexeme_placeholder hn ha⟩
  | @other c after hq hd hc => exact ⟨c, after, rfl, nextLexeme_other hq hd hc⟩

theorem isName_takeWhile {d : Char} (rest : List Char) (hd : Text.isNameStart d = true) :
    IsName ((d :: rest).takeWhile Text.isNameChar) := by
  have hchar := Text.isNameChar_of_isNameStart hd
  refine ⟨?_, List.all_takeWhile⟩
  rw [List.takeWhile_cons, if_pos hchar]
  simpa using hd

/-- What is read next is a lexeme of the grammar. -/
theorem standsBefore_nextLexeme (c : Char) (rest : List Char) :
    StandsBefore (nextLexeme c rest).1 (nextLexeme c rest).2 := by
  cases hq : isQuote c with
  | true =>
    rw [nextLexeme_quoted hq]
    rcases takeQuoted_cases c rest with ⟨inside, after, hi, ha, he⟩ | ⟨inside, hi, he⟩
    · rw [he]
      exact .closed hq hi ha
    · rw [he]
      exact .unclosed hq hi
  | false =>
    unfold nextLexeme
    rw [hq, if_neg Bool.false_ne_true]
    split
    · rename_i rest
      refine .comment (fun hn => ?_) fun d hd => ?_
      · exact absurd (Text.of_mem_takeWhile hn) (by decide)
      · have hend := Text.endsRun_dropWhile (· != '\n') rest d hd
        simpa using hend
    · exact .cast
    · rename_i d rest hcolon
      by_cases hd : Text.isNameStart d = true
      · rw [if_pos hd]
        refine .placeholder ?_ (Text.endsRun_dropWhile Text.isNameChar (d :: rest))
        rw [String.toList_ofList]
        exact isName_takeWhile rest hd
      · rw [if_neg hd]
        refine .other hq nofun fun _ e he => ?_
        obtain rfl : d = e := Option.some.inj he
        exact ⟨hcolon, Bool.not_eq_true _ ▸ hd⟩
    · rename_i hdash hcast hcolon
      refine .other hq ?_ ?_
      · rintro rfl hd
        obtain ⟨others, rfl⟩ : ∃ others, rest = '-' :: others := by
          cases rest with
          | nil => cases hd
          | cons d others => exact ⟨others, by rw [Option.some.inj hd]⟩
        exact hdash others rfl rfl
      · rintro rfl d hd
        cases rest with
        | nil => cases hd
        | cons e others => exact absurd rfl (hcolon e others rfl)

/-! ## Readings -/

theorem reads_lexemes (s : List Char) : Reads s (lexemes s) := by
  fun_induction lexemes s with
  | case1 => exact .nil
  | case2 c rest ih =>
    have h := Reads.cons (standsBefore_nextLexeme c rest) ih
    rwa [text_nextLexeme] at h

theorem Reads.eq_lexemes {s : List Char} {reading : List Lexeme} (h : Reads s reading) :
    reading = lexemes s := by
  induction h with
  | nil => rw [lexemes]
  | cons hs hr ih =>
    obtain ⟨c, rest, htext, hnext⟩ := nextLexeme_of_standsBefore hs
    rw [htext, lexemes, hnext, ← ih]

/-- A text has one reading, and `lexemes` finds it. -/
theorem reads_iff {s : List Char} {reading : List Lexeme} :
    Reads s reading ↔ reading = lexemes s := by
  constructor
  · exact Reads.eq_lexemes
  · rintro rfl
    exact reads_lexemes s

end BoundSql
