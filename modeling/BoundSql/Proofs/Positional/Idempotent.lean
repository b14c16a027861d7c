import BoundSql.Proofs.Positional.Lossless

/-!
# Positional forms have no placeholders

A positional form is read like the text it was made from: every quoted stretch, comment and cast
stands where it stood, and each placeholder has become the characters of its number (`spell`). So
there is nothing left to replace, for any backend.

Only a seam can go wrong, where something is written next to a lexeme that ended with a look at what
followed it. A number begins with neither a quote, nor a dash, nor a colon, and what it replaces
began with a colon, so that each lexeme may stand before it as well (`standsBefore_of_seam`).

* `lexemes_fill`: reading a text with its placeholders replaced, by induction on the grammar;
* `toPositional_idempotent`: nothing is replaced in a positional form.
-/

namespace BoundSql

/-- The lexemes with the first placeholder replaced by the characters of the first of the texts, and
so on. -/
def spell : List Lexeme → List (List Char) → List Lexeme
  | .placeholder _ :: rest, text :: texts => text.map .other ++ spell rest texts
  | lexeme :: rest, texts => lexeme :: spell rest texts
  | [], _ => []

/-- A text that can be written for a placeholder: some characters, none of which begins a longer
lexeme. -/
structure Inert (text : List Char) : Prop where
  ne_nil : text ≠ []
  harmless : text.all isHarmless = true

section
variable {lexeme : Lexeme} {rest : List Lexeme} {name : String}

theorem spell_placeholder (text : List Char) (texts : List (List Char)) :
    spell (.placeholder name :: rest) (text :: texts) = text.map .other ++ spell rest texts :=
  rfl

theorem spell_other (h : lexeme.name? = none) (texts : List (List Char)) :
    spell (lexeme :: rest) texts = lexeme :: spell rest texts := by
  cases lexeme with
  | placeholder name => cases h
  | _ => rfl

end

/-! ## Seams -/

/-- A text that may take the place of another behind a lexeme: it begins alike, or harmlessly where
the other one began with a colon. -/
def Seam (after after' : List Char) : Prop :=
  after'.head? = after.head? ∨
    (after.head? = some ':' ∧ ∃ c, after'.head? = some c ∧ isHarmless c = true)

theorem isHarmless_iff {c : Char} :
    isHarmless c = true ↔ isQuote c = false ∧ c ≠ ':' ∧ c ≠ '-' := by
  simp [isHarmless, and_assoc]

theorem StandsBefore.text_ne_nil {lexeme : Lexeme} {after : List Char}
    (h : StandsBefore lexeme after) : lexeme.text ≠ [] := by
  obtain ⟨c, rest, -, hnext⟩ := nextLexeme_of_standsBefore h
  have hne := BoundSql.text_ne_nil c rest
  rwa [hnext] at hne

/-- What is no placeholder may stand before a number as it did before the placeholder. -/
theorem standsBefore_of_seam {lexeme : Lexeme} {after after' : List Char}
    (h : StandsBefore lexeme after) (hn : lexeme.name? = none) (hs : Seam after after') :
    StandsBefore lexeme after' := by
  rcases hs with hs | ⟨hcolon, d, hd, harmless⟩
  · -- Only the first character of what follows is looked at, and whether there is one.
    cases h with
    | closed hq hi ha => exact .closed hq hi (hs ▸ ha)
    | unclosed hq hi =>
      rw [List.head?_nil, List.head?_eq_none_iff] at hs
      rw [hs]
      exact .unclosed hq hi
    | comment hb ha => exact .comment hb (hs ▸ ha)
    | cast => exact .cast
    | placeholder => cases hn
    | other hq hd hc => exact .other hq (hs ▸ hd) (hs ▸ hc)
  · obtain ⟨hquote, -, hdash⟩ := isHarmless_iff.1 harmless
    cases h with
    | closed hq hi ha =>
      refine .closed hq hi fun he => ?_
      obtain rfl := Option.some.inj (hd.symm.trans he)
      rw [hq] at hquote
      cases hquote
    | unclosed hq hi => cases hcolon
    | comment hb ha => exact absurd (ha ':' hcolon) (by decide)
    | cast => exact .cast
    | placeholder => cases hn
    | other hq _ hc =>
      refine .other hq (fun _ he => hdash (Option.some.inj (hd.symm.trans he))) fun he => ?_
      exact absurd rfl (hc he ':' hcolon).1

/-- A number takes the place of a placeholder behind any lexeme. -/
theorem Reads.seam {s : List Char} {tokens : List Lexeme} (h : Reads s tokens)
    {texts : List (List Char)} (ht : ∀ text ∈ texts, Inert text)
    (hl : (placeholderNames tokens).length = texts.length) : Seam s (fill tokens texts) := by
  cases h with
  | nil => exact .inl rfl
  | @cons lexeme after rest hs hr =>
    rcases lexeme.cases_name? with ⟨name, rfl⟩ | hn
    · cases texts with
      | nil => cases hl
      | cons text texts =>
        obtain ⟨hne, harmless⟩ := ht text List.mem_cons_self
        obtain ⟨c, others, rfl⟩ := List.exists_cons_of_ne_nil hne
        exact .inr ⟨rfl, c, rfl, List.all_eq_true.1 harmless c List.mem_cons_self⟩
    · obtain ⟨c, others, hc⟩ := List.exists_cons_of_ne_nil hs.text_ne_nil
      rw [fill_other hn, hc]
      exact .inl rfl

/-! ## Reading what was written -/

/-- A text with its placeholders replaced is read as the text was, with the characters of the
numbers in the places of the placeholders. -/
theorem lexemes_fill {s : List Char} {tokens : List Lexeme} (h : Reads s tokens)
    {texts : List (List Char)} (ht : ∀ text ∈ texts, Inert text)
    (hl : (placeholderNames tokens).length = texts.length) :
    lexemes (fill tokens texts) = spell tokens texts := by
  induction h generalizing texts with
  | nil => simp [fill, spell, lexemes]
  | @cons lexeme after rest hs hr ih =>
    rcases lexeme.cases_name? with ⟨name, rfl⟩ | hn
    · cases texts with
      | nil => cases hl
      | cons text texts =>
        rw [List.forall_mem_cons] at ht
        have harmless := ht.1.harmless
        rw [fill_placeholder, spell_placeholder,
          lexemes_append (plain_of_all harmless) (apart_of_all harmless),
          ih ht.2 (Nat.succ.inj hl)]
    · rw [placeholderNames_other hn] at hl
      obtain ⟨c, others, htext, hnext⟩ :=
        nextLexeme_of_standsBefore (standsBefore_of_seam hs hn (hr.seam ht hl))
      rw [fill_other hn, spell_other hn, htext, lexemes, hnext, ih ht hl]

theorem placeholderNames_spell {tokens : List Lexeme} {texts : List (List Char)}
    (hl : (placeholderNames tokens).length = texts.length) :
    placeholderNames (spell tokens texts) = [] := by
  induction tokens generalizing texts with
  | nil => rfl
  | cons lexeme rest ih =>
    rcases lexeme.cases_name? with ⟨name, rfl⟩ | hn
    · cases texts with
      | nil => cases hl
      | cons text texts =>
        have characters : placeholderNames (text.map .other) = [] := by
          simp [placeholderNames, List.filterMap_map, Lexeme.name?]
        rw [spell_placeholder, placeholderNames, List.filterMap_append, ← placeholderNames,
          ← placeholderNames, characters, ih (Nat.succ.inj hl)]
        rfl
    · rw [placeholderNames_other hn] at hl
      rw [spell_other hn, placeholderNames_other hn, ih hl]

/-- Without placeholders nothing is replaced and nothing is bound. -/
theorem assignPositions_of_no_names {backend : Backend} {bound : List String}
    {tokens : List Lexeme} (h : placeholderNames tokens = []) :
    assignPositions backend bound tokens = (tokens.flatMap Lexeme.text, bound) := by
  induction tokens with
  | nil => rfl
  | cons lexeme rest ih =>
    rcases lexeme.cases_name? with ⟨name, rfl⟩ | hn
    · cases h
    · rw [placeholderNames_other hn] at h
      rw [assignPositions_other hn, ih h]
      rfl

theorem toPositional_of_no_names {backend : Backend} {sql : String}
    (h : placeholderNames (lexemes sql.toList) = []) : toPositional backend sql = ⟨sql, []⟩ := by
  unfold toPositional
  rw [assignPositions_of_no_names h, text_lexemes]
  simp only [String.ofList_toList]

/-! ## Positional forms -/

theorem inert_placeholder (backend : Backend) (position : Nat) :
    Inert (backend.placeholder position) := by
  cases backend with
  | postgres =>
    refine ⟨List.cons_ne_nil _ _, List.all_eq_true.2 (List.forall_mem_cons.2 ⟨by decide, ?_⟩)⟩
    exact fun c hc => isHarmless_of_isDigit
      (Nat.isDigit_of_mem_toDigits (by decide) (by decide) hc)
  | mysql => exact ⟨List.cons_ne_nil _ _, rfl⟩
  | sqlite => exact ⟨List.cons_ne_nil _ _, rfl⟩

theorem length_positions (backend : Backend) (bound : List String) (tokens : List Lexeme) :
    (positions backend bound tokens).length = (placeholderNames tokens).length := by
  have h := congrArg List.length (resolved_positions backend bound tokens)
  rwa [List.length_map, List.length_map] at h

/-- A positional form is the text with numbers for its placeholders, and is read as such: no lexeme
of the text is lost and none is made. Any backend leaves it as it is and has no names to bind. -/
theorem toPositional_idempotent (d e : Backend) (sql : String) :
    (∃ places : List Nat,
      (toPositional d sql).sql.toList = fill (lexemes sql.toList) (places.map d.placeholder) ∧
      lexemes (toPositional d sql).sql.toList =
        spell (lexemes sql.toList) (places.map d.placeholder)) ∧
    toPositional e (toPositional d sql).sql = ⟨(toPositional d sql).sql, []⟩ := by
  have inert : ∀ text ∈ (positions d [] (lexemes sql.toList)).map d.placeholder, Inert text := by
    rw [List.forall_mem_map]
    exact fun position _ => inert_placeholder d position
  have length : (placeholderNames (lexemes sql.toList)).length =
      ((positions d [] (lexemes sql.toList)).map d.placeholder).length := by
    rw [List.length_map, length_positions]
  have text : (toPositional d sql).sql.toList =
      fill (lexemes sql.toList) ((positions d [] (lexemes sql.toList)).map d.placeholder) := by
    rw [sql_toPositional, fst_assignPositions]
  have reading := lexemes_fill (reads_lexemes sql.toList) inert length
  rw [← text] at reading
  refine ⟨⟨_, text, reading⟩, toPositional_of_no_names ?_⟩
  rw [reading, placeholderNames_spell length]

/-- Colons, dashes and an open quote next to placeholders. -/
example : toPositional .mysql (toPositional .postgres "::::a-:b-:b:c\":d").sql =
    ⟨"::::a-$1-$1$2\":d", []⟩ := by
  cbv

end BoundSql
