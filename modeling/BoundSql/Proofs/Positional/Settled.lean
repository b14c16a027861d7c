import BoundSql.Proofs.Positional.Idempotent

/-!
# Texts in a row

Two texts in a row are read one after the other, as each is by itself, when nothing of the first one
is open at its end: no quote waits to be closed and no comment for the end of its line (`Settled`),
and the second one begins with a character that goes on with no lexeme (`Neutral`). Behind a text
that is not settled nothing is found until the quote or the line ends.

* `reads_append`: readings in a row, as long as the last lexeme of the first may stand there;
* `lexemes_append_of_settled`, `lexemes_append_of_colon`: what may follow a settled text;
* `swallowed_of_not_settled`: what follows any other text.
-/

namespace BoundSql

/-- A lexeme that is over at its last character: no comment and no quoted stretch without a closing
quote. -/
inductive Lexeme.Complete : Lexeme → Prop where
  | quoted {quote : Char} {inside : List Char} (hi : Doubled quote inside) :
    Complete (.quoted (quote :: (inside ++ [quote])))
  | cast : Complete .cast
  | placeholder (name : String) : Complete (.placeholder name)
  | other (c : Char) : Complete (.other c)

/-- A text that leaves no quote and no comment open at its end. -/
def Settled (s : List Char) : Prop :=
  ∀ lexeme ∈ (lexemes s).getLast?, lexeme.Complete

/-- A text that goes on with no lexeme that stands before it. -/
def Neutral (s : List Char) : Prop :=
  s.head?.all (fun c => isHarmless c && !Text.isNameChar c) = true

instance (s : List Char) : Decidable (Neutral s) :=
  inferInstanceAs (Decidable (_ = true))

theorem neutral_nil : Neutral [] :=
  rfl

theorem neutral_cons {c : Char} {rest : List Char} :
    Neutral (c :: rest) ↔ isHarmless c = true ∧ Text.isNameChar c = false := by
  simp [Neutral]

theorem Neutral.head {s : List Char} (h : Neutral s) {c : Char} (hc : c ∈ s.head?) :
    isHarmless c = true ∧ Text.isNameChar c = false := by
  cases s with
  | nil => cases hc
  | cons d rest =>
    cases hc
    exact neutral_cons.1 h

theorem Neutral.append {s t : List Char} (hs : Neutral s) (ht : Neutral t) : Neutral (s ++ t) := by
  cases s with
  | nil => exact ht
  | cons c rest => exact hs

theorem Neutral.of_ne_nil {s t : List Char} (hs : Neutral s) (h : s ≠ []) : Neutral (s ++ t) := by
  cases s with
  | nil => exact absurd rfl h
  | cons c rest => exact hs

theorem Neutral.calm {s : List Char} (h : Neutral s) : Calm s := by
  cases s with
  | nil => exact calm_nil
  | cons c rest =>
    obtain ⟨hc, hn⟩ := neutral_cons.1 h
    exact calm_cons.2 ⟨(isHarmless_iff.1 hc).2.2, hn⟩

/-! ## Readings in a row -/

section
variable {s t : List Char} {tokens others : List Lexeme} {lexeme : Lexeme}

/-- What follows a lexeme matters by its first character only. -/
theorem StandsBefore.congr {after after' : List Char} (h : StandsBefore lexeme after)
    (he : after'.head? = after.head?) : StandsBefore lexeme after' := by
  cases h with
  | closed hq hi ha => exact .closed hq hi (he ▸ ha)
  | unclosed hq hi =>
    rw [List.head?_nil, List.head?_eq_none_iff] at he
    rw [he]
    exact .unclosed hq hi
  | comment hb ha => exact .comment hb (he ▸ ha)
  | cast => exact .cast
  | placeholder hn ha => exact .placeholder hn (he ▸ ha)
  | other hq hd hc => exact .other hq (he ▸ hd) (he ▸ hc)

/-- A lexeme that is not the last one keeps what follows it when a text is put behind. -/
theorem Reads.standsBefore_append {after : List Char} {next : Lexeme} {rest : List Lexeme}
    (hr : Reads after (next :: rest)) (hs : StandsBefore lexeme after) (t : List Char) :
    StandsBefore lexeme (after ++ t) := by
  refine hs.congr ?_
  cases hr with
  | cons hn _ =>
    obtain ⟨c, inside, hc⟩ := List.exists_cons_of_ne_nil hn.text_ne_nil
    rw [hc]
    rfl

theorem reads_append (h : Reads s tokens) (ht : Reads t others)
    (hl : ∀ lexeme ∈ tokens.getLast?, StandsBefore lexeme t) :
    Reads (s ++ t) (tokens ++ others) := by
  induction h with
  | nil => exact ht
  | @cons lexeme after rest hs hr ih =>
    rw [List.append_assoc, List.cons_append]
    cases rest with
    | nil =>
      cases hr
      exact .cons (hl lexeme rfl) ht
    | cons next rest => exact .cons (hr.standsBefore_append hs t) (ih hl)

theorem Reads.standsBefore_last (h : Reads s tokens) (hl : lexeme ∈ tokens.getLast?) :
    StandsBefore lexeme [] := by
  induction h with
  | nil => cases hl
  | @cons first after rest hs hr ih =>
    cases rest with
    | nil =>
      cases hr
      cases hl
      exact hs
    | cons next rest => exact ih hl

/-- A text ends in the last character of its last lexeme. -/
theorem Reads.getLast?_eq (h : Reads s tokens) (hl : lexeme ∈ tokens.getLast?) :
    s.getLast? = lexeme.text.getLast? := by
  induction h with
  | nil => cases hl
  | @cons first after rest hs hr ih =>
    cases rest with
    | nil =>
      cases hr
      obtain rfl : first = lexeme := Option.some.inj hl
      rw [List.append_nil]
    | cons next rest =>
      have hnext := ih hl
      have hne : lexeme.text.getLast? ≠ none := fun he =>
        (hr.standsBefore_last hl).text_ne_nil (List.getLast?_eq_none_iff.1 he)
      rw [List.getLast?_append, hnext]
      exact Option.or_of_isSome (Option.isSome_iff_ne_none.2 hne)

end

/-! ## Settled texts -/

theorem isQuote_of_standsBefore {quote : Char} {rest after : List Char}
    (h : StandsBefore (.quoted (quote :: rest)) after) : isQuote quote = true := by
  cases h <;> assumption

/-- A complete lexeme stands before a text that begins with neither a quote, nor a dash, nor a
character of a name, and not with a colon behind a colon. -/
theorem Lexeme.Complete.standsBefore {lexeme : Lexeme} (h : lexeme.Complete)
    (hs : StandsBefore lexeme []) {t : List Char}
    (ht : ∀ c ∈ t.head?, isQuote c = false ∧ c ≠ '-' ∧ Text.isNameChar c = false)
    (hc : lexeme = .other ':' → t.head? ≠ some ':') : StandsBefore lexeme t := by
  cases h with
  | @quoted quote inside hi =>
    have hq := isQuote_of_standsBefore hs
    refine .closed hq hi fun he => ?_
    rw [(ht quote he).1] at hq
    cases hq
  | cast => exact .cast
  | placeholder name =>
    cases hs with
    | placeholder hn _ => exact .placeholder hn fun c hc => (ht c hc).2.2
  | other c =>
    cases hs with
    | other hq _ _ =>
      refine .other hq (fun _ he => (ht '-' he).2.1 rfl) fun he d hd => ⟨?_, ?_⟩
      · rintro rfl
        exact hc (congrArg Lexeme.other he) hd
      · cases hstart : Text.isNameStart d with
        | false => rfl
        | true =>
          have hchar := Text.isNameChar_of_isNameStart hstart
          rw [(ht d hd).2.2] at hchar
          cases hchar

/-- A settled text and a neutral one are read one after the other. -/
theorem lexemes_append_of_settled {s t : List Char} (hs : Settled s) (ht : Neutral t) :
    lexemes (s ++ t) = lexemes s ++ lexemes t := by
  refine (reads_append (reads_lexemes s) (reads_lexemes t) fun lexeme hl => ?_).eq_lexemes.symm
  refine (hs lexeme hl).standsBefore ((reads_lexemes s).standsBefore_last hl) (fun c hc => ?_)
    fun _ he => ?_
  · obtain ⟨hharmless, hname⟩ := ht.head hc
    obtain ⟨hquote, -, hdash⟩ := isHarmless_iff.1 hharmless
    exact ⟨hquote, hdash, hname⟩
  · exact absurd (ht.head he).1 (by decide)

/-- So are a settled text and one that begins with a colon, unless two colons meet. -/
theorem lexemes_append_of_colon {s : List Char} (hs : Settled s) (hc : s.getLast? ≠ some ':')
    (t : List Char) : lexemes (s ++ ':' :: t) = lexemes s ++ lexemes (':' :: t) := by
  refine (reads_append (reads_lexemes s) (reads_lexemes (':' :: t))
    fun lexeme hl => ?_).eq_lexemes.symm
  refine (hs lexeme hl).standsBefore ((reads_lexemes s).standsBefore_last hl) (fun c he => ?_) ?_
  · obtain rfl : ':' = c := Option.some.inj he
    decide
  · rintro rfl
    exact absurd ((reads_lexemes s).getLast?_eq hl) hc

/-- A text without quotes and without two dashes in a row is settled. -/
theorem settled_of_no_quotes {s : List Char} (hq : ∀ c ∈ s, isQuote c = false)
    (hd : ¬ ['-', '-'] <:+: s) : Settled s := by
  intro lexeme hl
  have hmem := List.mem_of_getLast? hl
  have hpart : lexeme.text <:+: s := by
    obtain ⟨before, after, he⟩ := List.append_of_mem hmem
    refine ⟨before.flatMap Lexeme.text, after.flatMap Lexeme.text, ?_⟩
    rw [← text_lexemes s, he, List.flatMap_append, List.flatMap_cons, List.append_assoc]
  cases (reads_lexemes s).standsBefore_last hl with
  | closed hquote hi _ => exact .quoted hi
  | unclosed hquote hi =>
    have hc := hq _ (hpart.subset List.mem_cons_self)
    rw [hquote] at hc
    cases hc
  | comment hb _ => exact absurd (List.IsInfix.trans ⟨[], _, rfl⟩ hpart) hd
  | cast => exact .cast
  | placeholder hn _ => exact .placeholder _
  | other hc _ _ => exact .other _

theorem settled_of_all {s : List Char} (h : s.all (fun c => !isQuote c && c != '-') = true) :
    Settled s := by
  rw [List.all_eq_true] at h
  refine settled_of_no_quotes (fun c hc => ?_) fun hd => ?_
  · have hall := h c hc
    rw [Bool.and_eq_true, Bool.not_eq_true'] at hall
    exact hall.1
  · exact absurd (h '-' (hd.subset List.mem_cons_self)) (by decide)

/-! ## Open texts -/

theorem Doubled.append {quote : Char} {inside t : List Char} (h : Doubled quote inside)
    (ht : quote ∉ t) : Doubled quote (inside ++ t) := by
  induction h with
  | nil =>
    induction t with
    | nil => exact .nil
    | cons c rest ih =>
      rw [List.mem_cons, not_or] at ht
      exact .char (Ne.symm ht.1) (ih ht.2)
  | char hc _ ih => exact .char hc ih
  | pair _ ih => exact .pair ih

/-- A lexeme that is still open at the end of a text takes in what is put behind it. -/
theorem StandsBefore.extend {lexeme : Lexeme} {t : List Char} (h : StandsBefore lexeme [])
    (hopen : ¬ lexeme.Complete) (hq : ∀ c ∈ t, isQuote c = false) (hn : '\n' ∉ t) :
    lexeme.name? = none ∧ ∃ longer : Lexeme, longer.name? = none ∧
      longer.text = lexeme.text ++ t ∧ StandsBefore longer [] := by
  cases h with
  | closed _ hi _ => exact absurd (.quoted hi) hopen
  | @unclosed quote inside hquote hi =>
    have ht : quote ∉ t := fun hm => by
      rw [hq quote hm] at hquote
      cases hquote
    exact ⟨rfl, .quoted (quote :: (inside ++ t)), rfl, rfl, .unclosed hquote (hi.append ht)⟩
  | @comment body _ hb _ =>
    have hbody : '\n' ∉ body ++ t := by
      rw [List.mem_append, not_or]
      exact ⟨hb, hn⟩
    exact ⟨rfl, .comment ('-' :: '-' :: (body ++ t)), rfl, rfl, .comment hbody nofun⟩
  | cast => exact absurd .cast hopen
  | placeholder _ _ => exact absurd (.placeholder _) hopen
  | other _ _ _ => exact absurd (.other _) hopen

theorem Reads.extend {s t : List Char} {tokens : List Lexeme} (h : Reads s tokens)
    (hopen : ¬ ∀ lexeme ∈ tokens.getLast?, lexeme.Complete) (hq : ∀ c ∈ t, isQuote c = false)
    (hn : '\n' ∉ t) :
    ∃ others, Reads (s ++ t) others ∧ placeholderNames others = placeholderNames tokens := by
  induction h with
  | nil => exact absurd nofun hopen
  | @cons lexeme after rest hs hr ih =>
    cases rest with
    | nil =>
      -- The last lexeme becomes longer, and there is no name in it before or after.
      cases hr
      have last : ¬ lexeme.Complete := fun hc => hopen fun other ho => by
        cases ho
        exact hc
      obtain ⟨hname, longer, hlonger, htext, hstands⟩ := hs.extend last hq hn
      refine ⟨[longer], ?_, ?_⟩
      · have hreads := Reads.cons hstands .nil
        rwa [htext, List.append_nil, ← List.append_nil lexeme.text] at hreads
      · rw [placeholderNames_other hlonger, placeholderNames_other hname]
    | cons next rest =>
      obtain ⟨others, hreads, hnames⟩ := ih hopen
      refine ⟨lexeme :: others, ?_, ?_⟩
      · rw [List.append_assoc]
        exact .cons (hr.standsBefore_append hs t) hreads
      · rcases lexeme.cases_name? with ⟨name, rfl⟩ | hname
        · rw [placeholderNames_placeholder, placeholderNames_placeholder, hnames]
        · rw [placeholderNames_other hname, placeholderNames_other hname, hnames]

/-- Behind an open quote or comment no placeholder is found in a text that ends neither. -/
theorem swallowed_of_not_settled {s t : List Char} (hs : ¬ Settled s)
    (hq : ∀ c ∈ t, isQuote c = false) (hn : '\n' ∉ t) :
    placeholderNames (lexemes (s ++ t)) = placeholderNames (lexemes s) := by
  obtain ⟨others, hreads, hnames⟩ := (reads_lexemes s).extend hs hq hn
  rw [← hreads.eq_lexemes, hnames]

end BoundSql
