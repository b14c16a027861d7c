import BoundSql.Positional
import BoundSql.Text.Run

/-!
# Plain texts and names

A text without quotes, colons and comments is read character by character (`lexemes_append`), as
long as it does not end in a dash that another follows (`Apart`). A colon and a name are read as one
placeholder (`lexemes_placeholder`), as long as no character follows that goes on with the name.
-/

namespace BoundSql

/-- A text without quotes, colons and two dashes in a row. -/
structure Plain (s : List Char) : Prop where
  quotes : ∀ c ∈ s, isQuote c = false
  colons : ':' ∉ s
  dashes : ¬ ['-', '-'] <:+: s

/-- Whether a character begins no lexeme of more characters. -/
def isHarmless (c : Char) : Bool :=
  !isQuote c && c != ':' && c != '-'

theorem isHarmless_of_isDigit {c : Char} (h : c.isDigit = true) : isHarmless c = true := by
  have ne (d : Char) (hd : d.isDigit = false) : c ≠ d := by
    rintro rfl
    rw [h] at hd
    cases hd
  simp [isHarmless, isQuote, ne '\'' rfl, ne '"' rfl, ne '\x60' rfl, ne ':' rfl, ne '-' rfl]

theorem not_mem_dash_of_all {s : List Char} (h : s.all isHarmless = true) : '-' ∉ s :=
  fun hd => absurd (List.all_eq_true.1 h '-' hd) (by decide)

theorem plain_of_all {s : List Char} (h : s.all isHarmless = true) : Plain s := by
  refine ⟨fun c hc => ?_, fun hc => ?_, fun hd => ?_⟩
  · have hall := List.all_eq_true.1 h c hc
    simp only [isHarmless, Bool.and_eq_true, Bool.not_eq_true'] at hall
    exact hall.1.1
  · exact absurd (List.all_eq_true.1 h ':' hc) (by decide)
  · exact not_mem_dash_of_all h (hd.subset (by simp))

/-- No dash at the end of a text meets a dash at the start of the next. -/
def Apart (s t : List Char) : Prop :=
  s.getLast? ≠ some '-' ∨ t.head? ≠ some '-'

/-- A text that goes on with neither a comment nor a name. -/
def Calm (after : List Char) : Prop :=
  after.head?.all (fun c => c != '-' && !Text.isNameChar c) = true

instance (after : List Char) : Decidable (Calm after) :=
  inferInstanceAs (Decidable (_ = true))

/-- A name that a placeholder may have. -/
def IsName (name : List Char) : Prop :=
  name.head?.any Text.isNameStart = true ∧ name.all Text.isNameChar = true

theorem calm_nil : Calm [] :=
  rfl

theorem calm_cons {c : Char} {rest : List Char} :
    Calm (c :: rest) ↔ c ≠ '-' ∧ Text.isNameChar c = false := by
  simp [Calm]

theorem Calm.append {s after : List Char} (hs : Calm s) (ha : Calm after) : Calm (s ++ after) := by
  cases s with
  | nil => exact ha
  | cons c rest => exact hs

theorem Calm.of_ne_nil {s after : List Char} (hs : Calm s) (h : s ≠ []) : Calm (s ++ after) := by
  cases s with
  | nil => exact absurd rfl h
  | cons c rest => exact hs

theorem apart_of_calm {s after : List Char} (h : Calm after) : Apart s after :=
  .inr fun hd => by
    cases after with
    | nil => cases hd
    | cons c rest => exact (calm_cons.1 h).1 (Option.some.inj hd)

theorem apart_of_all {s after : List Char} (h : s.all isHarmless = true) : Apart s after :=
  .inl fun hl => not_mem_dash_of_all h (List.mem_of_getLast? hl)

theorem Apart.append {s t u : List Char} (hst : Apart s t) (hu : Calm u) : Apart s (t ++ u) := by
  cases t with
  | nil => exact apart_of_calm hu
  | cons c rest => exact hst

/-- Plain texts in a row are plain unless a dash meets a dash. -/
theorem Plain.append {s t : List Char} (hs : Plain s) (ht : Plain t) (h : Apart s t) :
    Plain (s ++ t) := by
  refine ⟨?_, ?_, ?_⟩
  · rw [List.forall_mem_append]
    exact ⟨hs.quotes, ht.quotes⟩
  · rw [List.mem_append, not_or]
    exact ⟨hs.colons, ht.colons⟩
  · rw [List.infix_append_iff_ne_nil]
    -- Two dashes in neither text lie across the seam, one on each side.
    rintro (hi | hi | ⟨l, r, hl, hr, he, hsuf, hpre⟩)
    · exact hs.dashes hi
    · exact ht.dashes hi
    · obtain ⟨rfl, rfl⟩ : l = ['-'] ∧ r = ['-'] := by
        rcases List.append_eq_cons_iff.1 he.symm with ⟨rfl, -⟩ | ⟨u, rfl, hu⟩
        · exact absurd rfl hl
        · rcases List.append_eq_cons_iff.1 hu.symm with ⟨rfl, rfl⟩ | ⟨v, rfl, hv⟩
          · exact ⟨rfl, rfl⟩
          · exact absurd (List.append_eq_nil_iff.1 hv.symm).2 hr
      rcases h with h | h
      · obtain ⟨u, rfl⟩ := hsuf
        simp at h
      · obtain ⟨u, rfl⟩ := hpre
        simp at h

theorem Plain.of_cons {c : Char} {rest : List Char} (h : Plain (c :: rest)) : Plain rest :=
  ⟨fun d hd => h.quotes d (List.mem_cons_of_mem c hd),
    fun hc => h.colons (List.mem_cons_of_mem c hc),
    fun hd => h.dashes (hd.trans (List.suffix_cons c rest).isInfix)⟩

/-- A character that begins nothing is the next lexeme by itself. -/
theorem nextLexeme_other {c : Char} {rest : List Char} (hq : isQuote c = false)
    (hd : c = '-' → rest.head? ≠ some '-')
    (hc : c = ':' → ∀ d ∈ rest.head?, d ≠ ':' ∧ Text.isNameStart d = false) :
    nextLexeme c rest = (.other c, rest) := by
  unfold nextLexeme
  rw [hq, if_neg Bool.false_ne_true]
  split
  · exact absurd rfl (hd rfl)
  · exact absurd rfl (hc rfl _ rfl).1
  · rw [(hc rfl _ rfl).2, if_neg Bool.false_ne_true]
  · rfl

theorem lexemes_other {c : Char} {rest : List Char} (hq : isQuote c = false) (hc : c ≠ ':')
    (hd : c = '-' → rest.head? ≠ some '-') : lexemes (c :: rest) = .other c :: lexemes rest := by
  rw [lexemes, nextLexeme_other hq hd fun h => absurd h hc]

/-- A plain text is read character by character. -/
theorem lexemes_append {s after : List Char} (hs : Plain s) (ha : Apart s after) :
    lexemes (s ++ after) = s.map .other ++ lexemes after := by
  induction s with
  | nil => rfl
  | cons c rest ih =>
    have hcolon : c ≠ ':' := by
      rintro rfl
      exact hs.colons (by simp)
    -- A dash may be followed by a dash only at the end of the text, which `ha` rules out.
    have hd : c = '-' → (rest ++ after).head? ≠ some '-' := by
      rintro rfl hd
      cases rest with
      | nil => exact ha.elim (fun h => h rfl) (fun h => h hd)
      | cons d rest =>
        obtain rfl : d = '-' := by simpa using hd
        exact hs.dashes ⟨[], rest, rfl⟩
    have hrest : Apart rest after := by
      cases rest with
      | nil => exact .inl nofun
      | cons d rest => simpa [Apart] using ha
    rw [List.cons_append, lexemes_other (hs.quotes c (by simp)) hcolon hd, ih hs.of_cons hrest,
      List.map_cons, List.cons_append]

/-- A colon and a name that nothing goes on with are the next lexeme. -/
theorem nextLexeme_placeholder {name : String} {after : List Char} (hn : IsName name.toList)
    (ha : Text.EndsRun Text.isNameChar after) :
    nextLexeme ':' (name.toList ++ after) = (.placeholder name, after) := by
  obtain ⟨hstart, hchars⟩ := hn
  rw [List.all_eq_true] at hchars
  have take := Text.takeWhile_run hchars ha
  have drop := Text.dropWhile_run hchars ha
  cases hc : name.toList with
  | nil => simp [hc] at hstart
  | cons c rest =>
    rw [hc] at hstart take drop
    have hs : Text.isNameStart c = true := by simpa using hstart
    have hcolon : c ≠ ':' := by
      rintro rfl
      exact absurd hs (by decide)
    unfold nextLexeme
    rw [if_neg (by decide), List.cons_append]
    split
    · rename_i hdash _
      exact absurd hdash (by decide)
    · rename_i h
      exact absurd (List.cons.inj h).1 hcolon
    · rename_i h
      obtain ⟨rfl, rfl⟩ := List.cons.inj h
      rw [if_pos hs, ← List.cons_append, take, drop, ← hc, String.ofList_toList]
    · rename_i h
      exact absurd rfl (h c _ rfl)

theorem Calm.endsName {after : List Char} (h : Calm after) :
    Text.EndsRun Text.isNameChar after := by
  cases after with
  | nil => exact Text.endsRun_nil _
  | cons c rest => exact Text.endsRun_cons.2 (calm_cons.1 h).2

/-- A colon and a name are read as a placeholder. -/
theorem lexemes_placeholder {name : String} {after : List Char} (hn : IsName name.toList)
    (ha : Calm after) :
    lexemes (':' :: (name.toList ++ after)) = .placeholder name :: lexemes after := by
  rw [lexemes, nextLexeme_placeholder hn ha.endsName]

end BoundSql
