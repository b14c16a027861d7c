import BoundSql.Clause.Step
import BoundSql.Proofs.Text.Words

/-!
# Operators written as tokens

A token writes an operator when its words are those of the operator's SQL text, in any case and with
any blanks around and between them (`Operator.WrittenBy`). `Operator.ofToken?` brings a token into
one form and compares that with the SQL texts; since words can be read back from a text with single
spaces between them, the comparison accepts exactly the tokens that write the operator.

* `Operator.normalizeToken_eq_iff`: the form of a token is an SQL text when the token writes it;
* `Operator.ofToken?_eq_some_iff`: so the operator of a token is the one that it writes;
* `tokens_write_operators`: comparisons built from tokens.
-/

namespace BoundSql

open Text

namespace Operator

variable {op other : Operator} {token : String}

/-- The words of the token are those of the operator's SQL text, up to the case of letters. -/
def WrittenBy (op : Operator) (token : String) : Prop :=
  ∃ ws others, Spells isBlank ws token.toList ∧ Spells isBlank others op.sql.toList ∧
    List.Forall₂ SameLetters ws others

theorem writtenBy_iff :
    op.WrittenBy token ↔
      (words token.toList).map upperCase = (words op.sql.toList).map upperCase := by
  simp only [WrittenBy, spells_iff, ← forall₂_sameLetters_iff]
  constructor
  · rintro ⟨_, _, rfl, rfl, h⟩
    exact h
  · intro h
    exact ⟨_, _, rfl, rfl, h⟩

/-- The SQL texts are in the form into which tokens are brought. -/
theorem normalizeToken_sql (op : Operator) : normalizeToken op.sql = op.sql := by
  cases op <;> decide

/-- The words of a token can be read back from its form. -/
theorem words_normalizeToken (token : String) :
    words (normalizeToken token).toList = (words token.toList).map upperCase := by
  have hwords : ∀ w ∈ words token.toList, w ≠ [] ∧ ∀ c ∈ w, isBlank c = false := fun w hw =>
    (spells_iff.2 rfl).of_mem hw
  rw [normalizeToken, String.toList_ofList, words, upperCase, fields_map isBlank_toUpper,
    fields_intercalate (by decide) hwords]
  rfl

theorem normalizeToken_eq_iff : normalizeToken token = op.sql ↔ op.WrittenBy token := by
  rw [writtenBy_iff]
  constructor
  · intro h
    rw [← words_normalizeToken, ← words_normalizeToken, h, normalizeToken_sql]
  · intro h
    rw [← normalizeToken_sql op, normalizeToken, normalizeToken, upperCase_intercalate, h,
      ← upperCase_intercalate]

theorem WrittenBy.unique (h : op.WrittenBy token) (h' : other.WrittenBy token) : op = other :=
  sql_injective ((normalizeToken_eq_iff.2 h).symm.trans (normalizeToken_eq_iff.2 h'))

theorem ofToken?_eq_some_iff : ofToken? token = some op ↔ op.WrittenBy token := by
  constructor
  · intro h
    have hfound := List.find?_some h
    exact normalizeToken_eq_iff.1 (of_decide_eq_true hfound).symm
  · intro h
    cases hfound : ofToken? token with
    | none =>
      have hnone := List.find?_eq_none.1 hfound op (mem_all op)
      exact absurd (decide_eq_true (normalizeToken_eq_iff.2 h).symm) hnone
    | some found =>
      have hsame := List.find?_some hfound
      rw [WrittenBy.unique (normalizeToken_eq_iff.1 (of_decide_eq_true hsame).symm) h]

theorem ofToken?_eq_none_iff : ofToken? token = none ↔ ∀ op : Operator, ¬ op.WrittenBy token := by
  rw [Option.eq_none_iff_forall_ne_some]
  exact forall_congr' fun op => not_congr ofToken?_eq_some_iff

/-- Of a token, only its words matter. -/
theorem ofToken?_congr {ws : List (List Char)} {written : String}
    (h : Spells isBlank ws token.toList) (h' : Spells isBlank ws written.toList) :
    ofToken? written = ofToken? token := by
  have hform : normalizeToken written = normalizeToken token := by
    rw [normalizeToken, normalizeToken, words, words, h.fields_eq, h'.fields_eq]
  rw [ofToken?, ofToken?, hform]

end Operator

namespace Clause

variable {op : Operator} {token : String}

theorem apply_token_of_writtenBy (h : op.WrittenBy token) (clause : Clause)
    (conjunction : Conjunction) (field : String) (value : Value) :
    clause.apply (.token conjunction field token value) =
      clause.apply (.compare conjunction field op value) := by
  rw [apply, apply, pushToken, tokenComparison, Operator.ofToken?_eq_some_iff.2 h]

/-- No operand is refused by `=` but a list, which a token is not. -/
theorem apply_token_of_not_writtenBy (h : ∀ op : Operator, ¬ op.WrittenBy token) (clause : Clause)
    (conjunction : Conjunction) (field : String) (value : Value) :
    clause.apply (.token conjunction field token value) =
      .ok (clause.push
        { conjunction, condition := .compare field .eq (some (.text token)) }) := by
  rw [apply, pushToken, tokenComparison, Operator.ofToken?_eq_none_iff.2 h]
  rfl

end Clause

open Operator

/-- A token stands for the operator that it writes and for no other, and for none when it writes
none; its blanks do not matter. A comparison with a token is the comparison with its operator, or
else always succeeds and compares the field with the token as it stands. -/
theorem tokens_write_operators (token : String) :
    (∀ op, ofToken? token = some op ↔ op.WrittenBy token) ∧
    (ofToken? token = none ↔ ∀ op : Operator, ¬ op.WrittenBy token) ∧
    (∀ op other : Operator, op.WrittenBy token → other.WrittenBy token → op = other) ∧
    (∀ ws written, Spells isBlank ws token.toList → Spells isBlank ws written.toList →
      ofToken? written = ofToken? token) ∧
    ∀ (clause : Clause) (conjunction : Conjunction) (field : String) (value : Value),
      (∀ op : Operator, op.WrittenBy token →
        clause.apply (.token conjunction field token value) =
          clause.apply (.compare conjunction field op value)) ∧
      ((∀ op : Operator, ¬ op.WrittenBy token) →
        clause.apply (.token conjunction field token value) =
          .ok (clause.push
            { conjunction, condition := .compare field .eq (some (.text token)) })) := by
  refine ⟨fun op => ofToken?_eq_some_iff, ofToken?_eq_none_iff, fun op other => WrittenBy.unique,
    fun ws written => ofToken?_congr, fun clause conjunction field value => ⟨fun op h => ?_,
      fun h => ?_⟩⟩
  · exact Clause.apply_token_of_writtenBy h clause conjunction field value
  · exact Clause.apply_token_of_not_writtenBy h clause conjunction field value

/-- `NOT LIKE` with an em space, a tab and a line end around its words, and a token whose blanks are
part of the text that the field is compared with. -/
theorem tokens_write_operators_not_like :
    WrittenBy .notLike "\u2003not \tLike\n" ∧
    ofToken? "\u2003not \tLike\n" = some .notLike ∧
    ofToken? "not Like" = ofToken? "\u2003not \tLike\n" ∧
    (∅ : Clause).apply (.token .or "name" "\u2003not \tLike\n" (.list [])) =
      (∅ : Clause).apply (.compare .or "name" .notLike (.list [])) ∧
    (∀ op : Operator, ¬ op.WrittenBy " like it ") ∧
    (∅ : Clause).apply (.token .or "name" " like it " (.list [])) =
      .ok ⟨[{ conjunction := .or,
              condition := .compare "name" .eq (some (.text " like it ")) }]⟩ := by
  have hwritten : WrittenBy .notLike "\u2003not \tLike\n" := writtenBy_iff.2 (by decide)
  have hnone : ∀ op : Operator, ¬ op.WrittenBy " like it " := ofToken?_eq_none_iff.1 (by decide)
  have hspells : Spells isBlank [['n', 'o', 't'], ['L', 'i', 'k', 'e']]
      "\u2003not \tLike\n".toList := spells_iff.2 (by decide)
  obtain ⟨hoperator, -, -, hblanks, happly⟩ :=
    tokens_write_operators "\u2003not \tLike\n"
  exact ⟨hwritten, (hoperator _).2 hwritten, hblanks _ _ hspells (spells_iff.2 (by decide)),
    (happly _ _ _ _).1 _ hwritten, hnone,
    ((tokens_write_operators " like it ").2.2.2.2 _ _ _ _).2 hnone⟩

end BoundSql
