import BoundSql.Proofs.Positional.Grammar

/-!
# Nothing is lost

Positional placeholders can be put back. The text in positional form is the reading of the SQL with
the `k`-th placeholder replaced and the rest kept (`fill`), and the position that was given to the
`k`-th placeholder (`positions`) leads to its name in the order in which names are bound
(`nameAt?`).

* `fst_assignPositions`: what is written;
* `resolved_positions`, `used_positions`, `positions_eq_range`: what the positions stand for, each
  by induction on the lexemes still to be written, with the names bound before them;
* `toPositional_lossless`: both together, and the way back.
-/

namespace BoundSql

/-- The name of a placeholder. -/
def Lexeme.name? : Lexeme → Option String
  | placeholder name => some name
  | _ => none

/-- The names of the placeholders, in order and with repetitions. -/
def placeholderNames (tokens : List Lexeme) : List String :=
  tokens.filterMap Lexeme.name?

/-- The text of lexemes with the first placeholder replaced by the first of the texts, and so on. -/
def fill : List Lexeme → List (List Char) → List Char
  | .placeholder _ :: rest, text :: texts => text ++ fill rest texts
  | lexeme :: rest, texts => lexeme.text ++ fill rest texts
  | [], _ => []

/-- The positions given to the placeholders, in order, after some names have been bound. -/
def positions (backend : Backend) : List String → List Lexeme → List Nat
  | bound, .placeholder name :: rest =>
    (assignPosition backend bound name).1 ::
      positions backend (assignPosition backend bound name).2 rest
  | bound, _ :: rest => positions backend bound rest
  | _, [] => []

/-- The name at a position, counted from one. -/
def nameAt? (bound : List String) : Nat → Option String
  | 0 => none
  | i + 1 => bound[i]?

section
variable {backend : Backend} {bound : List String} {lexeme : Lexeme} {rest : List Lexeme}
variable {name : String}

/-- A lexeme is a placeholder or has no name. -/
theorem Lexeme.cases_name? (lexeme : Lexeme) :
    (∃ name, lexeme = .placeholder name) ∨ lexeme.name? = none := by
  cases lexeme with
  | placeholder name => exact .inl ⟨name, rfl⟩
  | _ => exact .inr rfl

theorem placeholderNames_placeholder :
    placeholderNames (.placeholder name :: rest) = name :: placeholderNames rest :=
  rfl

theorem placeholderNames_other (h : lexeme.name? = none) :
    placeholderNames (lexeme :: rest) = placeholderNames rest :=
  List.filterMap_cons_none h

theorem fill_placeholder (text : List Char) (texts : List (List Char)) :
    fill (.placeholder name :: rest) (text :: texts) = text ++ fill rest texts :=
  rfl

theorem fill_other (h : lexeme.name? = none) (texts : List (List Char)) :
    fill (lexeme :: rest) texts = lexeme.text ++ fill rest texts := by
  cases lexeme with
  | placeholder name => cases h
  | _ => rfl

theorem positions_other (h : lexeme.name? = none) :
    positions backend bound (lexeme :: rest) = positions backend bound rest := by
  cases lexeme with
  | placeholder name => cases h
  | _ => rfl

theorem assignPositions_other (h : lexeme.name? = none) :
    assignPositions backend bound (lexeme :: rest) =
      (lexeme.text ++ (assignPositions backend bound rest).1,
        (assignPositions backend bound rest).2) := by
  cases lexeme with
  | placeholder name => cases h
  | _ => rfl

theorem nameAt?_append {position : Nat} (h : nameAt? bound position = some name)
    (more : List String) : nameAt? (bound ++ more) position = some name := by
  cases position with
  | zero => cases h
  | succ i =>
    obtain ⟨hlt, -⟩ := List.getElem?_eq_some_iff.1 h
    exact (List.getElem?_append_left hlt).trans h

/-! ## One placeholder -/

/-- A placeholder is bound at the next position, unless the backend finds its name among those bound
before. -/
theorem assignPosition_cases (backend : Backend) (bound : List String) (name : String) :
    assignPosition backend bound name = (bound.length + 1, bound ++ [name]) ∨
    (backend.reusesPositions = true ∧ ∃ i, bound[i]? = some name ∧
      assignPosition backend bound name = (i + 1, bound)) := by
  unfold assignPosition
  by_cases hr : backend.reusesPositions = true
  · rw [if_pos hr]
    cases hi : bound.idxOf? name with
    | none => exact .inl rfl
    | some i =>
      obtain ⟨hlt, hbeq, -⟩ := List.findIdx?_eq_some_iff_getElem.1 hi
      refine .inr ⟨hr, i, ?_, rfl⟩
      rw [List.getElem?_eq_getElem hlt, eq_of_beq hbeq]
  · exact .inl (if_neg hr)

/-- A new name gets the next position. -/
theorem assignPosition_of_not_mem (h : name ∉ bound) :
    assignPosition backend bound name = (bound.length + 1, bound ++ [name]) := by
  rcases assignPosition_cases backend bound name with he | ⟨-, i, hi, -⟩
  · exact he
  · exact absurd (List.mem_of_getElem? hi) h

theorem nameAt?_assignPosition (backend : Backend) (bound : List String) (name : String) :
    nameAt? (assignPosition backend bound name).2 (assignPosition backend bound name).1 =
      some name := by
  rcases assignPosition_cases backend bound name with h | ⟨-, i, hi, h⟩
  · rw [h]
    exact List.getElem?_concat_length
  · rw [h]
    exact hi

/-- Names are bound after those bound before, the new one at the position of the placeholder. -/
theorem snd_assignPosition (backend : Backend) (bound : List String) (name : String) :
    (assignPosition backend bound name).2 = bound ∨
    (assignPosition backend bound name).2 = bound ++ [name] ∧
      (assignPosition backend bound name).1 = bound.length + 1 := by
  rcases assignPosition_cases backend bound name with h | ⟨-, i, hi, h⟩
  · rw [h]
    exact .inr ⟨rfl, rfl⟩
  · rw [h]
    exact .inl rfl

/-! ## All placeholders -/

theorem fst_assignPositions (backend : Backend) (bound : List String) (tokens : List Lexeme) :
    (assignPositions backend bound tokens).1 =
      fill tokens ((positions backend bound tokens).map backend.placeholder) := by
  induction tokens generalizing bound with
  | nil => rfl
  | cons lexeme rest ih =>
    rcases lexeme.cases_name? with ⟨name, rfl⟩ | hn
    · rw [assignPositions, positions, List.map_cons, fill_placeholder, ← ih]
    · rw [assignPositions_other hn, positions_other hn, fill_other hn, ih]

/-- Names that are bound stay bound, at their positions. -/
theorem prefix_assignPositions (backend : Backend) (bound : List String) (tokens : List Lexeme) :
    bound <+: (assignPositions backend bound tokens).2 := by
  induction tokens generalizing bound with
  | nil => exact List.prefix_rfl
  | cons lexeme rest ih =>
    rcases lexeme.cases_name? with ⟨name, rfl⟩ | hn
    · refine List.IsPrefix.trans ?_ (ih (assignPosition backend bound name).2)
      rcases snd_assignPosition backend bound name with h | ⟨h, -⟩
      · exact ⟨[], (List.append_nil bound).trans h.symm⟩
      · exact ⟨[name], h.symm⟩
    · rw [assignPositions_other hn]
      exact ih bound

/-- Every position leads to the name of its placeholder. -/
theorem resolved_positions (backend : Backend) (bound : List String) (tokens : List Lexeme) :
    (positions backend bound tokens).map (nameAt? (assignPositions backend bound tokens).2) =
      (placeholderNames tokens).map some := by
  induction tokens generalizing bound with
  | nil => rfl
  | cons lexeme rest ih =>
    rcases lexeme.cases_name? with ⟨name, rfl⟩ | hn
    · -- What the placeholder finds when it is written is still there at the end.
      obtain ⟨more, hmore⟩ := prefix_assignPositions backend
        (assignPosition backend bound name).2 rest
      have here := nameAt?_append (nameAt?_assignPosition backend bound name) more
      rw [hmore] at here
      rw [positions, assignPositions, List.map_cons, placeholderNames_placeholder, List.map_cons,
        here, ih]
    · rw [positions_other hn, assignPositions_other hn, placeholderNames_other hn, ih]

/-- Every name that is added is asked for by a placeholder. -/
theorem used_positions (backend : Backend) (bound : List String) (tokens : List Lexeme) {i : Nat}
    (hi : bound.length ≤ i) (hlt : i < (assignPositions backend bound tokens).2.length) :
    i + 1 ∈ positions backend bound tokens := by
  induction tokens generalizing bound with
  | nil =>
    exact absurd hi (Nat.not_le.2 hlt)
  | cons lexeme rest ih =>
    rcases lexeme.cases_name? with ⟨name, rfl⟩ | hn
    · rw [assignPositions] at hlt
      rw [positions, List.mem_cons]
      rcases snd_assignPosition backend bound name with h | ⟨h, hp⟩
      · refine .inr (ih _ ?_ hlt)
        rwa [h]
      · by_cases he : i = bound.length
        · exact .inl (by rw [hp, he])
        · refine .inr (ih _ ?_ hlt)
          rw [h, List.length_append, List.length_singleton]
          omega
    · rw [assignPositions_other hn] at hlt
      rw [positions_other hn]
      exact ih bound hi hlt

/-- A backend that does not reuse positions counts the placeholders. -/
theorem positions_eq_range (hr : backend.reusesPositions = false) (bound : List String)
    (tokens : List Lexeme) :
    positions backend bound tokens =
      List.range' (bound.length + 1) (placeholderNames tokens).length ∧
    (assignPositions backend bound tokens).2 = bound ++ placeholderNames tokens := by
  induction tokens generalizing bound with
  | nil => exact ⟨rfl, (List.append_nil bound).symm⟩
  | cons lexeme rest ih =>
    rcases lexeme.cases_name? with ⟨name, rfl⟩ | hn
    · have next : assignPosition backend bound name = (bound.length + 1, bound ++ [name]) := by
        rw [assignPosition, hr, if_neg Bool.false_ne_true]
      obtain ⟨hpositions, hbound⟩ := ih (bound ++ [name])
      rw [List.length_append, List.length_singleton] at hpositions
      rw [placeholderNames_placeholder, positions, assignPositions, next]
      refine ⟨?_, ?_⟩
      · show (bound.length + 1) :: positions backend (bound ++ [name]) rest = _
        rw [hpositions, List.length_cons, List.range'_succ]
      · show (assignPositions backend (bound ++ [name]) rest).2 = _
        rw [hbound, List.append_assoc, List.singleton_append]
    · rw [positions_other hn, assignPositions_other hn, placeholderNames_other hn]
      exact ih bound

end

/-- Colons and names in the places of the placeholders give the text that was read. -/
theorem fill_names (tokens : List Lexeme) :
    fill tokens ((placeholderNames tokens).map fun name => ':' :: name.toList) =
      tokens.flatMap Lexeme.text := by
  induction tokens with
  | nil => rfl
  | cons lexeme rest ih =>
    rw [List.flatMap_cons, ← ih]
    rcases lexeme.cases_name? with ⟨name, rfl⟩ | hn
    · rw [placeholderNames_placeholder, List.map_cons, fill_placeholder]
      rfl
    · rw [placeholderNames_other hn, fill_other hn]

theorem sql_toPositional (backend : Backend) (sql : String) :
    (toPositional backend sql).sql.toList =
      (assignPositions backend [] (lexemes sql.toList)).1 :=
  String.toList_ofList

theorem bindOrder_toPositional (backend : Backend) (sql : String) :
    (toPositional backend sql).bindOrder = (assignPositions backend [] (lexemes sql.toList)).2 :=
  rfl

/-- SQL has one reading. Its positional form is that reading with the placeholders replaced by
positions: each leads to the name of its placeholder, all names are asked for, and the names in the
places of the positions give the SQL again. -/
theorem toPositional_lossless (backend : Backend) (sql : String) :
    ∃ tokens places,
      (∀ reading, Reads sql.toList reading ↔ reading = tokens) ∧
      (toPositional backend sql).sql.toList = fill tokens (places.map backend.placeholder) ∧
      places.map (nameAt? (toPositional backend sql).bindOrder) =
        (placeholderNames tokens).map some ∧
      List.range' 1 (toPositional backend sql).bindOrder.length ⊆ places ∧
      (backend.reusesPositions ∨
        places = List.range' 1 (toPositional backend sql).bindOrder.length) ∧
      fill tokens (places.map fun position =>
        ':' :: ((nameAt? (toPositional backend sql).bindOrder position).getD "").toList) =
          sql.toList := by
  have resolved := resolved_positions backend [] (lexemes sql.toList)
  rw [← bindOrder_toPositional] at resolved
  refine ⟨lexemes sql.toList, positions backend [] (lexemes sql.toList),
    fun reading => reads_iff, ?_, resolved, fun position hp => ?_, ?_, ?_⟩
  · rw [sql_toPositional, fst_assignPositions]
  · obtain ⟨hpos, hlt⟩ := List.mem_range'_1.1 hp
    obtain ⟨i, rfl⟩ : ∃ i, position = i + 1 := ⟨position - 1, by omega⟩
    refine used_positions backend [] (lexemes sql.toList) (Nat.zero_le i) ?_
    rw [← bindOrder_toPositional]
    omega
  · cases hr : backend.reusesPositions with
    | true => exact .inl rfl
    | false =>
      obtain ⟨hpositions, hbound⟩ := positions_eq_range hr [] (lexemes sql.toList)
      refine .inr ?_
      rw [hpositions, bindOrder_toPositional, hbound]
      rfl
  · -- The positions are sent to their names first, and those to colons and names.
    let written : Option String → List Char := fun name? => ':' :: (name?.getD "").toList
    calc fill (lexemes sql.toList) ((positions backend [] (lexemes sql.toList)).map fun position =>
          written (nameAt? (toPositional backend sql).bindOrder position))
      _ = fill (lexemes sql.toList) (((placeholderNames (lexemes sql.toList)).map some).map
          written) := by rw [← resolved, List.map_map]; rfl
      _ = fill (lexemes sql.toList) ((placeholderNames (lexemes sql.toList)).map
          fun name => ':' :: name.toList) := by rw [List.map_map]; rfl
      _ = sql.toList := by rw [fill_names, text_lexemes]

-- A name that stands twice, beside a cast, a comment, a doubled quote and one that is not closed.
example : toPositional .postgres "a=:x::int -- :y\n:x 'it''s :z' ':w" =
    ⟨"a=$1::int -- :y\n$1 'it''s :z' ':w", ["x"]⟩ := by
  cbv

end BoundSql
