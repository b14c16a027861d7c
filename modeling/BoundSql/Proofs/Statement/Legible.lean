import BoundSql.Proofs.Positional.Lossless
import BoundSql.Proofs.Statement.Compile

/-!
# Layouts in positional form

The search for placeholders does not see a layout but its text. In a legible layout it finds the
slots again, each under its own name, and takes nothing else for a placeholder (`lexemes_sqlOf`).
When the names are distinct, every backend then numbers the slots from left to right
(`toPositional_sqlOf`).
-/

namespace BoundSql

/-- The lexemes that a part is meant to be. -/
def Part.lexemes : Part → List Lexeme
  | text sql => sql.toList.map .other
  | slot name _ => [.placeholder name]
  | aside _ _ | named _ | refused _ => []

/-- Parts whose texts are plain and whose slots have names that end where the slots end. No value
belongs to SQL written as given. -/
inductive Legible : List Part → Prop where
  | nil : Legible []
  | text {sql : String} {rest : List Part} (plain : Plain sql.toList)
    (apart : Apart sql.toList (sqlOf rest).toList) (legible : Legible rest) :
    Legible (.text sql :: rest)
  | slot {name : String} {value : Value} {rest : List Part} (isName : IsName name.toList)
    (calm : Calm (sqlOf rest).toList) (legible : Legible rest) :
    Legible (.slot name value :: rest)
  | named {field : String} {rest : List Part} (legible : Legible rest) :
    Legible (.named field :: rest)

theorem Legible.append {p q : List Part} (hp : Legible p) (hq : Legible q)
    (hc : Calm (sqlOf q).toList) : Legible (p ++ q) := by
  induction hp with
  | nil => exact hq
  | text plain apart _ ih =>
    refine .text plain ?_ ih
    show Apart _ (sqlOf (_ ++ q)).toList
    rw [sqlOf_append, String.toList_append]
    exact apart.append hc
  | slot isName calm _ ih =>
    refine .slot isName ?_ ih
    show Calm (sqlOf (_ ++ q)).toList
    rw [sqlOf_append, String.toList_append]
    exact calm.append hc
  | named _ ih => exact .named ih

/-- What follows a text that begins with neither a dash nor a name does not matter. -/
theorem calm_text {sql : String} {rest : List Part} (h : Calm sql.toList) (hne : sql.toList ≠ []) :
    Calm (sqlOf (.text sql :: rest)).toList := by
  rw [sqlOf_cons, String.toList_append]
  exact h.of_ne_nil hne

/-- Legible groups are legible with commas between them. -/
theorem legible_separated {groups : List (List Part)} (h : ∀ group ∈ groups, Legible group) :
    Legible (separated groups) := by
  have commas (rest : List (List Part)) (h : ∀ group ∈ rest, Legible group) :
      Legible (rest.flatMap (Part.text ", " :: ·)) ∧
        Calm (sqlOf (rest.flatMap (Part.text ", " :: ·))).toList := by
    induction rest with
    | nil => exact ⟨.nil, calm_nil⟩
    | cons group rest ih =>
      rw [List.forall_mem_cons] at h
      obtain ⟨hl, hc⟩ := ih h.2
      refine ⟨?_, ?_⟩
      · rw [List.flatMap_cons, List.cons_append]
        exact .text (plain_of_all (by decide)) (.inl (by decide)) (h.1.append hl hc)
      · exact calm_text (by decide) (by decide)
  cases groups with
  | nil => exact .nil
  | cons first rest =>
    rw [List.forall_mem_cons] at h
    obtain ⟨hl, hc⟩ := commas rest h.2
    exact h.1.append hl hc

/-- The search for placeholders reads a legible layout as it was meant. -/
theorem lexemes_sqlOf {parts : List Part} (h : Legible parts) :
    lexemes (sqlOf parts).toList = parts.flatMap Part.lexemes := by
  induction h with
  | nil => simp [lexemes]
  | text plain apart _ ih =>
    rw [sqlOf_cons, String.toList_append, Part.sql, lexemes_append plain apart, ih,
      List.flatMap_cons, Part.lexemes]
  | @slot name value rest isName calm _ ih =>
    have colon : (":" : String).toList = [':'] := rfl
    rw [sqlOf_cons, String.toList_append, Part.sql, String.toList_append, colon,
      List.append_assoc, List.singleton_append, lexemes_placeholder isName calm, ih,
      List.flatMap_cons, Part.lexemes, List.singleton_append]
  | named _ ih => simpa [Part.sql, Part.lexemes] using ih

/-! ## Numbering -/

/-- The text of parts whose slots are numbered after `n` others. -/
def numbered (backend : Backend) (n : Nat) : List Part → List Char
  | [] => []
  | .slot _ _ :: rest => backend.placeholder (n + 1) ++ numbered backend (n + 1) rest
  | part :: rest => part.sql.toList ++ numbered backend n rest

theorem assignPositions_others (backend : Backend) (bound : List String) (s : List Char)
    (rest : List Lexeme) :
    assignPositions backend bound (s.map .other ++ rest) =
      (s ++ (assignPositions backend bound rest).1, (assignPositions backend bound rest).2) := by
  induction s with
  | nil => rfl
  | cons c s ih =>
    rw [List.map_cons, List.cons_append, assignPositions_other rfl, ih]
    rfl

/-- Slots with new names are numbered from left to right. -/
theorem assignPositions_lexemes {backend : Backend} {parts : List Part} {bound : List String}
    (h : Legible parts) (hn : (bound ++ namesOf parts).Nodup) :
    assignPositions backend bound (parts.flatMap Part.lexemes) =
      (numbered backend bound.length parts, bound ++ namesOf parts) := by
  induction h generalizing bound with
  | nil => simp [assignPositions, numbered, namesOf]
  | text plain apart _ ih =>
    rw [List.flatMap_cons, Part.lexemes, assignPositions_others, ih hn]
    rfl
  | @slot name value rest isName calm _ ih =>
    have names : namesOf (.slot name value :: rest) = name :: namesOf rest := rfl
    rw [names, List.append_cons] at hn ⊢
    have hname : name ∉ bound := fun hm =>
      (List.nodup_append.1 (List.nodup_append.1 hn).1).2.2 name hm name (by simp) rfl
    rw [List.flatMap_cons, Part.lexemes, List.singleton_append, assignPositions,
      assignPosition_of_not_mem hname]
    simp only [ih hn, List.length_append]
    rfl
  | named _ ih => exact ih hn

/-- In positional form the slots of a legible layout are numbered from left to right, each bound
under its name. -/
theorem toPositional_sqlOf (backend : Backend) {parts : List Part} (h : Legible parts)
    (hn : (namesOf parts).Nodup) :
    toPositional backend (sqlOf parts) =
      ⟨String.ofList (numbered backend 0 parts), namesOf parts⟩ := by
  unfold toPositional
  rw [lexemes_sqlOf h, assignPositions_lexemes h (by simpa using hn)]
  rfl

end BoundSql
