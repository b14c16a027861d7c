import BoundSql.Builder.Modifier
import BoundSql.Proofs.Clause.Outline
import BoundSql.Proofs.Statement.Layout

/-!
# Values stay out of the text

Two builder programs whose modifiers and intents have the same outlines, so that they differ in
contents of values alone, write the same SQL with the same names, or fail with the same error. Their
layouts have the same parts but for the values of the placeholders (`layout_outline`), and binding
the parts of a layout looks at the names alone (`run_bindParts_alike`).

* `compile_alike`: statements whose layouts have one outline;
* `contents_never_reach_text`: builder programs.
-/

namespace BoundSql

/-- The SQL of a statement and the names of its values, in order. -/
def Compiled.outline (compiled : Compiled) : String × List String :=
  (compiled.sql, compiled.values.keys)

/-- An intent without the contents of the data that it writes. -/
def Intent.outline : Intent → Intent
  | .insert data => .insert data.outline
  | .update data => .update data.outline
  | .select columns => .select columns
  | .delete => .delete

def Clauses.outline (clauses : Clauses) : Clauses :=
  { clauses with conditions := clauses.conditions.outline }

/-- A part without the content of its value. -/
def Part.outline : Part → Part
  | slot name _ => slot name .null
  | aside name _ => aside name .null
  | part => part

/-! ## Layouts -/

theorem map_outline_separated (groups : List (List Part)) :
    (separated groups).map Part.outline = separated (groups.map (List.map Part.outline)) := by
  cases groups with
  | nil => rfl
  | cons first rest =>
    rw [separated, List.map_append, List.map_flatMap, List.map_cons, separated, List.flatMap_map]
    rfl

theorem columns_outline (data : OrderedMap Value) :
    (data.entries.map columnParts).map (List.map Part.outline) =
      (data.outline.entries.map columnParts).map (List.map Part.outline) := by
  simp [OrderedMap.outline, columnParts, Part.outline]

theorem intent_outline (table : String) (intent : Intent) :
    (intent.parts table).map Part.outline = (intent.outline.parts table).map Part.outline := by
  have keys (data : OrderedMap Value) : data.outline.keys = data.keys := by
    simp [OrderedMap.outline, OrderedMap.keys, Function.comp_def]
  have empty (data : OrderedMap Value) : data.outline.isEmpty = data.isEmpty := by
    simp [OrderedMap.outline, OrderedMap.isEmpty]
  cases intent with
  | select columns => rfl
  | delete => rfl
  | insert data =>
    rw [Intent.outline, Intent.parts, Intent.parts, empty, keys]
    by_cases h : data.isEmpty
    · rw [if_pos h, if_pos h]
    · rw [if_neg h, if_neg h]
      simp only [List.map_cons, List.map_append, map_outline_separated, columns_outline data]
  | update data =>
    rw [Intent.outline, Intent.parts, Intent.parts, empty]
    by_cases h : data.isEmpty
    · rw [if_pos h, if_pos h]
    · rw [if_neg h, if_neg h]
      simp [map_outline_separated, OrderedMap.outline, columnParts, Part.outline,
        Function.comp_def]

theorem elements_outline (base : String) (position : Nat) (items : List Value) :
    (elementParts base position items).map (List.map Part.outline) =
      (elementParts base position (items.map Value.blank)).map (List.map Part.outline) := by
  simp [elementParts, List.zipIdx_map, Part.outline, Function.comp_def]

theorem list_outline (head base field : String) (op : Operator) (operand : Option Value) :
    (listParts head base field op operand).map Part.outline =
      (listParts head base field op (operand.map Value.outline)).map Part.outline := by
  cases operand with
  | none => rfl
  | some value =>
    cases value with
    | list items =>
      simp only [listParts, Option.map_some, Value.outline, List.map_cons, List.map_append,
        map_outline_separated, elements_outline base 0 items]
    | _ => rfl

theorem range_outline (head base field : String) (op : Operator) (operand : Option Value) :
    (rangeParts head base field op operand).map Part.outline =
      (rangeParts head base field op (operand.map Value.outline)).map Part.outline := by
  cases operand with
  | none => rfl
  | some value =>
    cases value with
    | list items =>
      match items with
      | [] | [_] | [_, _] => rfl
      | _ :: _ :: _ :: _ => simp [rangeParts, Value.outline, Part.outline]
    | _ => rfl

theorem compare_outline (index : Nat) (field : String) (op : Operator) (operand : Option Value) :
    (compareParts index field op operand).map Part.outline =
      (compareParts index field op (operand.map Value.outline)).map Part.outline := by
  unfold compareParts operandParts
  by_cases hu : op.isUnary
  · simp [hu]
  by_cases hl : op.isList
  · simp [hu, hl, list_outline _ _ field op operand]
  by_cases hr : op.isRange
  · simp [hu, hl, hr, range_outline _ _ field op operand]
  · simp [hu, hl, hr, Part.outline]

theorem predicate_outline (index : Nat) (p : Predicate) :
    (p.parts index).map Part.outline = (p.outline.parts index).map Part.outline := by
  obtain ⟨conjunction, condition, opens, closes⟩ := p
  cases condition with
  | compare field op operand =>
    simp [Predicate.parts, Predicate.outline, Condition.outline, Condition.parts, Condition.lead,
      compare_outline index field op operand]
  | raw sql values =>
    simp [Predicate.parts, Predicate.outline, Condition.outline, Condition.parts, Condition.lead,
      OrderedMap.outline, asideParts, Part.outline, Function.comp_def]

theorem predicates_outline (index : Nat) (predicates : List Predicate) :
    (clauseParts index predicates).map Part.outline =
      (clauseParts index (predicates.map Predicate.outline)).map Part.outline := by
  induction predicates generalizing index with
  | nil => rfl
  | cons p rest ih =>
    rw [List.map_cons, clauseParts_cons, clauseParts_cons, List.map_append, List.map_append,
      predicate_outline index p, ih]

/-- Contents appear in a layout as the values of its placeholders alone. -/
theorem layout_outline (table : String) (intent : Intent) (clauses : Clauses) :
    (layout table intent clauses).map Part.outline =
      (layout table intent.outline clauses.outline).map Part.outline := by
  simp only [layout, List.map_append, List.map_cons]
  rw [intent_outline table intent, predicates_outline 0 clauses.conditions.predicates]
  rfl

/-! ## Binding -/

namespace OrderedMap

theorem contains_alike {m n : OrderedMap Value} (h : m.keys = n.keys) (key : String) :
    m.contains key = n.contains key := by
  rw [Bool.eq_iff_iff, ← mem_keys_iff, ← mem_keys_iff, h]

theorem keys_insert_alike {m n : OrderedMap Value} (h : m.keys = n.keys) (key : String)
    (value value' : Value) : (m.insert key value).keys = (n.insert key value').keys := by
  by_cases hk : key ∈ m.keys
  · rw [keys_insert_of_mem hk, keys_insert_of_mem (h ▸ hk), h]
  · rw [keys_insert_of_not_mem hk, keys_insert_of_not_mem (h ▸ hk), h]

end OrderedMap

/-- The names that are bound after an effect, or its failure. -/
def Binder.boundNames (act : Binder Unit) (values : OrderedMap Value) :
    Except Error (List String) :=
  (act.run values).map fun result => result.2.keys

section
variable {values others : OrderedMap Value} (h : values.keys = others.keys)
include h

theorem Binder.bind_alike (name : String) (value value' : Value) :
    (Binder.bind name value).boundNames values = (Binder.bind name value').boundNames others := by
  rw [boundNames, boundNames, Binder.run_bind, Binder.run_bind, OrderedMap.contains_alike h name]
  by_cases hc : others.contains name = true
  · rw [if_pos hc, if_pos hc]
  · rw [if_neg hc, if_neg hc]
    exact congrArg Except.ok (OrderedMap.keys_insert_alike h name value value')

theorem Part.bind_outline (part : Part) :
    part.bind.boundNames values = part.outline.bind.boundNames others := by
  cases part with
  | text sql => exact congrArg Except.ok h
  | slot name value => exact Binder.bind_alike h name value .null
  | aside name value => exact Binder.bind_alike h name value .null
  | named field =>
    show (Part.named field).bind.boundNames values = (Part.named field).bind.boundNames others
    rw [Part.bind, Binder.boundNames, Binder.boundNames]
    cases stem field with
    | error e => rfl
    | ok base => exact congrArg Except.ok h
  | refused fault => rfl

/-- Binding looks at names alone. -/
theorem bindParts_outline (parts : List Part) :
    (bindParts parts).boundNames values =
      (bindParts (parts.map Part.outline)).boundNames others := by
  induction parts generalizing values others with
  | nil => exact congrArg Except.ok h
  | cons part rest ih =>
    rw [Binder.boundNames, Binder.boundNames, List.map_cons, bindParts, bindParts,
      StateT.run_bind, StateT.run_bind]
    exact Except.map_bind_congr (part.bind_outline h) fun first second hk => ih hk

end

theorem sqlOf_outline (parts : List Part) : sqlOf (parts.map Part.outline) = sqlOf parts := by
  induction parts with
  | nil => rfl
  | cons part rest ih =>
    have hp : part.outline.sql = part.sql := by cases part <;> rfl
    rw [List.map_cons, sqlOf_cons, sqlOf_cons, hp, ih]

/-- Compiling binds the parts of the layout and gives its text. -/
theorem compile_outline (table : String) (intent : Intent) (clauses : Clauses) :
    (compile table intent clauses).map Compiled.outline =
      ((bindParts (layout table intent clauses)).boundNames ∅).map
        (sqlOf (layout table intent clauses), ·) := by
  rw [compile, writeStatement_eq, Binder.compiled, writeParts, StateT.run_bind, Binder.boundNames]
  cases (bindParts (layout table intent clauses)).run ∅ <;> rfl

/-- Statements whose layouts have one outline compile to the same SQL and the same names, or fail
with one error. -/
theorem compile_alike {table : String} {intent intent' : Intent} {clauses clauses' : Clauses}
    (hi : intent.outline = intent'.outline) (hc : clauses.outline = clauses'.outline) :
    (compile table intent clauses).map Compiled.outline =
      (compile table intent' clauses').map Compiled.outline := by
  have hl : (layout table intent clauses).map Part.outline =
      (layout table intent' clauses').map Part.outline := by
    rw [layout_outline table intent, hi, hc, ← layout_outline]
  rw [compile_outline, compile_outline, bindParts_outline rfl, hl, ← bindParts_outline rfl,
    ← sqlOf_outline (layout table intent clauses), hl, sqlOf_outline]

/-! ## Builder programs -/

/-- A modifier without the contents of values. -/
def Modifier.outline : Modifier → Modifier
  | .filter step => .filter step.outline
  | modifier => modifier

/-- A builder without the contents of values. -/
def Builder.outline (builder : Builder) : Builder :=
  { builder with intent := builder.intent.outline, clauses := builder.clauses.outline }

namespace Builder

variable {builder other : Builder}

theorem filter_outline (h : builder.outline = other.outline) (step : Step) :
    (builder.filter step).map outline = (other.filter step.outline).map outline := by
  have hc : builder.clauses.conditions.outline = other.clauses.conditions.outline :=
    congrArg (·.clauses.conditions) h
  refine Except.map_bind_congr (Clause.apply_outline hc step) fun conditions conditions' he => ?_
  refine congrArg Except.ok ?_
  show ({ builder.outline with clauses.conditions := conditions.outline } : Builder) =
    { other.outline with clauses.conditions := conditions'.outline }
  rw [h, he]

/-- A modifier does to the outline of a builder what its own outline does. -/
theorem modify_outline (h : builder.outline = other.outline) (modifier : Modifier) :
    (builder.modify modifier).map outline = (other.modify modifier.outline).map outline := by
  cases modifier with
  | filter step => exact filter_outline h step
  | join kind fragment => exact congrArg (fun b => Except.ok (b.join kind fragment)) h
  | groupBy expression => exact congrArg (fun b => Except.ok (b.groupBy expression)) h
  | orderBy expression => exact congrArg (fun b => Except.ok (b.orderBy expression)) h
  | limit text => exact congrArg (fun b => Except.ok (b.limit text)) h
  | offset n => exact congrArg (fun b => Except.ok (b.offset n)) h
  | pageSource source => exact congrArg (fun b => Except.ok (b.withPageSource source)) h

/-- So do modifiers in a row. -/
theorem modifyAll_outline (h : builder.outline = other.outline) (modifiers : List Modifier) :
    (builder.modifyAll modifiers).map outline =
      (other.modifyAll (modifiers.map Modifier.outline)).map outline := by
  induction modifiers generalizing builder other with
  | nil => exact congrArg Except.ok h
  | cons modifier rest ih =>
    exact Except.map_bind_congr (modify_outline h modifier) fun first second hb => ih hb

/-- Modifiers with one outline succeed together, with one outline, or fail with one error. -/
theorem modifyAll_alike (h : builder.outline = other.outline) {modifiers modifiers' : List Modifier}
    (hm : modifiers.map Modifier.outline = modifiers'.map Modifier.outline) :
    (builder.modifyAll modifiers).map outline = (other.modifyAll modifiers').map outline := by
  rw [modifyAll_outline h modifiers, hm, modifyAll_outline rfl modifiers']

end Builder

/-- Contents of values do not influence the text. Steps with one outline on clauses with one outline
succeed together, or fail with one error. Of two builder programs on a table whose modifiers and
intents have the same outlines, every number of modifiers succeeds in both or fails in both, with
one error, and both statements compile to the same SQL and the same names, or fail with one
error. -/
theorem contents_never_reach_text (table : String) {intent intent' : Intent}
    {modifiers modifiers' : List Modifier} (hi : intent.outline = intent'.outline)
    (hm : modifiers.map Modifier.outline = modifiers'.map Modifier.outline) :
    (∀ {clause clause' : Clause} {step step' : Step}, clause.outline = clause'.outline →
      step.outline = step'.outline →
        (clause.apply step).map Clause.outline = (clause'.apply step').map Clause.outline) ∧
    (∀ count, (({ table } : Builder).modifyAll (modifiers.take count)).map Builder.outline =
      (({ table } : Builder).modifyAll (modifiers'.take count)).map Builder.outline) ∧
    (do
      let builder ← ({ table } : Builder).modifyAll modifiers
      { builder with intent }.compile).map Compiled.outline =
    (do
      let builder ← ({ table } : Builder).modifyAll modifiers'
      { builder with intent := intent' }.compile).map Compiled.outline := by
  refine ⟨fun hc hs => Clause.apply_alike hc hs, fun count => ?_, ?_⟩
  · refine Builder.modifyAll_alike rfl ?_
    rw [List.map_take, List.map_take, hm]
  · refine Except.map_bind_congr (Builder.modifyAll_alike rfl hm) fun first second hb => ?_
    have htable : first.table = second.table := congrArg (·.table) hb
    have hc : first.clauses.outline = second.clauses.outline := congrArg (·.clauses) hb
    rw [Builder.compile, Builder.compile, htable]
    exact compile_alike hi hc

/-- A program with places for values: one after a token, two in a list, one of SQL as given. -/
def valuesIn (name first second least : Value) : List Modifier :=
  [.filter (.token .and "name" "like" name),
    .filter (.group .or [.equal .and "u.id" (.list [first, second]),
      .raw "AND score > :least" (.ofList [("least", least)])])]

/-- Values that look like SQL leave the text of an update as it is. -/
theorem contents_never_reach_text_update :
    ∃ intent intent' : Intent, ∃ modifiers modifiers' : List Modifier,
      intent = .update (.ofList [("age", .int 30)]) ∧
      intent' = .update (.ofList [("age", .text "0, admin = 1 --")]) ∧
      modifiers = valuesIn (.text "ada") (.int 1) (.int 2) (.int 5) ∧
      modifiers' = valuesIn (.text "' OR '1' = '1") .null (.text ":least") (.text "(?)") ∧
      intent.outline = intent'.outline ∧
      modifiers.map Modifier.outline = modifiers'.map Modifier.outline ∧
      (do
        let builder ← ({ table := "t" } : Builder).modifyAll modifiers'
        { builder with intent := intent' }.compile).map Compiled.outline =
      .ok ("UPDATE t SET age = :age WHERE name LIKE :name0 OR (u.id IN (:uid1in0, :uid1in1)" ++
        " AND score > :least)", ["age", "name0", "uid1in0", "uid1in1", "least"]) := by
  have hi : (Intent.update (.ofList [("age", .int 30)])).outline =
      (Intent.update (.ofList [("age", .text "0, admin = 1 --")])).outline := rfl
  have hm : (valuesIn (.text "ada") (.int 1) (.int 2) (.int 5)).map Modifier.outline =
      (valuesIn (.text "' OR '1' = '1") .null (.text ":least") (.text "(?)")).map
        Modifier.outline := rfl
  obtain ⟨-, -, same⟩ := contents_never_reach_text "t" hi hm
  refine ⟨_, _, _, _, rfl, rfl, rfl, rfl, hi, hm, same.symm.trans ?_⟩
  rfl

end BoundSql
