import BoundSql.Statement

/-!
# Layouts of statements

What a statement says can be told before any value is bound: its layout lists its parts from left
to right, stretches of SQL, placeholders with the values they stand for, and the checks of
arguments on the way. Writing the statement binds the parts of its layout in order and gives their
text:

* `writePredicates_eq`: the predicates of a clause;
* `writeStatement_eq`: a whole statement.
-/

namespace BoundSql

/-- A field after which placeholders can be named: some character of it may stand in a name. -/
def Nameable (field : String) : Prop :=
  stemChars field ≠ []

instance (field : String) : Decidable (Nameable field) :=
  inferInstanceAs (Decidable (stemChars field ≠ []))

/-- A part of a statement. -/
inductive Part where
  /-- SQL as it is written. -/
  | text (sql : String)
  /-- A placeholder with the value it stands for. -/
  | slot (name : String) (value : Value)
  /-- A value for SQL written as given, which holds the placeholder itself. -/
  | aside (name : String) (value : Value)
  /-- Nothing, as long as a placeholder can be named after the field. -/
  | named (field : String)
  /-- Nothing: an argument is at fault. -/
  | refused (fault : ArgumentFault)
  deriving DecidableEq

namespace Part

/-- The text of a part. -/
def sql : Part → String
  | text sql => sql
  | slot name _ => ":" ++ name
  | aside _ _ | named _ | refused _ => ""

/-- The value that a part binds, under its name. -/
def pairs : Part → List (String × Value)
  | slot name value | aside name value => [(name, value)]
  | text _ | named _ | refused _ => []

/-- Binds the value of a part, or checks its argument. -/
def bind : Part → Binder Unit
  | text _ => return
  | slot name value | aside name value => Binder.bind name value
  | named field => do
    let _ ← stem field
  | refused fault => throw (.invalidArgument fault)

/-- The check of a part succeeds. -/
def Sound : Part → Prop
  | named field => Nameable field
  | refused _ => False
  | text _ | slot _ _ | aside _ _ => True

end Part

/-! ## Parts in order -/

/-- The text of parts. -/
def sqlOf (parts : List Part) : String :=
  String.join (parts.map Part.sql)

/-- The values that parts bind, under their names. -/
def pairsOf (parts : List Part) : List (String × Value) :=
  parts.flatMap Part.pairs

/-- Binds the values of parts and checks their arguments, in order. -/
def bindParts : List Part → Binder Unit
  | [] => return
  | part :: rest => do
    part.bind
    bindParts rest

/-- The text of parts, once their values are bound. -/
def writeParts (parts : List Part) : Binder String := do
  bindParts parts
  return sqlOf parts

/-- Groups of parts with a comma and a space between them. -/
def separated : List (List Part) → List Part
  | [] => []
  | first :: rest => first ++ rest.flatMap (Part.text ", " :: ·)

@[simp] theorem sqlOf_nil : sqlOf [] = "" := rfl

@[simp] theorem sqlOf_cons (part : Part) (rest : List Part) :
    sqlOf (part :: rest) = part.sql ++ sqlOf rest := by
  simp [sqlOf]

@[simp] theorem sqlOf_append (p q : List Part) : sqlOf (p ++ q) = sqlOf p ++ sqlOf q := by
  induction p with
  | nil => simp
  | cons part rest ih => simp [ih, String.append_assoc]

@[simp] theorem pairsOf_nil : pairsOf [] = [] := rfl

@[simp] theorem pairsOf_cons (part : Part) (rest : List Part) :
    pairsOf (part :: rest) = part.pairs ++ pairsOf rest := rfl

@[simp] theorem pairsOf_append (p q : List Part) : pairsOf (p ++ q) = pairsOf p ++ pairsOf q :=
  List.flatMap_append

@[simp] theorem bindParts_append (p q : List Part) :
    bindParts (p ++ q) = (do bindParts p; bindParts q) := by
  induction p with
  | nil => simp [bindParts]
  | cons part rest ih => simp [bindParts, ih]

theorem sqlOf_separated (groups : List (List Part)) :
    sqlOf (separated groups) = ", ".intercalate (groups.map sqlOf) := by
  cases groups with
  | nil => rfl
  | cons first rest =>
    rw [separated, sqlOf_append, List.map_cons]
    induction rest generalizing first with
    | nil => simp
    | cons second rest ih =>
      rw [List.map_cons, String.intercalate_cons_cons, ← ih]
      simp [Part.sql, String.append_assoc]

theorem pairsOf_separated (groups : List (List Part)) :
    pairsOf (separated groups) = groups.flatMap pairsOf := by
  cases groups with
  | nil => rfl
  | cons first rest =>
    rw [separated, pairsOf_append, List.flatMap_cons]
    induction rest with
    | nil => rfl
    | cons second rest ih => simp_all [Part.pairs]

theorem bindParts_separated (groups : List (List Part)) :
    bindParts (separated groups) = bindParts groups.flatten := by
  cases groups with
  | nil => rfl
  | cons first rest =>
    rw [separated, bindParts_append, List.flatten_cons, bindParts_append]
    congr 1
    funext _
    induction rest with
    | nil => rfl
    | cons second rest ih => simp [ih, bindParts, Part.bind]

/-! ## The layout of a statement -/

/-- The stem of the placeholders for a field, empty when there is none. -/
def stemText (field : String) : String :=
  String.ofList (stemChars field)

/-- The placeholder of a column that is written. -/
def columnParts (entry : String × Value) : List Part :=
  [.named entry.1, .slot (stemText entry.1) entry.2]

/-- The layout of the first part of a statement on a table. -/
def Intent.parts (table : String) : Intent → List Part
  | .select columns =>
    [.text ("SELECT " ++ (if columns.isEmpty then "*" else ", ".intercalate columns) ++ " FROM " ++
      table)]
  | .insert data =>
    if data.isEmpty then [.refused (.nothingToInsert table)]
    else
      .text ("INSERT INTO " ++ table ++ " (" ++ ", ".intercalate data.keys ++ ") VALUES (") ::
        (separated (data.entries.map columnParts) ++ [.text ")"])
  | .update data =>
    if data.isEmpty then [.refused (.nothingToUpdate table)]
    else
      .text ("UPDATE " ++ table ++ " SET ") ::
        separated (data.entries.map fun entry => .text (entry.1 ++ " = ") :: columnParts entry)
  | .delete => [.text ("DELETE FROM " ++ table)]

/-- The placeholders of the elements of a list, numbered from a position on. -/
def elementParts (base : String) (position : Nat) (items : List Value) : List (List Part) :=
  (items.zipIdx position).map fun (item, position) => [.slot (elementName base position) item]

/-- The layout of the operand of a list operator, after the text before it. -/
def listParts (head base field : String) (op : Operator) : Option Value → List Part
  | some (.list items) =>
    .text (head ++ " (") :: (separated (elementParts base 0 items) ++ [.text ")"])
  | _ => [.refused (.noList op field)]

/-- The layout of the bounds of a range operator, after the text before them. -/
def rangeParts (head base field : String) (op : Operator) : Option Value → List Part
  | some (.list [low, high]) =>
    [.text (head ++ " "), .slot (base ++ "btw0") low, .text " AND ", .slot (base ++ "btw1") high]
  | some (.list items) => [.refused (.boundCount op field items.length)]
  | _ => [.refused (.noList op field)]

/-- The layout of the operand of an operator that takes one, after the text before it. -/
def operandParts (head base field : String) (op : Operator) (operand : Option Value) :
    List Part :=
  if op.isList then listParts head base field op operand
  else if op.isRange then rangeParts head base field op operand
  else [.text (head ++ " "), .slot base (operand.getD .null)]

/-- The layout of a comparison at a position of the clause. -/
def compareParts (index : Nat) (field : String) (op : Operator) (operand : Option Value) :
    List Part :=
  let head := field ++ " " ++ op.sql
  if op.isUnary then [.text head]
  else .named field :: operandParts head (stemText field ++ toString index) field op operand

/-- The values of SQL that is written as given. -/
def asideParts (entries : List (String × Value)) : List Part :=
  entries.map fun entry => .aside entry.1 entry.2

/-- The layout of a test at a position of the clause. -/
def Condition.parts (index : Nat) : Condition → List Part
  | .raw sql values => .text sql :: asideParts values.entries
  | .compare field op operand => compareParts index field op operand

/-- What stands before a test at a position of the clause: a space, and the keyword of a
comparison. -/
def Condition.lead (index : Nat) (conjunction : Conjunction) : Condition → String
  | .raw _ _ => " "
  | .compare _ _ _ => " " ++ (if index = 0 then "WHERE" else conjunction.sql) ++ " "

/-- The layout of a predicate at a position of the clause. -/
def Predicate.parts (index : Nat) (p : Predicate) : List Part :=
  .text (p.condition.lead index p.conjunction ++ repeated '(' p.opens) ::
    (p.condition.parts index ++ [.text (repeated ')' p.closes)])

/-- The layout of predicates from a position on. -/
def clauseParts (index : Nat) (predicates : List Predicate) : List Part :=
  (predicates.zipIdx index).flatMap fun (p, index) => p.parts index

/-- The layout of a whole statement. -/
def layout (table : String) (intent : Intent) (clauses : Clauses) : List Part :=
  intent.parts table ++ .text (writeJoins clauses.joins) ::
    (clauseParts 0 clauses.conditions.predicates ++ [.text clauses.writeTail])

/-! ## Writing follows the layout -/

namespace Binder

theorem throw_bind {α β : Type} (e : Error) (next : α → Binder β) :
    ((throw e : Binder α) >>= next) = throw e := rfl

theorem map_throw {α β : Type} (e : Error) (f : α → β) : (f <$> (throw e : Binder α)) = throw e :=
  rfl

theorem lift_ok_bind {α β : Type} (a : α) (next : α → Binder β) :
    (do let a ← (Except.ok a : Except Error α); next a : Binder β) = next a := rfl

theorem lift_error_bind {α β : Type} (e : Error) (next : α → Binder β) :
    (do let a ← (Except.error e : Except Error α); next a : Binder β) = throw e := rfl

end Binder

theorem writeParts_cons (part : Part) (rest : List Part) :
    writeParts (part :: rest) = (do part.bind; return part.sql ++ (← writeParts rest)) := by
  simp [writeParts, bindParts]

theorem writeParts_append (p q : List Part) :
    writeParts (p ++ q) = (do return (← writeParts p) ++ (← writeParts q)) := by
  simp [writeParts]

theorem writeParts_text (sql : String) (rest : List Part) :
    writeParts (.text sql :: rest) = (do return sql ++ (← writeParts rest)) := by
  simp [writeParts_cons, Part.bind, Part.sql]

theorem bind_stem_eq {α : Type} (field : String) (next : String → Binder α) :
    (do let name ← stem field; next name : Binder α) =
      (do (Part.named field).bind; next (stemText field)) := by
  simp only [Part.bind, stem, stemText]
  split <;> rfl

theorem bindColumns_eq (entries : List (String × Value)) :
    bindColumns entries =
      (do
        bindParts (entries.map columnParts).flatten
        return entries.map fun entry => (entry.1, ":" ++ stemText entry.1)) := by
  induction entries with
  | nil => simp [bindColumns, bindParts]
  | cons entry rest ih =>
    obtain ⟨column, value⟩ := entry
    rw [bindColumns, bind_stem_eq]
    simp [ih, columnParts, bindParts, Part.bind]

theorem bindElements_eq (base : String) (position : Nat) (items : List Value) :
    bindElements base position items =
      (do
        bindParts (elementParts base position items).flatten
        return (elementParts base position items).map sqlOf) := by
  induction items generalizing position with
  | nil => simp [bindElements, elementParts, bindParts]
  | cons item rest ih =>
    have step : elementParts base position (item :: rest) =
        [.slot (elementName base position) item] :: elementParts base (position + 1) rest := rfl
    rw [bindElements, ih, step]
    simp [bindParts, Part.bind, Part.sql]

/-- The parts that hold text alone bind nothing. -/
theorem bindParts_assignments (entries : List (String × Value)) :
    bindParts (entries.map fun entry => .text (entry.1 ++ " = ") :: columnParts entry).flatten =
      bindParts (entries.map columnParts).flatten := by
  induction entries with
  | nil => rfl
  | cons entry rest ih =>
    simp only [List.map_cons, List.flatten_cons, bindParts_append, ih]
    simp [bindParts, Part.bind]

theorem Intent.write_eq (table : String) (intent : Intent) :
    intent.write table = writeParts (intent.parts table) := by
  cases intent with
  | select columns => simp [Intent.write, Intent.parts, writeParts, bindParts, Part.bind, Part.sql]
  | delete => simp [Intent.write, Intent.parts, writeParts, bindParts, Part.bind, Part.sql]
  | insert data =>
    by_cases h : data.isEmpty
    · simp [Intent.write, Intent.parts, writeParts, bindParts, Part.bind, h, Binder.throw_bind,
        Binder.map_throw]
    · rw [Intent.write, Intent.parts, if_neg h, if_neg h, writeParts_text, bindColumns_eq]
      simp [writeParts, bindParts_separated, sqlOf_separated, bindParts, Part.bind, Part.sql,
        columnParts, OrderedMap.keys, Function.comp_def, String.append_assoc]
  | update data =>
    by_cases h : data.isEmpty
    · simp [Intent.write, Intent.parts, writeParts, bindParts, Part.bind, h, Binder.throw_bind,
        Binder.map_throw]
    · rw [Intent.write, Intent.parts, if_neg h, if_neg h, writeParts_text, bindColumns_eq,
        ← bindParts_assignments]
      simp [writeParts, bindParts_separated, sqlOf_separated, Part.sql, columnParts,
        Function.comp_def, String.append_assoc]

theorem writeElements_eq (head base field : String) (op : Operator) (operand : Option Value) :
    writeElements head base field op operand =
      writeParts (listParts head base field op operand) := by
  unfold writeElements
  fun_cases listParts head base field op operand with
  | case1 items =>
    rw [listItems, Binder.lift_ok_bind, bindElements_eq, writeParts_text]
    simp [writeParts, bindParts_separated, sqlOf_separated, bindParts, Part.bind, Part.sql,
      String.append_assoc]
  | case2 operand h =>
    rw [listItems.eq_2 _ _ _ h, Binder.lift_error_bind]
    simp [writeParts, bindParts, Part.bind, Binder.map_throw]

theorem writeBounds_eq (head base field : String) (op : Operator) (operand : Option Value) :
    writeBounds head base field op operand =
      writeParts (rangeParts head base field op operand) := by
  unfold writeBounds
  fun_cases rangeParts head base field op operand with
  | case1 low high =>
    have text : head ++ " :" ++ (base ++ "btw0") ++ " AND :" ++ (base ++ "btw1") =
        sqlOf [.text (head ++ " "), .slot (base ++ "btw0") low, .text " AND ",
          .slot (base ++ "btw1") high] := by
      have colon : (" :" : String) = " " ++ ":" := rfl
      have andColon : (" AND :" : String) = " AND " ++ ":" := rfl
      simp only [sqlOf_cons, sqlOf_nil, Part.sql, colon, andColon, String.append_assoc,
        String.append_empty]
    rw [listItems, Binder.lift_ok_bind, writeParts]
    simp only [text]
    simp [bindParts, Part.bind]
  | case2 items h =>
    rw [listItems, Binder.lift_ok_bind]
    simp [writeParts, bindParts, Part.bind, Binder.map_throw]
  | case3 operand h h' =>
    rw [listItems.eq_2 _ _ _ h', Binder.lift_error_bind]
    simp [writeParts, bindParts, Part.bind, Binder.map_throw]

theorem writeCompare_eq (index : Nat) (field : String) (op : Operator) (operand : Option Value) :
    writeCompare index field op operand = writeParts (compareParts index field op operand) := by
  unfold writeCompare compareParts
  by_cases hu : op.isUnary
  · simp [hu, writeParts, bindParts, Part.bind, Part.sql]
  · rw [if_neg hu, if_neg hu, writeParts_cons, operandParts]
    simp only [bind_stem_eq]
    congr 1
    funext _
    by_cases hl : op.isList
    · simp [hl, writeElements_eq, Part.sql]
    · by_cases hr : op.isRange
      · simp [hl, hr, writeBounds_eq, Part.sql]
      · have text : field ++ " " ++ op.sql ++ " :" ++ (stemText field ++ toString index) =
            sqlOf [.text (field ++ " " ++ op.sql ++ " "),
              .slot (stemText field ++ toString index) (operand.getD .null)] := by
          have colon : (" :" : String) = " " ++ ":" := rfl
          simp only [sqlOf_cons, sqlOf_nil, Part.sql, colon, String.append_assoc,
            String.append_empty]
        simp only [hl, hr, text]
        simp [writeParts, bindParts, Part.bind, Part.sql]

theorem bindAll_eq (entries : List (String × Value)) :
    Binder.bindAll entries = bindParts (asideParts entries) := by
  induction entries with
  | nil => rfl
  | cons entry rest ih =>
    rw [Binder.bindAll, ih]
    rfl

theorem sqlOf_asides (entries : List (String × Value)) : sqlOf (asideParts entries) = "" := by
  induction entries with
  | nil => rfl
  | cons entry rest ih =>
    rw [asideParts, List.map_cons, sqlOf_cons, ← asideParts, ih]
    rfl

theorem Predicate.write_eq (index : Nat) (p : Predicate) :
    p.write index = writeParts (p.parts index) := by
  unfold Predicate.write Predicate.parts
  cases p.condition with
  | raw sql values =>
    simp [Condition.parts, Condition.lead, writeParts, bindParts, Part.bind, Part.sql, bindAll_eq,
      sqlOf_asides, String.append_assoc]
  | compare field op operand =>
    simp [Condition.parts, Condition.lead, writeParts, bindParts, Part.bind, Part.sql,
      writeCompare_eq, String.append_assoc]

theorem clauseParts_cons (index : Nat) (p : Predicate) (rest : List Predicate) :
    clauseParts index (p :: rest) = p.parts index ++ clauseParts (index + 1) rest := rfl

theorem writePredicates_eq (index : Nat) (predicates : List Predicate) :
    writePredicates index predicates = writeParts (clauseParts index predicates) := by
  induction predicates generalizing index with
  | nil => simp [writePredicates, clauseParts, writeParts, bindParts]
  | cons p rest ih => rw [writePredicates, clauseParts_cons, writeParts_append, p.write_eq, ih]

/-- Writing a statement binds the parts of its layout in order and gives their text. -/
theorem writeStatement_eq (table : String) (intent : Intent) (clauses : Clauses) :
    writeStatement table intent clauses = writeParts (layout table intent clauses) := by
  rw [writeStatement, intent.write_eq, writePredicates_eq]
  simp [layout, writeParts, bindParts, Part.bind, Part.sql, String.append_assoc]

end BoundSql
