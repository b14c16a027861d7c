import BoundSql.Builder.Modifier

/-!
# The order of modifiers

Each kind of modifier has a part of the builder for itself: joins, predicates and expressions are
put behind those given before, and of limits, offsets and page sources the last one counts. What a
builder holds after modifiers is therefore put together from what each kind says by itself
(`modifyAll_eq`), and nothing is left of how the kinds were interleaved. The text of a statement has
its parts in one order, whatever the order of the modifiers was.

* `modifyAll_eq`: the builder after modifiers, by induction on them;
* `compile_parts`: the parts of a statement in order;
* `compileAfter_alike`: statements of modifiers in another order.
-/

namespace BoundSql

namespace Modifier

/-- The table that a modifier joins. -/
def join? : Modifier → Option Join
  | .join kind fragment => some { kind, fragment }
  | _ => none

/-- The step on the predicates that a modifier is. -/
def step? : Modifier → Option Step
  | .filter step => some step
  | _ => none

/-- The expression that a modifier groups by. -/
def groupBy? : Modifier → Option String
  | .groupBy expression => some expression
  | _ => none

/-- The expression that a modifier orders by. -/
def orderBy? : Modifier → Option String
  | .orderBy expression => some expression
  | _ => none

/-- The limit that a modifier sets. -/
def limit? : Modifier → Option String
  | .limit text => some text
  | _ => none

/-- The offset that a modifier sets. -/
def offset? : Modifier → Option UInt64
  | .offset n => some n
  | _ => none

/-- The last of the values that modifiers set, and else the one before them. -/
def lastOf {α : Type} (select : Modifier → Option α) (modifiers : List Modifier)
    (before : Option α) : Option α :=
  (modifiers.filterMap select).getLast?.or before

/-- Modifiers that say the same kind by kind, as far as the statement is concerned. -/
structure Alike (modifiers others : List Modifier) : Prop where
  joins : modifiers.filterMap join? = others.filterMap join?
  steps : modifiers.filterMap step? = others.filterMap step?
  groupBy : modifiers.filterMap groupBy? = others.filterMap groupBy?
  orderBy : modifiers.filterMap orderBy? = others.filterMap orderBy?
  limit : (modifiers.filterMap limit?).getLast? = (others.filterMap limit?).getLast?
  offset : (modifiers.filterMap offset?).getLast? = (others.filterMap offset?).getLast?

theorem lastOf_append {α : Type} (select : Modifier → Option α) (modifiers others : List Modifier)
    (before : Option α) :
    lastOf select (modifiers ++ others) before =
      lastOf select others (lastOf select modifiers before) := by
  rw [lastOf, List.filterMap_append, List.getLast?_append, Option.or_assoc]
  rfl

end Modifier

open Modifier

namespace Clauses

/-- The clauses after modifiers whose steps lead to given predicates. -/
def modified (clauses : Clauses) (modifiers : List Modifier) (conditions : Clause) : Clauses where
  joins := clauses.joins ++ modifiers.filterMap join?
  conditions := conditions
  groupBy := clauses.groupBy ++ modifiers.filterMap groupBy?
  orderBy := clauses.orderBy ++ modifiers.filterMap orderBy?
  limit := lastOf limit? modifiers clauses.limit
  offset := lastOf offset? modifiers clauses.offset

theorem modified_nil (clauses : Clauses) : clauses.modified [] clauses.conditions = clauses := by
  simp [modified, lastOf]

theorem modified_append (clauses : Clauses) (modifiers others : List Modifier)
    (conditions last : Clause) :
    clauses.modified (modifiers ++ others) last =
      (clauses.modified modifiers conditions).modified others last := by
  simp only [modified, List.filterMap_append, List.append_assoc, lastOf_append]

end Clauses

theorem Clause.applyAll_append (clause : Clause) (steps others : List Step) :
    clause.applyAll (steps ++ others) = clause.applyAll steps >>= fun clause =>
      clause.applyAll others := by
  induction steps generalizing clause with
  | nil => rfl
  | cons step rest ih =>
    rw [List.cons_append, Clause.applyAll, Clause.applyAll, bind_assoc]
    exact congrArg _ (funext ih)

namespace Builder

/-- What a builder says of the statement. -/
def statement (builder : Builder) : String × Clauses :=
  (builder.table, builder.clauses)

/-- A modifier that is no step changes its own part of the clauses, and nothing else. -/
theorem statement_of_no_step {builder next : Builder} {modifier : Modifier}
    (hs : modifier.step? = none) (h : builder.modify modifier = .ok next) :
    next.statement =
      (builder.table, builder.clauses.modified [modifier] builder.clauses.conditions) := by
  cases modifier with
  | filter step => cases hs
  | join | groupBy | orderBy | limit | offset | pageSource =>
    cases h
    simp [statement, Clauses.modified, lastOf, List.filterMap_cons, join, groupBy, orderBy, limit,
      offset, withPageSource, join?, groupBy?, orderBy?, limit?, offset?]

/-- What a modifier does to the statement, and when it fails. -/
theorem modify_cases (builder : Builder) (modifier : Modifier) :
    (∃ e, builder.modify modifier = .error e ∧
      builder.clauses.conditions.applyAll modifier.step?.toList = .error e) ∨
    ∃ next conditions, builder.modify modifier = .ok next ∧
      builder.clauses.conditions.applyAll modifier.step?.toList = .ok conditions ∧
      next.statement = (builder.table, builder.clauses.modified [modifier] conditions) := by
  cases modifier with
  | filter step =>
    simp only [modify, filter, step?, Option.toList, Clause.applyAll]
    cases builder.clauses.conditions.apply step with
    | error e => exact .inl ⟨e, rfl, rfl⟩
    | ok conditions =>
      refine .inr ⟨_, conditions, rfl, rfl, ?_⟩
      simp [statement, Clauses.modified, lastOf, join?, groupBy?, orderBy?, limit?, offset?]
  | join | groupBy | orderBy | limit | offset | pageSource =>
    exact .inr ⟨_, _, rfl, rfl, statement_of_no_step rfl rfl⟩

/-- What a builder says of the statement after modifiers. The predicates are those that the steps
lead to, and all fails when the steps do. -/
theorem statement_modifyAll (builder : Builder) (modifiers : List Modifier) :
    (builder.modifyAll modifiers).map statement =
      (builder.clauses.conditions.applyAll (modifiers.filterMap step?)).map fun conditions =>
        (builder.table, builder.clauses.modified modifiers conditions) := by
  induction modifiers generalizing builder with
  | nil =>
    exact congrArg (fun clauses => Except.ok (builder.table, clauses))
      builder.clauses.modified_nil.symm
  | cons modifier rest ih =>
    have hsteps : (modifier :: rest).filterMap step? =
        modifier.step?.toList ++ rest.filterMap step? := by
      rw [List.filterMap_cons]
      cases modifier.step? <;> rfl
    rw [modifyAll, hsteps, Clause.applyAll_append]
    obtain ⟨e, hm, hc⟩ | ⟨next, conditions, hm, hc, hstatement⟩ := builder.modify_cases modifier
    · rw [hm, hc]
      rfl
    · obtain ⟨htable, hclauses⟩ := Prod.mk.inj hstatement
      have hnext := ih next
      rw [htable, hclauses] at hnext
      rw [hm, hc]
      refine hnext.trans (congrArg (Except.map · _) (funext fun last => ?_))
      rw [← Clauses.modified_append, List.singleton_append]

/-- The statement of a builder after modifiers, under an intent. -/
def compileAfter (builder : Builder) (modifiers : List Modifier) (intent : Intent) :
    Except Error Compiled := do
  let builder ← builder.modifyAll modifiers
  { builder with intent }.compile

theorem compileAfter_eq (builder : Builder) (modifiers : List Modifier) (intent : Intent) :
    builder.compileAfter modifiers intent =
      (builder.clauses.conditions.applyAll (modifiers.filterMap step?) >>= fun conditions =>
        BoundSql.compile builder.table intent
          (builder.clauses.modified modifiers conditions)) := by
  have hstatement : builder.compileAfter modifiers intent =
      ((builder.modifyAll modifiers).map statement >>= fun held =>
        BoundSql.compile held.1 intent held.2) := by
    rw [compileAfter]
    cases builder.modifyAll modifiers <;> rfl
  rw [hstatement, statement_modifyAll]
  cases builder.clauses.conditions.applyAll (modifiers.filterMap step?) <;> rfl

end Builder

/-! ## The parts of a statement -/

/-- The text of a limit, which a blank one leaves out. -/
def limitText : Option String → String
  | none => ""
  | some text => if text.toList.all Text.isBlank then "" else " LIMIT " ++ text

theorem Text.trim_eq_nil_iff {s : List Char} : trim s = [] ↔ s.all isBlank = true := by
  constructor
  · intro h
    refine List.all_eq_true.2 fun c hc => Decidable.byContradiction fun hb => ?_
    have hmem := mem_trim hc (Bool.eq_false_iff.2 hb)
    rw [h] at hmem
    cases hmem
  · intro h
    have hstart : trimStart s = [] := by
      rw [trimStart, ← s.append_nil, dropWhile_run (List.all_eq_true.1 h) (endsRun_nil _)]
    rw [trim, hstart]
    rfl

theorem writeLimit_eq (limit : Option String) : writeLimit limit = limitText limit := by
  cases limit with
  | none => rfl
  | some text =>
    rw [writeLimit, limitText]
    simp only [List.isEmpty_iff, Text.trim_eq_nil_iff]

/-- The parts of a statement that compiles, in order. -/
theorem compile_parts {table : String} {intent : Intent} {clauses : Clauses} {compiled : Compiled}
    (h : compile table intent clauses = .ok compiled) :
    ∃ first bound tests,
      (intent.write table).run ∅ = .ok (first, bound) ∧
      (writePredicates 0 clauses.conditions.predicates).run bound = .ok (tests, compiled.values) ∧
      compiled.sql = first ++ String.join (clauses.joins.map Join.sql) ++ tests ++
        writeList " GROUP BY " clauses.groupBy ++ writeList " ORDER BY " clauses.orderBy ++
        limitText clauses.limit ++ writeOffset clauses.offset := by
  rw [compile, writeStatement, Binder.compiled] at h
  simp only [StateT.run_bind, bind_assoc] at h
  cases hf : (intent.write table).run ∅ with
  | error e =>
    rw [hf] at h
    cases h
  | ok written =>
    obtain ⟨first, bound⟩ := written
    rw [hf] at h
    cases hp : (writePredicates 0 clauses.conditions.predicates).run bound with
    | error e =>
      replace h : (writePredicates 0 clauses.conditions.predicates).run bound >>= _ = _ := h
      rw [hp] at h
      cases h
    | ok written =>
      obtain ⟨tests, values⟩ := written
      replace h : (writePredicates 0 clauses.conditions.predicates).run bound >>= _ = _ := h
      rw [hp] at h
      cases h
      refine ⟨first, bound, tests, rfl, hp, ?_⟩
      rw [Clauses.writeTail, writeLimit_eq, writeJoins]
      simp only [String.append_assoc]

/-- Modifiers that are alike kind by kind lead to the same statement, or to the same error, however
the kinds are interleaved. The text of the statement has its parts in one order: what the intent
says, the joins, the tests, the groups, the orders, the limit unless it is blank, and the offset. -/
theorem compileAfter_alike {modifiers others : List Modifier} (h : Alike modifiers others)
    (builder : Builder) (intent : Intent) :
    builder.compileAfter modifiers intent = builder.compileAfter others intent ∧
    ∀ compiled, builder.compileAfter modifiers intent = .ok compiled →
      ∃ conditions first bound tests,
        builder.clauses.conditions.applyAll (modifiers.filterMap step?) = .ok conditions ∧
        (intent.write builder.table).run ∅ = .ok (first, bound) ∧
        (writePredicates 0 conditions.predicates).run bound = .ok (tests, compiled.values) ∧
        compiled.sql = first ++
          String.join ((builder.clauses.joins ++ modifiers.filterMap join?).map Join.sql) ++
          tests ++
          writeList " GROUP BY " (builder.clauses.groupBy ++ modifiers.filterMap groupBy?) ++
          writeList " ORDER BY " (builder.clauses.orderBy ++ modifiers.filterMap orderBy?) ++
          limitText (lastOf limit? modifiers builder.clauses.limit) ++
          writeOffset (lastOf offset? modifiers builder.clauses.offset) := by
  refine ⟨?_, fun compiled hc => ?_⟩
  · have hmodified : builder.clauses.modified modifiers = builder.clauses.modified others := by
      funext conditions
      simp only [Clauses.modified, lastOf, h.joins, h.groupBy, h.orderBy, h.limit, h.offset]
    rw [Builder.compileAfter_eq, Builder.compileAfter_eq, h.steps, hmodified]
  · rw [Builder.compileAfter_eq] at hc
    cases hs : builder.clauses.conditions.applyAll (modifiers.filterMap step?) with
    | error e =>
      rw [hs] at hc
      cases hc
    | ok conditions =>
      rw [hs] at hc
      obtain ⟨first, bound, tests, hf, hp, hsql⟩ := compile_parts hc
      exact ⟨conditions, first, bound, tests, rfl, hf, hp, hsql⟩

/-- An offset, a limit, an order, a grouping, a test and a join, and the same the other way
round. -/
theorem compileAfter_alike_reversed :
    Alike [.offset 4, .limit "5", .orderBy "id", .groupBy "id", .filter (.equal .and "a" (.int 1)),
        .join .left "u ON u.id = t.uid"]
      [.join .left "u ON u.id = t.uid", .filter (.equal .and "a" (.int 1)), .groupBy "id",
        .orderBy "id", .limit "5", .offset 4] ∧
    ({ table := "t" } : Builder).compileAfter [.offset 4, .limit "5", .orderBy "id", .groupBy "id",
        .filter (.equal .and "a" (.int 1)), .join .left "u ON u.id = t.uid"] (.select []) =
      ({ table := "t" } : Builder).compileAfter [.join .left "u ON u.id = t.uid",
        .filter (.equal .and "a" (.int 1)), .groupBy "id", .orderBy "id", .limit "5",
        .offset 4] (.select []) ∧
    ({ table := "t" } : Builder).compileAfter [.offset 4, .limit "5", .orderBy "id", .groupBy "id",
        .filter (.equal .and "a" (.int 1)), .join .left "u ON u.id = t.uid"] (.select []) =
      .ok ⟨"SELECT * FROM t LEFT JOIN u ON u.id = t.uid WHERE a = :a0 GROUP BY id ORDER BY id" ++
        " LIMIT 5 OFFSET 4", .ofList [("a0", .int 1)]⟩ := by
  have alike : Alike [.offset 4, .limit "5", .orderBy "id", .groupBy "id",
        .filter (.equal .and "a" (.int 1)), .join .left "u ON u.id = t.uid"]
      [.join .left "u ON u.id = t.uid", .filter (.equal .and "a" (.int 1)), .groupBy "id",
        .orderBy "id", .limit "5", .offset 4] :=
    ⟨rfl, rfl, rfl, rfl, rfl, rfl⟩
  exact ⟨alike, (compileAfter_alike alike { table := "t" } (.select [])).1, rfl⟩

end BoundSql
