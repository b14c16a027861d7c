import BoundSql.Builder
import BoundSql.Proofs.Query.Sending
import BoundSql.Proofs.Statement.Binding

/-!
# Names on the prepared statement

The compiler refuses a name that two entries share, but the names on the statement come into being
later, when lists are bound element by element and colons are dropped. A prepared statement keeps
every value exactly when the names of its entries are still apart then (`NamesApart`); otherwise a
value takes the place of another one, without an error.

* `prepare_keeps_values_iff`: what a prepared statement holds, and when it holds every value;
* `prepare_keeps_scalars`: without lists and without colons it holds every value.
-/

namespace BoundSql

/-- The names of an entry on a statement: one for each element of a list, and its own otherwise. -/
def namesOn (entry : String × Value) : List String :=
  match entry.2 with
  | .list items => (List.range items.length).map fun k => bindingName entry.1 ++ toString k
  | _ => [bindingName entry.1]

/-- Two entries that share no name on a statement. -/
def NamesApart (a b : String × Value) : Prop :=
  ∀ name ∈ namesOn a, name ∉ namesOn b

instance (a b : String × Value) : Decidable (NamesApart a b) :=
  inferInstanceAs (Decidable (∀ name ∈ namesOn a, name ∉ namesOn b))

theorem bindingName_indexed (name : String) (k : Nat) :
    bindingName (name ++ toString k) = bindingName name ++ toString k :=
  bindingName_append fun h =>
    absurd (Text.isDigit_of_mem_toString (List.mem_of_head? h)) (by decide)

theorem map_bindingName_sentBy (name : String) (value : Value) :
    (sentBy name value).map (fun pair => bindingName pair.1) = namesOn (name, value) := by
  cases value with
  | list items =>
    show ((items.zipIdx.map _).map _) = (List.range items.length).map _
    rw [List.map_map, List.range_eq_range', ← List.zipIdx_map_snd 0 items, List.map_map]
    exact List.map_congr_left fun pair _ => bindingName_indexed name pair.2
  | _ => rfl

/-- A statement receives the names of its entries, in order. -/
theorem map_fst_received (entries : List (String × Value)) :
    (received entries).map Prod.fst = entries.flatMap namesOn := by
  rw [received, stored, sent, List.map_map, List.map_flatMap]
  congr 1
  funext entry
  exact map_bindingName_sentBy entry.1 entry.2

/-- No entry uses a name twice. -/
theorem nodup_namesOn (entry : String × Value) : (namesOn entry).Nodup := by
  unfold namesOn
  split
  · refine List.Pairwise.map _ (fun j k hjk he => hjk ?_) List.nodup_range
    exact Text.eq_of_toString_eq ((String.append_right_inj _).1 he)
  · simp

theorem nodup_received_iff {entries : List (String × Value)} :
    ((received entries).map Prod.fst).Nodup ↔ entries.Pairwise NamesApart := by
  rw [map_fst_received, List.Nodup, List.pairwise_flatMap]
  constructor
  · rintro ⟨-, hp⟩
    exact hp.imp fun h name ha hb => h name ha name hb rfl
  · intro hp
    refine ⟨fun entry _ => nodup_namesOn entry, hp.imp fun h name ha other hb he => ?_⟩
    exact h name ha (he ▸ hb)

/-- A builder that prepares a query compiles, and the statement holds what it received of the
compiled values. -/
theorem compile_of_prepare {σ : Type} [Connection σ] [StoresBindings σ]
    {builder builder' : Builder} {query : Query} {s t : σ}
    (h : Building.prepare.apply (builder, s) = (.ok query, (builder', t))) :
    ∃ compiled, builder.compile = .ok compiled ∧
      query.statement.bindings = .ofList (received compiled.values.entries) := by
  unfold Building.prepare at h
  obtain ⟨_, _, hg, h⟩ := Act.apply_bind_eq_ok.1 h
  cases hg
  obtain ⟨compiled, _, hcompiled, h⟩ := Act.apply_bind_eq_ok.1 h
  obtain ⟨hc, rfl⟩ := Prod.mk.inj hcompiled
  rw [Building.onConnection, Act.apply_onSecond] at h
  obtain ⟨hq, -⟩ := Prod.mk.inj h
  exact ⟨compiled, hc, bindings_of_prepared (Prod.ext hq rfl)⟩

/-- A builder without lists and without colons in its names loses no value. -/
theorem prepare_keeps_scalars {σ : Type} [Connection σ] [StoresBindings σ]
    {builder builder' : Builder} {query : Query} {s t : σ}
    (h : Building.prepare.apply (builder, s) = (.ok query, (builder', t)))
    (hs : ∀ entry ∈ introduced builder.intent builder.clauses.conditions,
      entry.2.isList = false ∧ entry.1.toList.head? ≠ some ':') :
    query.statement.bindings.entries = introduced builder.intent builder.clauses.conditions := by
  obtain ⟨compiled, hc, hb⟩ := compile_of_prepare h
  have he := entries_of_compile hc
  rw [hb, he, received_of_scalars hs, ← he]
  exact OrderedMap.entries_ofList_of_nodup compiled.values.nodup

/-- What a prepared statement holds are the values that its builder introduces, as the statement
received them. It holds them all exactly when no two of them share a name there. Without lists and
without colons in the names it holds them as they were introduced. -/
theorem prepare_keeps_values_iff {σ : Type} [Connection σ] [StoresBindings σ]
    {builder builder' : Builder} {query : Query} {s t : σ}
    (h : Building.prepare.apply (builder, s) = (.ok query, (builder', t))) :
    query.statement.bindings =
      .ofList (received (introduced builder.intent builder.clauses.conditions)) ∧
    (query.statement.bindings.entries =
        received (introduced builder.intent builder.clauses.conditions) ↔
      (introduced builder.intent builder.clauses.conditions).Pairwise NamesApart) ∧
    ((∀ entry ∈ introduced builder.intent builder.clauses.conditions,
        entry.2.isList = false ∧ entry.1.toList.head? ≠ some ':') →
      query.statement.bindings.entries = introduced builder.intent builder.clauses.conditions) := by
  obtain ⟨compiled, hc, hb⟩ := compile_of_prepare h
  rw [entries_of_compile hc] at hb
  refine ⟨hb, ?_, prepare_keeps_scalars h⟩
  rw [← nodup_received_iff, hb]
  constructor
  · intro he
    rw [← he]
    exact OrderedMap.nodup _
  · exact OrderedMap.entries_ofList_of_nodup

/-- A list and a comparison whose names are apart on the statement. -/
theorem prepare_keeps_values_iff_apart :
    ∃ conditions query, Clause.empty.applyAll [
        .raw "WHERE id IN (:ids0, :ids1)" (.ofList [("ids", .list [.int 1, .int 2])]),
        .equal .and "age" (.int 30)] = .ok conditions ∧
      (Building.prepare.apply ({ table := "t", clauses := { conditions } }, ({} : Scripted))).1 =
        .ok query ∧
      query.statement.bindings.entries =
        [("ids0", .int 1), ("ids1", .int 2), ("age1", .int 30)] := by
  have h : (Building.prepare.apply ({ table := "t", clauses := { conditions := ⟨[
      { conjunction := .and,
        condition :=
          .raw "WHERE id IN (:ids0, :ids1)" (.ofList [("ids", .list [.int 1, .int 2])]) },
      { conjunction := .and, condition := .compare "age" .eq (some (.int 30)) }]⟩ } },
      ({} : Scripted))) = (.ok _, _) := rfl
  obtain ⟨-, keeps, -⟩ := prepare_keeps_values_iff h
  exact ⟨_, _, rfl, congrArg Prod.fst h, (keeps.2 (by decide)).trans rfl⟩

/-- The second element of a list is bound under the name of a comparison, whose value then takes the
place of the element: the placeholder of the list stands for the operand of the comparison. -/
theorem prepare_overwrites :
    ∃ conditions query, Clause.empty.applyAll [
        .raw "WHERE id IN (:age0, :age1)" (.ofList [("age", .list [.int 1, .int 2])]),
        .equal .and "age" (.int 30)] = .ok conditions ∧
      (Building.prepare.apply ({ table := "t", clauses := { conditions } }, ({} : Scripted))).1 =
        .ok query ∧
      introduced (.select []) conditions = [("age", .list [.int 1, .int 2]), ("age1", .int 30)] ∧
      query.statement.sql = "SELECT * FROM t WHERE id IN (:age0, :age1) AND age = :age1" ∧
      query.statement.bindings.entries = [("age0", .int 1), ("age1", .int 30)] ∧
      ¬ (introduced (.select []) conditions).Pairwise NamesApart := by
  refine ⟨_, _, rfl, rfl, rfl, rfl, rfl, ?_⟩
  decide

end BoundSql
