import BoundSql.Connection.Embedded
import BoundSql.Connection.Scripted
import BoundSql.Query
import BoundSql.Statement

/-!
# What binding sends to a statement

A query binds its entries one after the other, a list element by element. What reaches the statement
is a list of pairs (`sent`), under names without colons (`received`). On every connection that
stores what it accepts (`StoresBindings`), a query whose entries are bound holds just the pairs that
it received, later ones in place of earlier ones of the same name:

* `bindings_of_prepared`: a query that is prepared and bound;
* `statement_of_send`: a compiled statement that is handed to a connection;
* `bindValues_embedded`: entries without lists can always be bound to an embedded connection.
-/

namespace BoundSql

/-- The pairs that an entry sends: its elements when it is a list, under the name followed by their
position, and itself otherwise. -/
def sentBy (name : String) : Value → List (String × Value)
  | .list items => items.zipIdx.map fun (item, k) => (name ++ toString k, item)
  | scalar => [(name, scalar)]

/-- The pairs that entries send, in order. -/
def sent (entries : List (String × Value)) : List (String × Value) :=
  entries.flatMap fun (name, value) => sentBy name value

/-- Pairs as a statement stores them, under names without colons. -/
def stored (pairs : List (String × Value)) : List (String × Value) :=
  pairs.map fun pair => (bindingName pair.1, pair.2)

/-- The pairs that a statement receives from entries. -/
def received (entries : List (String × Value)) : List (String × Value) :=
  stored (sent entries)

/-- The statement with pairs bound in order. -/
def Prepared.bindAll (p : Prepared) (pairs : List (String × Value)) : Prepared :=
  pairs.foldl (fun p pair => p.bind pair.1 pair.2) p

theorem Prepared.bindAll_append (p : Prepared) (pairs others : List (String × Value)) :
    p.bindAll (pairs ++ others) = (p.bindAll pairs).bindAll others :=
  List.foldl_append

theorem Prepared.bindAll_eq (p : Prepared) (pairs : List (String × Value)) :
    p.bindAll pairs = { p with bindings := p.bindings.insertAll (stored pairs) } := by
  induction pairs generalizing p with
  | nil => rfl
  | cons pair rest ih => exact ih (p.bind pair.1 pair.2)

theorem Prepared.bindings_bindAll (p : Prepared) (pairs : List (String × Value)) :
    (p.bindAll pairs).bindings = p.bindings.insertAll (stored pairs) := by
  rw [bindAll_eq]

theorem Prepared.sql_bindAll (p : Prepared) (pairs : List (String × Value)) :
    (p.bindAll pairs).sql = p.sql := by
  rw [bindAll_eq]

/-- Entries that are no lists are sent as they are. -/
theorem sent_of_scalars {entries : List (String × Value)}
    (h : ∀ entry ∈ entries, entry.2.isList = false) : sent entries = entries := by
  induction entries with
  | nil => rfl
  | cons entry rest ih =>
    rw [List.forall_mem_cons] at h
    obtain ⟨name, value⟩ := entry
    have hfirst : sentBy name value = [(name, value)] := by
      cases value with
      | list items => cases h.1
      | _ => rfl
    calc
      sent ((name, value) :: rest) = sentBy name value ++ sent rest := rfl
      _ = (name, value) :: rest := by rw [hfirst, ih h.2, List.singleton_append]

/-- Pairs whose names begin with no colon are stored under these names. -/
theorem stored_of_head {pairs : List (String × Value)}
    (h : ∀ pair ∈ pairs, pair.1.toList.head? ≠ some ':') : stored pairs = pairs := by
  refine (List.map_congr_left fun pair hp => ?_).trans (List.map_id pairs)
  rw [bindingName_of_head (h pair hp)]
  rfl

/-- Entries that are no lists and whose names begin with no colon are received as they are. -/
theorem received_of_scalars {entries : List (String × Value)}
    (h : ∀ entry ∈ entries, entry.2.isList = false ∧ entry.1.toList.head? ≠ some ':') :
    received entries = entries := by
  rw [received, sent_of_scalars fun entry he => (h entry he).1,
    stored_of_head fun entry he => (h entry he).2]

/-- A statement that is handed the entries of a map holds the map. -/
theorem Prepared.bindAll_entries {sql : String} {values : OrderedMap Value}
    (h : ∀ entry ∈ values.entries, entry.1.toList.head? ≠ some ':') :
    Prepared.bindAll { sql } values.entries = { sql, bindings := values } := by
  have hvalues : .ofList values.entries = values :=
    OrderedMap.ext (OrderedMap.entries_ofList_of_nodup values.nodup)
  rw [bindAll_eq, stored_of_head h]
  exact congrArg (Prepared.mk sql · [] 0) hvalues

/-- A connection whose statements begin without values and store those that it accepts. -/
class StoresBindings (σ : Type) [Connection σ] : Prop where
  eq_prepare {sql : String} {p : Prepared} {s t : σ}
    (h : (Connection.prepare sql).apply s = (.ok p, t)) : p = { sql }
  eq_bind {p q : Prepared} {name : String} {value : Value} {s t : σ}
    (h : (Connection.bind p name value).apply s = (.ok q, t)) : q = p.bind name value

/-- A guarded effect that succeeds does what it guards. -/
theorem Scripted.apply_guarded_pure {α : Type} {call : Call} {a b : α} {s t : Scripted}
    (h : (Scripted.guarded call (pure a)).apply s = (.ok b, t)) : b = a := by
  unfold Scripted.guarded at h
  rw [Act.apply_ofFunction] at h
  split at h
  · cases h
  · cases h
    rfl

instance : StoresBindings Scripted where
  eq_prepare h := Scripted.apply_guarded_pure h
  eq_bind h := Scripted.apply_guarded_pure h

instance : StoresBindings EmbeddedConnection where
  eq_prepare h := by
    cases h
    rfl
  eq_bind {p q name value s t} h := by
    change (EmbeddedConnection.bind p name value).apply s = _ at h
    unfold EmbeddedConnection.bind at h
    split at h
    · cases h
    · cases h
      rfl

variable {σ : Type} [Connection σ] [StoresBindings σ]

theorem statement_of_bindItems {name : String} {position : Nat} {items : List Value}
    {query query' : Query} {s t : σ}
    (h : (Query.bindItems name position items query).apply s = (.ok query', t)) :
    query'.statement = query.statement.bindAll
      ((items.zipIdx position).map fun (item, k) => (name ++ toString k, item)) := by
  induction items generalizing position query s with
  | nil =>
    cases h
    rfl
  | cons item rest ih =>
    simp only [Query.bindItems] at h
    split at h
    · cases h
    · obtain ⟨p, u, hp, h⟩ := Act.apply_bind_eq_ok.1 h
      rw [ih h, StoresBindings.eq_bind hp]
      rfl

theorem statement_of_bindValue {query query' : Query} {name : String} {value : Value} {s t : σ}
    (h : (query.bindValue name value).apply s = (.ok query', t)) :
    query'.statement = query.statement.bindAll (sentBy name value) := by
  unfold Query.bindValue at h
  split at h
  · exact statement_of_bindItems h
  · rename_i hv
    obtain ⟨p, u, hp, h⟩ := Act.apply_bind_eq_ok.1 h
    cases h
    rw [sentBy.eq_2 name value hv]
    exact StoresBindings.eq_bind hp

/-- Entries that are bound have sent their pairs to the statement, and nothing else. -/
theorem statement_of_bindValues {query query' : Query} {entries : List (String × Value)} {s t : σ}
    (h : (query.bindValues entries).apply s = (.ok query', t)) :
    query'.statement = query.statement.bindAll (sent entries) := by
  induction entries generalizing query s with
  | nil =>
    cases h
    rfl
  | cons entry rest ih =>
    obtain ⟨middle, u, hm, h⟩ := Act.apply_bind_eq_ok.1 h
    rw [ih h, statement_of_bindValue hm, ← Prepared.bindAll_append]
    rfl

/-- A query that is prepared and bound holds what its statement received. -/
theorem bindings_of_prepared {sql : String} {entries : List (String × Value)} {query : Query}
    {s t : σ}
    (h : (do
      let query ← Query.prepare sql
      query.bindValues entries : Act σ Query).apply s = (.ok query, t)) :
    query.statement.bindings = .ofList (received entries) := by
  obtain ⟨fresh, u, hf, h⟩ := Act.apply_bind_eq_ok.1 h
  obtain ⟨p, u, hp, hf⟩ := Act.apply_bind_eq_ok.1 hf
  cases hf
  rw [statement_of_bindValues h, Prepared.bindings_bindAll, StoresBindings.eq_prepare hp]
  rfl

/-- Prepares a compiled statement and binds its values. -/
def send {σ : Type} [Connection σ] (compiled : Compiled) : Act σ Query := do
  let query ← Query.prepare compiled.sql
  query.bindValues compiled.values.entries

namespace Compiled

/-- A compiled statement with its values, as a connection holds it. -/
def statement (compiled : Compiled) : Prepared :=
  Prepared.bindAll { sql := compiled.sql } (sent compiled.values.entries)

theorem sql_statement (compiled : Compiled) : compiled.statement.sql = compiled.sql :=
  Prepared.sql_bindAll _ _

/-- The statement holds the values that it received. -/
theorem bindings_statement (compiled : Compiled) :
    compiled.statement.bindings = .ofList (received compiled.values.entries) :=
  Prepared.bindings_bindAll _ _

end Compiled

/-- A query of a compiled statement holds the statement with its values. -/
theorem statement_of_send {compiled : Compiled} {query : Query} {s t : σ}
    (h : (send compiled).apply s = (.ok query, t)) : query.statement = compiled.statement := by
  obtain ⟨fresh, u, hf, h⟩ := Act.apply_bind_eq_ok.1 h
  obtain ⟨p, u, hp, hf⟩ := Act.apply_bind_eq_ok.1 hf
  cases hf
  rw [statement_of_bindValues h, StoresBindings.eq_prepare hp]
  rfl

/-- Entries without lists can be bound to an embedded connection. -/
theorem bindValues_embedded (query : Query) {entries : List (String × Value)}
    (h : ∀ entry ∈ entries, entry.2.isList = false) (s : EmbeddedConnection) :
    (query.bindValues entries).apply s = (.ok ⟨query.statement.bindAll entries⟩, s) := by
  induction entries generalizing query with
  | nil => rfl
  | cons entry rest ih =>
    rw [List.forall_mem_cons] at h
    obtain ⟨name, value⟩ := entry
    have hb : (query.bindValue name value).apply s =
        (.ok ⟨query.statement.bind name value⟩, s) := by
      cases value with
      | list items => cases h.1
      | _ => rfl
    exact (Act.apply_bind_of_ok hb).trans (ih _ h.2)

end BoundSql
