import BoundSql.Proofs.Builder.Terminal

/-!
# What a connection sees of a statement

A recorded connection keeps what it is asked to prepare, to bind and to execute, and passes it on,
so that nothing is changed for those who use it. What it sees of an effect that may stop half-way is
a beginning of what it sees when the effect succeeds (`Emits`): one list describes both.

* `emits_send`: a compiled statement is prepared and its values are bound, in order;
* `SingleCall.emits_finish`: a terminal call goes on with that statement and no other.
-/

namespace BoundSql

variable {σ α β : Type}

/-- A statement as a connection sees it. -/
inductive Sighting where
  | prepared (sql : String)
  | bound (statement : Prepared) (name : String) (value : Value)
  | executed (statement : Prepared)

/-- A connection with what it has seen of statements, oldest first. -/
structure Recorded (σ : Type) where
  connection : σ
  seen : List Sighting := []

namespace Recorded

/-- An effect of the connection that is not about a statement, or reads one that was executed. -/
def pass (act : Act σ α) : Act (Recorded σ) α :=
  .ofFunction fun c =>
    let (result, s) := act.apply c.connection
    (result, { c with connection := s })

/-- An effect of the connection that it sees first. -/
def see (sighting : Sighting) (act : Act σ α) : Act (Recorded σ) α := do
  .update fun c => { c with seen := c.seen ++ [sighting] }
  pass act

/-- The outcome of an effect of the connection, with more that was seen. -/
def extend (c : Recorded σ) (outcome : Except Error α × σ) (new : List Sighting) :
    Except Error α × Recorded σ :=
  (outcome.1, { connection := outcome.2, seen := c.seen ++ new })

theorem extend_nil (c : Recorded σ) (outcome : Except Error α × σ) :
    c.extend outcome [] = (outcome.1, { c with connection := outcome.2 }) := by
  rw [extend, List.append_nil]

theorem extend_extend {β : Type} (c : Recorded σ) (outcome : Except Error α × σ)
    (later : Except Error β × σ) (new more : List Sighting) :
    (c.extend outcome new).2.extend later more = c.extend later (new ++ more) := by
  rw [extend, extend, extend, List.append_assoc]

end Recorded

instance [Connection σ] : Connection (Recorded σ) where
  backend c := Connection.backend c.connection
  inTransaction c := Connection.inTransaction c.connection
  prepare sql := Recorded.see (.prepared sql) (Connection.prepare sql)
  bind p name value := Recorded.see (.bound p name value) (Connection.bind p name value)
  execute p := Recorded.see (.executed p) (Connection.execute p)
  fetchOne p := Recorded.pass (Connection.fetchOne p)
  fetchAll p := Recorded.pass (Connection.fetchAll p)
  rowCount c := Connection.rowCount c.connection
  lastInsertId := Recorded.pass Connection.lastInsertId
  beginTransaction := Recorded.pass Connection.beginTransaction
  commit := Recorded.pass Connection.commit
  rollback := Recorded.pass Connection.rollback

/-! ## Effects and what is seen of them -/

/-- On a recorded connection, an effect does what another one does on the connection alone. The
connection sees a beginning of a trace, all of it when the effect succeeds, and then the result has
a property. -/
def Emits (act : Act (Recorded σ) α) (plain : Act σ α) (trace : List Sighting) (P : α → Prop) :
    Prop :=
  ∀ c, ∃ new, act.apply c = c.extend (plain.apply c.connection) new ∧ new <+: trace ∧
    ∀ a, (plain.apply c.connection).1 = .ok a → new = trace ∧ P a

namespace Emits

variable {trace : List Sighting} {P : α → Prop}

theorem pure {a : α} (h : P a) : Emits (σ := σ) (pure a) (pure a) [] P :=
  fun c => ⟨[], (c.extend_nil (.ok a, c.connection)).symm, List.prefix_rfl, fun _ ha => by
    cases ha
    exact ⟨rfl, h⟩⟩

theorem throw (e : Error) : Emits (σ := σ) (throw e) (throw e) trace P :=
  fun c => ⟨[], (c.extend_nil (.error e, c.connection)).symm, List.nil_prefix, nofun⟩

theorem pass (act : Act σ α) : Emits (Recorded.pass act) act [] fun _ => True :=
  fun c => ⟨[], (c.extend_nil _).symm, List.prefix_rfl, fun _ _ => ⟨rfl, trivial⟩⟩

theorem see (sighting : Sighting) {act : Act σ α}
    (h : ∀ s a, (act.apply s).1 = .ok a → P a) :
    Emits (Recorded.see sighting act) act [sighting] P :=
  fun c => ⟨[sighting], rfl, List.prefix_rfl, fun a ha => ⟨rfl, h c.connection a ha⟩⟩

theorem read (f : σ → α) : Emits (.read fun c => f c.connection) (.read f) [] fun _ => True :=
  fun c => ⟨[], (c.extend_nil (.ok (f c.connection), c.connection)).symm, List.prefix_rfl,
    fun _ _ => ⟨rfl, trivial⟩⟩

theorem mono {act : Act (Recorded σ) α} {plain : Act σ α} {Q : α → Prop}
    (h : Emits act plain trace P) (hq : ∀ a, P a → Q a) : Emits act plain trace Q := by
  intro c
  obtain ⟨new, hs, hp, ho⟩ := h c
  exact ⟨new, hs, hp, fun a ha => (ho a ha).imp_right (hq a)⟩

/-- What is seen of one effect after the other. -/
theorem bind {act : Act (Recorded σ) α} {plain : Act σ α} {next : α → Act (Recorded σ) β}
    {plainNext : α → Act σ β} {rest : List Sighting} {Q : β → Prop} (h : Emits act plain trace P)
    (hn : ∀ a, P a → Emits (next a) (plainNext a) rest Q) :
    Emits (act >>= next) (plain >>= plainNext) (trace ++ rest) Q := by
  intro c
  obtain ⟨new, hs, hp, ho⟩ := h c
  rw [Act.apply_bind, Act.apply_bind, hs]
  generalize plain.apply c.connection = outcome at ho ⊢
  obtain ⟨e | a, s⟩ := outcome
  · exact ⟨new, rfl, hp.trans (List.prefix_append ..), nofun⟩
  · obtain ⟨rfl, ha⟩ := ho a rfl
    obtain ⟨more, hs', hp', ho'⟩ := hn a ha ⟨s, c.seen ++ new⟩
    refine ⟨new ++ more, ?_, (List.prefix_append_right_inj new).2 hp', fun b hb => ?_⟩
    · exact hs'.trans (c.extend_extend (.ok a, s) _ new more)
    · obtain ⟨rfl, hb⟩ := ho' b hb
      exact ⟨rfl, hb⟩

/-- An effect followed by one that is not seen. -/
theorem andThen {act : Act (Recorded σ) α} {plain : Act σ α} {next : α → Act (Recorded σ) β}
    {plainNext : α → Act σ β} {Q : β → Prop} (h : Emits act plain trace P)
    (hn : ∀ a, P a → Emits (next a) (plainNext a) [] Q) :
    Emits (act >>= next) (plain >>= plainNext) trace Q :=
  List.append_nil trace ▸ h.bind hn

end Emits

/-! ## Queries -/

/-- Bindings of pairs to a statement, one after the other. -/
def Prepared.bindTrace (p : Prepared) : List (String × Value) → List Sighting
  | [] => []
  | (name, value) :: rest => .bound p name value :: (p.bind name value).bindTrace rest

theorem Prepared.bindTrace_append (p : Prepared) (pairs others : List (String × Value)) :
    p.bindTrace (pairs ++ others) = p.bindTrace pairs ++ (p.bindAll pairs).bindTrace others := by
  induction pairs generalizing p with
  | nil => rfl
  | cons pair rest ih => exact congrArg (_ :: ·) (ih (p.bind pair.1 pair.2))

section
variable [Connection σ]

theorem emits_execute (query : Query) :
    Emits (σ := σ) query.execute query.execute [.executed query.statement] fun _ => True :=
  .see _ fun _ _ _ => trivial

theorem emits_all (query : Query) :
    Emits (σ := σ) query.all query.all [.executed query.statement] fun _ => True :=
  .andThen (emits_execute query) fun _ _ => .pass _

theorem emits_getOne (query : Query) :
    Emits (σ := σ) query.getOne query.getOne [.executed query.statement] fun _ => True :=
  .andThen (emits_execute query) fun _ _ => .pass _

theorem emits_get (query : Query) :
    Emits (σ := σ) query.get query.get [.executed query.statement] fun _ => True :=
  .andThen (emits_all query) fun _ _ => .pure trivial

theorem emits_count (query : Query) :
    Emits (σ := σ) query.count query.count [.executed query.statement] fun _ => True :=
  .andThen (emits_execute query) fun p _ => .read (Connection.rowCount · p)

end

section
variable [Connection σ] [StoresBindings σ]

theorem emits_prepare (sql : String) :
    Emits (σ := σ) (Query.prepare sql) (Query.prepare sql) [.prepared sql]
      fun query => query.statement = { sql } :=
  .andThen (.see _ fun _ _ h => StoresBindings.eq_prepare (Prod.ext h rfl)) fun _ h =>
    .pure h

theorem emits_bind (p : Prepared) (name : String) (value : Value) :
    Emits (σ := σ) (Connection.bind p name value) (Connection.bind p name value)
      [.bound p name value] (· = p.bind name value) :=
  .see _ fun _ _ h => StoresBindings.eq_bind (Prod.ext h rfl)

theorem emits_bindItems (name : String) (position : Nat) (items : List Value) (query : Query) :
    Emits (σ := σ) (Query.bindItems name position items query)
      (Query.bindItems name position items query)
      (query.statement.bindTrace
        ((items.zipIdx position).map fun (item, k) => (name ++ toString k, item)))
      fun bound => bound.statement = query.statement.bindAll
        ((items.zipIdx position).map fun (item, k) => (name ++ toString k, item)) := by
  induction items generalizing position query with
  | nil => exact .pure rfl
  | cons item rest ih =>
    rw [Query.bindItems, Query.bindItems]
    by_cases h : item.isList
    · rw [if_pos h, if_pos h]
      exact .throw _
    · rw [if_neg h, if_neg h]
      refine .bind (emits_bind query.statement _ item) ?_
      rintro _ rfl
      exact ih (position + 1) ⟨_⟩

theorem emits_bindValue (query : Query) (name : String) (value : Value) :
    Emits (σ := σ) (query.bindValue name value) (query.bindValue name value)
      (query.statement.bindTrace (sentBy name value))
      fun bound => bound.statement = query.statement.bindAll (sentBy name value) := by
  unfold Query.bindValue
  split
  · exact emits_bindItems name 0 _ query
  · rename_i hv
    rw [sentBy.eq_2 name value hv]
    exact .andThen (emits_bind query.statement name value) fun _ h => .pure h

theorem emits_bindValues (query : Query) (entries : List (String × Value)) :
    Emits (σ := σ) (query.bindValues entries) (query.bindValues entries)
      (query.statement.bindTrace (sent entries))
      fun bound => bound.statement = query.statement.bindAll (sent entries) := by
  induction entries generalizing query with
  | nil => exact .pure rfl
  | cons entry rest ih =>
    have split : sent (entry :: rest) = sentBy entry.1 entry.2 ++ sent rest := rfl
    rw [split, Prepared.bindTrace_append, Prepared.bindAll_append]
    refine .bind (emits_bindValue query _ _) fun bound h => ?_
    rw [← h]
    exact ih bound

end

/-! ## Compiled statements -/

namespace Compiled

/-- A connection is given the statement and its values. -/
def givenTrace (compiled : Compiled) : List Sighting :=
  .prepared compiled.sql ::
    Prepared.bindTrace { sql := compiled.sql } (sent compiled.values.entries)

/-- A connection is given the statement and its values, and runs it. -/
def ranTrace (compiled : Compiled) : List Sighting :=
  compiled.givenTrace ++ [.executed compiled.statement]

end Compiled

/-- What is seen when a statement is compiled and handed on: nothing if it does not compile, and
else a beginning of its trace, all of it in case of success. -/
theorem seen_of_compiled (result : Except Error Compiled) {next : Compiled → Act (Recorded σ) α}
    {plainNext : Compiled → Act σ α} {trace : Compiled → List Sighting}
    (h : ∀ compiled, Emits (next compiled) (plainNext compiled) (trace compiled) fun _ => True)
    (c : Recorded σ) :
    ∃ seen, (Act.ofExcept result >>= next).apply c =
        c.extend ((Act.ofExcept result >>= plainNext).apply c.connection) seen ∧
      (seen = [] ∨ ∃ compiled, result = .ok compiled ∧ seen <+: trace compiled) ∧
      ∀ a, ((Act.ofExcept result >>= plainNext).apply c.connection).1 = .ok a →
        ∃ compiled, result = .ok compiled ∧ seen = trace compiled := by
  cases result with
  | error e => exact ⟨[], (c.extend_nil (.error e, c.connection)).symm, .inl rfl, nofun⟩
  | ok compiled =>
    obtain ⟨seen, hs, hp, ho⟩ := h compiled c
    exact ⟨seen, hs, .inr ⟨compiled, rfl, hp⟩, fun a ha => ⟨compiled, rfl, (ho a ha).1⟩⟩

/-- What a connection sees of a call that succeeds. -/
def SingleCall.trace (compiled : Compiled) : SingleCall α → List Sighting
  | select _ | insert _ | update _ | delete | dump => compiled.givenTrace
  | fetch | fetchOne | all | count | aggregate _ _ => compiled.ranTrace
  | compile => []

section
variable [Connection σ] [StoresBindings σ]

theorem emits_send (compiled : Compiled) :
    Emits (σ := σ) (send compiled) (send compiled) compiled.givenTrace
      fun query => query.statement = compiled.statement := by
  refine .bind (emits_prepare compiled.sql) fun query h => ?_
  have hb := emits_bindValues (σ := σ) query compiled.values.entries
  rwa [h] at hb

theorem emits_sent (compiled : Compiled) {next : Query → Act (Recorded σ) α}
    {plainNext : Query → Act σ α}
    (h : ∀ query, Emits (next query) (plainNext query) [.executed query.statement] fun _ => True) :
    Emits (send compiled >>= next) (send compiled >>= plainNext) compiled.ranTrace fun _ => True :=
  .bind (emits_send compiled) fun query hq => hq ▸ h query

theorem SingleCall.emits_finish (call : SingleCall α) (compiled : Compiled) :
    Emits (σ := σ) (call.finish compiled) (call.finish compiled) (call.trace compiled)
      fun _ => True := by
  cases call with
  | select _ => exact (emits_send compiled).mono fun _ _ => trivial
  | insert _ => exact (emits_send compiled).mono fun _ _ => trivial
  | update _ => exact (emits_send compiled).mono fun _ _ => trivial
  | delete => exact (emits_send compiled).mono fun _ _ => trivial
  | fetch => exact emits_sent compiled emits_get
  | fetchOne => exact emits_sent compiled emits_getOne
  | all => exact emits_sent compiled emits_all
  | count => exact emits_sent compiled emits_count
  | aggregate _ _ =>
    exact emits_sent compiled fun query => .andThen (emits_getOne query) fun _ _ => .pure trivial
  | dump => exact .andThen (emits_send compiled) fun _ _ => .pure trivial
  | compile => exact .pure trivial

end

end BoundSql
