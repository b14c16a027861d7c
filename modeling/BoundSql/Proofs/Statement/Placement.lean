import BoundSql.Proofs.Query.Sending
import BoundSql.Proofs.Statement.PlainStatement

/-!
# Placeholders and their operands

From the builder to the driver: a plain statement is compiled to SQL with named placeholders, the
names are numbered in the form of the backend, and the values are bound under the names and then
read in the order of the numbers. Every numbered placeholder gets the value of the column, the
comparison, the element or the bound that it was written for (`placeholders_receive_operands`).
-/

namespace BoundSql

/-- The names of a legible layout are names that placeholders may have. -/
theorem isName_of_legible {parts : List Part} (h : Legible parts) :
    ∀ name ∈ namesOf parts, IsName name.toList := by
  induction h with
  | nil => simp [namesOf]
  | text plain apart _ ih => exact ih
  | slot isName calm _ ih => exact List.forall_mem_cons.2 ⟨isName, ih⟩
  | named _ ih => exact ih

theorem head_of_isName {name : String} (h : IsName name.toList) :
    name.toList.head? ≠ some ':' := by
  intro hc
  have hstart := h.1
  rw [hc, Option.any_some] at hstart
  exact absurd hstart (by decide)

/-- Values under such names are stored as they are given. -/
theorem bindings_of_isName {sql : String} {values : OrderedMap Value}
    (h : ∀ name ∈ values.keys, IsName name.toList) :
    (Prepared.bindAll { sql } values.entries).bindings = values := by
  rw [Prepared.bindAll_entries fun entry he => head_of_isName (h entry.1 (List.mem_map_of_mem he))]

/-- The values of a map can be read in the order of its names. -/
theorem orderedValues_keys (values : OrderedMap Value) :
    EmbeddedConnection.orderedValues values values.keys = .ok (values.entries.map Prod.snd) := by
  -- The induction is on the names still to be read; they are looked up in the whole map.
  have along (entries : List (String × Value)) (h : ∀ entry ∈ entries, entry ∈ values.entries) :
      EmbeddedConnection.orderedValues values (entries.map Prod.fst) =
        .ok (entries.map Prod.snd) := by
    induction entries with
    | nil => rfl
    | cons entry rest ih =>
      rw [List.forall_mem_cons] at h
      rw [List.map_cons, EmbeddedConnection.orderedValues, OrderedMap.get?_of_mem h.1, ih h.2]
      rfl
  exact along values.entries fun entry he => he

/-- The placeholders of a plain statement, in the form of any backend, are numbered in the order of
its values, and binding and reading those values gives every placeholder its own operand. -/
theorem placeholders_receive_operands {table : String} {intent : Intent} {clauses : Clauses}
    {steps : List Step} {compiled : Compiled}
    (h : Clause.empty.applyAll steps = .ok clauses.conditions)
    (hc : compile table intent clauses = .ok compiled)
    (hp : PlainStatement table intent clauses)
    (hs : ∀ entry ∈ introduced intent clauses.conditions, entry.2.isList = false)
    (backend : Backend) (s : EmbeddedConnection) :
    compiled.sql = sqlOf (layout table intent clauses) ∧
    pairsOf (layout table intent clauses) = introduced intent clauses.conditions ∧
    toPositional backend compiled.sql =
      ⟨String.ofList (numbered backend 0 (layout table intent clauses)), compiled.values.keys⟩ ∧
    compiled.values.keys.Nodup ∧
    ∃ query : Query,
      (do
        let query ← Query.prepare compiled.sql
        query.bindValues compiled.values.entries : Act EmbeddedConnection Query).apply s =
        (.ok query, s) ∧
      EmbeddedConnection.orderedValues query.statement.bindings
          (toPositional backend compiled.sql).bindOrder =
        .ok ((introduced intent clauses.conditions).map Prod.snd) := by
  have hfits := fits_of_applyAll h
  have hentries := entries_of_compile hc
  obtain ⟨hr, rfl⟩ := compile_eq_ok_iff.1 hc
  have hl : Legible (layout table intent clauses) :=
    legible_layout hp ((ready_layout_iff hfits).1 hr).data hfits
  have hnames : namesOf (layout table intent clauses) =
      (OrderedMap.ofList (pairsOf (layout table intent clauses))).keys := by
    rw [OrderedMap.keys, hentries, ← pairsOf_layout table intent clauses, namesOf]
  have hposition := toPositional_sqlOf backend hl (hnames ▸ OrderedMap.nodup _)
  refine ⟨rfl, pairsOf_layout table intent clauses, hnames ▸ hposition, OrderedMap.nodup _,
    ⟨_, bindValues_embedded _ (hentries ▸ hs) s, ?_⟩⟩
  rw [hposition, hnames, bindings_of_isName (hnames ▸ isName_of_legible hl), orderedValues_keys,
    hentries]

/-- An update of two columns with a list in a group, for a backend that counts its placeholders. -/
theorem placeholders_receive_operands_update :
    ∃ steps clauses compiled, Clause.empty.applyAll steps = .ok clauses.conditions ∧
      compile "t" (.update (.ofList [("name", .text "x"), ("u.age", .int 7)])) clauses =
        .ok compiled ∧
      compiled.sql = "UPDATE t SET name = :name, u.age = :uage" ++
        " WHERE (id IN (:id0in0, :id0in1) OR ab IS NULL) LIMIT 5" ∧
      toPositional .postgres compiled.sql =
        ⟨"UPDATE t SET name = $1, u.age = $2 WHERE (id IN ($3, $4) OR ab IS NULL) LIMIT 5",
          ["name", "uage", "id0in0", "id0in1"]⟩ ∧
      ∃ query : Query,
        (do
          let query ← Query.prepare compiled.sql
          query.bindValues compiled.values.entries : Act EmbeddedConnection Query).apply
            { name := "default" } = (.ok query, { name := "default" }) ∧
        EmbeddedConnection.orderedValues query.statement.bindings
            (toPositional .postgres compiled.sql).bindOrder =
          .ok [.text "x", .int 7, .int 1, .int 2] := by
  have h : Clause.empty.applyAll [.group .and [.compare .and "id" .isIn (.list [.int 1, .int 2]),
      .nullTest .or "ab" false]] = .ok ⟨[
        { conjunction := .and, condition := .compare "id" .isIn (some (.list [.int 1, .int 2])),
          opens := 1 },
        { conjunction := .or, condition := .compare "ab" .isNull none, closes := 1 }]⟩ := rfl
  refine ⟨_, { conditions := _, limit := some "5" }, _, h, rfl, rfl, ?_⟩
  obtain ⟨-, -, hpositional, -, hquery⟩ :=
    @placeholders_receive_operands "t" (.update (.ofList [("name", .text "x"), ("u.age", .int 7)]))
      { conditions := _, limit := some "5" } _ _ h rfl
      { table := plain_of_all (by decide)
        columns := fun column hc => plain_of_all (by revert column; decide)
        stems := by decide
        joins := nofun
        tests := List.forall_mem_cons.2 ⟨⟨plain_of_all (by decide), fun _ => by decide⟩,
          List.forall_mem_cons.2 ⟨⟨plain_of_all (by decide), nofun⟩, nofun⟩⟩
        groupBy := nofun
        orderBy := nofun
        limit := fun _ ht => Option.some.inj ht ▸ plain_of_all (by decide) }
      (by decide) .postgres { name := "default" }
  exact ⟨hpositional, hquery⟩

end BoundSql
