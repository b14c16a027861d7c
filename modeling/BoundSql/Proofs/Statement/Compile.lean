import BoundSql.Proofs.Statement.Layout

/-!
# When a statement compiles

A layout is ready when its checks succeed and its names are distinct (`Ready`). A statement whose
layout is ready compiles to the text of the layout with its values, in order, and any other fails
with the fault of one of its parts.

* `compile_eq_ok_iff`: the statements that compile, and what they compile to;
* `compile_of_not_ready`: how the others fail.
-/

namespace BoundSql

/-- Every part passes its check. -/
def AllSound (parts : List Part) : Prop :=
  ∀ part ∈ parts, part.Sound

@[simp] theorem allSound_nil : AllSound [] :=
  nofun

@[simp] theorem allSound_cons {part : Part} {rest : List Part} :
    AllSound (part :: rest) ↔ part.Sound ∧ AllSound rest :=
  List.forall_mem_cons

@[simp] theorem allSound_append {p q : List Part} :
    AllSound (p ++ q) ↔ AllSound p ∧ AllSound q :=
  List.forall_mem_append

theorem allSound_separated_map {α : Type} {xs : List α} {group : α → List Part} :
    AllSound (separated (xs.map group)) ↔ ∀ x ∈ xs, AllSound (group x) := by
  cases xs with
  | nil => simp [separated]
  | cons x rest =>
    rw [List.map_cons, separated, allSound_append, List.forall_mem_cons, List.flatMap_map]
    simp only [AllSound, List.forall_mem_flatMap, List.forall_mem_cons, Part.Sound, true_and]

/-- The names that parts bind. -/
def namesOf (parts : List Part) : List String :=
  (pairsOf parts).map Prod.fst

/-- The parts pass their checks, and their names are distinct from each other and from those that
are bound already. -/
structure Ready (values : OrderedMap Value) (parts : List Part) : Prop where
  sound : AllSound parts
  fresh : (values.keys ++ namesOf parts).Nodup

/-- The fault that a part may end in. -/
def Part.Raises (fault : ArgumentFault) : Part → Prop
  | text _ => False
  | slot name _ | aside name _ => fault = .boundTwice name
  | named field => fault = .noStem field
  | refused other => fault = other

theorem ready_nil (values : OrderedMap Value) : Ready values [] :=
  ⟨by simp, by simpa [namesOf, OrderedMap.keys] using values.nodup⟩

theorem ready_cons {values : OrderedMap Value} {part : Part} {rest : List Part} :
    Ready values (part :: rest) ↔
      part.Sound ∧ (values.keys ++ part.pairs.map Prod.fst).Nodup ∧
        Ready (values.insertAll part.pairs) rest := by
  have names : namesOf (part :: rest) = part.pairs.map Prod.fst ++ namesOf rest := by
    simp [namesOf]
  constructor
  · rintro ⟨hs, hf⟩
    rw [names, ← List.append_assoc] at hf
    have hp := (List.nodup_append.1 hf).1
    refine ⟨hs part (by simp), hp, fun q hq => hs q (by simp [hq]), ?_⟩
    rwa [OrderedMap.keys_insertAll_of_nodup hp]
  · rintro ⟨hs, hp, hr⟩
    refine ⟨by simpa [hs] using hr.sound, ?_⟩
    have hf := hr.fresh
    rwa [OrderedMap.keys_insertAll_of_nodup hp, List.append_assoc, ← names] at hf

theorem ready_append {values : OrderedMap Value} {p q : List Part} :
    Ready values (p ++ q) ↔ Ready values p ∧ Ready (values.insertAll (pairsOf p)) q := by
  induction p generalizing values with
  | nil => simp [ready_nil, OrderedMap.insertAll]
  | cons part rest ih =>
    rw [List.cons_append, ready_cons, ready_cons, ih, pairsOf_cons, OrderedMap.insertAll_append]
    simp only [and_assoc]

/-- A part that passes its check and whose name is free binds its value. -/
theorem Part.run_bind_of_sound {part : Part} {values : OrderedMap Value} (hs : part.Sound)
    (hf : (values.keys ++ part.pairs.map Prod.fst).Nodup) :
    part.bind.run values = .ok ((), values.insertAll part.pairs) := by
  have free {name : String} {value : Value} (h : (values.keys ++ [name]).Nodup) :
      (Binder.bind name value).run values = .ok ((), values.insert name value) := by
    have hn : ¬ values.contains name := fun hc =>
      (List.nodup_append.1 h).2.2 _ (OrderedMap.mem_keys_iff.2 hc) _ (by simp) rfl
    rw [Binder.run_bind, if_neg hn]
  cases part with
  | text sql => rfl
  | slot name value => exact free hf
  | aside name value => exact free hf
  | named field =>
    simp only [Part.bind, stem, List.isEmpty_iff, if_neg hs]
    rfl
  | refused fault => exact hs.elim

/-- Any other part fails. -/
theorem Part.run_bind_of_not_sound {part : Part} {values : OrderedMap Value}
    (h : ¬ (part.Sound ∧ (values.keys ++ part.pairs.map Prod.fst).Nodup)) :
    ∃ fault, part.bind.run values = .error (.invalidArgument fault) ∧ part.Raises fault := by
  have taken {name : String} {value : Value} (h : ¬ (values.keys ++ [name]).Nodup) :
      (Binder.bind name value).run values = .error (.invalidArgument (.boundTwice name)) := by
    have hn : name ∈ values.keys := Decidable.byContradiction fun hc =>
      h (List.nodup_append.2 ⟨values.nodup, by simp, by
        rintro a ha b hb rfl
        exact hc (List.mem_singleton.1 hb ▸ ha)⟩)
    rw [Binder.run_bind, if_pos (OrderedMap.mem_keys_iff.1 hn)]
  cases part with
  | text sql => exact absurd ⟨trivial, by simpa [Part.pairs, OrderedMap.keys] using values.nodup⟩ h
  | slot name value => exact ⟨_, taken fun hn => h ⟨trivial, hn⟩, rfl⟩
  | aside name value => exact ⟨_, taken fun hn => h ⟨trivial, hn⟩, rfl⟩
  | named field =>
    have hs : stemChars field = [] := Decidable.byContradiction fun hs =>
      h ⟨hs, by simpa [Part.pairs, OrderedMap.keys] using values.nodup⟩
    refine ⟨_, ?_, rfl⟩
    simp only [Part.bind, stem, hs]
    rfl
  | refused fault => exact ⟨fault, rfl, rfl⟩

/-- Parts that are ready bind their values in order. -/
theorem run_bindParts_of_ready {values : OrderedMap Value} {parts : List Part}
    (h : Ready values parts) :
    (bindParts parts).run values = .ok ((), values.insertAll (pairsOf parts)) := by
  induction parts generalizing values with
  | nil => rfl
  | cons part rest ih =>
    obtain ⟨hs, hf, hr⟩ := ready_cons.1 h
    rw [bindParts, StateT.run_bind, Part.run_bind_of_sound hs hf, pairsOf_cons,
      OrderedMap.insertAll_append, ← ih hr]
    rfl

/-- They are then written. -/
theorem run_writeParts_of_ready {values : OrderedMap Value} {parts : List Part}
    (h : Ready values parts) :
    (writeParts parts).run values = .ok (sqlOf parts, values.insertAll (pairsOf parts)) := by
  rw [writeParts, StateT.run_bind, run_bindParts_of_ready h]
  rfl

/-- All others end in the fault of one of them. -/
theorem run_bindParts_of_not_ready {values : OrderedMap Value} {parts : List Part}
    (h : ¬ Ready values parts) :
    ∃ fault, (bindParts parts).run values = .error (.invalidArgument fault) ∧
      ∃ part ∈ parts, part.Raises fault := by
  induction parts generalizing values with
  | nil => exact absurd (ready_nil values) h
  | cons part rest ih =>
    rw [bindParts, StateT.run_bind]
    -- The first part that fails decides the fault.
    by_cases hp : part.Sound ∧ (values.keys ++ part.pairs.map Prod.fst).Nodup
    · have hr : ¬ Ready (values.insertAll part.pairs) rest := fun hr =>
        h (ready_cons.2 ⟨hp.1, hp.2, hr⟩)
      obtain ⟨fault, he, q, hq, hf⟩ := ih hr
      rw [Part.run_bind_of_sound hp.1 hp.2]
      exact ⟨fault, he, q, by simp [hq], hf⟩
    · obtain ⟨fault, he, hf⟩ := Part.run_bind_of_not_sound hp
      rw [he]
      exact ⟨fault, rfl, part, by simp, hf⟩

/-! ## Compiling -/

/-- A statement whose layout is ready compiles to its text and its values. -/
theorem compile_of_ready {table : String} {intent : Intent} {clauses : Clauses}
    (h : Ready ∅ (layout table intent clauses)) :
    compile table intent clauses =
      .ok ⟨sqlOf (layout table intent clauses),
        OrderedMap.ofList (pairsOf (layout table intent clauses))⟩ := by
  rw [compile, writeStatement_eq, Binder.compiled, run_writeParts_of_ready h]
  rfl

/-- All others fail with the fault of a part. -/
theorem compile_of_not_ready {table : String} {intent : Intent} {clauses : Clauses}
    (h : ¬ Ready ∅ (layout table intent clauses)) :
    ∃ fault, compile table intent clauses = .error (.invalidArgument fault) ∧
      ∃ part ∈ layout table intent clauses, part.Raises fault := by
  obtain ⟨fault, he, hp⟩ := run_bindParts_of_not_ready h
  refine ⟨fault, ?_, hp⟩
  rw [compile, writeStatement_eq, Binder.compiled, writeParts, StateT.run_bind, he]
  rfl

/-- What is known of a statement that compiles. -/
theorem compile_eq_ok_iff {table : String} {intent : Intent} {clauses : Clauses}
    {compiled : Compiled} :
    compile table intent clauses = .ok compiled ↔
      Ready ∅ (layout table intent clauses) ∧
        compiled = ⟨sqlOf (layout table intent clauses),
          OrderedMap.ofList (pairsOf (layout table intent clauses))⟩ := by
  by_cases h : Ready ∅ (layout table intent clauses)
  · simp [compile_of_ready h, h, eq_comm]
  · obtain ⟨fault, he, -⟩ := compile_of_not_ready h
    simp [he, h]

end BoundSql
