import BoundSql.Error

/-!
# Effects

`Act σ α` is an effect on a state of type `σ` that gives an `α` or fails. A failure does not undo
what was done to the state before it.

The equations `apply_bind`, `apply_attempt`, … say what each form of effect does to a state; an
attempt ends as its effect does and never fails.
-/

namespace BoundSql

/-- Effects on a state, which may fail and keep the state they reached. -/
abbrev Act (σ : Type) := ExceptT Error (StateM σ)

namespace Act

variable {ρ σ α : Type}

/-- The result of an effect that is given as a function of the state. -/
def ofFunction (f : σ → Except Error α × σ) : Act σ α :=
  ExceptT.mk fun s => f s

/-- What an effect does to a state. -/
def apply (act : Act σ α) (s : σ) : Except Error α × σ :=
  act.run s

/-- An effect that reads the state. -/
def read (f : σ → α) : Act σ α :=
  ofFunction fun s => (.ok (f s), s)

/-- An effect that changes the state. -/
def update (f : σ → σ) : Act σ Unit :=
  ofFunction fun s => (.ok (), f s)

/-- A result that does not depend on the state. -/
def ofExcept (result : Except Error α) : Act σ α :=
  ofFunction fun s => (result, s)

/-- The effect with its failure as a result. -/
def attempt (act : Act σ α) : Act σ (Except Error α) :=
  ofFunction fun s =>
    let (result, s) := act.apply s
    (.ok result, s)

/-- An effect on the second part of a pair. -/
def onSecond (act : Act σ α) : Act (ρ × σ) α :=
  ofFunction fun (r, s) =>
    let (result, s) := act.apply s
    (result, (r, s))

/-- The effect with a line of context over its failure. -/
def withContext (context : String) (act : Act σ α) : Act σ α :=
  ofFunction fun s =>
    let (result, s) := act.apply s
    (Error.addContext context result, s)

/-! ## What effects do -/

@[simp] theorem apply_pure (a : α) (s : σ) : (pure a : Act σ α).apply s = (.ok a, s) :=
  rfl

@[simp] theorem apply_throw (e : Error) (s : σ) :
    (throw e : Act σ α).apply s = (.error e, s) :=
  rfl

theorem apply_bind {β : Type} (act : Act σ α) (next : α → Act σ β) (s : σ) :
    (act >>= next).apply s =
      match act.apply s with
      | (.ok a, s) => (next a).apply s
      | (.error e, s) => (.error e, s) := by
  change ExceptT.bindCont next (act.apply s).1 (act.apply s).2 = _
  obtain ⟨_ | _, _⟩ := act.apply s <;> rfl

theorem apply_bind_of_ok {β : Type} {act : Act σ α} {next : α → Act σ β} {s t : σ} {a : α}
    (h : act.apply s = (.ok a, t)) : (act >>= next).apply s = (next a).apply t := by
  rw [apply_bind, h]

theorem apply_bind_of_error {β : Type} {act : Act σ α} {next : α → Act σ β} {s t : σ} {e : Error}
    (h : act.apply s = (.error e, t)) : (act >>= next).apply s = (.error e, t) := by
  rw [apply_bind, h]

theorem apply_bind_eq_ok {β : Type} {act : Act σ α} {next : α → Act σ β} {s t : σ} {b : β} :
    (act >>= next).apply s = (.ok b, t) ↔
      ∃ a u, act.apply s = (.ok a, u) ∧ (next a).apply u = (.ok b, t) := by
  rw [apply_bind]
  obtain ⟨e | a, u⟩ := act.apply s
  · simp
  · constructor
    · intro h
      exact ⟨a, u, rfl, h⟩
    · rintro ⟨_, _, h, hn⟩
      cases h
      exact hn

@[simp] theorem apply_map {β : Type} (f : α → β) (act : Act σ α) (s : σ) :
    (f <$> act).apply s = ((act.apply s).1.map f, (act.apply s).2) := by
  rw [map_eq_pure_bind, apply_bind]
  obtain ⟨_ | _, _⟩ := act.apply s <;> rfl

@[simp] theorem apply_get (s : σ) : (get : Act σ σ).apply s = (.ok s, s) :=
  rfl

@[simp] theorem apply_set (s t : σ) : (set t : Act σ PUnit).apply s = (.ok ⟨⟩, t) :=
  rfl

@[simp] theorem apply_ofFunction (f : σ → Except Error α × σ) (s : σ) :
    (ofFunction f).apply s = f s :=
  rfl

@[simp] theorem apply_read (f : σ → α) (s : σ) : (read f).apply s = (.ok (f s), s) :=
  rfl

@[simp] theorem apply_update (f : σ → σ) (s : σ) : (update f).apply s = (.ok (), f s) :=
  rfl

@[simp] theorem apply_ofExcept (result : Except Error α) (s : σ) :
    (ofExcept result).apply s = (result, s) :=
  rfl

theorem apply_ofExcept_bind_eq_ok {β : Type} {result : Except Error α} {next : α → Act σ β}
    {s t : σ} {b : β} :
    (ofExcept result >>= next).apply s = (.ok b, t) ↔
      ∃ a, result = .ok a ∧ (next a).apply s = (.ok b, t) := by
  cases result with
  | error e => simp [apply_bind_of_error (apply_ofExcept (.error e) s)]
  | ok a => simp [apply_bind_of_ok (apply_ofExcept (.ok a) s)]

@[simp] theorem apply_attempt (act : Act σ α) (s : σ) :
    act.attempt.apply s = (.ok (act.apply s).1, (act.apply s).2) :=
  rfl

@[simp] theorem apply_onSecond (act : Act σ α) (r : ρ) (s : σ) :
    act.onSecond.apply (r, s) = ((act.apply s).1, (r, (act.apply s).2)) :=
  rfl

@[simp] theorem apply_withContext (context : String) (act : Act σ α) (s : σ) :
    (act.withContext context).apply s =
      ((act.apply s).1.mapError (.withContext context), (act.apply s).2) :=
  rfl

end Act

end BoundSql
