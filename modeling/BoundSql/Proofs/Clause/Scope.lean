import BoundSql.Proofs.Clause.Tree

/-!
# Where the steps of a group stand in a clause

Each list of steps that is applied to one clause is a scope: a whole program, or the steps of a
group at any depth. What a scope adds stands in one piece in the clause of the program, as the scope
itself would lay it out, but for the groups around it: those that open at its first predicate, where
the outermost one decides how that is joined, and those that close at its last.

* `predicates_of_group`: the clause of a scope around one of its groups;
* `Stands.group`: what stands in a piece of the clause has its groups in pieces of their own;
* `Scope.stands`: so every scope does, by induction on how deep it is.
-/

namespace BoundSql

/-! ## Scopes -/

namespace Step

/-- Steps of a program that are applied to one clause, with the number of predicates that the
program adds before them. -/
inductive Scope (program : List Step) : Nat → List Step → Prop where
  | whole : Scope program 0 program
  | inside {n : Nat} {before inner after : List Step} {c : Conjunction} {clause : Clause}
    (h : Scope program n (before ++ .group c inner :: after))
    (hb : Clause.empty.applyAll before = .ok clause) :
    Scope program (n + clause.predicates.length) inner

theorem treesAll_append (steps others : List Step) :
    treesAll (steps ++ others) = (do
      let first ← treesAll steps
      let rest ← treesAll others
      return first ++ rest) := by
  induction steps with
  | nil =>
    cases h : treesAll others with
    | error e => rw [List.nil_append, h]; rfl
    | ok trees => rw [List.nil_append, h]; rfl
  | cons step rest ih =>
    rw [List.cons_append, treesAll, treesAll, ih]
    simp only [bind_assoc, pure_bind, List.append_assoc]

end Step

theorem Clause.predicates_plant_empty (trees : List Tree) :
    (empty.plant trees).predicates = Tree.flattenAll trees :=
  List.nil_append _

/-- Steps around a group that build a clause: what stands before the group, in it and after it. -/
theorem predicates_of_group {before inner after : List Step} {c : Conjunction} {clause : Clause}
    (h : Clause.empty.applyAll (before ++ .group c inner :: after) = .ok clause) :
    ∃ first group rest, Clause.empty.applyAll before = .ok first ∧
      Clause.empty.applyAll inner = .ok group ∧
      clause.predicates =
        first.predicates ++ (closeLast (openFirst c group.predicates) ++ rest) := by
  rw [Clause.applyAll_eq, Step.treesAll_append, Step.treesAll, Step.trees] at h
  cases hb : Step.treesAll before with
  | error e => rw [hb] at h; cases h
  | ok ts =>
    cases hi : Step.treesAll inner with
    | error e => rw [hb, hi] at h; cases h
    | ok us =>
      cases ha : Step.treesAll after with
      | error e => rw [hb, hi, ha] at h; cases h
      | ok vs =>
        rw [hb, hi, ha] at h
        cases h
        refine ⟨_, _, Tree.flattenAll vs, by rw [Clause.applyAll_eq, hb]; rfl,
          by rw [Clause.applyAll_eq, hi]; rfl, ?_⟩
        simp only [Clause.predicates_plant_empty, Tree.flattenAll_append,
          Tree.flattenAll_groupOf]

/-! ## Predicates inside groups -/

/-- Predicates with groups opening at the first, the outermost first in the list. -/
def openings (groups : List Conjunction) (ps : List Predicate) : List Predicate :=
  groups.foldr openFirst ps

/-- Predicates with a number of groups closing at the last. -/
def closings : Nat → List Predicate → List Predicate
  | 0, ps => ps
  | n + 1, ps => closings n (closeLast ps)

theorem openFirst_append (c : Conjunction) {ps : List Predicate} (h : ps ≠ [])
    (qs : List Predicate) : openFirst c (ps ++ qs) = openFirst c ps ++ qs := by
  cases ps with
  | nil => exact absurd rfl h
  | cons p rest => rfl

theorem closeLast_append (ps : List Predicate) {qs : List Predicate} (h : qs ≠ []) :
    closeLast (ps ++ qs) = ps ++ closeLast qs := by
  induction ps with
  | nil => rfl
  | cons p rest ih =>
    obtain ⟨q, others, hq⟩ := List.exists_cons_of_ne_nil (List.append_ne_nil_of_right_ne_nil rest h)
    rw [List.cons_append, hq, closeLast, ← hq, ih, List.cons_append]

theorem closeLast_openFirst (c : Conjunction) (ps : List Predicate) :
    closeLast (openFirst c ps) = openFirst c (closeLast ps) := by
  rcases ps with _ | ⟨p, _ | ⟨q, rest⟩⟩ <;> rfl

theorem length_openings (groups : List Conjunction) (ps : List Predicate) :
    (openings groups ps).length = ps.length := by
  induction groups with
  | nil => rfl
  | cons c rest ih => exact (Clause.length_openFirst c _).trans ih

theorem openings_ne_nil (groups : List Conjunction) {ps : List Predicate} (h : ps ≠ []) :
    openings groups ps ≠ [] := by
  rw [← List.length_pos_iff, length_openings]
  exact List.length_pos_iff.2 h

theorem openings_append (groups : List Conjunction) {ps : List Predicate} (h : ps ≠ [])
    (qs : List Predicate) : openings groups (ps ++ qs) = openings groups ps ++ qs := by
  induction groups with
  | nil => rfl
  | cons c rest ih =>
    rw [openings, List.foldr_cons, ← openings, ih, openFirst_append c (openings_ne_nil rest h)]
    rfl

theorem closeLast_openings (groups : List Conjunction) (ps : List Predicate) :
    closeLast (openings groups ps) = openings groups (closeLast ps) := by
  induction groups with
  | nil => rfl
  | cons c rest ih => exact (closeLast_openFirst c _).trans (congrArg (openFirst c) ih)

theorem closings_append (n : Nat) (ps : List Predicate) {qs : List Predicate} (h : qs ≠ []) :
    closings n (ps ++ qs) = ps ++ closings n qs := by
  induction n generalizing qs with
  | zero => rfl
  | succ n ih =>
    have hc : closeLast qs ≠ [] := by
      rw [← List.length_pos_iff, Clause.length_closeLast]
      exact List.length_pos_iff.2 h
    rw [closings, closeLast_append ps h, ih hc, closings]

/-- Groups that close at the end of predicates close at the last of them, or behind them all. -/
theorem exists_closings_append (n : Nat) (ps qs : List Predicate) :
    ∃ k rest, closings n (ps ++ qs) = closings k ps ++ rest := by
  cases qs with
  | nil => exact ⟨n, [], by rw [List.append_nil, List.append_nil]⟩
  | cons q rest => exact ⟨0, _, closings_append n ps (List.cons_ne_nil q rest)⟩

/-- The first predicate inside groups tests what it did, joined like the outermost group. -/
theorem closings_openings_eq_cons (n : Nat) (groups : List Conjunction) (p : Predicate)
    (rest : List Predicate) :
    ∃ q others, closings n (openings groups (p :: rest)) = q :: others ∧
      q.condition = p.condition ∧ q.conjunction = groups.head?.getD p.conjunction := by
  induction n generalizing p rest with
  | zero =>
    induction groups with
    | nil => exact ⟨p, rest, rfl, rfl, rfl⟩
    | cons c groups ih =>
      obtain ⟨q, others, hq, hc, -⟩ := ih
      refine ⟨{ q with conjunction := c, opens := q.opens + 1 }, others, ?_, hc, rfl⟩
      exact congrArg (openFirst c) hq
  | succ n ih =>
    obtain ⟨q, others, hq, hc, hj⟩ := Tree.closeLast_eq_cons p rest
    rw [closings, closeLast_openings, hq, ← hc, ← hj]
    exact ih q others

/-! ## Pieces of a clause -/

/-- Predicates stand in one piece at a position of a clause, with groups around them that open at
the first, the outermost first in the list, and groups that close at the last. -/
def Stands (clause : List Predicate) (n : Nat) (groups : List Conjunction)
    (ps : List Predicate) : Prop :=
  ∃ before closed after, clause = before ++ (closings closed (openings groups ps) ++ after) ∧
    before.length = n

namespace Stands

variable {clause before ps after : List Predicate} {n : Nat} {groups : List Conjunction}
  {c : Conjunction}

/-- A group in a piece of a clause is a piece of its own. The groups around the larger piece open at
it too when nothing stands between, and not otherwise. -/
theorem group (h : Stands clause n groups (before ++ (closeLast (openFirst c ps) ++ after)))
    (hp : ps ≠ []) :
    ∃ outer, (before ≠ [] → outer = []) ∧
      Stands clause (n + before.length) outer (closeLast (openFirst c ps)) := by
  obtain ⟨left, closed, right, rfl, rfl⟩ := h
  have hw : closeLast (openFirst c ps) ≠ [] := by
    rw [← List.length_pos_iff, Clause.length_closeLast, Clause.length_openFirst]
    exact List.length_pos_iff.2 hp
  by_cases hb : before = []
  · subst hb
    obtain ⟨k, rest, hk⟩ := exists_closings_append closed
      (openings groups (closeLast (openFirst c ps))) after
    refine ⟨groups, fun h => absurd rfl h, left, k, rest ++ right, ?_, rfl⟩
    rw [List.nil_append, openings_append groups hw, hk, List.append_assoc]
  · obtain ⟨k, rest, hk⟩ := exists_closings_append closed (closeLast (openFirst c ps)) after
    refine ⟨[], fun _ => rfl, left ++ openings groups before, k, rest ++ right, ?_, ?_⟩
    · rw [openings_append groups hb,
        closings_append closed _ (List.append_ne_nil_of_left_ne_nil hw after), hk]
      simp only [List.append_assoc, openings, List.foldr_nil]
    · rw [List.length_append, length_openings]

/-- What stands in a group stands in one more group than the group itself. -/
theorem inner (h : Stands clause n groups (closeLast (openFirst c ps))) :
    Stands clause n (groups ++ [c]) ps := by
  obtain ⟨left, closed, right, rfl, rfl⟩ := h
  refine ⟨left, closed + 1, right, ?_, rfl⟩
  rw [closings, closeLast_openings, openings, openings, List.foldr_append, List.foldr_cons,
    List.foldr_nil, closeLast_openFirst]

end Stands

/-- The steps of every scope of a program that builds a clause build a clause of their own, and its
predicates stand in one piece in the clause of the program, behind those that the program adds
before. -/
theorem Step.Scope.stands {program scope : List Step} {n : Nat} {clause : Clause}
    (h : Scope program n scope) (hp : Clause.empty.applyAll program = .ok clause) :
    ∃ inner, Clause.empty.applyAll scope = .ok inner ∧
      (inner.predicates ≠ [] →
        ∃ groups, Stands clause.predicates n groups inner.predicates) := by
  induction h with
  | whole =>
    refine ⟨clause, hp, fun _ => ⟨[], [], 0, [], ?_, rfl⟩⟩
    rw [List.nil_append, List.append_nil]
    rfl
  | inside h hb ih =>
    obtain ⟨outer, ho, stands⟩ := ih
    obtain ⟨first, group, rest, hf, hg, hpredicates⟩ := predicates_of_group ho
    cases hf.symm.trans hb
    refine ⟨group, hg, fun hne => ?_⟩
    rw [hpredicates] at stands
    obtain ⟨groups, stands⟩ := stands (by
      rw [← List.length_pos_iff] at hne ⊢
      simp only [List.length_append, Clause.length_closeLast, Clause.length_openFirst]
      omega)
    obtain ⟨around, -, stands⟩ := stands.group hne
    exact ⟨_, stands.inner⟩

end BoundSql
