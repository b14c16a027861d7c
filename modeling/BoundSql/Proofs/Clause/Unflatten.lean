import BoundSql.Proofs.Clause.Tree

/-!
# Reading the tree of a clause back

The counters of a flat clause are read from left to right, with the groups that are open at each
place (`Unfinished`): a predicate enters the groups that open before it, adds its test, and leaves
those that close after it. What is read from a clause is the tree that was laid flat, but for one
thing that a clause does not hold: the first item of a group has the conjunction of the group
(`settle`). Trees that differ in nothing else agree (`Agrees`).

* `readAll?_flatten`: reading the predicates of a tree adds the tree, by induction on the tree, for
  any groups around it;
* `flattenAll_eq_iff`: trees laid flat are equal exactly when the trees agree;
* `depth_of_readAll?`: what is read counts the groups that are still open, hence the balance of a
  clause (`balanced_of_trees?`);
* `clause_determines_nesting`: all of it, for the clauses that steps build.
-/

namespace BoundSql

/-! ## Trees up to what a clause does not hold -/

namespace Tree

mutual

/-- The same tests in the same groups. How the two trees themselves are joined to what stands before
them is left open, and so it is for the first item of every group. -/
inductive Agrees : Tree → Tree → Prop where
  | test {c d : Conjunction} {condition : Condition} :
    Agrees (.test c condition) (.test d condition)
  | group {c d : Conjunction} {first first' : Tree} {rest rest' : List Tree}
    (hfirst : Agrees first first') (hrest : AgreeAll rest rest') :
    Agrees (.group c first rest) (.group d first' rest')

/-- Trees that agree one by one and are joined by the same conjunctions. -/
inductive AgreeAll : List Tree → List Tree → Prop where
  | nil : AgreeAll [] []
  | cons {t u : Tree} {ts us : List Tree} (hc : t.conjunction = u.conjunction) (h : Agrees t u)
    (hs : AgreeAll ts us) : AgreeAll (t :: ts) (u :: us)

end

mutual

/-- The tree under another conjunction, which the first item of each of its groups takes over from
the group. -/
def settle (c : Conjunction) : Tree → Tree
  | test _ condition => test c condition
  | group _ first rest => group c (first.settle c) (settleAll rest)

/-- Trees under their own conjunctions, each settled. -/
def settleAll : List Tree → List Tree
  | [] => []
  | tree :: rest => tree.settle tree.conjunction :: settleAll rest

end

theorem conjunction_settle (c : Conjunction) (tree : Tree) : (tree.settle c).conjunction = c := by
  cases tree <;> rfl

mutual

theorem agrees_of_settle_eq {c d : Conjunction} :
    ∀ t u : Tree, t.settle c = u.settle d → Agrees t u
  | test _ _, test _ _, h => by
    rw [settle, settle, test.injEq] at h
    rw [h.2]
    exact .test
  | group _ first rest, group _ first' rest', h => by
    rw [settle, settle, group.injEq] at h
    exact .group (agrees_of_settle_eq first first' h.2.1)
      (agreeAll_of_settleAll_eq rest rest' h.2.2)

theorem agreeAll_of_settleAll_eq : ∀ ts us : List Tree, settleAll ts = settleAll us → AgreeAll ts us
  | [], [], _ => .nil
  | t :: ts, u :: us, h => by
    rw [settleAll, settleAll, List.cons.injEq] at h
    have hc := congrArg conjunction h.1
    rw [conjunction_settle, conjunction_settle] at hc
    exact .cons hc (agrees_of_settle_eq t u h.1) (agreeAll_of_settleAll_eq ts us h.2)

end

mutual

theorem Agrees.settle_eq {t u : Tree} (h : Agrees t u) (c : Conjunction) :
    t.settle c = u.settle c := by
  cases h with
  | test => rfl
  | group hfirst hrest => rw [settle, settle, hfirst.settle_eq c, hrest.settleAll_eq]

theorem AgreeAll.settleAll_eq {ts us : List Tree} (h : AgreeAll ts us) :
    settleAll ts = settleAll us := by
  cases h with
  | nil => rfl
  | cons hc h hs => rw [settleAll, settleAll, ← hc, h.settle_eq, hs.settleAll_eq]

end

theorem agreeAll_iff {ts us : List Tree} : AgreeAll ts us ↔ settleAll ts = settleAll us :=
  ⟨AgreeAll.settleAll_eq, agreeAll_of_settleAll_eq ts us⟩

/-! ## Trees under another conjunction -/

/-- Predicates with another conjunction at the first. -/
def rejoin (c : Conjunction) : List Predicate → List Predicate
  | [] => []
  | p :: rest => { p with conjunction := c } :: rest

theorem rejoin_append (c : Conjunction) {ps : List Predicate} (h : ps ≠ [])
    (qs : List Predicate) : rejoin c (ps ++ qs) = rejoin c ps ++ qs := by
  cases ps with
  | nil => exact absurd rfl h
  | cons p rest => rfl

theorem openFirst_ne_nil {c : Conjunction} {ps : List Predicate} (h : ps ≠ []) :
    openFirst c ps ≠ [] := by
  cases ps with
  | nil => exact absurd rfl h
  | cons p rest => exact List.cons_ne_nil _ _

theorem openFirst_rejoin (c d : Conjunction) (ps : List Predicate) :
    openFirst c (rejoin d ps) = openFirst c ps := by
  cases ps <;> rfl

/-- A group takes its conjunction from where it opens. -/
theorem rejoin_closeLast_openFirst (c d : Conjunction) (ps : List Predicate) :
    rejoin c (closeLast (openFirst d ps)) = closeLast (openFirst c ps) := by
  rcases ps with _ | ⟨p, _ | ⟨q, rest⟩⟩ <;> rfl

theorem rejoin_conjunction (tree : Tree) : rejoin tree.conjunction tree.flatten = tree.flatten := by
  obtain ⟨p, rest, h, -, hc⟩ := flatten_eq_cons tree
  rw [h, ← hc]
  rfl

mutual

theorem flatten_settle (c : Conjunction) (tree : Tree) :
    (tree.settle c).flatten = rejoin c tree.flatten := by
  cases tree with
  | test d condition => rfl
  | group d first rest =>
    rw [settle, flatten, flatten, flatten_settle c first, flattenAll_settleAll rest,
      rejoin_closeLast_openFirst, ← rejoin_append c (flatten_ne_nil first), openFirst_rejoin]

/-- Settled trees are the same predicates. -/
theorem flattenAll_settleAll (trees : List Tree) :
    flattenAll (settleAll trees) = flattenAll trees := by
  cases trees with
  | nil => rfl
  | cons tree rest =>
    rw [settleAll, flattenAll, flattenAll, flatten_settle, rejoin_conjunction,
      flattenAll_settleAll rest]

end

end Tree

/-! ## Reading -/

/-- Trees that are being read, and the groups that are open around them. -/
structure Unfinished where
  /-- What the innermost open group holds so far. -/
  items : List Tree
  /-- The open groups from the inside out, each with its conjunction and what stands before it. -/
  outer : List (Conjunction × List Tree)

namespace Unfinished

/-- Nothing is read and no group is open. -/
def start : Unfinished :=
  ⟨[], []⟩

/-- More trees are read. -/
def add (u : Unfinished) (trees : List Tree) : Unfinished :=
  { u with items := u.items ++ trees }

/-- A group opens. -/
def enter (u : Unfinished) (c : Conjunction) : Unfinished :=
  ⟨[], (c, u.items) :: u.outer⟩

/-- As many groups open. -/
def enterAll (u : Unfinished) (c : Conjunction) : Nat → Unfinished
  | 0 => u
  | n + 1 => (u.enter c).enterAll c n

/-- The innermost group closes, if one is open. -/
def leave? (u : Unfinished) : Option Unfinished :=
  match u.outer with
  | [] => none
  | (c, before) :: outer => some ⟨before ++ Tree.groupOf c u.items, outer⟩

/-- As many groups close. -/
def leaveAll? (u : Unfinished) : Nat → Option Unfinished
  | 0 => some u
  | n + 1 => (u.leaveAll? n).bind leave?

/-- A predicate is read, with the groups that open before it and those that close after it. -/
def read? (u : Unfinished) (p : Predicate) : Option Unfinished :=
  ((u.enterAll p.conjunction p.opens).add [.test p.conjunction p.condition]).leaveAll? p.closes

/-- Predicates are read in order. -/
def readAll? (u : Unfinished) : List Predicate → Option Unfinished
  | [] => some u
  | p :: rest => (u.read? p).bind (·.readAll? rest)

/-- The trees that are read when no group is open. -/
def trees? (u : Unfinished) : Option (List Tree) :=
  match u.outer with
  | [] => some u.items
  | _ :: _ => none

end Unfinished

/-- The trees that the predicates of a clause describe, if their counters describe any. -/
def Clause.trees? (clause : Clause) : Option (List Tree) :=
  (Unfinished.start.readAll? clause.predicates).bind Unfinished.trees?

namespace Unfinished

theorem add_add (u : Unfinished) (ts us : List Tree) : (u.add ts).add us = u.add (ts ++ us) := by
  simp [add]

theorem readAll?_append (u : Unfinished) (ps qs : List Predicate) :
    u.readAll? (ps ++ qs) = (u.readAll? ps).bind (·.readAll? qs) := by
  induction ps generalizing u with
  | nil => rfl
  | cons p rest ih =>
    rw [List.cons_append, readAll?, readAll?, Option.bind_assoc]
    exact Option.bind_congr fun v _ => ih v

/-- A group that opens at the first predicate is entered before it is read. -/
theorem readAll?_openFirst (u : Unfinished) (c : Conjunction) {ps : List Predicate} (h : ps ≠ []) :
    u.readAll? (openFirst c ps) = (u.enter c).readAll? (Tree.rejoin c ps) := by
  cases ps with
  | nil => exact absurd rfl h
  | cons p rest => rfl

/-- A group that closes at the last predicate is left after it is read. -/
theorem readAll?_closeLast (u : Unfinished) {ps : List Predicate} (h : ps ≠ []) :
    u.readAll? (closeLast ps) = (u.readAll? ps).bind leave? := by
  fun_induction closeLast ps generalizing u with
  | case1 => exact absurd rfl h
  | case2 p =>
    simp only [readAll?, Option.bind_fun_some]
    rfl
  | case3 p q rest ih =>
    rw [readAll?, readAll?, Option.bind_assoc]
    exact Option.bind_congr fun v _ => ih v (List.cons_ne_nil q rest)

mutual

/-- The predicates of a tree are read as the tree, under the conjunction of the first of them. -/
theorem readAll?_flatten (u : Unfinished) (c : Conjunction) (tree : Tree) :
    u.readAll? (Tree.rejoin c tree.flatten) = some (u.add [tree.settle c]) := by
  cases tree with
  | test d condition => rfl
  | group d first rest =>
    have hf := Tree.flatten_ne_nil first
    have hne : first.flatten ++ Tree.flattenAll rest ≠ [] := by simp [hf]
    rw [Tree.flatten, Tree.rejoin_closeLast_openFirst,
      readAll?_closeLast u (Tree.openFirst_ne_nil hne), readAll?_openFirst u c hne,
      Tree.rejoin_append c hf, readAll?_append, readAll?_flatten (u.enter c) c first,
      Option.bind_some, readAll?_flattenAll _ rest, add_add]
    rfl

/-- The predicates of trees are read as the trees. -/
theorem readAll?_flattenAll (u : Unfinished) (trees : List Tree) :
    u.readAll? (Tree.flattenAll trees) = some (u.add (Tree.settleAll trees)) := by
  cases trees with
  | nil => simp [Tree.flattenAll, Tree.settleAll, readAll?, add]
  | cons tree rest =>
    rw [Tree.flattenAll, readAll?_append, ← Tree.rejoin_conjunction tree,
      readAll?_flatten u tree.conjunction tree, Option.bind_some, readAll?_flattenAll _ rest,
      add_add]
    rfl

end

end Unfinished

/-- A clause of trees laid flat is read as the trees, settled. -/
theorem trees?_of_flattenAll {clause : Clause} {trees : List Tree}
    (h : clause.predicates = Tree.flattenAll trees) :
    clause.trees? = some (Tree.settleAll trees) := by
  rw [Clause.trees?, h, Unfinished.readAll?_flattenAll]
  rfl

/-- A flat clause determines its trees, up to the conjunctions that it does not hold. -/
theorem flattenAll_eq_iff {ts us : List Tree} :
    Tree.flattenAll ts = Tree.flattenAll us ↔ Tree.AgreeAll ts us := by
  rw [Tree.agreeAll_iff]
  constructor
  · intro h
    have hts := @trees?_of_flattenAll ⟨Tree.flattenAll ts⟩ ts rfl
    rw [@trees?_of_flattenAll ⟨Tree.flattenAll ts⟩ us h] at hts
    exact (Option.some.inj hts).symm
  · intro h
    rw [← Tree.flattenAll_settleAll ts, h, Tree.flattenAll_settleAll]

/-! ## Balance -/

/-- The number of groups that open at predicates. -/
def opened : List Predicate → Nat
  | [] => 0
  | p :: rest => p.opens + opened rest

/-- The number of groups that close at predicates. -/
def closed : List Predicate → Nat
  | [] => 0
  | p :: rest => p.closes + closed rest

/-- No more groups close than have opened, up to any place, and all of them close. -/
structure Clause.Balanced (clause : Clause) : Prop where
  closed_le : ∀ front, front <+: clause.predicates → closed front ≤ opened front
  closed_eq : closed clause.predicates = opened clause.predicates

namespace Unfinished

/-- The number of groups that are open. -/
def depth (u : Unfinished) : Nat :=
  u.outer.length

theorem depth_enterAll (u : Unfinished) (c : Conjunction) (n : Nat) :
    (u.enterAll c n).depth = u.depth + n := by
  induction n generalizing u with
  | zero => rfl
  | succ n ih =>
    have enter : (u.enter c).depth = u.depth + 1 := rfl
    rw [enterAll, ih, enter]
    omega

theorem depth_leave? {u v : Unfinished} (h : u.leave? = some v) : u.depth = v.depth + 1 := by
  unfold leave? at h
  split at h
  · cases h
  · rename_i c before outer ho
    cases h
    simp [depth, ho]

theorem depth_leaveAll? {u v : Unfinished} {n : Nat} (h : u.leaveAll? n = some v) :
    u.depth = v.depth + n := by
  induction n generalizing v with
  | zero =>
    cases h
    rfl
  | succ n ih =>
    obtain ⟨w, hw, hv⟩ := Option.bind_eq_some_iff.1 h
    have inner := ih hw
    have last := depth_leave? hv
    omega

theorem depth_read? {u v : Unfinished} {p : Predicate} (h : u.read? p = some v) :
    u.depth + p.opens = v.depth + p.closes := by
  rw [← depth_leaveAll? h]
  exact (depth_enterAll u p.conjunction p.opens).symm

/-- What is read keeps count of the groups that are open. -/
theorem depth_of_readAll? {u v : Unfinished} {ps : List Predicate} (h : u.readAll? ps = some v) :
    u.depth + opened ps = v.depth + closed ps := by
  induction ps generalizing u with
  | nil =>
    cases h
    rfl
  | cons p rest ih =>
    obtain ⟨w, hw, hv⟩ := Option.bind_eq_some_iff.1 h
    have first := depth_read? hw
    have others := ih hv
    rw [opened, closed]
    omega

end Unfinished

/-- A clause that can be read is balanced. -/
theorem balanced_of_trees? {clause : Clause} {trees : List Tree} (h : clause.trees? = some trees) :
    clause.Balanced := by
  obtain ⟨last, hread, htrees⟩ := Option.bind_eq_some_iff.1 h
  have start : Unfinished.start.depth = 0 := rfl
  refine ⟨fun front ⟨back, hfront⟩ => ?_, ?_⟩
  · rw [← hfront, Unfinished.readAll?_append] at hread
    obtain ⟨u, hu, -⟩ := Option.bind_eq_some_iff.1 hread
    have count := Unfinished.depth_of_readAll? hu
    omega
  · have count := Unfinished.depth_of_readAll? hread
    have none : last.depth = 0 := by
      unfold Unfinished.trees? at htrees
      split at htrees
      · rename_i ho
        rw [Unfinished.depth, ho]
        rfl
      · cases htrees
    omega

/-! ## Clauses that steps build -/

/-- The flat clause that steps build determines their nesting. Read back, it gives the trees of the
steps, but for the conjunctions of the first items of groups; it is balanced up to every predicate;
and other steps build the same clause exactly when their trees agree with these. -/
theorem clause_determines_nesting {steps : List Step} {clause : Clause}
    (h : Clause.empty.applyAll steps = .ok clause) :
    ∃ trees, Step.treesAll steps = .ok trees ∧
      (∃ read, clause.trees? = some read ∧ Tree.AgreeAll trees read) ∧
      clause.Balanced ∧
      ∀ others otherClause otherTrees, Clause.empty.applyAll others = .ok otherClause →
        Step.treesAll others = .ok otherTrees →
        (otherClause = clause ↔ Tree.AgreeAll otherTrees trees) := by
  obtain ⟨trees, ht, hp⟩ := predicates_of_applyAll h
  have hread := trees?_of_flattenAll hp
  have agree : Tree.AgreeAll trees (Tree.settleAll trees) :=
    flattenAll_eq_iff.1 (Tree.flattenAll_settleAll trees).symm
  refine ⟨trees, ht, ⟨_, hread, agree⟩, balanced_of_trees? hread, ?_⟩
  intro others otherClause otherTrees ho hot
  obtain ⟨trees', ht', hp'⟩ := predicates_of_applyAll ho
  rw [hot] at ht'
  cases ht'
  rw [← flattenAll_eq_iff, ← hp, ← hp']
  exact ⟨congrArg Clause.predicates, fun he => congrArg Clause.mk he⟩

/-- Two groups that open at one predicate, an empty one, and a group that closes with the one around
it. What is read has the conjunction of the outer group at the first items of both. -/
theorem clause_determines_nesting_shared :
    ∃ clause trees read, Clause.empty.applyAll [.equal .and "a" (.int 1),
        .group .or [.group .and [.raw "b" ∅, .nullTest .or "c" true], .group .and [],
          .group .and [.equal .or "d" .null]]] = .ok clause ∧
      clause.predicates.map (fun p => (p.conjunction, p.opens, p.closes)) =
        [(.and, 0, 0), (.or, 2, 0), (.or, 0, 1), (.and, 1, 2)] ∧
      trees = [.test .and (.compare "a" .eq (some (.int 1))),
        .group .or
          (.group .and (.test .and (.raw "b" ∅)) [.test .or (.compare "c" .isNotNull none)])
          [.group .and (.test .or (.compare "d" .eq (some .null))) []]] ∧
      read = [.test .and (.compare "a" .eq (some (.int 1))),
        .group .or
          (.group .or (.test .or (.raw "b" ∅)) [.test .or (.compare "c" .isNotNull none)])
          [.group .and (.test .and (.compare "d" .eq (some .null))) []]] ∧
      clause.trees? = some read ∧ Tree.AgreeAll trees read ∧ clause.Balanced := by
  have h : Clause.empty.applyAll [.equal .and "a" (.int 1),
      .group .or [.group .and [.raw "b" ∅, .nullTest .or "c" true], .group .and [],
        .group .and [.equal .or "d" .null]]] = .ok _ := rfl
  obtain ⟨trees, ht, ⟨read, hr, ha⟩, hb, -⟩ := clause_determines_nesting h
  cases ht
  cases hr
  exact ⟨_, _, _, h, rfl, rfl, rfl, rfl, ha, hb⟩

end BoundSql
