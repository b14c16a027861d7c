import BoundSql.Proofs.Builder.Pagination

/-!
# What a pagination that fails leaves of the limits

A pagination takes the limit and the offset from the builder before it counts, and gives it the
limit of the page before it reads the rows. Nothing is put back when a later phase fails, so what
the limits are then depends on the phase (`Builder.leftLimit`). Only a pagination of empty pages
fails before it touches them.

* `Terminal.clauses_paginate`: the clauses after a pagination, whether it fails or not;
* `SingleCall.act_congr`: a call that sets its own intent depends on the clauses alone;
* `failed_pagination_keeps_limits_iff`: when a failed pagination leaves the limits as they were.
-/

namespace BoundSql

/-- The limit and the offset of a builder are those of another one. -/
structure Builder.KeepsLimits (b b' : Builder) : Prop where
  limit : b'.clauses.limit = b.clauses.limit
  offset : b'.clauses.offset = b.clauses.offset

variable {σ : Type} [Connection σ] {b b' : Builder}

namespace Builder

/-- The limit that a pagination leaves when its pages are not empty: that of the page, or none when
the statement does not compile, the rows are not counted or the page is out of range. -/
def leftLimit (b : Builder) (source : PageSource) (perPage : UInt64) (s : σ) : Option String :=
  match ((b.locate source perPage).apply s).1 with
  | .ok (_, window) => some (window.limit perPage)
  | .error _ => none

theorem clauses_afterPage (b : Builder) (source : PageSource) {perPage : UInt64}
    (hp : perPage ≠ 0) (columns : List String) (s : σ) :
    (b.afterPage source perPage columns s).clauses =
      { b.clauses with limit := b.leftLimit source perPage s, offset := none } := by
  rw [afterPage, leftLimit, if_neg hp]
  cases ((b.locate source perPage).apply s).1 <;> rfl

end Builder

namespace Terminal

variable {source : Option PageSource} {perPage : UInt64} {columns : List String} {s t : σ}
  {result : Except Error Page}

theorem paginate_empty
    (h : (Terminal.paginate source 0 columns).act.apply (b, s) = (result, (b', t))) : b' = b := by
  rw [apply_act] at h
  cases h
  rw [leave, Builder.afterPage, if_pos rfl]

theorem clauses_paginate (hp : perPage ≠ 0)
    (h : (Terminal.paginate source perPage columns).act.apply (b, s) = (result, (b', t))) :
    b'.clauses =
      { b.clauses with
        limit := b.leftLimit (source.getD b.pageSource) perPage s
        offset := none } := by
  rw [apply_act] at h
  cases h
  exact b.clauses_afterPage _ hp columns s

theorem persists_paginate
    (h : (Terminal.paginate source perPage columns).act.apply (b, s) = (result, (b', t))) :
    b.Persists b' := by
  rw [apply_act] at h
  cases h
  exact persists_leave _ b s

end Terminal

/-- A call that sets its own intent does the same on two builders that differ in the intent alone,
and leaves the same builder. -/
theorem SingleCall.act_congr {α : Type} {call : SingleCall α} (hi : call.intent? ≠ none)
    (h : b.Persists b') (hl : b.KeepsLimits b') (u : σ) :
    call.act.apply (b', u) = call.act.apply (b, u) := by
  obtain ⟨intent, hi⟩ := Option.ne_none_iff_exists'.1 hi
  have hclauses : b'.clauses = b.clauses := by
    rw [h.clauses, hl.limit, hl.offset]
  have hset : call.set b' = call.set b := by
    rw [set, set, hi, hclauses, h.table, h.pageSource]
    rfl
  rw [call.does b' u, call.does b u, effect, effect, hset]

/-- A pagination that fails leaves the limit and the offset of the builder as they were exactly when
it was one of empty pages, or they happen to be what a pagination leaves: no offset, and as the
limit that of the page if the page was located, and none if not. Where they are as they were, every
later call that sets its own intent does what it would have done without the pagination. -/
theorem failed_pagination_keeps_limits_iff {source : Option PageSource} {perPage : UInt64}
    {columns : List String} {s t : σ} {e : Error}
    (h : (Terminal.paginate source perPage columns).act.apply (b, s) = (.error e, (b', t))) :
    (perPage = 0 → b' = b) ∧
    (perPage ≠ 0 → b'.clauses =
      { b.clauses with
        limit := b.leftLimit (source.getD b.pageSource) perPage s
        offset := none }) ∧
    (b.KeepsLimits b' ↔ perPage = 0 ∨
      b.clauses.limit = b.leftLimit (source.getD b.pageSource) perPage s ∧
        b.clauses.offset = none) ∧
    (b.KeepsLimits b' → ∀ {α : Type} (call : SingleCall α), call.intent? ≠ none →
      ∀ u : σ, call.act.apply (b', u) = call.act.apply (b, u)) := by
  refine ⟨fun hp => ?_, fun hp => Terminal.clauses_paginate hp h, ?_,
    fun hl _ _ hi => SingleCall.act_congr hi (Terminal.persists_paginate h) hl⟩
  · subst hp
    exact Terminal.paginate_empty h
  · by_cases hp : perPage = 0
    · subst hp
      cases Terminal.paginate_empty h
      exact iff_of_true ⟨rfl, rfl⟩ (.inl rfl)
    · have hclauses := Terminal.clauses_paginate hp h
      constructor
      · intro hl
        have hlimit := hl.limit
        have hoffset := hl.offset
        rw [hclauses] at hlimit hoffset
        exact .inr ⟨hlimit.symm, hoffset.symm⟩
      · rintro (hzero | ⟨hlimit, hoffset⟩)
        · exact absurd hzero hp
        · constructor
          · rw [hclauses, hlimit]
          · rw [hclauses, hoffset]

/-- The rows of the second page cannot be read, and its limit is the one that was set before. -/
theorem failed_pagination_keeps_page_limit :
    ∃ b' t,
      (Terminal.paginate (some (.fixed 2)) 10 ["id"]).act.apply
          (({ table := "t" } : Builder).limit "10, 10",
            ({ armed := [(.fetch, "lost")], rowCount := some 25 } : Scripted)) =
        (.error (Scripted.failure "lost"), (b', t)) ∧
      (({ table := "t" } : Builder).limit "10, 10").KeepsLimits b' := by
  have failed :
      (Terminal.paginate (some (.fixed 2)) 10 ["id"]).act.apply
          (({ table := "t" } : Builder).limit "10, 10",
            ({ armed := [(.fetch, "lost")], rowCount := some 25 } : Scripted)) =
        (.error (Scripted.failure "lost"), (_, _)) :=
    Prod.ext rfl rfl
  exact ⟨_, _, failed,
    (failed_pagination_keeps_limits_iff failed).2.2.1.2 (.inr ⟨by decide +kernel, rfl⟩)⟩

/-- A page that is out of range. The limit of five rows is gone, so a deletion that follows is one
of all rows. -/
theorem failed_pagination_drops_limit :
    ∃ b' t,
      (Terminal.paginate (some (.fixed 2000000000000000000)) 10 []).act.apply
          (({ table := "t" } : Builder).limit "5", ({} : Scripted)) =
        (.error (.invalidArgument (.pageOutOfRange 2000000000000000000 10)), (b', t)) ∧
      ¬ (({ table := "t" } : Builder).limit "5").KeepsLimits b' ∧
      (SingleCall.delete.act.apply (b', t)).1.map (·.statement.sql) = .ok "DELETE FROM t" ∧
      (SingleCall.delete.act.apply (({ table := "t" } : Builder).limit "5", t)).1.map
        (·.statement.sql) = .ok "DELETE FROM t LIMIT 5" := by
  refine ⟨_, _, rfl, fun hl => ?_, by decide +kernel, by decide +kernel⟩
  cases hl.limit

end BoundSql
