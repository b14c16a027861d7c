import BoundSql.Proofs.Query.Recorded

/-!
# What terminal calls leave of a builder

One builder serves many terminal calls. A call changes its intent and, if it is a pagination, the
limit and the offset; nothing else, whether it succeeds or fails. So every statement is the one of
the table and the clauses as they were given, with the intent of the call that makes it.

* `Builder.persists_afterAll`: what a run of calls keeps;
* `Builder.intent_afterAll`: the intent is the one that was set last;
* `Terminal.shows_seen`: what a connection sees of a call.
-/

namespace BoundSql

variable {σ α : Type}

/-! ## One call -/

/-- Two builders differ in the intent, the limit and the offset alone. -/
structure Builder.Persists (b b' : Builder) : Prop where
  table : b'.table = b.table
  joins : b'.clauses.joins = b.clauses.joins
  conditions : b'.clauses.conditions = b.clauses.conditions
  groupBy : b'.clauses.groupBy = b.clauses.groupBy
  orderBy : b'.clauses.orderBy = b.clauses.orderBy
  pageSource : b'.pageSource = b.pageSource

namespace Builder.Persists

variable {b b' b'' : Builder}

theorem set (b : Builder) (intent : Intent) (limit : Option String) (offset : Option UInt64) :
    b.Persists { b with intent, clauses := { b.clauses with limit, offset } } :=
  ⟨rfl, rfl, rfl, rfl, rfl, rfl⟩

theorem refl (b : Builder) : b.Persists b :=
  .set b _ _ _

theorem trans (h : b.Persists b') (h' : b'.Persists b'') : b.Persists b'' where
  table := h'.table.trans h.table
  joins := h'.joins.trans h.joins
  conditions := h'.conditions.trans h.conditions
  groupBy := h'.groupBy.trans h.groupBy
  orderBy := h'.orderBy.trans h.orderBy
  pageSource := h'.pageSource.trans h.pageSource

/-- The clauses with another limit and offset. -/
theorem clauses (h : b.Persists b') :
    b'.clauses =
      { b.clauses with limit := b'.clauses.limit, offset := b'.clauses.offset } := by
  simp only [← h.joins, ← h.conditions, ← h.groupBy, ← h.orderBy]

theorem eq_set (h : b.Persists b') :
    ∃ intent limit offset, b' = { b with intent, clauses := { b.clauses with limit, offset } } := by
  refine ⟨b'.intent, b'.clauses.limit, b'.clauses.offset, ?_⟩
  rw [← h.clauses, ← h.table, ← h.pageSource]

end Builder.Persists

namespace Terminal

/-- The call is a pagination, of pages that are not empty. -/
def Limits : Terminal α → Prop
  | single _ => False
  | paginate _ perPage _ => perPage ≠ 0

variable [Connection σ]

/-- The intent that a call sets last: a pagination that locates its page goes on to read it. -/
def intent? (b : Builder) (s : σ) : Terminal α → Option Intent
  | single call => call.intent?
  | paginate source perPage columns =>
    if perPage = 0 then none
    else
      match ((b.locate (source.getD b.pageSource) perPage).apply s).1 with
      | .ok _ => some (.select columns)
      | .error _ => some (.select [])

theorem persists_leave (call : Terminal α) (b : Builder) (s : σ) : b.Persists (call.leave b s) := by
  cases call with
  | single call => exact .set b _ _ _
  | paginate source perPage columns =>
    rw [leave, Builder.afterPage]
    split
    · exact .refl b
    · split <;> exact .set b _ _ _

theorem clauses_leave {call : Terminal α} (h : ¬ call.Limits) (b : Builder) (s : σ) :
    (call.leave b s).clauses = b.clauses := by
  cases call with
  | single call => rfl
  | paginate source perPage columns =>
    rw [leave, Builder.afterPage, if_pos (Decidable.not_not.1 h)]

theorem intent_leave (call : Terminal α) (b : Builder) (s : σ) :
    (call.leave b s).intent = (call.intent? b s).getD b.intent := by
  cases call with
  | single call => rfl
  | paginate source perPage columns =>
    simp only [leave, intent?, Builder.afterPage]
    split
    · rfl
    · cases ((b.locate (source.getD b.pageSource) perPage).apply s).1 <;> rfl

end Terminal

/-! ## Runs of calls -/

/-- A terminal call, and the state of the connection when it is made. -/
structure Made (σ : Type) where
  {result : Type}
  call : Terminal result
  state : σ

namespace Builder

variable [Connection σ]

/-- The builder after a call, whether it fails or not. -/
def after (b : Builder) (made : Made σ) : Builder :=
  (made.call.act.apply (b, made.state)).2.1

/-- The builder after calls, in order. -/
def afterAll (b : Builder) (calls : List (Made σ)) : Builder :=
  calls.foldl after b

/-- The intents that calls set, in order. -/
def intents : Builder → List (Made σ) → List Intent
  | _, [] => []
  | b, made :: rest => (made.call.intent? b made.state).toList ++ (b.after made).intents rest

theorem after_eq (b : Builder) (made : Made σ) : b.after made = made.call.leave b made.state := by
  rw [after, Terminal.apply_act]

theorem persists_afterAll (b : Builder) (calls : List (Made σ)) :
    b.Persists (b.afterAll calls) := by
  induction calls generalizing b with
  | nil => exact .refl b
  | cons made rest ih =>
    have step : b.Persists (b.after made) := b.after_eq made ▸ made.call.persists_leave b _
    exact step.trans (ih _)

theorem clauses_afterAll {calls : List (Made σ)} (h : ∀ made ∈ calls, ¬ made.call.Limits)
    (b : Builder) : (b.afterAll calls).clauses = b.clauses := by
  induction calls generalizing b with
  | nil => rfl
  | cons made rest ih =>
    obtain ⟨hm, hr⟩ := List.forall_mem_cons.1 h
    calc (b.afterAll (made :: rest)).clauses = (b.after made).clauses := ih hr _
      _ = b.clauses := by rw [after_eq, made.call.clauses_leave hm]

theorem intent_afterAll (b : Builder) (calls : List (Made σ)) :
    (b.afterAll calls).intent = (b.intents calls).getLast?.getD b.intent := by
  induction calls generalizing b with
  | nil => rfl
  | cons made rest ih =>
    calc (b.afterAll (made :: rest)).intent
        = ((b.after made).intents rest).getLast?.getD (b.after made).intent := ih _
      _ = ((b.after made).intents rest).getLast?.getD
            ((made.call.intent? b made.state).getD b.intent) := by
          rw [after_eq b made, made.call.intent_leave]
      _ = (b.intents (made :: rest)).getLast?.getD b.intent := by
          rw [intents, List.getLast?_append]
          cases ((b.after made).intents rest).getLast? <;>
            cases made.call.intent? b made.state <;> rfl

end Builder

/-! ## What a connection sees of a call -/

/-- What a connection may see of a call on a builder: a beginning of what it sees of the statements
of the call when it succeeds. A pagination has two statements. -/
inductive Terminal.Shows (b : Builder) : {α : Type} → Terminal α → List Sighting → Prop where
  | nothing {α : Type} (call : Terminal α) : Shows b call []
  | single {α : Type} {call : SingleCall α} {compiled : Compiled} {seen : List Sighting}
    (hc : compile b.table (call.intent?.getD b.intent) b.clauses = .ok compiled)
    (h : seen <+: call.trace compiled) : Shows b (.single call) seen
  | counting {source : Option PageSource} {perPage : UInt64} {columns : List String}
    {counted : Compiled} {seen : List Sighting}
    (hc : compile b.table (.select []) b.clauses.unlimited = .ok counted)
    (h : seen <+: counted.ranTrace) : Shows b (.paginate source perPage columns) seen
  | reading {source : Option PageSource} {perPage : UInt64} {columns : List String}
    {counted page : Compiled} {total : UInt64} {window : PageWindow} {seen : List Sighting}
    (hc : compile b.table (.select []) b.clauses.unlimited = .ok counted)
    (hw : PageWindow.compute total perPage (Building.pageOf (source.getD b.pageSource)) =
      .ok window)
    (hp : compile b.table (.select columns) (b.clauses.limitedTo (window.limit perPage)) =
      .ok page)
    (h : seen <+: page.ranTrace) :
    Shows b (.paginate source perPage columns) (counted.ranTrace ++ seen)

section
variable [Connection σ] [StoresBindings σ]

theorem SingleCall.shows_effect (call : SingleCall α) (b : Builder) (c : Recorded σ) :
    ∃ seen, (call.effect b).apply c = c.extend ((call.effect b).apply c.connection) seen ∧
      Terminal.Shows b (.single call) seen := by
  obtain ⟨seen, hs, rfl | ⟨compiled, hc, hp⟩, -⟩ :=
    seen_of_compiled (call.set b).compile call.emits_finish c
  · exact ⟨[], hs, .nothing _⟩
  · exact ⟨seen, hs, .single hc hp⟩

theorem Builder.seen_of_countAll (b : Builder) (c : Recorded σ) :
    ∃ seen, b.countAll.apply c = c.extend (b.countAll.apply c.connection) seen ∧
      (seen = [] ∨ ∃ counted, BoundSql.compile b.table (.select []) b.clauses.unlimited =
        .ok counted ∧ seen <+: counted.ranTrace) ∧
      ∀ total, (b.countAll.apply c.connection).1 = .ok total →
        ∃ counted, BoundSql.compile b.table (.select []) b.clauses.unlimited = .ok counted ∧
          seen = counted.ranTrace :=
  seen_of_compiled _ (fun counted => emits_sent counted emits_count) c

theorem Builder.seen_of_readPage (b : Builder) (columns : List String) (text : String)
    (c : Recorded σ) :
    ∃ seen,
      (b.readPage columns text).apply c =
        c.extend ((b.readPage columns text).apply c.connection) seen ∧
      (seen = [] ∨ ∃ page, BoundSql.compile b.table (.select columns) (b.clauses.limitedTo text) =
        .ok page ∧ seen <+: page.ranTrace) := by
  obtain ⟨seen, hs, hb, -⟩ := seen_of_compiled
    (BoundSql.compile b.table (.select columns) (b.clauses.limitedTo text))
    (fun page => emits_sent page emits_all) c
  exact ⟨seen, hs, hb⟩

theorem Builder.shows_page {b : Builder} (source : Option PageSource) {perPage : UInt64}
    {columns : List String} {c : Recorded σ} {t : σ} {result : Except Error Page}
    (h : b.PageEnds (source.getD b.pageSource) perPage columns c.connection result t) :
    ∃ seen,
      b.PageEnds (source.getD b.pageSource) perPage columns c result ⟨t, c.seen ++ seen⟩ ∧
        Terminal.Shows b (.paginate source perPage columns) seen := by
  obtain ⟨first, hs, hb, ho⟩ := b.seen_of_countAll c
  -- A page that is reached has been counted, so the trace of the first statement is complete.
  have reached {total : UInt64} {window : PageWindow} {t' : σ} {result : Except Error (List Row)}
      (hc : b.countAll.apply c.connection = (.ok total, t'))
      (hw : PageWindow.compute total perPage (Building.pageOf (source.getD b.pageSource)) =
        .ok window)
      (hr : (b.readPage columns (window.limit perPage)).apply t' = (result, t)) :
      ∃ seen,
        (b.readPage columns (window.limit perPage)).apply (⟨t', c.seen ++ first⟩ : Recorded σ) =
          (result, ⟨t, c.seen ++ seen⟩) ∧
        Terminal.Shows b (.paginate source perPage columns) seen := by
    obtain ⟨counted, hcount, rfl⟩ := ho total (congrArg Prod.fst hc)
    obtain ⟨second, hs', hb'⟩ := b.seen_of_readPage columns (window.limit perPage)
      (⟨t', c.seen ++ counted.ranTrace⟩ : Recorded σ)
    rw [hr, Recorded.extend, List.append_assoc] at hs'
    refine ⟨_, hs', ?_⟩
    rcases hb' with rfl | ⟨page, hp, hb'⟩
    · exact .counting hcount (List.append_nil _ ▸ List.prefix_rfl)
    · exact .reading hcount hw hp hb'
  cases h with
  | empty hz => exact ⟨[], (List.append_nil c.seen).symm ▸ .empty hz, .nothing _⟩
  | uncounted hz hc =>
    rw [hc] at hs
    refine ⟨first, .uncounted hz hs, ?_⟩
    rcases hb with rfl | ⟨counted, hcount, hb⟩
    · exact .nothing _
    · exact .counting hcount hb
  | outOfRange hz hc hw =>
    obtain ⟨counted, hcount, rfl⟩ := ho _ (congrArg Prod.fst hc)
    rw [hc] at hs
    exact ⟨_, .outOfRange hz hs hw, .counting hcount List.prefix_rfl⟩
  | unread hz hc hw hr =>
    obtain ⟨seen, hr', shows⟩ := reached hc hw hr
    rw [hc] at hs
    exact ⟨seen, .unread hz hs hw hr', shows⟩
  | read hz hc hw hr =>
    obtain ⟨seen, hr', shows⟩ := reached hc hw hr
    rw [hc] at hs
    exact ⟨seen, .read hz hs hw hr', shows⟩

theorem Builder.locate_recorded (b : Builder) (source : PageSource) (perPage : UInt64)
    (c : Recorded σ) :
    ((b.locate source perPage).apply c).1 = ((b.locate source perPage).apply c.connection).1 := by
  obtain ⟨seen, hs, -⟩ := b.seen_of_countAll c
  rw [locate, locate, Act.apply_bind, Act.apply_bind, hs]
  obtain ⟨e | total, t⟩ := b.countAll.apply c.connection
  · rfl
  · dsimp only [Recorded.extend]
    cases PageWindow.compute total perPage (Building.pageOf source) <;> rfl

/-- A recorded connection changes nothing for a call, and sees the statements of the call. -/
theorem Terminal.shows_seen (call : Terminal α) (b : Builder) (c : Recorded σ) :
    ∃ seen, call.act.apply (b, c) =
        (let outcome := call.act.apply (b, c.connection)
        (outcome.1, (outcome.2.1, ⟨outcome.2.2, c.seen ++ seen⟩))) ∧
      Terminal.Shows b call seen := by
  rw [Terminal.apply_act, Terminal.apply_act]
  cases call with
  | single call =>
    obtain ⟨seen, hs, shows⟩ := call.shows_effect b c
    exact ⟨seen, by rw [effect, hs]; rfl, shows⟩
  | paginate source perPage columns =>
    obtain ⟨seen, ends, shows⟩ := Builder.shows_page source
      (b.page_ends (source.getD b.pageSource) perPage columns c.connection)
    refine ⟨seen, ?_, shows⟩
    rw [effect, ends.apply, leave, leave, Builder.afterPage, Builder.afterPage, b.locate_recorded]
    rfl

end

/-- Terminal calls of any number and in any order, on a connection in any state at each of them,
keep the table, the joins, the conditions, the grouping and the ordering of a builder, and without
paginations its limit and its offset too. A later call of one statement compiles just what the
builder was given, with its own intent or, when it has none, the one that was set last. A connection
that records what it is asked sees of a later call the statements that it compiles, and no
others. -/
theorem Builder.terminal_calls_persist {σ τ : Type} [Connection σ] [Connection τ]
    [StoresBindings τ] (b : Builder) (calls : List (Made σ)) :
    b.Persists (b.afterAll calls) ∧
      ((∀ made ∈ calls, ¬ made.call.Limits) → (b.afterAll calls).clauses = b.clauses) ∧
      (b.afterAll calls).intent = (b.intents calls).getLast?.getD b.intent ∧
      (∀ {α : Type} (call : SingleCall α) (s : τ),
        call.act.apply (b.afterAll calls, s) =
          let outcome := (do
            let compiled ← Act.ofExcept (BoundSql.compile b.table
              (call.intent?.getD ((b.intents calls).getLast?.getD b.intent))
              { b.clauses with
                limit := (b.afterAll calls).clauses.limit
                offset := (b.afterAll calls).clauses.offset })
            call.finish compiled : Act τ α).apply s
          (outcome.1, (call.set (b.afterAll calls), outcome.2))) ∧
      ∀ {α : Type} (call : Terminal α) (c : Recorded τ), ∃ seen,
        call.act.apply (b.afterAll calls, c) =
            (let outcome := call.act.apply (b.afterAll calls, c.connection)
            (outcome.1, (outcome.2.1, ⟨outcome.2.2, c.seen ++ seen⟩))) ∧
          Terminal.Shows (b.afterAll calls) call seen := by
  have kept := b.persists_afterAll calls
  refine ⟨kept, fun h => b.clauses_afterAll h, b.intent_afterAll calls, fun call s => ?_,
    fun call c => call.shows_seen _ c⟩
  rw [← kept.clauses, ← kept.table, ← b.intent_afterAll calls]
  exact call.does (b.afterAll calls) s

/-- A count that fails leaves nothing behind in the statement of a later call. -/
theorem Builder.persists_after_failed_count :
    (Builder.afterAll { table := "users", clauses := { orderBy := ["id"] } }
      [⟨.single .count, ({ executeFailure := some "down" } : Scripted)⟩,
        ⟨.single .delete, {}⟩]).clauses = { orderBy := ["id"] } :=
  (Builder.terminal_calls_persist (τ := Scripted)
    { table := "users", clauses := { orderBy := ["id"] } }
    [⟨.single .count, ({ executeFailure := some "down" } : Scripted)⟩,
      ⟨.single .delete, {}⟩]).2.1 (by simp [Terminal.Limits])

end BoundSql
