import BoundSql.Builder
import BoundSql.Proofs.Query.Sending

/-!
# What terminal calls do

A terminal call that makes one statement sets its own intent, if it has one, and nothing else of the
builder: on the connection it does what follows from the statement that the builder then holds. A
pagination is two such calls, with a limit of its own and no offset.

* `SingleCall.does`: a call of one statement, as an effect on the connection alone;
* `Terminal.apply_act`: any terminal call, as an effect on the connection and the builder it leaves.
-/

namespace BoundSql

variable {σ α β : Type}

/-! ## Effects that leave a known builder -/

/-- From a builder, an effect does on the connection what another one does, and leaves a builder. -/
def Does (act : Building σ α) (b b' : Builder) (effect : Act σ α) : Prop :=
  ∀ s, act.apply (b, s) = ((effect.apply s).1, (b', (effect.apply s).2))

namespace Does

variable {b b' : Builder}

theorem bind {act : Building σ α} {effect : Act σ α} {next : α → Building σ β}
    {later : α → Act σ β} (h : Does act b b' effect) (hn : ∀ a, Does (next a) b' b' (later a)) :
    Does (act >>= next) b b' (effect >>= later) := by
  intro s
  rw [Act.apply_bind, Act.apply_bind, h s]
  obtain ⟨e | a, t⟩ := effect.apply s
  · rfl
  · exact hn a t

theorem onConnection (b : Builder) (effect : Act σ α) :
    Does (Building.onConnection effect) b b effect :=
  Act.apply_onSecond effect b

theorem pure (b : Builder) (a : α) : Does (Pure.pure a : Building σ α) b b (Pure.pure a) :=
  fun _ => rfl

theorem ofExcept (b : Builder) (result : Except Error α) :
    Does (Act.ofExcept result : Building σ α) b b (Act.ofExcept result) :=
  fun _ => rfl

/-- A change of the builder before an effect. -/
theorem modify (f : Builder → Builder) {act : Unit → Building σ α} {effect : Act σ α}
    (h : Does (act ()) (f b) b' effect) : Does (Building.modifyBuilder f >>= act) b b' effect :=
  fun s => (Act.apply_bind_of_ok rfl).trans (h s)

/-- An effect that depends on the builder. -/
theorem get {act : Builder × σ → Building σ α} {effect : Act σ α}
    (h : ∀ s, Does (act (b, s)) b b' effect) : Does (MonadState.get >>= act) b b' effect :=
  fun s => (Act.apply_bind_of_ok rfl).trans (h s s)

end Does

/-! ## Calls of one statement -/

/-- A terminal call that makes one statement, by what it gives. -/
inductive SingleCall : Type → Type where
  | select (columns : List String) : SingleCall Query
  | insert (data : OrderedMap Value) : SingleCall Query
  | update (data : OrderedMap Value) : SingleCall Query
  | delete : SingleCall Query
  | fetch : SingleCall Fetched
  | fetchOne : SingleCall (Option Row)
  | all : SingleCall (List Row)
  | count : SingleCall UInt64
  | aggregate (function field : String) : SingleCall Value
  | dump : SingleCall String
  | compile : SingleCall Compiled

namespace SingleCall

/-- The intent that a call sets. -/
def intent? : SingleCall α → Option Intent
  | select columns => some (.select columns)
  | insert data => some (.insert data)
  | update data => some (.update data)
  | delete => some .delete
  | fetch | fetchOne | all | count => some (.select [])
  | aggregate function field => some (.select [function ++ "(" ++ field ++ ")"])
  | dump | compile => none

/-- The builder with the intent of a call, if it has one. -/
def set (call : SingleCall α) (b : Builder) : Builder :=
  { b with intent := call.intent?.getD b.intent }

variable [Connection σ]

/-- What a call does. -/
def act : {α : Type} → SingleCall α → Building σ α
  | _, select columns => Building.select columns
  | _, insert data => Building.insert data
  | _, update data => Building.update data
  | _, delete => Building.delete
  | _, fetch => Building.fetch
  | _, fetchOne => Building.fetchOne
  | _, all => Building.all
  | _, count => Building.count
  | _, aggregate function field => Building.aggregate function field
  | _, dump => Building.dump
  | _, compile => do
    let (b, _) ← get
    Act.ofExcept b.compile

/-- What a call does with the statement that it makes. -/
def finish : {α : Type} → SingleCall α → Compiled → Act σ α
  | _, select _, compiled => send compiled
  | _, insert _, compiled => send compiled
  | _, update _, compiled => send compiled
  | _, delete, compiled => send compiled
  | _, fetch, compiled => do (← send compiled).get
  | _, fetchOne, compiled => do (← send compiled).getOne
  | _, all, compiled => do (← send compiled).all
  | _, count, compiled => do (← send compiled).count
  | _, aggregate _ _, compiled => do
    let row ← (← send compiled).getOne
    return (row.bind (·.valueAt? 0)).getD .null
  | _, dump, compiled => do return (← send compiled).dump
  | _, compile, compiled => return compiled

/-- What a call does with the statement of a builder. -/
def effect (call : SingleCall α) (b : Builder) : Act σ α := do
  let compiled ← Act.ofExcept (call.set b).compile
  call.finish compiled

end SingleCall

section
variable [Connection σ]

theorem does_prepare (b : Builder) :
    Does (Building.prepare : Building σ Query) b b
      (do let compiled ← Act.ofExcept b.compile; send compiled) :=
  .get fun _ => (Does.ofExcept b _).bind fun _ => .onConnection b _

theorem does_prepareAs (intent : Intent) (b : Builder) :
    Does (Building.prepareAs intent : Building σ Query) b { b with intent }
      (do
        let compiled ← Act.ofExcept (compile b.table intent b.clauses)
        send compiled) :=
  .modify _ (does_prepare _)

/-- A call of one statement sets its intent and does what follows from the statement that the
builder then holds. -/
theorem SingleCall.does (call : SingleCall α) (b : Builder) :
    Does (call.act : Building σ α) b (call.set b) (call.effect b) := by
  cases call with
  | select columns => exact does_prepareAs _ b
  | insert data => exact does_prepareAs _ b
  | update data => exact does_prepareAs _ b
  | delete => exact does_prepareAs _ b
  | fetch =>
    have h := (does_prepareAs (σ := σ) (.select []) b).bind fun q => .onConnection _ q.get
    rwa [bind_assoc] at h
  | fetchOne =>
    have h := (does_prepareAs (σ := σ) (.select []) b).bind fun q => .onConnection _ q.getOne
    rwa [bind_assoc] at h
  | all =>
    have h := (does_prepareAs (σ := σ) (.select []) b).bind fun q => .onConnection _ q.all
    rwa [bind_assoc] at h
  | count =>
    have h := (does_prepareAs (σ := σ) (.select []) b).bind fun q => .onConnection _ q.count
    rwa [bind_assoc] at h
  | aggregate function field =>
    have h := (does_prepareAs (σ := σ) (.select [function ++ "(" ++ field ++ ")"]) b).bind fun q =>
      (Does.onConnection _ q.getOne).bind fun row =>
        .pure _ ((row.bind (·.valueAt? 0)).getD .null)
    rwa [bind_assoc] at h
  | dump =>
    have h := (does_prepare (σ := σ) b).bind fun q => .pure b q.dump
    rwa [bind_assoc] at h
  | compile =>
    have h : Does (SingleCall.compile.act : Building σ Compiled) b b (Act.ofExcept b.compile) :=
      .get fun _ => .ofExcept b _
    rwa [← bind_pure (Act.ofExcept b.compile)] at h

end

/-! ## Pagination -/

/-- The clauses without a limit and an offset. -/
def Clauses.unlimited (clauses : Clauses) : Clauses :=
  { clauses with limit := none, offset := none }

/-- The clauses with a limit and no offset. -/
def Clauses.limitedTo (clauses : Clauses) (text : String) : Clauses :=
  { clauses with limit := some text, offset := none }

namespace Builder

/-- The builder after a pagination has counted its rows. -/
def counted (b : Builder) : Builder :=
  { b with intent := .select [], clauses := b.clauses.unlimited }

/-- The builder after a pagination has read its page. -/
def paged (b : Builder) (columns : List String) (text : String) : Builder :=
  { b with intent := .select columns, clauses := b.clauses.limitedTo text }

variable [Connection σ]

/-- The number of rows of the statement without a limit. -/
def countAll (b : Builder) : Act σ UInt64 := do
  let compiled ← Act.ofExcept (BoundSql.compile b.table (.select []) b.clauses.unlimited)
  (← send compiled).count

/-- The number of rows and the window of a page. -/
def locate (b : Builder) (source : PageSource) (perPage : UInt64) :
    Act σ (UInt64 × PageWindow) := do
  let total ← b.countAll
  let window ← Act.ofExcept (PageWindow.compute total perPage (Building.pageOf source))
  return (total, window)

/-- The rows of the statement with a limit. -/
def readPage (b : Builder) (columns : List String) (text : String) : Act σ (List Row) := do
  let compiled ←
    Act.ofExcept (BoundSql.compile b.table (.select columns) (b.clauses.limitedTo text))
  (← send compiled).all

/-- What a pagination does on the connection. -/
def page (b : Builder) (source : PageSource) (perPage : UInt64) (columns : List String) :
    Act σ Page := do
  if perPage = 0 then throw (.invalidArgument .emptyPages)
  let (total, window) ← b.locate source perPage
  let rows ← b.readPage columns (window.limit perPage)
  return { total, perPage, current := Building.pageOf source, window, rows }

theorem page_eq (b : Builder) (source : PageSource) {perPage : UInt64} (h : perPage ≠ 0)
    (columns : List String) :
    (b.page source perPage columns : Act σ Page) = (do
      let total ← b.countAll
      let window ← Act.ofExcept (PageWindow.compute total perPage (Building.pageOf source))
      let rows ← b.readPage columns (window.limit perPage)
      return { total, perPage, current := Building.pageOf source, window, rows }) := by
  simp only [page, locate, if_neg h, bind_assoc, pure_bind]

/-- The ways in which a pagination ends, with the result and the state of the connection. -/
inductive PageEnds (b : Builder) (source : PageSource) (perPage : UInt64) (columns : List String)
    (s : σ) : Except Error Page → σ → Prop where
  | empty (h : perPage = 0) :
    PageEnds b source perPage columns s (.error (.invalidArgument .emptyPages)) s
  | uncounted {e : Error} {t : σ} (h : perPage ≠ 0) (hc : b.countAll.apply s = (.error e, t)) :
    PageEnds b source perPage columns s (.error e) t
  | outOfRange {total : UInt64} {e : Error} {t : σ} (h : perPage ≠ 0)
    (hc : b.countAll.apply s = (.ok total, t))
    (hw : PageWindow.compute total perPage (Building.pageOf source) = .error e) :
    PageEnds b source perPage columns s (.error e) t
  | unread {total : UInt64} {window : PageWindow} {e : Error} {t u : σ} (h : perPage ≠ 0)
    (hc : b.countAll.apply s = (.ok total, t))
    (hw : PageWindow.compute total perPage (Building.pageOf source) = .ok window)
    (hr : (b.readPage columns (window.limit perPage)).apply t = (.error e, u)) :
    PageEnds b source perPage columns s (.error e) u
  | read {total : UInt64} {window : PageWindow} {rows : List Row} {t u : σ} (h : perPage ≠ 0)
    (hc : b.countAll.apply s = (.ok total, t))
    (hw : PageWindow.compute total perPage (Building.pageOf source) = .ok window)
    (hr : (b.readPage columns (window.limit perPage)).apply t = (.ok rows, u)) :
    PageEnds b source perPage columns s
      (.ok { total, perPage, current := Building.pageOf source, window, rows }) u

theorem page_ends (b : Builder) (source : PageSource) (perPage : UInt64) (columns : List String)
    (s : σ) :
    b.PageEnds source perPage columns s ((b.page source perPage columns).apply s).1
      ((b.page source perPage columns).apply s).2 := by
  by_cases h : perPage = 0
  · rw [page, if_pos h]
    exact .empty h
  · rw [page_eq b source h]
    rcases hc : b.countAll.apply s with ⟨e | total, t⟩
    · rw [Act.apply_bind_of_error hc]
      exact .uncounted h hc
    rw [Act.apply_bind_of_ok hc]
    rcases hw : PageWindow.compute total perPage (Building.pageOf source) with e | window
    · exact .outOfRange h hc hw
    rw [Act.apply_bind_of_ok (Act.apply_ofExcept _ t)]
    rcases hr : (b.readPage columns (window.limit perPage)).apply t with ⟨e | rows, u⟩
    · rw [Act.apply_bind_of_error hr]
      exact .unread h hc hw hr
    · rw [Act.apply_bind_of_ok hr]
      exact .read h hc hw hr

theorem PageEnds.apply {b : Builder} {source : PageSource} {perPage : UInt64}
    {columns : List String} {s t : σ} {result : Except Error Page}
    (h : b.PageEnds source perPage columns s result t) :
    (b.page source perPage columns).apply s = (result, t) := by
  cases h with
  | empty hz =>
    rw [page, if_pos hz]
    rfl
  | uncounted hz hc =>
    rw [page_eq b source hz]
    exact Act.apply_bind_of_error hc
  | outOfRange hz hc hw =>
    rw [page_eq b source hz, Act.apply_bind_of_ok hc, hw]
    rfl
  | unread hz hc hw hr =>
    rw [page_eq b source hz, Act.apply_bind_of_ok hc, hw,
      Act.apply_bind_of_ok (Act.apply_ofExcept _ _)]
    exact Act.apply_bind_of_error hr
  | read hz hc hw hr =>
    rw [page_eq b source hz, Act.apply_bind_of_ok hc, hw,
      Act.apply_bind_of_ok (Act.apply_ofExcept _ _)]
    exact Act.apply_bind_of_ok hr

/-- The builder after a pagination. -/
def afterPage (b : Builder) (source : PageSource) (perPage : UInt64) (columns : List String)
    (s : σ) : Builder :=
  if perPage = 0 then b
  else
    match ((b.locate source perPage).apply s).1 with
    | .ok (_, window) => b.paged columns (window.limit perPage)
    | .error _ => b.counted

end Builder

section
variable [Connection σ]

/-- The first phase of a pagination. -/
def Building.countAnew : Building σ UInt64 := do
  modifyBuilder fun builder => { builder with clauses.limit := none, clauses.offset := none }
  count

/-- The second phase of a pagination. -/
def Building.readLimited (columns : List String) (text : String) : Building σ (List Row) := do
  modifyBuilder fun builder => { builder with clauses.limit := some text }
  let query ← select columns
  onConnection query.all

theorem Building.paginate_eq (source : PageSource) {perPage : UInt64} (h : perPage ≠ 0)
    (columns : List String) :
    (paginate source perPage columns : Building σ Page) = (do
      let total ← countAnew
      let window ← Act.ofExcept (PageWindow.compute total perPage (Building.pageOf source))
      let rows ← readLimited columns (window.limit perPage)
      return { total, perPage, current := Building.pageOf source, window, rows }) := by
  simp only [paginate, countAnew, readLimited, if_neg h, bind_assoc]

theorem does_countAnew (b : Builder) :
    Does (Building.countAnew : Building σ UInt64) b b.counted b.countAll :=
  .modify _ (SingleCall.count.does { b with clauses := b.clauses.unlimited })

theorem does_readLimited (b : Builder) (columns : List String) (text : String) :
    Does (Building.readLimited columns text : Building σ (List Row)) b.counted
      (b.paged columns text) (b.readPage columns text) := by
  have h := ((SingleCall.select columns).does (σ := σ)
    { b.counted with clauses := b.clauses.limitedTo text }).bind fun q => .onConnection _ q.all
  rw [SingleCall.effect, bind_assoc] at h
  exact .modify _ h

/-- A pagination does on the connection what `Builder.page` does, and leaves `Builder.afterPage`. -/
theorem apply_paginate (b : Builder) (source : PageSource) (perPage : UInt64)
    (columns : List String) (s : σ) :
    (Building.paginate source perPage columns).apply (b, s) =
      (((b.page source perPage columns).apply s).1,
        (b.afterPage source perPage columns s, ((b.page source perPage columns).apply s).2)) := by
  by_cases h : perPage = 0
  · simp only [Building.paginate, Builder.page, Builder.afterPage, if_pos h]
    rfl
  · simp only [Building.paginate_eq source h, Builder.page, Builder.afterPage, Builder.locate,
      if_neg h, Act.apply_bind, does_countAnew b s]
    obtain ⟨e | total, t⟩ := b.countAll.apply s
    · rfl
    · simp only [Act.apply_ofExcept]
      obtain e | window := PageWindow.compute total perPage (Building.pageOf source)
      · rfl
      · dsimp only [Act.apply_pure]
        rw [does_readLimited b columns (window.limit perPage) t]
        obtain ⟨e | rows, u⟩ := (b.readPage columns (window.limit perPage)).apply t <;> rfl

theorem apply_paginateOwn (b : Builder) (perPage : UInt64) (columns : List String) (s : σ) :
    (Building.paginateOwn perPage columns).apply (b, s) =
      (Building.paginate b.pageSource perPage columns).apply (b, s) := by
  rw [Building.paginateOwn, Act.apply_bind_of_ok (Act.apply_get (b, s))]

end

/-! ## Terminal calls -/

/-- A terminal call: one of one statement, or a pagination from a source of page numbers, the
builder's own when none is given. -/
inductive Terminal : Type → Type 1 where
  | single {α : Type} (call : SingleCall α) : Terminal α
  | paginate (source : Option PageSource) (perPage : UInt64) (columns : List String) :
    Terminal Page

namespace Terminal

variable [Connection σ]

/-- What a call does. -/
def act : Terminal α → Building σ α
  | single call => call.act
  | paginate (some source) perPage columns => Building.paginate source perPage columns
  | paginate none perPage columns => Building.paginateOwn perPage columns

/-- What a call on a builder does on the connection. -/
def effect (b : Builder) : Terminal α → Act σ α
  | single call => call.effect b
  | paginate source perPage columns => b.page (source.getD b.pageSource) perPage columns

/-- The builder after a call. -/
def leave (b : Builder) (s : σ) : Terminal α → Builder
  | single call => call.set b
  | paginate source perPage columns => b.afterPage (source.getD b.pageSource) perPage columns s

theorem apply_act (call : Terminal α) (b : Builder) (s : σ) :
    call.act.apply (b, s) =
      (((call.effect b).apply s).1, (call.leave b s, ((call.effect b).apply s).2)) := by
  match call with
  | single call => exact call.does b s
  | paginate (some source) perPage columns => exact apply_paginate b source perPage columns s
  | paginate none perPage columns =>
    exact (apply_paginateOwn b perPage columns s).trans (apply_paginate b _ perPage columns s)

theorem apply_effect {call : Terminal α} {b b' : Builder} {s t : σ} {result : Except Error α}
    (h : call.act.apply (b, s) = (result, (b', t))) : (call.effect b).apply s = (result, t) := by
  rw [apply_act] at h
  cases h
  rfl

end Terminal

end BoundSql
