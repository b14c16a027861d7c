import BoundSql.Proofs.Builder.Persistence
import BoundSql.Proofs.Page.Window
import BoundSql.Proofs.Query.Scripted

/-!
# Pages of a builder on a scripted connection

A pagination counts the rows of the statement without a limit, and then reads the rows of its page.
It sets the intent, the limit and the offset before it compiles anything, so nothing is left of what
they were.

* `compile_select`: the text and the values of a `SELECT`;
* `Builder.Persists.paginate`: a pagination forgets the intent, the limit and the offset;
* `Builder.paginate_exact`: what a pagination executes and gives.
-/

namespace BoundSql

/-! ## The text of a page -/

/-- The column expressions of a `SELECT`. -/
def writeColumns (columns : List String) : String :=
  if columns.isEmpty then "*" else ", ".intercalate columns

/-- What stands between the table and the limit of a statement, after its conditions are written. -/
def Clauses.body (clauses : Clauses) (conditions : String) : String :=
  writeJoins clauses.joins ++ conditions ++ writeList " GROUP BY " clauses.groupBy ++
    writeList " ORDER BY " clauses.orderBy

/-- The text of a `SELECT` whose conditions are written. -/
def selectText (table : String) (columns : List String) (clauses : Clauses) (conditions : String) :
    String :=
  "SELECT " ++ writeColumns columns ++ " FROM " ++ table ++ clauses.body conditions

/-- A `SELECT` that compiles has the values of its conditions. -/
theorem compile_select {table : String} {columns : List String} {clauses : Clauses}
    {compiled : Compiled} (h : compile table (.select columns) clauses = .ok compiled) :
    ∃ conditions values,
      (writePredicates 0 clauses.conditions.predicates).run ∅ = .ok (conditions, values) ∧
        compiled = {
          sql := selectText table columns clauses conditions ++
            (writeLimit clauses.limit ++ writeOffset clauses.offset)
          values } := by
  simp only [compile, writeStatement, Intent.write, Binder.compiled, pure_bind, StateT.run_bind,
    bind_assoc] at h
  cases hp : (writePredicates 0 clauses.conditions.predicates).run ∅ with
  | error e =>
    rw [hp] at h
    cases h
  | ok written =>
    rw [hp] at h
    cases h
    refine ⟨written.1, written.2, rfl, ?_⟩
    simp only [selectText, writeColumns, Clauses.body, Clauses.writeTail, String.append_assoc]

theorem isSelect_selectText (table : String) (columns : List String) (clauses : Clauses)
    (conditions rest : String) :
    Scripted.isSelect (selectText table columns clauses conditions ++ rest) := by
  simp only [selectText, String.append_assoc]
  exact Scripted.isSelect_iff.2
    ⟨[], "SELECT".toList, _ :: _, String.toList_append, nofun, by decide⟩

theorem writeLimit_window (window : PageWindow) (perPage : UInt64) :
    writeLimit (some (window.limit perPage)) = " LIMIT " ++ window.limit perPage := by
  have comma : ',' ∈ (window.limit perPage).toList := by
    simp [PageWindow.limit]
  have visible : ¬ (Text.trim (window.limit perPage).toList).isEmpty := by
    rw [List.isEmpty_iff]
    exact List.ne_nil_of_mem (Text.mem_trim comma rfl)
  rw [writeLimit, if_neg visible]

/-! ## A pagination that succeeds -/

namespace Builder

variable {b : Builder} {s t : Scripted}

theorem countAll_ok {total : UInt64} (h : b.countAll.apply s = (.ok total, t)) :
    ∃ conditions values,
      (writePredicates 0 b.clauses.conditions.predicates).run ∅ = .ok (conditions, values) ∧
        total = s.rowCount.getD (UInt64.ofNat s.rows.length) ∧
        t = s.ran { sql := selectText b.table [] b.clauses conditions, values } := by
  rw [countAll] at h
  obtain ⟨compiled, hc, h⟩ := Act.apply_ofExcept_bind_eq_ok.1 h
  obtain ⟨conditions, values, hp, rfl⟩ := compile_select hc
  obtain ⟨htotal, ht⟩ := count_ok h (isSelect_selectText ..)
  refine ⟨conditions, values, hp, htotal, ?_⟩
  rwa [show writeLimit b.clauses.unlimited.limit ++ writeOffset b.clauses.unlimited.offset = "" from
    rfl, String.append_empty] at ht

theorem readPage_ok {columns : List String} {window : PageWindow} {perPage : UInt64}
    {rows : List Row}
    (h : (b.readPage columns (window.limit perPage)).apply s = (.ok rows, t)) :
    ∃ conditions values,
      (writePredicates 0 b.clauses.conditions.predicates).run ∅ = .ok (conditions, values) ∧
        rows = s.rows ∧
        t = s.ran {
          sql := selectText b.table columns b.clauses conditions ++ " LIMIT " ++
            window.limit perPage
          values } := by
  rw [readPage] at h
  obtain ⟨compiled, hc, h⟩ := Act.apply_ofExcept_bind_eq_ok.1 h
  obtain ⟨conditions, values, hp, rfl⟩ := compile_select hc
  obtain ⟨hrows, ht⟩ := all_ok h (isSelect_selectText ..)
  refine ⟨conditions, values, hp, hrows, ?_⟩
  rwa [show writeLimit (b.clauses.limitedTo (window.limit perPage)).limit =
      " LIMIT " ++ window.limit perPage from writeLimit_window window perPage,
    show writeOffset (b.clauses.limitedTo (window.limit perPage)).offset = "" from rfl,
    String.append_empty, ← String.append_assoc] at ht

/-- A pagination that succeeds executes two statements over the same conditions. -/
theorem page_ok {source : PageSource} {perPage : UInt64} {columns : List String} {page : Page}
    (h : (b.page source perPage columns).apply s = (.ok page, t)) :
    ∃ conditions values window,
      (writePredicates 0 b.clauses.conditions.predicates).run ∅ = .ok (conditions, values) ∧
        PageWindow.compute page.total perPage (Building.pageOf source) = .ok window ∧
        page = {
          total := s.rowCount.getD (UInt64.ofNat s.rows.length), perPage,
          current := Building.pageOf source, window, rows := s.rows } ∧
        t = (s.ran { sql := selectText b.table [] b.clauses conditions, values }).ran {
          sql := selectText b.table columns b.clauses conditions ++ " LIMIT " ++
            window.limit perPage
          values } := by
  have ends := b.page_ends source perPage columns s
  rw [h] at ends
  cases ends with
  | read _ hc hw hr =>
    obtain ⟨conditions, values, hp, htotal, rfl⟩ := countAll_ok hc
    obtain ⟨_, _, hp', hrows, rfl⟩ := readPage_ok hr
    cases hp.symm.trans hp'
    exact ⟨conditions, values, _, hp, hw, by rw [htotal, hrows]; rfl, rfl⟩

end Builder

/-! ## Builders that differ in what a pagination sets -/

namespace Builder.Persists

variable {σ : Type} [Connection σ] {b b' : Builder}

theorem page (h : b.Persists b') (source : PageSource) (perPage : UInt64)
    (columns : List String) :
    (b'.page source perPage columns : Act σ Page) = b.page source perPage columns := by
  obtain ⟨_, _, _, rfl⟩ := h.eq_set
  rfl

theorem afterPage (h : b.Persists b') (source : PageSource) {perPage : UInt64}
    (hp : perPage ≠ 0) (columns : List String) (s : σ) :
    b'.afterPage source perPage columns s = b.afterPage source perPage columns s := by
  obtain ⟨_, _, _, rfl⟩ := h.eq_set
  rw [Builder.afterPage, Builder.afterPage, if_neg hp, if_neg hp]
  rfl

/-- A pagination does the same on both builders, and leaves the same builder. -/
theorem paginate (h : b.Persists b') (source : Option PageSource) {perPage : UInt64}
    (hp : perPage ≠ 0) (columns : List String) (s : σ) :
    (Terminal.paginate source perPage columns).act.apply (b', s) =
      (Terminal.paginate source perPage columns).act.apply (b, s) := by
  rw [Terminal.apply_act, Terminal.apply_act]
  simp only [Terminal.effect, Terminal.leave]
  rw [h.pageSource, h.page, h.afterPage _ hp]

end Builder.Persists

/-! ## Paginations of a builder that is in use -/

namespace Builder

/-- A use of a builder that leaves its statement as it is, but for the intent, the limit and the
offset. -/
inductive Use (σ : Type) where
  | limit (text : String)
  | offset (n : UInt64)
  | call (made : Made σ)

/-- The builder after a use. -/
def Use.apply {σ : Type} [Connection σ] (b : Builder) : Use σ → Builder
  | limit text => b.limit text
  | offset n => b.offset n
  | call made => b.after made

theorem persists_use {σ : Type} [Connection σ] (b : Builder) (use : Use σ) :
    b.Persists (use.apply b) := by
  cases use with
  | limit text => exact .set b _ _ _
  | offset n => exact .set b _ _ _
  | call made => exact b.persists_afterAll [made]

theorem persists_uses {σ : Type} [Connection σ] (b : Builder) (uses : List (Use σ)) :
    b.Persists (uses.foldl Use.apply b) := by
  induction uses generalizing b with
  | nil => exact .refl b
  | cons use rest ih => exact (b.persists_use use).trans (ih _)

/-- A pagination that succeeds on a scripted connection executes two statements with the same
conditions and values: the first one selects every row without a limit or an offset, the second one
the columns of the rows of the page. The page is the one whose number the source gives, and the
first page for the number zero, which only a source of another kind gives. The total is the row
count of the first statement, and the rows are those of the second. Whether it succeeds or not, a
pagination depends on the intent, the limit and the offset of the builder in no way, and so not on
what the builder was used for before. -/
theorem paginate_exact {perPage : UInt64} (hper : 1 ≤ perPage.toNat) (b : Builder)
    (source : Option PageSource) (columns : List String) (s : Scripted) :
    (∀ page b' t,
      (Terminal.paginate source perPage columns).act.apply (b, s) = (.ok page, (b', t)) →
        ∃ conditions values,
          (writePredicates 0 b.clauses.conditions.predicates).run ∅ = .ok (conditions, values) ∧
            t = { s with executed := s.executed ++ [
              (selectText b.table [] b.clauses conditions, .ofList (received values.entries)),
              (selectText b.table columns b.clauses conditions ++ " LIMIT " ++
                  (toString ((page.current.toNat - 1) * perPage.toNat) ++ ", " ++
                    toString perPage.toNat),
                .ofList (received values.entries))] } ∧
            page.total = s.rowCount.getD (UInt64.ofNat s.rows.length) ∧ page.rows = s.rows ∧
            page.perPage = perPage ∧ page.current = max (source.getD b.pageSource).page 1 ∧
            ((∀ number, source.getD b.pageSource ≠ .other number) →
              page.current = (source.getD b.pageSource).page) ∧
            1 ≤ page.current.toNat ∧
            PageWindow.compute page.total perPage page.current = .ok page.window) ∧
      (∀ b', b.Persists b' →
        (Terminal.paginate source perPage columns).act.apply (b', s) =
          (Terminal.paginate source perPage columns).act.apply (b, s)) ∧
      ∀ uses : List (Use Scripted),
        (Terminal.paginate source perPage columns).act.apply (uses.foldl Use.apply b, s) =
          (Terminal.paginate source perPage columns).act.apply (b, s) := by
  have hp : perPage ≠ 0 := by
    rintro rfl
    exact absurd hper (by decide)
  refine ⟨fun page b' t h => ?_, fun b' h => h.paginate source hp columns s,
    fun uses => (b.persists_uses uses).paginate source hp columns s⟩
  obtain ⟨conditions, values, window, hwrite, hwindow, rfl, rfl⟩ :=
    page_ok (Terminal.apply_effect h)
  have hpage := Building.one_le_pageOf (source.getD b.pageSource)
  have hlimit := (PageWindow.exact_of_compute hper hpage hwindow).offset
  refine ⟨conditions, values, hwrite, ?_, rfl, rfl, rfl, rfl,
    fun h => PageSource.max_one_eq (PageSource.one_le_page h), hpage, hwindow⟩
  simp only [Scripted.ran, Scripted.record, List.append_assoc, List.singleton_append,
    PageWindow.limit, hlimit]

/-- The second page of ten out of twenty-five rows, on a builder with a limit and an offset. -/
theorem paginate_second_page :
    ∃ page b' t,
      (Terminal.paginate (some (.fixed 2)) 10 ["id"]).act.apply
          ({ table := "users", clauses := { orderBy := ["id"], limit := "3", offset := some 7 } },
            ({ rowCount := some 25 } : Scripted)) = (.ok page, (b', t)) ∧
        page.total = 25 ∧ page.current = 2 ∧
        t.executed.map Prod.fst =
          ["SELECT * FROM users ORDER BY id", "SELECT id FROM users ORDER BY id LIMIT 10, 10"] := by
  refine ⟨_, _, _, rfl, ?_⟩
  obtain ⟨conditions, values, hwrite, ht, htotal, -, -, hcurrent, -⟩ :=
    (@paginate_exact 10 (by decide)
      { table := "users", clauses := { orderBy := ["id"], limit := "3", offset := some 7 } }
      (some (.fixed 2)) ["id"] { rowCount := some 25 }).1 _ _ _ rfl
  cases hwrite
  refine ⟨htotal, hcurrent, ?_⟩
  rw [ht]
  decide +kernel

end Builder

end BoundSql
