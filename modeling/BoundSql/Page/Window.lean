import BoundSql.Act
import BoundSql.Row

/-!
# Pages of a result

A window gives the numbers of one page of a result: the rows it covers, the last page, and its
neighbours. All numbers fit in 64 bits, and a page that ends beyond them is refused. A page is a
window with its rows.
-/

namespace BoundSql

/-- The numbers of a page of a result. -/
structure PageWindow where
  /-- The number of rows before the page. -/
  offset : UInt64
  /-- The last page with rows; zero without rows. -/
  lastPage : UInt64
  nextPage : Option UInt64
  previousPage : Option UInt64
  /-- The position of the first row of the page, counted from one. -/
  first : UInt64
  /-- The position of the last row of the page. -/
  last : UInt64
  deriving DecidableEq, Repr

namespace PageWindow

/-- The numbers of a page, counted from one, of a result of `total` rows with `perPage` rows, at
least one, on each page. -/
def compute (total perPage page : UInt64) : Except Error PageWindow :=
  let offset := (page.toNat - 1) * perPage.toNat
  let stop := offset + perPage.toNat
  if 2 ^ 64 ≤ stop then .error (.invalidArgument (.pageOutOfRange page perPage))
  else
    let lastPage := UInt64.ofNat ((total.toNat + perPage.toNat - 1) / perPage.toNat)
    .ok {
      offset := UInt64.ofNat offset
      lastPage
      nextPage := if lastPage ≤ page then none else some (page + 1)
      previousPage := if page = 1 then none else some (page - 1)
      first := UInt64.ofNat (offset + 1)
      last := UInt64.ofNat (min stop total.toNat) }

/-- The limit that selects the rows of the page. -/
def limit (window : PageWindow) (perPage : UInt64) : String :=
  toString window.offset.toNat ++ ", " ++ toString perPage.toNat

end PageWindow

/-- One page of a result. -/
structure Page where
  /-- The number of rows on all pages. -/
  total : UInt64
  perPage : UInt64
  current : UInt64
  window : PageWindow
  /-- The rows of the page. -/
  rows : List Row
  deriving DecidableEq

/-- The page as a JSON object. -/
def Page.toJson (page : Page) : Json :=
  let number (n : UInt64) : Json := .int n.toNat
  let optional (n : Option UInt64) : Json := (n.map number).getD .null
  .object [
    ("total", number page.total),
    ("per_page", number page.perPage),
    ("current_page", number page.current),
    ("last_page", number page.window.lastPage),
    ("next_page", optional page.window.nextPage),
    ("prev_page", optional page.window.previousPage),
    ("from", number page.window.first),
    ("to", number page.window.last),
    ("data", .array (page.rows.map Row.toObject))]

end BoundSql
