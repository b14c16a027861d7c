import BoundSql.Number.Reading
import BoundSql.OrderedMap
import BoundSql.Text.Form

/-!
# Where page numbers come from

The number of the requested page: a fixed number, the parameter `page` of a query string, or the
number that some other source gives. Pages are counted from one. A fixed number of zero means the
first page; the parameter may be any numeral, whose fraction is dropped, and anything below one or
not finite counts as the first page. Another source may give any number.

* `one_le_page`: fixed numbers and parameters give pages.
-/

namespace BoundSql

/-- The parameters of a request: of a repeated name, the last value. -/
abbrev Parameters := OrderedMap String

namespace Parameters

/-- The parameters of a query string, which may begin with `?`. -/
def ofQuery (query : String) : Parameters :=
  match query.toList with
  | '?' :: rest => OrderedMap.ofList (Text.formPairs rest)
  | s => OrderedMap.ofList (Text.formPairs s)

/-- The parameters of a request target: what stands between the first `?` and a `#`. -/
def ofTarget (target : String) : Parameters :=
  match Text.cutAt? '?' (target.toList.takeWhile (· != '#')) with
  | some (_, query) => ofQuery (String.ofList query)
  | none => ∅

end Parameters

/-- A source of page numbers. -/
inductive PageSource where
  | fixed (page : UInt64)
  | parameters (values : Parameters)
  /-- Any other source, by the number that it gives. -/
  | other (number : UInt64)
  deriving DecidableEq

namespace PageSource

instance : Inhabited PageSource := ⟨fixed 1⟩

/-- The page that a double asks for: its whole part, at most the greatest 64-bit number, if it is
at least one. -/
def ofDouble? (x : Double) : Option UInt64 :=
  if x.isFinite && !x.isNegative && 1 ≤ x.wholePart then
    some (UInt64.ofNat (min x.wholePart (2 ^ 64 - 1)))
  else none

/-- The page that a text asks for. -/
def ofText? (text : String) : Option UInt64 :=
  (Number.readDouble? (Text.trim text.toList)).bind ofDouble?

/-- The number that a source gives. -/
def page : PageSource → UInt64
  | fixed page => max page 1
  | parameters values => ((values.get? "page").bind ofText?).getD 1
  | other number => number

theorem one_le_max_one (number : UInt64) : 1 ≤ (max number 1).toNat := by
  show 1 ≤ (if number ≤ 1 then 1 else number).toNat
  split
  · decide
  · rename_i h
    rw [UInt64.le_iff_toNat_le, Nat.not_le] at h
    exact Nat.le_of_lt h

theorem max_one_eq {number : UInt64} (h : 1 ≤ number.toNat) : max number 1 = number := by
  show (if number ≤ 1 then 1 else number) = number
  split
  · rename_i hle
    exact UInt64.toNat_inj.1 (Nat.le_antisymm h (UInt64.le_iff_toNat_le.1 hle))
  · rfl

theorem one_le_of_ofDouble? {x : Double} {page : UInt64} (h : ofDouble? x = some page) :
    1 ≤ page.toNat := by
  unfold ofDouble? at h
  split at h
  · rename_i hx
    simp only [Bool.and_eq_true, decide_eq_true_eq] at hx
    cases h
    rw [UInt64.toNat_ofNat']
    omega
  · cases h

theorem one_le_page {source : PageSource} (h : ∀ number, source ≠ other number) :
    1 ≤ source.page.toNat := by
  cases source with
  | fixed page => exact one_le_max_one page
  | other number => exact absurd rfl (h number)
  | parameters values =>
    rw [PageSource.page]
    cases hp : (values.get? "page").bind ofText? with
    | none => decide
    | some page =>
      obtain ⟨text, -, ht⟩ := Option.bind_eq_some_iff.1 hp
      obtain ⟨x, -, hx⟩ := Option.bind_eq_some_iff.1 ht
      exact one_le_of_ofDouble? hx

end PageSource

end BoundSql
