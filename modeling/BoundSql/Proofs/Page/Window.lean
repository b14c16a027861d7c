import BoundSql.Page.Window
import Mathlib.Algebra.Order.Floor.Div

/-!
# Windows tile the result

The numbers of a window are those of unbounded arithmetic (`Exact`) for every page that ends within
the 64-bit numbers, and any other page is refused. The pages of a result then follow each other
without gap or overlap, from its first row to its last.

* `compute_of_fits`, `compute_of_not_fits`: the pages that have a window, and its numbers;
* `shows_iff`: the rows on a page;
* `follows_iff`: the pages that are met by going on from a page as long as there is a next one;
* `windows_tile_result`: all of it, for every number of rows and of rows per page.
-/

namespace BoundSql.PageWindow

/-! ## Pages as numbers without bound -/

section
variable {total perPage page : Nat}

theorem pred_mul_add (perPage : Nat) (hpage : 1 ≤ page) :
    (page - 1) * perPage + perPage = page * perPage := by
  rw [← Nat.succ_mul, Nat.succ_eq_add_one, Nat.sub_add_cancel hpage]

/-- A page ends before the last row exactly when it is before the last page. -/
theorem mul_lt_iff_lt_ceilDiv (total page : Nat) (hper : 1 ≤ perPage) :
    page * perPage < total ↔ page < total ⌈/⌉ perPage := by
  rw [← not_le, ← not_le, ceilDiv_le_iff_le_mul hper, Nat.mul_comm]

theorem ceilDiv_pos (hper : 1 ≤ perPage) (htotal : 0 < total) : 1 ≤ total ⌈/⌉ perPage := by
  have h := mul_lt_iff_lt_ceilDiv total 0 hper
  omega

/-- The last row is on the last page. -/
theorem ceilDiv_bounds (hper : 1 ≤ perPage) (htotal : 0 < total) :
    (total ⌈/⌉ perPage - 1) * perPage < total ∧ total ≤ total ⌈/⌉ perPage * perPage := by
  have hpos := ceilDiv_pos hper htotal
  have hstart := mul_lt_iff_lt_ceilDiv total (total ⌈/⌉ perPage - 1) hper
  have hstop := mul_lt_iff_lt_ceilDiv total (total ⌈/⌉ perPage) hper
  omega

/-- A result has no more pages than rows. -/
theorem ceilDiv_le (hper : 1 ≤ perPage) : total ⌈/⌉ perPage ≤ total := by
  rw [ceilDiv_le_iff_le_mul hper]
  exact Nat.le_mul_of_pos_left total hper

/-- A row is on the page with the number of the last page of the result that ends with the row. -/
theorem eq_ceilDiv_iff (row : Nat) (hper : 1 ≤ perPage) (hpage : 1 ≤ page) :
    (page - 1) * perPage < row ∧ row ≤ page * perPage ↔ page = row ⌈/⌉ perPage := by
  have hstart := mul_lt_iff_lt_ceilDiv row (page - 1) hper
  have hstop := mul_lt_iff_lt_ceilDiv row page hper
  omega

end

/-! ## One window -/

/-- The numbers of a window are those of unbounded arithmetic. -/
structure Exact (total perPage page : Nat) (window : PageWindow) : Prop where
  /-- The rows up to the end of the page can be counted. -/
  stop : (page - 1) * perPage + perPage < 2 ^ 64
  offset : window.offset.toNat = (page - 1) * perPage
  lastPage : window.lastPage.toNat = total ⌈/⌉ perPage
  nextPage : window.nextPage.map UInt64.toNat =
    if page * perPage < total then some (page + 1) else none
  previousPage : window.previousPage.map UInt64.toNat =
    if 1 < page then some (page - 1) else none
  first : window.first.toNat = (page - 1) * perPage + 1
  last : window.last.toNat = min (page * perPage) total

section
variable {total perPage page : UInt64}

theorem toNat_ofNat_of_lt {n : Nat} (h : n < 2 ^ 64) : (UInt64.ofNat n).toNat = n := by
  rw [UInt64.toNat_ofNat', Nat.mod_eq_of_lt h]

/-- There is a page after every page before the last one. -/
theorem map_toNat_next {last : UInt64} :
    (if last ≤ page then none else some (page + 1)).map UInt64.toNat =
      if page.toNat < last.toNat then some (page.toNat + 1) else none := by
  by_cases h : page.toNat < last.toNat
  · have hlast := last.toNat_lt
    have hle : ¬ last ≤ page := fun hle => absurd (UInt64.le_iff_toNat_le.1 hle) (Nat.not_le.2 h)
    have hsucc : (page + 1).toNat = page.toNat + 1 := by
      rw [UInt64.toNat_add, UInt64.toNat_one]
      exact Nat.mod_eq_of_lt (by omega)
    rw [if_neg hle, if_pos h, Option.map_some, hsucc]
  · rw [if_pos (UInt64.le_iff_toNat_le.2 (Nat.not_lt.1 h)), if_neg h, Option.map_none]

/-- There is a page before every page but the first one. -/
theorem map_toNat_previous (hpage : 1 ≤ page.toNat) :
    (if page = 1 then none else some (page - 1)).map UInt64.toNat =
      if 1 < page.toNat then some (page.toNat - 1) else none := by
  by_cases h : page = 1
  · rw [if_pos h, h]
    rfl
  · have hne : page.toNat ≠ 1 := fun he => h (UInt64.toNat_inj.1 he)
    have hle : (1 : UInt64) ≤ page := UInt64.le_iff_toNat_le.2 hpage
    rw [if_neg h, if_pos (by omega), Option.map_some, UInt64.toNat_sub_of_le page 1 hle,
      UInt64.toNat_one]

/-- A page that ends beyond the 64-bit numbers is refused. -/
theorem compute_of_not_fits (hpage : 1 ≤ page.toNat)
    (h : 2 ^ 64 ≤ page.toNat * perPage.toNat) :
    compute total perPage page = .error (.invalidArgument (.pageOutOfRange page perPage)) := by
  rw [← pred_mul_add perPage.toNat hpage] at h
  rw [compute, if_pos h]

/-- Every other page has a window, whose numbers are exact. -/
theorem compute_of_fits (total : UInt64) (hper : 1 ≤ perPage.toNat) (hpage : 1 ≤ page.toNat)
    (h : page.toNat * perPage.toNat < 2 ^ 64) :
    ∃ window, compute total perPage page = .ok window ∧
      Exact total.toNat perPage.toNat page.toNat window := by
  have hstop := pred_mul_add perPage.toNat hpage
  have hfits : (page.toNat - 1) * perPage.toNat + perPage.toNat < 2 ^ 64 := hstop ▸ h
  have htotal : total.toNat < 2 ^ 64 := total.toNat_lt
  have hlast : (UInt64.ofNat (total.toNat ⌈/⌉ perPage.toNat)).toNat =
      total.toNat ⌈/⌉ perPage.toNat :=
    toNat_ofNat_of_lt (Nat.lt_of_le_of_lt (ceilDiv_le hper) htotal)
  refine ⟨_, by rw [compute, if_neg (Nat.not_le.2 hfits)], hfits, ?_, hlast, ?_, ?_, ?_, ?_⟩
  · exact toNat_ofNat_of_lt (by omega)
  · rw [if_congr (mul_lt_iff_lt_ceilDiv _ _ hper) rfl rfl, ← hlast]
    exact map_toNat_next
  · exact map_toNat_previous hpage
  · exact toNat_ofNat_of_lt (by omega)
  · rw [← hstop]
    exact toNat_ofNat_of_lt (by omega)

theorem exact_of_compute {window : PageWindow} (hper : 1 ≤ perPage.toNat) (hpage : 1 ≤ page.toNat)
    (h : compute total perPage page = .ok window) :
    Exact total.toNat perPage.toNat page.toNat window := by
  by_cases hfits : page.toNat * perPage.toNat < 2 ^ 64
  · obtain ⟨_, hw, exact⟩ := compute_of_fits total hper hpage hfits
    cases hw.symm.trans h
    exact exact
  · rw [compute_of_not_fits hpage (Nat.not_lt.1 hfits)] at h
    cases h

end

/-! ## All windows of a result -/

/-- A row is on a page. -/
def Shows (total perPage page : UInt64) (row : Nat) : Prop :=
  ∃ window, compute total perPage page = .ok window ∧
    window.first.toNat ≤ row ∧ row ≤ window.last.toNat

/-- The pages that are met from a page on by going to the next page as long as there is one. -/
inductive Follows (total perPage : UInt64) : UInt64 → List UInt64 → Prop where
  | stop {page : UInt64} {window : PageWindow} (h : compute total perPage page = .ok window)
    (hn : window.nextPage = none) : Follows total perPage page [page]
  | next {page next : UInt64} {window : PageWindow} {rest : List UInt64}
    (h : compute total perPage page = .ok window) (hn : window.nextPage = some next)
    (hr : Follows total perPage next rest) : Follows total perPage page (page :: rest)

/-- The pages up to `last` divide the rows of a result among them. -/
structure Tiles (total perPage last : UInt64) : Prop where
  /-- Every page has rows, no more than it may have; they begin where those of the page before it
  end, the first page with the first row and the last page with the last row at its end. -/
  window : ∀ page : UInt64, 1 ≤ page.toNat → page.toNat ≤ last.toNat →
    ∃ window, compute total perPage page = .ok window ∧
      window.first.toNat ≤ window.last.toNat ∧
      window.last.toNat < window.first.toNat + perPage.toNat ∧
      (page = 1 → window.first = 1) ∧ (page = last → window.last = total) ∧
      (page.toNat < last.toNat → ∃ next, compute total perPage (page + 1) = .ok next ∧
        next.first.toNat = window.last.toNat + 1)
  onePage : ∀ row, 1 ≤ row → row ≤ total.toNat →
    ∃! page : UInt64, (1 ≤ page.toNat ∧ page.toNat ≤ last.toNat) ∧ Shows total perPage page row
  noOther : ∀ page : UInt64, ∀ row, 1 ≤ page.toNat → page.toNat ≤ last.toNat →
    Shows total perPage page row → 1 ≤ row ∧ row ≤ total.toNat
  visited : ∀ pages, Follows total perPage 1 pages ↔
    pages.map UInt64.toNat = List.range' 1 last.toNat

section
variable {total perPage page last : UInt64}

theorem shows_iff (hper : 1 ≤ perPage.toNat) (hpage : 1 ≤ page.toNat)
    (h : page.toNat * perPage.toNat < 2 ^ 64) {row : Nat} :
    Shows total perPage page row ↔
      row ≤ total.toNat ∧ 1 ≤ row ∧ page.toNat = row ⌈/⌉ perPage.toNat := by
  obtain ⟨window, hw, exact⟩ := compute_of_fits total hper hpage h
  have hrow := eq_ceilDiv_iff row hper hpage
  have hfirst := exact.first
  have hlast := exact.last
  constructor
  · rintro ⟨_, hw', hs, he⟩
    obtain rfl := Except.ok.inj (hw.symm.trans hw')
    exact ⟨by omega, by omega, hrow.1 (by omega)⟩
  · rintro ⟨hle, -, heq⟩
    have hbounds := hrow.2 heq
    exact ⟨window, hw, by omega, by omega⟩

/-- A result with rows whose last page ends within the 64-bit numbers. -/
structure Paged (total perPage last : UInt64) : Prop where
  perPage_pos : 1 ≤ perPage.toNat
  total_pos : 0 < total.toNat
  toNat_last : last.toNat = total.toNat ⌈/⌉ perPage.toNat
  fits : last.toNat * perPage.toNat < 2 ^ 64

namespace Paged

theorem fits_of_le (h : Paged total perPage last) (hle : page.toNat ≤ last.toNat) :
    page.toNat * perPage.toNat < 2 ^ 64 :=
  Nat.lt_of_le_of_lt (Nat.mul_le_mul_right _ hle) h.fits

theorem last_pos (h : Paged total perPage last) : 1 ≤ last.toNat :=
  h.toNat_last ▸ ceilDiv_pos h.perPage_pos h.total_pos

/-- The next page of a page is the page after it, up to the last one. -/
theorem next_cases (h : Paged total perPage last) (hpage : 1 ≤ page.toNat)
    (hle : page.toNat ≤ last.toNat) :
    ∃ window, compute total perPage page = .ok window ∧
      ((page.toNat < last.toNat ∧
          ∃ next, window.nextPage = some next ∧ next.toNat = page.toNat + 1) ∨
        (page.toNat = last.toNat ∧ window.nextPage = none)) := by
  obtain ⟨window, hw, exact⟩ := compute_of_fits total h.perPage_pos hpage (h.fits_of_le hle)
  have hnext := exact.nextPage
  rw [if_congr (mul_lt_iff_lt_ceilDiv _ _ h.perPage_pos) rfl rfl, ← h.toNat_last] at hnext
  refine ⟨window, hw, ?_⟩
  by_cases hlt : page.toNat < last.toNat
  · rw [if_pos hlt] at hnext
    exact .inl ⟨hlt, Option.map_eq_some_iff.1 hnext⟩
  · rw [if_neg hlt] at hnext
    exact .inr ⟨by omega, Option.map_eq_none_iff.1 hnext⟩

/-- Going on from a page meets every page from it to the last one. -/
theorem follows_iff (h : Paged total perPage last) (page : UInt64) {pages : List UInt64}
    (hpage : 1 ≤ page.toNat) (hle : page.toNat ≤ last.toNat) :
    Follows total perPage page pages ↔
      pages.map UInt64.toNat = List.range' page.toNat (last.toNat - page.toNat + 1) := by
  constructor
  · intro hf
    induction hf with
    | @stop page window hw hn =>
      obtain ⟨_, hw', ⟨-, next, hn', -⟩ | ⟨heq, -⟩⟩ := h.next_cases hpage hle
      · obtain rfl := Except.ok.inj (hw.symm.trans hw')
        rw [hn] at hn'
        cases hn'
      · rw [heq, Nat.sub_self]
        exact congrArg (· :: []) heq
    | @next page next window rest hw hn hr ih =>
      obtain ⟨_, hw', ⟨hlt, next, hn', hsucc⟩ | ⟨-, hn'⟩⟩ := h.next_cases hpage hle
      · obtain rfl := Except.ok.inj (hw.symm.trans hw')
        obtain rfl := Option.some.inj (hn.symm.trans hn')
        have hcount : last.toNat - next.toNat + 1 = last.toNat - page.toNat := by omega
        rw [List.map_cons, ih (by omega) (by omega), hcount, hsucc, ← List.range'_succ]
      · obtain rfl := Except.ok.inj (hw.symm.trans hw')
        rw [hn] at hn'
        cases hn'
  · -- Backwards from the last page.
    intro hpages
    generalize hn : last.toNat - page.toNat = n at hpages
    induction n generalizing page pages with
    | zero =>
      obtain ⟨_, hw, ⟨hlt, -⟩ | ⟨-, hnone⟩⟩ := h.next_cases hpage hle
      · omega
      · obtain ⟨first, rfl, hfirst⟩ := List.map_eq_singleton_iff.1 hpages
        rw [UInt64.toNat_inj.1 hfirst]
        exact .stop hw hnone
    | succ n ih =>
      rw [List.range'_succ] at hpages
      obtain ⟨first, rest, rfl, hfirst, hrest⟩ := List.map_eq_cons_iff.1 hpages
      obtain ⟨_, hw, ⟨hlt, next, hnext, hsucc⟩ | ⟨heq, -⟩⟩ := h.next_cases hpage hle
      · rw [UInt64.toNat_inj.1 hfirst]
        rw [← hsucc] at hrest
        exact .next hw hnext (ih next (by omega) (by omega) (by omega) hrest)
      · omega

/-- The rows of a page, and where they are in the result. -/
theorem window_of_le (h : Paged total perPage last) (page : UInt64) (hpage : 1 ≤ page.toNat)
    (hle : page.toNat ≤ last.toNat) :
    ∃ window, compute total perPage page = .ok window ∧
      window.first.toNat = (page.toNat - 1) * perPage.toNat + 1 ∧
      (page.toNat < last.toNat → window.last.toNat = page.toNat * perPage.toNat) ∧
      (page.toNat = last.toNat → window.last = total) ∧
      window.first.toNat ≤ window.last.toNat ∧
      window.last.toNat < window.first.toNat + perPage.toNat := by
  obtain ⟨window, hw, exact⟩ := compute_of_fits total h.perPage_pos hpage (h.fits_of_le hle)
  have hstart := mul_lt_iff_lt_ceilDiv total.toNat (page.toNat - 1) h.perPage_pos
  have hstop := mul_lt_iff_lt_ceilDiv total.toNat page.toNat h.perPage_pos
  rw [← h.toNat_last] at hstart hstop
  have hlen := pred_mul_add perPage.toNat hpage
  have hper := h.perPage_pos
  have hfirst := exact.first
  have hlast := exact.last
  exact ⟨window, hw, hfirst, fun hlt => by omega, fun heq => UInt64.toNat_inj.1 (by omega),
    by omega, by omega⟩

/-- The pages of a result divide its rows among them. -/
theorem tiles (h : Paged total perPage last) : Tiles total perPage last where
  window page hpage hle := by
    obtain ⟨window, hw, hfirst, hbefore, hend, hrows, hlen⟩ := h.window_of_le page hpage hle
    refine ⟨window, hw, hrows, hlen, ?_, fun heq => hend (congrArg _ heq), fun hlt => ?_⟩
    · rintro rfl
      exact UInt64.toNat_inj.1 (by simpa using hfirst)
    · have hlast := last.toNat_lt
      have hsucc : (page + 1).toNat = page.toNat + 1 := by
        rw [UInt64.toNat_add, UInt64.toNat_one]
        exact Nat.mod_eq_of_lt (by omega)
      obtain ⟨next, hn, hnext, -⟩ := h.window_of_le (page + 1) (by omega) (by omega)
      refine ⟨next, hn, ?_⟩
      rw [hnext, hbefore hlt, hsucc, Nat.add_sub_cancel]
  onePage row hrow hle := by
    have hmono : row ⌈/⌉ perPage.toNat ≤ last.toNat := by
      rw [ceilDiv_le_iff_le_mul h.perPage_pos, Nat.mul_comm, h.toNat_last]
      exact Nat.le_trans hle (ceilDiv_bounds h.perPage_pos h.total_pos).2
    have hpos := ceilDiv_pos h.perPage_pos hrow
    have hpage : (UInt64.ofNat (row ⌈/⌉ perPage.toNat)).toNat = row ⌈/⌉ perPage.toNat :=
      toNat_ofNat_of_lt (Nat.lt_of_le_of_lt hmono last.toNat_lt)
    refine ⟨UInt64.ofNat (row ⌈/⌉ perPage.toNat), ⟨by omega, ?_⟩, ?_⟩
    · exact (shows_iff h.perPage_pos (by omega) (h.fits_of_le (by omega))).2 ⟨hle, hrow, hpage⟩
    · rintro page ⟨⟨hone, hlast⟩, hshows⟩
      obtain ⟨-, -, heq⟩ := (shows_iff h.perPage_pos hone (h.fits_of_le hlast)).1 hshows
      exact UInt64.toNat_inj.1 (heq.trans hpage.symm)
  noOther page row hpage hle hshows := by
    obtain ⟨hrow, hpos, -⟩ := (shows_iff h.perPage_pos hpage (h.fits_of_le hle)).1 hshows
    exact ⟨hpos, hrow⟩
  visited pages := by
    have hpos := h.last_pos
    have hone : 1 ≤ (1 : UInt64).toNat := by decide
    rw [h.follows_iff 1 hone hpos, UInt64.toNat_one, Nat.sub_add_cancel hpos]

end Paged

/-- A page has a window exactly when it ends within the 64-bit numbers, and then all numbers of the
window are those of unbounded arithmetic: there is a next page exactly when rows are left behind the
page, a page before it exactly when it is not the first one, and the last page is the one on which
the rows end. When the last page has a window, the pages up to it divide the rows among them, and
going on from the first page meets just these pages. -/
theorem windows_tile_result {total perPage : UInt64} (hper : 1 ≤ perPage.toNat) :
    (∀ page : UInt64, 1 ≤ page.toNat →
      ((∃ fault, compute total perPage page = .error (.invalidArgument fault)) ↔
        2 ^ 64 - 1 < page.toNat * perPage.toNat) ∧
      (page.toNat * perPage.toNat ≤ 2 ^ 64 - 1 →
        ∃ window, compute total perPage page = .ok window ∧
          Exact total.toNat perPage.toNat page.toNat window ∧
          (0 < total.toNat →
            (window.lastPage.toNat - 1) * perPage.toNat < total.toNat ∧
              total.toNat ≤ window.lastPage.toNat * perPage.toNat) ∧
          (total.toNat = 0 → window.lastPage.toNat = 0))) ∧
    ∃ first, compute total perPage 1 = .ok first ∧
      (0 < total.toNat → first.lastPage.toNat * perPage.toNat ≤ 2 ^ 64 - 1 →
        Tiles total perPage first.lastPage) := by
  constructor
  · intro page hpage
    refine ⟨⟨fun ⟨fault, he⟩ => ?_, fun h => ⟨_, compute_of_not_fits hpage (by omega)⟩⟩,
      fun h => ?_⟩
    · by_contra hfits
      obtain ⟨window, hw, -⟩ := compute_of_fits total hper hpage (by omega)
      rw [hw] at he
      cases he
    · obtain ⟨window, hw, exact⟩ := compute_of_fits total hper hpage (by omega)
      refine ⟨window, hw, exact, fun htotal => ?_, fun htotal => ?_⟩
      · rw [exact.lastPage]
        exact ceilDiv_bounds hper htotal
      · rw [exact.lastPage, htotal, zero_ceilDiv]
  · have hone : (1 : UInt64).toNat * perPage.toNat < 2 ^ 64 := by
      rw [UInt64.toNat_one, Nat.one_mul]
      exact perPage.toNat_lt
    obtain ⟨first, hf, exact⟩ := compute_of_fits total hper (by decide) hone
    exact ⟨first, hf, fun htotal hfits =>
      Paged.tiles ⟨hper, htotal, exact.lastPage, by omega⟩⟩

/-- A full last page that ends with the greatest 64-bit number: two pages, with all rows. -/
theorem windows_tile_result_greatest :
    1 ≤ (0x7fffffffffffffff : UInt64).toNat ∧
    ∃ first, compute 0xfffffffffffffffe 0x7fffffffffffffff 1 = .ok first ∧
      first.lastPage = 2 ∧ Tiles 0xfffffffffffffffe 0x7fffffffffffffff 2 := by
  have hper : 1 ≤ (0x7fffffffffffffff : UInt64).toNat := by decide
  obtain ⟨-, first, hf, tiles⟩ := @windows_tile_result 0xfffffffffffffffe _ hper
  have hlast : first.lastPage = 2 := by
    cases hf
    decide
  exact ⟨hper, first, hf, hlast, hlast ▸ tiles (by decide) (by rw [hlast]; decide)⟩

end

end BoundSql.PageWindow
