import BoundSql.Text.Letter
import BoundSql.Text.Run

/-!
# White space

`isBlank` is the Unicode property White_Space. On it stand trimming, the pieces of a text between
separators (`pieces`), and the words of a text (`words`), which are its non-empty pieces between
blanks. `isAsciiBlank` is the property for those who know ASCII only.

* `pieces_ne_nil`: a text has at least one piece;
* `pieces_intercalate`: texts with a separator between them are found as pieces;
* `fields_append`: a separator cuts the pieces of a text in two;
* `mem_trim`: trimming takes away blanks only;
* `isBlank_toUpper`: no change to upper case makes or removes a blank.
-/

namespace BoundSql.Text

/-- The characters with the Unicode property White_Space. -/
def isBlank (c : Char) : Bool :=
  let n := c.toNat
  (9 ≤ n && n ≤ 13) || n == 0x20 || n == 0x85 || n == 0xA0 || n == 0x1680 ||
    (0x2000 ≤ n && n ≤ 0x200A) || n == 0x2028 || n == 0x2029 || n == 0x202F || n == 0x205F ||
    n == 0x3000

theorem isBlank_toUpper (c : Char) : isBlank c.toUpper = isBlank c := by
  rw [Bool.eq_iff_iff]
  simp only [isBlank, toNat_toUpper, Bool.or_eq_true, Bool.and_eq_true, decide_eq_true_eq,
    beq_iff_eq]
  split <;> omega

/-- The blanks among the ASCII characters. -/
def isAsciiBlank (c : Char) : Bool :=
  let n := c.toNat
  (9 ≤ n && n ≤ 13) || n == 0x20

/-- A text without its leading blanks. -/
def trimStart (s : List Char) : List Char :=
  s.dropWhile isBlank

/-- A text without its trailing blanks. -/
def trimEnd (s : List Char) : List Char :=
  (s.reverse.dropWhile isBlank).reverse

/-- A text without its blanks at either end. -/
def trim (s : List Char) : List Char :=
  trimEnd (trimStart s)

theorem mem_trim {s : List Char} {c : Char} (h : c ∈ s) (hc : isBlank c = false) : c ∈ trim s := by
  have hs : c ∈ trimStart s := mem_dropWhile h hc
  exact List.mem_reverse.2 (mem_dropWhile (List.mem_reverse.2 hs) hc)

/-- A text without its ASCII blanks at either end. -/
def trimAscii (s : List Char) : List Char :=
  ((s.dropWhile isAsciiBlank).reverse.dropWhile isAsciiBlank).reverse

/-- The stretches of a text between the characters that satisfy `separates`, empty ones
included. -/
def pieces (separates : Char → Bool) : List Char → List (List Char)
  | [] => [[]]
  | c :: rest =>
    if separates c then [] :: pieces separates rest
    else
      match pieces separates rest with
      | [] => [[c]]
      | piece :: others => (c :: piece) :: others

/-- The non-empty pieces of a text between separators. -/
def fields (separates : Char → Bool) (s : List Char) : List (List Char) :=
  (pieces separates s).filter (!·.isEmpty)

/-- The maximal stretches of a text that hold no blank. -/
def words (s : List Char) : List (List Char) :=
  fields isBlank s

theorem pieces_ne_nil (separates : Char → Bool) (s : List Char) : pieces separates s ≠ [] := by
  cases s with
  | nil => simp [pieces]
  | cons c rest =>
    simp only [pieces]
    split
    · simp
    · split <;> simp

theorem pieces_append (separates : Char → Bool) (s t : List Char) {c : Char}
    (h : separates c = true) :
    pieces separates (s ++ c :: t) = pieces separates s ++ pieces separates t := by
  induction s with
  | nil => simp [pieces, h]
  | cons d rest ih =>
    simp only [List.cons_append, pieces, ih]
    split
    · rfl
    · cases hp : pieces separates rest with
      | nil => exact absurd hp (pieces_ne_nil _ _)
      | cons piece others => rfl

/-- A text without separators is one piece. -/
theorem pieces_of_none {separates : Char → Bool} {s : List Char}
    (h : ∀ c ∈ s, separates c = false) : pieces separates s = [s] := by
  induction s with
  | nil => rfl
  | cons c s ih =>
    rw [pieces, h c List.mem_cons_self, ih fun d hd => h d (List.mem_cons_of_mem _ hd)]
    rfl

/-- Texts with a separator between them are the pieces of what they make up. -/
theorem pieces_intercalate {separates : Char → Bool} {separator : Char}
    (hseparator : separates separator = true) {texts : List (List Char)} (hne : texts ≠ [])
    (h : ∀ text ∈ texts, ∀ c ∈ text, separates c = false) :
    pieces separates ([separator].intercalate texts) = texts := by
  induction texts with
  | nil => exact absurd rfl hne
  | cons text rest ih =>
    have hfirst : pieces separates text = [text] := pieces_of_none (h text List.mem_cons_self)
    cases rest with
    | nil => rw [List.intercalate_singleton, hfirst]
    | cons next others =>
      rw [List.intercalate_cons_cons, List.append_assoc, List.singleton_append,
        pieces_append _ _ _ hseparator, hfirst,
        ih (List.cons_ne_nil _ _) fun t ht => h t (List.mem_cons_of_mem _ ht),
        List.singleton_append]

theorem fields_append (separates : Char → Bool) (s t : List Char) {c : Char}
    (h : separates c = true) :
    fields separates (s ++ c :: t) = fields separates s ++ fields separates t := by
  simp [fields, pieces_append _ _ _ h]

end BoundSql.Text
