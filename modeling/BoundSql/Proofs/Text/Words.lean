import BoundSql.Text.Blank
import BoundSql.Text.Letter
import Mathlib.Data.List.Forall2

/-!
# Words in a text

What it means that a text is written with given words, without reading it: `Spells` puts separators
around words and between any two of them. Reading finds exactly these words (`spells_iff`), so a
text spells one list of words, whatever its gaps are made of.

Words are compared up to the case of ASCII letters (`SameLetters`). Texts are the same in lower case
exactly when they are in upper case.

* `fields_append_gap`, `fields_gap_append`, `fields_word`: the words of a text, piece by piece;
* `fields_map`: a change of characters that keeps the separators keeps the words;
* `spells_iff`: the words of a text are those that it spells;
* `Spells.split`: where a word of a text stands;
* `fields_intercalate`: words with a separator between them are read back.
-/

namespace BoundSql.Text

/-! ## Letters in either case -/

/-- The texts differ at most in the case of ASCII letters. -/
def SameLetters (s t : List Char) : Prop :=
  lowerCase s = lowerCase t

instance : DecidableRel SameLetters := fun s t => decEq (lowerCase s) (lowerCase t)

theorem toNat_toLower (c : Char) :
    c.toLower.toNat = if 65 ≤ c.toNat ∧ c.toNat ≤ 90 then c.toNat + 32 else c.toNat := by
  have hupper : 'A'.val ≤ c.val ∧ c.val ≤ 'Z'.val ↔ 65 ≤ c.toNat ∧ c.toNat ≤ 90 := by
    rw [UInt32.le_iff_toNat_le, UInt32.le_iff_toNat_le]
    exact Iff.rfl
  unfold Char.toLower
  split
  · rename_i h
    have hrange : 65 ≤ c.val.toNat ∧ c.val.toNat ≤ 90 := hupper.1 h
    have hshift : ('a'.val - 'A'.val).toNat = 32 := rfl
    rw [if_pos (hupper.1 h)]
    show (c.val + ('a'.val - 'A'.val)).toNat = c.val.toNat + 32
    rw [UInt32.toNat_add, hshift]
    omega
  · rename_i h
    rw [if_neg (mt hupper.2 h)]

theorem toUpper_toLower (c : Char) : c.toLower.toUpper = c.toUpper := by
  refine Char.toNat_inj.1 ?_
  rw [toNat_toUpper, toNat_toUpper, toNat_toLower]
  split_ifs <;> omega

theorem toLower_toUpper (c : Char) : c.toUpper.toLower = c.toLower := by
  refine Char.toNat_inj.1 ?_
  rw [toNat_toLower, toNat_toLower, toNat_toUpper]
  split_ifs <;> omega

theorem upperCase_lowerCase (s : List Char) : upperCase (lowerCase s) = upperCase s := by
  rw [upperCase, lowerCase, List.map_map]
  exact List.map_congr_left fun c _ => toUpper_toLower c

theorem lowerCase_upperCase (s : List Char) : lowerCase (upperCase s) = lowerCase s := by
  rw [upperCase, lowerCase, List.map_map]
  exact List.map_congr_left fun c _ => toLower_toUpper c

/-- Texts that are the same in lower case are the same in upper case. -/
theorem sameLetters_iff {s t : List Char} : SameLetters s t ↔ upperCase s = upperCase t := by
  constructor
  · intro h
    rw [← upperCase_lowerCase s, show lowerCase s = lowerCase t from h, upperCase_lowerCase]
  · intro h
    rw [SameLetters, ← lowerCase_upperCase s, h, lowerCase_upperCase]

theorem forall₂_sameLetters_iff {ws others : List (List Char)} :
    List.Forall₂ SameLetters ws others ↔ ws.map upperCase = others.map upperCase := by
  have hupper : SameLetters = fun s t => upperCase s = upperCase t :=
    funext fun _ => funext fun _ => propext sameLetters_iff
  calc List.Forall₂ SameLetters ws others
      ↔ List.Forall₂ (· = ·) (ws.map upperCase) (others.map upperCase) := by
        rw [hupper, List.forall₂_map_left_iff, List.forall₂_map_right_iff]
    _ ↔ ws.map upperCase = others.map upperCase := by rw [List.forall₂_eq_eq_eq]

theorem upperCase_intercalate (separator : Char) (ws : List (List Char)) :
    upperCase ([separator].intercalate ws) =
      [separator.toUpper].intercalate (ws.map upperCase) := by
  induction ws with
  | nil => rfl
  | cons w ws ih =>
    cases ws with
    | nil => rw [List.intercalate_singleton, List.map_singleton, List.intercalate_singleton]
    | cons next others =>
      rw [List.intercalate_cons_cons, upperCase_append, upperCase_append, ih,
        List.map_cons (a := w), List.map_cons, List.intercalate_cons_cons]
      rfl

/-! ## Pieces between separators -/

section Fields

variable {separates : Char → Bool} {gap w s rest : List Char}

theorem fields_nil (separates : Char → Bool) : fields separates [] = [] :=
  rfl

theorem fields_cons (h : separates c = true) : fields separates (c :: s) = fields separates s := by
  rw [← List.nil_append (c :: s), fields_append separates _ _ h, fields_nil, List.nil_append]

/-- Separators at the start of a text add no word. -/
theorem fields_gap_append (hgap : ∀ c ∈ gap, separates c = true) (s : List Char) :
    fields separates (gap ++ s) = fields separates s := by
  induction gap with
  | nil => rfl
  | cons c gap ih =>
    rw [List.cons_append, fields_cons (hgap c List.mem_cons_self),
      ih fun d hd => hgap d (List.mem_cons_of_mem _ hd)]

/-- A gap cuts the words of a text in two, of whatever separators it is made. -/
theorem fields_append_gap (s : List Char) (hne : gap ≠ []) (hgap : ∀ c ∈ gap, separates c = true)
    (rest : List Char) :
    fields separates (s ++ gap ++ rest) = fields separates s ++ fields separates rest := by
  cases gap with
  | nil => exact absurd rfl hne
  | cons c gap =>
    rw [List.append_assoc, List.cons_append, fields_append _ _ _ (hgap c List.mem_cons_self),
      fields_gap_append fun d hd => hgap d (List.mem_cons_of_mem _ hd)]

/-- A word ends where the text ends or a separator follows. -/
theorem fields_word (hne : w ≠ []) (hw : ∀ c ∈ w, separates c = false)
    (hrest : EndsRun (fun c => !separates c) rest) :
    fields separates (w ++ rest) = w :: fields separates rest := by
  have hword : fields separates w = [w] := by
    rw [fields, pieces_of_none hw, List.filter_singleton, List.isEmpty_eq_false_iff.2 hne]
    rfl
  cases rest with
  | nil => rw [List.append_nil, hword, fields_nil]
  | cons c rest =>
    have hc : separates c = true := by simpa using endsRun_cons.1 hrest
    rw [fields_append _ _ _ hc, hword, fields_cons hc, List.singleton_append]

/-- A change of characters that keeps the separators keeps the words. -/
theorem fields_map {change : Char → Char} (h : ∀ c, separates (change c) = separates c)
    (s : List Char) :
    fields separates (s.map change) = (fields separates s).map (List.map change) := by
  have hpieces : pieces separates (s.map change) = (pieces separates s).map (List.map change) := by
    induction s with
    | nil => rfl
    | cons c s ih =>
      rw [List.map_cons, pieces, pieces, h, ih]
      cases separates c with
      | true => rfl
      | false => cases pieces separates s <;> rfl
  rw [fields, fields, hpieces, List.filter_map]
  congr 2
  funext piece
  simp

end Fields

/-! ## Texts that spell words -/

/-- The text is made of the given words in order, each without separators and not empty, with
separators before, between and behind them. -/
inductive Spells (separates : Char → Bool) : List (List Char) → List Char → Prop
  /-- Nothing but separators. -/
  | gap {gap : List Char} (hgap : ∀ c ∈ gap, separates c = true) : Spells separates [] gap
  /-- A word behind separators, which the text or a separator ends. -/
  | word {gap w rest : List Char} {ws : List (List Char)} (hgap : ∀ c ∈ gap, separates c = true)
      (hne : w ≠ []) (hw : ∀ c ∈ w, separates c = false)
      (hrest : EndsRun (fun c => !separates c) rest) (spells : Spells separates ws rest) :
      Spells separates (w :: ws) (gap ++ w ++ rest)

namespace Spells

variable {separates : Char → Bool} {ws : List (List Char)} {s : List Char}

theorem fields_eq (h : Spells separates ws s) : fields separates s = ws := by
  induction h with
  | @gap gap hgap => rw [← gap.append_nil, fields_gap_append hgap, fields_nil]
  | word hgap hne hw hrest _ ih =>
    rw [List.append_assoc, fields_gap_append hgap, fields_word hne hw hrest, ih]

/-- A character before a text of words is a separator more, a word of its own, or the first
character of the first word. -/
theorem exists_cons (h : Spells separates ws s) (c : Char) :
    ∃ ws, Spells separates ws (c :: s) := by
  by_cases hc : separates c = true
  · cases h with
    | gap hgap => exact ⟨_, gap (List.forall_mem_cons.2 ⟨hc, hgap⟩)⟩
    | word hgap hne hw hrest spells =>
      exact ⟨_, @word _ (c :: _) _ _ _ (List.forall_mem_cons.2 ⟨hc, hgap⟩) hne hw hrest spells⟩
  · have hc : separates c = false := Bool.eq_false_iff.2 hc
    by_cases hs : EndsRun (fun c => !separates c) s
    · exact ⟨_, @word _ [] [c] _ _ nofun (List.cons_ne_nil _ _)
        (List.forall_mem_singleton.2 hc) hs h⟩
    · cases h with
      | @gap gap hgap =>
        refine absurd ?_ hs
        intro d hd
        simp [hgap d (List.mem_of_mem_head? hd)]
      | @word gap w rest ws hgap hne hw hrest spells =>
        cases gap with
        | nil =>
          exact ⟨_, @word _ [] (c :: w) _ _ nofun (List.cons_ne_nil _ _)
            (List.forall_mem_cons.2 ⟨hc, hw⟩) hrest spells⟩
        | cons d gap =>
          refine absurd ?_ hs
          rw [List.cons_append, List.cons_append, endsRun_cons]
          simp [hgap d List.mem_cons_self]

end Spells

/-- The words that are found between separators are the words that a text spells. -/
theorem spells_iff {separates : Char → Bool} {ws : List (List Char)} {s : List Char} :
    Spells separates ws s ↔ fields separates s = ws := by
  refine ⟨Spells.fields_eq, ?_⟩
  rintro rfl
  have hexists : ∃ ws, Spells separates ws s := by
    induction s with
    | nil => exact ⟨[], .gap nofun⟩
    | cons c s ih =>
      obtain ⟨ws, h⟩ := ih
      exact h.exists_cons c
  obtain ⟨ws, h⟩ := hexists
  rwa [h.fields_eq]

namespace Spells

variable {separates : Char → Bool} {ws others : List (List Char)} {w s : List Char}

theorem of_mem (h : Spells separates ws s) (hw : w ∈ ws) :
    w ≠ [] ∧ ∀ c ∈ w, separates c = false := by
  induction h with
  | gap => cases hw
  | word _ hne hfirst _ _ ih =>
    obtain rfl | hw := List.mem_cons.1 hw
    · exact ⟨hne, hfirst⟩
    · exact ih hw

theorem exists_mem (h : Spells separates ws s) (hsome : ws ≠ []) :
    ∃ c ∈ s, separates c = false := by
  cases h with
  | gap => exact absurd rfl hsome
  | word _ hne hw _ _ =>
    obtain ⟨c, w, rfl⟩ := List.exists_cons_of_ne_nil hne
    exact ⟨c, by simp, hw c List.mem_cons_self⟩

/-- Where a word of a text stands: the words around it are those of the text before it and of the
text behind it, and a separator or the end of the text is next to it on either side. -/
theorem split (h : Spells separates (ws ++ w :: others) s) :
    ∃ before after, s = before ++ w ++ after ∧ Spells separates ws before ∧
      Spells separates others after ∧ EndsRun (fun c => !separates c) before.reverse ∧
      EndsRun (fun c => !separates c) after := by
  induction ws generalizing s with
  | nil =>
    obtain _ | @⟨gap, _, rest, _, hgap, hne, hw, hrest, spells⟩ := h
    refine ⟨gap, rest, rfl, .gap hgap, spells, fun c hc => ?_, hrest⟩
    simp [hgap c (List.mem_reverse.1 (List.mem_of_mem_head? hc))]
  | cons v ws ih =>
    obtain _ | @⟨gap, _, rest, _, hgap, hne, hv, hrest, spells⟩ := h
    obtain ⟨before, after, rfl, hbefore, hafter, hleft, hright⟩ := ih spells
    -- Something stands between the two words, since a separator ends the first.
    obtain ⟨d, before, rfl⟩ : ∃ d rest, before = d :: rest := by
      refine List.exists_cons_of_ne_nil ?_
      rintro rfl
      obtain ⟨hne, hw⟩ := spells.of_mem (List.mem_append_right ws List.mem_cons_self)
      obtain ⟨c, w, rfl⟩ := List.exists_cons_of_ne_nil hne
      have hc := endsRun_cons.1 hrest
      rw [hw c List.mem_cons_self] at hc
      cases hc
    refine ⟨gap ++ v ++ d :: before, after, by simp, ?_, hafter, ?_, hright⟩
    · exact .word hgap hne hv (endsRun_cons.2 (endsRun_cons.1 hrest)) hbefore
    · rw [EndsRun, List.reverse_append, List.head?_append_of_ne_nil _ (by simp)]
      exact hleft

end Spells

/-- Words with one separator between them are read back. -/
theorem fields_intercalate {separates : Char → Bool} {separator : Char}
    (hseparator : separates separator = true) {ws : List (List Char)}
    (h : ∀ w ∈ ws, w ≠ [] ∧ ∀ c ∈ w, separates c = false) :
    fields separates ([separator].intercalate ws) = ws := by
  by_cases hsome : ws = []
  · rw [hsome]
    rfl
  · rw [fields, pieces_intercalate hseparator hsome fun w hw => (h w hw).2, List.filter_eq_self]
    intro w hw
    rw [List.isEmpty_eq_false_iff.2 (h w hw).1]
    rfl

end BoundSql.Text
