import BoundSql.Proofs.Text.Words

/-!
# The layout of a text

Two texts that differ only in the blanks of their gaps, in the blanks before them and in the case of
ASCII letters (`Relaid`). The words of a text, in one case, are the same in every layout, between
any separators of which the blanks are some. So is whether a word stands inside the text between
blanks (`SetOff`); between which blanks it stands is not.

* `Relaid.fields_append`: the words of a text in another layout, whatever follows the text;
* `setOff_isBlank_iff`: a word between blanks is a word that is neither the first nor the last;
* `Relaid.setOff_iff`: so it stands between blanks in every layout;
* `SetOff.exists_relaid`, `relaid_append_spaceless`: a layout that puts given blanks around it, and
  one without any plain space.
-/

namespace BoundSql.Text

/-- The texts differ in their layout only. -/
inductive Relaid : List Char → List Char → Prop
  /-- Blanks in the place of blanks. -/
  | gap (before after : List Char) {gap other : List Char} (hne : gap ≠ [])
      (hgap : ∀ c ∈ gap, isBlank c = true) (hne' : other ≠ [])
      (hother : ∀ c ∈ other, isBlank c = true) :
      Relaid (before ++ gap ++ after) (before ++ other ++ after)
  /-- No blanks at the start in the place of some. -/
  | start {gap : List Char} (hgap : ∀ c ∈ gap, isBlank c = true) (s : List Char) :
      Relaid (gap ++ s) s
  /-- Letters in another case. -/
  | letters {s t : List Char} (h : SameLetters s t) : Relaid s t
  | symm {s t : List Char} (h : Relaid s t) : Relaid t s
  | trans {s t u : List Char} (h : Relaid s t) (h' : Relaid t u) : Relaid s u

/-- The word stands in the text in any case, between two characters of a class, behind some
character that is no blank. -/
def SetOff (gap : Char → Bool) (word s : List Char) : Prop :=
  ∃ before left w right after, s = before ++ left :: w ++ right :: after ∧ gap left = true ∧
    gap right = true ∧ SameLetters w word ∧ ∃ c ∈ before, isBlank c = false

/-! ## Words in every layout -/

theorem Relaid.refl (s : List Char) : Relaid s s :=
  .letters rfl

/-- The words of two layouts of a text are the same in upper case, also when more text follows. -/
theorem Relaid.fields_append {separates : Char → Bool}
    (hblank : ∀ c, isBlank c = true → separates c = true)
    (hcase : ∀ c : Char, separates c.toUpper = separates c) {s t : List Char} (h : Relaid s t)
    (rest : List Char) :
    (fields separates (s ++ rest)).map upperCase =
      (fields separates (t ++ rest)).map upperCase := by
  induction h with
  | gap before after hne hgap hne' hother =>
    rw [List.append_assoc _ after, List.append_assoc _ after,
      fields_append_gap _ hne fun c hc => hblank c (hgap c hc),
      fields_append_gap _ hne' fun c hc => hblank c (hother c hc)]
  | start hgap s => rw [List.append_assoc, fields_gap_append fun c hc => hblank c (hgap c hc)]
  | @letters s t h =>
    have hupper (s : List Char) :
        (fields separates s).map upperCase = fields separates (upperCase s) :=
      (fields_map hcase s).symm
    rw [hupper, hupper, upperCase_append, upperCase_append, sameLetters_iff.1 h]
  | symm _ ih => exact ih.symm
  | trans _ _ ih ih' => exact ih.trans ih'

theorem fields_eq_nil_iff {separates : Char → Bool} {s : List Char} :
    fields separates s = [] ↔ ∀ c ∈ s, separates c = true := by
  constructor
  · intro h
    cases spells_iff.2 h with
    | gap hgap => exact hgap
  · intro h
    exact (Spells.gap h).fields_eq

/-! ## Words between blanks -/

section Word

variable {word w s : List Char}

/-- A word in another case is a word. -/
theorem SameLetters.isWord (h : SameLetters w word) (hne : word ≠ [])
    (hword : ∀ c ∈ word, isBlank c = false) : w ≠ [] ∧ ∀ c ∈ w, isBlank c = false := by
  have hupper := sameLetters_iff.1 h
  constructor
  · rintro rfl
    exact hne (List.map_eq_nil_iff.1 hupper.symm)
  · intro c hc
    have hmem : c.toUpper ∈ upperCase word := hupper ▸ List.mem_map_of_mem hc
    obtain ⟨d, hd, hsame⟩ := List.mem_map.1 hmem
    rw [← isBlank_toUpper c, ← hsame, isBlank_toUpper, hword d hd]

/-- A word between blanks is one of the words of the text, neither the first nor the last. The dot
that is put behind the text tells blanks at its end from none. -/
theorem setOff_isBlank_iff (hne : word ≠ []) (hword : ∀ c ∈ word, isBlank c = false) :
    SetOff isBlank word s ↔
      ∃ vs others, (words (s ++ ['.'])).map upperCase = vs ++ upperCase word :: others ∧ vs ≠ [] ∧
        others ≠ [] := by
  constructor
  · rintro ⟨before, left, w, right, after, rfl, hleft, hright, hw, c, hc, hblank⟩
    obtain ⟨hwne, hwblank⟩ := hw.isWord hne hword
    have hsplit : before ++ left :: w ++ right :: after ++ ['.'] =
        before ++ [left] ++ (w ++ right :: (after ++ ['.'])) := by simp
    have hwords : words (before ++ left :: w ++ right :: after ++ ['.']) =
        words before ++ w :: words (after ++ ['.']) := by
      rw [hsplit, words,
        fields_append_gap _ (List.cons_ne_nil _ _) (List.forall_mem_singleton.2 hleft),
        fields_word hwne hwblank (endsRun_cons.2 (by simp [hright])), fields_cons hright]
      rfl
    refine ⟨(words before).map upperCase, (words (after ++ ['.'])).map upperCase, ?_, ?_, ?_⟩
    · rw [hwords, List.map_append, List.map_cons, sameLetters_iff.1 hw]
    · intro hnil
      have hall := fields_eq_nil_iff.1 (List.map_eq_nil_iff.1 hnil) c hc
      exact absurd hall (Bool.eq_false_iff.1 hblank)
    · intro hnil
      have hall := fields_eq_nil_iff.1 (List.map_eq_nil_iff.1 hnil) '.' (by simp)
      exact absurd hall (by decide)
  · rintro ⟨_, _, hwords, hvs, hothers⟩
    obtain ⟨vs, rest, hfound, rfl, hrest⟩ := List.map_eq_append_iff.1 hwords
    obtain ⟨w, others, rfl, hw, rfl⟩ := List.map_eq_cons_iff.1 hrest
    obtain ⟨before, after, htext, hbefore, hafter, hbegins, hends⟩ := (spells_iff.2 hfound).split
    obtain ⟨c, hc, hblank⟩ := hbefore.exists_mem fun hnil => hvs (List.map_eq_nil_iff.2 hnil)
    obtain ⟨d, hd, -⟩ := hafter.exists_mem fun hnil => hothers (List.map_eq_nil_iff.2 hnil)
    obtain ⟨right, after, rfl⟩ := List.exists_cons_of_ne_nil (List.ne_nil_of_mem hd)
    have hright : isBlank right = true := by simpa using endsRun_cons.1 hends
    obtain rfl | ⟨before, left, rfl⟩ := List.eq_nil_or_concat before
    · cases hc
    have hleft : isBlank left = true := by simpa [EndsRun] using hbegins
    have hbefore : ∃ c ∈ before, isBlank c = false := by
      obtain hc | hc := List.mem_append.1 (List.concat_eq_append ▸ hc)
      · exact ⟨c, hc, hblank⟩
      · rw [List.mem_singleton.1 hc, hleft] at hblank
        cases hblank
    obtain rfl | ⟨after, last, rfl⟩ := List.eq_nil_or_concat after
    · have hdot := (List.append_inj' htext rfl).2
      rw [← (List.cons.inj hdot).1] at hright
      cases hright
    · have hlast : s ++ ['.'] = before ++ left :: w ++ right :: after ++ [last] := by
        simpa using htext
      exact ⟨before, left, w, right, after, (List.append_inj' hlast rfl).1, hleft, hright,
        sameLetters_iff.2 hw, hbefore⟩

end Word

/-- A word between blanks stands between blanks in every layout. -/
theorem Relaid.setOff_iff {s t word : List Char} (h : Relaid s t) (hne : word ≠ [])
    (hword : ∀ c ∈ word, isBlank c = false) :
    SetOff isBlank word s ↔ SetOff isBlank word t := by
  have hwords : (words (s ++ ['.'])).map upperCase = (words (t ++ ['.'])).map upperCase :=
    h.fields_append (fun _ => id) isBlank_toUpper ['.']
  rw [setOff_isBlank_iff hne hword, setOff_isBlank_iff hne hword, hwords]

/-! ## Two layouts -/

/-- A word between blanks can be put between other ones. -/
theorem SetOff.exists_relaid {word s : List Char} (h : SetOff isBlank word s) (gap : Char → Bool)
    {blank : Char} (hgap : gap blank = true) (hblank : isBlank blank = true) :
    ∃ t, Relaid s t ∧ SetOff gap word t := by
  obtain ⟨before, left, w, right, after, rfl, hleft, hright, hw, hbefore⟩ := h
  have hone {c : Char} (hc : isBlank c = true) : ∀ d ∈ [c], isBlank d = true :=
    List.forall_mem_singleton.2 hc
  have hfirst : Relaid (before ++ [left] ++ (w ++ right :: after))
      (before ++ [blank] ++ (w ++ right :: after)) :=
    .gap _ _ (List.cons_ne_nil _ _) (hone hleft) (List.cons_ne_nil _ _) (hone hblank)
  have hsecond : Relaid (before ++ blank :: w ++ [right] ++ after)
      (before ++ blank :: w ++ [blank] ++ after) :=
    .gap _ _ (List.cons_ne_nil _ _) (hone hright) (List.cons_ne_nil _ _) (hone hblank)
  refine ⟨before ++ blank :: w ++ blank :: after, ?_, before, blank, w, blank, after, rfl, hgap,
    hgap, hw, hbefore⟩
  simpa using hfirst.trans (by simpa using hsecond)

/-- The text with a line end in the place of every blank. -/
def spaceless (s : List Char) : List Char :=
  s.map fun c => if isBlank c then '\n' else c

/-- By induction on the text, with its beginning in its new layout already. -/
theorem relaid_append_spaceless (before s : List Char) :
    Relaid (before ++ s) (before ++ spaceless s) := by
  induction s generalizing before with
  | nil => exact .refl _
  | cons c s ih =>
    rw [spaceless, List.map_cons, ← spaceless]
    split
    · rename_i hc
      have hgap : Relaid (before ++ [c] ++ s) (before ++ ['\n'] ++ s) :=
        .gap _ _ (List.cons_ne_nil _ _) (List.forall_mem_singleton.2 hc) (List.cons_ne_nil _ _)
          (List.forall_mem_singleton.2 (by decide))
      simpa using hgap.trans (ih (before ++ ['\n']))
    · simpa using ih (before ++ [c])

theorem space_not_mem_spaceless (s : List Char) : ' ' ∉ spaceless s := by
  intro hmem
  obtain ⟨c, -, hc⟩ := List.mem_map.1 hmem
  split at hc
  · cases hc
  · rename_i hblank
    exact hblank (hc ▸ by decide)

end BoundSql.Text
