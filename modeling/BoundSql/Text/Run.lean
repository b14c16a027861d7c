/-!
# Runs of characters

The longest run of characters of a class at the start of a text, as it is cut off by `takeWhile` and
`dropWhile`: digits, the characters of a name, a line.

* `takeWhile_run`, `dropWhile_run`: a run ends where a text follows that does not go on with it.
-/

namespace BoundSql.Text

/-- A text that does not begin with a character of a class. -/
def EndsRun (p : Char → Bool) (after : List Char) : Prop :=
  ∀ c ∈ after.head?, p c = false

theorem endsRun_nil (p : Char → Bool) : EndsRun p [] :=
  nofun

theorem endsRun_cons {p : Char → Bool} {c : Char} {rest : List Char} :
    EndsRun p (c :: rest) ↔ p c = false := by
  simp [EndsRun]

theorem takeWhile_run {p : Char → Bool} {s after : List Char} (hs : ∀ c ∈ s, p c = true)
    (ha : EndsRun p after) : (s ++ after).takeWhile p = s := by
  rw [List.takeWhile_append_of_pos hs]
  cases after with
  | nil => rw [List.takeWhile_nil, List.append_nil]
  | cons c rest =>
    rw [List.takeWhile_cons, endsRun_cons.1 ha, if_neg Bool.false_ne_true, List.append_nil]

theorem dropWhile_run {p : Char → Bool} {s after : List Char} (hs : ∀ c ∈ s, p c = true)
    (ha : EndsRun p after) : (s ++ after).dropWhile p = after := by
  rw [List.dropWhile_append_of_pos hs]
  cases after with
  | nil => rfl
  | cons c rest => rw [List.dropWhile_cons, endsRun_cons.1 ha, if_neg Bool.false_ne_true]

theorem of_mem_takeWhile {p : Char → Bool} {s : List Char} {c : Char} (h : c ∈ s.takeWhile p) :
    p c = true :=
  List.all_eq_true.1 List.all_takeWhile c h

theorem mem_dropWhile {p : Char → Bool} {s : List Char} {c : Char} (h : c ∈ s) (hp : p c = false) :
    c ∈ s.dropWhile p := by
  rw [← List.takeWhile_append_dropWhile (p := p) (l := s), List.mem_append] at h
  exact h.resolve_left fun ht => Bool.false_ne_true (hp.symm.trans (of_mem_takeWhile ht))

theorem endsRun_dropWhile (p : Char → Bool) (s : List Char) : EndsRun p (s.dropWhile p) := by
  induction s with
  | nil => exact endsRun_nil p
  | cons c rest ih =>
    rw [List.dropWhile_cons]
    by_cases hc : p c = true
    · rwa [if_pos hc]
    · rw [if_neg hc, endsRun_cons]
      exact Bool.not_eq_true _ ▸ hc

end BoundSql.Text
