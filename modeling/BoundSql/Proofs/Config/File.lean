import BoundSql.Proofs.Config.Url

/-!
# The URL of a file

The URL of an SQLite entry is the name of the file as it is, with the options behind it as an
encoded query. The query holds no `?` but the one before it, so a URL tells where its query begins
as long as the name has no `?` of its own. A name that ends like a query is taken for a name with
options.

* `Text.append_marked_eq_iff`: texts with an optional part behind a mark, when they agree;
* `Entry.IsFile.toList_dsn`: the URL of a file;
* `sqlite_dsn_eq_iff`: the entries that have one URL.
-/

namespace BoundSql

open Text

/-! ## An optional part behind a mark -/

namespace Text

variable {mark : Char} {s t : List Char}

/-- The last mark of a text is where its last part begins. -/
theorem append_mark_inj {after last : List Char} (ha : mark ∉ after) (hl : mark ∉ last)
    (h : s ++ mark :: after = t ++ mark :: last) : s = t ∧ after = last := by
  induction s generalizing t with
  | nil =>
    cases t with
    | nil => exact ⟨rfl, (List.cons.inj h).2⟩
    | cons c t =>
      rw [List.nil_append, List.cons_append] at h
      exact absurd ((List.cons.inj h).2 ▸ List.mem_append_right _ List.mem_cons_self) ha
  | cons d s ih =>
    cases t with
    | nil =>
      rw [List.nil_append, List.cons_append] at h
      exact absurd ((List.cons.inj h).2 ▸ List.mem_append_right _ List.mem_cons_self) hl
    | cons c t =>
      rw [List.cons_append, List.cons_append] at h
      obtain ⟨rfl, htail⟩ := List.cons.inj h
      obtain ⟨rfl, rfl⟩ := ih htail
      exact ⟨rfl, rfl⟩

/-- Two texts with an optional part behind a mark are the same when their parts are, or when one of
them is without the part and ends like the part of the other one. -/
theorem append_marked_eq_iff {after last : Option (List Char)} (ha : ∀ a ∈ after, mark ∉ a)
    (hl : ∀ a ∈ last, mark ∉ a) :
    s ++ marked mark after = t ++ marked mark last ↔
      s = t ∧ after = last ∨
      after = none ∧ last ≠ none ∧ s = t ++ marked mark last ∨
      last = none ∧ after ≠ none ∧ t = s ++ marked mark after := by
  cases after with
  | none =>
    cases last with
    | none => simp [marked]
    | some last => simp [marked]
  | some after =>
    cases last with
    | none => simp [marked, eq_comm]
    | some last =>
      have hinj : s ++ mark :: after = t ++ mark :: last ↔ s = t ∧ after = last :=
        ⟨append_mark_inj (ha _ rfl) (hl _ rfl), fun h => by rw [h.1, h.2]⟩
      simpa [marked] using hinj

theorem not_mem_intercalate {separator : Char} {texts : List (List Char)} (hs : mark ≠ separator)
    (h : ∀ text ∈ texts, mark ∉ text) : mark ∉ [separator].intercalate texts := by
  induction texts with
  | nil => exact List.not_mem_nil
  | cons text rest ih =>
    have hfirst := h text List.mem_cons_self
    have hrest := ih fun t ht => h t (List.mem_cons_of_mem _ ht)
    cases rest with
    | nil => rwa [List.intercalate_singleton]
    | cons next others =>
      rw [List.intercalate_cons_cons, List.append_assoc, List.singleton_append, List.mem_append,
        List.mem_cons, not_or, not_or]
      exact ⟨hfirst, hs, hrest⟩

end Text

/-! ## The query -/

theorem parametersText?_injective {parameters others : List (String × String)}
    (h : parametersText? parameters = parametersText? others) : parameters = others := by
  have hread := readParameters?_parametersText? parameters
  rw [h, readParameters?_parametersText?] at hread
  exact (Option.some.inj hread).symm

theorem not_mem_parametersText? (parameters : List (String × String)) :
    ∀ text ∈ parametersText? parameters, '?' ∉ text := by
  intro text htext
  rw [parametersText?] at htext
  split at htext
  · cases htext
  · cases htext
    refine not_mem_intercalate (by decide) fun pair hpair => ?_
    obtain ⟨p, -, rfl⟩ := List.mem_map.1 hpair
    exact not_mem_parameterText rfl (by decide) p

theorem parametersText?_eq_none_iff {parameters : List (String × String)} :
    parametersText? parameters = none ↔ parameters = [] := by
  rw [parametersText?]
  split <;> simp_all

/-! ## The URL -/

namespace Entry

/-- An entry of an SQLite database with a name. -/
structure IsFile (entry : Entry) : Prop where
  engine : entry.backend = .ok .sqlite
  name : entry.name ≠ ""

/-- The name of an entry is the name of another one with the options of that one behind it. -/
structure NamesOptionsOf (entry other : Entry) : Prop where
  plain : entry.options.entries = []
  options : other.options.entries ≠ []
  file : other.name ≠ ":memory:"
  name : entry.name = other.name ++ query other.options.entries

/-- The text of a name in the URL of a file. -/
def fileText (name : String) : List Char :=
  if name = ":memory:" then ":memory:".toList else '/' :: '/' :: name.toList

theorem fileText_injective {name other : String} (h : fileText name = fileText other) :
    name = other := by
  rw [fileText, fileText] at h
  split at h <;> split at h
  · rename_i hn ho
    rw [hn, ho]
  · exact absurd (List.cons.inj h).1 (by decide)
  · exact absurd (List.cons.inj h).1 (by decide)
  · exact String.toList_inj.1 (List.cons.inj (List.cons.inj h).2).2

theorem IsFile.toList_location {entry : Entry} (h : entry.IsFile) :
    ∃ text, entry.location .sqlite = .ok text ∧
      text.toList = "sqlite:".toList ++ fileText entry.name := by
  have hname : ¬ entry.name.isEmpty := fun hempty => h.name (String.isEmpty_iff.1 hempty)
  rw [location, if_neg hname, fileText]
  split
  · exact ⟨_, rfl, rfl⟩
  · exact ⟨_, rfl, String.toList_append⟩

/-- The URL of a file. -/
theorem IsFile.toList_dsn {entry : Entry} (h : entry.IsFile) :
    ∃ dsn, entry.dsn = .ok dsn ∧
      dsn.toList = "sqlite:".toList ++
        (fileText entry.name ++ marked '?' (parametersText? entry.options.entries)) := by
  obtain ⟨text, hlocation, htext⟩ := h.toList_location
  refine ⟨_, dsn_of_location h.engine hlocation, ?_⟩
  rw [String.toList_append, htext, toList_query, List.append_assoc]
  rfl

theorem mem_query {parameters : List (String × String)} (h : parameters ≠ []) :
    '?' ∈ (query parameters).toList := by
  rw [toList_query, parametersText?, if_neg (by simpa using h)]
  exact List.mem_cons_self

/-- The name of a file reads like another name with a query behind it exactly when it is one. -/
theorem fileText_eq_append_iff {name other : String} {parameters : List (String × String)}
    (h : parameters ≠ []) :
    fileText name = fileText other ++ marked '?' (parametersText? parameters) ↔
      other ≠ ":memory:" ∧ name = other ++ query parameters := by
  have hmark := mem_query h
  rw [← toList_query]
  constructor
  · intro heq
    have hname : name ≠ ":memory:" := by
      rintro rfl
      have hmem : '?' ∈ fileText ":memory:" := heq ▸ List.mem_append_right _ hmark
      exact absurd hmem (by decide)
    rw [fileText, if_neg hname, fileText] at heq
    split at heq
    · exact absurd (List.cons.inj heq).1 (by decide)
    · rename_i hother
      refine ⟨hother, String.toList_inj.1 ?_⟩
      rw [String.toList_append]
      exact (List.cons.inj (List.cons.inj heq).2).2
  · rintro ⟨hother, rfl⟩
    have hname : other ++ query parameters ≠ ":memory:" := by
      intro heq
      have hmem : '?' ∈ (":memory:" : String).toList := by
        rw [← heq, String.toList_append]
        exact List.mem_append_right _ hmark
      exact absurd hmem (by decide)
    rw [fileText, if_neg hname, fileText, if_neg hother, String.toList_append]
    rfl

namespace NamesOptionsOf

variable {entry other : Entry}

theorem mem_name (h : entry.NamesOptionsOf other) : '?' ∈ entry.name.toList := by
  rw [h.name, String.toList_append]
  exact List.mem_append_right _ (mem_query h.options)

/-- The name of an entry has the options of another one behind it, by the texts in the URLs. -/
theorem iff_fileText :
    entry.NamesOptionsOf other ↔
      parametersText? entry.options.entries = none ∧ parametersText? other.options.entries ≠ none ∧
        fileText entry.name =
          fileText other.name ++ marked '?' (parametersText? other.options.entries) := by
  rw [parametersText?_eq_none_iff, Ne, parametersText?_eq_none_iff]
  constructor
  · intro h
    exact ⟨h.plain, h.options, (fileText_eq_append_iff h.options).2 ⟨h.file, h.name⟩⟩
  · rintro ⟨hplain, hoptions, hname⟩
    obtain ⟨hfile, hname⟩ := (fileText_eq_append_iff hoptions).1 hname
    exact ⟨hplain, hoptions, hfile, hname⟩

end NamesOptionsOf

end Entry

open Entry

/-- SQLite entries with names have URLs. Two of them have the same URL exactly when they agree in
the name and in the options, or one has no options and a name that is the name of the other one with
its options behind it. So entries whose names hold no `?` are told apart by their URLs. -/
theorem sqlite_dsn_eq_iff {entry other : Entry} (h : entry.IsFile) (h' : other.IsFile) :
    ∃ dsn dsn', entry.dsn = .ok dsn ∧ other.dsn = .ok dsn' ∧
      (dsn = dsn' ↔
        entry.name = other.name ∧ entry.options.entries = other.options.entries ∨
        entry.NamesOptionsOf other ∨ other.NamesOptionsOf entry) ∧
      ('?' ∉ entry.name.toList → '?' ∉ other.name.toList → dsn = dsn' →
        entry.name = other.name ∧ entry.options.entries = other.options.entries) := by
  obtain ⟨dsn, hdsn, htext⟩ := h.toList_dsn
  obtain ⟨dsn', hdsn', htext'⟩ := h'.toList_dsn
  have hiff : dsn = dsn' ↔
      entry.name = other.name ∧ entry.options.entries = other.options.entries ∨
        entry.NamesOptionsOf other ∨ other.NamesOptionsOf entry := by
    have hnames : fileText entry.name = fileText other.name ↔ entry.name = other.name :=
      ⟨fileText_injective, congrArg _⟩
    have hqueries : parametersText? entry.options.entries = parametersText? other.options.entries ↔
        entry.options.entries = other.options.entries :=
      ⟨parametersText?_injective, congrArg _⟩
    rw [← String.toList_inj, htext, htext', List.append_cancel_left_eq,
      append_marked_eq_iff (not_mem_parametersText? _) (not_mem_parametersText? _), hnames,
      hqueries, NamesOptionsOf.iff_fileText, NamesOptionsOf.iff_fileText]
  refine ⟨dsn, dsn', hdsn, hdsn', hiff, fun hn hn' hsame => ?_⟩
  obtain hequal | hleft | hright := hiff.1 hsame
  · exact hequal
  · exact absurd hleft.mem_name hn
  · exact absurd hright.mem_name hn'

/-- Two entries that differ in the value of an option. -/
theorem sqlite_dsn_eq_iff_modes :
    ({ engine := "sqlite", name := "a.db", options := .ofList [("mode", "ro")] } : Entry).dsn ≠
      ({ engine := "sqlite3", name := "a.db", options := .ofList [("mode", "rwc")] } :
        Entry).dsn := by
  have readOnly :
      IsFile { engine := "sqlite", name := "a.db", options := .ofList [("mode", "ro")] } :=
    ⟨rfl, by decide⟩
  have writable :
      IsFile { engine := "sqlite3", name := "a.db", options := .ofList [("mode", "rwc")] } :=
    ⟨rfl, by decide⟩
  obtain ⟨dsn, dsn', hdsn, hdsn', -, hequal⟩ := sqlite_dsn_eq_iff readOnly writable
  intro hsame
  rw [hdsn, hdsn'] at hsame
  exact absurd (hequal (by decide) (by decide) (Except.ok.inj hsame)).2 (by decide)

/-- A file whose name reads like a name with an option. -/
theorem sqlite_dsn_confuses_name :
    Entry.IsFile { engine := "sqlite", name := "a.db?mode=rwc" } ∧
    Entry.IsFile { engine := "sqlite", name := "a.db", options := .ofList [("mode", "rwc")] } ∧
    ({ engine := "sqlite", name := "a.db?mode=rwc" } : Entry).dsn =
      .ok "sqlite://a.db?mode=rwc" ∧
    ({ engine := "sqlite", name := "a.db", options := .ofList [("mode", "rwc")] } : Entry).dsn =
      .ok "sqlite://a.db?mode=rwc" :=
  ⟨⟨rfl, by decide⟩, ⟨rfl, by decide⟩, rfl, rfl⟩

end BoundSql
