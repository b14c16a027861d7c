/-!
# Maps in order of insertion

An `OrderedMap` is a list of named entries, each name once, in the order in which the names were
first inserted. Inserting under a present name replaces the value and keeps the place.

* `keys_insert_of_mem`, `keys_insert_of_not_mem`: what an insertion does to the names;
* `get?_insert`, `get?_erase`: what an insertion and a removal do to a lookup;
* `entries_ofList_of_nodup`: a list without repeated names is kept as it is.
-/

namespace BoundSql

/-- The value of the first entry under a name. -/
def lookup? {α : Type} (key : String) : List (String × α) → Option α
  | [] => none
  | entry :: rest => if entry.1 = key then some entry.2 else lookup? key rest

/-- Entries with one value replaced, or with a new entry at the end. -/
def upsert {α : Type} (key : String) (value : α) : List (String × α) → List (String × α)
  | [] => [(key, value)]
  | entry :: rest =>
    if entry.1 = key then (key, value) :: rest else entry :: upsert key value rest

variable {α : Type}

theorem map_fst_upsert_of_mem {key : String} {value : α} {entries : List (String × α)}
    (h : key ∈ entries.map Prod.fst) :
    (upsert key value entries).map Prod.fst = entries.map Prod.fst := by
  induction entries with
  | nil => simp at h
  | cons entry rest ih =>
    simp only [upsert]
    split
    · rename_i he
      simp [he]
    · rename_i he
      simp only [List.map_cons, List.cons.injEq, true_and]
      exact ih (by simpa [Ne.symm he] using h)

theorem upsert_of_not_mem {key : String} {value : α} {entries : List (String × α)}
    (h : key ∉ entries.map Prod.fst) : upsert key value entries = entries ++ [(key, value)] := by
  induction entries with
  | nil => rfl
  | cons entry rest ih =>
    simp only [List.map_cons, List.mem_cons, not_or] at h
    simp [upsert, Ne.symm h.1, ih h.2]

theorem nodup_upsert {key : String} {value : α} {entries : List (String × α)}
    (h : (entries.map Prod.fst).Nodup) : ((upsert key value entries).map Prod.fst).Nodup := by
  by_cases hk : key ∈ entries.map Prod.fst
  · rwa [map_fst_upsert_of_mem hk]
  · rw [upsert_of_not_mem hk, List.map_append, List.nodup_append]
    refine ⟨h, by simp, ?_⟩
    intro a ha b hb
    simp only [List.map_cons, List.map_nil, List.mem_singleton] at hb
    rintro rfl
    exact hk (hb ▸ ha)

theorem lookup?_upsert (key other : String) (value : α) (entries : List (String × α)) :
    lookup? other (upsert key value entries) =
      if key = other then some value else lookup? other entries := by
  induction entries with
  | nil => simp [upsert, lookup?]
  | cons entry rest ih =>
    simp only [upsert]
    split
    · rename_i he
      by_cases h : key = other <;> simp [lookup?, h, he]
    · rename_i he
      by_cases h : entry.1 = other
      · have : key ≠ other := fun hk => he (h.trans hk.symm)
        simp [lookup?, h, this]
      · simp [lookup?, h, ih]

theorem lookup?_filter_ne (key other : String) (entries : List (String × α)) :
    lookup? other (entries.filter (·.1 ≠ key)) =
      if key = other then none else lookup? other entries := by
  induction entries with
  | nil => simp [lookup?]
  | cons entry rest ih =>
    by_cases he : entry.1 = key
    · rw [List.filter_cons_of_neg (by simpa using he), ih, lookup?, he]
      by_cases h : key = other <;> simp [h]
    · rw [List.filter_cons_of_pos (by simpa using he), lookup?, lookup?, ih]
      by_cases h : entry.1 = other
      · have : key ≠ other := fun hk => he (h.trans hk.symm)
        simp [h, this]
      · simp [h]

theorem lookup?_eq_none_iff {key : String} {entries : List (String × α)} :
    lookup? key entries = none ↔ key ∉ entries.map Prod.fst := by
  induction entries with
  | nil => simp [lookup?]
  | cons entry rest ih =>
    simp only [lookup?]
    split
    · rename_i h
      simp [h]
    · rename_i h
      simp only [ih, List.map_cons, List.mem_cons, not_or]
      exact ⟨fun hr => ⟨Ne.symm h, hr⟩, fun hr => hr.2⟩

theorem lookup?_of_mem {entry : String × α} {entries : List (String × α)}
    (hn : (entries.map Prod.fst).Nodup) (h : entry ∈ entries) :
    lookup? entry.1 entries = some entry.2 := by
  induction entries with
  | nil => simp at h
  | cons first rest ih =>
    rw [List.map_cons, List.nodup_cons] at hn
    rcases List.mem_cons.1 h with rfl | h
    · simp [lookup?]
    · have hne : first.1 ≠ entry.1 := fun he => hn.1 (he ▸ List.mem_map_of_mem h)
      rw [lookup?, if_neg hne, ih hn.2 h]

/-- Named entries, each name once, in order of first insertion. -/
structure OrderedMap (α : Type) where
  /-- The entries in order. -/
  entries : List (String × α)
  /-- No name occurs twice. -/
  nodup : (entries.map Prod.fst).Nodup

namespace OrderedMap

instance [DecidableEq α] : DecidableEq (OrderedMap α) := fun a b =>
  decidable_of_iff (a.entries = b.entries)
    ⟨fun h => by cases a; cases b; simp_all, fun h => h ▸ rfl⟩

/-- No entries. -/
def empty : OrderedMap α :=
  ⟨[], by simp⟩

instance : EmptyCollection (OrderedMap α) := ⟨empty⟩

instance : Inhabited (OrderedMap α) := ⟨empty⟩

/-- The names in order. -/
def keys (m : OrderedMap α) : List String :=
  m.entries.map Prod.fst

/-- The number of entries. -/
def size (m : OrderedMap α) : Nat :=
  m.entries.length

/-- Whether there are no entries. -/
def isEmpty (m : OrderedMap α) : Bool :=
  m.entries.isEmpty

/-- The value under a name. -/
def get? (m : OrderedMap α) (key : String) : Option α :=
  lookup? key m.entries

/-- Whether a name is present. -/
def contains (m : OrderedMap α) (key : String) : Bool :=
  (m.get? key).isSome

/-- The map with a value under a name: in place of the one there, or at the end. -/
def insert (m : OrderedMap α) (key : String) (value : α) : OrderedMap α :=
  ⟨upsert key value m.entries, nodup_upsert m.nodup⟩

/-- The map without a name. -/
def erase (m : OrderedMap α) (key : String) : OrderedMap α :=
  ⟨m.entries.filter (·.1 ≠ key), m.nodup.sublist (List.filter_sublist.map _)⟩

/-- The entries of a list inserted after those of a map. -/
def insertAll (m : OrderedMap α) (entries : List (String × α)) : OrderedMap α :=
  entries.foldl (fun m entry => m.insert entry.1 entry.2) m

/-- The map of a list of entries: of a repeated name, the first place and the last value. -/
def ofList (entries : List (String × α)) : OrderedMap α :=
  empty.insertAll entries

theorem ext {a b : OrderedMap α} (h : a.entries = b.entries) : a = b := by
  cases a
  cases b
  simp_all

theorem mem_keys_iff {m : OrderedMap α} {key : String} : key ∈ m.keys ↔ m.contains key = true := by
  rw [contains, get?, Option.isSome_iff_ne_none, ne_eq, lookup?_eq_none_iff]
  simp [keys]

theorem get?_of_mem {m : OrderedMap α} {entry : String × α} (h : entry ∈ m.entries) :
    m.get? entry.1 = some entry.2 :=
  lookup?_of_mem m.nodup h

theorem get?_insert (m : OrderedMap α) (key other : String) (value : α) :
    (m.insert key value).get? other = if key = other then some value else m.get? other :=
  lookup?_upsert key other value m.entries

theorem get?_erase (m : OrderedMap α) (key other : String) :
    (m.erase key).get? other = if key = other then none else m.get? other :=
  lookup?_filter_ne key other m.entries

theorem keys_insert_of_mem {m : OrderedMap α} {key : String} {value : α} (h : key ∈ m.keys) :
    (m.insert key value).keys = m.keys :=
  map_fst_upsert_of_mem h

theorem entries_insert_of_not_mem {m : OrderedMap α} {key : String} {value : α}
    (h : key ∉ m.keys) : (m.insert key value).entries = m.entries ++ [(key, value)] :=
  upsert_of_not_mem h

theorem keys_insert_of_not_mem {m : OrderedMap α} {key : String} {value : α} (h : key ∉ m.keys) :
    (m.insert key value).keys = m.keys ++ [key] := by
  simp [keys, entries_insert_of_not_mem h]

theorem entries_insertAll_of_nodup (m : OrderedMap α) (entries : List (String × α))
    (h : (m.keys ++ entries.map Prod.fst).Nodup) :
    (m.insertAll entries).entries = m.entries ++ entries := by
  induction entries generalizing m with
  | nil => simp [insertAll]
  | cons entry rest ih =>
    have hn : entry.1 ∉ m.keys := fun hm =>
      (List.nodup_append.1 h).2.2 _ hm _ (by simp) rfl
    have := ih (m.insert entry.1 entry.2) (by
      rw [keys_insert_of_not_mem hn]
      simpa using h)
    rw [insertAll, List.foldl_cons, ← insertAll, this, entries_insert_of_not_mem hn]
    simp

theorem insertAll_append (m : OrderedMap α) (p q : List (String × α)) :
    m.insertAll (p ++ q) = (m.insertAll p).insertAll q :=
  List.foldl_append

theorem keys_insertAll_of_nodup {m : OrderedMap α} {entries : List (String × α)}
    (h : (m.keys ++ entries.map Prod.fst).Nodup) :
    (m.insertAll entries).keys = m.keys ++ entries.map Prod.fst := by
  rw [keys, entries_insertAll_of_nodup m entries h, List.map_append, keys]

theorem entries_ofList_of_nodup {entries : List (String × α)}
    (h : (entries.map Prod.fst).Nodup) : (ofList entries).entries = entries := by
  simpa [ofList, empty] using entries_insertAll_of_nodup empty entries (by simpa [keys, empty])

end OrderedMap

end BoundSql
