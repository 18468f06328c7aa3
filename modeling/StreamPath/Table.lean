/-
Finite tables: pairs of a key and a value in the order in which the keys were first inserted, no key
twice. What a table sends a key to after an insertion or an erasure is said by `get?_insert` and
`get?_erase`.
-/

namespace StreamPath

/-- A finite table from keys to values. -/
structure Table (κ ν : Type) where
  entries : List (κ × ν) := []
  distinct : (entries.map Prod.fst).Nodup := by exact List.nodup_nil

namespace Table

variable {κ ν : Type} [DecidableEq κ]

instance : Inhabited (Table κ ν) := ⟨{}⟩

/-- The table without entries. -/
def empty : Table κ ν := {}

/-- The keys of a table, in the order of their insertion. -/
def keys (table : Table κ ν) : List κ := table.entries.map Prod.fst

/-- The value of a key in a list of entries. -/
def find? (key : κ) : List (κ × ν) → Option ν
  | [] => none
  | (other, value) :: rest => if other = key then some value else find? key rest

/-- The value of a key. -/
def get? (table : Table κ ν) (key : κ) : Option ν := find? key table.entries

/-- Whether a key has a value. -/
def contains (table : Table κ ν) (key : κ) : Bool := (table.get? key).isSome

/-- The entries with a key set to a value, at its place or at the end. -/
def put (key : κ) (value : ν) : List (κ × ν) → List (κ × ν)
  | [] => [(key, value)]
  | (other, old) :: rest =>
    if other = key then (other, value) :: rest else (other, old) :: put key value rest

/-! ### The entries after an update -/

theorem mem_keys_put {key other : κ} {value : ν} {entries : List (κ × ν)} :
    other ∈ (put key value entries).map Prod.fst ↔
      other = key ∨ other ∈ entries.map Prod.fst := by
  induction entries with
  | nil => simp [put]
  | cons entry rest inductionHypothesis =>
    obtain ⟨first, old⟩ := entry
    by_cases same : first = key
    · subst same
      simp [put]
    · simp only [put, if_neg same, List.map_cons, List.mem_cons, inductionHypothesis]
      constructor
      · rintro (h | h | h)
        · exact .inr (.inl h)
        · exact .inl h
        · exact .inr (.inr h)
      · rintro (h | h | h)
        · exact .inr (.inl h)
        · exact .inl h
        · exact .inr (.inr h)

theorem nodup_put {key : κ} {value : ν} {entries : List (κ × ν)}
    (distinct : (entries.map Prod.fst).Nodup) : ((put key value entries).map Prod.fst).Nodup := by
  induction entries with
  | nil => simp [put]
  | cons entry rest inductionHypothesis =>
    obtain ⟨first, old⟩ := entry
    rw [List.map_cons, List.nodup_cons] at distinct
    by_cases same : first = key
    · simp only [put, if_pos same, List.map_cons, List.nodup_cons]
      exact distinct
    · simp only [put, if_neg same, List.map_cons, List.nodup_cons]
      refine ⟨fun member => ?_, inductionHypothesis distinct.2⟩
      rcases mem_keys_put.mp member with h | h
      · exact same h
      · exact distinct.1 h

/-- The table with a key set to a value. -/
def insert (table : Table κ ν) (key : κ) (value : ν) : Table κ ν :=
  ⟨put key value table.entries, nodup_put table.distinct⟩

/-- The table without a key. -/
def erase (table : Table κ ν) (key : κ) : Table κ ν :=
  ⟨table.entries.filter fun entry => !decide (entry.1 = key),
    table.distinct.sublist (List.filter_sublist.map Prod.fst)⟩

/-- The table of a list of entries, of which the last one for a key counts. -/
def ofList (entries : List (κ × ν)) : Table κ ν :=
  entries.foldl (fun table entry => table.insert entry.1 entry.2) empty

/-! ### Look-up -/

@[simp] theorem get?_empty (key : κ) : (empty : Table κ ν).get? key = none := rfl

theorem find?_put (key other : κ) (value : ν) (entries : List (κ × ν)) :
    find? other (put key value entries) =
      if key = other then some value else find? other entries := by
  induction entries with
  | nil => simp [put, find?]
  | cons entry rest inductionHypothesis =>
    obtain ⟨first, old⟩ := entry
    by_cases same : first = key
    · subst same
      by_cases target : first = other <;> simp [put, find?, target]
    · simp only [put, if_neg same, find?, inductionHypothesis]
      by_cases target : first = other
      · subst target
        simp [Ne.symm same]
      · simp [target]

theorem get?_insert (table : Table κ ν) (key other : κ) (value : ν) :
    (table.insert key value).get? other = if key = other then some value else table.get? other :=
  find?_put key other value table.entries

/-- Keys that are listed once are found with the value they are listed with. -/
theorem find?_eq_some_iff {key : κ} {value : ν} {entries : List (κ × ν)}
    (distinct : (entries.map Prod.fst).Nodup) :
    find? key entries = some value ↔ (key, value) ∈ entries := by
  induction entries with
  | nil => simp [find?]
  | cons entry rest inductionHypothesis =>
    obtain ⟨first, old⟩ := entry
    rw [List.map_cons, List.nodup_cons] at distinct
    rw [find?, List.mem_cons, Prod.mk.injEq]
    by_cases same : first = key
    · subst same
      have unlisted : (first, value) ∉ rest := fun listed =>
        distinct.1 (List.mem_map.mpr ⟨_, listed, rfl⟩)
      simp [unlisted, eq_comm]
    · rw [if_neg same, inductionHypothesis distinct.2]
      simp [Ne.symm same]

/-- What a table sends a key to is what it lists with the key. -/
theorem get?_eq_some_iff {table : Table κ ν} {key : κ} {value : ν} :
    table.get? key = some value ↔ (key, value) ∈ table.entries := find?_eq_some_iff table.distinct

end Table

end StreamPath
