/-!
# Tables

A table gives each key at most one entry.  It is a list of pairs; setting a key replaces its entry
in place or adds one at the end.
-/

namespace RecordQuery

/-- A finite map as a list of pairs. -/
structure Table (κ α : Type) where
  pairs : List (κ × α)

namespace Table

variable {κ α : Type} [DecidableEq κ]

/-- The table without entries. -/
def empty : Table κ α := ⟨[]⟩

/-- The entry of a key in a list of pairs. -/
def lookup (key : κ) : List (κ × α) → Option α
  | [] => none
  | (k, a) :: rest => if k = key then some a else lookup key rest

/-- A list of pairs with the entry of a key set. -/
def put (key : κ) (value : α) : List (κ × α) → List (κ × α)
  | [] => [(key, value)]
  | (k, a) :: rest => if k = key then (key, value) :: rest else (k, a) :: put key value rest

/-- The entry of a key. -/
def get? (t : Table κ α) (key : κ) : Option α := lookup key t.pairs

/-- The table with the entry of a key set. -/
def insert (t : Table κ α) (key : κ) (value : α) : Table κ α := ⟨put key value t.pairs⟩

/-- The table without the entry of a key. -/
def erase (t : Table κ α) (key : κ) : Table κ α := ⟨t.pairs.filter fun p => p.1 ≠ key⟩

theorem lookup_put (key other : κ) (value : α) (ps : List (κ × α)) :
    lookup other (put key value ps) = if key = other then some value else lookup other ps := by
  induction ps with
  | nil => simp [put, lookup]
  | cons p ps ih =>
    obtain ⟨k, a⟩ := p
    by_cases hk : k = key
    · subst hk
      by_cases ho : k = other <;> simp [put, lookup, ho]
    · by_cases ho : k = other
      · subst ho
        simp [put, lookup, hk, Ne.symm hk]
      · simp [put, lookup, hk, ho, ih]

theorem lookup_filter_ne (key other : κ) (ps : List (κ × α)) :
    lookup other (ps.filter fun p => p.1 ≠ key) =
      if key = other then none else lookup other ps := by
  induction ps with
  | nil => simp [lookup]
  | cons p ps ih =>
    obtain ⟨k, a⟩ := p
    by_cases hk : k = key
    · subst hk
      by_cases ho : k = other
      · subst ho
        simpa [lookup] using ih
      · simpa [lookup, ho] using ih
    · by_cases ho : k = other
      · subst ho
        simp [lookup, hk, Ne.symm hk]
      · simpa [lookup, hk, ho] using ih

@[simp] theorem get?_empty (key : κ) : (empty : Table κ α).get? key = none := rfl

theorem get?_insert (t : Table κ α) (key other : κ) (value : α) :
    (t.insert key value).get? other = if key = other then some value else t.get? other :=
  lookup_put key other value t.pairs

theorem get?_erase (t : Table κ α) (key other : κ) :
    (t.erase key).get? other = if key = other then none else t.get? other :=
  lookup_filter_ne key other t.pairs

end Table

end RecordQuery
