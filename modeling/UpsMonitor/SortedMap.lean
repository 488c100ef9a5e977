/-!
# Sorted maps

Values under text keys. The keys are in order, by code point, and each is there once. Main
statements: putting an entry keeps the order, and afterwards its key gives its value and every other
key what it gave before.
-/

namespace UpsMonitor

structure SortedMap (α : Type) where
  entries : List (String × α) := []
  sorted : entries.Pairwise (·.1 < ·.1) := by exact .nil

namespace SortedMap

variable {α : Type}

/-- Puts an entry in its place, over one with the same key if there is one. -/
def insertEntry (key : String) (value : α) : List (String × α) → List (String × α)
  | [] => [(key, value)]
  | (other, held) :: rest =>
    if key < other then (key, value) :: (other, held) :: rest
    else if key = other then (key, value) :: rest
    else (other, held) :: insertEntry key value rest

theorem mem_keys_insertEntry {key : String} {value : α} {entries : List (String × α)}
    {entry : String × α} (h : entry ∈ insertEntry key value entries) :
    entry.1 = key ∨ entry ∈ entries := by
  induction entries with
  | nil => simp_all [insertEntry]
  | cons first rest ih =>
    simp only [insertEntry] at h
    split at h
    · simp only [List.mem_cons] at h ⊢
      rcases h with rfl | h
      · exact .inl rfl
      · exact .inr h
    · split at h
      · simp only [List.mem_cons] at h ⊢
        rcases h with rfl | h
        · exact .inl rfl
        · exact .inr (.inr h)
      · simp only [List.mem_cons] at h ⊢
        rcases h with rfl | h
        · exact .inr (.inl rfl)
        · exact (ih h).imp id .inr

theorem insertEntry_sorted (key : String) (value : α) {entries : List (String × α)}
    (h : entries.Pairwise (·.1 < ·.1)) : (insertEntry key value entries).Pairwise (·.1 < ·.1) := by
  induction entries with
  | nil => simp [insertEntry]
  | cons first rest ih =>
    obtain ⟨before, rest_sorted⟩ := List.pairwise_cons.mp h
    simp only [insertEntry]
    split
    · rename_i lt
      refine List.pairwise_cons.mpr ⟨fun entry mem => ?_, h⟩
      rcases List.mem_cons.mp mem with rfl | mem
      · exact lt
      · exact String.lt_trans lt (before entry mem)
    · split
      · rename_i eq
        exact List.pairwise_cons.mpr ⟨fun entry mem => eq ▸ before entry mem, rest_sorted⟩
      · rename_i ge ne
        refine List.pairwise_cons.mpr ⟨fun entry mem => ?_, ih rest_sorted⟩
        rcases mem_keys_insertEntry mem with eq | mem
        · have le : first.1 ≤ key := String.not_lt.mp ge
          rw [eq]
          exact Std.lt_of_le_of_ne le (fun eq => ne eq.symm)
        · exact before entry mem

theorem lookup_cons_eq (key other : String) (value : α) (rest : List (String × α)) :
    ((key, value) :: rest).lookup other = if other = key then some value else rest.lookup other := by
  by_cases h : other = key
  · simp [h]
  · have : (other == key) = false := by simpa using h
    simp [List.lookup_cons, this, h]

theorem lookup_insertEntry (key other : String) (value : α) (entries : List (String × α)) :
    (insertEntry key value entries).lookup other =
      if other = key then some value else entries.lookup other := by
  induction entries with
  | nil => exact lookup_cons_eq key other value []
  | cons first rest ih =>
    obtain ⟨held, old⟩ := first
    simp only [insertEntry]
    split
    · exact lookup_cons_eq key other value _
    · split
      · rename_i eq
        subst eq
        simp only [lookup_cons_eq]
        split <;> rfl
      · rename_i ne
        simp only [lookup_cons_eq, ih]
        by_cases h : other = key
        · simp [h, ne]
        · simp [h]

def insert (map : SortedMap α) (key : String) (value : α) : SortedMap α :=
  ⟨insertEntry key value map.entries, insertEntry_sorted key value map.sorted⟩

def get? (map : SortedMap α) (key : String) : Option α := map.entries.lookup key

@[simp] theorem get?_insert (map : SortedMap α) (key other : String) (value : α) :
    (map.insert key value).get? other = if other = key then some value else map.get? other :=
  lookup_insertEntry key other value map.entries

def erase (map : SortedMap α) (key : String) : SortedMap α :=
  ⟨map.entries.filter (·.1 ≠ key), map.sorted.filter _⟩

def mapValues (map : SortedMap α) (f : α → α) : SortedMap α :=
  ⟨map.entries.map fun (key, value) => (key, f value), by
    rw [List.pairwise_map]
    exact map.sorted⟩

def contains (map : SortedMap α) (key : String) : Bool := (map.get? key).isSome

def keys (map : SortedMap α) : List String := map.entries.map (·.1)

def size (map : SortedMap α) : Nat := map.entries.length

end SortedMap

end UpsMonitor
