import UpsMonitor.SortedMap

/-!
# Sorted entries

The entries of a map as a list: what stands in it and what its keys give is the same, because they
are in order. Main statements:

* `lookup_eq_some_iff`: a key gives a value exactly if the entry is there;
* `eq_of_get?`: two maps whose keys give the same are the same;
* `lookup_map_value`, `lookup_filter`: what a list gives after its values are changed, or some of
  its entries taken out;
* `filter_insertEntry_other`: an entry that is put in its place leaves all entries of another kind;
* `filter_insertEntry_last`: an entry behind all others of its kind is put at their end.
-/

namespace UpsMonitor.SortedMap

variable {α : Type} {entries : List (String × α)}

theorem nil_sorted : ([] : List (String × α)).Pairwise (·.1 < ·.1) := .nil

/-- No key of sorted entries is there twice. -/
theorem nodup_of_sorted (sorted : entries.Pairwise (·.1 < ·.1)) : (entries.map Prod.fst).Nodup :=
  List.pairwise_map.mpr (sorted.imp fun lt eq => absurd (eq ▸ lt) (String.lt_irrefl _))

theorem mem_of_lookup {key : String} {value : α} (found : entries.lookup key = some value) :
    (key, value) ∈ entries := by
  induction entries with
  | nil => cases found
  | cons first rest ih =>
    rw [lookup_cons_eq] at found
    split at found
    · next same =>
      cases found
      rw [same]
      exact List.mem_cons_self
    · exact List.mem_cons_of_mem _ (ih found)

/-- **A key gives a value exactly if the entry is there.** -/
theorem lookup_eq_some_iff (sorted : entries.Pairwise (·.1 < ·.1)) {key : String} {value : α} :
    entries.lookup key = some value ↔ (key, value) ∈ entries := by
  refine ⟨mem_of_lookup, fun member => ?_⟩
  induction entries with
  | nil => cases member
  | cons first rest ih =>
    obtain ⟨before, sorted⟩ := List.pairwise_cons.mp sorted
    rw [lookup_cons_eq]
    rcases List.mem_cons.mp member with rfl | later
    · exact if_pos rfl
    · have lt : first.1 < key := before (key, value) later
      have apart : key ≠ first.1 := fun same => absurd (same ▸ lt) (String.lt_irrefl _)
      rw [if_neg apart, ih sorted later]

theorem lookup_map_value {β : Type} (f : α → β) (entries : List (String × α)) (key : String) :
    (entries.map fun (key, value) => (key, f value)).lookup key = (entries.lookup key).map f := by
  induction entries with
  | nil => rfl
  | cons first rest ih =>
    rw [List.map_cons, lookup_cons_eq, lookup_cons_eq, ih]
    split <;> rfl

theorem lookup_filter (sorted : entries.Pairwise (·.1 < ·.1)) (p : String × α → Bool)
    (key : String) :
    (entries.filter p).lookup key = (entries.lookup key).filter fun value => p (key, value) := by
  apply Option.ext
  intro value
  rw [Option.filter_eq_some_iff, lookup_eq_some_iff sorted, lookup_eq_some_iff (sorted.filter p),
    List.mem_filter]

/-! ## Keys -/

theorem keys_sorted (map : SortedMap α) : map.keys.Pairwise (· < ·) :=
  List.pairwise_map.mpr map.sorted

theorem mem_keys_iff {map : SortedMap α} {key : String} :
    key ∈ map.keys ↔ (map.get? key).isSome = true := by
  rw [Option.isSome_iff_exists, keys, List.mem_map]
  constructor
  · rintro ⟨⟨_, value⟩, member, rfl⟩
    exact ⟨value, (lookup_eq_some_iff map.sorted).mpr member⟩
  · rintro ⟨value, found⟩
    exact ⟨(key, value), mem_of_lookup found, rfl⟩

/-- The entries are the keys, each with the value that it gives. -/
theorem entries_eq_map (map : SortedMap α) (other : α) :
    map.entries = map.keys.map fun key => (key, (map.get? key).getD other) := by
  have each : ∀ entry ∈ map.entries, (entry.1, (map.get? entry.1).getD other) = entry := by
    rintro ⟨key, value⟩ member
    have found : map.get? key = some value := (lookup_eq_some_iff map.sorted).mpr member
    rw [found, Option.getD_some]
  rw [keys, List.map_map]
  exact ((List.map_congr_left each).trans (List.map_id _)).symm

/-- **A map is what its keys give.** -/
theorem eq_of_get? {map other : SortedMap α} (same : ∀ key, map.get? key = other.get? key) :
    map = other := by
  have members (entry : String × α) : entry ∈ map.entries ↔ entry ∈ other.entries := by
    rw [← lookup_eq_some_iff map.sorted, ← lookup_eq_some_iff other.sorted]
    exact iff_of_eq (congrArg (· = some entry.2) (same entry.1))
  have once (map : SortedMap α) : map.entries.Nodup :=
    List.Pairwise.of_map Prod.fst (fun _ _ apart same => apart (congrArg Prod.fst same))
      (nodup_of_sorted map.sorted)
  have perm := (List.perm_ext_iff_of_nodup (once map) (once other)).mpr members
  have entries : map.entries = other.entries := by
    refine perm.eq_of_pairwise ?_ map.sorted other.sorted
    intro first second _ _ lt gt
    exact absurd (String.lt_trans lt gt) (String.lt_irrefl _)
  cases map
  cases other
  congr

/-! ## Entries of one kind -/

/-- An entry that is put in its place leaves **all entries of another kind** as they are. -/
theorem filter_insertEntry_other {p : String → Bool} {key : String} (other : p key = false)
    (value : α) (entries : List (String × α)) :
    (insertEntry key value entries).filter (p ·.1) = entries.filter (p ·.1) := by
  induction entries with
  | nil => simp [insertEntry, other]
  | cons first rest ih =>
    unfold insertEntry
    split
    · exact List.filter_cons_of_neg (by simp [other])
    · split
      · next same => simp [← same, other]
      · rw [List.filter_cons, List.filter_cons, ih]

/-- **An entry behind all others of its kind** is put at their end. -/
theorem filter_insertEntry_last {p : String → Bool} {key : String} (kind : p key = true) (value : α)
    (sorted : entries.Pairwise (·.1 < ·.1))
    (behind : ∀ entry ∈ entries, p entry.1 = true → entry.1 < key) :
    (insertEntry key value entries).filter (p ·.1) =
      entries.filter (p ·.1) ++ [(key, value)] := by
  induction entries with
  | nil => simp [insertEntry, kind]
  | cons first rest ih =>
    obtain ⟨before, sorted⟩ := List.pairwise_cons.mp sorted
    obtain ⟨first_behind, rest_behind⟩ := List.forall_mem_cons.mp behind
    unfold insertEntry
    split
    · next lt =>
      -- All that follow are greater than the new key, so none of them is of its kind.
      have none_left : ∀ entry ∈ first :: rest, p entry.1 ≠ true := by
        intro entry member hold
        have ge : first.1 ≤ entry.1 := by
          rcases List.mem_cons.mp member with rfl | later
          · exact String.le_refl _
          · exact Std.le_of_lt (before _ later)
        have back : first.1 < first.1 :=
          Std.lt_of_le_of_lt ge (String.lt_trans (behind _ member hold) lt)
        exact absurd back (String.lt_irrefl _)
      rw [List.filter_cons, if_pos kind, List.filter_eq_nil_iff.mpr none_left]
      rfl
    · split
      · next same =>
        have lt : first.1 < key := first_behind (same ▸ kind)
        exact absurd (same ▸ lt) (String.lt_irrefl _)
      · rw [List.filter_cons, List.filter_cons, ih sorted rest_behind]
        split <;> rfl

end UpsMonitor.SortedMap
