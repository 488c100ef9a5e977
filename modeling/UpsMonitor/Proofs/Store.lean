import UpsMonitor.Store

/-!
# What notices leave behind

The published state behind a run of notices. Main statements:

* `get?_applyAll_of_mem`: a key that is told once has the value that is told for it;
* `get?_applyAll_of_not_mem`: a key that is not told has the value that it had;
* `applyAll_report`: all that a report changes.
-/

namespace UpsMonitor

/-- The key and the value that a notice tells. -/
def Notice.entry? : Notice → Option (String × String)
  | .info key value => some (key, value)
  | .status _ | .command _ | .stale | .ok => none

/-- The notice that tells a value. -/
def Notice.ofEntry (entry : String × String) : Notice := .info entry.1 entry.2

/-- The notices of values, of a status word and of more values. -/
def Notice.report (told : List (String × String)) (tokens : List String)
    (more : List (String × String)) : List Notice :=
  told.map .ofEntry ++ [.status tokens] ++ more.map .ofEntry

/-- What notices tell, key by key. -/
def Notice.entries (notices : List Notice) : List (String × String) :=
  notices.filterMap Notice.entry?

namespace Notice

@[simp] theorem entries_append (notices later : List Notice) :
    entries (notices ++ later) = entries notices ++ entries later :=
  List.filterMap_append

@[simp] theorem entries_infos (told : List (String × String)) :
    entries (told.map .ofEntry) = told := by
  induction told with
  | nil => rfl
  | cons entry rest ih => simpa [entries, entry?, ofEntry] using ih

theorem entries_report (told more : List (String × String)) (tokens : List String) :
    entries (report told tokens more ++ [.ok]) = told ++ more := by
  have word : entries [.status tokens] = [] := rfl
  have well : entries [.ok] = [] := rfl
  simp only [report, entries_append, entries_infos, word, well, List.append_nil]

theorem mem_entries_iff {notices : List Notice} {key value : String} :
    (key, value) ∈ entries notices ↔ .info key value ∈ notices := by
  constructor
  · intro member
    obtain ⟨notice, inside, told⟩ := List.mem_filterMap.mp member
    cases notice with
    | info =>
      cases told
      exact inside
    | status | command | stale | ok => cases told
  · exact fun member => List.mem_filterMap.mpr ⟨_, member, rfl⟩

end Notice

namespace Store

theorem get?_apply_of_told {notice : Notice} {told value : String}
    (entry : notice.entry? = some (told, value)) (store : Store) (key : String) :
    (store.apply notice).get? key = if key = told then some value else store.get? key := by
  cases notice with
  | info =>
    cases entry
    exact SortedMap.get?_insert store.values told key value
  | status | command | stale | ok => cases entry

theorem get?_apply_of_untold {notice : Notice} (nothing : notice.entry? = none) (store : Store)
    (key : String) : (store.apply notice).get? key = store.get? key := by
  cases notice with
  | info => cases nothing
  | status | command | stale | ok => rfl

/-- **A key that is not told** keeps its value. -/
theorem get?_applyAll_of_not_mem {notices : List Notice} {key : String}
    (untold : key ∉ (Notice.entries notices).map Prod.fst) (store : Store) :
    (store.applyAll notices).get? key = store.get? key := by
  induction notices generalizing store with
  | nil => rfl
  | cons notice rest ih =>
    change ((store.apply notice).applyAll rest).get? key = _
    cases entry : notice.entry? with
    | none =>
      rw [Notice.entries, List.filterMap_cons_none entry] at untold
      rw [ih untold, get?_apply_of_untold entry]
    | some told =>
      rw [Notice.entries, List.filterMap_cons_some entry, List.map_cons, List.mem_cons,
        not_or] at untold
      rw [ih untold.2, get?_apply_of_told entry, if_neg untold.1]

/-- **A key that is told once** has the value that is told for it. -/
theorem get?_applyAll_of_mem {notices : List Notice} {key value : String}
    (once : ((Notice.entries notices).map Prod.fst).Nodup)
    (told : (key, value) ∈ Notice.entries notices) (store : Store) :
    (store.applyAll notices).get? key = some value := by
  induction notices generalizing store with
  | nil => cases told
  | cons notice rest ih =>
    change ((store.apply notice).applyAll rest).get? key = _
    cases entry : notice.entry? with
    | none =>
      rw [Notice.entries, List.filterMap_cons_none entry] at once told
      exact ih once told _
    | some first =>
      rw [Notice.entries, List.filterMap_cons_some entry] at once told
      obtain ⟨fresh, once⟩ := List.nodup_cons.mp once
      rcases List.mem_cons.mp told with rfl | later
      · rw [get?_applyAll_of_not_mem fresh, get?_apply_of_told entry, if_pos rfl]
      · exact ih once later _

theorem applyAll_append (notices later : List Notice) (store : Store) :
    store.applyAll (notices ++ later) = (store.applyAll notices).applyAll later :=
  List.foldl_append

/-- Values do not bear on anything else that is published. -/
theorem applyAll_values (told : List (String × String)) (store : Store) :
    (store.applyAll (told.map .ofEntry)).status = store.status ∧
      (store.applyAll (told.map .ofEntry)).commands = store.commands := by
  induction told generalizing store with
  | nil => exact ⟨rfl, rfl⟩
  | cons entry rest ih => exact ih (store.apply (.ofEntry entry))

/-- **What a report leaves behind,** and the word that all is well behind it. -/
theorem applyAll_report {told more : List (String × String)}
    (once : ((told ++ more).map Prod.fst).Nodup) (tokens : List String) (store : Store) :
    let after := store.applyAll (Notice.report told tokens more ++ [.ok])
    (∀ key value, (key, value) ∈ told ++ more → after.get? key = some value) ∧
    (∀ key, key ∉ (told ++ more).map Prod.fst → after.get? key = store.get? key) ∧
    after.status = " ".intercalate tokens ∧ after.commands = store.commands ∧
    after.stale = false := by
  intro after
  have entries := Notice.entries_report told more tokens
  let worded := (store.applyAll (told.map .ofEntry)).apply (.status tokens)
  have shape : after = (worded.applyAll (more.map .ofEntry)).apply .ok := by
    simp only [after, Notice.report, applyAll_append]
    rfl
  obtain ⟨status, commands⟩ := applyAll_values more worded
  refine ⟨fun key value member => ?_, fun key untold => ?_, ?_, ?_, ?_⟩
  · exact get?_applyAll_of_mem (entries.symm ▸ once) (entries.symm ▸ member) store
  · exact get?_applyAll_of_not_mem (entries.symm ▸ untold) store
  · rw [shape]
    exact status
  · rw [shape]
    exact commands.trans (applyAll_values told store).2
  · rw [shape]
    rfl

end Store

end UpsMonitor
