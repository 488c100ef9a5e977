import Mathlib.Data.List.Induction
import UpsMonitor.Proofs.SortedMap
import UpsMonitor.Proofs.Store
import UpsMonitor.Proofs.Store.Text
import UpsMonitor.Proofs.Text.Utf8

/-!
# The last word

What is published is what was told last, in whatever order it was told. Main statements:

* `Store.tells_applyAll`: behind any run of notices the store holds the last word on everything;
* `Store.eq_of_tells`: two stores that hold the same last words are the same;
* `Store.content_eq`: and these words are what their text says;
* `published_state_is_last_told`: so it does not matter in which order notices came.
-/

namespace UpsMonitor

namespace Notice

/-- The value that a notice tells for a key. -/
def value? (key : String) : Notice → Option String
  | .info told value => if told = key then some value else none
  | .status _ | .command _ | .stale | .ok => none

/-- The words of the status that a notice tells. -/
def tokens? : Notice → Option (List String)
  | .status tokens => some tokens
  | .info _ _ | .command _ | .stale | .ok => none

/-- Whether a notice tells that the data is stale, or that it is not. -/
def standing? : Notice → Option Bool
  | .stale => some true
  | .ok => some false
  | .info _ _ | .status _ | .command _ => none

/-- What a run of notices tells last of something. -/
def last? {α : Type} (told? : Notice → Option α) (notices : List Notice) : Option α :=
  notices.reverse.findSome? told?

theorem last?_snoc {α : Type} (told? : Notice → Option α) (earlier : List Notice)
    (notice : Notice) :
    last? told? (earlier ++ [notice]) = (told? notice).or (last? told? earlier) := by
  rw [last?, List.reverse_append, List.findSome?_append]
  cases told : told? notice <;> simp [told, last?]

/-- A key has a last value if it was told at all. -/
theorem isSome_last?_value {notices : List Notice} {key : String} :
    (last? (value? key) notices).isSome = true ↔ ∃ value, .info key value ∈ notices := by
  rw [last?, List.findSome?_isSome_iff]
  constructor
  · rintro ⟨notice, member, told⟩
    cases notice with
    | info other value =>
      by_cases same : other = key
      · exact ⟨value, same ▸ List.mem_reverse.mp member⟩
      · simp [value?, same] at told
    | status | command | stale | ok => cases told
  · rintro ⟨value, member⟩
    exact ⟨_, List.mem_reverse.mpr member, by simp [value?]⟩

/-- Two runs of notices with the same last words. -/
structure Agree (notices others : List Notice) : Prop where
  values : ∀ key, last? (value? key) notices = last? (value? key) others
  status : last? tokens? notices = last? tokens? others
  commands : ∀ name, .command name ∈ notices ↔ .command name ∈ others
  standing : last? standing? notices = last? standing? others

end Notice

namespace Store

open Notice (last? value? tokens? standing?)

/-- The store holds the last word on each thing, and what a new store holds where there was none. -/
structure Tells (store : Store) (notices : List Notice) : Prop where
  values : ∀ key, store.get? key = last? (value? key) notices
  status : store.status = " ".intercalate ((last? tokens? notices).getD [])
  commands : ∀ name, store.hasCommand name = true ↔ .command name ∈ notices
  standing : store.stale = (last? standing? notices).getD false

variable {store other : Store} {notices others : List Notice}

theorem tells_new : ({} : Store).Tells [] where
  values _ := rfl
  status := rfl
  commands name := by simp [hasCommand, SortedMap.contains, SortedMap.get?]
  standing := rfl

/-- One more notice is the last word on what it tells, and on nothing else. -/
theorem Tells.apply (tells : store.Tells notices) (notice : Notice) :
    (store.apply notice).Tells (notices ++ [notice]) where
  values key := by
    rw [Notice.last?_snoc, ← tells.values]
    cases notice with
    | info told value =>
      rw [get?_apply_of_told rfl]
      by_cases same : told = key
      · simp [value?, same]
      · simp [value?, same, Ne.symm same]
    | status | command | stale | ok => rfl
  status := by
    rw [Notice.last?_snoc]
    cases notice with
    | status tokens => rfl
    | info | command | stale | ok => exact tells.status
  commands name := by
    rw [List.mem_append, ← tells.commands, List.mem_singleton]
    cases notice with
    | command added =>
      simp only [Store.apply, hasCommand, SortedMap.contains, SortedMap.get?_insert,
        Notice.command.injEq]
      by_cases same : name = added
      · simp [same]
      · simp [same]
    | info | status | stale | ok => simp [Store.apply, hasCommand]
  standing := by
    rw [Notice.last?_snoc]
    cases notice with
    | stale | ok => rfl
    | info | status | command => exact tells.standing

/-- **Behind any run of notices the store holds the last words.** -/
theorem tells_applyAll (notices : List Notice) : (({} : Store).applyAll notices).Tells notices := by
  induction notices using List.reverseRecOn with
  | nil => exact tells_new
  | append_singleton earlier notice ih =>
    rw [applyAll_append]
    exact ih.apply notice

/-- **Stores with the same last words are the same.** -/
theorem eq_of_tells (tells : store.Tells notices) (tells' : other.Tells others)
    (agree : Notice.Agree notices others) : store = other := by
  have values : store.values = other.values := by
    apply SortedMap.eq_of_get?
    intro key
    exact (tells.values key).trans ((agree.values key).trans (tells'.values key).symm)
  have commands : store.commands = other.commands := by
    apply SortedMap.eq_of_get?
    intro name
    have same : (store.commands.get? name).isSome = (other.commands.get? name).isSome := by
      rw [Bool.eq_iff_iff]
      exact (tells.commands name).trans ((agree.commands name).trans (tells'.commands name).symm)
    -- Nothing is kept under a command, so it is told by its being there.
    generalize store.commands.get? name = held at same
    generalize other.commands.get? name = held' at same
    revert same
    cases held <;> cases held' <;> simp
  have status : store.status = other.status := by
    rw [tells.status, tells'.status, agree.status]
  have standing : store.stale = other.stale := by
    rw [tells.standing, tells'.standing, agree.standing]
  cases store
  cases other
  congr

/-- What the text of a state says if it tells the last words, given its keys and commands. -/
def lastWords (notices : List Notice) (keys names : List String) : Content where
  values := keys.map fun key => (key, (last? (value? key) notices).getD "")
  status := " ".intercalate ((last? tokens? notices).getD [])
  commands := names
  stale := (last? standing? notices).getD false

theorem content_eq (tells : store.Tells notices) :
    store.content = lastWords notices store.values.keys store.commands.keys := by
  have values : store.values.entries =
      store.values.keys.map fun key => (key, (last? (value? key) notices).getD "") := by
    rw [store.values.entries_eq_map ""]
    apply List.map_congr_left
    intro key _
    rw [← tells.values]
    rfl
  rw [content, lastWords, ← values, tells.status, tells.standing]

end Store

/-- Texts in the order of their bytes, and none of them twice. -/
def InByteOrder (texts : List String) : Prop :=
  texts.Pairwise fun text later => Text.Utf8.encode text < Text.Utf8.encode later

theorem SortedMap.keys_inByteOrder {α : Type} (map : SortedMap α) : InByteOrder map.keys :=
  map.keys_sorted.imp Text.Utf8.encode_lt_encode

/-- **What is published does not depend on the order of publishing.** Two runs of notices with the
same last value for each key, the same last status, the same commands and the same last word on the
standing of the data leave states that answer alike, with the last value that was told, and that
have the same text. The last words are read out of it, and each key and each command stands there
once, in byte order. -/
theorem published_state_is_last_told {notices others : List Notice}
    (agree : Notice.Agree notices others) :
    let store := ({} : Store).applyAll notices
    let other := ({} : Store).applyAll others
    (∀ key, store.get? key = Notice.last? (Notice.value? key) notices ∧
      other.get? key = store.get? key) ∧
    (∀ name, (store.hasCommand name = true ↔ .command name ∈ notices) ∧
      other.hasCommand name = store.hasCommand name) ∧
    other.json = store.json ∧
    ∃ keys names, Store.Content.read? store.json = some (Store.lastWords notices keys names) ∧
      InByteOrder keys ∧ (∀ key, key ∈ keys ↔ ∃ value, .info key value ∈ notices) ∧
      InByteOrder names ∧ ∀ name, name ∈ names ↔ .command name ∈ notices := by
  intro store other
  have tells : store.Tells notices := Store.tells_applyAll notices
  have same : other = store := (Store.eq_of_tells tells (Store.tells_applyAll others) agree).symm
  rw [same]
  refine ⟨fun key => ⟨tells.values key, rfl⟩, fun name => ⟨tells.commands name, rfl⟩, rfl, ?_⟩
  refine ⟨store.values.keys, store.commands.keys, ?_, store.values.keys_inByteOrder, fun key => ?_,
    store.commands.keys_inByteOrder, fun name => ?_⟩
  · rw [store.read?_json, Store.content_eq tells]
  · rw [SortedMap.mem_keys_iff, ← Notice.isSome_last?_value, ← tells.values]
    rfl
  · rw [SortedMap.mem_keys_iff, ← tells.commands]
    rfl

/-- Values, a status and a standing that are told again, and a command that is added twice. -/
theorem order_of_publishing_is_not_seen :
    let notices : List Notice := [.stale, .info "b" "1", .command "x", .info "a" "2",
      .status ["OB"], .info "b" "3", .command "y", .status ["OL", "CHRG"], .ok]
    let others : List Notice := [.status ["OL", "CHRG"], .command "y", .info "b" "3", .ok,
      .command "x", .info "a" "1", .command "y", .info "a" "2"]
    Notice.Agree notices others ∧
      (({} : Store).applyAll others).get? "b" = some "3" ∧
      (({} : Store).applyAll others).json = (({} : Store).applyAll notices).json ∧
      (({} : Store).applyAll notices).json = "\x7b\"values\":\x7b\"a\":\"2\",\"b\":\"3\"\x7d," ++
        "\"status\":\"OL CHRG\",\"commands\":[\"x\",\"y\"],\"stale\":false\x7d" := by
  intro notices others
  have values : ∀ key, Notice.last? (Notice.value? key) notices =
      Notice.last? (Notice.value? key) others := by
    intro key
    by_cases first : "a" = key
    · subst first
      rfl
    · by_cases second : "b" = key
      · subst second
        rfl
      · simp [notices, others, Notice.last?, Notice.value?, List.findSome?_cons, first, second]
  have commands : ∀ name, Notice.command name ∈ notices ↔ .command name ∈ others := by
    intro name
    simp only [notices, others, List.mem_cons, Notice.command.injEq, List.not_mem_nil,
      reduceCtorEq, false_or, or_false]
    tauto
  have agree : Notice.Agree notices others := ⟨values, rfl, commands, rfl⟩
  obtain ⟨answers, -, text, -⟩ := published_state_is_last_told agree
  exact ⟨agree, (answers "b").2.trans (answers "b").1, text, by decide +kernel⟩

end UpsMonitor
