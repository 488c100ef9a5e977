import UpsMonitor.Proofs.Json
import UpsMonitor.Store

/-!
# The text of the published state

All that is published stands in the text of the state, and can be read out of it. Main statement:

* `read?_json`: reading the text of a store gives its values, its status, its commands and whether
  it is stale.
-/

namespace UpsMonitor.Store

open Json

/-- What the text of a published state says. Values and commands are in the order in which they
stand there. -/
structure Content where
  values : List (String × String)
  status : String
  commands : List String
  stale : Bool
  deriving DecidableEq

namespace Content

def name? : List Piece → Option String
  | [.text name] => some name
  | _ => none

def value? : List Piece → Option (String × String)
  | [.text key, .mark ':', .text value] => some (key, value)
  | _ => none

def flag? (pieces : List Piece) : Option Bool :=
  if pieces = "true".toList.map .mark then some true
  else if pieces = "false".toList.map .mark then some false
  else none

/-- Reads a text with a record of values, a status, a list of commands and a flag. -/
def read? (text : String) : Option Content := do
  let pieces ← pieces? text
  let rest ← strip? [.mark '\x7b', .text "values", .mark ':', .mark '\x7b'] pieces
  let (values, rest) ← until? (.mark '\x7d') rest
  let rest ← strip? [.mark ',', .text "status", .mark ':'] rest
  let (status, rest) ← until? (.mark ',') rest
  let rest ← strip? [.text "commands", .mark ':', .mark '['] rest
  let (commands, rest) ← until? (.mark ']') rest
  let rest ← strip? [.mark ',', .text "stale", .mark ':'] rest
  let (stale, rest) ← until? (.mark '\x7d') rest
  if rest = [] then
    return {
      values := ← items? value? values
      status := ← name? status
      commands := ← items? name? commands
      stale := ← flag? stale }
  else none

end Content

def content (store : Store) : Content where
  values := store.values.entries
  status := store.status
  commands := store.commands.keys
  stale := store.stale

/-! ## What the text says -/

/-- The values, with commas between them. -/
def valuePieces (store : Store) : List Piece :=
  [.mark ','].intercalate
    (store.values.entries.map fun entry => [.text entry.1, .mark ':', .text entry.2])

/-- The commands, with commas between them. -/
def commandPieces (store : Store) : List Piece :=
  [.mark ','].intercalate (store.commands.keys.map fun name => [.text name])

def stalePieces (store : Store) : List Piece := (bool store.stale).toList.map .mark

theorem spells_json (store : Store) :
    Spells store.json
      ([.mark '\x7b', .text "values", .mark ':', .mark '\x7b'] ++
        (store.valuePieces ++ .mark '\x7d' ::
        ([.mark ',', .text "status", .mark ':'] ++ ([.text store.status] ++ .mark ',' ::
        ([.text "commands", .mark ':', .mark '['] ++ (store.commandPieces ++ .mark ']' ::
        ([.mark ',', .text "stale", .mark ':'] ++
          (store.stalePieces ++ [.mark '\x7d'])))))))) := by
  have values : Spells
      (record (store.values.entries.map fun entry => (entry.1, quoted entry.2)))
      (.mark '\x7b' :: store.valuePieces ++ [.mark '\x7d']) :=
    spells_record (fun entry => [.text entry.2]) Prod.fst fun entry _ => spells_quoted entry.2
  have commands : Spells (list (store.commands.keys.map quoted))
      (.mark '[' :: store.commandPieces ++ [.mark ']']) :=
    spells_list (fun name => [.text name]) fun name _ => spells_quoted name
  let fields := [
    ("values", record (store.values.entries.map fun entry => (entry.1, quoted entry.2)),
      .mark '\x7b' :: store.valuePieces ++ [.mark '\x7d']),
    ("status", quoted store.status, [.text store.status]),
    ("commands", list (store.commands.keys.map quoted),
      .mark '[' :: store.commandPieces ++ [.mark ']']),
    ("stale", bool store.stale, store.stalePieces)]
  have each : ∀ field ∈ fields, Spells field.2.1 field.2.2 := by
    simp only [fields, List.forall_mem_cons]
    exact ⟨values, spells_quoted _, commands, spells_bool _, by simp⟩
  have whole : Spells (record (fields.map fun field => (field.1, field.2.1))) _ :=
    spells_record (fun field => field.2.2) Prod.fst each
  have shape : store.json = record (fields.map fun field => (field.1, field.2.1)) := rfl
  rw [shape]
  simpa [fields, List.intercalate_cons_cons] using whole

/-- **The text of a store tells all of it.** -/
theorem read?_json (store : Store) : Content.read? store.json = some store.content := by
  have values : Piece.mark '\x7d' ∉ store.valuePieces := not_mem_intercalate (by decide) (by simp)
  have commands : Piece.mark ']' ∉ store.commandPieces := not_mem_intercalate (by decide) (by simp)
  have status : Piece.mark ',' ∉ [.text store.status] := by simp
  have stale : Piece.mark '\x7d' ∉ store.stalePieces := by
    unfold stalePieces
    cases store.stale <;> decide
  have flag : Content.flag? store.stalePieces = some store.stale := by
    unfold stalePieces
    cases store.stale <;> decide
  have read_values : items? Content.value? store.valuePieces = some store.values.entries :=
    items?_intercalate rfl fun entry _ => ⟨by simp, rfl⟩
  have read_commands : items? Content.name? store.commandPieces = some store.commands.keys :=
    items?_intercalate rfl fun name _ => ⟨by simp, rfl⟩
  rw [Content.read?, store.spells_json.pieces?]
  simp only [Option.bind_eq_bind, Option.bind_some, strip?_append, until?_append values,
    until?_append status, until?_append commands, until?_append stale, read_values, read_commands,
    flag]
  rfl

end UpsMonitor.Store
