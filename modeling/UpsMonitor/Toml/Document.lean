import UpsMonitor.Toml.Grammar

/-!
# Documents

A document is read line by line. Pairs go into the table of the header before them. These modules
stand for a general library of the format: they follow its published grammar and its limits, but
their faults do not say what is wrong or where.
-/

namespace UpsMonitor.Toml

/-- The table built so far, and the header whose table is being filled. -/
structure Draft where
  root : Entries := []
  header : List String := []

def Draft.add (draft : Draft) : Line → Option Draft
  | .header path => do
    let root ← Entries.descend (Entries.openHere (path.getLastD "")) path.dropLast draft.root
    return { root, header := path }
  | .element path => do
    let root ← Entries.descend (Entries.beginHere (path.getLastD "")) path.dropLast draft.root
    return { root, header := path }
  | .pair key value => do
    let root ← Entries.change (fun entries => insertPair entries (key, value)) draft.header draft.root
    return { draft with root }

/-- The table of a document, if the text is one. -/
def parse? (text : String) : Option Entries := do
  let (lines, _) ← lines text.toList
  let draft ← lines.foldlM Draft.add {}
  return draft.root

end UpsMonitor.Toml
