import UpsMonitor.SortedMap

/-!
# The disk

One folder of text files, as far as a recorder can see it. A file that was removed while it is open
can still be written to, but no one will read it.
-/

namespace UpsMonitor.Telemetry

inductive DiskFault
  | notFound
  | alreadyExists
  | isADirectory
  | notADirectory
  deriving DecidableEq

def DiskFault.name : DiskFault → String
  | notFound => "NotFound"
  | alreadyExists => "AlreadyExists"
  | isADirectory => "IsADirectory"
  | notADirectory => "NotADirectory"

/-- A name in the folder. A file has an identity of its own, which an open handle refers to. -/
inductive Entry
  | file (handle : Nat) (lines : List String)
  | folder

/-- What there is at the path of the folder. -/
inductive Place
  | missing
  /-- A regular file. -/
  | occupied
  | folder (entries : SortedMap Entry)

structure Disk where
  place : Place := .missing
  /-- Handles from here on were never given out. -/
  fresh : Nat := 0

namespace Disk

/-- Makes the folder if it is missing. -/
def create (disk : Disk) : Except DiskFault Disk :=
  match disk.place with
  | .missing => .ok { disk with place := .folder {} }
  | .folder _ => .ok disk
  | .occupied => .error .alreadyExists

/-- Removes the folder with all that is in it. -/
def remove (disk : Disk) : Disk := { disk with place := .missing }

/-- Adds a file to the folder. -/
def addFile (disk : Disk) (name : String) (lines : List String) : Disk :=
  match disk.place with
  | .folder entries =>
    { place := .folder (entries.insert name (.file disk.fresh lines)), fresh := disk.fresh + 1 }
  | _ => disk

def addFolder (disk : Disk) (name : String) : Disk :=
  match disk.place with
  | .folder entries => { disk with place := .folder (entries.insert name .folder) }
  | _ => disk

/-- Opens a file of the folder for writing at its end, and makes it if it is missing. -/
def openAppend (disk : Disk) (name : String) : Except DiskFault (Nat × Disk) :=
  match disk.place with
  | .missing => .error .notFound
  | .occupied => .error .notADirectory
  | .folder entries =>
    match entries.get? name with
    | some (.file handle _) => .ok (handle, disk)
    | some .folder => .error .isADirectory
    | none => .ok (disk.fresh, disk.addFile name [])

/-- Writes a line to an open file. It is lost if the file is no longer in the folder. -/
def append (disk : Disk) (handle : Nat) (line : String) : Disk :=
  match disk.place with
  | .folder entries =>
    let write : Entry → Entry
      | .file held lines => .file held (if held = handle then lines ++ [line] else lines)
      | .folder => .folder
    { disk with place := .folder (entries.mapValues write) }
  | _ => disk

/-- Removes a file of the folder. Folders in it stay. -/
def removeFile (disk : Disk) (name : String) : Disk :=
  match disk.place with
  | .folder entries =>
    match entries.get? name with
    | some (.file _ _) => { disk with place := .folder (entries.erase name) }
    | _ => disk
  | _ => disk

/-- The names in the folder, in order. -/
def names (disk : Disk) : Except DiskFault (List String) :=
  match disk.place with
  | .missing => .error .notFound
  | .occupied => .error .notADirectory
  | .folder entries => .ok entries.keys

/-- The lines of a file of the folder. -/
def read? (disk : Disk) (name : String) : Option (List String) :=
  match disk.place with
  | .folder entries =>
    match entries.get? name with
    | some (.file _ lines) => some lines
    | _ => none
  | _ => none

end Disk

end UpsMonitor.Telemetry
