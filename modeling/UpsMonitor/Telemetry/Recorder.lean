import UpsMonitor.Json
import UpsMonitor.Protocol
import UpsMonitor.Snapshot.Fields
import UpsMonitor.Telemetry.Clock
import UpsMonitor.Telemetry.Disk

/-!
# The recorder

Writes snapshots as lines of JSON. A file takes a fixed number of records, and then the next one is
begun; of all telemetry files only the last ones by name are kept.
-/

namespace UpsMonitor.Telemetry

def fieldText : Field → String
  | .number value => toString value
  | .flag value => Json.bool value
  | .text value => Json.quoted value
  | .bytes value => Json.list (value.map fun byte => toString byte.toNat)

/-- The line of a record. -/
def lineOf (time : LocalTime) (family : Family) (s : Snapshot) : String :=
  Json.record ([
    ("timestamp", Json.quoted time.timestamp),
    ("family", Json.quoted family.name),
    ("status", Json.quoted (" ".intercalate s.flags.tokens))]
    ++ s.fields.map fun (name, field) => (name, fieldText field))

/-- The name of the file begun at a time. Files begun at the same time are told apart by number. -/
def fileName (time : LocalTime) (sequence : Nat) : String :=
  "ups_" ++ time.stamp ++ "_" ++ padded 4 sequence ++ ".jsonl"

/-- Whether a name in the folder counts as a telemetry file. -/
def isTelemetryName (name : String) : Bool :=
  "ups_".toList.isPrefixOf name.toList && ".jsonl".toList.isSuffixOf name.toList

structure Recorder where
  maxRecords : Nat
  maxFiles : Nat
  /-- The open file. -/
  writer : Option Nat := none
  /-- The name of the file that was opened last. -/
  current : Option String := none
  /-- Records written to the open file. -/
  written : Nat := 0
  /-- Files begun so far, within 32 bits. -/
  sequence : UInt32 := 0

namespace Recorder

/-- Limits of zero are raised to one. -/
def ofLimits (maxRecords maxFiles : Nat) : Recorder :=
  { maxRecords := max maxRecords 1, maxFiles := max maxFiles 1 }

/-- The telemetry files that are too many: the first ones by name. -/
def excess (maxFiles : Nat) (names : List String) : List String :=
  let files := names.filter isTelemetryName
  files.take (files.length - maxFiles)

/-- Removes the telemetry files that are too many. What cannot be removed stays. -/
def prune (recorder : Recorder) (disk : Disk) : Except DiskFault Disk :=
  disk.names.map fun names => (excess recorder.maxFiles names).foldl Disk.removeFile disk

/-- Begins the next file. -/
def rotate (recorder : Recorder) (time : LocalTime) (disk : Disk) :
    Except DiskFault Unit × Recorder × Disk :=
  let recorder := { recorder with writer := none, sequence := recorder.sequence + 1 }
  let name := fileName time recorder.sequence.toNat
  match disk.openAppend name with
  | .error fault => (.error fault, recorder, disk)
  | .ok (handle, disk) =>
    let recorder := { recorder with writer := some handle, current := some name, written := 0 }
    match recorder.prune disk with
    | .error fault => (.error fault, recorder, disk)
    | .ok disk => (.ok (), recorder, disk)

/-- Whether the next record needs a new file. -/
def needsFile (recorder : Recorder) : Bool :=
  recorder.writer.isNone || recorder.maxRecords ≤ recorder.written

/-- Writes a line to the open file. -/
def write (recorder : Recorder) (line : String) (disk : Disk) : Recorder × Disk :=
  ({ recorder with written := recorder.written + 1 },
    match recorder.writer with
    | some handle => disk.append handle line
    | none => disk)

/-- Records a snapshot. The clock is read once for the file, if a new one is due, and once for the
record. -/
def record (recorder : Recorder) (fileTime recordTime : LocalTime) (family : Family) (s : Snapshot)
    (disk : Disk) : Except DiskFault Unit × Recorder × Disk :=
  let line := lineOf recordTime family s
  if recorder.needsFile then
    match recorder.rotate fileTime disk with
    | (.error fault, recorder, disk) => (.error fault, recorder, disk)
    | (.ok _, recorder, disk) => (.ok (), recorder.write line disk)
  else (.ok (), recorder.write line disk)

end Recorder

end UpsMonitor.Telemetry
