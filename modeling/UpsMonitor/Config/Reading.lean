import UpsMonitor.Config
import UpsMonitor.Text.Utf8
import UpsMonitor.Toml.Document

/-!
# Reading a configuration

The sections of a document and the values in them. What is not given has its default and what is not
known is ignored, but a known value has to be of its kind. Documents are read by a library of their
own, for which `Toml.parse?` stands; what is checked is checked behind any reader (`parseBy`).
-/

namespace UpsMonitor.Config

open Toml (Value Entries)

/-- Where the values of a section stand: under their keys or, in a list, at their places. -/
inductive Source
  | keyed (entries : Entries)
  | listed (items : List Value)

namespace Source

/-- The section under a key of the document. A date is a section that gives nothing. -/
def ofEntries? (document : Entries) (name : String) : Option Source :=
  match document.lookup name with
  | none => some (.keyed [])
  | some (.table _ entries) => some (.keyed entries)
  | some (.array items) => some (.listed items)
  | some (.tables items) => some (.listed (items.map (.table .headed)))
  | some (.moment _) => some (.keyed [])
  | some _ => none

def value? (source : Source) (place : Nat) (key : String) : Option Value :=
  match source with
  | .keyed entries => entries.lookup key
  | .listed items => items[place]?

/-- A value, read if it is given. -/
def read {α : Type} (source : Source) (place : Nat) (key : String) (kind : Value → Option α)
    (default : α) : Option α :=
  match source.value? place key with
  | some value => kind value
  | none => some default

end Source

/-- A natural number up to a bound. -/
def natural (bound : Nat) : Value → Option Nat
  | .integer value => if 0 ≤ value ∧ value ≤ bound then some value.toNat else none
  | _ => none

def byte (value : Value) : Option UInt8 := (natural 0xFF value).map .ofNat

def word (value : Value) : Option UInt16 := (natural 0xFFFF value).map .ofNat

def long (value : Value) : Option UInt32 := (natural 0xFFFFFFFF value).map .ofNat

def count (value : Value) : Option Nat := natural 0xFFFFFFFFFFFFFFFF value

def text : Value → Option String
  | .text value => some value
  | _ => none

def flag : Value → Option Bool
  | .flag value => some value
  | _ => none

def familyOfName : String → Option FamilyChoice
  | "auto" => some .auto
  | "gpser" => some .gpser
  | "sentry" => some .sentry
  | _ => none

/-- An array or a table without anything in it. -/
def isEmpty : Value → Bool
  | .array items => items.isEmpty
  | .table _ entries => entries.isEmpty
  | .tables items => items.isEmpty
  | _ => false

/-- A family is given by its name, or by a table whose one key is its name. -/
def choice : Value → Option FamilyChoice
  | .text name => familyOfName name
  | .table _ [(name, value)] => if isEmpty value then familyOfName name else none
  | _ => none

def usbOf (source : Source) : Option Usb := do
  let base : Usb := {}
  return {
    vendor := ← source.read 0 "vendor_id" word base.vendor
    product := ← source.read 1 "product_id" word base.product
    serial := ← source.read 2 "serial" (fun value => (text value).map some) base.serial
    bus := ← source.read 3 "bus" (fun value => (byte value).map some) base.bus
    timeout := ← source.read 4 "timeout_ms" count base.timeout
    writeDelay := ← source.read 5 "write_delay" long base.writeDelay
    readInterval := ← source.read 6 "read_interval_ms" count base.readInterval
    maxReports := ← source.read 7 "max_reports" count base.maxReports }

def pollingOf (source : Source) : Option Polling := do
  let base : Polling := {}
  return {
    interval := ← source.read 0 "interval_s" count base.interval
    countlost := ← source.read 1 "countlost" long base.countlost }

def shutdownOf (source : Source) : Option Shutdown := do
  let base : Shutdown := {}
  return {
    delays := {
      shutdown := ← source.read 0 "delay_shutdown" word base.delays.shutdown
      reboot := ← source.read 1 "delay_reboot" word base.delays.reboot }
    retries := ← source.read 2 "retries" long base.retries }

def recordingOf (source : Source) : Option Recording := do
  let base : Recording := {}
  return {
    enabled := ← source.read 0 "enabled" flag base.enabled
    folder := ← source.read 1 "log_dir" text base.folder
    maxRecords := ← source.read 2 "max_records_per_file" count base.maxRecords
    maxFiles := ← source.read 3 "max_files_to_keep" count base.maxFiles }

/-- The configuration that a document gives, whether or not it keeps the rules. -/
def ofDocument? (document : Entries) : Option Config := do
  let usb ← Source.ofEntries? document "usb"
  let protocol ← Source.ofEntries? document "protocol"
  let polling ← Source.ofEntries? document "poll"
  let shutdown ← Source.ofEntries? document "shutdown"
  let telemetry ← Source.ofEntries? document "telemetry"
  let logging ← Source.ofEntries? document "logging"
  return {
    usb := ← usbOf usb
    family := ← protocol.read 0 "family" choice .gpser
    polling := ← pollingOf polling
    shutdown := ← shutdownOf shutdown
    telemetry := ← recordingOf telemetry
    logFolder := ← logging.read 0 "dir" (fun value => (text value).map some) none }

/-- The configuration that a text gives, whether or not it keeps the rules. -/
def ofText? (text : String) : Option Config := Toml.parse? text >>= ofDocument?

/-- Reads a configuration in some way and checks it. -/
def parseBy (read? : String → Option Config) (text : String) : Except Problem Config :=
  match read? text with
  | some config => config.validate
  | none => .error .malformed

/-- Reads and checks a configuration. -/
def parse (text : String) : Except Problem Config := parseBy ofText? text

/-- The configuration in a file, given its content if it exists. -/
def ofFile (content : Option Bytes) : Except Problem Config :=
  match content with
  | none => .error .missing
  | some bytes =>
    match Text.Utf8.decode? bytes with
    | some text => parse (String.ofList text)
    | none => .error .notText

end UpsMonitor.Config
