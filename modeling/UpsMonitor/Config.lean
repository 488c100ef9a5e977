import UpsMonitor.Monitor

/-!
# Configuration

What can be configured, which values are refused, and what the parts of the monitor are told.
-/

namespace UpsMonitor

namespace Config

/-- Which device to open, and how fast to talk to it. -/
structure Usb where
  vendor : UInt16 := 0x04B4
  product : UInt16 := 0x5500
  serial : Option String := none
  bus : Option UInt8 := none
  /-- Milliseconds. -/
  timeout : Nat := 1000
  /-- A delay of 1 is 400 microseconds; larger ones are milliseconds. -/
  writeDelay : UInt32 := 200
  /-- Milliseconds. -/
  readInterval : Nat := 10
  maxReports : Nat := 300
  deriving DecidableEq

structure Polling where
  /-- Seconds. -/
  interval : Nat := 2
  countlost : UInt32 := FailureCounter.defaultLimit
  deriving DecidableEq

structure Shutdown where
  delays : Delays := {}
  retries : UInt32 := 3
  deriving DecidableEq

structure Recording where
  enabled : Bool := false
  folder : String := "./telemetry"
  maxRecords : Nat := 10000
  maxFiles : Nat := 10
  deriving DecidableEq

end Config

structure Config where
  usb : Config.Usb := {}
  family : FamilyChoice := .gpser
  polling : Config.Polling := {}
  shutdown : Config.Shutdown := {}
  telemetry : Config.Recording := {}
  /-- The folder for log files. -/
  logFolder : Option String := none
  deriving DecidableEq

namespace Config

/-- The rules that a configuration has to keep. -/
inductive Rule
  | timeout
  | writeDelay
  | readInterval
  | maxReports
  | interval
  | countlost
  | retries
  | folder
  | maxRecords
  | maxFiles
  deriving DecidableEq

namespace Rule

/-- All rules, in the order in which they are looked at. -/
def all : List Rule :=
  [timeout, writeDelay, readInterval, maxReports, interval, countlost, retries, folder, maxRecords,
    maxFiles]

def keptBy (config : Config) : Rule → Bool
  | timeout => 1 ≤ config.usb.timeout && config.usb.timeout ≤ 60000
  | writeDelay => config.usb.writeDelay ≤ 10000
  | readInterval => config.usb.readInterval ≤ 1000
  | maxReports => 1 ≤ config.usb.maxReports && config.usb.maxReports ≤ 10000
  | interval => 1 ≤ config.polling.interval && config.polling.interval ≤ 3600
  | countlost => 1 ≤ config.polling.countlost
  | retries => 1 ≤ config.shutdown.retries && config.shutdown.retries ≤ 10
  | folder => !(config.telemetry.enabled && config.telemetry.folder = "")
  | maxRecords => 1 ≤ config.telemetry.maxRecords
  | maxFiles => 1 ≤ config.telemetry.maxFiles

def message : Rule → String
  | timeout => "timeout_ms must be between 1 and 60000"
  | writeDelay => "write_delay must be at most 10000"
  | readInterval => "read_interval_ms must be at most 1000"
  | maxReports => "max_reports must be between 1 and 10000"
  | interval => "poll interval_s must be between 1 and 3600"
  | countlost => "countlost must be greater than 0"
  | retries => "shutdown retries must be between 1 and 10"
  | folder => "telemetry log_dir cannot be empty when enabled"
  | maxRecords => "max_records_per_file must be greater than 0"
  | maxFiles => "max_files_to_keep must be greater than 0"

end Rule

/-- The first rule that is broken. -/
def broken? (config : Config) : Option Rule := Rule.all.find? fun rule => !rule.keptBy config

/-- Why there is no configuration. -/
inductive Problem
  /-- The text is no document, or a value in it is not of the kind it should be. -/
  | malformed
  | refused (rule : Rule)
  | missing
  /-- The file is not UTF-8. -/
  | notText
  deriving DecidableEq

def Problem.message : Problem → String
  | malformed => "Configuration error: malformed document\n"
  | refused rule => s!"Configuration error: {rule.message}\n"
  | missing => "I/O error: file not found"
  | notText => "I/O error: file is not valid UTF-8"

/-- A configuration that keeps all rules. -/
def validate (config : Config) : Except Problem Config :=
  match config.broken? with
  | some rule => .error (.refused rule)
  | none => .ok config

def matcher (config : Config) : Matcher where
  vendor := config.usb.vendor
  product := config.usb.product
  serial := config.usb.serial
  bus := config.usb.bus

def transport (config : Config) : Transport.Settings where
  timeout := config.usb.timeout * 1000
  writeDelay := Report.pause config.usb.writeDelay
  readInterval := config.usb.readInterval * 1000
  maxReports := config.usb.maxReports

def monitor (config : Config) : Monitor.Settings where
  family := config.family
  delays := config.shutdown.delays
  countlost := config.polling.countlost
  shutdownRetries := config.shutdown.retries.toNat

end Config

end UpsMonitor
