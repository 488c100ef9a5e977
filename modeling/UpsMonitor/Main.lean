import UpsMonitor.Config.Reading
import UpsMonitor.Monitor.Control
import UpsMonitor.Monitor.Polling

/-!
# Command line

`-c FILE` names a configuration, `-v` asks for more output, and `--shutdown` runs the shutdown
sequence instead of polling. There is no USB stack behind this program, so its bus has no device.
-/

namespace UpsMonitor.Cli

/-- A bus without devices. -/
structure EmptyBus where

def hex4 (value : UInt16) : String :=
  String.ofList ([12, 8, 4, 0].map fun shift => Json.hexDigit (value.toNat >>> shift % 16))

def EmptyBus.answer : (call : Call) → EmptyBus → Except Fault call.Answer × EmptyBus
  | .opening matcher, bus =>
    (.error (.deviceNotFound (hex4 matcher.vendor ++ ":" ++ hex4 matcher.product)), bus)
  | .control _ _ _ _, bus | .write _ _ _, bus | .read _ _ _, bus | .clearHalt _, bus
  | .reset, bus => (.error (.usb .noDevice "no device"), bus)

instance : Device EmptyBus := ⟨EmptyBus.answer⟩

structure Options where
  config : Option String := none
  verbosity : Nat := 0
  shutdown : Bool := false
  deriving DecidableEq

/-- Reads the arguments, or tells which one is not understood. -/
def Options.read (options : Options) : List String → Except String Options
  | [] => .ok options
  | "-c" :: file :: rest | "--config" :: file :: rest =>
    { options with config := some file }.read rest
  | "--shutdown" :: rest => { options with shutdown := true }.read rest
  | "-v" :: rest | "--verbose" :: rest =>
    { options with verbosity := options.verbosity + 1 }.read rest
  | "-vv" :: rest => { options with verbosity := options.verbosity + 2 }.read rest
  | argument :: _ => .error s!"unexpected argument: {argument}"

/-- The monitor of a configuration, with nothing on its bus. -/
def monitorOf (config : Config) : Monitor EmptyBus :=
  .ofLink { bus := { device := {} }, matcher := config.matcher, settings := config.transport }
    config.monitor

/-- Establishes communication and, if asked to, shuts the unit down. -/
def start (options : Options) (config : Config) : Except Fault Unit × Monitor EmptyBus :=
  match (monitorOf config).establish with
  | (.error fault, m) => (.error fault, m)
  | (.ok _, m) => if options.shutdown then m.shutdown else (.ok (), m)

/-- The content of a file, if it can be read. -/
def contentOf (file : String) : IO (Option Bytes) := do
  try
    let content ← IO.FS.readBinFile file
    return some content.toList
  catch _ => return none

def configOf (options : Options) : IO (Except Config.Problem Config) := do
  match options.config with
  | none => return .ok {}
  | some file => return Config.ofFile (← contentOf file)

/-- Polls until a fatal fault. -/
partial def follow (interval : UInt32) (m : Monitor EmptyBus) : IO UInt32 := do
  match m.poll with
  | (.error fault, _) =>
    IO.eprintln fault.message
    return 1
  | (.ok fresh, m) =>
    if fresh then IO.println m.store.json
    IO.sleep (interval * 1000)
    follow interval { m with notices := [], talks := [] }

def run (arguments : List String) : IO UInt32 := do
  match Options.read {} arguments with
  | .error problem =>
    IO.eprintln problem
    return 2
  | .ok options =>
    match ← configOf options with
    | .error problem =>
      IO.eprint problem.message
      return 1
    | .ok config =>
      match start options config with
      | (.error fault, _) =>
        IO.eprintln fault.message
        return 1
      | (.ok _, m) =>
        if options.shutdown then return 0
        follow (.ofNat config.polling.interval) m

end UpsMonitor.Cli

def main (arguments : List String) : IO UInt32 := UpsMonitor.Cli.run arguments
