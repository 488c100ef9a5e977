import UpsMonitor.Command.Gpser
import UpsMonitor.Command.Sentry

/-!
# Instant commands

The commands a user may name, when each is accepted, and the frames that carry it out.
-/

namespace UpsMonitor

inductive InstantCommand
  | loadOff
  | loadOffDelay
  | loadOn
  | loadOnDelay
  | shutdownReturn
  | shutdownStop
  | testPanelStart
  | testBatteryStart
  deriving DecidableEq

/-- What came of an instant command. -/
inductive CommandStatus
  | handled
  | failed
  | unknown
  deriving DecidableEq

/-- Seconds until the output goes off, and minutes until it comes back. -/
structure Delays where
  shutdown : UInt16 := 20
  reboot : UInt16 := 0
  deriving DecidableEq, Inhabited

namespace InstantCommand

/-- All of them, in the order in which they are advertised. -/
def all : List InstantCommand :=
  [loadOff, loadOn, loadOffDelay, loadOnDelay, shutdownReturn, shutdownStop, testBatteryStart,
    testPanelStart]

def name : InstantCommand → String
  | loadOff => "load.off"
  | loadOffDelay => "load.off.delay"
  | loadOn => "load.on"
  | loadOnDelay => "load.on.delay"
  | shutdownReturn => "shutdown.return"
  | shutdownStop => "shutdown.stop"
  | testPanelStart => "test.panel.start"
  | testBatteryStart => "test.battery.start"

/-- Texts that differ in the case of ASCII letters only. -/
def sameLetters (a b : String) : Bool := a.toList.map Char.toLower == b.toList.map Char.toLower

/-- The command of a name, whatever the case of its letters. -/
def ofName? (text : String) : Option InstantCommand :=
  all.find? fun command => sameLetters command.name text

/-- SENTRY units have no panel test. -/
def supportedBy (command : InstantCommand) (family : Family) : Bool :=
  !(command = testPanelStart && family = .sentry)

/-- The output is switched on line only, and a shutdown with return is for battery operation
only. -/
def allowed (command : InstantCommand) (onBattery : Bool) : Bool :=
  match command with
  | loadOff | loadOffDelay | loadOn | loadOnDelay => !onBattery
  | shutdownReturn => onBattery
  | shutdownStop | testPanelStart | testBatteryStart => true

def gpser (command : InstantCommand) (delays : Delays) : GpserCommand :=
  match command with
  | loadOff => .shutdown 0
  | loadOffDelay | shutdownReturn => .shutdown delays.shutdown
  | loadOn => .restart 0
  | loadOnDelay => .restart delays.reboot
  | shutdownStop => .cancelShutdown
  | testPanelStart => .panelTest
  | testBatteryStart => .batteryTest

/-- Switching the output on first arms the delay and then restarts with it. -/
def sentry (command : InstantCommand) (delays : Delays) : List SentryCommand :=
  match command with
  | loadOff => [.shutdown 0]
  | loadOffDelay | shutdownReturn => [.shutdown delays.shutdown]
  | loadOn => [.setReboot 0, .reboot 0]
  | loadOnDelay => [.setReboot delays.reboot, .reboot delays.reboot]
  | shutdownStop => [.cancel]
  | testBatteryStart => [.batteryTest]
  | testPanelStart => []

/-- The frames to send, in order. There are none if the family lacks the command. -/
def frames (command : InstantCommand) (family : Family) (mode : CheckMode) (delays : Delays) :
    List Command :=
  match family with
  | .gpser => [(command.gpser delays).encode mode]
  | .sentry => (command.sentry delays).map SentryCommand.encode

end InstantCommand

end UpsMonitor
