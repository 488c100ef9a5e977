import UpsMonitor.Command.Instant
import UpsMonitor.Snapshot
import UpsMonitor.Store

/-!
# What is published

The notices that follow from a snapshot. Each list is a function of what is known and of nothing
else.
-/

namespace UpsMonitor.Publishing

/-- The maker of all units. -/
def manufacturer : String := "RPS S.p.a."

/-- A count of tenths with one decimal place. -/
def tenths (value : UInt16) : String :=
  toString (value / 10).toNat ++ "." ++ toString (value % 10).toNat

/-- A count of tenths with two decimal places, of which the second is zero. -/
def tenthsWide (value : UInt16) : String := tenths value ++ "0"

def word (value : UInt16) : String := toString value.toNat

def long (value : UInt32) : String := toString value.toNat

/-- One key for each phase, between a beginning and an ending. -/
def perPhase (stem ending : String) (values : PerPhase String) : List Notice :=
  [.info (stem ++ "L1" ++ ending) values.l1, .info (stem ++ "L2" ++ ending) values.l2,
    .info (stem ++ "L3" ++ ending) values.l3]

/-- Who the unit is. Only three-phase sides tell the number of their phases. -/
def identity (layout : PhaseLayout) (delays : Delays) (s : Snapshot) : List Notice :=
  (if layout.inputSingle then []
    else [.info "input.phases" "3", .info "input.bypass.phases" "3"])
  ++ (if layout.outputSingle then [] else [.info "output.phases" "3"])
  ++ [.info "device.mfr" manufacturer, .info "device.model" s.modelName,
    .info "device.serial" s.serial, .info "device.type" "ups", .info "ups.mfr" manufacturer,
    .info "ups.model" s.modelName, .info "ups.serial" s.serial, .info "ups.firmware" s.firmware,
    .info "ups.delay.shutdown" (word delays.shutdown),
    .info "ups.delay.reboot" (word delays.reboot)]

/-- What the unit is rated for. -/
def nominal (s : Snapshot) : List Notice :=
  [.info "ups.realpower.nominal" (long s.nominalRealPower),
    .info "ups.power.nominal" (long s.nominalPower),
    .info "output.voltage.nominal" (word s.nominalOutputVoltage),
    .info "output.frequency.nominal" (tenths s.nominalOutputFrequency),
    .info "battery.voltage.nominal" (word s.nominalBatteryVoltage),
    .info "battery.capacity" (word s.batteryCapacity)]

/-- Values that do not depend on the phases. An unknown run time is not published. -/
def common (s : Snapshot) : List Notice :=
  [.info "input.frequency" (tenthsWide s.inputFrequency),
    .info "input.bypass.frequency" (tenthsWide s.bypassFrequency),
    .info "output.frequency" (tenthsWide s.outputFrequency),
    .info "battery.voltage" (tenths s.batteryVoltage),
    .info "battery.charge" (word s.charge)]
  ++ (if s.runtime = unknownWord then []
    else [.info "battery.runtime" (long (s.runtime.toUInt32 * 60))])
  ++ [.info "ups.temperature" (word s.temperature)]

def input (layout : PhaseLayout) (s : Snapshot) : List Notice :=
  if layout.inputSingle then
    [.info "input.voltage" (word s.inputVoltage.l1),
      .info "input.bypass.voltage" (word s.bypassVoltage.l1)]
  else
    perPhase "input." "-N.voltage" (s.inputVoltage.map word)
      ++ perPhase "input.bypass." "-N.voltage" (s.bypassVoltage.map word)

/-- The load of three phases is their mean, rounded down. -/
def meanLoad (load : PerPhase UInt16) : UInt32 :=
  (load.l1.toUInt32 + load.l2.toUInt32 + load.l3.toUInt32) / 3

def output (layout : PhaseLayout) (s : Snapshot) : List Notice :=
  if layout.outputSingle then
    [.info "output.voltage" (word s.outputVoltage.l1),
      .info "output.power.percent" (word s.load.l1), .info "ups.load" (word s.load.l1)]
  else
    perPhase "output." "-N.voltage" (s.outputVoltage.map word)
      ++ perPhase "output." ".power.percent" (s.load.map word)
      ++ [.info "ups.load" (long (meanLoad s.load))]

/-- Powers and currents of the output phases. -/
def powers (s : Snapshot) : List Notice :=
  perPhase "output." ".power" (s.power.map long)
    ++ perPhase "output." ".realpower" (s.realPower.map long)
    ++ perPhase "output." ".current" (s.outputCurrent.map word)

/-- How the unit is. Powers and currents are published only with an extended reply. -/
def status (layout : PhaseLayout) (extended : Bool) (s : Snapshot) : List Notice :=
  common s ++ input layout s ++ output layout s ++ [.status s.flags.tokens]
    ++ (if extended then powers s else [])

/-- The commands that the family has. -/
def commands (family : Family) : List Notice :=
  (InstantCommand.all.filter (·.supportedBy family)).map fun command => .command command.name

end UpsMonitor.Publishing
