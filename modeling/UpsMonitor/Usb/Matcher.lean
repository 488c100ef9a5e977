/-!
# Device matching

Which of the attached devices is the unit that is meant.
-/

namespace UpsMonitor

/-- What a device shows of itself before it is opened. -/
structure Identity where
  vendor : UInt16
  product : UInt16
  serial : Option String
  bus : UInt8
  deriving DecidableEq

/-- The filters a device has to pass. A filter that is not set lets everything through. -/
structure Matcher where
  vendor : UInt16
  product : UInt16
  serial : Option String := none
  bus : Option UInt8 := none
  deriving DecidableEq

namespace Matcher

def accepts (matcher : Matcher) (device : Identity) : Bool :=
  device.vendor = matcher.vendor && device.product = matcher.product
    && (matcher.serial.isNone || device.serial = matcher.serial)
    && (matcher.bus.isNone || some device.bus = matcher.bus)

/-- Narrows the filters to one unit. A unit without a serial leaves that filter as it was. -/
def pin (matcher : Matcher) (serial : Option String) (bus : UInt8) : Matcher :=
  { matcher with serial := serial <|> matcher.serial, bus := some bus }

end Matcher

end UpsMonitor
