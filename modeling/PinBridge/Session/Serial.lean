import PinBridge.Baud.Divisor
import PinBridge.Session.Command

/-!
# The serial line

Resetting the open channel, emptying its buffers, and setting its baud rate and latency timer.
-/

namespace PinBridge

/-! ## The numbers of the control requests -/

namespace Request

/-- Resets the channel, or empties one of its buffers. -/
def reset : UInt8 := 0x00

/-- Sets the baud rate. -/
def setBaudRate : UInt8 := 0x03

/-- Sets the latency timer. -/
def setLatency : UInt8 := 0x09

/-- Reads the latency timer. -/
def getLatency : UInt8 := 0x0A

/-- Sets the bit mode. -/
def setBitMode : UInt8 := 0x0B

/-- Reads the pins. -/
def readPins : UInt8 := 0x0C

/-- Reads a word of the EEPROM. -/
def readEeprom : UInt8 := 0x90

/-- The value of a full reset. -/
def everything : UInt16 := 0

/-- The value that empties the receive buffer only. -/
def receiveBuffer : UInt16 := 1

/-- The value that empties the transmit buffer only. -/
def transmitBuffer : UInt16 := 2

end Request

namespace Command

/-- Forgets the bytes received and not yet read. -/
def forgetPending : Command Unit := update fun d => { d with pending := [] }

/-- Resets the channel. -/
def reset : Command Unit := do
  controlOut Request.reset Request.everything
  forgetPending

/-- Empties the receive buffer. -/
def purgeReceive : Command Unit := do
  controlOut Request.reset Request.receiveBuffer
  forgetPending

/-- Empties the transmit buffer. -/
def purgeTransmit : Command Unit := controlOut Request.reset Request.transmitBuffer

/-- Empties both buffers. -/
def purge : Command Unit := do
  purgeReceive
  purgeTransmit

/-- The largest rate that a request can be for. -/
def maxRate : Nat := 0xFFFFFFFF

/-- The rate to set up for a rate asked for: driven pins are clocked at a quarter of it. -/
def effectiveRate (mode : PinMode) (rate : UInt32) : Nat :=
  if mode = .normal then rate.toNat else min (rate.toNat * 4) maxRate

/-- Sets the baud rate to the nearest that the chip has, if it is near enough. -/
def setBaudRate (rate : UInt32) : Command Unit := do
  let d ← device
  let wanted := effectiveRate d.mode rate
  match Baud.Setting.ofRate? d.chip d.channel.index wanted with
  | none => fail (.invalidArgument "baud rate must be > 0")
  | some setting =>
    if Baud.withinTolerance wanted setting.actual then
      let s ← session
      ask (.controlOut d.handle Request.setBaudRate setting.value setting.index
        s.options.writeTimeout)
      update fun d => { d with baudRate := rate }
    else fail (.unsupportedBaudRate rate.toNat setting.actual)

/-- Sets the latency timer, in milliseconds. -/
def setLatency (ms : UInt8) : Command Unit :=
  if ms = 0 then fail (.invalidArgument "latency must be between 1 and 255")
  else controlOut Request.setLatency ms.toUInt16

/-- The latency timer, in milliseconds. -/
def latency : Command UInt8 := do
  let d ← device
  let data ← controlIn Request.getLatency d.channel.index 1
  need data[0]?

end Command

end PinBridge
