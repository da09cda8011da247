import PinBridge.Session.Serial

/-!
# Driving pins

Selecting a bit mode, writing to the pins and reading them back. The pins can be written and read
only while a bit mode other than reset is selected.
-/

namespace PinBridge.Command

/-- Selects a bit mode for the pins in the mask. -/
def setBitMode (mask : UInt8) (mode : BitMode) : Command Unit := do
  let d ← device
  if d.chip.supports mode then
    controlOut Request.setBitMode (mask.toUInt16 ||| mode.wire.toUInt16 <<< 8)
    update fun d => { d with mode := .ofBitMode mode }
    note (.bitMode mode mask)
  else fail (.invalidMode mode d.chip)

/-- Selects the bit mode that a byte stands for. -/
def setBitModeByte (mask value : UInt8) : Command Unit := do
  let _ ← device
  let mode ← ofExcept (BitMode.ofWire value)
  setBitMode mask mode

/-- Gives the pins back to the serial line. -/
def disableBitMode : Command Unit := setBitMode 0 .reset

/-- Fails unless the pins are driven. -/
def requireDriven : Command Unit := do
  let d ← device
  if d.mode = .normal then fail .bitbangDisabled

/-- Writes one byte after the other to the pins and tells how many were taken. -/
def writePattern (pattern : List UInt8) : Command Nat := do
  requireDriven
  bulkWrite pattern

/-- Writes a byte to the pins. -/
def writeData (value : UInt8) : Command Unit := do
  let _ ← writePattern [value]

/-- Reads the pins. -/
def readPins : Command UInt8 := do
  requireDriven
  let d ← device
  let data ← controlIn Request.readPins d.channel.index 1
  need data[0]?

end PinBridge.Command
