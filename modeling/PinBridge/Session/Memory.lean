import PinBridge.Session.Serial

/-!
# Reading the EEPROM

A full read stages an image for inspection; single words can be read without it. One family keeps a
chip ID in two words beyond the image, scrambled (`ChipId.ofWords`).
-/

namespace PinBridge

namespace ChipId

/-- The addresses of the two words. -/
def addresses : UInt16 × UInt16 := (0x43, 0x44)

/-- The bits of a byte in the order in which the ID has them. -/
def permute (b : UInt8) : UInt8 :=
  ((b &&& 1) <<< 1) ||| ((b &&& 2) <<< 5) ||| ((b &&& 4) >>> 2) ||| ((b &&& 8) <<< 4) |||
    ((b &&& 16) >>> 1) ||| ((b &&& 32) >>> 1) ||| ((b &&& 64) >>> 4) ||| ((b &&& 128) >>> 2)

/-- What the permuted words are masked with. -/
def mask : UInt32 := 0xA5F0F7D1

/-- Four bytes as a number, the most significant first. -/
def ofBytes (a b c d : UInt8) : UInt32 :=
  a.toUInt32 <<< 24 ||| b.toUInt32 <<< 16 ||| c.toUInt32 <<< 8 ||| d.toUInt32

/-- The ID in the two words, each given by the two bytes that it is read as. -/
def ofWords (first second : UInt8 × UInt8) : UInt32 :=
  ofBytes (permute first.1) (permute first.2) (permute second.1) (permute second.2) ^^^ mask

end ChipId

namespace Command

/-- The two bytes of an EEPROM word, the low one first. -/
def readWord (address : UInt16) : Command (UInt8 × UInt8) := do
  let data ← controlIn Request.readEeprom address 2
  let low ← need data[0]?
  let high ← need data[1]?
  return (low, high)

/-- The bytes of the words from an address on, so many words. -/
def readWords (address : Nat) : Nat → Command (List UInt8)
  | 0 => return []
  | count + 1 => do
    let (low, high) ← readWord (UInt16.ofNat address)
    let rest ← readWords (address + 1) count
    return low :: high :: rest

/-- Reads the EEPROM and stages its image. -/
def readEeprom : Command Unit := do
  let d ← device
  let raw ← readWords 0 (Eeprom.fullSize / 2)
  let image := Eeprom.Image.stage raw d.chip
  modify fun s => { s with staged := some image }
  note (.staged image.size image.blank)

/-- The first bytes of the staged image. -/
def stagedPart (size : Nat) : Command (List UInt8) := do
  let bytes := (← session).stagedBytes
  if bytes.length < size then fail (.sizeMismatch size bytes.length)
  else return bytes.take size

/-- Reads one word of the EEPROM. -/
def readEepromWord (address : UInt16) : Command UInt16 := do
  let d ← device
  if d.chip.eepromWords ≤ address then fail (.outOfRange address d.chip.eepromWords)
  else
    let (low, high) ← readWord address
    return Eeprom.wordOf low high

/-- Reads the chip ID. -/
def readChipId : Command UInt32 := do
  let d ← device
  if d.chip = .ft232r then
    let first ← readWord ChipId.addresses.1
    let second ← readWord ChipId.addresses.2
    let id := ChipId.ofWords first second
    note (.chipId id)
    return id
  else fail (.unsupportedChip d.chip)

end Command

end PinBridge
