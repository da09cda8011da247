import PinBridge.Eeprom.Checksum

/-!
# The EEPROM header

The first bytes of a programmed image describe the device: its IDs, its power needs and where its
strings lie. `Header.read?` reads them and fails where the image is too short to hold a field. A
string lies as a USB string descriptor, two bytes of length and type and then two bytes for each
character, at an offset that counts modulo the size of the image, which is a power of two.
-/

namespace PinBridge.Eeprom

/-- What an image says of its device. -/
structure Header where
  vendor : UInt16
  product : UInt16
  release : UInt16
  selfPowered : Bool
  remoteWakeup : Bool
  /-- The current drawn from the bus, in milliamperes. -/
  maxPower : Nat
  useSerial : Bool
  manufacturer : Option String
  description : Option String
  serial : Option String
  deriving DecidableEq

namespace Header

/-- The word at a byte address. -/
def word? (bytes : List UInt8) (address : Nat) : Option UInt16 := do
  let low ← bytes[address]?
  let high ← bytes[address + 1]?
  return wordOf low high

/-- The `j`-th character of the string at an offset. -/
def char? (bytes : List UInt8) (start j : Nat) : Option Char := do
  let b ← bytes[(start + 2 + j * 2) % bytes.length]?
  return Char.ofNat b.toNat

/-- The string that a pair of bytes points to: its offset and the length of its descriptor.
A descriptor without characters stands for no string. -/
def string? (bytes : List UInt8) (pointer : Nat) : Option (Option String) := do
  let offset ← bytes[pointer]?
  let length ← bytes[pointer + 1]?
  let chars := length.toNat / 2 - 1
  if chars = 0 then return none
  let start := offset.toNat % bytes.length
  let text ← (List.range chars).mapM (char? bytes start)
  return some (String.ofList text)

/-- Whether a byte has a flag set. -/
def hasFlag (b flag : UInt8) : Bool := b &&& flag != 0

/-- The header of an image, if the image is long enough to hold one. -/
def read? (bytes : List UInt8) : Option Header := do
  let vendor ← word? bytes 0x02
  let product ← word? bytes 0x04
  let release ← word? bytes 0x06
  let power ← bytes[0x08]?
  let current ← bytes[0x09]?
  let config ← bytes[0x0A]?
  let manufacturer ← string? bytes 0x0E
  let description ← string? bytes 0x10
  let serial ← string? bytes 0x12
  return {
    vendor, product, release
    selfPowered := hasFlag power 0x40
    remoteWakeup := hasFlag power 0x20
    maxPower := current.toNat * 2
    useSerial := hasFlag config 0x08
    manufacturer, description, serial }

end Header

end PinBridge.Eeprom
