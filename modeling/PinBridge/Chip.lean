import PinBridge.BitMode

/-!
# Chip families

A chip tells its family by the release number of its device descriptor, with one exception: an
early `bm` part with an unprogrammed EEPROM reports the release number of an `am` part, and is
told apart by its missing serial number (`Chip.ofRelease`). The family fixes the size of the
EEPROM, the bulk packet size and the bit modes (`Chip.supports`).
-/

namespace PinBridge

/-- The families of bridge chips. -/
inductive Chip
  | am
  | bm
  | ft2232c
  | ft232r
  | ft2232h
  | ft4232h
  | ft232h
  | ft230x
  deriving DecidableEq

namespace Chip

/-- Every family, oldest first. -/
def all : List Chip := [am, bm, ft2232c, ft232r, ft2232h, ft4232h, ft232h, ft230x]

/-- The family that a device's release number stands for; an unknown one is taken for a `bm`. -/
def ofRelease (release : UInt16) (hasSerial : Bool) : Chip :=
  if release = 0x0400 then bm
  else if release = 0x0200 then if hasSerial then am else bm
  else if release = 0x0500 then ft2232c
  else if release = 0x0600 then ft232r
  else if release = 0x0700 then ft2232h
  else if release = 0x0800 then ft4232h
  else if release = 0x0900 then ft232h
  else if release = 0x1000 then ft230x
  else bm

/-- The high-speed families, which have a 120 MHz clock beside the 48 MHz one. -/
def isHighSpeed : Chip → Bool
  | ft2232h | ft4232h | ft232h => true
  | _ => false

/-- The bulk packet size where the device does not tell one. -/
def packetSize (chip : Chip) : Nat := if chip.isHighSpeed then 512 else 64

/-- The number of bytes that an EEPROM of the family can have at most. -/
def eepromSize : Chip → Nat
  | ft232r => 128
  | _ => 256

/-- The number of 16-bit words that an EEPROM of the family can have at most. -/
def eepromWords (chip : Chip) : UInt16 := UInt16.ofNat (chip.eepromSize / 2)

/-- Whether the family has the bit mode. -/
def supports (chip : Chip) : BitMode → Bool
  | .reset => true
  | .bitBang => chip != am
  | .syncBitBang => chip != am && chip != bm
  | .mpsse => chip == ft2232c || chip.isHighSpeed
  | .mcu | .opto => chip == ft2232c || chip == ft2232h || chip == ft232h
  | .cbus => chip == ft232r || chip == ft232h || chip == ft230x
  | .syncFifo => chip == ft2232h || chip == ft232h
  | .ft1284 => chip == ft232h

/-- The family's name in messages. -/
def name : Chip → String
  | am => "Am"
  | bm => "Bm"
  | ft2232c => "Ft2232C"
  | ft232r => "Ft232R"
  | ft2232h => "Ft2232H"
  | ft4232h => "Ft4232H"
  | ft232h => "Ft232H"
  | ft230x => "Ft230X"

end Chip

end PinBridge
