import PinBridge.Chip
import PinBridge.Eeprom.Header

/-!
# EEPROM images

A full read asks for 256 bytes whatever the part holds, and a smaller part answers with its content
over and over. `detect` finds the size from the repetition, `Image.stage` keeps a full read with
its size, and the accessors of `Image` read the staged bytes.
-/

namespace PinBridge.Eeprom

/-- The number of bytes in a full read. -/
def fullSize : Nat := 256

/-- The size of a part, and whether it is unprogrammed. -/
structure Extent where
  size : Nat
  blank : Bool
  deriving DecidableEq

/-- Whether the first `n` bytes come twice. -/
def repeatsAt (raw : List UInt8) (n : Nat) : Bool := raw.take n == (raw.drop n).take n

/-- The extent of a part from a full read: one family has a part of fixed size, nothing but ones is
an unprogrammed part, and elsewhere the repetition tells. -/
def detect (raw : List UInt8) (chip : Chip) : Extent :=
  if chip = .ft232r then ⟨128, false⟩
  else if raw.all (· == 0xFF) then ⟨256, true⟩
  else if repeatsAt raw 128 then
    ⟨128, false⟩
  else if repeatsAt raw 64 then ⟨64, false⟩
  else ⟨256, false⟩

/-- A full read of an EEPROM, staged for inspection. -/
structure Image where
  raw : List UInt8
  size : Nat
  blank : Bool
  chip : Chip
  deriving DecidableEq

namespace Image

/-- Stages a full read from a chip. -/
def stage (raw : List UInt8) (chip : Chip) : Image :=
  let extent := detect raw chip
  ⟨raw, extent.size, extent.blank, chip⟩

/-- The bytes of the part. -/
def bytes (image : Image) : List UInt8 := image.raw.take image.size

/-- The checksum in the last word of the part. -/
def storedChecksum? (image : Image) : Option UInt16 :=
  Header.word? image.bytes (image.size - 2)

/-- Whether the part is programmed and its stored checksum is the one of its content. -/
def verifies (image : Image) : Bool :=
  !image.blank &&
    image.storedChecksum? == some (checksum image.raw image.size (image.chip == .ft230x))

/-- The header of a programmed part. -/
def header? (image : Image) : Option Header :=
  if image.blank then none else Header.read? image.bytes

end Image

end PinBridge.Eeprom
