/-!
# Devices on the bus

A `Descriptor` is what enumeration tells of a device without opening it, `Strings` is what the
device itself answers, and a `Filter` picks one device out of an enumeration.
-/

namespace PinBridge

/-- The vendor ID of the bridge chips. -/
def vendorId : UInt16 := 0x0403

namespace ProductId

/-- The light board. -/
def board : UInt16 := 0x7AD0

/-- Chips with one channel. -/
def single : UInt16 := 0x6001

/-- Chips with two channels. -/
def dual : UInt16 := 0x6010

/-- Chips with four channels. -/
def quad : UInt16 := 0x6011

/-- The high-speed chip with one channel. -/
def highSpeed : UInt16 := 0x6014

/-- The products that the wildcard stands for. -/
def defaults : List UInt16 := [single, dual, quad, highSpeed, board]

end ProductId

/-- What a device answers when asked for its strings. -/
structure Strings where
  manufacturer : Option String
  description : Option String
  serial : Option String
  deriving DecidableEq

namespace Strings

/-- No strings at all. -/
def none : Strings := ⟨Option.none, Option.none, Option.none⟩

/-- The strings, each changed in the same way. -/
def map (f : String → String) (s : Strings) : Strings :=
  ⟨s.manufacturer.map f, s.description.map f, s.serial.map f⟩

end Strings

/-- A device as enumeration lists it; its strings are those the host remembers, if any. -/
structure Descriptor where
  vendor : UInt16
  product : UInt16
  bus : String
  address : UInt8
  release : UInt16
  strings : Strings
  deriving DecidableEq

namespace Descriptor

/-- Whether the device has the IDs; a pair of zeros asks for any default product of the vendor. -/
def matchesIds (d : Descriptor) (vendor product : UInt16) : Bool :=
  if vendor = 0 && product = 0 then d.vendor == vendorId && ProductId.defaults.contains d.product
  else d.vendor == vendor && d.product == product

/-- Whether the device sits at a place on the bus. -/
def isAt (d : Descriptor) (bus : String) (address : UInt8) : Bool :=
  d.bus == bus && d.address == address

end Descriptor

/-- Which device to take: the one at an index among those with the IDs and strings asked for. -/
structure Filter where
  vendor : UInt16
  product : UInt16
  description : Option String
  serial : Option String
  index : Nat
  deriving DecidableEq

namespace Filter

/-- The first device with the IDs. -/
def ofIds (vendor product : UInt16) : Filter := ⟨vendor, product, none, none, 0⟩

/-- Whether the choice depends on strings, which only the device itself can tell. -/
def needsStrings (f : Filter) : Bool := f.description.isSome || f.serial.isSome

/-- Whether a string is the one asked for, if one is. -/
def agrees (wanted found : Option String) : Bool := wanted.isNone || found == wanted

/-- Whether the strings are those asked for. -/
def accepts (f : Filter) (s : Strings) : Bool :=
  agrees f.description s.description && agrees f.serial s.serial

end Filter

end PinBridge
