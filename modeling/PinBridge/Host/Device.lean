import PinBridge.Program
import PinBridge.Text.Blank

/-!
# Devices of a host

What a host's kernel knows of the devices on its buses: the `Entry` that it writes for each, and
behind it, if the device can be opened, the device `Node` with its descriptors. Enumeration reads
an entry as a `Device` (`Entry.device?`). A configuration lists interfaces, each with alternate
settings, and each setting its endpoints. In it `Configuration.packetSize?` and
`Configuration.endpoint?` look endpoints up.
-/

namespace PinBridge.Host

/-- How an endpoint transfers data. -/
inductive TransferType
  | control
  | isochronous
  | bulk
  | interrupt
  deriving DecidableEq

/-- An endpoint of an alternate setting. -/
structure Endpoint where
  address : UInt8
  /-- What its descriptor says of the packets: their size and how many may follow at once. -/
  packets : UInt16
  type : TransferType
  deriving DecidableEq

namespace Endpoint

/-- Whether an endpoint is one towards the host. -/
def isIn (e : Endpoint) : Bool := e.address &&& 0x80 != 0

/-- The size of a packet, which the low eleven bits tell. -/
def packetSize (e : Endpoint) : Nat := e.packets.toNat % 2048

end Endpoint

/-- An interface: its number and, for each alternate setting, the endpoints. -/
structure InterfaceEntry where
  number : UInt8
  settings : List (List Endpoint)
  deriving DecidableEq

/-- The interfaces of a configuration, in the order of the descriptors. -/
abbrev Configuration : Type := List InterfaceEntry

namespace Configuration

/-- Whether the configuration has an interface of a number. -/
def hasInterface (c : Configuration) (number : UInt8) : Bool := c.any fun i => i.number == number

/-- The packet size of the first endpoint that an interface has in any of its settings. -/
def packetSize? (c : Configuration) (number : UInt8) : Option Nat :=
  c.findSome? fun i =>
    if i.number = number then
      i.settings.findSome? fun endpoints => endpoints.head?.map (·.packetSize)
    else none

/-- The endpoints in the first setting of an interface, of all entries that have its number. -/
def firstSetting? (c : Configuration) (number : UInt8) : Option (List Endpoint) :=
  c.findSome? fun i => if i.number = number then i.settings.head? else none

/-- The endpoint of an address in the first setting of an interface. -/
def endpoint? (c : Configuration) (number address : UInt8) : Option Endpoint := do
  (← c.firstSetting? number).find? fun e => e.address == address

end Configuration

/-- The indexes under which a device keeps its strings; zero stands for no string. -/
structure StringIndexes where
  manufacturer : UInt8
  description : UInt8
  serial : UInt8
  deriving DecidableEq

/-- A device that can be opened. -/
structure Node where
  release : UInt16
  indexes : StringIndexes
  strings : List (UInt8 × String)
  /-- Whether the configuration is active. -/
  configured : Bool
  configuration : Configuration
  deriving DecidableEq

/-- The configuration that is active. -/
def Node.active? (n : Node) : Option Configuration :=
  if n.configured then some n.configuration else none

/-- What the kernel writes of a device on a bus: the numbers, and the strings with any blanks. -/
structure Entry where
  vendor : Nat
  product : Nat
  busNumber : Nat
  number : Nat
  release : Nat
  strings : Strings
  node : Option Node
  deriving DecidableEq

/-- A device as enumeration reads its entry. -/
structure Device where
  vendor : UInt16
  product : UInt16
  busNumber : UInt8
  number : UInt8
  release : UInt16
  strings : Strings
  node : Option Node
  deriving DecidableEq

/-- The number as a byte, if it is one. -/
def byte? (n : Nat) : Option UInt8 := if n < 256 then some (UInt8.ofNat n) else none

/-- The number as a word of two bytes, if it is one. -/
def word? (n : Nat) : Option UInt16 := if n < 65536 then some (UInt16.ofNat n) else none

/-- The device of an entry, its strings trimmed. An entry with a number that is too large for its
field cannot be read. -/
def Entry.device? (e : Entry) : Option Device := do
  return {
    vendor := ← word? e.vendor
    product := ← word? e.product
    busNumber := ← byte? e.busNumber
    number := ← byte? e.number
    release := ← word? e.release
    strings := e.strings.map Blank.trim
    node := e.node }

namespace Device

/-- A number with zeros in front, up to three digits. -/
def threeDigits (n : Nat) : String :=
  let digits := Nat.toDigits 10 n
  String.ofList (List.replicate (3 - digits.length) '0' ++ digits)

/-- The name of the device's bus. -/
def bus (d : Device) : String := threeDigits d.busNumber.toNat

/-- The name of the device's node. -/
def path (d : Device) : String := d.bus ++ "/" ++ threeDigits d.number.toNat

/-- The device as enumeration lists it. -/
def descriptor (d : Device) : Descriptor :=
  ⟨d.vendor, d.product, d.bus, d.number, d.release, d.strings⟩

/-- Whether a descriptor is one of this device: the place and the IDs have to be the same. -/
def isNamedBy (d : Device) (other : Descriptor) : Bool :=
  other.isAt d.bus d.number && d.vendor == other.vendor && d.product == other.product

/-- Whether a device comes before another, by the names of the buses and then by the numbers. -/
def before (d e : Device) : Bool :=
  decide (d.bus < e.bus) || (d.bus == e.bus && decide (d.number ≤ e.number))

end Device

end PinBridge.Host
