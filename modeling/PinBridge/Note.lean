import PinBridge.Device
import PinBridge.Error
import PinBridge.Text.Hex

/-!
# Notes

What the library tells of its doings while it works. A `Note` records an event with its particulars;
`Note.level` grades it and `Note.text` words it.
-/

namespace PinBridge

/-- How much a note matters. -/
inductive Level
  | trace
  | debug
  | warn
  deriving DecidableEq

/-- The level's name in a record. -/
def Level.name : Level → String
  | trace => "TRACE"
  | debug => "DEBUG"
  | warn => "WARN"

/-- An event worth telling. -/
inductive Note
  | found (vendor product : UInt16) (count : Nat)
  | opened (device : Descriptor) (chip : Chip) (packetSize : Nat)
  | openFailed (device : Descriptor) (error : Error)
  | closing (vendor product : UInt16)
  | resetFailed (error : Error)
  | bitMode (mode : BitMode) (mask : UInt8)
  | chipId (id : UInt32)
  | staged (size : Nat) (blank : Bool)
  | claimRefused (interface : UInt8) (fault : HostFault)
  | attached (device : Descriptor) (release : UInt16)
  | sentControl (request : UInt8) (value index : UInt16)
  | gotControl (request : UInt8) (value index : UInt16) (length : Nat)
  | sentBulk (endpoint : UInt8) (length : Nat)
  | gotBulk (endpoint : UInt8) (length : Nat)
  deriving DecidableEq

namespace Note

/-- The level of a note. -/
def level : Note → Level
  | resetFailed _ => .warn
  | sentControl .. | gotControl .. | sentBulk .. | gotBulk .. => .trace
  | _ => .debug

/-- A pair of IDs. -/
def ids (vendor product : UInt16) : String :=
  Hex.padded 4 vendor.toNat ++ ":" ++ Hex.padded 4 product.toNat

/-- The fields of a control request. -/
def control (request : UInt8) (value index : UInt16) : String :=
  "req=" ++ Hex.marked 2 request.toNat ++ " value=" ++ Hex.marked 4 value.toNat ++
    " index=" ++ Hex.marked 4 index.toNat

/-- A note in words. -/
def text : Note → String
  | found vendor product count =>
    "find_all " ++ ids vendor product ++ ": " ++ toString count ++ " device(s)"
  | opened device chip packetSize =>
    "opened " ++ ids device.vendor device.product ++ " as " ++ chip.name ++ ", max packet " ++
      toString packetSize
  | openFailed device error =>
    "open of " ++ ids device.vendor device.product ++ " failed: " ++ error.message
  | closing vendor product => "closing " ++ ids vendor product
  | resetFailed error => "failed to reset bit mode on close: " ++ error.message
  | bitMode mode mask => "bit mode " ++ mode.name ++ ", mask " ++ Hex.marked 2 mask.toNat
  | chipId id => "chip id " ++ Hex.marked 8 id.toNat
  | staged size blank => "staged EEPROM: " ++ toString size ++ " bytes, blank=" ++ toString blank
  | claimRefused interface fault =>
    "claiming interface " ++ toString interface.toNat ++ " failed: " ++ fault.message
  | attached device release =>
    "opened " ++ ids device.vendor device.product ++ " at bus " ++ device.bus ++ " addr " ++
      toString device.address.toNat ++ " (bcdDevice " ++ Hex.marked 4 release.toNat ++ ")"
  | sentControl request value index => "control out: " ++ control request value index
  | gotControl request value index length =>
    "control in: " ++ control request value index ++ " -> " ++ toString length ++ " bytes"
  | sentBulk endpoint length =>
    "bulk out " ++ Hex.marked 2 endpoint.toNat ++ ": " ++ toString length ++ " bytes"
  | gotBulk endpoint length =>
    "bulk in " ++ Hex.marked 2 endpoint.toNat ++ ": " ++ toString length ++ " bytes"

/-- A note as a record: its level and its words. -/
def record (note : Note) : String := note.level.name ++ " " ++ note.text

end Note

end PinBridge
