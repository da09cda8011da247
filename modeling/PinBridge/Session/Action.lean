import PinBridge.Session.Lifecycle
import PinBridge.Session.Memory
import PinBridge.Session.Pins
import PinBridge.Session.Receive

/-!
# Actions

Every call that a caller can make on a session, as data. `Action.Result` is the type of what a call
yields and `Action.perform` the command that it stands for, so that a statement on all actions is
one on all that a session can be asked to do, but for ending it.
-/

namespace PinBridge

/-- A call on a session. -/
inductive Action
  | mode
  | chip
  | ids
  | baudRate
  | packetSize
  | setInterface (interface : Interface)
  | setReadTimeout (ms : Nat)
  | setWriteTimeout (ms : Nat)
  | setReadChunk (size : Nat)
  | setWriteChunk (size : Nat)
  | openIds (vendor product : UInt16)
  | openFilter (filter : Filter)
  | openDevice (device : Descriptor)
  | close
  | findAll (vendor product : UInt16)
  | getStrings (device : Descriptor)
  | findDevice (filter : Filter)
  | reset
  | purgeReceive
  | purgeTransmit
  | purge
  | setBaudRate (rate : UInt32)
  | setLatency (ms : UInt8)
  | latency
  | readData (length : Nat)
  | setBitMode (mask : UInt8) (mode : BitMode)
  | setBitModeByte (mask value : UInt8)
  | disableBitMode
  | writeData (value : UInt8)
  | writePattern (pattern : List UInt8)
  | readPins
  | readEeprom
  | stagedPart (size : Nat)
  | readEepromWord (address : UInt16)
  | readChipId
  deriving DecidableEq

namespace Action

/-- What a call yields when it succeeds. -/
abbrev Result : Action → Type
  | mode => PinMode
  | chip => Chip
  | ids => UInt16 × UInt16
  | baudRate => UInt32
  | packetSize => Nat
  | findAll .. => List Descriptor
  | getStrings .. => Strings
  | findDevice .. => Descriptor
  | latency => UInt8
  | readData .. => List UInt8
  | writePattern .. => Nat
  | readPins => UInt8
  | stagedPart .. => List UInt8
  | readEepromWord .. => UInt16
  | readChipId => UInt32
  | _ => Unit

/-- The command that a call stands for. -/
def perform : (action : Action) → Command action.Result
  | mode => (·.mode) <$> Command.device
  | chip => (·.chip) <$> Command.device
  | ids => (fun d => (d.vendor, d.product)) <$> Command.device
  | baudRate => (·.baudRate) <$> Command.device
  | packetSize => (·.packetSize) <$> Command.device
  | setInterface interface => Command.setInterface interface
  | setReadTimeout ms => Command.setReadTimeout ms
  | setWriteTimeout ms => Command.setWriteTimeout ms
  | setReadChunk size => Command.setReadChunk size
  | setWriteChunk size => Command.setWriteChunk size
  | openIds vendor product => Command.openIds vendor product
  | openFilter filter => Command.openFilter filter
  | openDevice device => Command.openDevice device
  | close => Command.close
  | findAll vendor product => Command.findAll vendor product
  | getStrings device => Command.getStrings device
  | findDevice filter => Command.findDevice filter
  | reset => Command.reset
  | purgeReceive => Command.purgeReceive
  | purgeTransmit => Command.purgeTransmit
  | purge => Command.purge
  | setBaudRate rate => Command.setBaudRate rate
  | setLatency ms => Command.setLatency ms
  | latency => Command.latency
  | readData length => Command.readData length
  | setBitMode mask bitMode => Command.setBitMode mask bitMode
  | setBitModeByte mask value => Command.setBitModeByte mask value
  | disableBitMode => Command.disableBitMode
  | writeData value => Command.writeData value
  | writePattern pattern => Command.writePattern pattern
  | readPins => Command.readPins
  | readEeprom => Command.readEeprom
  | stagedPart size => Command.stagedPart size
  | readEepromWord address => Command.readEepromWord address
  | readChipId => Command.readChipId

end Action

end PinBridge
