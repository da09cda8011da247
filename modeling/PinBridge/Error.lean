import PinBridge.Chip
import PinBridge.Text.Fields
import PinBridge.Text.Hex
import PinBridge.Text.Quoted

/-!
# Errors

Every way in which an operation can fail, as its cause. `Error.kind` sorts the causes into ten
kinds, each with a code (`ErrorKind.code`); `Error.message` is the sentence for a user and
`Error.inspect` the form that names the cause and its fields.
-/

namespace PinBridge

/-- Why a USB transfer did not complete. -/
inductive TransferFault
  | cancelled
  | stall
  | disconnected
  | violation
  | invalidArgument
  | unknown (errno : Nat)
  deriving DecidableEq

namespace TransferFault

/-- The fault in words. -/
def message : TransferFault → String
  | cancelled => "transfer was cancelled"
  | stall => "endpoint stalled"
  | disconnected => "device disconnected"
  | violation => "hardware fault or protocol violation"
  | invalidArgument => "invalid or unsupported argument"
  | unknown errno => "unknown (errno " ++ toString errno ++ ")"

/-- The fault by name. -/
def name : TransferFault → String
  | cancelled => "Cancelled"
  | stall => "Stall"
  | disconnected => "Disconnected"
  | violation => "Fault"
  | invalidArgument => "InvalidArgument"
  | unknown errno => "Unknown(" ++ toString errno ++ ")"

end TransferFault

/-- Why a descriptor could not be read. -/
inductive DescriptorFault
  | transfer (fault : TransferFault)
  | invalid
  deriving DecidableEq

/-- The class of a failure of the host's USB stack. -/
inductive HostFaultKind
  | disconnected
  | busy
  | permissionDenied
  | notFound
  | other
  deriving DecidableEq

/-- The class by name. -/
def HostFaultKind.name : HostFaultKind → String
  | disconnected => "Disconnected"
  | busy => "Busy"
  | permissionDenied => "PermissionDenied"
  | notFound => "NotFound"
  | other => "Other"

/-- A failure of the host's USB stack outside a transfer. -/
structure HostFault where
  kind : HostFaultKind
  /-- The system's error number, if the system reported the failure. -/
  errno : Option Nat
  reason : String
  deriving DecidableEq

namespace HostFault

/-- The failure in words, the error number last. -/
def message (f : HostFault) : String :=
  match f.errno with
  | some errno => f.reason ++ " (errno " ++ toString errno ++ ")"
  | none => f.reason

/-- The failure with its fields named. -/
def inspect (f : HostFault) : String :=
  let code := match f.errno with
    | some errno => "Some(" ++ toString errno ++ ")"
    | none => "None"
  Fields.text "Error"
    [("kind", f.kind.name), ("code", code), ("message", Quoted.text f.reason)]

end HostFault

/-- The cause of a failed operation. -/
inductive Error
  | outOfMemory
  | usb (fault : HostFault)
  | transfer (fault : TransferFault)
  | invalidDescriptor
  | deviceNotFound
  | claimFailed
  | shortTransfer (expected actual : Nat)
  | timeout
  | alreadyOpen
  | notOpen
  | bitbangDisabled
  | invalidModeValue (value : UInt8)
  | invalidMode (mode : BitMode) (chip : Chip)
  | outOfRange (address words : UInt16)
  | sizeMismatch (requested available : Nat)
  | invalidArgument (reason : String)
  | unsupportedBaudRate (requested actual : Nat)
  | unsupportedChip (chip : Chip)
  deriving DecidableEq

/-- The kinds of errors that a caller tells apart. -/
inductive ErrorKind
  | usb
  | notOpen
  | allocation
  | alreadyOpen
  | invalidMode
  | outOfRange
  | sizeMismatch
  | timeout
  | invalidArgument
  | unsupported
  deriving DecidableEq

namespace ErrorKind

/-- The kind as a negative number. -/
def code : ErrorKind → Int
  | usb => -1
  | notOpen => -2
  | allocation => -3
  | alreadyOpen => -4
  | invalidMode => -5
  | outOfRange => -6
  | sizeMismatch => -7
  | timeout => -8
  | invalidArgument => -9
  | unsupported => -10

/-- The kind by name. -/
def name : ErrorKind → String
  | usb => "Usb"
  | notOpen => "NotOpen"
  | allocation => "Allocation"
  | alreadyOpen => "AlreadyOpen"
  | invalidMode => "InvalidMode"
  | outOfRange => "OutOfRange"
  | sizeMismatch => "SizeMismatch"
  | timeout => "Timeout"
  | invalidArgument => "InvalidArgument"
  | unsupported => "Unsupported"

end ErrorKind

namespace Error

/-- The error of a failed transfer: one cancelled at its timeout has timed out. -/
def ofTransfer : TransferFault → Error
  | .cancelled => timeout
  | fault => transfer fault

/-- The error of a descriptor that could not be read. -/
def ofDescriptor : DescriptorFault → Error
  | .transfer fault => ofTransfer fault
  | .invalid => invalidDescriptor

/-- The kind of an error. -/
def kind : Error → ErrorKind
  | outOfMemory => .allocation
  | usb _ | transfer _ | invalidDescriptor | deviceNotFound | claimFailed
  | shortTransfer _ _ => .usb
  | timeout => .timeout
  | alreadyOpen => .alreadyOpen
  | notOpen | bitbangDisabled => .notOpen
  | invalidModeValue _ | invalidMode _ _ => .invalidMode
  | outOfRange _ _ => .outOfRange
  | sizeMismatch _ _ => .sizeMismatch
  | invalidArgument _ | unsupportedBaudRate _ _ => .invalidArgument
  | unsupportedChip _ => .unsupported

/-- The code of an error's kind. -/
def code (e : Error) : Int := e.kind.code

/-- The error as a sentence. -/
def message : Error → String
  | outOfMemory =>
    "out of memory: memory allocation failed because the computed capacity exceeded the " ++
      "collection's maximum"
  | usb fault => "USB error: " ++ fault.message
  | transfer fault => "USB transfer error: " ++ fault.message
  | invalidDescriptor => "descriptor error: invalid descriptor"
  | deviceNotFound => "device not found"
  | claimFailed =>
    "unable to claim USB device; make sure the default FTDI driver is not in use"
  | shortTransfer expected actual =>
    "short transfer: expected " ++ toString expected ++ " bytes, got " ++ toString actual
  | timeout => "USB transfer timed out"
  | alreadyOpen => "device already open"
  | notOpen => "USB device unavailable (context not open)"
  | bitbangDisabled => "bitbang mode is not enabled"
  | invalidModeValue value => "invalid bit mode value " ++ Hex.marked 2 value.toNat
  | invalidMode mode chip =>
    "bit mode " ++ mode.name ++ " is not supported by chip type " ++ chip.name
  | outOfRange address words =>
    "EEPROM address " ++ Hex.marked 1 address.toNat ++ " out of range (chip has " ++
      toString words.toNat ++ " words)"
  | sizeMismatch requested available =>
    "requested " ++ toString requested ++ " EEPROM bytes but only " ++ toString available ++
      " are staged"
  | invalidArgument reason => "invalid argument: " ++ reason
  | unsupportedBaudRate requested actual =>
    "unsupported baud rate: requested " ++ toString requested ++ ", nearest achievable " ++
      toString actual
  | unsupportedChip chip => "unsupported operation for chip type " ++ chip.name

/-- The error by its cause, with the fields named. -/
def inspect : Error → String
  | outOfMemory => "Allocation(" ++ Fields.text "TryReserveError" [("kind", "CapacityOverflow")]
      ++ ")"
  | usb fault => "Usb(" ++ fault.inspect ++ ")"
  | transfer fault => "Transfer(" ++ fault.name ++ ")"
  | invalidDescriptor => "Descriptor(InvalidDescriptor)"
  | deviceNotFound => "DeviceNotFound"
  | claimFailed => "ClaimFailed"
  | shortTransfer expected actual =>
    Fields.text "ShortTransfer" [("expected", toString expected), ("actual", toString actual)]
  | timeout => "Timeout"
  | alreadyOpen => "AlreadyOpen"
  | notOpen => "NotOpen"
  | bitbangDisabled => "BitbangDisabled"
  | invalidModeValue value => "InvalidModeValue(" ++ toString value.toNat ++ ")"
  | invalidMode mode chip => Fields.text "InvalidMode" [("mode", mode.name), ("chip", chip.name)]
  | outOfRange address words =>
    Fields.text "OutOfRange"
      [("addr", toString address.toNat), ("words", toString words.toNat)]
  | sizeMismatch requested available =>
    Fields.text "SizeMismatch"
      [("requested", toString requested), ("available", toString available)]
  | invalidArgument reason => "InvalidArgument(" ++ Quoted.text reason ++ ")"
  | unsupportedBaudRate requested actual =>
    Fields.text "UnsupportedBaudRate"
      [("requested", toString requested), ("actual", toString actual)]
  | unsupportedChip chip => "UnsupportedChip(" ++ chip.name ++ ")"

end Error

/-- The bit mode that a byte selects, or the error that it selects none. -/
def BitMode.ofWire (value : UInt8) : Except Error BitMode :=
  match ofWire? value with
  | some mode => .ok mode
  | none => .error (.invalidModeValue value)

end PinBridge
