import PinBridge.Eeprom.Image
import PinBridge.Program

/-!
# Sessions

A `Session` is a caller's context: its options, the device it has open, if any, and the EEPROM image
it has staged. `Session.new` makes one that has never been open.
-/

namespace PinBridge

/-- What a caller can choose. Timeouts are in milliseconds, chunks in bytes. -/
structure Options where
  interface : Interface
  readTimeout : Nat
  writeTimeout : Nat
  readChunk : Nat
  writeChunk : Nat
  deriving DecidableEq

namespace Options

/-- The options where the caller chooses nothing. -/
def default : Options := ⟨.any, 5000, 5000, 4096, 4096⟩

end Options

/-- The error of a chunk size of zero. -/
def Error.emptyChunk : Error := .invalidArgument "chunk size must be > 0"

/-- An open device as a session sees it. -/
structure OpenDevice where
  handle : Handle
  chip : Chip
  vendor : UInt16
  product : UInt16
  /-- The channel of the interface that was claimed. -/
  channel : Channel
  packetSize : Nat
  mode : PinMode
  baudRate : UInt32
  /-- Received bytes that no read has asked for yet. -/
  pending : List UInt8
  deriving DecidableEq

/-- The link of a session to a device. -/
inductive Link
  | unopened
  | opened (device : OpenDevice)
  | closed
  deriving DecidableEq

/-- Where a session stands in its life. -/
inductive Status
  | uninitialized
  | isOpen
  | closed
  deriving DecidableEq

/-- The status by name. -/
def Status.name : Status → String
  | uninitialized => "Uninitialized"
  | isOpen => "Open"
  | closed => "Closed"

/-- A caller's context. -/
structure Session where
  options : Options
  link : Link
  /-- The EEPROM image read last from the open device. -/
  staged : Option Eeprom.Image
  deriving DecidableEq

namespace Session

/-- A session that has not been open yet. -/
def new (options : Options) : Except Error Session :=
  if options.readChunk = 0 || options.writeChunk = 0 then .error .emptyChunk
  else .ok ⟨options, .unopened, none⟩

/-- Where the session stands in its life. -/
def status (s : Session) : Status :=
  match s.link with
  | .unopened => .uninitialized
  | .opened _ => .isOpen
  | .closed => .closed

/-- Whether a device is open. -/
def isOpen (s : Session) : Bool := s.status == .isOpen

/-- The open device. -/
def device (s : Session) : Except Error OpenDevice :=
  match s.link with
  | .opened d => .ok d
  | _ => .error .notOpen

/-- The bytes of the staged image; none where nothing is staged. -/
def stagedBytes (s : Session) : List UInt8 :=
  match s.staged with
  | some image => image.bytes
  | none => []

end Session

end PinBridge
