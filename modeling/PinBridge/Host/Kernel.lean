import PinBridge.Host.Device
import PinBridge.Queue
import PinBridge.Text.Utf16

/-!
# The kernel's side

A `Kernel` stands for the part of a host that owns the devices. What it does at a device is kept as
a list of `Activity`, and its devices answer from queues written in advance, or else as well-behaved
devices would. A system error number says why a step failed: `TransferFault.ofErrno` for a
transfer, `openFault` for a device node, `claimFault` for an interface. A step may also crash, as a
read does that is too long (`longestTransfer`) or that has no whole packets to be divided into.
-/

namespace PinBridge

/-- The fault that a system error number stands for when a transfer ends with it. -/
def TransferFault.ofErrno (errno : Nat) : TransferFault :=
  if errno = 2 || errno = 104 || errno = 110 then .cancelled
  else if errno = 19 || errno = 108 then .disconnected
  else if errno = 32 then .stall
  else if errno = 71 || errno = 84 || errno = 75 || errno = 70 || errno = 62 then .violation
  else if errno = 22 then .invalidArgument
  else .unknown errno

namespace Host

/-- Why a device node cannot be opened. -/
def openFault (errno : Nat) : HostFault :=
  if errno = 2 then ⟨.disconnected, some errno, "device not found"⟩
  else if errno = 1 || errno = 13 then ⟨.permissionDenied, some errno, "permission denied"⟩
  else ⟨.other, some errno, "failed to open device"⟩

/-- Why an interface cannot be claimed. -/
def claimFault (errno : Nat) : HostFault :=
  if errno = 2 || errno = 22 then ⟨.notFound, some errno, "interface not found"⟩
  else if errno = 16 then ⟨.busy, some errno, "interface is busy"⟩
  else if errno = 19 then ⟨.disconnected, some errno, "device disconnected"⟩
  else ⟨.other, some errno, "failed to claim interface"⟩

/-- Why nothing can be enumerated without USB support. -/
def missingBusFault : HostFault := ⟨.other, some 2, "/sys/bus/usb/devices/ not found"⟩

/-- Why an endpoint cannot be used. -/
def endpointFault (reason : String) : HostFault := ⟨.other, none, reason⟩

/-- The error number of what is not there, and of a transfer that is cancelled. -/
def missing : Nat := 2

/-- The error number of a stall. -/
def stalled : Nat := 32

/-- How a device answers a transfer: with a value, with an error number, or not at all. -/
inductive Outcome (α : Type)
  | value (a : α)
  | errno (n : Nat)
  | hang
  deriving DecidableEq

/-- What a transfer comes to. One that ends with the number zero has not failed, but carries
nothing; one that never ends is cancelled at its timeout. -/
def Outcome.result {α : Type} [Inhabited α] : Outcome α → Except Error α
  | value a => .ok a
  | errno n => if n = 0 then .ok default else .error (.ofTransfer (.ofErrno n))
  | hang => .error (.ofTransfer (.ofErrno missing))

/-- The outcomes in advance, by kind of step. -/
structure Queues where
  openNode : Queue (Outcome Unit)
  claim : Queue (Outcome Unit)
  controlOut : Queue (Outcome Unit)
  controlIn : Queue (Outcome (List UInt8))
  string : Queue (Outcome (List UInt8))
  bulkWrite : Queue (Outcome Nat)
  bulkRead : Queue (Outcome (List UInt8))

namespace Queues

/-- Nothing in advance. -/
def empty : Queues := ⟨[], [], [], [], [], [], []⟩

/-- Further outcomes behind those there are. -/
def append (q r : Queues) : Queues where
  openNode := q.openNode ++ r.openNode
  claim := q.claim ++ r.claim
  controlOut := q.controlOut ++ r.controlOut
  controlIn := q.controlIn ++ r.controlIn
  string := q.string ++ r.string
  bulkWrite := q.bulkWrite ++ r.bulkWrite
  bulkRead := q.bulkRead ++ r.bulkRead

end Queues

/-- Something done at a device. -/
inductive Activity
  | opened (path : String)
  | closed
  | claimed (interface : UInt8)
  | released (interface : UInt8)
  | setup (requestType request : UInt8) (value index length : UInt16)
  | bulkOut (endpoint : UInt8) (data : List UInt8)
  | bulkIn (endpoint : UInt8) (length : Nat)
  deriving DecidableEq

/-- An interface that has been claimed on an open device. -/
structure Claim where
  node : Node
  interface : UInt8
  deriving DecidableEq

/-- The part of a host that owns the devices. -/
structure Kernel where
  /-- The devices on the buses; none where the host has no USB support. -/
  devices : Option (List Device)
  queues : Queues
  activities : List Activity
  notes : List Note
  /-- Every interface claimed so far, by the number of its handle. -/
  claims : List Claim

namespace Kernel

/-- A kernel with the devices whose entries can be read, and nothing written in advance. -/
def ofEntries (entries : Option (List Entry)) : Kernel :=
  ⟨entries.map (·.filterMap Entry.device?), .empty, [], [], []⟩

end Kernel

/-- Why a step ends before its value is there. -/
inductive Stop
  | failed (e : Error)
  | crashed

/-- A step of the kernel, which may fail or crash; what it has done by then stays done. -/
abbrev Step : Type → Type := ExceptT Stop (StateM Kernel)

namespace Step

/-- Fails. -/
def fail {α : Type} (e : Error) : Step α := throw (.failed e)

/-- Crashes. -/
def crash {α : Type} : Step α := throw .crashed

/-- Keeps a record of something done. -/
def record (a : Activity) : Step Unit :=
  modify fun k => { k with activities := k.activities ++ [a] }

/-- Takes a note. -/
def note (n : Note) : Step Unit := modify fun k => { k with notes := k.notes ++ [n] }

/-- Goes on with a result, or fails as it does. -/
def ofResult {α : Type} : Except Error α → Step α
  | .ok a => return a
  | .error e => fail e

/-- Ends with an outcome. -/
def conclude {α : Type} [Inhabited α] (o : Outcome α) : Step α := ofResult o.result

/-- Takes a step and tells how it ended instead of ending early. -/
def attempt {α : Type} (m : Step α) : Step (Except Stop α) :=
  ExceptT.mk (Except.ok <$> m.run)

/-- A control request without data. -/
def controlOut (request : UInt8) (value index : UInt16) : Step Unit := do
  record (.setup 64 request value index 0)
  let k ← get
  let (outcome, rest) := k.queues.controlOut.next (.value ())
  set { k with queues.controlOut := rest }
  conclude outcome

/-- A control request for data; no more comes in than asked for. -/
def controlIn (request : UInt8) (value index length : UInt16) : Step (List UInt8) := do
  record (.setup 192 request value index length)
  let k ← get
  let (outcome, rest) := k.queues.controlIn.next (.value (List.replicate length.toNat 0))
  set { k with queues.controlIn := rest }
  return (← conclude outcome).take length.toNat

/-- The language that strings are asked for in. -/
def language : UInt16 := 0x0409

/-- A string as a descriptor: its length, the type and the text. -/
def stringDescriptor (text : String) : List UInt8 :=
  let units := Utf16.encode text
  UInt8.ofNat (units.length + 2) :: 3 :: units

/-- The text of a string descriptor. -/
def textOf : List UInt8 → Except Error String
  | length :: type :: units =>
    if length.toNat = units.length + 2 && type = 3 then .ok (Utf16.decode units)
    else .error .invalidDescriptor
  | _ => .error .invalidDescriptor

/-- Reads a string of a device; there is none under index zero. -/
def string (node : Node) (index : UInt8) : Step (Option String) := do
  if index = 0 then return none
  record (.setup 128 6 (0x0300 + index.toUInt16) language 4096)
  let usual := match node.strings.find? fun entry => entry.1 == index with
    | some entry => .value (stringDescriptor entry.2)
    | none => .errno stalled
  let k ← get
  let (outcome, rest) := k.queues.string.next usual
  set { k with queues.string := rest }
  let raw ← conclude outcome
  let text ← ofResult (textOf (raw.take 4096))
  return some text

/-- The endpoint of a claimed interface under an address, if it has the direction and the type. -/
def endpoint (claim : Claim) (address : UInt8) (isIn : Bool) : Step Endpoint := do
  match claim.node.active?.bind fun c => c.endpoint? claim.interface address with
  | none => fail (.usb (endpointFault "specified endpoint does not exist on this interface"))
  | some e =>
    if e.isIn != isIn then fail (.usb (endpointFault "incorrect endpoint direction"))
    else if e.type ≠ .bulk then fail (.usb (endpointFault "incorrect endpoint type"))
    else return e

/-- A number of bytes as the kernel reports it: in 32 bits, the first of which is a sign that is
carried on to 64 bits. -/
def reported (n : Nat) : Nat := (Int32.ofNat n).toInt64.toUInt64.toNat

/-- Writes to a bulk endpoint and tells how many bytes the device has taken. -/
def bulkWrite (claim : Claim) (address : UInt8) (data : List UInt8) : Step Nat := do
  let _ ← endpoint claim address false
  record (.bulkOut address data)
  let k ← get
  let (outcome, rest) := k.queues.bulkWrite.next (.value data.length)
  set { k with queues.bulkWrite := rest }
  return reported (← conclude outcome)

/-- The length of the longest transfer, the largest number of 32 bits. -/
def longestTransfer : Nat := 0xFFFFFFFF

/-- Whether a read of so many bytes is one of whole packets; with packets of no size there is no
telling. -/
def isWhole (length packetSize : Nat) : Step Bool := do
  if length = 0 then return false
  else if packetSize = 0 then crash
  else return length % packetSize = 0

/-- Reads from a bulk endpoint: whole packets only, and no more than asked for. -/
def bulkRead (claim : Claim) (address : UInt8) (length : Nat) : Step (List UInt8) := do
  let e ← endpoint claim address true
  if longestTransfer < length then crash
  if !(← isWhole length e.packetSize) then fail (.transfer .invalidArgument)
  record (.bulkIn address length)
  let k ← get
  let (outcome, rest) := k.queues.bulkRead.next (.value [0x01, 0x60])
  set { k with queues.bulkRead := rest }
  return (← conclude outcome).take length

/-- The devices on the buses. -/
def devices : Step (List Device) := do
  match (← get).devices with
  | some devices => return devices
  | none => fail (.usb missingBusFault)

/-- The device that a descriptor names. -/
def lookup (d : Descriptor) : Step Device := do
  match (← devices).find? fun device => device.isNamedBy d with
  | some device => return device
  | none => fail .deviceNotFound

/-- Opens a device's node. -/
def openNode (d : Device) : Step Node := do
  match d.node with
  | none => fail (.usb (openFault missing))
  | some node =>
    record (.opened d.path)
    let k ← get
    let (outcome, rest) := k.queues.openNode.next (.value ())
    set { k with queues.openNode := rest }
    match outcome with
    | .value () => return node
    | .errno n => fail (.usb (openFault n))
    | .hang => fail (.usb (openFault missing))

/-- Claims an interface of an open device, or tells why it cannot be claimed. -/
def claim (node : Node) (interface : UInt8) : Step (Option HostFault) := do
  record (.claimed interface)
  let usual :=
    if node.configuration.hasInterface interface then .value () else .errno missing
  let k ← get
  let (outcome, rest) := k.queues.claim.next usual
  set { k with queues.claim := rest }
  match outcome with
  | .value () => return none
  | .errno n => return some (claimFault n)
  | .hang => return some (claimFault missing)

end Step

end Host

end PinBridge
