import PinBridge.Program
import PinBridge.Queue

/-!
# A scripted bus

A bus whose replies are written in advance. Every call is recorded and then takes the next reply
from the queue of its kind; where there is none, the bus answers as well-behaved devices would.
-/

namespace PinBridge.Script

/-- A device of the bus. -/
structure Device where
  descriptor : Descriptor
  strings : Strings
  hasSerial : Bool
  packetSize : Option Nat
  /-- The release number that the device tells when it is open. -/
  release : UInt16
  deriving DecidableEq

/-- The replies in advance, by kind of call. A call to open a device can only be forbidden or
permitted, and a control request without data can only fail or succeed. -/
structure Queues where
  list : Queue (Except Error (List Descriptor))
  strings : Queue (Except Error Strings)
  openDevice : Queue (Except Error Unit)
  controlOut : Queue (Except Error Unit)
  controlIn : Queue (Except Error (List UInt8))
  bulkWrite : Queue (Except Error Nat)
  bulkRead : Queue (Except Error (List UInt8))

namespace Queues

/-- Nothing in advance. -/
def empty : Queues := ⟨[], [], [], [], [], [], []⟩

/-- Further replies behind those there are. -/
def append (q r : Queues) : Queues where
  list := q.list ++ r.list
  strings := q.strings ++ r.strings
  openDevice := q.openDevice ++ r.openDevice
  controlOut := q.controlOut ++ r.controlOut
  controlIn := q.controlIn ++ r.controlIn
  bulkWrite := q.bulkWrite ++ r.bulkWrite
  bulkRead := q.bulkRead ++ r.bulkRead

end Queues

/-- What has happened on the bus. -/
inductive Event
  | called (c : Call)
  | released (handle : Handle)
  deriving DecidableEq

/-- The bus with its devices, the replies in advance and what has happened so far. -/
structure State where
  devices : List Device
  queues : Queues
  /-- How many handles have been given out. -/
  opened : Nat
  events : List Event

namespace State

/-- A bus with devices and nothing written in advance. -/
def new (devices : List Device) : State := ⟨devices, .empty, 0, []⟩

/-- Records an event. -/
def record (s : State) (e : Event) : State := { s with events := s.events ++ [e] }

/-- The device at a descriptor's place. -/
def find (s : State) (d : Descriptor) : Except Error Device :=
  match s.devices.find? fun device => device.descriptor.isAt d.bus d.address with
  | some device => .ok device
  | none => .error .deviceNotFound

/-- The handle of a device; the handles are numbered in the order in which they are given out. -/
def handle (s : State) (d : Device) : Handle := ⟨s.opened, d.release, d.hasSerial, d.packetSize⟩

/-- The reply to a call to open a device that the script does not forbid. -/
def giveOut (s : State) (d : Descriptor) : Except Error Handle × State :=
  match s.find d with
  | .ok device => (.ok (s.handle device), { s with opened := s.opened + 1 })
  | .error e => (.error e, s)

/-- Answers a call that has been recorded. -/
def answer (s : State) : (c : Call) → c.Reply × State
  | .list =>
    let (reply, rest) := s.queues.list.next (.ok (s.devices.map (·.descriptor)))
    (reply, { s with queues.list := rest })
  | .strings d _ =>
    let (reply, rest) := s.queues.strings.next ((s.find d).map (·.strings))
    (reply, { s with queues.strings := rest })
  | .openDevice d _ =>
    let (permit, rest) := s.queues.openDevice.next (.ok ())
    let s := { s with queues.openDevice := rest }
    match permit with
    | .ok () => s.giveOut d
    | .error e => (.error e, s)
  | .controlOut .. =>
    let (reply, rest) := s.queues.controlOut.next (.ok ())
    (reply, { s with queues.controlOut := rest })
  | .controlIn _ _ _ _ length _ =>
    let (reply, rest) := s.queues.controlIn.next (.ok (List.replicate length.toNat 0))
    (reply, { s with queues.controlIn := rest })
  | .bulkWrite _ _ data _ =>
    let (reply, rest) := s.queues.bulkWrite.next (.ok data.length)
    (reply, { s with queues.bulkWrite := rest })
  | .bulkRead .. =>
    let (reply, rest) := s.queues.bulkRead.next (.ok [0x01, 0x60])
    (reply, { s with queues.bulkRead := rest })

end State

/-- The scripted bus. -/
def bus : Bus State where
  reply c s := Prod.map some id ((s.record (.called c)).answer c)
  release h s := s.record (.released h)
  note _ s := s

end PinBridge.Script
