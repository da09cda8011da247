import PinBridge.Program
import PinBridge.Session.Serial

/-!
# Simulated boards

A `Board` stands for a device with one bridge chip: it answers the control requests of a channel,
drives its pins while a bit mode is selected, records what is written and hands out the payloads
queued for reading, one to a packet. Pins under the mask follow the last byte written, the others
the input level.
-/

namespace PinBridge.Simulator

/-- A control request as a board records it. -/
structure Received where
  request : UInt8
  value : UInt16
  index : UInt16
  deriving DecidableEq

/-- A device with one chip. -/
structure Board where
  descriptor : Descriptor
  /-- What the device answers when asked for its strings. -/
  strings : Strings
  hasSerial : Bool
  packetSize : Option Nat
  eeprom : Vector UInt8 256
  /-- The level at the pins that the chip does not drive. -/
  inputs : UInt8
  pins : UInt8
  mask : UInt8
  mode : UInt8
  latency : UInt8
  /-- All bytes that have been written. -/
  written : List UInt8
  /-- All control requests towards the chip, whether it has answered them or not. -/
  requests : List Received
  /-- The payloads that wait to be read. -/
  queue : List (List UInt8)
  deriving DecidableEq

namespace Board

/-- A board as it leaves the factory: nothing in its EEPROM and no strings. -/
def new (vendor product release : UInt16) : Board where
  descriptor := ⟨vendor, product, "1", 0, release, .none⟩
  strings := .none
  hasSerial := false
  packetSize := some 64
  eeprom := Vector.replicate 256 0xFF
  inputs := 0
  pins := 0
  mask := 0
  mode := 0
  latency := 16
  written := []
  requests := []
  queue := []

/-- The light board. -/
def light : Board := new vendorId ProductId.board 0x0600

/-- The board with strings of its own, a serial number among them. -/
def withStrings (b : Board) (manufacturer description serial : String) : Board :=
  { b with strings := ⟨some manufacturer, some description, some serial⟩, hasSerial := true }

/-- The board with the start of its EEPROM programmed. -/
def withEeprom (b : Board) (image : List UInt8) : Board :=
  { b with eeprom := Vector.ofFn fun i => image[i.val]?.getD b.eeprom[i] }

/-- A pattern on the pins: the bits under the mask are driven, the others follow the input. -/
def level (b : Board) (driven : UInt8) : UInt8 := (driven &&& b.mask) ||| (b.inputs &&& ~~~b.mask)

/-- The two status bytes of a packet. -/
def status : List UInt8 := [0x01, 0x60]

/-- The error of a request that the chip does not know. -/
def refusal : Error := .transfer .stall

/-- Selects a bit mode: the mask is in the low byte, the mode in the high one. -/
def selectMode (b : Board) (value : UInt16) : Board :=
  let b := { b with mask := value.toUInt8, mode := (value >>> 8).toUInt8 }
  { b with pins := b.level b.pins }

/-- Takes a control request without data. -/
def controlOut (b : Board) (request : UInt8) (value index : UInt16) : Except Error Unit × Board :=
  let b := { b with requests := b.requests ++ [⟨request, value, index⟩] }
  if request = Request.reset then
    if value = Request.everything || value = Request.receiveBuffer then
      (.ok (), { b with queue := [] })
    else (.ok (), b)
  else if request = Request.setBaudRate then (.ok (), b)
  else if request = Request.setLatency then (.ok (), { b with latency := value.toUInt8 })
  else if request = Request.setBitMode then (.ok (), b.selectMode value)
  else (.error refusal, b)

/-- The EEPROM word at an address, as two bytes; addresses beyond the part wrap around. -/
def word (b : Board) (address : UInt16) : List UInt8 :=
  let start := address.toNat % 128 * 2
  have bound : start + 1 < 256 := by
    have : address.toNat % 128 < 128 := Nat.mod_lt _ (by decide)
    omega
  [b.eeprom[start], b.eeprom[start + 1]]

/-- Answers a control request for data. -/
def controlIn (b : Board) (request : UInt8) (index : UInt16) : Except Error (List UInt8) :=
  if request = Request.getLatency then .ok [b.latency]
  else if request = Request.readPins then .ok [b.pins]
  else if request = Request.readEeprom then .ok (b.word index)
  else .error refusal

/-- Takes bytes: all are recorded, and in a bit mode the last one goes to the pins. -/
def bulkWrite (b : Board) (data : List UInt8) : Board :=
  let b := { b with written := b.written ++ data }
  match data.getLast? with
  | some last => if b.mode = 0 then b else { b with pins := b.level last }
  | none => b

/-- Hands out a packet with the next payload, cut to the length asked for. -/
def bulkRead (b : Board) (length : Nat) : List UInt8 × Board :=
  match b.queue with
  | payload :: rest => ((status ++ payload).take length, { b with queue := rest })
  | [] => (status.take length, b)

end Board

end PinBridge.Simulator
