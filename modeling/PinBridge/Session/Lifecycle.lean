import PinBridge.Session.Lookup
import PinBridge.Session.Serial

/-!
# Opening and closing

`openDevice` takes a device, resets its channel and sets the rate it starts with; where one of the
two fails, the session is put back as it was. `close` takes driven pins back to the serial line on
the way, whatever comes of it. `release` and `drop` are the two other ways in which a session ends.
-/

namespace PinBridge

/-- The baud rate of a device that has just been opened. -/
def initialRate : UInt32 := 9600

/-- A device as it is right after the bus has opened it. -/
def OpenDevice.fresh (d : Descriptor) (handle : Handle) (channel : Channel) : OpenDevice :=
  let chip := Chip.ofRelease handle.release handle.hasSerial
  { handle, chip, channel
    vendor := d.vendor
    product := d.product
    packetSize := handle.packetSize.getD chip.packetSize
    mode := .normal
    baudRate := 0
    pending := [] }

namespace Command

/-- Sets the link to a device. -/
def setLink (link : Link) : Command Unit := modify fun s => { s with link }

/-- Forgets the staged image. -/
def forgetStaged : Command Unit := modify fun s => { s with staged := none }

/-- Opens a device. -/
def openDevice (d : Descriptor) : Command Unit := do
  requireNotOpen
  let before ← session
  let handle ← ask (.openDevice d before.options.interface)
  let fresh := OpenDevice.fresh d handle before.options.interface.channel
  setLink (.opened fresh)
  recover
    (do
      reset
      setBaudRate initialRate)
    fun e => do
      note (.openFailed d e)
      setLink before.link
      giveBack handle
      fail e
  forgetStaged
  note (.opened d fresh.chip fresh.packetSize)

/-- Opens the first device with the IDs. -/
def openIds (vendor product : UInt16) : Command Unit := do
  requireNotOpen
  match ← findAll vendor product with
  | [] => fail .deviceNotFound
  | d :: _ => openDevice d

/-- Opens the device that a filter describes. -/
def openFilter (f : Filter) : Command Unit := do
  requireNotOpen
  let d ← findDevice f
  openDevice d

/-- Lets go of an open device, its pins back at the serial line if the bus still works. -/
def shutDown (d : OpenDevice) : Command Unit := do
  forgetStaged
  setLink .closed
  if d.mode = .normal then pure ()
  else
    let s ← session
    recover
      (ask (.controlOut d.handle Request.setBitMode 0 d.channel.index s.options.writeTimeout))
      fun e => note (.resetFailed e)
  note (.closing d.vendor d.product)
  giveBack d.handle

/-- Closes the open device. -/
def close : Command Unit := do
  let d ← device
  shutDown d

/-- Ends the session, closing a device that is open. -/
def drop : Command Unit := do
  match (← session).link with
  | .opened d => shutDown d
  | _ => pure ()

/-- Closes a device that is open and ends the session. -/
def release : Command Unit := do
  drop
  drop

/-- Selects the interface for the next device. -/
def setInterface (interface : Interface) : Command Unit := do
  requireNotOpen
  modify fun s => { s with options := { s.options with interface } }

/-- Sets how long a read may take, in milliseconds. -/
def setReadTimeout (ms : Nat) : Command Unit :=
  modify fun s => { s with options := { s.options with readTimeout := ms } }

/-- Sets how long a write may take, in milliseconds. -/
def setWriteTimeout (ms : Nat) : Command Unit :=
  modify fun s => { s with options := { s.options with writeTimeout := ms } }

/-- Sets how much is read at once. -/
def setReadChunk (size : Nat) : Command Unit :=
  if size = 0 then fail .emptyChunk
  else modify fun s => { s with options := { s.options with readChunk := size } }

/-- Sets how much is written at once. -/
def setWriteChunk (size : Nat) : Command Unit :=
  if size = 0 then fail .emptyChunk
  else modify fun s => { s with options := { s.options with writeChunk := size } }

end Command

end PinBridge
