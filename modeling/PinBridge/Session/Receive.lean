import PinBridge.Packet
import PinBridge.Session.Command

/-!
# Receiving

A read takes from the bytes at hand, and asks the device for more only where there are none. What
comes in is freed of its packet headers and kept until it has been read.
-/

namespace PinBridge.Command

/-- The least number of whole packets that hold a chunk, in bytes; there is none for packets of
size zero. -/
def wholePackets? (chunk packet : Nat) : Option Nat :=
  if packet = 0 then none else some ((chunk + packet - 1) / packet * packet)

/-- Asks the device for a chunk where no bytes are at hand. -/
def refill : Command Unit := do
  let d ← device
  if d.pending.isEmpty then
    let s ← session
    let length ← need (wholePackets? s.options.readChunk (max d.packetSize 1))
    let reply ← ask (.bulkRead d.handle d.channel.inEndpoint length s.options.readTimeout)
    let (buffer, n) := Packet.strip d.packetSize reply
    update fun d => { d with pending := buffer.take n }

/-- Reads at most so many bytes. -/
def readData (length : Nat) : Command (List UInt8) := do
  if length = 0 then return []
  refill
  let d ← device
  update fun d => { d with pending := d.pending.drop length }
  return d.pending.take length

end PinBridge.Command
