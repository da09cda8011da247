/-!
# Packets with a status header

What a chip sends comes in packets, and each packet begins with two bytes of modem status. `strip`
moves the payloads together inside the buffer, from the first packet to the last, and tells how many
bytes they take; the bytes behind are what the moves left there.
-/

namespace PinBridge.Packet

/-- The number of status bytes at the start of a packet. -/
def headerSize : Nat := 2

/-- Copies the bytes from `start` up to `stop` over those from `target` on. -/
def moveWithin (buffer : List UInt8) (start stop target : Nat) : List UInt8 :=
  buffer.take target ++ (buffer.take stop).drop start ++ buffer.drop (target + (stop - start))

/-- Moves together the payloads of the packets from `start` on, behind the `kept` bytes that the
earlier ones take. -/
def compact (size total : Nat) (positive : 0 < size) (buffer : List UInt8) (start kept : Nat) :
    List UInt8 × Nat :=
  if start < total then
    let stop := min (start + size) total
    let payload := start + headerSize
    if payload < stop then
      compact size total positive (moveWithin buffer payload stop kept) stop
        (kept + (stop - payload))
    else compact size total positive buffer stop kept
  else (buffer, kept)
termination_by total - start

/-- The buffer with the payloads of its packets moved to the front, and their length. A packet size
that leaves no room for a payload, and a reply that is all header, have none. -/
def strip (size : Nat) (buffer : List UInt8) : List UInt8 × Nat :=
  if h : headerSize < size ∧ headerSize < buffer.length then
    compact size buffer.length (Nat.zero_lt_of_lt h.1) buffer 0 0
  else (buffer, 0)

end PinBridge.Packet
