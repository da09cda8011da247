/-!
# Interfaces of a chip with several channels

A chip has up to four channels, each behind a USB interface of its own. `Interface` is the caller's
choice of channel and `Interface.channel` the numbers that address it on the bus.
-/

namespace PinBridge

/-- A choice of channel; `any` is the first. -/
inductive Interface
  | any
  | a
  | b
  | c
  | d
  deriving DecidableEq

/-- The numbers under which a channel is reached. -/
structure Channel where
  /-- The number of the USB interface to claim. -/
  number : UInt8
  /-- What control requests carry to name the channel. -/
  index : UInt16
  /-- The bulk endpoint towards the chip. -/
  outEndpoint : UInt8
  /-- The bulk endpoint from the chip. -/
  inEndpoint : UInt8
  deriving DecidableEq

namespace Interface

/-- How the channel is addressed. -/
def channel : Interface → Channel
  | any | a => ⟨0, 1, 0x02, 0x81⟩
  | b => ⟨1, 2, 0x04, 0x83⟩
  | c => ⟨2, 3, 0x06, 0x85⟩
  | d => ⟨3, 4, 0x08, 0x87⟩

/-- The interface's name in messages. -/
def name : Interface → String
  | any => "Any"
  | a => "A"
  | b => "B"
  | c => "C"
  | d => "D"

end Interface

end PinBridge
