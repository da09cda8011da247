/-!
# Pin modes

A bridge chip drives its pins either as an ordinary serial line or under one of the *bit modes*.
`BitMode.wire` is the byte that selects a mode in a request, `BitMode.ofWire?` reads it back, and
`PinMode` is what a session believes its chip to be doing.
-/

namespace PinBridge

/-- The bit modes a request can select; `reset` returns the pins to the serial line. -/
inductive BitMode
  | reset
  | bitBang
  | mpsse
  | syncBitBang
  | mcu
  | opto
  | cbus
  | syncFifo
  | ft1284
  deriving DecidableEq

namespace BitMode

/-- Every bit mode, by increasing wire value. -/
def all : List BitMode :=
  [reset, bitBang, mpsse, syncBitBang, mcu, opto, cbus, syncFifo, ft1284]

/-- The byte that selects the mode: one bit for each mode but `reset`. -/
def wire : BitMode → UInt8
  | reset => 0x00
  | bitBang => 0x01
  | mpsse => 0x02
  | syncBitBang => 0x04
  | mcu => 0x08
  | opto => 0x10
  | cbus => 0x20
  | syncFifo => 0x40
  | ft1284 => 0x80

/-- The mode that a byte selects, if it selects one. -/
def ofWire? (value : UInt8) : Option BitMode :=
  all.find? fun mode => mode.wire == value

/-- The mode's name in messages. -/
def name : BitMode → String
  | reset => "Reset"
  | bitBang => "BitBang"
  | mpsse => "Mpsse"
  | syncBitBang => "SyncBB"
  | mcu => "Mcu"
  | opto => "Opto"
  | cbus => "Cbus"
  | syncFifo => "SyncFf"
  | ft1284 => "Ft1284"

/-- A mode is read back from the byte that selects it. -/
theorem ofWire?_wire (mode : BitMode) : ofWire? mode.wire = some mode := by
  cases mode <;> rfl

end BitMode

/-- What the pins of an open device are used for. -/
inductive PinMode
  | normal
  | driven (mode : BitMode)
  deriving DecidableEq

namespace PinMode

/-- The pin mode that a successful request for `mode` leads to. -/
def ofBitMode : BitMode → PinMode
  | .reset => normal
  | mode => driven mode

/-- The pin mode in words. -/
def text : PinMode → String
  | normal => "Normal"
  | driven mode => "Bitbang(" ++ mode.name ++ ")"

end PinMode

end PinBridge
