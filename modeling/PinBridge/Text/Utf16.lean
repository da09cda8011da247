/-!
# UTF-16 text

Text in 16-bit units, each as two bytes with the low one first. `decode` reads any run of bytes: a
surrogate without its other half stands for the replacement character, and an odd byte at the end is
left out. `encode` writes text.
-/

namespace PinBridge.Utf16

/-- The units in a run of bytes. -/
def unitsOf : List UInt8 → List Nat
  | low :: high :: rest => (low.toNat + 256 * high.toNat) :: unitsOf rest
  | _ => []

/-- The bytes of a unit. -/
def bytesOf (unit : Nat) : List UInt8 := [UInt8.ofNat unit, UInt8.ofNat (unit / 256)]

/-- The first half of a pair that stands for one character. -/
def isHigh (unit : Nat) : Bool := 0xD800 ≤ unit && unit < 0xDC00

/-- The second half of such a pair. -/
def isLow (unit : Nat) : Bool := 0xDC00 ≤ unit && unit < 0xE000

/-- What stands for a half without its other half. -/
def replacement : Char := Char.ofNat 0xFFFD

/-- The character that a pair stands for. -/
def join (high low : Nat) : Char := Char.ofNat (0x10000 + (high - 0xD800) * 0x400 + (low - 0xDC00))

/-- The characters that units stand for. -/
def decodeUnits : List Nat → List Char
  | [] => []
  | [unit] => [if isHigh unit || isLow unit then replacement else Char.ofNat unit]
  | unit :: next :: rest =>
    if isHigh unit then
      if isLow next then join unit next :: decodeUnits rest
      else replacement :: decodeUnits (next :: rest)
    else if isLow unit then replacement :: decodeUnits (next :: rest)
    else Char.ofNat unit :: decodeUnits (next :: rest)

/-- The units of a character. -/
def encodeChar (c : Char) : List Nat :=
  if c.toNat < 0x10000 then [c.toNat]
  else
    let rest := c.toNat - 0x10000
    [0xD800 + rest / 0x400, 0xDC00 + rest % 0x400]

/-- The text in a run of bytes. -/
def decode (bytes : List UInt8) : String := String.ofList (decodeUnits (unitsOf bytes))

/-- The bytes of a text. -/
def encode (text : String) : List UInt8 := (text.toList.flatMap encodeChar).flatMap bytesOf

end PinBridge.Utf16
