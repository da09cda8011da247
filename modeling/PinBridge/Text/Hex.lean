/-!
# Hexadecimal text

Numbers and bytes as lower-case hexadecimal digits: `Hex.padded` for a number of at least so many
digits, `Hex.marked` for the same behind `0x`, and `Hex.byte` for exactly two digits.
-/

namespace PinBridge.Hex

/-- The digits of a number, with zeros in front up to `width` digits. -/
def padded (width n : Nat) : String :=
  let digits := Nat.toDigits 16 n
  String.ofList (List.replicate (width - digits.length) '0' ++ digits)

/-- The same behind `0x`. -/
def marked (width n : Nat) : String := "0x" ++ padded width n

/-- The two digits of a byte. -/
def byteDigits (b : UInt8) : List Char :=
  [Nat.digitChar (b.toNat / 16), Nat.digitChar (b.toNat % 16)]

/-- A byte as two digits. -/
def byte (b : UInt8) : String := String.ofList (byteDigits b)

/-- Bytes as a run of digits, two for each. -/
def bytes (bs : List UInt8) : String := String.ofList (bs.flatMap byteDigits)

end PinBridge.Hex
