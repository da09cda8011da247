/-!
# The EEPROM checksum

The checksum of an image is a running 16-bit value that every *covered* word is folded into by
exclusive or and a rotation to the left. The last word, which stores the checksum, is not covered,
nor is the user area of the chips that have one (`isCovered`).
-/

namespace PinBridge.Eeprom

/-- A word from its two bytes, the low one first. -/
def wordOf (low high : UInt8) : UInt16 := UInt16.ofNat (low.toNat + 256 * high.toNat)

/-- The words of a run of bytes; an odd byte at the end is left out. -/
def words : List UInt8 → List UInt16
  | low :: high :: rest => wordOf low high :: words rest
  | _ => []

/-- Whether the word at an index counts, where words `0x12` to `0x3f` may be a user area. -/
def isCovered (hasUserArea : Bool) (i : Nat) : Bool :=
  !(hasUserArea && decide (0x12 ≤ i) && decide (i < 0x40))

/-- The covered words among the first `size` bytes, in order. -/
def coveredWords (bytes : List UInt8) (size : Nat) (hasUserArea : Bool) : List UInt16 :=
  let count := min size bytes.length / 2 - 1
  (((words bytes).take count).zipIdx.filter fun word => isCovered hasUserArea word.2).map (·.1)

/-- A word rotated to the left by one bit. -/
def rotate (w : UInt16) : UInt16 := w <<< 1 ||| w >>> 15

/-- Folds a word into the running value. -/
def absorb (sum word : UInt16) : UInt16 := rotate (sum ^^^ word)

/-- The running value before the first word. -/
def seed : UInt16 := 0xAAAA

/-- The checksum of the first `size` bytes. -/
def checksum (bytes : List UInt8) (size : Nat) (hasUserArea : Bool) : UInt16 :=
  (coveredWords bytes size hasUserArea).foldl absorb seed

end PinBridge.Eeprom
