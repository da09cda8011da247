import Mathlib.Algebra.Group.Nat.Defs
import PinBridge.Packet

/-!
# Checked arithmetic

Numbers and lists have a result for everything: a difference stops at zero, a quotient by zero is
zero, and what is taken beyond the end of a list is left out. A machine stops there. The operations
below have no result where a machine stops: a number that its word has no room for (`fits`), a
difference below zero (`sub`), a quotient by zero (`div`), and bytes that are not there (`slice`,
`copyWithin`).

A computation of the library is written out again over these operations in the modules beside this
one, and shown to have the result that the library computes.
-/

namespace PinBridge.Checked

variable {α : Type} {a b bits n start stop target : Nat} {data : List α}

/-- A number, where a word of so many bits has room for it. -/
def fits (bits n : Nat) : Option Nat := if n < 2 ^ bits then some n else none

/-- A difference that is not below zero. -/
def sub (a b : Nat) : Option Nat := if b ≤ a then some (a - b) else none

/-- A quotient by a number other than zero. -/
def div (a b : Nat) : Option Nat := if b = 0 then none else some (a / b)

/-- The elements from `start` up to `stop`, where all of them are there. -/
def slice (data : List α) (start stop : Nat) : Option (List α) :=
  if start ≤ stop ∧ stop ≤ data.length then some ((data.take stop).drop start) else none

/-- Copies the bytes from `start` up to `stop` over those from `target` on, where both are there. -/
def copyWithin (buffer : List UInt8) (start stop target : Nat) : Option (List UInt8) :=
  if start ≤ stop ∧ stop ≤ buffer.length ∧ target + (stop - start) ≤ buffer.length then
    some (Packet.moveWithin buffer start stop target)
  else none

theorem fits_of_lt (h : n < 2 ^ bits) : fits bits n = some n := if_pos h

theorem sub_of_le (h : b ≤ a) : sub a b = some (a - b) := if_pos h

theorem div_of_pos (h : 0 < b) : div a b = some (a / b) := if_neg (Nat.ne_of_gt h)

theorem slice_of_le (h₁ : start ≤ stop) (h₂ : stop ≤ data.length) :
    slice data start stop = some ((data.take stop).drop start) := if_pos ⟨h₁, h₂⟩

/-- The first elements. -/
theorem slice_zero (h : stop ≤ data.length) : slice data 0 stop = some (data.take stop) :=
  slice_of_le (Nat.zero_le _) h

theorem copyWithin_of_le {buffer : List UInt8} (h₁ : start ≤ stop) (h₂ : stop ≤ buffer.length)
    (h₃ : target + (stop - start) ≤ buffer.length) :
    copyWithin buffer start stop target = some (Packet.moveWithin buffer start stop target) :=
  if_pos ⟨h₁, h₂, h₃⟩

end PinBridge.Checked
