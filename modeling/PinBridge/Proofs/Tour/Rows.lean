import PinBridge.Tour

/-!
# Rows of bytes read back

The tour shows bytes in rows of eight, two digits to a byte and a blank between two bytes. Here the
rows are read again: `Hex.readRow?` reads one row, and `readRows?` a number of rows, put together.

* `readRow?_rowText` : a row that has been written is read as its bytes.
* `readRows?_rows` : the rows of some bytes, however many, are read as these bytes.
-/

namespace PinBridge

namespace Hex

/-- The value of a digit. -/
def digit? (c : Char) : Option Nat := (List.range 16).find? fun n => n.digitChar == c

/-- The byte of two digits. -/
def byte? (high low : Char) : Option UInt8 := do
  let high ← digit? high
  let low ← digit? low
  return UInt8.ofNat (high * 16 + low)

/-- Reads bytes of two digits each, with a blank between two of them. -/
def readRow? : List Char → Option (List UInt8)
  | [] => some []
  | [high, low] => do
    let b ← byte? high low
    return [b]
  | high :: low :: ' ' :: rest => do
    let b ← byte? high low
    let bs ← readRow? rest
    return b :: bs
  | _ => none

theorem digit?_digitChar : ∀ n < 16, digit? n.digitChar = some n := by decide

/-- A byte that has been written is read. -/
theorem byte?_digits (b : UInt8) :
    byte? (b.toNat / 16).digitChar (b.toNat % 16).digitChar = some b := by
  have hb : b.toNat < 256 := b.toNat_lt
  have hhigh : b.toNat / 16 < 16 := by omega
  have hlow : b.toNat % 16 < 16 := by omega
  have hsum : b.toNat / 16 * 16 + b.toNat % 16 = b.toNat := by omega
  unfold byte?
  rw [digit?_digitChar _ hhigh, digit?_digitChar _ hlow]
  exact congrArg some (by rw [hsum, UInt8.ofNat_toNat])

end Hex

namespace Tour

/-- The characters of a row that is not over after its first byte. -/
theorem rowText_cons_cons (b c : UInt8) (rest : List UInt8) :
    (rowText (b :: c :: rest)).toList = (b.toNat / 16).digitChar :: (b.toNat % 16).digitChar ::
      ' ' :: (rowText (c :: rest)).toList := by
  unfold rowText
  rw [List.map_cons, List.map_cons, String.intercalate_cons_cons, String.toList_append,
    String.toList_append]
  unfold Hex.byte
  rw [String.toList_ofList]
  rfl

/-- **A row that has been written is read as its bytes.** -/
theorem readRow?_rowText (row : List UInt8) : Hex.readRow? (rowText row).toList = some row := by
  induction row with
  | nil => rfl
  | cons b rest ih =>
    cases rest with
    | nil =>
      have hrow : (rowText [b]).toList = Hex.byteDigits b := by
        simp [rowText, Hex.byte]
      rw [hrow]
      simp only [Hex.byteDigits, Hex.readRow?, Hex.byte?_digits]
      rfl
    | cons c rest =>
      rw [rowText_cons_cons]
      simp only [Hex.readRow?, Hex.byte?_digits, ih]
      rfl

/-- Reads rows of bytes and puts them together. -/
def readRows? (lines : List String) : Option (List UInt8) :=
  (lines.mapM fun line => Hex.readRow? line.toList).map List.flatten

theorem flatten_rows (bytes : List UInt8) : (rows bytes).flatten = bytes := by
  induction bytes using rows.induct with
  | case1 => simp [rows]
  | case2 b rest ih =>
    rw [rows, List.flatten_cons, ih, List.cons_append, List.take_append_drop]

/-- **The rows of some bytes are read as these bytes.** -/
theorem readRows?_rows (bytes : List UInt8) : readRows? ((rows bytes).map rowText) = some bytes := by
  have hread : ∀ lines : List (List UInt8),
      (lines.map rowText).mapM (fun line => Hex.readRow? line.toList) = some lines := by
    intro lines
    induction lines with
    | nil => rfl
    | cons row rest ih =>
      rw [List.map_cons, List.mapM_cons, readRow?_rowText, ih]
      rfl
  unfold readRows?
  rw [hread, Option.map_some, flatten_rows]

end Tour

end PinBridge
