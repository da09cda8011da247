import PinBridge.Proofs.Checked.Basic
import PinBridge.Proofs.Eeprom.Checksum
import PinBridge.Proofs.Eeprom.Image

/-!
# The staged image in machine words

The staging area is a buffer of 256 bytes with the size of the part beside it, and what is read off
it is read by index: the stored checksum at the end of the part, the checksum word by word, and the
header with strings that wrap around by a mask. Each is written out here with its indexes. On an
image that a full read has left (`Staged`) all of them are within the buffer, and the results are
those of `Eeprom.Image`.

A part has 64, 128 or 256 bytes, all powers of two, so that the mask of one less than the size keeps
an index below it (`and_mask`).
-/

namespace PinBridge.Checked

open Eeprom (Extent Header Image fullSize wordOf)

/-! ### Staging -/

/-- The extent of a part from a full read. -/
def detect (raw : List UInt8) (chip : Chip) : Option Extent :=
  if chip = .ft232r then some ⟨128, false⟩
  else if raw.all (· == 0xFF) then some ⟨256, true⟩
  else do
    if (← slice raw 0 0x80) == (← slice raw 0x80 0x100) then return ⟨128, false⟩
    else if (← slice raw 0 0x40) == (← slice raw 0x40 0x80) then return ⟨64, false⟩
    else return ⟨256, false⟩

theorem detect_eq {raw : List UInt8} (h : raw.length = fullSize) (chip : Chip) :
    detect raw chip = some (Eeprom.detect raw chip) := by
  have hlen : raw.length = 256 := h
  have hhalf : (raw.take 0x100).drop 0x80 = (raw.drop 0x80).take 0x80 := by rw [List.take_drop]
  have hquarter : (raw.take 0x80).drop 0x40 = (raw.drop 0x40).take 0x40 := by rw [List.take_drop]
  unfold detect Eeprom.detect Eeprom.repeatsAt
  rw [slice_zero (by omega), slice_zero (by omega), slice_of_le (by omega) (by omega),
    slice_of_le (by omega) (by omega), hhalf, hquarter]
  simp only [Option.bind_eq_bind, Option.bind_some]
  split
  · rfl
  · split
    · rfl
    · split
      · rfl
      · split <;> rfl

/-- Stages a full read from a chip. -/
def stage (raw : List UInt8) (chip : Chip) : Option Image := do
  let extent ← detect raw chip
  return ⟨raw, extent.size, extent.blank, chip⟩

theorem stage_eq {raw : List UInt8} (h : raw.length = fullSize) (chip : Chip) :
    stage raw chip = some (.stage raw chip) := by
  unfold stage
  rw [detect_eq h]
  rfl

/-- **An image as a full read leaves it**: all bytes are there, and the size is one of three. -/
structure Staged (image : Image) : Prop where
  length : image.raw.length = fullSize
  size : image.size ∈ [64, 128, 256]

theorem Staged.of_stage {raw : List UInt8} (h : raw.length = fullSize) (chip : Chip) :
    Staged (.stage raw chip) := ⟨h, Eeprom.detect_size raw chip⟩

/-- **An image that holds the part**, whatever stands behind it: this is enough for the header. -/
structure HoldsPart (image : Image) : Prop where
  size : image.size ∈ [64, 128, 256]
  within : image.size ≤ image.raw.length

theorem Staged.holdsPart {image : Image} (h : Staged image) : HoldsPart image := by
  have hlen : image.raw.length = 256 := h.length
  have hsize := h.size
  simp only [List.mem_cons, List.not_mem_nil, or_false] at hsize
  exact ⟨h.size, by omega⟩

/-! ### The checksum -/

/-- The bytes of the part. -/
def bytes (image : Image) : Option (List UInt8) := slice image.raw 0 image.size

/-- The checksum in the last word of the part. -/
def storedChecksum (image : Image) : Option UInt16 := do
  let low ← image.raw[← sub image.size 2]?
  let high ← image.raw[← sub image.size 1]?
  return wordOf low high

/-- The checksum of the first `size` bytes. -/
def checksum (bytes : List UInt8) (size : Nat) (hasUserArea : Bool) : Option UInt16 :=
  let count := min size bytes.length / 2 - 1
  ((List.range count).filter (Eeprom.isCovered hasUserArea)).foldlM
    (fun sum i => do return Eeprom.absorb sum (← Header.word? bytes (2 * i))) Eeprom.seed

/-- Whether the part is programmed and its stored checksum is the one of its content. -/
def verifies (image : Image) : Option Bool :=
  if image.blank then some false
  else do
    return (← storedChecksum image) == (← checksum image.raw image.size (image.chip == .ft230x))

/-- The words are folded one after the other, those that are not covered left out. -/
theorem foldlM_covered (bytes : List UInt8) (hasUserArea : Bool) :
    ∀ (count start : Nat) (sum : UInt16), start + count ≤ (Eeprom.words bytes).length →
      ((List.range' start count).filter (Eeprom.isCovered hasUserArea)).foldlM
          (fun sum i => do return Eeprom.absorb sum (← Header.word? bytes (2 * i))) sum =
        some ((Eeprom.covered hasUserArea start
          (((Eeprom.words bytes).drop start).take count)).foldl Eeprom.absorb sum) := by
  intro count
  induction count with
  | zero =>
    intro start sum _
    rfl
  | succ count ih =>
    intro start sum hle
    have hlt : start < (Eeprom.words bytes).length := by omega
    have hword : Header.word? bytes (2 * start) = some (Eeprom.words bytes)[start] := by
      rw [← Eeprom.words_getElem?, List.getElem?_eq_getElem hlt]
    rw [List.range'_succ, List.filter_cons, List.drop_eq_getElem_cons hlt, List.take_succ_cons,
      Eeprom.covered_cons]
    split
    · rw [List.foldlM_cons, hword, List.foldl_cons]
      exact ih (start + 1) _ (by omega)
    · exact ih (start + 1) sum (by omega)

/-- **The checksum reads no byte beyond the end**, whatever the bytes and the size. -/
theorem checksum_eq (bytes : List UInt8) (size : Nat) (hasUserArea : Bool) :
    checksum bytes size hasUserArea = some (Eeprom.checksum bytes size hasUserArea) := by
  have hle : 0 + (min size bytes.length / 2 - 1) ≤ (Eeprom.words bytes).length := by
    rw [Eeprom.length_words]
    omega
  unfold checksum
  simp only [List.range_eq_range']
  exact foldlM_covered bytes hasUserArea _ 0 Eeprom.seed hle

variable {image : Image}

/-- What lies within the part is in the buffer. -/
theorem HoldsPart.getElem? (h : HoldsPart image) {i : Nat} (hi : i < image.size) :
    ∃ b, image.raw[i]? = some b ∧ image.bytes[i]? = some b := by
  have hlt : i < image.raw.length := Nat.lt_of_lt_of_le hi h.within
  refine ⟨image.raw[i], List.getElem?_eq_getElem hlt, ?_⟩
  unfold Image.bytes
  rw [List.getElem?_take_of_lt hi, List.getElem?_eq_getElem hlt]

theorem HoldsPart.word? (h : HoldsPart image) (address : Nat) (hi : address + 1 < image.size) :
    ∃ w, Header.word? image.raw address = some w ∧ Header.word? image.bytes address = some w := by
  obtain ⟨low, hlow, hlow'⟩ := h.getElem? (Nat.lt_of_succ_lt hi)
  obtain ⟨high, hhigh, hhigh'⟩ := h.getElem? hi
  refine ⟨wordOf low high, ?_, ?_⟩
  · unfold Header.word?
    rw [hlow, hhigh]
    rfl
  · unfold Header.word?
    rw [hlow', hhigh']
    rfl

theorem Staged.bytes_eq (h : Staged image) : bytes image = some image.bytes := by
  have hlen : image.raw.length = 256 := h.length
  have hsize := h.size
  simp only [List.mem_cons, List.not_mem_nil, or_false] at hsize
  exact slice_zero (by omega)

theorem Staged.storedChecksum_eq (h : Staged image) :
    ∃ w, storedChecksum image = some w ∧ image.storedChecksum? = some w := by
  have hsize := h.size
  simp only [List.mem_cons, List.not_mem_nil, or_false] at hsize
  have hlast : image.size - 1 = image.size - 2 + 1 := by omega
  obtain ⟨w, hraw, hbytes⟩ := h.holdsPart.word? (image.size - 2) (by omega)
  refine ⟨w, ?_, hbytes⟩
  unfold storedChecksum
  rw [sub_of_le (by omega), sub_of_le (by omega), hlast]
  exact hraw

theorem Staged.verifies_eq (h : Staged image) : verifies image = some image.verifies := by
  obtain ⟨w, hraw, hbytes⟩ := h.storedChecksum_eq
  unfold verifies Image.verifies
  rw [hraw, hbytes, checksum_eq]
  cases image.blank with
  | true => rfl
  | false => exact congrArg some (Option.some_beq_some).symm

/-! ### The header -/

/-- The string that a pair of bytes points to. -/
def string (raw : List UInt8) (size pointer : Nat) : Option (Option String) := do
  let length ← raw[pointer + 1]?
  let count := length.toNat / 2
  if count ≤ 1 then return none
  else
    let mask ← sub size 1
    let offset ← raw[pointer]?
    let start := offset.toNat &&& mask
    let text ← (List.range (← sub count 1)).mapM fun j => do
      return Char.ofNat (← raw[(start + 2 + j * 2) &&& mask]?).toNat
    return some (String.ofList text)

/-- The header of the image, if the part is programmed. -/
def header (image : Image) : Option (Option Header) :=
  if image.blank then some none
  else do
    let vendor ← Header.word? image.raw 0x02
    let product ← Header.word? image.raw 0x04
    let release ← Header.word? image.raw 0x06
    let power ← image.raw[0x08]?
    let current ← image.raw[0x09]?
    let config ← image.raw[0x0A]?
    let maxPower ← fits 16 (current.toNat * 2)
    let manufacturer ← string image.raw image.size 0x0E
    let description ← string image.raw image.size 0x10
    let serial ← string image.raw image.size 0x12
    return some {
      vendor, product, release
      selfPowered := Header.hasFlag power 0x40
      remoteWakeup := Header.hasFlag power 0x20
      maxPower
      useSerial := Header.hasFlag config 0x08
      manufacturer, description, serial }

/-- The mask of a size keeps what lies below it. -/
theorem and_mask {size : Nat} (h : size ∈ [64, 128, 256]) (i : Nat) :
    i &&& (size - 1) = i % size := by
  simp only [List.mem_cons, List.not_mem_nil, or_false] at h
  rcases h with rfl | rfl | rfl
  · exact Nat.and_two_pow_sub_one_eq_mod i 6
  · exact Nat.and_two_pow_sub_one_eq_mod i 7
  · exact Nat.and_two_pow_sub_one_eq_mod i 8

/-- What is there for each element is there for all of them. -/
theorem exists_mapM {α β : Type} {f : α → Option β} (h : ∀ a, ∃ b, f a = some b) (l : List α) :
    ∃ l', l.mapM f = some l' := by
  induction l with
  | nil => exact ⟨[], rfl⟩
  | cons a rest ih =>
    obtain ⟨b, hb⟩ := h a
    obtain ⟨rest', hrest⟩ := ih
    refine ⟨b :: rest', ?_⟩
    rw [List.mapM_cons, hb, hrest]
    rfl

/-- A string whose pointer lies within the part is within the part as well. -/
theorem HoldsPart.string_eq (h : HoldsPart image) (pointer : Nat)
    (hi : pointer + 1 < image.size) :
    ∃ s, string image.raw image.size pointer = some s ∧
      Header.string? image.bytes pointer = some s := by
  have hbytes : image.bytes.length = image.size := by
    unfold Image.bytes
    rw [List.length_take, Nat.min_eq_left h.within]
  obtain ⟨offset, hoffset, hoffset'⟩ := h.getElem? (Nat.lt_of_succ_lt hi)
  obtain ⟨length, hlength, hlength'⟩ := h.getElem? hi
  unfold string Header.string?
  rw [hlength, hlength', hoffset, hoffset', sub_of_le (by omega), hbytes]
  simp only [Option.bind_eq_bind, Option.bind_some, and_mask h.size]
  by_cases hcount : length.toNat / 2 ≤ 1
  · rw [if_pos hcount, if_pos (by omega)]
    exact ⟨none, rfl, rfl⟩
  · -- every index wraps around to one within the part
    have hbyte : ∀ j, ∃ b,
        image.raw[(offset.toNat % image.size + 2 + j * 2) % image.size]? = some b ∧
        image.bytes[(offset.toNat % image.size + 2 + j * 2) % image.size]? = some b :=
      fun j => h.getElem? (Nat.mod_lt _ (by omega))
    have hsame : ∀ j,
        (image.raw[(offset.toNat % image.size + 2 + j * 2) % image.size]?.bind fun b =>
          (pure (Char.ofNat b.toNat) : Option Char)) =
        Header.char? image.bytes (offset.toNat % image.size) j := by
      intro j
      obtain ⟨b, hraw, hpart⟩ := hbyte j
      unfold Header.char?
      rw [hbytes, hraw, hpart]
      rfl
    have hchar : ∀ j, ∃ c,
        Header.char? image.bytes (offset.toNat % image.size) j = some c := by
      intro j
      obtain ⟨b, -, hpart⟩ := hbyte j
      unfold Header.char?
      rw [hbytes, hpart]
      exact ⟨_, rfl⟩
    obtain ⟨text, htext⟩ := exists_mapM hchar (List.range (length.toNat / 2 - 1))
    rw [if_neg hcount, if_neg (by omega), sub_of_le (by omega), Option.bind_some]
    simp only [hsame, htext]
    exact ⟨_, rfl, rfl⟩

/-- **The header is within the part**: there is one for every programmed part. -/
theorem HoldsPart.header_eq (h : HoldsPart image) :
    header image = some image.header? ∧ (image.blank = false → image.header?.isSome) := by
  have hsize := h.size
  simp only [List.mem_cons, List.not_mem_nil, or_false] at hsize
  have hlarge : 64 ≤ image.size := by omega
  unfold header Image.header?
  cases image.blank with
  | true =>
    refine ⟨rfl, fun hblank => ?_⟩
    cases hblank
  | false =>
    obtain ⟨vendor, hvendor, hvendor'⟩ := h.word? 0x02 (by omega)
    obtain ⟨product, hproduct, hproduct'⟩ := h.word? 0x04 (by omega)
    obtain ⟨release, hrelease, hrelease'⟩ := h.word? 0x06 (by omega)
    obtain ⟨power, hpower, hpower'⟩ := h.getElem? (i := 0x08) (by omega)
    obtain ⟨current, hcurrent, hcurrent'⟩ := h.getElem? (i := 0x09) (by omega)
    obtain ⟨config, hconfig, hconfig'⟩ := h.getElem? (i := 0x0A) (by omega)
    obtain ⟨manufacturer, hmanufacturer, hmanufacturer'⟩ := h.string_eq 0x0E (by omega)
    obtain ⟨description, hdescription, hdescription'⟩ := h.string_eq 0x10 (by omega)
    obtain ⟨serial, hserial, hserial'⟩ := h.string_eq 0x12 (by omega)
    have hmax : current.toNat * 2 < 2 ^ 16 := by
      have := current.toNat_lt
      omega
    have hread : Header.read? image.bytes = some {
        vendor, product, release
        selfPowered := Header.hasFlag power 0x40
        remoteWakeup := Header.hasFlag power 0x20
        maxPower := current.toNat * 2
        useSerial := Header.hasFlag config 0x08
        manufacturer, description, serial } := by
      unfold Header.read?
      rw [hvendor', hproduct', hrelease', hpower', hcurrent', hconfig', hmanufacturer',
        hdescription', hserial']
      rfl
    rw [hvendor, hproduct, hrelease, hpower, hcurrent, hconfig, hmanufacturer, hdescription,
      hserial, hread]
    simp only [Option.bind_eq_bind, Option.bind_some, fits_of_lt hmax]
    exact ⟨rfl, fun _ => rfl⟩

theorem Staged.header_eq (h : Staged image) :
    header image = some image.header? ∧ (image.blank = false → image.header?.isSome) :=
  h.holdsPart.header_eq

end PinBridge.Checked
