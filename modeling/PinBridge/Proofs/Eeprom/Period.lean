import PinBridge.Proofs.Eeprom.Image

/-!
# The size of a part and the period of its read

A part of `n` bytes answers a full read with its content over and over, so that the read has period
`n` (`Periodic`). `detect` compares two pairs of neighbouring stretches: the halves of the read, and
then the quarters of its first half.

* `repeatsAt_iff`: a comparison at `n` tells whether the first `2 * n` bytes have period `n`. At 128
  these are the whole read; at 64 the second half of the read is not looked at.
* `size_stage`: the size is 128 if the read has period 128, else 64 if its first half has
  period 64, and else 256.
* `staged_size`: so the staged bytes over and over are the read iff the size is not 64, and the size
  is the smallest period iff moreover the read does not have period 64, where the size is 128.
-/

namespace PinBridge.Eeprom

variable {raw : List UInt8} {chip : Chip} {m n : Nat}

/-- **A read has period `n`**: every byte is the one at its address modulo `n`. -/
def Periodic (n : Nat) (raw : List UInt8) : Prop := ∀ i < raw.length, raw[i]? = raw[i % n]?

instance : Decidable (Periodic n raw) := by unfold Periodic; infer_instance

/-- The full read of a part: its content over and over. -/
def fullRead (part : List UInt8) : List UInt8 :=
  (List.range fullSize).map fun i => part.getD (i % part.length) 0

/-- The sizes that parts come in. -/
def partSizes : List Nat := [64, 128, 256]

/-- `n` is the smallest size of a part whose content over and over is the read. -/
structure SmallestPeriod (n : Nat) (raw : List UInt8) : Prop where
  mem : n ∈ partSizes
  periodic : Periodic n raw
  le : ∀ m ∈ partSizes, Periodic m raw → n ≤ m

theorem mem_partSizes : n ∈ partSizes ↔ n = 64 ∨ n = 128 ∨ n = 256 := by simp [partSizes]

/-- The staged size is one that parts come in. -/
theorem size_mem_partSizes (raw : List UInt8) (chip : Chip) :
    (Image.stage raw chip).size ∈ partSizes := detect_size raw chip

/-- The staged bytes over and over are what was read. -/
def Image.Reproduces (image : Image) : Prop :=
  ∀ i < image.raw.length, image.bytes[i % image.size]? = image.raw[i]?

/-! ### Periods -/

/-- A multiple of a period is a period. -/
theorem Periodic.of_dvd (h : Periodic n raw) (hn : n ∣ m) : Periodic m raw := by
  intro i hi
  have hmod : i % m < raw.length := Nat.lt_of_le_of_lt (Nat.mod_le i m) hi
  have hi' := h i hi
  have hm' := h (i % m) hmod
  rw [Nat.mod_mod_of_dvd i hn] at hm'
  rw [hi', hm']

/-- A read has its length as a period. -/
theorem periodic_of_length (h : raw.length = n) : Periodic n raw := by
  intro i hi
  rw [Nat.mod_eq_of_lt (h ▸ hi)]

theorem length_fullRead (part : List UInt8) : (fullRead part).length = fullSize := by
  simp [fullRead]

/-- **The read of a part has the size of the part as a period.** -/
theorem periodic_fullRead (part : List UInt8) : Periodic part.length (fullRead part) := by
  intro i hi
  rw [length_fullRead] at hi
  have hmod : i % part.length < fullSize := Nat.lt_of_le_of_lt (Nat.mod_le _ _) hi
  simp [fullRead, hi, hmod]

/-- **What a comparison tells**: the first `n` bytes come twice iff the first `2 * n` bytes have
period `n`. -/
theorem repeatsAt_iff (h : 2 * n ≤ raw.length) :
    repeatsAt raw n ↔ Periodic n (raw.take (2 * n)) := by
  have hlength : (raw.take (2 * n)).length = 2 * n := by rw [List.length_take]; omega
  have htake : ∀ i < 2 * n, (raw.take (2 * n))[i]? = raw[i]? :=
    fun i hi => List.getElem?_take_of_lt hi
  unfold repeatsAt
  rw [beq_iff_eq]
  constructor
  · intro hrep i hi
    rw [hlength] at hi
    have hmod : i % n < n := Nat.mod_lt i (by omega)
    rw [htake i hi, htake (i % n) (by omega)]
    rcases Nat.lt_or_ge i n with hin | hin
    · rw [Nat.mod_eq_of_lt hin]
    · have hsub : i % n = i - n := by
        rw [Nat.mod_eq_sub_mod hin, Nat.mod_eq_of_lt (by omega)]
      have hlt : i - n < n := by omega
      have hget : (raw.take n)[i - n]? = ((raw.drop n).take n)[i - n]? := by rw [hrep]
      rw [List.getElem?_take_of_lt hlt, List.getElem?_take_of_lt hlt, List.getElem?_drop] at hget
      rw [hsub, hget, Nat.add_sub_cancel' hin]
  · intro hper
    refine List.ext_getElem? fun i => ?_
    rcases Nat.lt_or_ge i n with hin | hin
    · have hget := hper (n + i) (by omega)
      rw [Nat.add_mod_left, Nat.mod_eq_of_lt hin, htake (n + i) (by omega),
        htake i (by omega)] at hget
      rw [List.getElem?_take_of_lt hin, List.getElem?_take_of_lt hin, List.getElem?_drop, hget]
    · rw [List.getElem?_take_eq_none hin, List.getElem?_take_eq_none hin]

/-- Within the staged bytes, a staged image is the read. -/
theorem Image.getElem?_bytes (image : Image) {i : Nat} (h : i < image.size) :
    image.bytes[i]? = image.raw[i]? := List.getElem?_take_of_lt h

/-- The staged bytes over and over are the read iff their number is a period of it. -/
theorem Image.reproduces_iff (image : Image) (h : 0 < image.size) :
    image.Reproduces ↔ Periodic image.size image.raw := by
  have hget : ∀ i, image.bytes[i % image.size]? = image.raw[i % image.size]? :=
    fun i => image.getElem?_bytes (Nat.mod_lt i h)
  constructor
  · intro hrep i hi
    rw [← hget i]
    exact (hrep i hi).symm
  · intro hper i hi
    rw [hget i]
    exact (hper i hi).symm

/-! ### The size -/

section Staged

variable (hchip : chip ≠ .ft232r) (hlength : raw.length = fullSize) (hones : ∃ b ∈ raw, b ≠ 0xFF)
include hchip hlength hones

/-- **The size from the periods**: the halves of the read decide first, then the quarters of its
first half. -/
theorem size_stage : (Image.stage raw chip).size =
    if Periodic 128 raw then 128 else if Periodic 64 (raw.take 128) then 64 else 256 := by
  have hlength : raw.length = 256 := hlength
  have hprogrammed : raw.all (· == 0xFF) = false := by
    obtain ⟨b, hb, hne⟩ := hones
    exact List.all_eq_false.mpr ⟨b, hb, by simpa using hne⟩
  have hhalves : repeatsAt raw 128 ↔ Periodic 128 raw := by
    rw [repeatsAt_iff (by omega), List.take_of_length_le (by omega)]
  have hquarters : repeatsAt raw 64 ↔ Periodic 64 (raw.take 128) := repeatsAt_iff (by omega)
  unfold Image.stage detect
  rw [if_neg hchip, hprogrammed, if_neg Bool.false_ne_true]
  by_cases h128 : Periodic 128 raw
  · rw [if_pos h128, if_pos (hhalves.mpr h128)]
  · rw [if_neg h128, if_neg (mt hhalves.mp h128)]
    by_cases h64 : Periodic 64 (raw.take 128)
    · rw [if_pos h64, if_pos (hquarters.mpr h64)]
    · rw [if_neg h64, if_neg (mt hquarters.mp h64)]

/-- **The size is a period of the read unless it is 64**, which the second half had no part in. -/
theorem periodic_size_iff :
    Periodic (Image.stage raw chip).size raw ↔ (Image.stage raw chip).size ≠ 64 := by
  have hsize := size_stage hchip hlength hones
  by_cases h128 : Periodic 128 raw
  · rw [if_pos h128] at hsize
    rw [hsize]
    simpa using h128
  · rw [if_neg h128] at hsize
    by_cases h64 : Periodic 64 (raw.take 128)
    · rw [if_pos h64] at hsize
      rw [hsize]
      have hnot : ¬ Periodic 64 raw := fun h => h128 (h.of_dvd (by decide))
      simpa using hnot
    · rw [if_neg h64] at hsize
      rw [hsize]
      have hall : Periodic 256 raw := periodic_of_length hlength
      simpa using hall

/-- The size is the smallest period iff it is a period and 64 is none. -/
theorem smallestPeriod_size_iff :
    SmallestPeriod (Image.stage raw chip).size raw ↔
      (Image.stage raw chip).size ≠ 64 ∧ ¬ Periodic 64 raw := by
  have hperiodic := periodic_size_iff hchip hlength hones
  have hmem := size_mem_partSizes raw chip
  constructor
  · intro hsmall
    have hne := hperiodic.mp hsmall.periodic
    refine ⟨hne, fun h64 => hne ?_⟩
    have hle := hsmall.le 64 (by decide) h64
    have hsizes := mem_partSizes.mp hmem
    omega
  · rintro ⟨hne, h64⟩
    refine ⟨hmem, hperiodic.mpr hne, fun m hm hper => ?_⟩
    -- A period below the size is 64, or it is 128 and the size would be that.
    refine Nat.le_of_not_lt fun hlt => ?_
    have hsize := size_stage hchip hlength hones
    rcases mem_partSizes.mp hm with rfl | rfl | rfl
    · exact h64 hper
    · rw [if_pos hper] at hsize
      omega
    · have hsizes := mem_partSizes.mp hmem
      omega

/-- A part of 64 bytes is taken for one of 128, as one of 128 is. -/
theorem size_of_part {part : List UInt8} (hpart : part.length = 64 ∨ part.length = 128)
    (hraw : raw = fullRead part) : (Image.stage raw chip).size = 128 := by
  have hperiodic : Periodic part.length raw := by
    rw [hraw]
    exact periodic_fullRead part
  have hdvd : part.length ∣ 128 := by
    rcases hpart with h | h
    · exact h ▸ (by decide : 64 ∣ 128)
    · exact h ▸ (by decide : 128 ∣ 128)
  rw [size_stage hchip hlength hones, if_pos (hperiodic.of_dvd hdvd)]

end Staged

/-- **The staged size of a full read** is 128 if the read has period 128, else 64 if its first half
has period 64, and else 256. Unless it is 64, the staged bytes over and over are what was read; and
unless moreover the read has period 64, it is the smallest period. So a part of 64 bytes is taken
for one of 128, as is one of 128. -/
theorem staged_size {raw : List UInt8} {chip : Chip} (hchip : chip ≠ .ft232r)
    (hlength : raw.length = fullSize) (hones : ∃ b ∈ raw, b ≠ 0xFF) :
    ((Image.stage raw chip).size =
      if Periodic 128 raw then 128 else if Periodic 64 (raw.take 128) then 64 else 256) ∧
    ((Image.stage raw chip).Reproduces ↔ (Image.stage raw chip).size ≠ 64) ∧
    (SmallestPeriod (Image.stage raw chip).size raw ↔
      (Image.stage raw chip).size ≠ 64 ∧ ¬ Periodic 64 raw) ∧
    ∀ part : List UInt8, part.length = 64 ∨ part.length = 128 → raw = fullRead part →
      (Image.stage raw chip).size = 128 := by
  have hpos : 0 < (Image.stage raw chip).size := by
    have hsizes := mem_partSizes.mp (size_mem_partSizes raw chip)
    omega
  refine ⟨size_stage hchip hlength hones, ?_, smallestPeriod_size_iff hchip hlength hones,
    fun part => size_of_part hchip hlength hones⟩
  rw [Image.reproduces_iff _ hpos]
  exact periodic_size_iff hchip hlength hones

/-- A part of 64 bytes, each byte its own address. -/
def part64 : List UInt8 := (List.range 64).map UInt8.ofNat

/-- A part of 128 bytes, each byte its own address. -/
def part128 : List UInt8 := (List.range 128).map UInt8.ofNat

/-- A part of 256 bytes with two equal quarters at its start. -/
def part256 : List UInt8 := part64 ++ part64 ++ List.replicate 128 0x5A

/-- A part of 64 bytes is staged as one of 128, and of a part of 256 bytes with two equal quarters
at its start no more than 64 are staged. -/
theorem staged_size_too_large_or_small :
    SmallestPeriod 64 (fullRead part64) ∧ (Image.stage (fullRead part64) .bm).size = 128 ∧
    SmallestPeriod 256 part256 ∧ (Image.stage part256 .bm).size = 64 ∧
      ¬ (Image.stage part256 .bm).Reproduces := by
  have hlength : part256.length = 256 := by decide +kernel
  have hnot64 : ¬ Periodic 64 part256 := fun h => absurd (h 128 (by omega)) (by decide +kernel)
  have hnot128 : ¬ Periodic 128 part256 := fun h => absurd (h 128 (by omega)) (by decide +kernel)
  have hsize : (Image.stage part256 .bm).size = 64 := by decide +kernel
  refine ⟨⟨by decide, periodic_fullRead part64, ?_⟩, by decide +kernel,
    ⟨by decide, periodic_of_length hlength, ?_⟩, hsize, ?_⟩
  · simp [partSizes]
  · simp [partSizes, hnot64, hnot128]
  · rw [Image.reproduces_iff _ (by omega), hsize]
    exact hnot64

/-- A part of 128 bytes with different halves is staged as it is. -/
theorem staged_size_of_128 :
    (Image.stage (fullRead part128) .bm).size = 128 ∧
      (Image.stage (fullRead part128) .bm).Reproduces ∧
      SmallestPeriod 128 (fullRead part128) := by
  have h := staged_size (show Chip.bm ≠ .ft232r by decide) (length_fullRead part128)
    ⟨0, by decide +kernel, by decide⟩
  have hsize : (Image.stage (fullRead part128) .bm).size = 128 :=
    h.2.2.2 part128 (.inr (by decide +kernel)) rfl
  have hnot64 : ¬ Periodic 64 (fullRead part128) := fun h =>
    absurd (h 64 (by decide +kernel)) (by decide +kernel)
  refine ⟨hsize, h.2.1.mpr (by omega), ?_⟩
  have hsmall := h.2.2.1.mpr ⟨by omega, hnot64⟩
  rwa [hsize] at hsmall

end PinBridge.Eeprom
