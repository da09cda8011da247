import PinBridge.Eeprom.Image

/-!
# What staging makes of a full read

`Image.stage` keeps the read and the chip, and adds what `detect` finds: one of three sizes, and
whether the part is unprogrammed. The read is made of words, two bytes each: where these are found
in a row is `getElem?_flatMap_pairs`.
-/

namespace PinBridge.Eeprom

variable (raw : List UInt8) (chip : Chip)

/-- A part has one of three sizes. -/
theorem detect_size : (detect raw chip).size ∈ [64, 128, 256] := by
  unfold detect
  split
  · simp
  · split
    · simp
    · split
      · simp
      · split <;> simp

/-- One family has parts of one size. -/
theorem detect_size_of_ft232r {chip : Chip} (h : chip = .ft232r) :
    (detect raw chip).size = 128 := by
  rw [h]
  rfl

/-- A part is never larger than those of its family. -/
theorem detect_size_le : (detect raw chip).size ≤ chip.eepromSize := by
  have hsize := detect_size raw chip
  simp only [List.mem_cons, List.not_mem_nil, or_false] at hsize
  by_cases hchip : chip = .ft232r
  · rw [detect_size_of_ft232r raw hchip, hchip]
    exact Nat.le_refl 128
  · have hfull : chip.eepromSize = 256 := by
      unfold Chip.eepromSize
      split
      · exact absurd rfl hchip
      · rfl
    omega

/-- **Only nothing but ones is unprogrammed**, and counts in full. -/
theorem detect_blank {raw : List UInt8} {chip : Chip} (h : (detect raw chip).blank) :
    (detect raw chip).size = fullSize ∧ ∀ b ∈ raw, b = 0xFF := by
  unfold detect at h ⊢
  by_cases hchip : chip = .ft232r
  · rw [if_pos hchip] at h
    cases h
  · rw [if_neg hchip] at h ⊢
    by_cases hones : raw.all (· == 0xFF)
    · rw [if_pos hones]
      refine ⟨rfl, fun b hb => ?_⟩
      have hb := List.all_eq_true.mp hones b hb
      exact eq_of_beq hb
    · rw [if_neg hones] at h
      split at h
      · cases h
      · split at h <;> cases h

/-! ### Pairs of bytes in a row -/

variable {α : Type} {f : α → List UInt8} {l : List α}

theorem length_flatMap_pairs (hf : ∀ a ∈ l, (f a).length = 2) :
    (l.flatMap f).length = 2 * l.length := by
  rw [List.length_flatMap, List.map_congr_left hf, List.map_const', List.sum_replicate_nat,
    Nat.mul_comm]

/-- **Of pairs in a row**, the bytes of the one with index `j` are those from `2 * j` on. -/
theorem getElem?_flatMap_pairs (hf : ∀ a ∈ l, (f a).length = 2) {j : Nat} {a : α}
    (ha : l[j]? = some a) {k : Nat} (hk : k < 2) : (l.flatMap f)[2 * j + k]? = (f a)[k]? := by
  induction l generalizing j with
  | nil => cases ha
  | cons first rest ih =>
    have hfirst : (f first).length = 2 := hf first List.mem_cons_self
    rw [List.flatMap_cons]
    cases j with
    | zero =>
      cases ha
      rw [Nat.mul_zero, Nat.zero_add, List.getElem?_append_left (by omega)]
    | succ j =>
      have hindex : 2 * (j + 1) + k - 2 = 2 * j + k := by omega
      rw [List.getElem?_append_right (by omega), hfirst, hindex]
      exact ih (fun a ha => hf a (List.mem_cons_of_mem first ha)) ha

end PinBridge.Eeprom
