import PinBridge.Baud.Divisor

/-!
# What a baud-rate code says

A chip reads an 18-bit code back as a divisor in eighths (`decode`), by which it divides one of two
reference clocks (`reference`); `decodedRate` is the rate that comes of it, to the nearest. It takes
the code from the two words of a request (`takenCode`). On the side of the library `codeOf` is the
code of a divisor.

* `decode_codeOf` : a divisor that a chip can have (`Usable`) is read back from its code.
* `takenCode_ofChoice` : the two words of a request hold the code in full.
-/

namespace PinBridge.Baud

/-! ### Divisors -/

/-- The eighths that a three-bit code stands for. -/
def fraction : Nat → Nat
  | 0 => 0
  | 1 => 4
  | 2 => 2
  | 3 => 1
  | 4 => 3
  | 5 => 5
  | 6 => 6
  | _ => 7

/-- **The divisor in eighths that a code stands for**, the bit of the clock apart. -/
def decode (code : Nat) : Nat :=
  match code &&& 0x1FFFF with
  | 0 => 8
  | 1 => 12
  | _ => 8 * (code &&& 0x3FFF) + fraction ((code >>> 14) &&& 7)

/-- The divisors that a chip can have: 1, 1.5, and from 2 on all that fourteen bits hold. -/
def Usable (divisor : Nat) : Prop :=
  divisor = 8 ∨ divisor = 12 ∨ (16 ≤ divisor ∧ divisor < 0x20000)

/-- The code of a divisor, where 1 and 1.5 have codes of their own. -/
def codeOf (divisor : Nat) : Nat :=
  if divisor = 8 then 0 else if divisor = 12 then 1 else encode divisor

theorem fractionCode_mod (divisor : Nat) : fractionCode (divisor % 8) = fractionCode divisor := by
  unfold fractionCode
  rw [Nat.mod_mod]

/-- The codes of the eighths are those of three bits, each used once. -/
theorem fractionCode_spec (divisor : Nat) :
    fractionCode divisor < 8 ∧ fraction (fractionCode divisor) = divisor % 8 := by
  have htable : ∀ eighths < 8,
      fractionCode eighths < 8 ∧ fraction (fractionCode eighths) = eighths := by
    decide
  rw [← fractionCode_mod]
  exact htable _ (Nat.mod_lt _ (by decide))

/-- But for 1 and 1.5, the eighths of a divisor that is read have the code that is read. -/
theorem fractionCode_decode {code : Nat} (h : 2 ≤ code &&& 0x1FFFF) :
    fractionCode (decode code) = (code >>> 14) &&& 7 := by
  have htable : ∀ bits < 8, fraction bits < 8 ∧ fractionCode (fraction bits) = bits := by
    decide
  have hbits : (code >>> 14) &&& 7 < 8 := Nat.lt_succ_of_le Nat.and_le_right
  unfold decode
  split
  · omega
  · omega
  · rw [← fractionCode_mod, Nat.mul_add_mod, Nat.mod_eq_of_lt (htable _ hbits).1]
    exact (htable _ hbits).2

theorem encode_lt {divisor : Nat} (h : divisor < 0x20000) : encode divisor < 0x20000 := by
  have hfraction := (fractionCode_spec divisor).1
  unfold encode
  omega

/-- **No divisor from 2 on is taken for one with a code of its own.** -/
theorem two_le_encode {divisor : Nat} (h : 16 ≤ divisor) : 2 ≤ encode divisor := by
  unfold encode
  omega

theorem codeOf_lt {divisor : Nat} (h : Usable divisor) : codeOf divisor < 0x20000 := by
  unfold codeOf
  rcases h with rfl | rfl | ⟨hlow, hhigh⟩
  · decide
  · decide
  · rw [if_neg (by omega), if_neg (by omega)]
    exact encode_lt hhigh

/-- The parts of an encoded divisor come apart again. -/
theorem decode_encode {divisor : Nat} (hlow : 16 ≤ divisor) (hhigh : divisor < 0x20000) :
    decode (encode divisor) = divisor := by
  obtain ⟨hfraction, hback⟩ := fractionCode_spec divisor
  have hcode := two_le_encode hlow
  have hmask : encode divisor &&& 0x1FFFF = encode divisor := by
    rw [Nat.and_two_pow_sub_one_eq_mod _ 17, Nat.mod_eq_of_lt (encode_lt hhigh)]
  have hinteger : encode divisor &&& 0x3FFF = divisor / 8 := by
    rw [Nat.and_two_pow_sub_one_eq_mod _ 14]
    unfold encode
    omega
  have heighths : (encode divisor >>> 14) &&& 7 = fractionCode divisor := by
    rw [Nat.and_two_pow_sub_one_eq_mod _ 3, Nat.shiftRight_eq_div_pow]
    unfold encode
    omega
  unfold decode
  rw [hmask]
  split
  · omega
  · omega
  · rw [hinteger, heighths, hback]
    exact Nat.div_add_mod divisor 8

/-- **A divisor is read back from its code.** -/
theorem decode_codeOf {divisor : Nat} (h : Usable divisor) : decode (codeOf divisor) = divisor := by
  unfold codeOf
  rcases h with rfl | rfl | ⟨hlow, hhigh⟩
  · rfl
  · rfl
  · rw [if_neg (by omega), if_neg (by omega)]
    exact decode_encode hlow hhigh

/-! ### Requests -/

/-- The code that a chip takes from the two words of a request: a high-speed chip has the channel in
the low byte of the second one. -/
def takenCode (chip : Chip) (value index : UInt16) : Nat :=
  value.toNat ||| (if chip.isHighSpeed then index.toNat >>> 8 else index.toNat) <<< 16

/-- The clock that a code selects, by the rate that it gives for a divisor of one eighth. -/
def reference (code : Nat) : Nat := if code.testBit 17 then 96000000 else 24000000

theorem decode_add_bit (code : Nat) : decode (code + fastClockBit) = decode code := by
  have hmask : (code + fastClockBit) &&& 0x1FFFF = code &&& 0x1FFFF := by
    rw [Nat.and_two_pow_sub_one_eq_mod _ 17, Nat.and_two_pow_sub_one_eq_mod _ 17]
    exact Nat.add_mod_right _ _
  have hinteger : (code + fastClockBit) &&& 0x3FFF = code &&& 0x3FFF := by
    rw [Nat.and_two_pow_sub_one_eq_mod _ 14, Nat.and_two_pow_sub_one_eq_mod _ 14]
    unfold fastClockBit
    omega
  have heighths : ((code + fastClockBit) >>> 14) &&& 7 = (code >>> 14) &&& 7 := by
    rw [Nat.and_two_pow_sub_one_eq_mod _ 3, Nat.and_two_pow_sub_one_eq_mod _ 3,
      Nat.shiftRight_eq_div_pow, Nat.shiftRight_eq_div_pow]
    unfold fastClockBit
    omega
  unfold decode
  rw [hmask, hinteger, heighths]

theorem testBit_add_bit {code : Nat} (h : code < 0x20000) :
    (code + fastClockBit).testBit 17 = true := by
  unfold fastClockBit
  rw [Nat.testBit_eq_decide_div_mod_eq, decide_eq_true_iff]
  omega

theorem testBit_of_lt {code : Nat} (h : code < 0x20000) : code.testBit 17 = false :=
  Nat.testBit_lt_two_pow h

/-- The rate that a clock gives for a divisor, rounded half up. -/
def rateOf (reference divisor : Nat) : Nat := (2 * reference + divisor) / (2 * divisor)

/-- **The rate that a code stands for.** -/
def decodedRate (code : Nat) : Nat := rateOf (reference code) (decode code)

theorem rateOf_pos {reference divisor : Nat} (hpos : 0 < divisor) (h : divisor ≤ 2 * reference) :
    0 < rateOf reference divisor := by
  unfold rateOf
  exact Nat.div_pos (by omega) (by omega)

theorem high_shiftLeft_or_low {low : Nat} (high : Nat) (h : low < 0x10000) :
    low ||| high <<< 16 = high * 0x10000 + low := by
  rw [Nat.or_comm, ← Nat.shiftLeft_add_eq_or_of_lt h, Nat.shiftLeft_eq]

/-- The second word of a request to a high-speed chip has the code above the channel. -/
theorem toNat_index {high : Nat} {channel : UInt16} (hhigh : high < 0x100)
    (hchannel : channel.toNat < 0x100) :
    (UInt16.ofNat (high * 0x100) ||| channel).toNat = high * 0x100 + channel.toNat := by
  have hword : (UInt16.ofNat (high * 0x100)).toNat = high <<< 8 := by
    rw [UInt16.toNat_ofNat', Nat.mod_eq_of_lt (by omega), Nat.shiftLeft_eq]
  rw [UInt16.toNat_or, hword, ← Nat.shiftLeft_add_eq_or_of_lt hchannel, Nat.shiftLeft_eq]

/-- **No bit of a code is lost** over the two words of a request. -/
theorem takenCode_ofChoice {chip : Chip} {channel : UInt16} {choice : Choice}
    (hcode : choice.code < 0x40000) (hchannel : channel.toNat < 0x100) :
    takenCode chip (Setting.ofChoice chip channel choice).value
      (Setting.ofChoice chip channel choice).index = choice.code := by
  have hvalue : (UInt16.ofNat choice.code).toNat = choice.code % 0x10000 := UInt16.toNat_ofNat'
  unfold takenCode Setting.ofChoice
  rw [hvalue, high_shiftLeft_or_low _ (Nat.mod_lt _ (by decide))]
  cases chip.isHighSpeed with
  | false =>
    have hindex : (UInt16.ofNat (choice.code / 0x10000)).toNat = choice.code / 0x10000 := by
      rw [UInt16.toNat_ofNat', Nat.mod_eq_of_lt (by omega)]
    simp only [Bool.false_eq_true, if_false]
    rw [hindex]
    exact Nat.div_add_mod' choice.code 0x10000
  | true =>
    simp only [if_true]
    rw [toNat_index (by omega) hchannel, Nat.shiftRight_eq_div_pow]
    omega

/-- A request to a high-speed chip names the channel. -/
theorem index_and_low_byte {chip : Chip} {channel : UInt16} {choice : Choice}
    (hcode : choice.code < 0x40000) (hchannel : channel.toNat < 0x100) (hchip : chip.isHighSpeed) :
    (Setting.ofChoice chip channel choice).index.toNat &&& 0xFF = channel.toNat := by
  unfold Setting.ofChoice
  rw [if_pos hchip]
  rw [toNat_index (by omega) hchannel, Nat.and_two_pow_sub_one_eq_mod _ 8]
  omega

end PinBridge.Baud
