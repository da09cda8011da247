import PinBridge.Proofs.Eeprom.Checksum
import PinBridge.Proofs.Eeprom.Image

/-!
# What verification accepts

An image verifies where its last word is the checksum of the words before it (`verifies_iff`; an
unprogrammed part never carries its checksum, so that the case is no exception). A content is
*sealed* by writing its checksum over its last word. A sealed image verifies, none does that differs
from a verified one in one word that counts, and the user area does not count
(`verification_of_seal`).
-/

namespace PinBridge.Eeprom

/-- A content with its checksum in the place of its last word. -/
def sealed (content : List UInt8) (hasUserArea : Bool) : List UInt8 :=
  content.take (content.length - 2) ++ bytesOf (checksum content content.length hasUserArea)

/-- Two runs of bytes differ, and only in the two bytes of one word. -/
def DifferAt (i : Nat) (a b : List UInt8) : Prop := a ≠ b ∧ ∀ j, j / 2 ≠ i → a[j]? = b[j]?

variable {raw other content : List UInt8} {chip : Chip} {n i : Nat}

/-- A part holds a number of whole words. -/
theorem exists_words_of_size (h : (Image.stage raw chip).size = n) :
    ∃ k, n = 2 * k ∧ 0 < k ∧ 2 * k ≤ fullSize := by
  have hsize : n ∈ [64, 128, 256] := h ▸ detect_size raw chip
  simp only [List.mem_cons, List.not_mem_nil, or_false] at hsize
  refine ⟨n / 2, by omega, by omega, ?_⟩
  unfold fullSize
  omega

/-! ### The stored checksum -/

theorem storedChecksum?_stage (h : (Image.stage raw chip).size = n) :
    (Image.stage raw chip).storedChecksum? = (words raw)[n / 2 - 1]? := by
  obtain ⟨k, rfl, hpos, -⟩ := exists_words_of_size h
  have haddress : 2 * k - 2 = 2 * (k - 1) := by omega
  have hlast : 2 * k / 2 - 1 = k - 1 := by omega
  unfold Image.storedChecksum? Image.bytes
  rw [h, haddress, ← words_getElem?, words_take, hlast, List.getElem?_take_of_lt (by omega)]
  rfl

/-- An unprogrammed part holds ones where its checksum, the seed, should stand. -/
theorem not_sealed_of_blank (hlen : raw.length = fullSize)
    (h : (Image.stage raw chip).blank) :
    (Image.stage raw chip).storedChecksum? ≠
      some (checksum raw (Image.stage raw chip).size (chip == .ft230x)) := by
  obtain ⟨hsize, ones⟩ := detect_blank h
  have hlast : fullSize / 2 - 1 < (words raw).length := by
    rw [length_words, hlen]
    decide
  rw [storedChecksum?_stage hsize, checksum_of_ones ones, List.getElem?_eq_getElem hlast,
    eq_of_mem_words ones _ (List.getElem_mem hlast)]
  decide

/-- **An image verifies where it carries its checksum.** -/
theorem verifies_iff (hlen : raw.length = fullSize) (hsize : (Image.stage raw chip).size = n) :
    (Image.stage raw chip).verifies ↔
      (words raw)[n / 2 - 1]? = some (checksum raw n (chip == .ft230x)) := by
  rw [← storedChecksum?_stage hsize, ← hsize]
  unfold Image.verifies
  rw [Bool.and_eq_true, beq_iff_eq]
  constructor
  · rintro ⟨-, hstored⟩
    exact hstored
  · intro hstored
    refine ⟨?_, hstored⟩
    cases hblank : (Image.stage raw chip).blank with
    | false => rfl
    | true => exact absurd hstored (not_sealed_of_blank hlen hblank)

/-! ### Sealing -/

theorem checksum_of_sealed (hn : n ≤ raw.length) (hcontent : content.length = n)
    {hasUserArea : Bool} (h : raw.take n = sealed content hasUserArea) :
    checksum raw n hasUserArea = checksum content n hasUserArea := by
  refine checksum_congr hn (Nat.le_of_eq hcontent.symm) fun i hi _ => ?_
  refine words_getElem?_congr fun j hj => ?_
  have hlt : j < content.length - 2 := by omega
  have hlast : j < (content.take (content.length - 2)).length := by
    rw [List.length_take]
    omega
  calc raw[j]? = (raw.take n)[j]? := (List.getElem?_take_of_lt (by omega)).symm
    _ = (content.take (content.length - 2))[j]? := by
        rw [h]
        exact List.getElem?_append_left hlast
    _ = content[j]? := List.getElem?_take_of_lt hlt

theorem word?_sealed (h : 2 ≤ content.length) (hasUserArea : Bool) :
    Header.word? (sealed content hasUserArea) (content.length - 2) =
      some (checksum content content.length hasUserArea) := by
  have hlen : (content.take (content.length - 2)).length = content.length - 2 := by
    rw [List.length_take]
    omega
  have hword := word?_append_bytesOf (content.take (content.length - 2))
    (checksum content content.length hasUserArea)
  rwa [hlen] at hword

/-- A sealed image stores the checksum of its content. -/
theorem storedChecksum?_of_sealed (h : 2 ≤ n) (hcontent : content.length = n)
    (hseal : raw.take n = sealed content (chip == .ft230x))
    (hsize : (Image.stage raw chip).size = n) :
    (Image.stage raw chip).storedChecksum? = some (checksum content n (chip == .ft230x)) := by
  unfold Image.storedChecksum? Image.bytes
  rw [hsize]
  change Header.word? (raw.take n) (n - 2) = _
  rw [hseal, ← hcontent]
  exact word?_sealed (hcontent ▸ h) _

/-! ### Differing in one word -/

namespace DifferAt

variable {a b : List UInt8}

/-- The other words agree. -/
theorem word_eq (h : DifferAt i a b) {j : Nat} (hj : j ≠ i) : (words a)[j]? = (words b)[j]? := by
  refine words_getElem?_congr fun address haddress => h.2 address ?_
  rw [haddress]
  exact hj

/-- The word itself differs. -/
theorem word_ne (h : DifferAt i a b) {k : Nat} (ha : a.length = 2 * k) (hb : b.length = 2 * k) :
    (words a)[i]? ≠ (words b)[i]? := by
  intro hword
  refine h.1 (words_inj ha hb (List.ext_getElem? fun j => ?_))
  by_cases hj : j = i
  · rw [hj, hword]
  · exact h.word_eq hj

/-- Seen from runs that go on: the word lies within, and the words before the end but it agree. -/
theorem of_take {k : Nat} (ha : 2 * k ≤ a.length) (hb : 2 * k ≤ b.length)
    (h : DifferAt i (a.take (2 * k)) (b.take (2 * k))) :
    i < k ∧ (words a)[i]? ≠ (words b)[i]? ∧
      ∀ j, j < k → j ≠ i → (words a)[j]? = (words b)[j]? := by
  have hne := h.word_ne (List.length_take_of_le ha) (List.length_take_of_le hb)
  rw [words_take, words_take] at hne
  have hlt : i < k := by
    by_contra hle
    refine hne ?_
    rw [List.getElem?_take_eq_none (Nat.le_of_not_lt hle),
      List.getElem?_take_eq_none (Nat.le_of_not_lt hle)]
  rw [List.getElem?_take_of_lt hlt, List.getElem?_take_of_lt hlt] at hne
  refine ⟨hlt, hne, fun j hj hji => ?_⟩
  have hword := h.word_eq hji
  rwa [words_take, words_take, List.getElem?_take_of_lt hj, List.getElem?_take_of_lt hj] at hword

end DifferAt

/-- **A change of one word that counts is seen**: either in what is stored or in what should be. -/
theorem not_verifies_of_differAt (hraw : raw.length = fullSize) (hother : other.length = fullSize)
    (hsize : (Image.stage raw chip).size = n) (hsize' : (Image.stage other chip).size = n)
    (hverifies : (Image.stage raw chip).verifies)
    (hcounts : i + 1 = n / 2 ∨ isCovered (chip == .ft230x) i)
    (hdiffer : DifferAt i (raw.take n) (other.take n)) :
    ¬(Image.stage other chip).verifies := by
  obtain ⟨k, rfl, -, hk⟩ := exists_words_of_size hsize
  have hn : 2 * k ≤ raw.length := hraw ▸ hk
  have hn' : 2 * k ≤ other.length := hother ▸ hk
  obtain ⟨hlt, hne, heq⟩ := hdiffer.of_take hn hn'
  rw [verifies_iff hraw hsize] at hverifies
  rw [verifies_iff hother hsize']
  intro hverifies'
  by_cases hlast : i = k - 1
  · -- the words that the checksum is of are the same
    have hsum : checksum raw (2 * k) (chip == .ft230x) =
        checksum other (2 * k) (chip == .ft230x) :=
      checksum_congr hn hn' fun j hj _ => heq j (by omega) (by omega)
    have hindex : 2 * k / 2 - 1 = i := by omega
    rw [hindex] at hverifies hverifies'
    exact hne (hverifies.trans (hsum ▸ hverifies'.symm))
  · -- the stored word is the same
    have hcovered : isCovered (chip == .ft230x) i := hcounts.resolve_left (by omega)
    have hsum := checksum_ne hn hn' (by omega) hcovered hne fun j hj => heq j (by omega)
    have hstored := heq (2 * k / 2 - 1) (by omega) (by omega)
    rw [hverifies, hverifies'] at hstored
    exact hsum (Option.some.inj hstored)

/-- **The user area does not count.** -/
theorem verifies_congr_of_userArea (hchip : chip = .ft230x) (hraw : raw.length = fullSize)
    (hother : other.length = fullSize) (hsize : (Image.stage raw chip).size = fullSize)
    (hsize' : (Image.stage other chip).size = fullSize)
    (heq : ∀ j, j / 2 < 0x12 ∨ 0x40 ≤ j / 2 → raw[j]? = other[j]?) :
    (Image.stage raw chip).verifies = (Image.stage other chip).verifies := by
  have hwords : ∀ i, i < 0x12 ∨ 0x40 ≤ i → (words raw)[i]? = (words other)[i]? := by
    intro i hi
    exact words_getElem?_congr fun j hj => heq j (hj ▸ hi)
  have hsum : checksum raw fullSize (chip == .ft230x) =
      checksum other fullSize (chip == .ft230x) := by
    refine checksum_congr (Nat.le_of_eq hraw.symm) (Nat.le_of_eq hother.symm)
      fun i _ hi => hwords i ?_
    rw [hchip] at hi
    exact isCovered_iff.mp hi
  rw [Bool.eq_iff_iff, verifies_iff hraw hsize, verifies_iff hother hsize', hsum,
    hwords (fullSize / 2 - 1) (by decide)]

/-- **Verification accepts sealed images and sees every change of one word.** For every chip: a full
read of a part that holds a sealed content verifies, and its stored checksum is that of the content.
Where a full read verifies, no other of the same size does that differs from it, among the bytes of
the part, in one word; here the words of a user area are left out, the checksum apart. And where
there is a user area, on a part of full size, what it holds makes no difference. -/
theorem verification_of_seal (chip : Chip) :
    (∀ n ∈ [64, 128, 256], ∀ content raw : List UInt8,
      content.length = n → raw.length = 256 → raw.take n = sealed content (chip == .ft230x) →
      (Image.stage raw chip).size = n →
      (Image.stage raw chip).verifies ∧
      (Image.stage raw chip).storedChecksum? = some (checksum content n (chip == .ft230x))) ∧
    (∀ n i, ∀ raw other : List UInt8, raw.length = 256 → other.length = 256 →
      (Image.stage raw chip).size = n → (Image.stage other chip).size = n →
      (chip = .ft230x → i + 1 = n / 2 ∨ i < 0x12 ∨ 0x40 ≤ i) →
      DifferAt i (raw.take n) (other.take n) →
      (Image.stage raw chip).verifies → ¬(Image.stage other chip).verifies) ∧
    (chip = .ft230x → ∀ raw other : List UInt8, raw.length = 256 → other.length = 256 →
      (Image.stage raw chip).size = 256 → (Image.stage other chip).size = 256 →
      (∀ j, j / 2 < 0x12 ∨ 0x40 ≤ j / 2 → raw[j]? = other[j]?) →
      (Image.stage raw chip).verifies = (Image.stage other chip).verifies) := by
  refine ⟨?_, ?_, fun hchip _ _ => verifies_congr_of_userArea hchip⟩
  · intro n hn content raw hcontent hraw hseal hsize
    have hbounds : 2 ≤ n ∧ n ≤ 256 := by
      simp only [List.mem_cons, List.not_mem_nil, or_false] at hn
      omega
    have hstored := storedChecksum?_of_sealed hbounds.1 hcontent hseal hsize
    refine ⟨?_, hstored⟩
    rw [verifies_iff hraw hsize, ← storedChecksum?_stage hsize, hstored,
      checksum_of_sealed (hraw ▸ hbounds.2) hcontent hseal]
  · intro n i raw other hraw hother hsize hsize' hcounts hdiffer hverifies
    refine not_verifies_of_differAt hraw hother hsize hsize' hverifies ?_ hdiffer
    by_cases hchip : chip = .ft230x
    · rcases hcounts hchip with hlast | hout
      · exact .inl hlast
      · right
        rw [hchip]
        exact isCovered_iff.mpr hout
    · right
      rw [beq_false_of_ne hchip]
      rfl

/-- A sealed content of full size, with all but one byte zero. -/
def sealedSample : List UInt8 := sealed (1 :: List.replicate 255 0) true

/-- Of a sealed image with a user area, the first word cannot be changed, and the first word of the
user area can. -/
theorem verification_of_seal_sample :
    (Image.stage sealedSample .ft230x).verifies ∧
    ¬(Image.stage (sealedSample.set 0 2) .ft230x).verifies ∧
    (Image.stage (sealedSample.set 0x24 0xFF) .ft230x).verifies := by
  obtain ⟨accepts, refuses, ignores⟩ := verification_of_seal .ft230x
  have verifies := (accepts 256 (by decide) (1 :: List.replicate 255 0) sealedSample
    (by decide +kernel) (by decide +kernel) (by decide +kernel) (by decide +kernel)).1
  refine ⟨verifies, ?_, ?_⟩
  · refine refuses 256 0 sealedSample (sealedSample.set 0 2) (by decide +kernel)
      (by decide +kernel) (by decide +kernel) (by decide +kernel) (fun _ => .inr (.inl (by decide)))
      ⟨by decide +kernel, fun j hj => ?_⟩ verifies
    rw [List.take_set]
    exact (List.getElem?_set_ne (by omega)).symm
  · have heq := ignores rfl sealedSample (sealedSample.set 0x24 0xFF) (by decide +kernel)
      (by decide +kernel) (by decide +kernel) (by decide +kernel)
      fun j hj => (List.getElem?_set_ne (by omega)).symm
    exact heq ▸ verifies

end PinBridge.Eeprom
