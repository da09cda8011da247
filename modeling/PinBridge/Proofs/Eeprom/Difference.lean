import PinBridge.Proofs.Eeprom.Checksum

/-!
# The difference of two checksums

The running value of a checksum is changed by exclusive or and rotation alone, and both respect
exclusive or. So the difference of two checksums is made of the differences of the words that count
(`Covered`), each rotated once for every such word from it on: `foldl_absorb_xor` for any words at
all, `checksum_xor` for the words of two runs of bytes.

A rotation takes nothing but zero to zero (`rotateBy_eq_zero`), so a difference in one word alone
cannot vanish; and where the words that count are the same there is nothing to add up.
-/

namespace PinBridge.Eeprom

/-! ### Rotations -/

/-- A word rotated to the left by so many bits. -/
def rotateBy (w : UInt16) (count : Nat) : UInt16 := ⟨w.toBitVec.rotateLeft count⟩

variable (v w : UInt16) (j k : Nat)

/-- The bits of a rotated word, each from where it has been. -/
theorem getLsbD_rotateBy {i : Nat} (hi : i < 16) :
    (rotateBy w k).toBitVec.getLsbD i = w.toBitVec.getLsbD ((i + (16 - k % 16)) % 16) := by
  have hmod : k % 16 < 16 := Nat.mod_lt k (by decide)
  unfold rotateBy
  rw [BitVec.getLsbD_rotateLeft]
  by_cases h : i < k % 16
  · have hindex : 16 - k % 16 + i = (i + (16 - k % 16)) % 16 := by omega
    rw [decide_eq_true h, cond_true, hindex]
  · have hindex : i - k % 16 = (i + (16 - k % 16)) % 16 := by omega
    rw [decide_eq_false h, cond_false, decide_eq_true hi, Bool.true_and, hindex]

theorem rotate_eq : rotate w = rotateBy w 1 := rfl

theorem rotateBy_zero : rotateBy w 0 = w := by
  refine UInt16.toBitVec_inj.mp (BitVec.eq_of_getLsbD_eq fun i hi => ?_)
  have hindex : (i + (16 - 0 % 16)) % 16 = i := by omega
  rw [getLsbD_rotateBy w 0 hi, hindex]

theorem rotateBy_rotateBy : rotateBy (rotateBy w j) k = rotateBy w (j + k) := by
  refine UInt16.toBitVec_inj.mp (BitVec.eq_of_getLsbD_eq fun i hi => ?_)
  have hindex : ((i + (16 - k % 16)) % 16 + (16 - j % 16)) % 16 =
      (i + (16 - (j + k) % 16)) % 16 := by omega
  rw [getLsbD_rotateBy _ k hi, getLsbD_rotateBy w j (Nat.mod_lt _ (by decide)), hindex,
    getLsbD_rotateBy w (j + k) hi]

/-- **A rotation respects exclusive or.** -/
theorem rotateBy_xor : rotateBy (v ^^^ w) k = rotateBy v k ^^^ rotateBy w k := by
  refine UInt16.toBitVec_inj.mp (BitVec.eq_of_getLsbD_eq fun i hi => ?_)
  rw [UInt16.toBitVec_xor, BitVec.getLsbD_xor, getLsbD_rotateBy _ k hi, getLsbD_rotateBy v k hi,
    getLsbD_rotateBy w k hi, UInt16.toBitVec_xor, BitVec.getLsbD_xor]

theorem zero_rotateBy : rotateBy 0 k = 0 := by
  have h := rotateBy_xor 0 0 k
  rwa [UInt16.xor_self, UInt16.xor_self] at h

/-- **Nothing but zero is rotated to zero**: rotated on to the full turn, a word is as it was. -/
theorem rotateBy_eq_zero {w : UInt16} {k : Nat} (h : rotateBy w k = 0) : w = 0 := by
  have hturn : rotateBy (rotateBy w k) (16 - k % 16) = w := by
    have hfull : (k + (16 - k % 16)) % 16 = 0 := by omega
    rw [rotateBy_rotateBy]
    unfold rotateBy
    rw [← BitVec.rotateLeft_mod_eq_rotateLeft, hfull]
    exact rotateBy_zero w
  rw [h, zero_rotateBy] at hturn
  exact hturn.symm

/-! ### Differences -/

/-- The exclusive or of words. -/
def xorAll (ws : List UInt16) : UInt16 := ws.foldr (· ^^^ ·) 0

/-- The difference of two words at each index of a list, rotated once for every index from it on. -/
def rotatedDifferences (f g : Nat → UInt16) (indices : List Nat) : List UInt16 :=
  indices.map fun i => rotateBy (f i ^^^ g i) (indices.countP (i ≤ ·))

variable {f g : Nat → UInt16} {indices : List Nat}

/-- The first of increasing indices has all of them from it on. -/
theorem rotatedDifferences_cons {i : Nat} (increasing : (i :: indices).Pairwise (· < ·)) :
    rotatedDifferences f g (i :: indices) =
      rotateBy (f i ^^^ g i) (indices.length + 1) :: rotatedDifferences f g indices := by
  obtain ⟨habove, -⟩ := List.pairwise_cons.mp increasing
  have hall : (i :: indices).countP (i ≤ ·) = indices.length + 1 := by
    refine List.countP_eq_length.mpr fun j hj => decide_eq_true ?_
    rcases List.mem_cons.mp hj with rfl | hj
    · exact Nat.le_refl _
    · exact Nat.le_of_lt (habove j hj)
  have hlater : ∀ j ∈ indices, (i :: indices).countP (j ≤ ·) = indices.countP (j ≤ ·) := by
    intro j hj
    exact List.countP_cons_of_neg (by simpa using habove j hj)
  unfold rotatedDifferences
  rw [List.map_cons, hall]
  congr 1
  exact List.map_congr_left fun j hj => by rw [hlater j hj]

theorem absorb_xor (sum sum' v w : UInt16) :
    absorb sum v ^^^ absorb sum' w = rotateBy (sum ^^^ sum') 1 ^^^ rotateBy (v ^^^ w) 1 := by
  unfold absorb
  rw [rotate_eq, rotate_eq, ← rotateBy_xor, ← rotateBy_xor]
  congr 1
  ac_rfl

/-- **The difference of two running values** is that of the values at the start and those of the
words, each rotated as often as there is a word to absorb from then on. -/
theorem foldl_absorb_xor (increasing : indices.Pairwise (· < ·)) (sum sum' : UInt16) :
    (indices.map f).foldl absorb sum ^^^ (indices.map g).foldl absorb sum' =
      rotateBy (sum ^^^ sum') indices.length ^^^ xorAll (rotatedDifferences f g indices) := by
  induction indices generalizing sum sum' with
  | nil => rw [List.length_nil, rotateBy_zero]; exact (UInt16.xor_zero).symm
  | cons i rest ih =>
    rw [List.map_cons, List.map_cons, List.foldl_cons, List.foldl_cons,
      ih (List.pairwise_cons.mp increasing).2, absorb_xor, rotateBy_xor, rotateBy_rotateBy,
      rotateBy_rotateBy, rotatedDifferences_cons increasing, Nat.add_comm 1, List.length_cons]
    exact UInt16.xor_assoc _ _ _

/-- Where all words are zero, so is their exclusive or. -/
theorem xorAll_map_eq_zero {h : Nat → UInt16} (hzero : ∀ i ∈ indices, h i = 0) :
    xorAll (indices.map h) = 0 := by
  induction indices with
  | nil => rfl
  | cons i rest ih =>
    have hrest := ih fun j hj => hzero j (List.mem_cons_of_mem i hj)
    change h i ^^^ xorAll (rest.map h) = 0
    rw [hzero i List.mem_cons_self, hrest, UInt16.xor_self]

/-- Where all words but one are zero, their exclusive or is that one. -/
theorem xorAll_map_eq_single {h : Nat → UInt16} {i : Nat} (nodup : indices.Nodup)
    (hmem : i ∈ indices) (hzero : ∀ j ∈ indices, j ≠ i → h j = 0) :
    xorAll (indices.map h) = h i := by
  induction indices with
  | nil => cases hmem
  | cons k rest ih =>
    obtain ⟨hfirst, hrest⟩ := List.nodup_cons.mp nodup
    change h k ^^^ xorAll (rest.map h) = h i
    rcases List.mem_cons.mp hmem with rfl | hmem
    · have hothers : xorAll (rest.map h) = 0 := by
        refine xorAll_map_eq_zero fun j hj => hzero j (List.mem_cons_of_mem i hj) ?_
        rintro rfl
        exact hfirst hj
      rw [hothers, UInt16.xor_zero]
    · have hne : k ≠ i := by
        rintro rfl
        exact hfirst hmem
      rw [hzero k List.mem_cons_self hne, UInt16.zero_xor]
      exact ih hrest hmem fun j hj => hzero j (List.mem_cons_of_mem k hj)

/-! ### The words that count -/

/-- **The words that count** in the checksum of `size` bytes of a run: those before the last word of
the size, or of the run if it is shorter, the user area left out. -/
def Covered (hasUserArea : Bool) (length size i : Nat) : Prop :=
  i < min size length / 2 - 1 ∧ (hasUserArea → i < 0x12 ∨ 0x40 ≤ i)

/-- The indices of the words that count, in order. -/
def coveredIndices (hasUserArea : Bool) (length size : Nat) : List Nat :=
  (List.range (min size length / 2 - 1)).filter (isCovered hasUserArea)

/-- The word at an index of a run of bytes, the low byte first. -/
def wordAt (bytes : List UInt8) (i : Nat) : UInt16 :=
  wordOf (bytes.getD (2 * i) 0) (bytes.getD (2 * i + 1) 0)

variable {hasUserArea : Bool} {a b : List UInt8} {size : Nat}

theorem mem_coveredIndices {length i : Nat} :
    i ∈ coveredIndices hasUserArea length size ↔ Covered hasUserArea length size i := by
  unfold coveredIndices Covered
  rw [List.mem_filter, List.mem_range]
  refine and_congr_right fun _ => ?_
  cases hasUserArea with
  | false => simp [isCovered]
  | true => simp only [isCovered_iff, true_implies]

theorem coveredIndices_increasing (length : Nat) :
    (coveredIndices hasUserArea length size).Pairwise (· < ·) :=
  List.pairwise_lt_range.filter _

theorem words_getElem?_of_lt {i : Nat} (h : 2 * i + 1 < a.length) :
    (words a)[i]? = some (wordAt a i) := by
  have hlow : 2 * i < a.length := Nat.lt_of_succ_lt h
  rw [words_getElem?]
  unfold Header.word? wordAt
  rw [List.getD_eq_getElem?_getD, List.getD_eq_getElem?_getD, List.getElem?_eq_getElem h,
    List.getElem?_eq_getElem hlow]
  rfl

/-- The covered words are those at the indices that count. -/
theorem coveredWords_eq (a : List UInt8) (size : Nat) (hasUserArea : Bool) :
    coveredWords a size hasUserArea =
      (coveredIndices hasUserArea a.length size).map (wordAt a) := by
  have hwords : ((words a).take (min size a.length / 2 - 1)).zipIdx =
      (List.range (min size a.length / 2 - 1)).map fun i => (wordAt a i, i) := by
    refine List.ext_getElem? fun i => ?_
    rw [List.getElem?_zipIdx, List.getElem?_map, List.getElem?_take]
    by_cases hi : i < min size a.length / 2 - 1
    · rw [if_pos hi, List.getElem?_range hi, words_getElem?_of_lt (by omega)]
      simp
    · rw [if_neg hi, List.getElem?_eq_none (by simpa using hi)]
      rfl
  unfold coveredWords coveredIndices
  simp only
  rw [hwords, List.filter_map, List.map_map]
  rfl

/-- A byte that lies in no other word. -/
theorem wordAt_set {j i : Nat} (hne : j / 2 ≠ i) (byte : UInt8) :
    wordAt (a.set j byte) i = wordAt a i := by
  have hlow : j ≠ 2 * i := by omega
  have hhigh : j ≠ 2 * i + 1 := by omega
  unfold wordAt
  simp only [List.getD_eq_getElem?_getD, List.getElem?_set_ne hlow, List.getElem?_set_ne hhigh]

/-- **The difference of two checksums.** -/
theorem checksum_xor_eq (hlength : a.length = b.length) :
    checksum a size hasUserArea ^^^ checksum b size hasUserArea =
      xorAll (rotatedDifferences (wordAt a) (wordAt b)
        (coveredIndices hasUserArea a.length size)) := by
  unfold checksum
  rw [coveredWords_eq, coveredWords_eq, ← hlength,
    foldl_absorb_xor (coveredIndices_increasing a.length), UInt16.xor_self, zero_rotateBy,
    UInt16.zero_xor]

theorem checksum_eq_of_words (hlength : a.length = b.length)
    (h : ∀ i, Covered hasUserArea a.length size i → wordAt a i = wordAt b i) :
    checksum a size hasUserArea = checksum b size hasUserArea := by
  refine UInt16.xor_eq_zero_iff.mp ?_
  rw [checksum_xor_eq hlength]
  refine xorAll_map_eq_zero fun i hi => ?_
  rw [h i (mem_coveredIndices.mp hi), UInt16.xor_self, zero_rotateBy]

theorem checksum_ne_of_word (hlength : a.length = b.length) {i : Nat}
    (hi : Covered hasUserArea a.length size i) (hne : wordAt a i ≠ wordAt b i)
    (h : ∀ j, Covered hasUserArea a.length size j → j ≠ i → wordAt a j = wordAt b j) :
    checksum a size hasUserArea ≠ checksum b size hasUserArea := by
  intro heq
  have hzero : xorAll (rotatedDifferences (wordAt a) (wordAt b)
      (coveredIndices hasUserArea a.length size)) = 0 := by
    rw [← checksum_xor_eq hlength, heq, UInt16.xor_self]
  have hnodup : (coveredIndices hasUserArea a.length size).Nodup :=
    (coveredIndices_increasing a.length).imp Nat.ne_of_lt
  have hsingle := xorAll_map_eq_single hnodup (mem_coveredIndices.mpr hi)
    (h := fun i => rotateBy (wordAt a i ^^^ wordAt b i)
      ((coveredIndices hasUserArea a.length size).countP (i ≤ ·))) fun j hj hji => by
        rw [h j (mem_coveredIndices.mp hj) hji, UInt16.xor_self, zero_rotateBy]
  have hrotated := hsingle.symm.trans hzero
  exact hne (UInt16.xor_eq_zero_iff.mp (rotateBy_eq_zero hrotated))

/-- **Two checksums differ by the words that count.** Of two runs of one length, whatever it and the
size are, the exclusive or of the checksums is that of the differences of the words that count, each
rotated to the left by the number of such words from it on. So runs in which the words that count
are the same have one checksum; runs in which just one of them differs have two; and no byte outside
of them makes a difference. -/
theorem checksum_xor (hlength : a.length = b.length) (size : Nat) (hasUserArea : Bool) :
    checksum a size hasUserArea ^^^ checksum b size hasUserArea =
      xorAll ((coveredIndices hasUserArea a.length size).map fun i =>
        rotateBy (wordAt a i ^^^ wordAt b i)
          ((coveredIndices hasUserArea a.length size).countP (i ≤ ·))) ∧
    (∀ i, i ∈ coveredIndices hasUserArea a.length size ↔ Covered hasUserArea a.length size i) ∧
    ((∀ i, Covered hasUserArea a.length size i → wordAt a i = wordAt b i) →
      checksum a size hasUserArea = checksum b size hasUserArea) ∧
    (∀ i, Covered hasUserArea a.length size i → wordAt a i ≠ wordAt b i →
      (∀ j, Covered hasUserArea a.length size j → j ≠ i → wordAt a j = wordAt b j) →
      checksum a size hasUserArea ≠ checksum b size hasUserArea) ∧
    ∀ j byte, ¬ Covered hasUserArea a.length size (j / 2) →
      checksum (a.set j byte) size hasUserArea = checksum a size hasUserArea := by
  refine ⟨checksum_xor_eq hlength, fun i => mem_coveredIndices, checksum_eq_of_words hlength,
    fun i => checksum_ne_of_word hlength, fun j byte hj => ?_⟩
  have hset : (a.set j byte).length = a.length := List.length_set
  refine checksum_eq_of_words hset fun i hi => wordAt_set ?_ byte
  rintro rfl
  rw [hset] at hi
  exact hj hi

/-- Seven bytes: three words, of which the last one does not count, and an odd byte. -/
def oddRun : List UInt8 := [0x12, 0x34, 5, 6, 7, 8, 9]

/-- Seven bytes that differ from these in one bit of the first word, and where nothing counts. -/
def oddRunChanged : List UInt8 := [0x13, 0x34, 5, 6, 0, 0, 1]

/-- The bit is rotated twice, with the first word and with the second. -/
theorem checksum_xor_oddRun : oddRun.length = oddRunChanged.length ∧
    checksum oddRun 256 true ^^^ checksum oddRunChanged 256 true = 4 ∧
    checksum oddRun 256 true ≠ checksum oddRunChanged 256 true ∧
    checksum (oddRun.set 6 0xFF) 256 true = checksum oddRun 256 true := by
  have hlength : oddRun.length = oddRunChanged.length := rfl
  obtain ⟨hxor, -, -, hne, hset⟩ := checksum_xor hlength 256 true
  refine ⟨hlength, hxor.trans (by decide), hne 0 ?_ (by decide) ?_, hset 6 0xFF ?_⟩
  · exact ⟨by decide, fun _ => .inl (by decide)⟩
  · rintro j ⟨hj, -⟩ hne
    have hlast : j < 2 := hj
    have hsecond : j = 1 := by omega
    rw [hsecond]
    decide
  · rintro ⟨hthird, -⟩
    exact absurd hthird (by decide)

end PinBridge.Eeprom
