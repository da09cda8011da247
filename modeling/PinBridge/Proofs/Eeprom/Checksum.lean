import Mathlib.Logic.Function.Basic
import PinBridge.Eeprom.Header

/-!
# What the checksum tells apart

A run of bytes is read as words (`words_getElem?`, `words_inj`), and `absorb` loses nothing of the
running value nor of the word (`absorb_left_injective`, `absorb_right_injective`). So the checksum
depends on the covered words and on nothing else (`checksum_congr`), and a change of just one of them
changes it (`checksum_ne`). Words of nothing but ones leave the running value as it is
(`checksum_of_ones`).
-/

namespace PinBridge.Eeprom

/-- The two bytes of a word, the low one first. -/
def bytesOf (w : UInt16) : List UInt8 := [w.toUInt8, (w >>> 8).toUInt8]

/-! ### Words and bytes -/

theorem wordOf_toNat (low high : UInt8) :
    (wordOf low high).toNat = low.toNat + 256 * high.toNat := by
  have hlow : low.toNat < 256 := low.toNat_lt
  have hhigh : high.toNat < 256 := high.toNat_lt
  exact Nat.mod_eq_of_lt (by omega)

theorem wordOf_inj {low high low' high' : UInt8} (h : wordOf low high = wordOf low' high') :
    low = low' ∧ high = high' := by
  have htoNat := congrArg UInt16.toNat h
  rw [wordOf_toNat, wordOf_toNat] at htoNat
  have hlow : low.toNat < 256 := low.toNat_lt
  have hlow' : low'.toNat < 256 := low'.toNat_lt
  constructor <;> apply UInt8.toNat_inj.mp <;> omega

theorem wordOf_bytesOf (w : UInt16) : wordOf w.toUInt8 (w >>> 8).toUInt8 = w := by
  have hlt : w.toNat < 65536 := w.toNat_lt
  apply UInt16.toNat_inj.mp
  rw [wordOf_toNat, UInt16.toNat_toUInt8, UInt16.toNat_toUInt8, UInt16.toNat_shiftRight,
    Nat.shiftRight_eq_div_pow]
  show w.toNat % 256 + 256 * (w.toNat / 256 % 256) = w.toNat
  omega

/-- The word in the two bytes that end a run. -/
theorem word?_append_bytesOf (bytes : List UInt8) (w : UInt16) :
    Header.word? (bytes ++ bytesOf w) bytes.length = some w := by
  unfold Header.word?
  rw [List.getElem?_append_right (Nat.le_refl _), List.getElem?_append_right (Nat.le_add_right _ 1),
    Nat.sub_self, Nat.add_sub_cancel_left]
  exact congrArg some (wordOf_bytesOf w)

/-- Words lie at the even addresses. -/
theorem words_getElem? (bytes : List UInt8) (i : Nat) :
    (words bytes)[i]? = Header.word? bytes (2 * i) := by
  induction i generalizing bytes with
  | zero =>
    match bytes with
    | [] | [_] | _ :: _ :: _ => rfl
  | succ i ih =>
    match bytes with
    | [] | [_] => rfl
    | low :: high :: rest =>
      rw [words, List.getElem?_cons_succ, ih]
      rfl

theorem words_take (bytes : List UInt8) (k : Nat) :
    words (bytes.take (2 * k)) = (words bytes).take k := by
  induction k generalizing bytes with
  | zero => rfl
  | succ k ih =>
    match bytes with
    | [] | [_] => rfl
    | low :: high :: rest =>
      rw [Nat.mul_succ]
      simp only [List.take_succ_cons, words, ih]

theorem length_words (bytes : List UInt8) : (words bytes).length = bytes.length / 2 := by
  induction bytes using words.induct with
  | case1 low high rest ih =>
    rw [words, List.length_cons, ih, List.length_cons, List.length_cons]
    omega
  | case2 bytes h =>
    match bytes with
    | [] => rfl
    | [_] => simp [words]
    | low :: high :: rest => exact absurd rfl (h low high rest)

/-- The words of a run of whole words determine it. -/
theorem words_inj {a b : List UInt8} {k : Nat} (ha : a.length = 2 * k) (hb : b.length = 2 * k)
    (h : words a = words b) : a = b := by
  induction k generalizing a b with
  | zero => rw [List.length_eq_zero_iff.mp ha, List.length_eq_zero_iff.mp hb]
  | succ k ih =>
    match a, b with
    | low :: high :: rest, low' :: high' :: rest' =>
      rw [words, words] at h
      obtain ⟨hword, hrest⟩ := List.cons.inj h
      obtain ⟨rfl, rfl⟩ := wordOf_inj hword
      rw [ih (Nat.succ.inj (Nat.succ.inj ha)) (Nat.succ.inj (Nat.succ.inj hb)) hrest]

/-- Equal bytes make equal words. -/
theorem words_getElem?_congr {a b : List UInt8} {i : Nat} (h : ∀ j, j / 2 = i → a[j]? = b[j]?) :
    (words a)[i]? = (words b)[i]? := by
  have hlow : a[2 * i]? = b[2 * i]? := h _ (by omega)
  have hhigh : a[2 * i + 1]? = b[2 * i + 1]? := h _ (by omega)
  rw [words_getElem?, words_getElem?, Header.word?, Header.word?, hlow, hhigh]

theorem eq_of_mem_words {bytes : List UInt8} (ones : ∀ b ∈ bytes, b = 0xFF) :
    ∀ w ∈ words bytes, w = 0xFFFF := by
  induction bytes using words.induct with
  | case1 low high rest ih =>
    intro w hw
    rcases List.mem_cons.mp hw with rfl | hw
    · rw [ones low (by simp), ones high (by simp)]
      rfl
    · exact ih (fun b hb => ones b (by simp [hb])) w hw
  | case2 bytes h =>
    intro w hw
    rw [words] at hw
    · cases hw
    · exact h

/-! ### The running value -/

theorem rotate_toNat (w : UInt16) :
    (rotate w).toNat = 2 * (w.toNat % 32768) + w.toNat / 32768 := by
  have hlt : w.toNat < 65536 := w.toNat_lt
  have hhigh : w.toNat / 32768 < 2 ^ 1 := by omega
  have hlow : w.toNat <<< 1 % 65536 = (w.toNat % 32768) <<< 1 := by
    rw [Nat.shiftLeft_eq, Nat.shiftLeft_eq]
    omega
  calc (rotate w).toNat = w.toNat <<< 1 % 65536 ||| w.toNat >>> 15 := by
        unfold rotate
        rw [UInt16.toNat_or, UInt16.toNat_shiftLeft, UInt16.toNat_shiftRight]
        rfl
    _ = (w.toNat % 32768) <<< 1 + w.toNat / 32768 := by
        rw [hlow, Nat.shiftRight_eq_div_pow, Nat.shiftLeft_add_eq_or_of_lt hhigh]
    _ = 2 * (w.toNat % 32768) + w.toNat / 32768 := by
        rw [Nat.shiftLeft_eq, Nat.mul_comm]

theorem rotate_injective : Function.Injective rotate := by
  intro v w h
  have hv : v.toNat / 32768 < 2 := Nat.div_lt_of_lt_mul v.toNat_lt
  have hw : w.toNat / 32768 < 2 := Nat.div_lt_of_lt_mul w.toNat_lt
  have hsum : 2 * (v.toNat % 32768) + v.toNat / 32768 =
      2 * (w.toNat % 32768) + w.toNat / 32768 := by
    rw [← rotate_toNat, ← rotate_toNat, h]
  have hlow : v.toNat % 32768 = w.toNat % 32768 := by
    generalize v.toNat % 32768 = a at hsum ⊢
    generalize w.toNat % 32768 = b at hsum ⊢
    omega
  have hhigh : v.toNat / 32768 = w.toNat / 32768 := by
    rw [hlow] at hsum
    exact Nat.add_left_cancel hsum
  apply UInt16.toNat_inj.mp
  rw [← Nat.mod_add_div v.toNat 32768, hlow, hhigh, Nat.mod_add_div]

theorem absorb_left_injective (word : UInt16) : Function.Injective fun sum => absorb sum word := by
  intro a b h
  have hxor : a ^^^ word = b ^^^ word := rotate_injective h
  simpa using hxor

theorem absorb_right_injective (sum : UInt16) : Function.Injective (absorb sum) := by
  intro v w h
  have hxor : sum ^^^ v = sum ^^^ w := rotate_injective h
  simpa using hxor

/-- Whatever follows, running values that differ go on to differ. -/
theorem foldl_absorb_injective (ws : List UInt16) :
    Function.Injective fun sum => ws.foldl absorb sum := by
  induction ws with
  | nil => exact fun a b h => h
  | cons w ws ih => exact ih.comp (absorb_left_injective w)

/-- The seed is its own complement shifted round, so words of nothing but ones leave it alone. -/
theorem foldl_absorb_ones {ws : List UInt16} (h : ∀ w ∈ ws, w = 0xFFFF) :
    ws.foldl absorb seed = seed := by
  induction ws with
  | nil => rfl
  | cons w ws ih =>
    have hstep : absorb seed w = seed := by
      rw [h w List.mem_cons_self]
      rfl
    rw [List.foldl_cons, hstep]
    exact ih fun v hv => h v (List.mem_cons_of_mem _ hv)

/-! ### Covered words -/

variable {hasUserArea : Bool}

theorem isCovered_iff {i : Nat} : isCovered true i ↔ i < 0x12 ∨ 0x40 ≤ i := by
  unfold isCovered
  rw [Bool.true_and, Bool.not_eq_true', Bool.and_eq_false_iff, decide_eq_false_iff_not,
    decide_eq_false_iff_not, Nat.not_le, Nat.not_lt]

/-- The covered words of a run that starts at an index. -/
def covered (hasUserArea : Bool) (start : Nat) (ws : List UInt16) : List UInt16 :=
  ((ws.zipIdx start).filter fun word => isCovered hasUserArea word.2).map (·.1)

theorem covered_cons (start : Nat) (w : UInt16) (ws : List UInt16) :
    covered hasUserArea start (w :: ws) =
      if isCovered hasUserArea start then w :: covered hasUserArea (start + 1) ws
      else covered hasUserArea (start + 1) ws := by
  unfold covered
  rw [List.zipIdx_cons, List.filter_cons]
  split <;> rfl

theorem mem_of_mem_covered {start : Nat} {w : UInt16} {ws : List UInt16}
    (h : w ∈ covered hasUserArea start ws) : w ∈ ws := by
  obtain ⟨word, hword, rfl⟩ := List.mem_map.mp h
  exact List.fst_mem_of_mem_zipIdx (List.mem_filter.mp hword).1

/-- Runs with the same words at the covered indices have the same covered words. -/
theorem covered_congr {xs ys : List UInt16} (hlen : xs.length = ys.length) (start : Nat)
    (h : ∀ i, isCovered hasUserArea (start + i) → xs[i]? = ys[i]?) :
    covered hasUserArea start xs = covered hasUserArea start ys := by
  induction xs generalizing ys start with
  | nil => rw [List.length_eq_zero_iff.mp hlen.symm]
  | cons x xs ih =>
    match ys with
    | y :: ys =>
      have hrest : covered hasUserArea (start + 1) xs = covered hasUserArea (start + 1) ys := by
        refine ih (Nat.succ.inj hlen) (start + 1) fun i hi => ?_
        rw [Nat.add_right_comm] at hi
        exact h (i + 1) hi
      rw [covered_cons, covered_cons, hrest]
      split
      · next hstart => rw [Option.some.inj (h 0 hstart)]
      · rfl

/-- **A covered word decides**: from one running value, runs that differ at one covered index only
end in different ones. -/
theorem foldl_covered_ne {xs ys : List UInt16} {i : Nat} (hlen : xs.length = ys.length)
    (start : Nat) (sum : UInt16) (hi : isCovered hasUserArea (start + i)) (hne : xs[i]? ≠ ys[i]?)
    (heq : ∀ j, j ≠ i → xs[j]? = ys[j]?) :
    (covered hasUserArea start xs).foldl absorb sum ≠
      (covered hasUserArea start ys).foldl absorb sum := by
  induction xs generalizing ys i start sum with
  | nil =>
    rw [List.length_eq_zero_iff.mp hlen.symm] at hne
    exact absurd rfl hne
  | cons x xs ih =>
    match ys, i with
    | y :: ys, 0 =>
      have hrest : xs = ys := List.ext_getElem? fun j => heq (j + 1) (Nat.succ_ne_zero j)
      have hstep : absorb sum x ≠ absorb sum y := by
        intro h
        exact hne (congrArg some (absorb_right_injective sum h))
      rw [Nat.add_zero] at hi
      rw [covered_cons, covered_cons, if_pos hi, if_pos hi, ← hrest]
      exact fun h => hstep (foldl_absorb_injective _ h)
    | y :: ys, i + 1 =>
      have hhead : x = y := Option.some.inj (heq 0 (Nat.succ_ne_zero i).symm)
      have hrest : ∀ sum', (covered hasUserArea (start + 1) xs).foldl absorb sum' ≠
          (covered hasUserArea (start + 1) ys).foldl absorb sum' := by
        intro sum'
        refine ih (Nat.succ.inj hlen) (start + 1) sum' ?_ hne fun j hj => ?_
        · rw [Nat.add_right_comm]
          exact hi
        · exact heq (j + 1) fun h => hj (Nat.succ.inj h)
      rw [covered_cons, covered_cons, ← hhead]
      split
      · exact hrest _
      · exact hrest _

/-! ### The checksum -/

variable {a b : List UInt8} {n : Nat}

theorem checksum_eq (h : n ≤ a.length) :
    checksum a n hasUserArea =
      (covered hasUserArea 0 ((words a).take (n / 2 - 1))).foldl absorb seed := by
  unfold checksum coveredWords
  rw [Nat.min_eq_left h]
  rfl

/-- The two runs that checksums of `n` bytes fold have one length. -/
theorem length_take_words (ha : n ≤ a.length) :
    ((words a).take (n / 2 - 1)).length = n / 2 - 1 := by
  rw [List.length_take, length_words]
  omega

/-- **The checksum depends on the covered words only**, the last word being none of them. -/
theorem checksum_congr (ha : n ≤ a.length) (hb : n ≤ b.length)
    (h : ∀ i, i < n / 2 - 1 → isCovered hasUserArea i → (words a)[i]? = (words b)[i]?) :
    checksum a n hasUserArea = checksum b n hasUserArea := by
  rw [checksum_eq ha, checksum_eq hb]
  congr 1
  refine covered_congr ((length_take_words ha).trans (length_take_words hb).symm) 0 fun i hi => ?_
  rw [Nat.zero_add] at hi
  rw [List.getElem?_take, List.getElem?_take]
  split
  · next hlt => exact h i hlt hi
  · rfl

/-- **A change of one covered word changes the checksum.** -/
theorem checksum_ne {i : Nat} (ha : n ≤ a.length) (hb : n ≤ b.length) (hlt : i < n / 2 - 1)
    (hi : isCovered hasUserArea i) (hne : (words a)[i]? ≠ (words b)[i]?)
    (heq : ∀ j, j < n / 2 - 1 → j ≠ i → (words a)[j]? = (words b)[j]?) :
    checksum a n hasUserArea ≠ checksum b n hasUserArea := by
  rw [checksum_eq ha, checksum_eq hb]
  refine foldl_covered_ne ((length_take_words ha).trans (length_take_words hb).symm) 0 seed
    (i := i) ((Nat.zero_add i).symm ▸ hi) ?_ fun j hj => ?_
  · rw [List.getElem?_take_of_lt hlt, List.getElem?_take_of_lt hlt]
    exact hne
  · rw [List.getElem?_take, List.getElem?_take]
    split
    · next hlt => exact heq j hlt hj
    · rfl

theorem checksum_of_ones (ones : ∀ byte ∈ a, byte = 0xFF) : checksum a n hasUserArea = seed := by
  refine foldl_absorb_ones fun w hw => ?_
  have hmem : w ∈ (words a).take _ := @mem_of_mem_covered _ 0 _ _ hw
  exact eq_of_mem_words ones w (List.mem_of_mem_take hmem)

end PinBridge.Eeprom
