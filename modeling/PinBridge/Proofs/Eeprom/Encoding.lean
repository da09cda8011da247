import Mathlib.Data.List.Nodup
import PinBridge.Proofs.Checked.Eeprom

/-!
# The header written out

What a tool that programs a part does with a header: the words, the flags and the power go to fixed
places, and each string to a place of its own, as a descriptor that runs around the end of the part
(`Slot`). The bytes of a header are listed with their addresses (`encodedEntries`) and put over
a filling one after the other (`encode`).

* `place_getElem?`: bytes at addresses that are all different are there when all have been put.
* `encodedEntries_nodup`: the addresses of a header are all different if its strings lie apart from
  each other and from the head (`Layout.Fits`). A string does not run into itself, since on its way
  around the part it would have come through the head.
* `read?_of_encoded`: a part with these bytes in it has that header.
* `header_encode`: so the header comes back from the image that is staged; and from no image is a
  byte read behind the part.
-/

namespace PinBridge.Eeprom

/-! ### Bytes at addresses -/

/-- Puts bytes at addresses, one after the other. -/
def place (raw : List UInt8) (entries : List (Nat × UInt8)) : List UInt8 :=
  entries.foldl (fun raw entry => raw.set entry.1 entry.2) raw

variable {raw : List UInt8} {placed : List (Nat × UInt8)}

theorem length_place : (place raw placed).length = raw.length := by
  unfold place
  induction placed generalizing raw with
  | nil => rfl
  | cons entry rest ih => rw [List.foldl_cons, ih, List.length_set]

/-- Where nothing is put, the byte stays. -/
theorem place_getElem?_of_not_mem {address : Nat} (h : address ∉ placed.map Prod.fst) :
    (place raw placed)[address]? = raw[address]? := by
  unfold place
  induction placed generalizing raw with
  | nil => rfl
  | cons entry rest ih =>
    rw [List.map_cons, List.mem_cons, not_or] at h
    obtain ⟨hne, hrest⟩ := h
    rw [List.foldl_cons, ih hrest, List.getElem?_set_ne (Ne.symm hne)]

/-- **Bytes at different addresses are all there in the end.** -/
theorem place_getElem? (nodup : (placed.map Prod.fst).Nodup)
    (within : ∀ entry ∈ placed, entry.1 < raw.length) :
    ∀ entry ∈ placed, (place raw placed)[entry.1]? = some entry.2 := by
  induction placed generalizing raw with
  | nil => simp
  | cons first rest ih =>
    obtain ⟨hfirst, hrest⟩ := List.nodup_cons.mp nodup
    intro entry hentry
    change (place (raw.set first.1 first.2) rest)[entry.1]? = some entry.2
    rcases List.mem_cons.mp hentry with rfl | hentry
    · rw [place_getElem?_of_not_mem hfirst, List.getElem?_set_self (within entry hentry)]
    · refine ih hrest (fun e he => ?_) entry hentry
      rw [List.length_set]
      exact within e (List.mem_cons_of_mem first he)

/-! ### The strings -/

/-- A string of a header, and the byte that points to it. -/
structure Slot where
  pointer : UInt8
  text : Option String

namespace Slot

/-- The descriptor: its length, its type, and then two bytes for each character. -/
def descriptor (slot : Slot) : List UInt8 :=
  match slot.text with
  | none => []
  | some text =>
    UInt8.ofNat (2 * text.length + 2) :: 3 ::
      text.toList.flatMap fun c => [UInt8.ofNat c.toNat, 0]

/-- The byte beside the pointer. -/
def lengthByte (slot : Slot) : UInt8 := UInt8.ofNat slot.descriptor.length

/-- The addresses of the descriptor in a part of `n` bytes. What the pointer has above the last
address is no part of the offset. -/
def span (n : Nat) (slot : Slot) : List Nat :=
  (List.range slot.descriptor.length).map fun k => (slot.pointer.toNat % n + k) % n

/-- The bytes of the descriptor at their addresses. -/
def entries (n : Nat) (slot : Slot) : List (Nat × UInt8) := (slot.span n).zip slot.descriptor

end Slot

/-- The bytes that point to the strings. -/
structure Layout where
  manufacturer : UInt8
  description : UInt8
  serial : UInt8

/-- The strings of a header at their places. -/
def Layout.slots (layout : Layout) (h : Header) : List Slot :=
  [⟨layout.manufacturer, h.manufacturer⟩, ⟨layout.description, h.description⟩,
    ⟨layout.serial, h.serial⟩]

/-! ### The head -/

/-- A byte with a flag set or cleared. -/
def setFlag (b flag : UInt8) (on : Bool) : UInt8 := if on then b ||| flag else b &&& ~~~flag

/-- The bytes of a header at fixed addresses. A flag leaves the other bits of its byte. -/
def headEntries (layout : Layout) (h : Header) (filling : List UInt8) : List (Nat × UInt8) :=
  [(0x02, h.vendor.toUInt8), (0x03, (h.vendor >>> 8).toUInt8),
    (0x04, h.product.toUInt8), (0x05, (h.product >>> 8).toUInt8),
    (0x06, h.release.toUInt8), (0x07, (h.release >>> 8).toUInt8),
    (0x08, setFlag (setFlag (filling.getD 0x08 0) 0x40 h.selfPowered) 0x20 h.remoteWakeup),
    (0x09, UInt8.ofNat (h.maxPower / 2)),
    (0x0A, setFlag (filling.getD 0x0A 0) 0x08 h.useSerial),
    (0x0E, layout.manufacturer), (0x0F, Slot.lengthByte ⟨layout.manufacturer, h.manufacturer⟩),
    (0x10, layout.description), (0x11, Slot.lengthByte ⟨layout.description, h.description⟩),
    (0x12, layout.serial), (0x13, Slot.lengthByte ⟨layout.serial, h.serial⟩)]

/-- **The bytes of a header** in a part of `n` bytes. -/
def encodedEntries (n : Nat) (layout : Layout) (h : Header) (filling : List UInt8) :
    List (Nat × UInt8) :=
  headEntries layout h filling ++ (layout.slots h).flatMap (Slot.entries n)

/-- A full read with a header in it, and a filling elsewhere. -/
def encode (n : Nat) (layout : Layout) (h : Header) (filling : List UInt8) : List UInt8 :=
  place filling (encodedEntries n layout h filling)

/-- **A header that can be written out**: half the power is a byte, and a string has characters,
all of one byte, and a length that is a byte. -/
structure Header.Encodable (h : Header) : Prop where
  powerEven : h.maxPower % 2 = 0
  powerLe : h.maxPower ≤ 510
  texts : ∀ text, some text ∈ [h.manufacturer, h.description, h.serial] →
    1 ≤ text.length ∧ text.length ≤ 126 ∧ ∀ c ∈ text.toList, c.toNat ≤ 0xFF

/-- **A layout that fits**: the strings lie apart from the head, and from each other. The first two
bytes are no part of the head, so that a string may run around the end of the part into them. -/
structure Layout.Fits (layout : Layout) (n : Nat) (h : Header) : Prop where
  outside : ∀ slot ∈ layout.slots h, ∀ address ∈ slot.span n, address < 0x02 ∨ 0x14 ≤ address
  apart : (layout.slots h).Pairwise fun slot slot' => (slot.span n).Disjoint (slot'.span n)

/-! ### All addresses are different -/

variable {n : Nat} {slot : Slot} {layout : Layout} {h : Header} {filling : List UInt8}

theorem Slot.map_fst_entries : (slot.entries n).map Prod.fst = slot.span n := by
  unfold Slot.entries Slot.span
  rw [List.map_fst_zip (by simp)]

/-- **A string does not run into itself**: one that does comes through the head. -/
theorem Slot.span_nodup (hn : n ∈ [64, 128, 256])
    (outside : ∀ address ∈ slot.span n, address < 0x02 ∨ 0x14 ≤ address) :
    (slot.span n).Nodup := by
  have hshort : slot.descriptor.length < n := by
    by_contra hlong
    have hpos : 0 < n := by
      simp only [List.mem_cons, List.not_mem_nil, or_false] at hn
      omega
    have hstart : slot.pointer.toNat % n < n := Nat.mod_lt _ hpos
    -- the index that is at address 2, somewhere on the first way around
    have hindex : (2 + n - slot.pointer.toNat % n) % n < slot.descriptor.length :=
      Nat.lt_of_lt_of_le (Nat.mod_lt _ hpos) (Nat.le_of_not_lt hlong)
    have hmem : (slot.pointer.toNat % n + (2 + n - slot.pointer.toNat % n) % n) % n ∈
        slot.span n := List.mem_map_of_mem (List.mem_range.mpr hindex)
    have haddress : (slot.pointer.toNat % n + (2 + n - slot.pointer.toNat % n) % n) % n = 2 := by
      simp only [List.mem_cons, List.not_mem_nil, or_false] at hn
      rcases hn with rfl | rfl | rfl <;> omega
    have := outside _ hmem
    omega
  refine (List.nodup_map_iff_inj_on List.nodup_range).mpr fun j hj k hk heq => ?_
  have hj := List.mem_range.mp hj
  have hk := List.mem_range.mp hk
  simp only [List.mem_cons, List.not_mem_nil, or_false] at hn
  rcases hn with rfl | rfl | rfl <;> omega

theorem headEntries_addresses : (headEntries layout h filling).map Prod.fst =
    [0x02, 0x03, 0x04, 0x05, 0x06, 0x07, 0x08, 0x09, 0x0A, 0x0E, 0x0F, 0x10, 0x11, 0x12, 0x13] :=
  rfl

theorem encodedEntries_addresses : (encodedEntries n layout h filling).map Prod.fst =
    (headEntries layout h filling).map Prod.fst ++ (layout.slots h).flatMap (Slot.span n) := by
  have hslots : (Slot.span n) = fun slot => (slot.entries n).map Prod.fst :=
    funext fun _ => Slot.map_fst_entries.symm
  unfold encodedEntries
  rw [List.map_append, List.map_flatMap, hslots]

/-- **The addresses of a header are all different.** -/
theorem encodedEntries_nodup (hn : n ∈ [64, 128, 256]) (fits : layout.Fits n h) :
    ((encodedEntries n layout h filling).map Prod.fst).Nodup := by
  rw [encodedEntries_addresses, List.nodup_append']
  refine ⟨?_, List.nodup_flatMap.mpr ⟨fun slot hslot => ?_, fits.apart⟩, ?_⟩
  · rw [headEntries_addresses]
    decide
  · exact Slot.span_nodup hn (fits.outside slot hslot)
  · intro address hhead hspan
    obtain ⟨slot, hslot, haddress⟩ := List.mem_flatMap.mp hspan
    have hout := fits.outside slot hslot address haddress
    have hin : 2 ≤ address ∧ address < 0x14 := by
      rw [headEntries_addresses] at hhead
      simp only [List.mem_cons, List.not_mem_nil, or_false] at hhead
      omega
    omega

/-- They lie within the part. -/
theorem encodedEntries_lt (hn : n ∈ [64, 128, 256]) :
    ∀ entry ∈ encodedEntries n layout h filling, entry.1 < n := by
  simp only [List.mem_cons, List.not_mem_nil, or_false] at hn
  intro entry hentry
  have haddress := List.mem_map_of_mem (f := Prod.fst) hentry
  rw [encodedEntries_addresses, List.mem_append] at haddress
  rcases haddress with hhead | hspan
  · rw [headEntries_addresses] at hhead
    simp only [List.mem_cons, List.not_mem_nil, or_false] at hhead
    omega
  · obtain ⟨slot, -, hspan⟩ := List.mem_flatMap.mp hspan
    obtain ⟨k, -, hk⟩ := List.mem_map.mp hspan
    rw [← hk]
    exact Nat.mod_lt _ (by omega)

/-- A run of bytes that has the bytes of a header, all at their addresses. -/
def HasEncoded (bytes : List UInt8) (n : Nat) (layout : Layout) (h : Header)
    (filling : List UInt8) : Prop :=
  ∀ entry ∈ encodedEntries n layout h filling, bytes[entry.1]? = some entry.2

/-- **Written out, a header is all there.** -/
theorem hasEncoded_encode (hn : n ∈ [64, 128, 256]) (fits : layout.Fits n h)
    (hfilling : filling.length = fullSize) :
    HasEncoded ((encode n layout h filling).take n) n layout h filling := by
  have hle : n ≤ filling.length := by
    rw [hfilling]
    simp only [List.mem_cons, List.not_mem_nil, or_false] at hn
    rcases hn with rfl | rfl | rfl <;> decide
  intro entry hentry
  have hlt : entry.1 < n := encodedEntries_lt hn entry hentry
  rw [List.getElem?_take_of_lt hlt]
  refine place_getElem? (encodedEntries_nodup hn fits) (fun e he => ?_) entry hentry
  exact Nat.lt_of_lt_of_le (encodedEntries_lt hn e he) hle

/-! ### Reading the header back -/

/-- The bits of a flag are as it has been set, and the others as they have been. -/
theorem getLsbD_setFlag (b flag : UInt8) (on : Bool) {i : Nat} (hi : i < 8) :
    (setFlag b flag on).toBitVec.getLsbD i =
      bif flag.toBitVec.getLsbD i then on else b.toBitVec.getLsbD i := by
  unfold setFlag
  cases on with
  | true =>
    rw [if_pos rfl, UInt8.toBitVec_or, BitVec.getLsbD_or]
    cases flag.toBitVec.getLsbD i <;> simp
  | false =>
    rw [if_neg (by decide), UInt8.toBitVec_and, UInt8.toBitVec_not, BitVec.getLsbD_and,
      BitVec.getLsbD_not, decide_eq_true hi]
    cases flag.toBitVec.getLsbD i <;> simp

/-- A flag is found as it has been set. -/
theorem hasFlag_setFlag {flag : UInt8} (hflag : flag ≠ 0) (b : UInt8) (on : Bool) :
    Header.hasFlag (setFlag b flag on) flag = on := by
  have hmasked : setFlag b flag on &&& flag = if on then flag else 0 := by
    refine UInt8.toBitVec_inj.mp (BitVec.eq_of_getLsbD_eq fun i hi => ?_)
    rw [UInt8.toBitVec_and, BitVec.getLsbD_and, getLsbD_setFlag b flag on hi]
    cases on <;> cases hbit : flag.toBitVec.getLsbD i <;> simp [hbit]
  unfold Header.hasFlag
  rw [hmasked]
  cases on with
  | true => exact bne_iff_ne.mpr hflag
  | false => rfl

/-- A flag of other bits is left as it has been. -/
theorem hasFlag_setFlag_of_disjoint {flag other : UInt8} (hflags : flag &&& other = 0)
    (b : UInt8) (on : Bool) :
    Header.hasFlag (setFlag b flag on) other = Header.hasFlag b other := by
  have hmasked : setFlag b flag on &&& other = b &&& other := by
    refine UInt8.toBitVec_inj.mp (BitVec.eq_of_getLsbD_eq fun i hi => ?_)
    have hbit : (flag.toBitVec.getLsbD i && other.toBitVec.getLsbD i) = false := by
      rw [← BitVec.getLsbD_and, ← UInt8.toBitVec_and, hflags]
      exact BitVec.getLsbD_zero
    rw [UInt8.toBitVec_and, BitVec.getLsbD_and, getLsbD_setFlag b flag on hi,
      UInt8.toBitVec_and, BitVec.getLsbD_and]
    cases hflag : flag.toBitVec.getLsbD i with
    | false => rfl
    | true =>
      rw [hflag, Bool.true_and] at hbit
      rw [hbit, Bool.and_false, Bool.and_false]
  unfold Header.hasFlag
  rw [hmasked]

theorem word?_of_bytes {bytes : List UInt8} {address : Nat} {w : UInt16}
    (hlow : bytes[address]? = some w.toUInt8)
    (hhigh : bytes[address + 1]? = some (w >>> 8).toUInt8) :
    Header.word? bytes address = some w := by
  unfold Header.word?
  rw [hlow, hhigh]
  exact congrArg some (wordOf_bytesOf w)

namespace Slot

variable {text : String}

theorem length_descriptor (htext : slot.text = some text) :
    slot.descriptor.length = 2 * text.length + 2 := by
  have hpairs := length_flatMap_pairs (l := text.toList)
    (f := fun c => [UInt8.ofNat c.toNat, 0]) fun c _ => rfl
  unfold descriptor
  rw [htext]
  simp only [List.length_cons, hpairs, String.length_toList]

/-- A character has two bytes, behind the two of length and type. -/
theorem descriptor_getElem? (htext : slot.text = some text) {j : Nat} {c : Char}
    (hc : text.toList[j]? = some c) :
    slot.descriptor[2 + j * 2]? = some (UInt8.ofNat c.toNat) := by
  have hpair := getElem?_flatMap_pairs (f := fun c => [UInt8.ofNat c.toNat, 0])
    (fun c _ => rfl) hc Nat.zero_lt_two
  unfold descriptor
  rw [htext, Nat.add_comm 2, Nat.mul_comm]
  exact hpair

theorem mem_entries {k : Nat} {b : UInt8} (hb : slot.descriptor[k]? = some b) :
    ((slot.pointer.toNat % n + k) % n, b) ∈ slot.entries n := by
  obtain ⟨hk, -⟩ := List.getElem?_eq_some_iff.mp hb
  have hspan : (slot.span n)[k]? = some ((slot.pointer.toNat % n + k) % n) := by
    unfold span
    rw [List.getElem?_map, List.getElem?_range hk]
    rfl
  exact List.mem_of_getElem? (List.getElem?_zip_eq_some.mpr ⟨hspan, hb⟩)

end Slot

/-- A list is collected from its indices where each of them yields its element. -/
theorem mapM_range' {α : Type} {f : Nat → Option α} (l : List α) (start : Nat)
    (hf : ∀ j a, l[j]? = some a → f (start + j) = some a) :
    (List.range' start l.length).mapM f = some l := by
  induction l generalizing start with
  | nil => rfl
  | cons a rest ih =>
    have hfirst : f start = some a := hf 0 a rfl
    have hrest := ih (start + 1) fun j b hb => by
      rw [Nat.add_right_comm, Nat.add_assoc]
      exact hf (j + 1) b hb
    rw [List.length_cons, List.range'_succ, List.mapM_cons, hfirst, hrest]
    rfl

/-- **A string is read back.** -/
theorem string?_of_slot {bytes : List UInt8} {address : Nat} (hlength : bytes.length = n)
    (htext : ∀ text, slot.text = some text →
      1 ≤ text.length ∧ text.length ≤ 126 ∧ ∀ c ∈ text.toList, c.toNat ≤ 0xFF)
    (hpointer : bytes[address]? = some slot.pointer)
    (hlengthByte : bytes[address + 1]? = some slot.lengthByte)
    (hentries : ∀ entry ∈ slot.entries n, bytes[entry.1]? = some entry.2) :
    Header.string? bytes address = some slot.text := by
  unfold Header.string?
  rw [hpointer, hlengthByte]
  simp only [Option.bind_eq_bind, Option.bind_some]
  cases hslot : slot.text with
  | none =>
    have hzero : slot.lengthByte = 0 := by
      unfold Slot.lengthByte Slot.descriptor
      rw [hslot]
      rfl
    rw [hzero]
    rfl
  | some text =>
    obtain ⟨hpos, hle, hlatin⟩ := htext text hslot
    have hchars : slot.lengthByte.toNat / 2 - 1 = text.toList.length := by
      unfold Slot.lengthByte
      rw [Slot.length_descriptor hslot, UInt8.toNat_ofNat', String.length_toList]
      omega
    have hchar : ∀ j c, text.toList[j]? = some c →
        Header.char? bytes (slot.pointer.toNat % n) (0 + j) = some c := by
      intro j c hc
      have hbyte := hentries _ (Slot.mem_entries (Slot.descriptor_getElem? hslot hc))
      have hroundTrip : Char.ofNat (UInt8.ofNat c.toNat).toNat = c := by
        have := hlatin c (List.mem_of_getElem? hc)
        rw [UInt8.toNat_ofNat', Nat.mod_eq_of_lt (by omega), Char.ofNat_toNat]
      unfold Header.char?
      rw [hlength, Nat.zero_add, Nat.add_assoc, hbyte]
      exact congrArg some hroundTrip
    rw [hchars, hlength, if_neg (by rw [String.length_toList]; omega), List.range_eq_range',
      mapM_range' text.toList 0 hchar]
    exact congrArg (some ∘ some) String.ofList_toList

/-- **A part with the bytes of a header has that header.** -/
theorem read?_of_encoded {bytes : List UInt8} (hlength : bytes.length = n)
    (encodable : h.Encodable) (encoded : HasEncoded bytes n layout h filling) :
    Header.read? bytes = some h := by
  have hslots : ∀ slot ∈ layout.slots h, ∀ entry ∈ slot.entries n,
      bytes[entry.1]? = some entry.2 := fun slot hslot entry hentry =>
    encoded entry (List.mem_append_right _ (List.mem_flatMap.mpr ⟨slot, hslot, hentry⟩))
  have hhead : ∀ entry ∈ headEntries layout h filling, bytes[entry.1]? = some entry.2 :=
    fun entry hentry => encoded entry (List.mem_append_left _ hentry)
  unfold Layout.slots at hslots
  unfold headEntries at hhead
  simp only [List.forall_mem_cons] at hslots hhead
  obtain ⟨hmanufacturer, hdescription, hserial, -⟩ := hslots
  obtain ⟨h02, h03, h04, h05, h06, h07, h08, h09, h0A, h0E, h0F, h10, h11, h12, h13, -⟩ := hhead
  have hpower : (UInt8.ofNat (h.maxPower / 2)).toNat * 2 = h.maxPower := by
    have heven := encodable.powerEven
    have hle := encodable.powerLe
    rw [UInt8.toNat_ofNat']
    omega
  have hself : Header.hasFlag (setFlag (setFlag (filling.getD 0x08 0) 0x40 h.selfPowered) 0x20
      h.remoteWakeup) 0x40 = h.selfPowered := by
    rw [hasFlag_setFlag_of_disjoint (by decide), hasFlag_setFlag (by decide)]
  have hwakeup : Header.hasFlag (setFlag (setFlag (filling.getD 0x08 0) 0x40 h.selfPowered) 0x20
      h.remoteWakeup) 0x20 = h.remoteWakeup := hasFlag_setFlag (by decide) _ _
  have huse : Header.hasFlag (setFlag (filling.getD 0x0A 0) 0x08 h.useSerial) 0x08 =
      h.useSerial := hasFlag_setFlag (by decide) _ _
  have htexts : ∀ text? ∈ [h.manufacturer, h.description, h.serial], ∀ text, text? = some text →
      1 ≤ text.length ∧ text.length ≤ 126 ∧ ∀ c ∈ text.toList, c.toNat ≤ 0xFF := by
    rintro _ hmem text rfl
    exact encodable.texts text hmem
  simp only [List.forall_mem_cons] at htexts
  obtain ⟨hmanufacturer', hdescription', hserial', -⟩ := htexts
  unfold Header.read?
  rw [word?_of_bytes h02 h03, word?_of_bytes h04 h05, word?_of_bytes h06 h07, h08, h09, h0A,
    string?_of_slot hlength hmanufacturer' h0E h0F hmanufacturer,
    string?_of_slot hlength hdescription' h10 h11 hdescription,
    string?_of_slot hlength hserial' h12 h13 hserial]
  simp only [Option.bind_eq_bind, Option.bind_some, hpower, hself, hwakeup, huse]
  rfl

theorem bytes_stage (raw : List UInt8) (chip : Chip) :
    (Image.stage raw chip).bytes = raw.take (Image.stage raw chip).size := rfl

/-- **A header that is staged comes back.** -/
theorem header?_encode {chip : Chip} (encodable : h.Encodable) (fits : layout.Fits n h)
    (hfilling : filling.length = fullSize)
    (hsize : (Image.stage (encode n layout h filling) chip).size = n)
    (hblank : (Image.stage (encode n layout h filling) chip).blank = false) :
    (Image.stage (encode n layout h filling) chip).header? = some h := by
  have hn : n ∈ [64, 128, 256] := hsize ▸ detect_size _ chip
  have hencoded := hasEncoded_encode hn fits hfilling
  have hlength : ((encode n layout h filling).take n).length = n := by
    have hle : n ≤ fullSize := by
      simp only [List.mem_cons, List.not_mem_nil, or_false] at hn
      rcases hn with rfl | rfl | rfl <;> decide
    unfold encode
    rw [List.length_take, length_place, hfilling, Nat.min_eq_left hle]
  unfold Image.header?
  rw [hblank, if_neg (by decide), bytes_stage, hsize]
  exact read?_of_encoded hlength encodable hencoded

/-- **The decoder does not look behind the part**: what it reads by index is there whatever follows
the part, even if nothing does, and it makes one header of it. -/
theorem checked_header_of_part {image : Image} (staged : Checked.Staged image)
    (rest : List UInt8) :
    Checked.header { image with raw := image.bytes ++ rest } = some image.header? := by
  have hlength : image.bytes.length = image.size := by
    unfold Image.bytes
    rw [List.length_take, Nat.min_eq_left staged.holdsPart.within]
  have hbytes : ({ image with raw := image.bytes ++ rest } : Image).bytes = image.bytes :=
    List.take_left' hlength
  have hholds : Checked.HoldsPart { image with raw := image.bytes ++ rest } := by
    refine ⟨staged.size, ?_⟩
    change image.size ≤ (image.bytes ++ rest).length
    rw [List.length_append, hlength]
    exact Nat.le_add_right _ _
  obtain ⟨hheader, -⟩ := hholds.header_eq
  rw [hheader]
  unfold Image.header?
  rw [hbytes]

/-- **Decoding inverts encoding.** Whatever stands in the rest of a full read, and wherever its
strings lie, around the end of the part too, a header comes back as it has been written, if staging
finds a part of that size in the read. And no image makes the decoder look behind the part. -/
theorem header_encode :
    (∀ n layout h filling chip, h.Encodable → layout.Fits n h → filling.length = fullSize →
      (Image.stage (encode n layout h filling) chip).size = n →
      (Image.stage (encode n layout h filling) chip).blank = false →
      (Image.stage (encode n layout h filling) chip).header? = some h) ∧
    ∀ raw chip, raw.length = fullSize → ∀ rest,
      Checked.header { Image.stage raw chip with raw := (Image.stage raw chip).bytes ++ rest } =
        some (Image.stage raw chip).header? :=
  ⟨fun _ _ _ _ _ encodable fits hfilling hsize hblank =>
      header?_encode encodable fits hfilling hsize hblank,
    fun _ chip hraw rest => checked_header_of_part (.of_stage hraw chip) rest⟩

/-- A header with two strings. -/
def sampleHeader : Header where
  vendor := 0x0403
  product := 0x6001
  release := 0x0600
  selfPowered := false
  remoteWakeup := true
  maxPower := 90
  useSerial := true
  manufacturer := none
  description := some "é"
  serial := some "AB"

/-- The serial number runs around the end of a part of 128 bytes, and the pointers are larger. -/
def sampleLayout : Layout := ⟨0, 0x9A, 0xFC⟩

/-- A full read of that part, which one family takes to be of this size whatever is in it. -/
def sampleRead : List UInt8 := encode 128 sampleLayout sampleHeader (List.replicate 256 0x5A)

/-- Both strings come back, and so they do from the part alone. -/
theorem header_encode_sample :
    sampleHeader.Encodable ∧ sampleLayout.Fits 128 sampleHeader ∧
    (Image.stage sampleRead .ft232r).header? = some sampleHeader ∧
    Checked.header { Image.stage sampleRead .ft232r with raw := sampleRead.take 128 } =
      some (some sampleHeader) := by
  have encodable : sampleHeader.Encodable := by
    refine ⟨by decide, by decide, fun text htext => ?_⟩
    have htexts : text = "é" ∨ text = "AB" := by
      simpa [sampleHeader] using htext
    rcases htexts with rfl | rfl <;> simp [← String.length_toList]
  have fits : sampleLayout.Fits 128 sampleHeader := by
    refine ⟨by decide, ?_⟩
    simp only [List.disjoint_left]
    decide
  have hfilling : (List.replicate 256 (0x5A : UInt8)).length = fullSize := List.length_replicate
  have hread : sampleRead.length = fullSize := by
    unfold sampleRead encode
    rw [length_place, hfilling]
  have hheader := header_encode.1 128 sampleLayout sampleHeader _ .ft232r encodable fits hfilling
    rfl rfl
  have hpart := header_encode.2 sampleRead .ft232r hread []
  rw [List.append_nil, bytes_stage] at hpart
  exact ⟨encodable, fits, hheader, hpart.trans (congrArg some hheader)⟩

end PinBridge.Eeprom
