import PinBridge.Proofs.Session.FullRead
import PinBridge.Proofs.Session.Staging

/-!
# Single words and the staged image

A device whose EEPROM has something fixed at every word address (`Bus.Memory`) is read in two ways:
128 words in a row, of which a part of them is staged, or one word at a time, within the range that
the chip has. `staged_of_memory` says what the first way stages, `word_of_memory` what the second
one yields, and `SingleWordsAgree.of_memory` that they agree wherever the image reaches; that it
never reaches beyond the range is `Eeprom.detect_size_le`.
-/

namespace PinBridge

open Eeprom (Image fullSize wordOf)

/-- **A bus with a memory of words**: wherever its world is as it should be, a request for a word
from the device is answered with what is at the address, two bytes or more, whatever the timeout. -/
structure Bus.Memory {σ : Type} (bus : Bus σ) (handle : Handle) (content : UInt16 → List UInt8)
    (I : σ → Prop) : Prop where
  long : ∀ address, 2 ≤ (content address).length
  answers : ∀ address timeout, bus.Gives I
    (.asked (.controlIn handle Request.readEeprom 0 address 2 timeout) (.ok (content address)))
  note : ∀ n world, I world → I (bus.note n world)

/-- What a full read of a memory is answered with. -/
def memoryReplies (content : UInt16 → List UInt8) : List (List UInt8) :=
  (List.range (fullSize / 2)).map fun address => content (UInt16.ofNat address)

/-- The bytes of a full read of a memory. -/
def memoryBytes (content : UInt16 → List UInt8) : List UInt8 :=
  (memoryReplies content).flatMap fun reply => reply.take 2

/-- **Single words agree with an image** in a session: the image can be copied in full; the word at
an address within it is read, wherever the bus is as it should be, and is that of the two bytes of
the copy; and from the end of the range of the chip on nothing is asked for. -/
structure SingleWordsAgree {σ : Type} (bus : Bus σ) (I : σ → Prop) (d : OpenDevice) (image : Image)
    (s : Session) : Prop where
  copy : (Action.stagedPart image.size).perform s = .done (.ok image.bytes, s)
  inside : ∀ (address : UInt16) (world : σ), I world → 2 * address.toNat + 2 ≤ image.size →
    ∃ low high reply after,
      image.bytes[2 * address.toNat]? = some low ∧
      image.bytes[2 * address.toNat + 1]? = some high ∧
      ((Action.readEepromWord address).perform s).play bus world =
        ([.asked (.controlIn d.handle Request.readEeprom 0 address 2 s.options.readTimeout)
          (.ok reply)], some (.ok (wordOf low high), s), after) ∧ I after
  beyond : ∀ address : UInt16, d.chip.eepromSize / 2 ≤ address.toNat →
    (Action.readEepromWord address).perform s =
      .done (.error (.outOfRange address d.chip.eepromWords), s)

variable {s t : Session} {d : OpenDevice} {content : UInt16 → List UInt8}

/-! ### What is read -/

theorem length_memoryReplies : (memoryReplies content).length = fullSize / 2 := by
  unfold memoryReplies
  rw [List.length_map, List.length_range]

theorem memoryReplies_long (long : ∀ address, 2 ≤ (content address).length) :
    ∀ reply ∈ memoryReplies content, 2 ≤ reply.length := by
  intro reply hmem
  obtain ⟨address, -, rfl⟩ := List.mem_map.mp hmem
  exact long _

theorem length_memoryBytes (long : ∀ address, 2 ≤ (content address).length) :
    (memoryBytes content).length = fullSize := by
  unfold memoryBytes
  rw [length_flatMap_take_two (memoryReplies_long long), length_memoryReplies]
  rfl

/-- The bytes of the word at an address. -/
theorem getElem?_memoryBytes (long : ∀ address, 2 ≤ (content address).length) {address : UInt16}
    (h : address.toNat < fullSize / 2) {k : Nat} (hk : k < 2) :
    (memoryBytes content)[2 * address.toNat + k]? = (content address)[k]? := by
  have hpairs : ∀ reply ∈ memoryReplies content, (reply.take 2).length = 2 :=
    fun reply hmem => List.length_take_of_le (memoryReplies_long long reply hmem)
  have hreply : (memoryReplies content)[address.toNat]? = some (content address) := by
    unfold memoryReplies
    rw [List.getElem?_map, List.getElem?_range h, Option.map_some, UInt16.ofNat_toNat]
  unfold memoryBytes
  rw [Eeprom.getElem?_flatMap_pairs hpairs hreply hk, List.getElem?_take_of_lt hk]

theorem Chip.eepromWords_toNat (chip : Chip) : chip.eepromWords.toNat = chip.eepromSize / 2 := by
  cases chip <;> rfl

namespace Command

/-- A word within the range of the chip is read from the device. -/
theorem readEepromWord_answered (hs : s.link = .opened d) {address : UInt16}
    (h : address.toNat < d.chip.eepromSize / 2) {reply more : List UInt8} {low high : UInt8}
    (hreply : reply = low :: high :: more) :
    (readEepromWord address).Course s
      [.asked (.controlIn d.handle Request.readEeprom 0 address 2 s.options.readTimeout)
        (.ok reply)] (.ok (wordOf low high)) s := by
  have hwithin : ¬ d.chip.eepromWords ≤ address := by
    rw [UInt16.le_iff_toNat_le, d.chip.eepromWords_toNat]
    exact Nat.not_le_of_lt h
  unfold readEepromWord
  rw [device_bind, hs, hreply]
  simp only [if_neg hwithin]
  refine course_bind.mpr (.inr ⟨(low, high), _, s, [], readWord_answered hs address more, ?_, rfl⟩)
  exact course_pure.mpr ⟨rfl, rfl, rfl⟩

/-- Beyond the range nothing is asked for. -/
theorem readEepromWord_beyond (hs : s.link = .opened d) {address : UInt16}
    (h : d.chip.eepromSize / 2 ≤ address.toNat) :
    readEepromWord address s = .done (.error (.outOfRange address d.chip.eepromWords), s) := by
  have hbeyond : d.chip.eepromWords ≤ address := by
    rw [UInt16.le_iff_toNat_le, d.chip.eepromWords_toNat]
    exact h
  unfold readEepromWord
  change Command.bind device _ s = _
  unfold Command.bind device Session.device
  rw [hs]
  change (if _ then _ else _ : Command UInt16) s = _
  rw [if_pos hbeyond]
  rfl

end Command

/-! ### On a bus with a memory -/

section Memory

variable {σ : Type} {bus : Bus σ} {I : σ → Prop} {world : σ}
variable (memory : bus.Memory d.handle content I)
include memory

theorem Bus.Memory.gives_wordReads (timeout : Nat) (count : Nat) :
    ∀ start, ∀ event ∈ wordReads d.handle timeout start
      ((List.range' start count).map fun address => content (UInt16.ofNat address)),
      bus.Gives I event := by
  induction count with
  | zero => exact fun _ _ hmem => nomatch hmem
  | succ count ih =>
    intro start event hmem
    rw [List.range'_succ, List.map_cons] at hmem
    rcases List.mem_cons.mp hmem with rfl | hmem
    · exact memory.answers _ _
    · exact ih (start + 1) event hmem

/-- **A full read of a memory succeeds**, and stages what is in it. -/
theorem staged_of_memory (hs : s.link = .opened d) (hI : I world) : ∃ after,
    (Action.readEeprom.perform s).play bus world =
      (wordReads d.handle s.options.readTimeout 0 (memoryReplies content),
        some (.ok (), { s with staged := some (.stage (memoryBytes content) d.chip) }), after) ∧
      I after := by
  refine Program.play_of_gives (readEeprom_answered hs length_memoryReplies
    (memoryReplies_long memory.long)) ?_ memory.note hI
  unfold memoryReplies
  rw [List.range_eq_range']
  exact memory.gives_wordReads _ _ 0

/-- **A word within the range of the chip is what is in the memory.** -/
theorem word_of_memory (hs : s.link = .opened d) (hI : I world) {address : UInt16}
    (h : address.toNat < d.chip.eepromSize / 2) : ∃ low high more after,
    content address = low :: high :: more ∧
      ((Action.readEepromWord address).perform s).play bus world =
        ([.asked (.controlIn d.handle Request.readEeprom 0 address 2 s.options.readTimeout)
          (.ok (content address))], some (.ok (wordOf low high), s), after) ∧ I after := by
  obtain ⟨low, high, more, hcontent⟩ := exists_cons_cons (memory.long address)
  have hcourse := Command.readEepromWord_answered hs h hcontent
  have hgives := memory.answers address s.options.readTimeout
  obtain ⟨after, hplay, hafter⟩ := Program.play_of_gives hcourse
    (fun event hevent => List.mem_singleton.mp hevent ▸ hgives) memory.note hI
  exact ⟨low, high, more, after, hcontent, hplay, hafter⟩

/-- **Single words agree with what a full read stages**, for as long as it is staged and the device
is open. -/
theorem SingleWordsAgree.of_memory (hs : s.holder = some (d.handle, d.chip))
    (staged : s.staged = some (.stage (memoryBytes content) d.chip)) :
    SingleWordsAgree bus I d (.stage (memoryBytes content) d.chip) s := by
  obtain ⟨d', hd', hhandle, hchip⟩ := Session.exists_of_holder hs
  rw [← hhandle] at memory
  have hlength := length_memoryBytes memory.long
  have hle : (Image.stage (memoryBytes content) d.chip).size ≤ d.chip.eepromSize :=
    Eeprom.detect_size_le _ _
  have hfull : d.chip.eepromSize ≤ fullSize := by
    cases d.chip <;> decide
  constructor
  · exact (stagedPart_of_staged staged hlength _).1 (Nat.le_refl _)
  · intro address world hI hinside
    have hwithin : address.toNat < d'.chip.eepromSize / 2 := by
      rw [hchip]
      omega
    obtain ⟨low, high, more, after, hcontent, hplay, hafter⟩ := word_of_memory memory hd' hI hwithin
    have hbyte : ∀ k < 2, (Image.stage (memoryBytes content) d.chip).bytes[2 * address.toNat + k]? =
        (low :: high :: more)[k]? := by
      intro k hk
      unfold Image.bytes
      rw [List.getElem?_take_of_lt (by omega), ← hcontent]
      exact getElem?_memoryBytes memory.long (by omega) hk
    rw [hhandle] at hplay
    exact ⟨low, high, content address, after, hbyte 0 (by decide), hbyte 1 (by decide), hplay,
      hafter⟩
  · intro address hbeyond
    rw [← hchip] at hbeyond ⊢
    exact Command.readEepromWord_beyond hd' hbeyond

end Memory

end PinBridge
