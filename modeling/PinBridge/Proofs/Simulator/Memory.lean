import PinBridge.Proofs.Session.SingleWords
import PinBridge.Proofs.Simulator.Reach

/-!
# The EEPROM of a simulated board

No call writes to the EEPROM of a simulated board, so that the board is a memory of words
(`memory`) for as long as no transfer is made to fail (`HasEeprom`). A full read of it is its 256
bytes in a row (`memoryBytes_word`), and a full read that succeeds has met with no failure
(`failTransfer_of_read`).

* `single_words_agree` : single words agree with the image that a full read stages, on every bus
  with a memory, and on the simulated bus with what is in the EEPROM.
-/

namespace PinBridge

open Eeprom (Image fullSize wordOf)

namespace Simulator

variable {b b' : Board}

/-- No transfer is made to fail, and the board at a position has this EEPROM. -/
def HasEeprom (i : Nat) (eeprom : Vector UInt8 256) (s : State) : Prop :=
  s.failTransfer = none ∧ s.boards[i]?.map Board.eeprom = some eeprom

theorem eeprom_applied (c : Call) (b : Board) : (applied c b).eeprom = b.eeprom := by
  have hbuild := congrArg Board.eeprom (build_applied c b)
  exact hbuild

/-- **No call changes what is in an EEPROM.** -/
theorem bus_keeps_eeprom (i : Nat) (eeprom : Vector UInt8 256) :
    bus.Keeps (fun _ => True) (HasEeprom i eeprom) := by
  have hfail : bus.Keeps (fun _ => True) fun s => s.failTransfer = none := bus_keeps_failTransfer
  have hview : bus.Keeps (fun _ => True) fun s => s.boards[i]?.map Board.eeprom = some eeprom :=
    bus_keeps_view (fun c b _ => eeprom_applied c b) i _
  exact ⟨fun c world hc h => ⟨hfail.reply c world hc h.1, hview.reply c world hc h.2⟩,
    fun _ _ h => h, fun _ _ h => h⟩

theorem word_of_eeprom (h : b'.eeprom = b.eeprom) (address : UInt16) :
    b'.word address = b.word address := by
  unfold Board.word
  simp only [h]

/-- **A simulated board is a memory of words.** -/
theorem memory (handle : Handle) (b : Board) :
    bus.Memory handle b.word (HasEeprom handle.id b.eeprom) where
  long _ := Nat.le_refl 2
  answers address timeout world h := by
    obtain ⟨b', hboard, heeprom⟩ := Option.map_eq_some_iff.mp h.2
    have hreply := State.reply_of_board
      (c := .controlIn handle Request.readEeprom 0 address 2 timeout) rfl h.1 hboard
    have hkept := (bus_keeps_eeprom handle.id b.eeprom).reply
      (.controlIn handle Request.readEeprom 0 address 2 timeout) world trivial h
    rw [hreply] at hkept
    refine ⟨_, hreply.trans (congrArg (Prod.mk · _) ?_), hkept⟩
    exact congrArg (fun word => some (Except.ok word)) (word_of_eeprom heeprom address)
  note _ _ h := h

/-- The bytes of a word of the board. -/
theorem getElem?_word (b : Board) {address : UInt16} (h : address.toNat < 128) {k : Nat}
    (hk : k < 2) : (b.word address)[k]? = b.eeprom.toList[2 * address.toNat + k]? := by
  have hstart : address.toNat % 128 * 2 = 2 * address.toNat := by omega
  have hlt : 2 * address.toNat + k < b.eeprom.toList.length := by
    rw [Vector.length_toList]
    omega
  rw [List.getElem?_eq_getElem hlt, Vector.getElem_toList]
  unfold Board.word
  simp only [hstart]
  obtain rfl | rfl : k = 0 ∨ k = 1 := by omega
  · rfl
  · rfl

/-- **A full read of a board is its EEPROM**, byte by byte. -/
theorem memoryBytes_word (b : Board) : memoryBytes b.word = b.eeprom.toList := by
  have hlong : ∀ address, 2 ≤ (b.word address).length := fun _ => Nat.le_refl 2
  refine List.ext_getElem? fun i => ?_
  rcases Nat.lt_or_ge i 256 with hi | hi
  · have haddress : (UInt16.ofNat (i / 2)).toNat = i / 2 := by
      rw [UInt16.toNat_ofNat']
      omega
    have hword : (UInt16.ofNat (i / 2)).toNat < fullSize / 2 := by
      rw [haddress]
      unfold fullSize
      omega
    have hbyte : i % 2 < 2 := Nat.mod_lt i (by decide)
    have hindex : 2 * (UInt16.ofNat (i / 2)).toNat + i % 2 = i := by omega
    rw [← hindex, getElem?_memoryBytes hlong hword hbyte, getElem?_word b hword hbyte]
  · rw [List.getElem?_eq_none (by rw [length_memoryBytes hlong]; exact hi),
      List.getElem?_eq_none (by rw [Vector.length_toList]; exact hi)]

/-- **A full read that succeeds has met with no failure.** -/
theorem failTransfer_of_read {s t : Session} {d : OpenDevice} (hs : s.link = .opened d)
    {events : List Event} {world after : State}
    (h : (Action.readEeprom.perform s).play bus world = (events, some (.ok (), t), after)) :
    world.failTransfer = none := by
  obtain ⟨replies, raw, rfl, hreading, hend⟩ :=
    Command.readEeprom_reading hs (Program.course_of_play h)
  obtain ⟨bytes, hraw⟩ : ∃ bytes, raw = .ok bytes := by
    rcases hend with ⟨e, -, he, -⟩ | ⟨bytes, hraw, -⟩
    · cases he
    · exact ⟨bytes, hraw⟩
  obtain ⟨hcount, hall, -⟩ := hreading.of_ok hraw
  cases replies with
  | nil => cases hcount
  | cons first rest =>
    obtain ⟨next, hreply, -⟩ := passes_of_play h
    have hfine : first.failure? = none := hall first List.mem_cons_self
    cases hfail : world.failTransfer with
    | none => rfl
    | some failure =>
      have hinjected := State.reply_of_injected
        (c := .controlIn d.handle Request.readEeprom 0 (UInt16.ofNat 0) 2 s.options.readTimeout)
        rfl hfail
      cases hreply.symm.trans hinjected
      cases hfine

end Simulator

/-- **Single words agree with the image that a full read stages.** On every bus that has something
fixed at each word address of the device, two bytes or more, a full read succeeds and stages what is
there, within the range of the chip. For as long as the device is open and this is staged, each word
within the image is read, and is that of the two bytes of the copy; and an address beyond the range
is refused with nothing asked for. On the simulated bus a full read that succeeds stages the first
bytes of the board's EEPROM, and single words agree with these. -/
theorem single_words_agree {σ : Type} {bus : Bus σ} {I : σ → Prop}
    {content : UInt16 → List UInt8} {s : Session} {d : OpenDevice} (hs : s.link = .opened d)
    (memory : bus.Memory d.handle content I) {world : σ} (hI : I world) :
    (∃ after, (Action.readEeprom.perform s).play bus world =
      (wordReads d.handle s.options.readTimeout 0 (memoryReplies content),
        some (.ok (), { s with staged := some (.stage (memoryBytes content) d.chip) }), after) ∧
      I after) ∧
    (Image.stage (memoryBytes content) d.chip).size ≤ d.chip.eepromSize ∧
    (∀ t : Session, t.holder = some (d.handle, d.chip) →
      t.staged = some (.stage (memoryBytes content) d.chip) →
      SingleWordsAgree bus I d (.stage (memoryBytes content) d.chip) t) ∧
    ∀ (w after : Simulator.State) (b : Simulator.Board) (events : List Event) (t : Session),
      w.boards[d.handle.id]? = some b →
      (Action.readEeprom.perform s).play Simulator.bus w = (events, some (.ok (), t), after) →
      ∃ image, t = { s with staged := some image } ∧
        image.bytes = b.eeprom.toList.take image.size ∧
        Simulator.HasEeprom d.handle.id b.eeprom after ∧
        SingleWordsAgree Simulator.bus (Simulator.HasEeprom d.handle.id b.eeprom) d image t := by
  refine ⟨staged_of_memory memory hs hI, Eeprom.detect_size_le _ _,
    fun t ht hstaged => .of_memory memory ht hstaged, fun w after b events t hb hplay => ?_⟩
  have hmemory := Simulator.memory d.handle b
  have hw : Simulator.HasEeprom d.handle.id b.eeprom w :=
    ⟨Simulator.failTransfer_of_read hs hplay, congrArg (Option.map _) hb⟩
  obtain ⟨after', hread, hafter⟩ := staged_of_memory hmemory hs hw
  cases hplay.symm.trans hread
  have hholder : s.holder = some (d.handle, d.chip) := by
    unfold Session.holder
    rw [hs]
  refine ⟨_, rfl, ?_, hafter, .of_memory hmemory hholder rfl⟩
  unfold Image.bytes
  rw [Simulator.memoryBytes_word]
  rfl

/-- A board whose EEPROM begins with two words. -/
def Simulator.wordy : Simulator.Board := Simulator.Board.light.withEeprom [0x12, 0x34, 0x56, 0x78]

/-- The second word is that of the third byte and the fourth, and word 64 is beyond the range. -/
theorem single_words_agree_wordy :
    Simulator.HasEeprom 1 Simulator.wordy.eeprom (.ofBoards [.light, Simulator.wordy]) ∧
    ∃ t after, (Action.readEeprom.perform ⟨.default, .opened Sample.device, none⟩).play
        Simulator.bus (.ofBoards [.light, Simulator.wordy]) =
      (wordReads Sample.handle 5000 0 (memoryReplies Simulator.wordy.word), some (.ok (), t),
        after) ∧
      (∃ events after', ((Action.readEepromWord 1).perform t).play Simulator.bus after =
        (events, some (.ok 0x7856, t), after')) ∧
      (Action.readEepromWord 64).perform t = .done (.error (.outOfRange 64 64), t) := by
  have hworld : Simulator.HasEeprom 1 Simulator.wordy.eeprom
      (.ofBoards [.light, Simulator.wordy]) := ⟨rfl, rfl⟩
  have opened : (Session.mk .default (.opened Sample.device) none).link =
      .opened Sample.device := rfl
  obtain ⟨⟨after, hread, hafter⟩, -, hagree, -⟩ :=
    single_words_agree opened (Simulator.memory Sample.handle Simulator.wordy) hworld
  obtain ⟨-, hinside, hbeyond⟩ := hagree ⟨.default, .opened Sample.device,
    some (.stage (memoryBytes Simulator.wordy.word) .ft232r)⟩ rfl rfl
  obtain ⟨low, high, reply, after', hlow, hhigh, hword, -⟩ :=
    hinside 1 after hafter (by decide)
  have hlow' : (Image.stage (memoryBytes Simulator.wordy.word) .ft232r).bytes[2]? = some 0x56 := by
    decide +kernel
  have hhigh' : (Image.stage (memoryBytes Simulator.wordy.word) .ft232r).bytes[3]? = some 0x78 := by
    decide +kernel
  cases hlow.symm.trans hlow'
  cases hhigh.symm.trans hhigh'
  exact ⟨hworld, _, after, hread, ⟨_, after', hword⟩, hbeyond 64 (by decide)⟩

end PinBridge
