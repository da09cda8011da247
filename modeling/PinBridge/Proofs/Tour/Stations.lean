import PinBridge.Proofs.Session.ChipId
import PinBridge.Proofs.Simulator.Loopback
import PinBridge.Proofs.Simulator.Memory
import PinBridge.Proofs.Simulator.Selection
import PinBridge.Proofs.Tour.Steps

/-!
# The stations of the tour

What each station of the tour comes to on a simulated bus without failures. The lookups change
nothing but the count of calls (`findBoards_goes`, `showStrings_goes`). Then the session has a board
open (`AtBoard`), which stays what it was made, and whose record of written bytes grows at one
station only:

* `showPins_goes` : the pins show the last of the bytes that have been written (`readPins_goes`); a
  chip that does not have the bit mode ends the tour here (`showPins_am`).
* `showChipId_goes` : one line, whatever the chip.
* `showEeprom_goes` : the second word of the EEPROM, and then the start of it.
* `close_goes` : the board is let go of.
-/

namespace PinBridge

open Simulator

/-- The family that the chip of a board is taken for. -/
def Simulator.Board.chip (b : Board) : Chip := Chip.ofRelease b.descriptor.release b.hasSerial

namespace Tour

open Step

variable {s t : Session} {world after : Simulator.State} {action : Action} {events : List Event}
  {result : Except Error action.Result} {d : OpenDevice} {b : Board} {i : Nat}
  {written : List UInt8}

/-! ### Looking up -/

section Lookup

/-- What an operation learns, a step that consists of it learns. -/
theorem Step.Goes.learns {α : Type} {m : Command α} {r : Except Error α}
    (h : Command.Learns world m r) (s : Session) (calls : Tally) :
    ∃ calls', Goes (Step.act m) s { world with calls } r [] s { world with calls := calls' } := by
  obtain ⟨calls', hrun⟩ := h s calls
  obtain ⟨events, played⟩ := Program.play_of_run hrun
  exact ⟨calls', .act played⟩

/-- The light boards as they are enumerated. -/
def enumerated (boards : List Board) : List Descriptor :=
  (boards.map (·.descriptor)).filter fun d => d.matchesIds vendorId ProductId.board

variable (calm : world.Calm)
include calm

/-- The light boards are found, at the first look or at the second. -/
theorem findBoards_goes (s : Session) : ∃ lines calls,
    Goes findBoards s world (.ok (enumerated world.boards)) lines s { world with calls } := by
  have hlook : ∀ calls, ∃ calls', Goes (act (Command.findAll vendorId ProductId.board)) s
      { world with calls } (.ok (enumerated world.boards)) [] s { world with calls := calls' } :=
    Goes.learns (Command.findAll_learns calm vendorId ProductId.board) s
  obtain ⟨calls, hfirst⟩ := hlook world.calls
  unfold findBoards
  cases hfound : (enumerated world.boards).isEmpty with
  | true =>
    obtain ⟨calls', hsecond⟩ := hlook calls
    exact ⟨_, calls', hfirst.bind (by
      rw [if_pos hfound]
      exact .emit_bind hsecond)⟩
  | false =>
    exact ⟨_, calls, hfirst.bind (by
      rw [if_neg (by rw [hfound]; decide)]
      exact .pure _)⟩

variable (numbered : world.Numbered) (few : world.boards.length ≤ 255)
include numbered few

/-- The strings of boards that are there are told. -/
theorem showStrings_goes (s : Session) (devices : List Descriptor)
    (present : ∀ d ∈ devices, ∃ (i : Nat) (b : Board), world.boards[i]? = some b ∧ b.descriptor = d) :
    ∀ n calls, ∃ lines calls', Goes (showStrings n devices) s { world with calls } (.ok ()) lines s
      { world with calls := calls' } := by
  induction devices with
  | nil => exact fun n calls => ⟨[], calls, .pure ()⟩
  | cons d rest ih =>
    intro n calls
    obtain ⟨i, b, hb, rfl⟩ := present d List.mem_cons_self
    obtain ⟨calls₁, htold⟩ :=
      Goes.learns (Command.getStrings_learns calm numbered few hb) s calls
    obtain ⟨lines, calls₂, hrest⟩ :=
      ih (fun d hd => present d (List.mem_cons_of_mem _ hd)) (n + 1) calls₁
    unfold showStrings
    exact ⟨_, calls₂, htold.bind (.emit_bind hrest)⟩

end Lookup

/-! ### The board that is open -/

/-- **A session with its board open**, and no transfer to fail. The board is what it was made, and it
has these bytes on record. -/
structure AtBoard (b : Board) (i : Nat) (written : List UInt8) (s : Session)
    (world : Simulator.State) : Prop where
  link : ∃ d, s.link = .opened d ∧ d.handle.id = i ∧ d.chip = b.chip
  board : ∃ b', world.boards[i]? = some b' ∧ b'.build = b.build ∧ b'.written = written
  calm : world.failTransfer = none
  usable : s.options.Usable

namespace AtBoard

/-- A call that writes nothing leaves the board as it is, as far as the tour looks at it. -/
theorem turn (h : AtBoard b i written s world) (htransmit : ¬ action.May .transmit)
    (played : (action.perform s).play bus world = (events, some (result, t), after))
    (link : ∃ d, t.link = .opened d ∧ d.handle.id = i ∧ d.chip = b.chip) :
    AtBoard b i written t after := by
  obtain ⟨b', hb', hbuild, hwritten⟩ := h.board
  have hkept := perform_keeps_view (fun b => (b.build, b.written)) (fun c hc b => ?_) played i
  · obtain ⟨b'', hb'', heq⟩ := exists_of_map_eq hkept hb'
    obtain ⟨hbuild', hwritten'⟩ := Prod.mk.inj heq
    exact ⟨link, ⟨b'', hb'', hbuild'.trans hbuild, hwritten'.trans hwritten⟩,
      failTransfer_of_play h.calm played, perform_usable played h.usable⟩
  · rw [build_applied, written_applied fun heffect => htransmit (hc _ heffect)]

/-- The EEPROM of the board is what it was. -/
theorem hasEeprom (h : AtBoard b i written s world) : HasEeprom i b.eeprom world := by
  obtain ⟨b', hb', hbuild, -⟩ := h.board
  refine ⟨h.calm, ?_⟩
  rw [hb']
  exact congrArg (fun build => some build.eeprom) hbuild

end AtBoard

/-- A session with a device open tells the family of its chip. -/
theorem chip_done (hs : s.link = .opened d) :
    ((·.chip) <$> Command.device : Command Chip) s = .done (.ok d.chip, s) := by
  change Command.bind Command.device _ s = _
  unfold Command.bind Command.device Session.device
  rw [hs]
  rfl

/-- It is that of the board. -/
theorem chip_goes (h : AtBoard b i written s world) :
    Goes (act ((·.chip) <$> Command.device)) s world (.ok b.chip) [] s world := by
  obtain ⟨d, hs, -, hchip⟩ := h.link
  exact hchip ▸ .act_done (chip_done hs)

/-! ### The pins -/

/-- **A chip without the bit mode ends the tour** at its pins. -/
theorem showPins_am (h : AtBoard b i written s world) (ham : b.chip = .am) :
    Goes showPins s world (.error (.invalidMode .bitBang .am)) [] s world := by
  obtain ⟨d, hs, -, hchip⟩ := h.link
  have hrefused : Command.setBitMode 0xFF .bitBang s =
      .done (.error (.invalidMode .bitBang .am), s) := by
    rw [setBitMode_refused hs (by rw [hchip, ham]; rfl), hchip, ham]
  unfold showPins
  exact .bind_error (.act_done hrefused)

variable {b₀ : Board} {mask last : UInt8} {sent : List UInt8}

/-- The pins are taken over, of a chip that has the bit mode. -/
theorem select_goes (h : AtBoard b i written s world) (hchip : b.chip ≠ .am) : ∃ b₀ t after,
    Goes (act (.setBitMode 0xFF .bitBang)) s world (.ok ()) [] t after ∧
      Drives i b₀ 0xFF [] t after ∧ b₀.build = b.build ∧
      ∃ d, t.link = .opened d ∧ d.handle.id = i ∧ d.chip = b.chip := by
  obtain ⟨d, hs, rfl, hd⟩ := h.link
  obtain ⟨b₀, hb₀, hbuild, -⟩ := h.board
  have hsupports : d.chip.supports .bitBang := by
    rw [hd]
    exact bne_iff_ne.mpr hchip
  obtain ⟨events, after, hselect⟩ := setBitMode_play hs hb₀ h.calm hsupports 0xFF
  obtain ⟨-, calm, b₁, hb₁, shows⟩ := setBitMode_shows hs hb₀ (by decide) hselect
  exact ⟨b₀, _, after, .act hselect, ⟨⟨_, rfl, rfl, nofun⟩, ⟨b₁, hb₁, shows⟩, calm, h.usable⟩,
    hbuild, _, rfl, rfl, hd⟩

/-- A byte is written to the pins. -/
theorem writeData_goes (h : Drives i b₀ mask sent s world) (value : UInt8) : ∃ after,
    Goes (act (.writeData value)) s world (.ok ()) [] s after ∧
      Drives i b₀ mask (sent ++ [value]) s after := by
  obtain ⟨d, hs, hid, hmode⟩ := h.link
  obtain ⟨b, hb, shows⟩ := h.board
  subst hid
  obtain ⟨events, after, -, hplay, -⟩ := writeData_play hs hmode h.usable h.calm hb shows value
  have played : ((Action.writeData value).perform s).play bus world =
      (events, some (.ok (), s), after) := hplay
  exact ⟨after, .act hplay, h.step played rfl rfl⟩

/-- **The pins are driven one by one.** -/
theorem walkPins_goes (bits : List Nat) : ∀ {sent : List UInt8} {world : Simulator.State},
    Drives i b₀ mask sent s world → ∃ lines after,
      Goes (walkPins bits) s world (.ok ()) lines s after ∧
        Drives i b₀ mask (sent ++ bits.map fun bit => UInt8.ofNat (1 <<< bit)) s after := by
  induction bits with
  | nil =>
    intro sent world h
    refine ⟨[], world, .pure (), ?_⟩
    rwa [List.map_nil, List.append_nil]
  | cons bit rest ih =>
    intro sent world h
    obtain ⟨mid, hwrite, hmid⟩ := writeData_goes h (UInt8.ofNat (1 <<< bit))
    obtain ⟨lines, after, hrest, hafter⟩ := ih hmid
    rw [List.append_assoc] at hafter
    exact ⟨_, after, .emit_bind (hwrite.bind (.emit_bind hrest)), hafter⟩

/-- **The pins show the last byte that has been written**, since all of them are driven. -/
theorem readPins_goes (h : Drives i b₀ 0xFF sent s world) (hlast : sent.getLast? = some last) :
    ∃ after, Goes (act .readPins) s world (.ok last) [] s after ∧
      Drives i b₀ 0xFF sent s after := by
  obtain ⟨d, hs, hid, hmode⟩ := h.link
  obtain ⟨b', hb', shows⟩ := h.board
  subst hid
  have hpins : b'.pins = last := by
    have hall : (0xFF : UInt8) = -1 := rfl
    have hfree : ~~~(0xFF : UInt8) = 0 := rfl
    rw [shows.pins last hlast, hfree, hall, UInt8.and_neg_one, UInt8.and_zero, UInt8.or_zero]
  obtain ⟨events, after, hread⟩ := readPins_play hs hmode h.calm hb'
  rw [hpins] at hread
  have played : (Action.readPins.perform s).play bus world =
      (events, some (.ok last, s), after) := hread
  refine ⟨after, .act hread, ?_⟩
  have hafter : Drives d.handle.id b₀ 0xFF (sent ++ []) s after := h.step played rfl rfl
  rwa [List.append_nil] at hafter

/-- A board whose pins are driven is what it was made, and has on record what has been sent. -/
theorem AtBoard.of_drives (h : Drives i b₀ mask sent s world) (hbuild : b₀.build = b.build)
    (link : ∃ d, s.link = .opened d ∧ d.handle.id = i ∧ d.chip = b.chip) :
    AtBoard b i (b₀.written ++ sent) s world := by
  obtain ⟨b', hb', shows⟩ := h.board
  exact ⟨link, ⟨b', hb', shows.build.trans hbuild, shows.written⟩, h.calm, h.usable⟩

/-- The pins are given back. -/
theorem disable_goes (h : AtBoard b i written s world) : ∃ t after,
    Goes (act .disableBitMode) s world (.ok ()) [] t after ∧ AtBoard b i written t after := by
  obtain ⟨d, hs, rfl, hd⟩ := h.link
  obtain ⟨b', hb', -⟩ := h.board
  have hsupports : d.chip.supports .reset := rfl
  obtain ⟨events, after, hreset⟩ := setBitMode_play hs hb' h.calm hsupports 0
  have played : (Action.disableBitMode.perform s).play bus world = _ := hreset
  exact ⟨_, after, .act hreset, h.turn id played ⟨_, rfl, rfl, hd⟩⟩

/-- **The pins are driven and read back**, and the byte that is shown is the last one on record. -/
theorem showPins_goes (h : AtBoard b i written s world) (hchip : b.chip ≠ .am) :
    ∃ lines last written' t after,
      Goes showPins s world (.ok ()) (lines ++ [.print ("pins: " ++ Hex.marked 2 last.toNat)]) t
        after ∧
      AtBoard b i written' t after ∧ written'.getLast? = some last := by
  obtain ⟨b₀, t, w₀, hselect, start, hbuild, hlink⟩ := select_goes h hchip
  obtain ⟨w₁, hon, h₁⟩ := writeData_goes start 0xFF
  obtain ⟨w₂, hoff, h₂⟩ := writeData_goes h₁ 0x00
  obtain ⟨lines, w₃, hwalk, h₃⟩ := walkPins_goes (List.range 8) h₂
  -- the highest pin is the last one
  have hlast : ([] ++ [(0xFF : UInt8)] ++ [(0x00 : UInt8)] ++ (List.range 8).map fun bit =>
      UInt8.ofNat (1 <<< bit)).getLast? = some 0x80 := rfl
  obtain ⟨w₄, hread, h₄⟩ := readPins_goes h₃ hlast
  obtain ⟨t', w₅, hreset, hend⟩ := disable_goes (AtBoard.of_drives h₄ hbuild hlink)
  refine ⟨[.print "turning everything on", .pause 1000, .print "turning everything off",
    .pause 1000] ++ lines, 0x80, _, t', w₅, ?_, hend, ?_⟩
  · exact hselect.bind (.emit_bind (hon.bind (.emit_bind (.emit_bind (hoff.bind
      (.emit_bind (hwalk.bind (hread.bind (.emit_bind hreset)))))))))
  · rw [List.getLast?_append, hlast]
    rfl

/-! ### The memory of the chip -/

/-- The chip ID is read where the chip has one. -/
theorem readChipId_play (h : AtBoard b i written s world) : ∃ events r after,
    (Action.readChipId.perform s).play bus world = (events, some (r, s), after) := by
  obtain ⟨d, hs, rfl, -⟩ := h.link
  by_cases hchip : d.chip = .ft232r
  · have memory := Simulator.memory d.handle b
    have course := readChipId_answered hs hchip
      (b.eeprom[134], b.eeprom[135]) (b.eeprom[136], b.eeprom[137])
    have gives := memory.gives_wordReads s.options.readTimeout 2 0x43
    obtain ⟨after, hplay, -⟩ := Program.play_of_gives course gives memory.note h.hasEeprom
    exact ⟨_, _, after, hplay⟩
  · refine ⟨[], .error (.unsupportedChip d.chip), world, ?_⟩
    obtain ⟨options, link, staged⟩ := s
    cases hs
    change (Command.readChipId _).play bus world = _
    unfold Command.readChipId
    change ((if d.chip = .ft232r then _ else _ : Command UInt32) _).play bus world = _
    rw [if_neg hchip]
    rfl

/-- Whatever comes of the chip ID, one line is printed, and the tour goes on. -/
theorem showChipId_goes (h : AtBoard b i written s world) : ∃ text after,
    Goes showChipId s world (.ok ()) [.print text] s after ∧ AtBoard b i written s after := by
  obtain ⟨events, r, after, hplay⟩ := readChipId_play h
  have hafter := h.turn id hplay h.link
  unfold showChipId
  cases r with
  | ok id => exact ⟨_, after, (Goes.attempt hplay).bind (.emit _), hafter⟩
  | error e => exact ⟨_, after, (Goes.attempt hplay).bind (.emit _), hafter⟩

/-- What is told of the size of an image. -/
def sizeText (image : Eeprom.Image) : String :=
  "eeprom (" ++ toString (min image.size shownSize) ++ " bytes, checksum ok: " ++
    toString image.verifies ++ "):"

/-- What is printed of the EEPROM of a board. -/
def eepromLines (b : Board) : List Line :=
  [.print ("eeprom @ 1: " ++ Hex.marked 4 (Eeprom.wordOf b.eeprom[2] b.eeprom[3]).toNat),
    .print (sizeText (.stage b.eeprom.toList b.chip))] ++
    ((rows (b.eeprom.toList.take
      (min (Eeprom.detect b.eeprom.toList b.chip).size shownSize))).map rowText).map .print

theorem sayAll_goes (texts : List String) :
    Goes (sayAll texts) s world (.ok ()) (texts.map .print) s world := by
  induction texts with
  | nil => exact .pure ()
  | cons text rest ih => exact .emit_bind ih

/-- **The EEPROM is shown**: its second word, and then the start of the image that is staged of it. -/
theorem showEeprom_goes (h : AtBoard b i written s world) : ∃ after,
    Goes showEeprom s world (.ok ()) (eepromLines b)
      { s with staged := some (.stage b.eeprom.toList b.chip) } after ∧
    AtBoard b i written { s with staged := some (.stage b.eeprom.toList b.chip) } after := by
  obtain ⟨d, hs, rfl, hd⟩ := h.link
  have memory := Simulator.memory d.handle b
  have hrange : shownWord.toNat < d.chip.eepromSize / 2 := by
    cases d.chip <;> decide
  obtain ⟨low, high, more, w₁, hcontent, hword, -⟩ := word_of_memory memory hs h.hasEeprom hrange
  have h₁ := h.turn id hword ⟨d, hs, rfl, hd⟩
  obtain ⟨w₂, hread, -⟩ := staged_of_memory memory hs h₁.hasEeprom
  rw [memoryBytes_word, hd] at hread
  have h₂ := h₁.turn id hread ⟨d, hs, rfl, hd⟩
  cases hcontent
  -- the part that is asked for is within the image
  have hpart := (stagedPart_of_staged (s := { s with staged := some (.stage b.eeprom.toList b.chip) })
    rfl Vector.length_toList _).1 (Nat.min_le_left _ shownSize)
  have haddress : "eeprom @ " ++ toString shownWord.toNat ++ ": " = "eeprom @ 1: " := rfl
  refine ⟨w₂, ?_, h₂⟩
  unfold eepromLines showEeprom
  rw [← haddress]
  exact (Goes.act hword).bind (.emit_bind ((Goes.act hread).bind (Goes.session.bind
    (.emit_bind ((Goes.act_done hpart).bind (sayAll_goes _))))))

/-! ### The end -/

/-- The board is let go of, and keeps its record. -/
theorem close_goes (h : AtBoard b i written s world) : ∃ t after,
    Goes (act .close) s world (.ok ()) [] t after ∧ (∀ d, t.link ≠ .opened d) ∧
      ∃ b', after.boards[i]? = some b' ∧ b'.written = written := by
  obtain ⟨d, hs, rfl, -⟩ := h.link
  obtain ⟨b', hb', -, hwritten⟩ := h.board
  obtain ⟨events, after, hplay, -⟩ := shutDown_play s (List.getElem?_eq_some_iff.mp hb').1
  rw [← close_of_opened hs] at hplay
  have hturn : (Action.close.perform s).play bus world = _ := hplay
  have hsilent : ∀ c : Call, c.Minds Action.close.May → ∀ b, (applied c b).written = b.written :=
    fun c hc b => written_applied (fun heffect => hc _ heffect) b
  have hkept := perform_keeps_view Board.written hsilent hturn d.handle.id
  obtain ⟨b'', hb'', heq⟩ := exists_of_map_eq hkept hb'
  exact ⟨_, after, .act hplay, by simp, b'', hb'', heq.trans hwritten⟩

end Tour

end PinBridge
