import PinBridge.Proofs.Eeprom.Checksum
import PinBridge.Proofs.Simulator.Ending
import PinBridge.Proofs.Tour.Rows
import PinBridge.Proofs.Tour.Stations

/-!
# The tour from end to end

The tour looks the light boards up, whatever it finds (`stations_goes`), and then opens the first of
them. Where there is none it ends there (`fromOpening_none`), and where the chip is of a family
without the bit mode it ends at the pins (`fromOpening_am`). Otherwise it comes to its end
(`fromOpening_light`). In each case the session is ended, which leaves no board in a bit mode
(`tour_run`).

* `tour_runs_through` : when the tour succeeds, what it shows then, and how it leaves the bus.
-/

namespace PinBridge.Tour

open Simulator Step

variable {s t : Session} {world after mid : Simulator.State} {b : Board} {i : Nat}
  {lines : List Line} {r : Except Error Unit}

/-! ### The first light board -/

/-- The light board that comes first on a bus, with its position. -/
def firstLight? (boards : List Board) : Option (Board × Nat) :=
  boards.zipIdx.find? fun entry =>
    entry.1.descriptor.vendor == vendorId && entry.1.descriptor.product == ProductId.board

/-- It is the one that the IDs alone describe. -/
theorem described_light (boards : List Board) :
    (described (.ofIds vendorId ProductId.board) boards)[0]? = firstLight? boards := by
  unfold described firstLight?
  rw [← List.head?_eq_getElem?, List.head?_filter]
  congr 1
  funext entry
  rw [Bool.eq_iff_iff, decide_eq_true_iff, Filter.describes_iff]
  exact and_iff_left rfl

/-! ### Up to the opening -/

/-- The stations from the opening of a board on. -/
def fromOpening : Step Unit := do
  act (.openIds vendorId ProductId.board)
  let chip ← act ((·.chip) <$> Command.device)
  say ("chip type: " ++ chip.name)
  showPins
  showChipId
  showEeprom
  act .close
  say "device closed"

section

variable (calm : world.Calm) (numbered : world.Numbered) (few : world.boards.length ≤ 255)
include calm numbered few

/-- **The lookups never end the tour**, and change nothing but the count of calls. -/
theorem stations_goes (s : Session) : ∃ front calls, ∀ ⦃r lines t after⦄,
    Goes fromOpening s { world with calls } r lines t after →
      Goes stations s world r (front ++ lines) t after := by
  obtain ⟨first, calls₁, hfind⟩ := findBoards_goes calm s
  have present : ∀ d ∈ enumerated world.boards,
      ∃ (i : Nat) (b : Board), world.boards[i]? = some b ∧ b.descriptor = d := by
    intro d hd
    obtain ⟨b, hb, rfl⟩ := List.mem_map.mp (List.mem_filter.mp hd).1
    obtain ⟨i, hi⟩ := List.mem_iff_getElem?.mp hb
    exact ⟨i, b, hi, rfl⟩
  obtain ⟨told, calls₂, hstrings⟩ := showStrings_goes calm numbered few s _ present 0 calls₁
  refine ⟨first ++ .print ("devices: " ++ toString (enumerated world.boards).length) :: told,
    calls₂, fun r lines t after hrest => ?_⟩
  have hgoes : Goes stations s world r _ t after :=
    hfind.bind (.emit_bind (hstrings.bind hrest))
  rw [List.append_assoc, List.cons_append]
  exact hgoes

/-- No board is opened where there is no light board. -/
theorem openLight_none (closed : s.isOpen = false) (hnone : firstLight? world.boards = none) :
    ∃ after, Goes (act (.openIds vendorId ProductId.board)) s world (.error .deviceNotFound) [] s
      after := by
  rw [← described_light] at hnone
  obtain ⟨calls, hrun⟩ := openFilter_run_of_none calm numbered few closed _ hnone
  rw [← Command.openIds_eq_openFilter] at hrun
  obtain ⟨events, hplay⟩ := Program.play_of_run hrun
  exact ⟨_, .act hplay⟩

/-- **The first light board is opened.** -/
theorem openLight_some (closed : s.isOpen = false) (usable : s.options.Usable)
    (hfirst : firstLight? world.boards = some (b, i)) : ∃ t after,
      Goes (act (.openIds vendorId ProductId.board)) s world (.ok ()) [] t after ∧
        AtBoard b i b.written t after := by
  rw [← described_light] at hfirst
  obtain ⟨t, after, setting, hrun, hholds, -, hboards⟩ :=
    openFilter_run_of_some calm numbered few closed _ hfirst
  have hb : world.boards[i]? = some b :=
    getElem?_of_mem_zipIdx (List.mem_filter.mp (List.mem_of_getElem? hfirst)).1
  rw [← Command.openIds_eq_openFilter] at hrun
  obtain ⟨events, hplay⟩ := Program.play_of_run hrun
  obtain ⟨d, ht, hhandle⟩ := hholds.handle
  have hchip : d.chip = b.chip := by
    have htold := Program.done.inj ((chip_done ht).symm.trans hholds.chip)
    exact Except.ok.inj (Prod.mk.inj htold).1
  have hlt : i < world.boards.length := (List.getElem?_eq_some_iff.mp hb).1
  have hturn : ((Action.openIds vendorId ProductId.board).perform s).play bus world = _ := hplay
  refine ⟨t, after, .act hplay, ⟨d, ht, congrArg Handle.id hhandle, hchip⟩,
    ⟨b.setUp s.options.interface.channel.index setting, ?_, rfl, rfl⟩,
    failTransfer_of_play calm.transfers hplay, perform_usable hturn usable⟩
  rw [hboards]
  exact List.getElem?_set_self hlt

/-- **Without a light board the tour ends at the opening.** -/
theorem fromOpening_none (closed : s.isOpen = false) (hnone : firstLight? world.boards = none) :
    ∃ after, Goes fromOpening s world (.error .deviceNotFound) [] s after := by
  obtain ⟨after, hopen⟩ := openLight_none calm numbered few closed hnone
  exact ⟨after, hopen.bind_error⟩

/-- **Without the bit mode it ends at the pins.** -/
theorem fromOpening_am (closed : s.isOpen = false) (usable : s.options.Usable)
    (hfirst : firstLight? world.boards = some (b, i)) (ham : b.chip = .am) : ∃ lines t after,
    Goes fromOpening s world (.error (.invalidMode .bitBang .am)) lines t after := by
  obtain ⟨t, after, hopen, h⟩ := openLight_some calm numbered few closed usable hfirst
  exact ⟨_, t, after, hopen.bind ((chip_goes h).bind (.emit_bind (showPins_am h ham).bind_error))⟩

/-- **With it the tour comes to its end.** -/
theorem fromOpening_light (closed : s.isOpen = false) (usable : s.options.Usable)
    (hfirst : firstLight? world.boards = some (b, i)) (hchip : b.chip ≠ .am) :
    ∃ front last identity t after,
      Goes fromOpening s world (.ok ())
        (front ++ ([.print ("pins: " ++ Hex.marked 2 last.toNat), .print identity] ++
          eepromLines b ++ [.print "device closed"])) t after ∧
      (∀ d, t.link ≠ .opened d) ∧
      ∃ b', after.boards[i]? = some b' ∧ b'.written.getLast? = some last := by
  obtain ⟨t₁, w₁, hopen, h₁⟩ := openLight_some calm numbered few closed usable hfirst
  obtain ⟨walked, last, written, t₂, w₂, hpins, h₂, hlast⟩ := showPins_goes h₁ hchip
  obtain ⟨identity, w₃, hid, h₃⟩ := showChipId_goes h₂
  obtain ⟨w₄, hmemory, h₄⟩ := showEeprom_goes h₃
  obtain ⟨t, w₅, hclose, hclosed, b', hb', hwritten⟩ := close_goes h₄
  refine ⟨.print ("chip type: " ++ b.chip.name) :: walked, last, identity, t, w₅, ?_, hclosed, b',
    hb', hwritten ▸ hlast⟩
  have hgoes : Goes fromOpening s world (.ok ()) _ t w₅ :=
    hopen.bind ((chip_goes h₁).bind (.emit_bind (hpins.bind (hid.bind (hmemory.bind
      (hclose.bind (.emit (.print "device closed"))))))))
  simpa only [List.append_assoc, List.cons_append, List.nil_append] using hgoes

end

/-! ### The whole tour -/

/-- The error that ends a tour early, if its stations come to one. -/
def failure? : Except Error Unit → Option Error
  | .ok () => none
  | .error e => some e

/-- **The session of a tour is ended** whatever its stations come to, and no board is left in a bit
mode. -/
theorem tour_run (calm : world.failTransfer = none) (idle : ∀ b ∈ world.boards, b.mode = 0)
    (h : Goes stations ⟨.default, .unopened, none⟩ world r lines t mid) : ∃ after,
    Program.run bus tour world = (some ⟨.print greeting :: lines, failure? r⟩, after) ∧
      (∀ b ∈ after.boards, b.mode = 0) ∧ ((∀ d, t.link ≠ .opened d) → after = mid) := by
  have made : Session.new .default = .ok ⟨.default, .unopened, none⟩ := rfl
  have start : Underway ⟨.default, .unopened, none⟩ world := ⟨calm, [], .start made idle⟩
  have hstations := h [.print greeting]
  obtain ⟨u, after, hdrop, hmode⟩ := (stations_keeps start hstations).drop_run
  refine ⟨after, ?_, hmode, fun closed => ?_⟩
  · change Program.run bus ((stations ⟨_, [.print greeting]⟩).bind _) world = _
    rw [Program.run_bind, hstations]
    change Program.run bus ((Command.drop t).bind _) mid = _
    rw [Program.run_bind, hdrop]
    cases r <;> rfl
  · rw [drop_of_not_opened closed] at hdrop
    exact (congrArg Prod.snd hdrop).symm

/-- **The tour runs through on every usable board.** On a bus of at most 255 boards, numbered as they
are when they are added, with no failure in store and no board in a bit mode, the tour ends without
a crash. It succeeds just where there is a light board and the first one is not taken for an `am`.
Then it has printed the last byte that has been written to the board as the level of its pins, the
third byte of its EEPROM and the fourth as the word at address 1, and rows of bytes that are read as
the first bytes of the EEPROM, as many as its size that is detected, and 128 at most. In every case no
board is left in a bit mode. -/
theorem tour_runs_through (calm : world.Calm) (numbered : world.Numbered)
    (few : world.boards.length ≤ 255) (idle : ∀ b ∈ world.boards, b.mode = 0) :
    ∃ transcript after, Program.run bus tour world = (some transcript, after) ∧
      (transcript.failure = none ↔
        ∃ b i, firstLight? world.boards = some (b, i) ∧ b.chip ≠ .am) ∧
      (∀ b i, firstLight? world.boards = some (b, i) → b.chip ≠ .am →
        ∃ front last identity dump b',
          transcript.lines = front ++
            [.print ("pins: " ++ Hex.marked 2 last.toNat), .print identity,
              .print ("eeprom @ 1: " ++
                Hex.marked 4 (b.eeprom[2].toNat + 256 * b.eeprom[3].toNat)),
              .print (sizeText (.stage b.eeprom.toList b.chip))] ++ dump.map .print ++
              [.print "device closed"] ∧
          after.boards[i]? = some b' ∧ b'.written.getLast? = some last ∧
          readRows? dump = some (b.eeprom.toList.take
            (min (Eeprom.detect b.eeprom.toList b.chip).size 128))) ∧
      ∀ b ∈ after.boards, b.mode = 0 := by
  obtain ⟨front, calls, hstations⟩ := stations_goes calm numbered few ⟨.default, .unopened, none⟩
  have calm' : State.Calm { world with calls } :=
    ⟨calm.opens, calm.lists, calm.strings, calm.transfers⟩
  have closed : Session.isOpen ⟨.default, .unopened, none⟩ = false := rfl
  have usable : (Session.mk .default .unopened none).options.Usable := ⟨by decide, by decide⟩
  cases hfirst : firstLight? world.boards with
  | none =>
    obtain ⟨mid, hgoes⟩ := fromOpening_none calm' numbered few closed hfirst
    obtain ⟨after, hrun, hmode, -⟩ := tour_run calm.transfers idle (hstations hgoes)
    exact ⟨_, after, hrun, by simp [failure?], by simp, hmode⟩
  | some entry =>
    obtain ⟨b, i⟩ := entry
    by_cases hchip : b.chip = .am
    · obtain ⟨lines, t, mid, hgoes⟩ := fromOpening_am calm' numbered few closed usable hfirst hchip
      obtain ⟨after, hrun, hmode, -⟩ := tour_run calm.transfers idle (hstations hgoes)
      refine ⟨_, after, hrun, by simp [failure?, hchip], ?_, hmode⟩
      rintro _ _ ⟨⟩ hother
      exact absurd hchip hother
    · obtain ⟨walked, last, identity, t, mid, hgoes, hclosed, b', hb', hlast⟩ :=
        fromOpening_light calm' numbered few closed usable hfirst hchip
      obtain ⟨after, hrun, hmode, hafter⟩ := tour_run calm.transfers idle (hstations hgoes)
      cases hafter hclosed
      refine ⟨_, _, hrun, by simp [failure?, hchip], ?_, hmode⟩
      rintro _ _ ⟨⟩ -
      refine ⟨.print greeting :: (front ++ walked), last, identity, _, b', ?_, hb', hlast,
        readRows?_rows _⟩
      simp only [eepromLines, Eeprom.wordOf_toNat, shownSize, List.append_assoc, List.cons_append,
        List.nil_append]

/-- A tour of a light board with something in its EEPROM, behind a board of another kind. -/
theorem tour_runs_through_wordy : ∃ transcript after,
    Program.run bus tour (.ofBoards [.new vendorId ProductId.single 0x0200, wordy]) =
      (some transcript, after) ∧
    transcript.failure = none ∧ .print "eeprom @ 1: 0x7856" ∈ transcript.lines ∧
      ∀ b ∈ after.boards, b.mode = 0 := by
  let world := State.ofBoards [.new vendorId ProductId.single 0x0200, wordy]
  have calm : world.Calm := ⟨rfl, rfl, rfl, rfl⟩
  obtain ⟨transcript, after, hrun, hsuccess, hshown, hidle⟩ :=
    tour_runs_through calm (State.numbered_ofBoards _) (by decide) (by decide)
  obtain ⟨b, hfirst, hchip, hlow, hhigh⟩ : ∃ b, firstLight? world.boards = some (b, 1) ∧
      b.chip = .ft232r ∧ b.eeprom[2] = 0x56 ∧ b.eeprom[3] = 0x78 :=
    ⟨_, rfl, rfl, by decide +kernel, by decide +kernel⟩
  have hother : b.chip ≠ .am := by
    rw [hchip]
    decide
  obtain ⟨front, last, identity, dump, b', hlines, -⟩ := hshown b 1 hfirst hother
  refine ⟨transcript, after, hrun, hsuccess.mpr ⟨b, 1, hfirst, hother⟩, ?_, hidle⟩
  have hword : "eeprom @ 1: " ++ Hex.marked 4 (b.eeprom[2].toNat + 256 * b.eeprom[3].toNat) =
      "eeprom @ 1: 0x7856" := by
    rw [hlow, hhigh]
    rfl
  rw [hlines, hword]
  simp

end PinBridge.Tour
