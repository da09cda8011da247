import PinBridge.Proofs.Session.Lifecycle
import PinBridge.Proofs.Session.Writing
import PinBridge.Proofs.Simulator.Pins
import PinBridge.Proofs.Simulator.Stretch

/-!
# Pins read back what was written

While a session has a bit mode selected on its board and no transfer is made to fail, every byte
that it writes is recorded at the board, and the last one is what the pins that are driven show
(`pins_read_back`). The board is then as `Shows` says, and a write keeps this piece by piece
(`Shows.bulkWrite`, `sendAll_play`). The state of the stretch is `Drives`; of the turns that keep it
only those that write do anything to the pins (`Drives.step`).
-/

namespace PinBridge

open Simulator Command

/-- The bytes that a call is to write to the pins. -/
def Action.pattern : Action → List UInt8
  | writeData value => [value]
  | writePattern pattern => pattern
  | _ => []

/-- The bytes that were to be written. -/
def Moment.pattern : Moment → List UInt8
  | .turn t => t.action.pattern
  | arrival _ => []

/-- All bytes that were to be written, in order. -/
def patterns (history : List Moment) : List UInt8 := history.flatMap Moment.pattern

theorem patterns_snoc (history : List Moment) (moment : Moment) :
    patterns (history ++ [moment]) = patterns history ++ moment.pattern := by
  unfold patterns
  rw [List.flatMap_append, List.flatMap_singleton]

variable {s t : Session} {world after : State} {d : OpenDevice} {b b' b₀ : Board} {action : Action}
  {events : List Event} {i : Nat} {mask : UInt8} {mode : BitMode} {sent data : List UInt8}

/-! ### A board that drives its pins -/

/-- **A board that drives its pins** under a mask, with all the bytes that have been sent since:
they are on record, and the last of them is on the pins. -/
structure Shows (b₀ : Board) (mask : UInt8) (sent : List UInt8) (b : Board) : Prop where
  build : b.build = b₀.build
  driven : b.mode ≠ 0
  masked : b.mask = mask
  written : b.written = b₀.written ++ sent
  pins : ∀ last, sent.getLast? = some last → b.pins = (last &&& mask) ||| (b₀.inputs &&& ~~~mask)

namespace Shows

theorem of_outputs (h : Shows b₀ mask sent b) (hbuild : b'.build = b.build)
    (houtputs : b'.outputs = b.outputs) : Shows b₀ mask sent b' := by
  obtain ⟨hpins, hrest⟩ := Prod.mk.inj houtputs
  obtain ⟨hmask, hrest⟩ := Prod.mk.inj hrest
  obtain ⟨hmode, hwritten⟩ := Prod.mk.inj hrest
  exact ⟨hbuild.trans h.build, hmode ▸ h.driven, hmask.trans h.masked, hwritten.trans h.written,
    fun last hlast => hpins.trans (h.pins last hlast)⟩

/-- **The step at the board**: bytes that are written go to the record, and the last one of them to
the pins. -/
theorem bulkWrite (h : Shows b₀ mask sent b) (data : List UInt8) :
    Shows b₀ mask (sent ++ data) (b.bulkWrite data) := by
  unfold Board.bulkWrite
  cases hdata : data.getLast? with
  | none =>
    cases List.getLast?_eq_none_iff.mp hdata
    rw [List.append_nil, List.append_nil]
    exact h
  | some last =>
    simp only [if_neg h.driven]
    refine ⟨h.build, h.driven, h.masked, ?_, fun last' hlast => ?_⟩
    · rw [h.written, List.append_assoc]
    · rw [List.getLast?_append, hdata] at hlast
      cases hlast
      have hinputs : b.inputs = b₀.inputs := congrArg (fun build => build.inputs) h.build
      change (last &&& b.mask) ||| (b.inputs &&& ~~~b.mask) = _
      rw [h.masked, hinputs]

end Shows

/-! ### Writing and reading -/

/-- A piece is taken as a whole. -/
theorem reply_bulkWrite {handle : Handle} (endpoint : UInt8) (timeout : Nat)
    (hfail : world.failTransfer = none) (hb : world.boards[handle.id]? = some b)
    (piece : List UInt8) :
    ∃ after, bus.reply (.bulkWrite handle endpoint piece timeout) world =
        (some (.ok piece.length), after) ∧
      after.boards[handle.id]? = some (b.bulkWrite piece) ∧ after.failTransfer = none := by
  rw [State.reply_of_board rfl hfail hb]
  exact ⟨_, rfl, State.getElem?_change hb _, hfail⟩

/-- **Bytes that are sent in chunks** are all taken. -/
theorem sendAll_play {chunk : Nat} (d : OpenDevice) (timeout : Nat) (hchunk : 0 < chunk)
    (data : List UInt8) (count : Nat) (hfail : world.failTransfer = none)
    (hb : world.boards[d.handle.id]? = some b) (shows : Shows b₀ mask sent b) :
    ∃ events after b', (sendAll d chunk timeout data count).play bus world =
        (events, some (.ok (count + data.length)), after) ∧
      after.boards[d.handle.id]? = some b' ∧ Shows b₀ mask (sent ++ data) b' := by
  induction data, count using sendAll.induct d chunk timeout generalizing world b sent with
  | case1 count =>
    unfold sendAll
    exact ⟨[], world, b, rfl, hb, by rwa [List.append_nil]⟩
  | case2 byte rest count piece =>
    rename_i ih
    obtain ⟨more, hmore⟩ : ∃ more, piece.length = more + 1 := by
      have hpiece : piece.length = min chunk (rest.length + 1) := List.length_take
      exact ⟨piece.length - 1, by omega⟩
    have hdata : piece ++ rest.drop more = byte :: rest := by
      have hdrop : rest.drop more = (byte :: rest).drop piece.length := by
        rw [hmore, List.drop_succ_cons]
      rw [hdrop, List.length_take, ← List.drop_eq_drop_min, List.take_append_drop]
    have hlength : count + (byte :: rest).length =
        count + (more + 1) + (rest.drop more).length := by
      rw [← hdata, List.length_append, hmore]
      omega
    obtain ⟨mid, hreply, hmid, hcalm⟩ :=
      reply_bulkWrite d.channel.outEndpoint timeout hfail hb piece
    rw [hmore] at hreply
    obtain ⟨events, after, b', hplay, hb', shows'⟩ :=
      ih more hcalm hmid (shows.bulkWrite piece)
    refine ⟨.asked (.bulkWrite d.handle d.channel.outEndpoint piece timeout) (.ok (more + 1)) ::
      events, after, b', ?_, hb', ?_⟩
    · rw [sendAll, hlength]
      simp only [Program.play]
      rw [hreply]
      simp only [hplay]
      rfl
    · rwa [List.append_assoc, hdata] at shows'

/-- A pattern is written out if a bit mode is selected. -/
theorem writePattern_play (hs : s.link = .opened d) (hmode : d.mode ≠ .normal)
    (usable : s.options.Usable) (hfail : world.failTransfer = none)
    (hb : world.boards[d.handle.id]? = some b) (shows : Shows b₀ mask sent b)
    (pattern : List UInt8) :
    ∃ events after b', (writePattern pattern s).play bus world =
        (events, some (.ok pattern.length, s), after) ∧
      after.boards[d.handle.id]? = some b' ∧ Shows b₀ mask (sent ++ pattern) b' := by
  obtain ⟨events, after, b', hplay, hb', shows'⟩ :=
    sendAll_play d s.options.writeTimeout usable.2 pattern 0 hfail hb shows
  refine ⟨events, after, b', ?_, hb', shows'⟩
  rw [writePattern_of_driven hs hmode, Program.play_bind hplay]
  simp [Program.play]

/-- A single byte is written in the same way. -/
theorem writeData_play (hs : s.link = .opened d) (hmode : d.mode ≠ .normal)
    (usable : s.options.Usable) (hfail : world.failTransfer = none)
    (hb : world.boards[d.handle.id]? = some b) (shows : Shows b₀ mask sent b) (value : UInt8) :
    ∃ events after b', (writeData value s).play bus world = (events, some (.ok (), s), after) ∧
      after.boards[d.handle.id]? = some b' ∧ Shows b₀ mask (sent ++ [value]) b' := by
  obtain ⟨events, after, b', hplay, hb', shows'⟩ :=
    writePattern_play hs hmode usable hfail hb shows [value]
  refine ⟨events, after, b', ?_, hb', shows'⟩
  unfold writeData
  change ((writePattern [value] s).bind _).play bus world = _
  rw [Program.play_bind hplay]
  exact Prod.ext (List.append_nil _) rfl

/-- The pins are read if a bit mode is selected. -/
theorem readPins_play (hs : s.link = .opened d) (hmode : d.mode ≠ .normal)
    (hfail : world.failTransfer = none) (hb : world.boards[d.handle.id]? = some b) :
    ∃ events after, (readPins s).play bus world = (events, some (.ok b.pins, s), after) := by
  obtain ⟨options, link, staged⟩ := s
  cases hs
  unfold readPins requireDriven
  change ∃ events after,
    (((if d.mode = .normal then _ else _ : Command Unit) _).bind _).play bus world = _
  rw [if_neg hmode]
  change ∃ events after, (Program.call (.controlIn _ _ _ _ _ _) _).play bus world = _
  simp only [Program.play]
  rw [State.reply_of_board rfl hfail hb]
  exact ⟨_, _, rfl⟩

/-! ### Selecting a bit mode -/

/-- A bit mode that the chip has is selected. -/
theorem setBitMode_play (hs : s.link = .opened d) (hb : world.boards[d.handle.id]? = some b)
    (calm : world.failTransfer = none) {mode : BitMode} (hchip : d.chip.supports mode)
    (mask : UInt8) : ∃ events after, (setBitMode mask mode s).play bus world =
      (events, some (.ok (), { s with link := .opened { d with mode := .ofBitMode mode } }),
        after) := by
  obtain ⟨options, link, staged⟩ := s
  cases hs
  unfold setBitMode
  change ∃ events after, ((if d.chip.supports mode then _ else _ : Command Unit) _).play bus world =
    _
  rw [if_pos hchip]
  change ∃ events after, (Program.call (.controlOut _ _ _ _ _) _).play bus world = _
  simp only [Program.play]
  rw [State.reply_of_board rfl calm hb]
  exact ⟨_, _, rfl⟩

/-- One that it does not have is refused, and nothing is asked for. -/
theorem setBitMode_refused (hs : s.link = .opened d) {mode : BitMode}
    (hchip : d.chip.supports mode = false) (mask : UInt8) :
    setBitMode mask mode s = .done (.error (.invalidMode mode d.chip), s) := by
  obtain ⟨options, link, staged⟩ := s
  cases hs
  unfold setBitMode
  change (if d.chip.supports mode then _ else _ : Command Unit) _ = _
  rw [if_neg (by rw [hchip]; decide)]
  rfl

/-- **A bit mode that is selected**: no transfer was to fail, and the board drives its pins. -/
theorem setBitMode_shows (hs : s.link = .opened d) (hb : world.boards[d.handle.id]? = some b)
    (hmode : mode ≠ .reset)
    (driven : (setBitMode mask mode s).play bus world = (events, some (.ok (), t), after)) :
    t = { s with link := .opened { d with mode := .driven mode } } ∧ after.failTransfer = none ∧
      ∃ b', after.boards[d.handle.id]? = some b' ∧ Shows b mask [] b' := by
  have hc := setBitMode_course.mp (Program.course_of_play driven)
  rw [hs] at hc
  simp only at hc
  split at hc
  · rcases hc with ⟨e, -, he, -⟩ | ⟨a, rfl, -, rfl⟩
    · cases he
    · have hpin : PinMode.ofBitMode mode = .driven mode := by
        cases mode with
        | reset => exact absurd rfl hmode
        | _ => rfl
      obtain ⟨next, hreply, hnext⟩ := passes_of_play driven
      cases hnext
      refine ⟨by rw [hpin], ?_⟩
      cases hfail : world.failTransfer with
      | some failure =>
        rw [State.reply_of_injected rfl hfail] at hreply
        cases hreply
      | none =>
        rw [State.reply_of_board rfl hfail hb] at hreply
        cases hreply
        obtain ⟨hlow, hhigh⟩ := select_word mask mode.wire
        refine ⟨hfail, _, State.getElem?_change hb _, build_applied _ b, ?_, hlow,
          (List.append_nil _).symm, by simp⟩
        change ((mask.toUInt16 ||| mode.wire.toUInt16 <<< 8) >>> 8).toUInt8 ≠ 0
        rw [hhigh]
        cases mode with
        | reset => exact absurd rfl hmode
        | _ => decide
  · obtain ⟨-, he, -⟩ := hc
    cases he

/-- A request for a bit mode fails only if the chip does not have it; then nothing has happened. -/
theorem setBitMode_failed {e : Error} (hs : s.link = .opened d)
    (hb : world.boards[d.handle.id]? = some b) (hfail : world.failTransfer = none)
    (played : (setBitMode mask mode s).play bus world = (events, some (.error e, t), after)) :
    t = s ∧ after = world := by
  have hc := setBitMode_course.mp (Program.course_of_play played)
  have passes := passes_of_play played
  rw [hs] at hc
  simp only at hc
  split at hc
  · rcases hc with ⟨e', rfl, -, -⟩ | ⟨a, -, he, -⟩
    · obtain ⟨next, hreply, -⟩ := passes
      rw [State.reply_of_board rfl hfail hb] at hreply
      cases hreply
    · cases he
  · obtain ⟨rfl, -, rfl⟩ := hc
    exact ⟨rfl, passes⟩

/-- So it is with all calls that ask for one. -/
theorem selection_failed {e : Error} (hmask : action.mask?.isSome) (hs : s.link = .opened d)
    (hb : world.boards[d.handle.id]? = some b) (hfail : world.failTransfer = none)
    (played : (action.perform s).play bus world = (events, some (.error e, t), after)) :
    t = s ∧ after = world := by
  cases action with
  | setBitMode mask mode => exact setBitMode_failed hs hb hfail played
  | disableBitMode => exact setBitMode_failed hs hb hfail played
  | setBitModeByte mask value =>
    obtain ⟨options, link, staged⟩ := s
    cases hs
    change (setBitModeByte mask value _).play bus world = _ at played
    unfold setBitModeByte at played
    cases hvalue : BitMode.ofWire value with
    | error e' =>
      rw [hvalue] at played
      cases played
      exact ⟨rfl, rfl⟩
    | ok mode =>
      rw [hvalue] at played
      exact setBitMode_failed rfl hb hfail played
  | _ => cases hmask

/-! ### A stretch in a bit mode -/

/-- **The state of a stretch**: the session has a bit mode selected on its board, the board shows
what has been sent, and no transfer is to fail. -/
structure Drives (i : Nat) (b₀ : Board) (mask : UInt8) (sent : List UInt8) (s : Session)
    (world : State) : Prop where
  link : ∃ d, s.link = .opened d ∧ d.handle.id = i ∧ d.mode ≠ .normal
  board : ∃ b, world.boards[i]? = some b ∧ Shows b₀ mask sent b
  calm : world.failTransfer = none
  usable : s.options.Usable

namespace Drives

variable {result : Except Error action.Result}

/-- A call that neither writes nor selects a mode leaves the pins alone. -/
theorem quiet (h : Drives i b₀ mask sent s world)
    (played : (action.perform s).play bus world = (events, some (result, t), after))
    (opening : action.isOpening = false) (hmask : action.mask? = none) (close : action ≠ .close)
    (hdrive : ¬ action.May .drive) (htransmit : ¬ action.May .transmit)
    (calm : after.failTransfer = none) : Drives i b₀ mask sent t after := by
  obtain ⟨d, hs, hid, hmode⟩ := h.link
  obtain ⟨b, hb, shows⟩ := h.board
  obtain ⟨b', hb', hbuild, houtputs⟩ := perform_keeps_outputs hdrive htransmit played hb
  have hkept : t.drive = some (d.handle, d.chip, d.mode) :=
    ((perform_steady opening hmask close s).value_of_play (congrArg (·.2.1) played)).trans
      (Session.drive_of_opened hs)
  refine ⟨?_, ⟨b', hb', shows.of_outputs hbuild houtputs⟩, calm, perform_usable played h.usable⟩
  unfold Session.drive at hkept
  split at hkept
  · next d' ht =>
    obtain ⟨hhandle, hrest⟩ := Prod.mk.inj (Option.some.inj hkept)
    exact ⟨d', ht, hhandle ▸ hid, (Prod.mk.inj hrest).2 ▸ hmode⟩
  · cases hkept

/-- **The step**: a turn that neither selects a mode nor closes the board sends what it is to write.
-/
theorem step (h : Drives i b₀ mask sent s world)
    (played : (action.perform s).play bus world = (events, some (result, t), after))
    (selects : (Turn.mk action events result).selects = false)
    (closes : (Turn.mk action events result).closes = false) :
    Drives i b₀ mask (sent ++ action.pattern) t after := by
  have calm : after.failTransfer = none := failTransfer_of_play h.calm played
  obtain ⟨d, hs, rfl, hmode⟩ := h.link
  obtain ⟨b, hb, shows⟩ := h.board
  -- a call that does nothing at all
  have still : action.pattern = [] → t = s → after = world →
      Drives d.handle.id b₀ mask (sent ++ action.pattern) t after := by
    rintro hpattern rfl rfl
    rwa [hpattern, List.append_nil]
  cases action with
  | openIds | openFilter | openDevice =>
    obtain ⟨rfl, -, rfl⟩ := opening_refused rfl (Session.isOpen_iff.mpr ⟨d, hs⟩)
      (Program.course_of_play played)
    exact still rfl rfl (passes_of_play played)
  | setBitMode | setBitModeByte | disableBitMode =>
    cases result with
    | ok _ => cases selects
    | error e =>
      obtain ⟨ht, hafter⟩ := selection_failed rfl hs hb h.calm played
      exact still rfl ht hafter
  | close =>
    obtain ⟨events', after', hplay, -⟩ := shutDown_play s (List.getElem?_eq_some_iff.mp hb).1
    rw [← close_of_opened hs] at hplay
    cases hplay.symm.trans played
    cases closes
  | writeData value =>
    obtain ⟨events', after', b', hplay, hb', shows'⟩ :=
      writeData_play hs hmode h.usable h.calm hb shows value
    cases hplay.symm.trans played
    exact ⟨h.link, ⟨b', hb', shows'⟩, calm, h.usable⟩
  | writePattern pattern =>
    obtain ⟨events', after', b', hplay, hb', shows'⟩ :=
      writePattern_play hs hmode h.usable h.calm hb shows pattern
    cases hplay.symm.trans played
    exact ⟨h.link, ⟨b', hb', shows'⟩, calm, h.usable⟩
  | _ =>
    have hquiet := h.quiet played rfl rfl (by simp) id id calm
    change Drives d.handle.id b₀ mask (sent ++ []) t after
    rwa [List.append_nil]

/-- **The run**: a stretch in which no mode is selected and the board is not closed. -/
theorem stretch {history : List Moment} (h : Drives i b₀ mask sent s world)
    (stretch : Stretch i (fun w => w.failTransfer = none) s world history t after)
    (kept : ∀ turn, .turn turn ∈ history → turn.selects = false ∧ turn.closes = false) :
    Drives i b₀ mask (sent ++ patterns history) t after := by
  induction stretch with
  | nil =>
    change Drives i b₀ mask (sent ++ []) s world
    rwa [List.append_nil]
  | turn _ played own ih =>
    rw [patterns_snoc, ← List.append_assoc]
    obtain ⟨selects, closes⟩ := kept _ (List.mem_append_right _ List.mem_cons_self)
    exact (ih fun turn hmem => kept turn (List.mem_append_left _ hmem)).step played selects closes
  | arrival payload _ ih =>
    rw [patterns_snoc, ← List.append_assoc]
    have h := ih fun turn hmem => kept turn (List.mem_append_left _ hmem)
    obtain ⟨b, hb, shows⟩ := h.board
    change Drives i b₀ mask (_ ++ []) _ _
    rw [List.append_nil]
    refine ⟨h.link, ⟨_, (getElem?_queue _ _ _).trans (congrArg _ hb), ?_⟩, h.calm, h.usable⟩
    exact shows.of_outputs rfl rfl
  | elsewhere _ same calm ih =>
    have h := ih kept
    exact ⟨h.link, by rw [same]; exact h.board, calm, h.usable⟩

end Drives

/-- **Pins read back what was written.** A session selects a bit mode other than reset on its board,
under a mask, and then takes any turns but those that select a mode again or close the board, while
payloads may arrive and no transfer is made to fail. Then the record of what the board has received
has grown by all the bytes that were to be written, in order; and if there are any, reading the pins
yields the last one at the pins under the mask, and the input level at the others. -/
theorem pins_read_back {mid : State} {u : Session} {history : List Moment}
    (hs : s.link = .opened d) (usable : s.options.Usable)
    (hb : world.boards[d.handle.id]? = some b) (hmode : mode ≠ .reset)
    (driven : ((Action.setBitMode mask mode).perform s).play bus world =
      (events, some (.ok (), t), mid))
    (stretch : Stretch d.handle.id (fun w => w.failTransfer = none) t mid history u after)
    (kept : ∀ turn, .turn turn ∈ history → turn.selects = false ∧ turn.closes = false) :
    (∃ b', after.boards[d.handle.id]? = some b' ∧ b'.written = b.written ++ patterns history) ∧
    ∀ last, (patterns history).getLast? = some last → ∃ events final,
      (Action.readPins.perform u).play bus after =
        (events, some (.ok ((last &&& mask) ||| (b.inputs &&& ~~~mask)), u), final) := by
  obtain ⟨ht, calm, b₁, hb₁, shows⟩ := setBitMode_shows hs hb hmode driven
  have start : Drives d.handle.id b mask [] t mid :=
    ⟨⟨{ d with mode := .driven mode }, by rw [ht], rfl, by simp⟩, ⟨b₁, hb₁, shows⟩, calm,
      ht ▸ usable⟩
  have h := start.stretch stretch kept
  rw [List.nil_append] at h
  obtain ⟨d', hu, hid, hmode'⟩ := h.link
  obtain ⟨b', hb', shows'⟩ := h.board
  refine ⟨⟨b', hb', shows'.written⟩, fun last hlast => ?_⟩
  rw [← shows'.pins last hlast]
  exact readPins_play hu hmode' h.calm (hid ▸ hb')

/-- Two bytes that are written to the light board, four of its pins being driven. -/
theorem pins_read_back_light : ∃ after events final,
    (Action.readPins.perform ⟨.default, .opened (Sample.lightDevice (.driven .bitBang)), none⟩).play
        bus after =
      (events, some (.ok 0x05, ⟨.default, .opened (Sample.lightDevice (.driven .bitBang)), none⟩),
        final) := by
  obtain ⟨b, hb, hinputs⟩ : ∃ b, Sample.lightOpened.2.2.boards[0]? = some b ∧ b.inputs = 0 :=
    ⟨_, rfl, rfl⟩
  have driven : ((Action.setBitMode 0x0F .bitBang).perform
      ⟨.default, .opened (Sample.lightDevice .normal), none⟩).play bus Sample.lightOpened.2.2 =
        (Sample.lightDriven.1,
          some (.ok (), ⟨.default, .opened (Sample.lightDevice (.driven .bitBang)), none⟩),
          Sample.lightDriven.2.2) := rfl
  have usable : Options.default.Usable := ⟨by decide, by decide⟩
  obtain ⟨-, calm, b₁, hb₁, shows⟩ := setBitMode_shows rfl hb (by decide) driven
  obtain ⟨events, after, b', hwrite, -⟩ :=
    writePattern_play (s := ⟨.default, .opened (Sample.lightDevice (.driven .bitBang)), none⟩)
      rfl (by decide) usable calm hb₁ shows [0xF0, 0xA5]
  have stretch : Stretch 0 (fun w => w.failTransfer = none)
      ⟨.default, .opened (Sample.lightDevice (.driven .bitBang)), none⟩ Sample.lightDriven.2.2
      ([] ++ [.turn ⟨.writePattern [0xF0, 0xA5], events, .ok 2⟩])
      ⟨.default, .opened (Sample.lightDevice (.driven .bitBang)), none⟩ after :=
    Stretch.nil.turn hwrite (by rintro d ⟨⟩; rfl)
  obtain ⟨-, hread⟩ := pins_read_back rfl usable hb (by decide) driven stretch (by
    intro turn hmem
    cases List.mem_singleton.mp hmem
    exact ⟨rfl, rfl⟩)
  obtain ⟨events, final, hplay⟩ := hread 0xA5 rfl
  rw [hinputs] at hplay
  exact ⟨after, events, final, hplay⟩

end PinBridge
