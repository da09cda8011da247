import PinBridge.Proofs.Simulator.Lookup
import PinBridge.Proofs.Simulator.Pins

/-!
# Opening the board that a filter describes

A filtered open looks a device up and then opens it by its place on the bus, which must be the board
that has been found. On a bus without failures whose boards are numbered as they are added it is:
the session holds that board (`Session.HoldsBoard`), and no other board has received anything.

`openDevice_run` opens the board of an enumerated descriptor; that nothing fails it is read off the
course that opens (`Opening.opened`), since the bus gives all the replies of that course.
-/

namespace PinBridge

open Simulator

/-- What a board has received when it has been opened: a reset, which empties what waits to be read,
and the rate that a device starts with. -/
def Simulator.Board.setUp (b : Board) (index : UInt16) (setting : Baud.Setting) : Board :=
  { b with
    requests := b.requests ++
      [⟨Request.reset, Request.everything, index⟩,
        ⟨Request.setBaudRate, setting.value, setting.index⟩]
    queue := [] }

/-- **A session that holds a board** and tells its IDs, its chip and its packet size. -/
structure Session.HoldsBoard (s : Session) (b : Board) (i : Nat) : Prop where
  handle : ∃ d, s.link = .opened d ∧ d.handle = b.handle i
  ids : Action.ids.perform s = .done (.ok (b.descriptor.vendor, b.descriptor.product), s)
  chip : Action.chip.perform s = .done (.ok (Chip.ofRelease b.descriptor.release b.hasSerial), s)
  packetSize : Action.packetSize.perform s = .done (.ok (b.packetSize.getD
    (Chip.ofRelease b.descriptor.release b.hasSerial).packetSize), s)

section

variable {world : State} {s : Session} {b : Board} {i : Nat}

/-- A session that has just opened a board holds it. -/
theorem Session.holdsBoard_opened (s : Session) (b : Board) (i : Nat) (channel : Channel) :
    ({ s with
      link := .opened { OpenDevice.fresh b.descriptor (b.handle i) channel with
        baudRate := initialRate }
      staged := none } : Session).HoldsBoard b i where
  handle := ⟨_, rfl, rfl⟩
  ids := rfl
  chip := rfl
  packetSize := rfl

/-- A reset empties what waits to be read. -/
theorem reply_reset {handle : Handle} (calm : world.failTransfer = none)
    (hb : world.boards[handle.id]? = some b) (index : UInt16) (timeout : Nat) :
    bus.reply (.controlOut handle Request.reset Request.everything index timeout) world =
      (some (.ok ()), (world.count (.controlOut handle Request.reset Request.everything index
        timeout)).change handle.id fun _ =>
          { b with
            requests := b.requests ++ [⟨Request.reset, Request.everything, index⟩]
            queue := [] }) :=
  State.reply_of_board rfl calm hb

/-- A rate is recorded. -/
theorem reply_setBaudRate {handle : Handle} (calm : world.failTransfer = none)
    (hb : world.boards[handle.id]? = some b) (value index : UInt16) (timeout : Nat) :
    bus.reply (.controlOut handle Request.setBaudRate value index timeout) world =
      (some (.ok ()), (world.count (.controlOut handle Request.setBaudRate value index
        timeout)).change handle.id fun _ =>
          { b with requests := b.requests ++ [⟨Request.setBaudRate, value, index⟩] }) :=
  State.reply_of_board rfl calm hb

/-- **A board that is reset and set to a rate.** -/
theorem passes_setUp {handle : Handle} (calm : world.failTransfer = none)
    (hb : world.boards[handle.id]? = some b) (index : UInt16) (setting : Baud.Setting)
    (timeout : Nat) : ∃ after,
      Passes world
        [.asked (.controlOut handle Request.reset Request.everything index timeout) (.ok ()),
          .asked (.controlOut handle Request.setBaudRate setting.value setting.index timeout)
            (.ok ())] after ∧
      after.boards = world.boards.set handle.id (b.setUp index setting) := by
  let reset : Call := .controlOut handle Request.reset Request.everything index timeout
  let first : Board :=
    { b with
      requests := b.requests ++ [⟨Request.reset, Request.everything, index⟩]
      queue := [] }
  let between := (world.count reset).change handle.id fun _ => first
  have hreset : bus.reply reset world = (some (.ok ()), between) :=
    reply_reset calm hb index timeout
  have hfirst : between.boards[handle.id]? = some first :=
    State.getElem?_change (s := world.count reset) hb _
  have hcalm : between.failTransfer = none := calm
  have hrate := reply_setBaudRate hcalm hfirst setting.value setting.index timeout
  refine ⟨_, ⟨_, hreset, _, hrate, rfl⟩, ?_⟩
  have : Inhabited Board := ⟨b⟩
  show (world.boards.modify handle.id fun _ => first).modify handle.id _ = _
  rw [List.modify_eq_set, List.modify_eq_set, List.set_set]
  unfold Board.setUp
  rw [List.append_assoc]
  rfl

variable (calm : world.Calm) (numbered : world.Numbered) (few : world.boards.length ≤ 255)
include calm numbered few

/-- The bus hands out the board of an enumerated descriptor. -/
theorem reply_openDevice (hb : world.boards[i]? = some b) (interface : Interface) :
    bus.reply (.openDevice b.descriptor interface) world =
      (some (.ok (b.handle i)), world.count (.openDevice b.descriptor interface)) := by
  have hopen : ∀ s : State, s.boards = world.boards → s.failOpens = world.failOpens →
      s.openDevice b.descriptor = (.ok (b.handle i), s) := by
    intro s hboards hfail
    unfold State.openDevice
    rw [State.position_of_enumerated numbered few hb hboards, hfail, hboards]
    simp only [calm.opens, hb]
    rfl
  exact congrArg (Prod.map some id) (hopen (world.count _) rfl rfl)

/-- **The board of an enumerated descriptor is opened**: the session holds it, and it has received
the two requests. -/
theorem openDevice_run (closed : s.isOpen = false) (hb : world.boards[i]? = some b) :
    ∃ t after setting,
      (Command.openDevice b.descriptor s).run bus world = (some (.ok (), t), after) ∧
      t.HoldsBoard b i ∧
      Baud.Setting.ofRate? (Chip.ofRelease b.descriptor.release b.hasSerial)
        s.options.interface.channel.index initialRate.toNat = some setting ∧
      after.boards = world.boards.set i (b.setUp s.options.interface.channel.index setting) := by
  obtain ⟨setting, hset, -⟩ := exists_initialSetting
    (Chip.ofRelease b.descriptor.release b.hasSerial) s.options.interface.channel.index
  have course := openDevice_course.mpr
    (@Opening.opened b.descriptor s (b.handle i) setting closed hset)
  have hopened := reply_openDevice calm numbered few hb s.options.interface
  have hcalm : (world.count (.openDevice b.descriptor s.options.interface)).failTransfer = none :=
    calm.transfers
  have hplace : (world.count (.openDevice b.descriptor s.options.interface)).boards[
      (b.handle i).id]? = some b := hb
  obtain ⟨after, hpasses, hboards⟩ := passes_setUp hcalm hplace s.options.interface.channel.index
    setting s.options.writeTimeout
  have hplay := play_of_course course ⟨_, hopened, hpasses⟩
  refine ⟨_, after, setting, ?_, s.holdsBoard_opened b i s.options.interface.channel, hset, hboards⟩
  rw [← Program.play_run, hplay]

/-! ### Opening by a filter -/

omit calm numbered few in
/-- In a session that is not open a filtered open looks the device up and goes on from there. -/
theorem openFilter_run (closed : s.isOpen = false) (f : Filter) {r : Except Error Descriptor}
    (hfound : Command.Learns world (Command.findDevice f) r) : ∃ calls,
      (Command.openFilter f s).run bus world =
        (match r with
        | .ok d => (Command.openDevice d s).run bus { world with calls }
        | .error e => (some (.error e, s), { world with calls })) := by
  obtain ⟨calls, hrun⟩ := hfound s world.calls
  refine ⟨calls, ?_⟩
  unfold Command.openFilter
  rw [Command.requireNotOpen_then, closed, if_neg Bool.false_ne_true]
  show ((Command.findDevice f s).bind _).run bus world = _
  rw [Program.run_bind]
  change (Command.findDevice f s).run bus world = _ at hrun
  rw [hrun]
  cases r <;> rfl

/-- A filter with a board at its index opens that board. -/
theorem openFilter_run_of_some (closed : s.isOpen = false) (f : Filter)
    (hentry : (described f world.boards)[f.index]? = some (b, i)) :
    ∃ t after setting,
      (Command.openFilter f s).run bus world = (some (.ok (), t), after) ∧
      t.HoldsBoard b i ∧
      Baud.Setting.ofRate? (Chip.ofRelease b.descriptor.release b.hasSerial)
        s.options.interface.channel.index initialRate.toNat = some setting ∧
      after.boards = world.boards.set i (b.setUp s.options.interface.channel.index setting) := by
  have hb : world.boards[i]? = some b :=
    getElem?_of_mem_zipIdx (List.mem_filter.mp (List.mem_of_getElem? hentry)).1
  have hfound := Command.findDevice_learns calm numbered few f
  rw [hentry] at hfound
  obtain ⟨calls, hrun⟩ := openFilter_run closed f hfound
  have hcalm : State.Calm { world with calls } :=
    ⟨calm.opens, calm.lists, calm.strings, calm.transfers⟩
  rw [hrun]
  exact openDevice_run hcalm numbered few closed hb

/-- A filter without one finds no device. -/
theorem openFilter_run_of_none (closed : s.isOpen = false) (f : Filter)
    (hentry : (described f world.boards)[f.index]? = none) : ∃ calls,
      (Command.openFilter f s).run bus world =
        (some (.error .deviceNotFound, s), { world with calls }) := by
  have hfound := Command.findDevice_learns calm numbered few f
  rw [hentry] at hfound
  exact openFilter_run closed f hfound

end

/-- **A filtered open reaches the board that it names.** A bus has at most 255 boards, numbered as
they are when they are added, and no failure is in store. Then any session that is not open opens a
device by a filter just where more boards than the index of the filter have the IDs and, as they
tell themselves, the strings asked for. The board at the index among these is opened: the session
tells its IDs, its chip and its packet size, the board has received a reset and then the request for
9600, and no other board has received anything. Where there is none, neither session nor boards
change. And of the devices as they are enumerated each tells the strings of the board at its
position. -/
theorem filtered_open_reaches {world : State} {s : Session} (calm : world.Calm)
    (numbered : world.Numbered) (few : world.boards.length ≤ 255) (closed : s.isOpen = false)
    (f : Filter) :
    ((∃ t after, ((Action.openFilter f).perform s).run bus world = (some (.ok (), t), after)) ↔
      f.index < (described f world.boards).length) ∧
    (∀ b i, (described f world.boards)[f.index]? = some (b, i) → ∃ t after setting,
      ((Action.openFilter f).perform s).run bus world = (some (.ok (), t), after) ∧
      t.HoldsBoard b i ∧
      Baud.Setting.ofRate? (Chip.ofRelease b.descriptor.release b.hasSerial)
        s.options.interface.channel.index 9600 = some setting ∧
      after.boards = world.boards.set i
        { b with
          requests := b.requests ++
            [⟨Request.reset, Request.everything, s.options.interface.channel.index⟩,
              ⟨Request.setBaudRate, setting.value, setting.index⟩]
          queue := [] }) ∧
    ((described f world.boards).length ≤ f.index → ∃ after,
      ((Action.openFilter f).perform s).run bus world =
        (some (.error .deviceNotFound, s), after) ∧ after.boards = world.boards) ∧
    ∃ enumerated after, bus.reply .list world = (some (.ok enumerated), after) ∧
      enumerated.length = world.boards.length ∧
      ∀ (i : Nat) (d : Descriptor), enumerated[i]? = some d →
        ∃ b : Board, world.boards[i]? = some b ∧ ∀ t : Session, ∃ after,
          ((Action.getStrings d).perform t).run bus world = (some (.ok b.strings, t), after) ∧
          after.boards = world.boards := by
  refine ⟨⟨?_, ?_⟩, ?_, ?_, world.boards.map (·.descriptor), world.count .list,
    State.reply_list calm.lists, List.length_map _, ?_⟩
  · rintro ⟨t, after, hrun⟩
    refine Nat.lt_of_not_le fun hle => ?_
    obtain ⟨calls, hnone⟩ := openFilter_run_of_none calm numbered few closed f
      (List.getElem?_eq_none hle)
    cases hrun.symm.trans hnone
  · intro hlt
    obtain ⟨t, after, -, hrun, -⟩ := openFilter_run_of_some calm numbered few closed f
      (List.getElem?_eq_getElem hlt)
    exact ⟨t, after, hrun⟩
  · intro b i hentry
    exact openFilter_run_of_some calm numbered few closed f hentry
  · intro hle
    obtain ⟨calls, hnone⟩ := openFilter_run_of_none calm numbered few closed f
      (List.getElem?_eq_none hle)
    exact ⟨_, hnone, rfl⟩
  · intro i d hd
    rw [List.getElem?_map] at hd
    obtain ⟨b, hb, rfl⟩ := Option.map_eq_some_iff.mp hd
    refine ⟨b, hb, fun t => ?_⟩
    obtain ⟨calls, hrun⟩ := Command.getStrings_learns calm numbered few hb t world.calls
    exact ⟨_, hrun, rfl⟩

namespace Sample

/-- Two light boards that differ in their serial numbers only, as they tell them. -/
def twins : State :=
  .ofBoards
    [.withStrings .light "BriteBlox" "Light" "A", .withStrings .light "BriteBlox" "Light" "B"]

/-- The one with the serial number B. -/
def serialB : Filter := { Filter.ofIds vendorId ProductId.board with serial := some "B" }

end Sample

/-- Of two boards with the same IDs, the second is opened by its serial number. -/
theorem filtered_open_reaches_twins : ∃ t after b,
    ((Action.openFilter Sample.serialB).perform ⟨.default, .closed, none⟩).run bus Sample.twins =
      (some (.ok (), t), after) ∧ t.HoldsBoard b 1 := by
  have calm : Sample.twins.Calm := ⟨rfl, rfl, rfl, rfl⟩
  obtain ⟨-, hopens, -⟩ := filtered_open_reaches calm (State.numbered_ofBoards _) (by decide)
    (s := ⟨.default, .closed, none⟩) rfl Sample.serialB
  have hentry : ∃ b, (described Sample.serialB Sample.twins.boards)[Sample.serialB.index]? =
      some (b, 1) := ⟨_, rfl⟩
  obtain ⟨b, hb⟩ := hentry
  obtain ⟨t, after, -, hrun, hholds, -⟩ := hopens b 1 hb
  exact ⟨t, after, b, hrun, hholds⟩

end PinBridge
