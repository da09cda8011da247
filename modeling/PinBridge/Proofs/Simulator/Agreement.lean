import Mathlib.Tactic.SplitIfs
import PinBridge.Proofs.Session.Run
import PinBridge.Proofs.Simulator.Bus

/-!
# The pins on both sides

A session takes the pins of its device for what it has asked the chip to do with them, and the
simulated board at the other end does what it has been asked to. `Agrees` says that the two are the
same: the board that the session holds has the mode selected that the session believes, with the
mask of the last call to have selected one, and all other boards have none.

Only two requests change a mode, that of the calls which select one (`Selection`) and that of
letting go of a device (`shutDown_play`). A turn keeps the agreement (`Agrees.turn`), where the
latter is not made to fail, and so does a call that crashes (`selected_of_crash`).
-/

namespace PinBridge

open Simulator Command

/-- The call has selected a bit mode. -/
def Turn.selects (turn : Turn) : Bool := turn.action.mask?.isSome && turn.succeeded

/-- The mask of the last call to have selected a bit mode. -/
def lastMask? (history : List Turn) : Option UInt8 :=
  (last? Turn.selects history).bind fun turn => turn.action.mask?

/-- **No failure is in store** for the request with which a session that drives the pins of its
device lets go of it. -/
def Session.Spared (s : Session) (world : State) : Prop :=
  ∀ d, s.link = .opened d → d.mode ≠ .normal → world.failTransfer = none

/-! ### Agreement -/

/-- What a board has selected while a session takes its pins to be in a mode. -/
def Obeys (chip : Chip) (mask? : Option UInt8) (selected : UInt8 × UInt8) : PinMode → Prop
  | .normal => selected.1 = 0
  | .driven mode =>
    selected.1 = mode.wire ∧ mode.wire ≠ 0 ∧ chip.supports mode ∧ mask? = some selected.2

/-- **Both sides agree**: the board that is held does what is believed of it, and no other board is
in a bit mode. -/
structure Agrees (mask? : Option UInt8) (drive : Option (Handle × Chip × PinMode))
    (selected : List (UInt8 × UInt8)) : Prop where
  held : ∀ handle chip mode, drive = some (handle, chip, mode) →
    ∃ pins, selected[handle.id]? = some pins ∧ Obeys chip mask? pins mode
  idle : ∀ i pins, selected[i]? = some pins →
    (∀ handle chip mode, drive = some (handle, chip, mode) → handle.id ≠ i) → pins.1 = 0

variable {mask? : Option UInt8} {selected : List (UInt8 × UInt8)} {handle : Handle} {chip : Chip}

/-- While nothing is held, to agree is to have no board in a bit mode. -/
theorem agrees_none : Agrees mask? none selected ↔ ∀ pins ∈ selected, pins.1 = 0 := by
  constructor
  · intro h pins hmem
    obtain ⟨i, hi⟩ := List.mem_iff_getElem?.mp hmem
    exact h.idle i pins hi (by simp)
  · intro h
    exact ⟨by simp, fun i pins hi _ => h pins (List.mem_of_getElem? hi)⟩

namespace Agrees

/-- A device that has just been opened is in no bit mode. -/
theorem fresh (h : Agrees mask? none selected) (hlt : handle.id < selected.length) :
    Agrees mask? (some (handle, chip, .normal)) selected := by
  have hidle := agrees_none.mp h
  constructor
  · intro handle' chip' mode hdrive
    cases hdrive
    exact ⟨_, List.getElem?_eq_getElem hlt, hidle _ (List.getElem_mem hlt)⟩
  · exact fun i pins hi _ => hidle pins (List.mem_of_getElem? hi)

/-- A mode that is selected on the board of the device is what the session takes it to be in. -/
theorem select {mode₀ : PinMode} {mode : BitMode} {mask : UInt8}
    (h : Agrees mask? (some (handle, chip, mode₀)) selected) (hchip : chip.supports mode) :
    Agrees (some mask) (some (handle, chip, .ofBitMode mode))
      (selected.set handle.id (mode.wire, mask)) := by
  constructor
  · rintro handle' chip' mode' hdrive
    cases hdrive
    obtain ⟨pins, hpins, -⟩ := h.held _ _ _ rfl
    have hlt : handle.id < selected.length := (List.getElem?_eq_some_iff.mp hpins).1
    refine ⟨_, List.getElem?_set_self hlt, ?_⟩
    cases mode with
    | reset => rfl
    | _ => exact ⟨rfl, by decide, hchip, rfl⟩
  · intro i pins hi hother
    have hne : handle.id ≠ i := hother _ _ _ rfl
    rw [List.getElem?_set_ne hne] at hi
    refine h.idle i pins hi fun handle' chip' mode' hdrive => ?_
    cases hdrive
    exact hne

/-- A device that is let go of is in no bit mode if its pins have been taken back where they were
driven. -/
theorem letGo {mode : PinMode} {after : List (UInt8 × UInt8)}
    (h : Agrees mask? (some (handle, chip, mode)) selected)
    (hafter : after = if mode = .normal then selected else selected.set handle.id (0, 0)) :
    Agrees mask? none after := by
  subst hafter
  refine agrees_none.mpr fun pins hmem => ?_
  obtain ⟨i, hi⟩ := List.mem_iff_getElem?.mp hmem
  by_cases hi' : handle.id = i
  · subst hi'
    obtain ⟨before, hbefore, hobeys⟩ := h.held _ _ _ rfl
    cases mode with
    | normal =>
      cases hbefore.symm.trans hi
      exact hobeys
    | driven mode =>
      have hlt : handle.id < selected.length := (List.getElem?_eq_some_iff.mp hbefore).1
      rw [if_neg (by simp), List.getElem?_set_self hlt] at hi
      cases hi
      rfl
  · have hsame : selected[i]? = some pins := by
      split_ifs at hi
      · exact hi
      · rwa [List.getElem?_set_ne hi'] at hi
    refine h.idle i pins hsame fun handle' chip' mode' hdrive => ?_
    cases hdrive
    exact hi'

end Agrees

/-! ### Requests for a bit mode -/

/-- A request for a bit mode has the mask in its low byte and the mode in its high one. -/
theorem select_word (mask wire : UInt8) :
    (mask.toUInt16 ||| wire.toUInt16 <<< 8).toUInt8 = mask ∧
      ((mask.toUInt16 ||| wire.toUInt16 <<< 8) >>> 8).toUInt8 = wire := by
  have hmask := mask.toNat_lt
  have hwire := wire.toNat_lt
  have hhigh : (wire.toUInt16 <<< 8).toNat = wire.toNat <<< 8 := by
    have hlt : wire.toNat <<< 8 < 0x10000 := by
      rw [Nat.shiftLeft_eq]
      omega
    rw [UInt16.toNat_shiftLeft, UInt8.toNat_toUInt16]
    exact Nat.mod_eq_of_lt hlt
  have hword : (mask.toUInt16 ||| wire.toUInt16 <<< 8).toNat = wire.toNat * 0x100 + mask.toNat := by
    rw [UInt16.toNat_or, hhigh, UInt8.toNat_toUInt16, Nat.or_comm,
      ← Nat.shiftLeft_add_eq_or_of_lt hmask, Nat.shiftLeft_eq]
  constructor
  · rw [← UInt8.toNat_inj, UInt16.toNat_toUInt8, hword]
    omega
  · rw [← UInt8.toNat_inj, UInt16.toNat_toUInt8, UInt16.toNat_shiftRight, hword,
      Nat.shiftRight_eq_div_pow]
    change (wire.toNat * 0x100 + mask.toNat) / 2 ^ 8 % 2 ^ 8 = wire.toNat
    omega

variable {s t : Session} {world after : State} {d : OpenDevice} {mask : UInt8}

/-- **What comes of a call that selects a bit mode**: it fails and nothing has changed, or the chip
has the mode, the board has selected it, and the session knows. -/
inductive Selection (mask : UInt8) (s : Session) (world : State) {α : Type} :
    Except Error α → Session → State → Prop
  | failed {e : Error} {after : State} (same : after.selected = world.selected) :
      Selection mask s world (.error e) s after
  | done {a : α} {d : OpenDevice} {mode : BitMode} {after : State} (link : s.link = .opened d)
      (chip : d.chip.supports mode)
      (set : after.selected = world.selected.set d.handle.id (mode.wire, mask)) :
      Selection mask s world (.ok a) { s with link := .opened { d with mode := .ofBitMode mode } }
        after

/-- An operation of which nothing but a selection can come on the simulated bus, whatever board the
session holds. -/
def SelectsMode (mask : UInt8) {α : Type} (m : Command α) : Prop :=
  ∀ s world, (∀ d, s.link = .opened d → d.handle.id < world.boards.length) →
    ∃ events r t after, (m s).play bus world = (events, some (r, t), after) ∧
      Selection mask s world r t after

theorem setBitMode_selectsMode (mask : UInt8) (mode : BitMode) :
    SelectsMode mask (setBitMode mask mode) := by
  intro s world hheld
  obtain ⟨hlow, hhigh⟩ := select_word mask mode.wire
  obtain ⟨options, link, staged⟩ := s
  cases link with
  | unopened | closed => exact ⟨_, _, _, _, rfl, .failed rfl⟩
  | opened d =>
    unfold setBitMode
    change ∃ events r t after,
      ((if d.chip.supports mode then _ else _ : Command Unit) _).play bus world = _ ∧ _
    by_cases hchip : d.chip.supports mode
    · rw [if_pos hchip]
      change ∃ events r t after, (Program.call (.controlOut _ _ _ _ _) _).play bus world = _ ∧ _
      simp only [Program.play]
      cases hfail : world.failTransfer with
      | some failure =>
        obtain ⟨after, hreply, hsame⟩ := State.reply_injected hfail
        rw [hreply]
        exact ⟨_, _, _, _, rfl, .failed hsame⟩
      | none =>
        obtain ⟨after, hreply, hset⟩ := State.reply_setBitMode hfail (hheld d rfl)
        rw [hreply]
        rw [hlow, hhigh] at hset
        exact ⟨_, _, _, _, rfl, .done rfl hchip hset⟩
    · rw [if_neg hchip]
      exact ⟨_, _, _, _, rfl, .failed rfl⟩

theorem setBitModeByte_selectsMode (mask value : UInt8) :
    SelectsMode mask (setBitModeByte mask value) := by
  intro s world hheld
  obtain ⟨options, link, staged⟩ := s
  cases link with
  | unopened | closed => exact ⟨_, _, _, _, rfl, .failed rfl⟩
  | opened d =>
    unfold setBitModeByte
    cases BitMode.ofWire value with
    | error e => exact ⟨_, _, _, _, rfl, .failed rfl⟩
    | ok mode => exact setBitMode_selectsMode mask mode _ world hheld

/-- All calls that ask for a bit mode do so. -/
theorem perform_selectsMode {action : Action} (hmask : action.mask? = some mask) :
    SelectsMode mask action.perform := by
  cases action with
  | setBitMode mask mode =>
    cases hmask
    exact setBitMode_selectsMode _ mode
  | setBitModeByte mask value =>
    cases hmask
    exact setBitModeByte_selectsMode _ value
  | disableBitMode =>
    cases hmask
    exact setBitMode_selectsMode 0 .reset
  | _ => cases hmask

/-- **Letting go of a device** on the simulated bus: nothing fails it, and pins that were driven are
taken back unless the request for it is made to fail. -/
theorem shutDown_play (s : Session) (hlt : d.handle.id < world.boards.length) :
    ∃ events after, (shutDown d s).play bus world =
        (events, some (.ok (), { s with link := .closed, staged := none }), after) ∧
      ((d.mode ≠ .normal → world.failTransfer = none) →
        after.selected =
          if d.mode = .normal then world.selected else world.selected.set d.handle.id (0, 0)) := by
  unfold shutDown
  by_cases hmode : d.mode = .normal
  · simp only [if_pos hmode]
    exact ⟨_, _, rfl, fun _ => rfl⟩
  · simp only [if_neg hmode]
    change ∃ events after, (Program.call (.controlOut _ _ _ _ _) _).play bus world = _ ∧ _
    simp only [Program.play]
    cases hfail : world.failTransfer with
    | some failure =>
      obtain ⟨after, hreply, -⟩ := State.reply_injected hfail
      rw [hreply]
      refine ⟨_, _, rfl, fun hspared => ?_⟩
      cases hspared hmode
    | none =>
      obtain ⟨after, hreply, hset⟩ := State.reply_setBitMode hfail hlt
      rw [hreply]
      exact ⟨_, _, rfl, fun _ => hset⟩

/-! ### What a turn does to the agreement -/

theorem lastMask?_snoc {history : List Turn} {turn : Turn} :
    lastMask? (history ++ [turn]) =
      if turn.selects then turn.action.mask? else lastMask? history := by
  unfold lastMask?
  rw [last?_snoc]
  split_ifs <;> rfl

/-- The device that a session holds is on the bus. -/
theorem Agrees.handle_lt_length (h : Agrees mask? s.drive world.selected)
    (hs : s.link = .opened d) : d.handle.id < world.boards.length := by
  obtain ⟨pins, hpins, -⟩ := h.held _ _ _ (Session.drive_of_opened hs)
  rw [← State.length_selected]
  exact (List.getElem?_eq_some_iff.mp hpins).1

/-- No call but those that select a bit mode or let go of a device asks for one. -/
theorem perform_asks {action : Action} (hmask : action.mask? = none) (close : action ≠ .close)
    (s : Session) : (action.perform s).Asks fun c => c.selectsMode = false := by
  cases opening : action.isOpening with
  | true => exact (perform_orderly_of_opening opening s).asks
  | false => exact (perform_steady opening hmask close s).asks

/-- A handle that has come up on the simulated bus is that of a board. -/
theorem handle_lt_length_of_mem_play {α : Type} {p : Program α} {event : Event}
    (hmem : event ∈ (p.play bus world).1) (hhandle : event.handle? = some handle) :
    handle.id < world.boards.length := by
  unfold Event.handle? at hhandle
  split at hhandle
  · cases hhandle
    obtain ⟨before, after, hlength, hreply⟩ :=
      Program.reply_of_mem_play (bus_keeps_length world.boards.length) rfl hmem
    rw [← hlength]
    exact State.handle_lt_length hreply
  · cases hhandle

/-- Opening a device on the simulated bus leaves the session as it was, or at a board that is there.
-/
theorem drive_of_opening {action : Action} {events : List Event}
    {result : Except Error action.Result} (opening : action.isOpening)
    (played : (action.perform s).play bus world = (events, some (result, t), after)) :
    t.drive = s.drive ∨ s.drive = none ∧ ∃ handle chip,
      t.drive = some (handle, chip, .normal) ∧ handle.id < world.boards.length := by
  have hopened : Opened s events result t := by
    have course := Program.course_of_play played
    cases action with
    | openIds vendor product => exact openIds_opens vendor product course
    | openFilter filter => exact openFilter_opens filter course
    | openDevice device => exact openDevice_opens device course
    | _ => cases opening
  rcases hopened.2 with ⟨e, -, rfl⟩ | ⟨hclosed, a, device, handle, -, hfound, rfl⟩
  · exact .inl rfl
  · refine .inr ⟨Session.drive_of_not_opened fun d hs => ?_, handle, _, rfl, ?_⟩
    · unfold Session.isOpen Session.status at hclosed
      rw [hs] at hclosed
      cases hclosed
    · obtain ⟨event, hmem, hhandle⟩ := List.exists_of_findSome?_eq_some hfound
      exact handle_lt_length_of_mem_play (by rwa [played]) hhandle

/-- A device that is let go of on the simulated bus leaves no board in a bit mode. -/
theorem Agrees.shutDown (h : Agrees mask? s.drive world.selected) (hs : s.link = .opened d) :
    ∃ events after, (shutDown d s).play bus world =
        (events, some (.ok (), { s with link := .closed, staged := none }), after) ∧
      (s.Spared world → Agrees mask? none after.selected) := by
  obtain ⟨events, after, hplay, hafter⟩ := shutDown_play s (h.handle_lt_length hs)
  refine ⟨events, after, hplay, fun hspared => ?_⟩
  rw [Session.drive_of_opened hs] at h
  exact h.letGo (hafter fun hmode => hspared d hs hmode)

/-- **A turn keeps the agreement.** -/
theorem Agrees.turn {action : Action} {events : List Event} {result : Except Error action.Result}
    (h : Agrees mask? s.drive world.selected) (spared : action = .close → s.Spared world)
    (played : (action.perform s).play bus world = (events, some (result, t), after)) :
    Agrees (if (Turn.mk action events result).selects then action.mask? else mask?) t.drive
      after.selected := by
  cases hmask : action.mask? with
  | some mask =>
    obtain ⟨_, _, _, _, hplay, hselection⟩ :=
      perform_selectsMode hmask s world fun d hs => h.handle_lt_length hs
    cases played.symm.trans hplay
    unfold Turn.selects
    rw [hmask]
    cases hselection with
    | failed same =>
      rw [same]
      exact h
    | done link chip set =>
      rw [Session.drive_of_opened link] at h
      rw [set]
      exact h.select chip
  | none =>
    have hselects : (Turn.mk action events result).selects = false := by
      unfold Turn.selects
      rw [hmask]
      rfl
    rw [hselects, if_neg Bool.false_ne_true]
    by_cases hclose : action = .close
    · subst hclose
      change (close s).play bus world = _ at played
      cases hs : s.link with
      | opened d =>
        obtain ⟨_, _, hplay, hagrees⟩ := h.shutDown hs
        rw [close_of_opened hs] at played
        cases played.symm.trans hplay
        exact hagrees (spared rfl)
      | unopened | closed =>
        rw [close_of_not_opened (by simp [hs])] at played
        cases played
        exact h
    · have hsame : after.selected = world.selected := by
        have hkept := (perform_asks hmask hclose s).keeps (bus_keeps_selected world.selected) rfl
        rwa [played] at hkept
      rw [hsame]
      cases opening : action.isOpening with
      | true =>
        rcases drive_of_opening opening played with hdrive | ⟨hnone, handle, chip, hdrive, hlt⟩
        · rw [hdrive]
          exact h
        · rw [hdrive]
          rw [hnone] at h
          exact h.fresh (by rwa [State.length_selected])
      | false =>
        have hdrive := (perform_steady opening hmask hclose s).value_of_play
          (congrArg (fun outcome => outcome.2.1) played)
        rw [show t.drive = s.drive from hdrive]
        exact h

/-- **A call that crashes changes no bit mode.** -/
theorem selected_of_crash {action : Action} {events : List Event}
    (h : Agrees mask? s.drive world.selected)
    (played : (action.perform s).play bus world = (events, none, after)) :
    after.selected = world.selected := by
  cases hmask : action.mask? with
  | some mask =>
    obtain ⟨_, _, _, _, hplay, -⟩ :=
      perform_selectsMode hmask s world fun d hs => h.handle_lt_length hs
    cases played.symm.trans hplay
  | none =>
    by_cases hclose : action = .close
    · subst hclose
      change (close s).play bus world = _ at played
      cases hs : s.link with
      | opened d =>
        obtain ⟨_, _, hplay, -⟩ := h.shutDown hs
        rw [close_of_opened hs] at played
        cases played.symm.trans hplay
      | unopened | closed =>
        rw [close_of_not_opened (by simp [hs])] at played
        cases played
    · have hkept := (perform_asks hmask hclose s).keeps (bus_keeps_selected world.selected) rfl
      rwa [played] at hkept

end PinBridge
