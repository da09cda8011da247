import PinBridge.Proofs.Simulator.Agreement

/-!
# Runs on the simulated bus

`Simulated` are the runs of a session on a simulated bus, with anything between two calls but a
change of the pins. Every run keeps the agreement of both sides (`Simulated.agrees`), and so a
session that ends, in either way, leaves no board in a bit mode (`pin_modes_agree`).
-/

namespace PinBridge

open Simulator Command

/-- **A run on the simulated bus**: the turns taken, and where session and bus are now. At the start
no board is in a bit mode. Between two calls anything may happen to the bus but a change of the
pins; in particular failures are put in store, though not for the request by which a device is let
go of. A call that crashes leaves the session as it was. -/
inductive Simulated : List Turn → Session → State → Prop
  | start {options : Options} {s : Session} {world : State} (made : Session.new options = .ok s)
      (idle : ∀ board ∈ world.boards, board.mode = 0) : Simulated [] s world
  | turn {history : List Turn} {s t : Session} {world after : State} {action : Action}
      {events : List Event} {result : Except Error action.Result}
      (run : Simulated history s world) (spared : action = .close → s.Spared world)
      (played : (action.perform s).play bus world = (events, some (result, t), after)) :
      Simulated (history ++ [⟨action, events, result⟩]) t after
  | crashed {history : List Turn} {s : Session} {world after : State} {action : Action}
      {events : List Event} (run : Simulated history s world)
      (played : (action.perform s).play bus world = (events, none, after)) :
      Simulated history s after
  | between {history : List Turn} {s : Session} {world after : State}
      (run : Simulated history s world) (same : after.selected = world.selected) :
      Simulated history s after

variable {s : Session} {world : State} {mask? : Option UInt8}

/-- **Every run keeps the agreement.** -/
theorem Simulated.agrees {history : List Turn} (run : Simulated history s world) :
    Agrees (lastMask? history) s.drive world.selected := by
  induction run with
  | start made idle =>
    rw [Session.drive_of_not_opened (by simp [(Session.new_ok made).1])]
    refine agrees_none.mpr fun pins hmem => ?_
    obtain ⟨board, hboard, rfl⟩ := List.mem_map.mp hmem
    exact idle board hboard
  | turn run spared played ih =>
    rw [lastMask?_snoc]
    exact ih.turn spared played
  | crashed run played ih =>
    rw [selected_of_crash ih played]
    exact ih
  | between run same ih =>
    rw [same]
    exact ih

/-- Ending a session: a device that it holds is let go of. -/
theorem drop_play (h : Agrees mask? s.drive world.selected) :
    ∃ events t after, (drop s).play bus world = (events, some (.ok (), t), after) ∧
      (∀ d, t.link ≠ .opened d) ∧ (s.Spared world → Agrees mask? none after.selected) := by
  obtain ⟨options, link, staged⟩ := s
  cases link with
  | opened d =>
    obtain ⟨events, after, hplay, hagrees⟩ := h.shutDown (d := d) rfl
    exact ⟨events, _, after, hplay, by simp, hagrees⟩
  | unopened | closed => exact ⟨[], _, world, rfl, by simp, fun _ => h⟩

/-- Ending it in the other way comes to the same. -/
theorem release_play (h : Agrees mask? s.drive world.selected) :
    ∃ events t after, (release s).play bus world = (events, some (.ok (), t), after) ∧
      (s.Spared world → Agrees mask? none after.selected) := by
  obtain ⟨events, t, after, hplay, hlink, hagrees⟩ := drop_play h
  refine ⟨events, t, after, ?_, hagrees⟩
  have hagain : drop t = .done (.ok (), t) := by
    obtain ⟨options, link, staged⟩ := t
    cases link with
    | opened d => exact absurd rfl (hlink d)
    | unopened | closed => rfl
  unfold release
  change ((drop s).bind _).play bus world = _
  rw [Program.play_bind hplay]
  simp only [hagain, Program.play, Prod.map, List.append_nil, id]

/-- **Session and boards agree on the pins at every point of every run.** The board of an open
device is in no bit mode if the session takes the pins for the serial line; else it is in the very
mode that the session believes, one that the chip has, with the mask of the last call to have
selected one. All other boards are in none. So a session that ends here, in either way, leaves no
board in a bit mode. -/
theorem pin_modes_agree {history : List Turn} (run : Simulated history s world) :
    (∀ d, s.link = .opened d → ∃ board, world.boards[d.handle.id]? = some board ∧
      (d.mode = .normal → board.mode = 0) ∧
      ∀ mode, d.mode = .driven mode → board.mode = mode.wire ∧ mode.wire ≠ 0 ∧
        d.chip.supports mode ∧ lastMask? history = some board.mask) ∧
    (∀ i board, world.boards[i]? = some board → (∀ d, s.link = .opened d → d.handle.id ≠ i) →
      board.mode = 0) ∧
    (s.Spared world → ∀ ending ∈ [drop, release], ∃ events t after,
      (ending s).play bus world = (events, some (.ok (), t), after) ∧
        ∀ board ∈ after.boards, board.mode = 0) := by
  have h := run.agrees
  refine ⟨fun d hs => ?_, fun i board hboard hother => ?_, fun hspared ending hending => ?_⟩
  · obtain ⟨pins, hpins, hobeys⟩ := h.held _ _ _ (Session.drive_of_opened hs)
    rw [State.getElem?_selected] at hpins
    obtain ⟨board, hboard, rfl⟩ := Option.map_eq_some_iff.mp hpins
    refine ⟨board, hboard, fun hmode => ?_, fun mode hmode => ?_⟩
    · rw [hmode] at hobeys
      exact hobeys
    · rw [hmode] at hobeys
      exact hobeys
  · have hpins : world.selected[i]? = some board.selected := by
      rw [State.getElem?_selected, hboard]
      rfl
    refine h.idle i board.selected hpins fun handle chip mode hdrive => ?_
    unfold Session.drive at hdrive
    split at hdrive
    · next d hs =>
      cases hdrive
      exact hother d hs
    · cases hdrive
  · have hall : ∀ {after : State}, Agrees (lastMask? history) none after.selected →
        ∀ board ∈ after.boards, board.mode = 0 := by
      intro after hagrees board hmem
      exact agrees_none.mp hagrees board.selected (List.mem_map_of_mem hmem)
    rcases List.mem_pair.mp hending with rfl | rfl
    · obtain ⟨events, t, after, hplay, -, hagrees⟩ := drop_play h
      exact ⟨events, t, after, hplay, hall (hagrees hspared)⟩
    · obtain ⟨events, t, after, hplay, hagrees⟩ := release_play h
      exact ⟨events, t, after, hplay, hall (hagrees hspared)⟩

/-! ### A board to light up -/

namespace Sample

/-- The light board, as enumeration lists it when it is alone on the bus. -/
def light : Descriptor := ⟨vendorId, ProductId.board, "1", 1, 0x0600, .none⟩

/-- The board open, with its pins in a mode. -/
def lightDevice (mode : PinMode) : OpenDevice :=
  { OpenDevice.fresh light ⟨0, 0x0600, false, some 64⟩ Interface.any.channel with
    mode, baudRate := initialRate }

/-- What opening the board comes to. -/
def lightOpened : List Event × Option (Except Error Unit × Session) × State :=
  ((Action.openDevice light).perform ⟨.default, .unopened, none⟩).play bus (.ofBoards [.light])

/-- What selecting a bit mode comes to then. -/
def lightDriven : List Event × Option (Except Error Unit × Session) × State :=
  ((Action.setBitMode 0x0F .bitBang).perform ⟨.default, .opened (lightDevice .normal), none⟩).play
    bus lightOpened.2.2

theorem simulated_lightDriven :
    Simulated [⟨.openDevice light, lightOpened.1, .ok ()⟩,
        ⟨.setBitMode 0x0F .bitBang, lightDriven.1, .ok ()⟩]
      ⟨.default, .opened (lightDevice (.driven .bitBang)), none⟩ lightDriven.2.2 := by
  have made : Session.new .default = .ok ⟨.default, .unopened, none⟩ := rfl
  have idle : ∀ board ∈ (State.ofBoards [.light]).boards, board.mode = 0 := by decide
  have hopen : ((Action.openDevice light).perform ⟨.default, .unopened, none⟩).play bus
      (.ofBoards [.light]) = (lightOpened.1,
        some (.ok (), ⟨.default, .opened (lightDevice .normal), none⟩), lightOpened.2.2) := rfl
  have hdrive : ((Action.setBitMode 0x0F .bitBang).perform
      ⟨.default, .opened (lightDevice .normal), none⟩).play bus lightOpened.2.2 = (lightDriven.1,
        some (.ok (), ⟨.default, .opened (lightDevice (.driven .bitBang)), none⟩),
        lightDriven.2.2) := rfl
  exact ((Simulated.start made idle).turn (by simp) hopen).turn (by simp) hdrive

end Sample

/-- The board is in the mode with its mask, and out of it when the session ends. -/
theorem pin_modes_agree_lightDriven :
    (∃ board, Sample.lightDriven.2.2.boards[0]? = some board ∧ board.mode = 1 ∧
      some 0x0F = some board.mask) ∧
    ∃ events t after, (drop ⟨.default, .opened (Sample.lightDevice (.driven .bitBang)), none⟩).play
        bus Sample.lightDriven.2.2 = (events, some (.ok (), t), after) ∧
      ∀ board ∈ after.boards, board.mode = 0 := by
  obtain ⟨hheld, -, hend⟩ := pin_modes_agree Sample.simulated_lightDriven
  obtain ⟨board, hboard, -, hmode⟩ := hheld _ rfl
  obtain ⟨hwire, -, -, hmask⟩ := hmode .bitBang rfl
  exact ⟨⟨board, hboard, hwire, hmask⟩, hend (fun _ _ _ => rfl) drop List.mem_cons_self⟩

end PinBridge
