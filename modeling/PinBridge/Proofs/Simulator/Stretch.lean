import PinBridge.Proofs.Session.Run
import PinBridge.Proofs.Simulator.Reach

/-!
# A session and the board that it uses

A `Stretch` is what comes to pass at one board of the simulated bus while one session uses it: the
session takes its turns, payloads arrive at the board to be read, and elsewhere anything may happen
in between, such as failures being put in store.

What a turn may set off tells what it leaves alone: a call that does not go to the receive side
keeps what waits to be read (`perform_keeps_queue`), and one that neither drives nor transmits the
pins and the record of what is written (`perform_keeps_outputs`).
-/

namespace PinBridge

open Simulator

/-- What comes to pass at a board: a turn of the session that uses it, or a payload to be read. -/
inductive Moment
  | turn (turn : Turn)
  | arrival (payload : List UInt8)

/-- **A stretch**: what comes to pass between a session and the board at a place. The session has no
other device open, and what happens elsewhere does not touch the board and leaves the bus in a state
that is allowed. -/
inductive Stretch (i : Nat) (allowed : State → Prop) (s : Session) (world : State) :
    List Moment → Session → State → Prop
  | nil : Stretch i allowed s world [] s world
  | turn {history : List Moment} {t u : Session} {after last : State} {action : Action}
      {events : List Event} {result : Except Error action.Result}
      (stretch : Stretch i allowed s world history t after)
      (played : (action.perform t).play bus after = (events, some (result, u), last))
      (own : ∀ d, u.link = .opened d → d.handle.id = i) :
      Stretch i allowed s world (history ++ [.turn ⟨action, events, result⟩]) u last
  | arrival {history : List Moment} {t : Session} {after : State} (payload : List UInt8)
      (stretch : Stretch i allowed s world history t after) :
      Stretch i allowed s world (history ++ [.arrival payload]) t (after.queue i payload)
  | elsewhere {history : List Moment} {t : Session} {after last : State}
      (stretch : Stretch i allowed s world history t after)
      (same : last.boards[i]? = after.boards[i]?) (allows : allowed last) :
      Stretch i allowed s world history t last

variable {s t : Session} {world after : State} {action : Action} {events : List Event} {i : Nat}
  {b : Board}

/-! ### What a turn leaves alone -/

/-- **A view of a board that no call of a turn touches** is the same after the turn. -/
theorem perform_keeps_view {δ : Type} (view : Board → δ) {v : Option (Except Error action.Result ×
      Session)} (h : ∀ c : Call, c.Minds action.May → ∀ b, view (applied c b) = view b)
    (played : (action.perform s).play bus world = (events, v, after)) (i : Nat) :
    after.boards[i]?.map view = world.boards[i]?.map view := by
  have hkeeps := (perform_within action s).asks.keeps
    (bus_keeps_view (fun c b hc => h c hc b) i (world.boards[i]?.map view)) rfl
  rwa [played] at hkeeps

/-- The board at a place, when a view of it is kept. -/
theorem exists_of_map_eq {δ : Type} {view : Board → δ} {found found' : Option Board}
    (h : found'.map view = found.map view) (hb : found = some b) :
    ∃ b', found' = some b' ∧ view b' = view b := by
  rw [hb] at h
  exact Option.map_eq_some_iff.mp h

variable {v : Option (Except Error action.Result × Session)}

/-- A call that does not go to the receive side. -/
theorem perform_keeps_queue (h : ¬ action.May .receive)
    (played : (action.perform s).play bus world = (events, v, after))
    (hb : world.boards[i]? = some b) :
    ∃ b', after.boards[i]? = some b' ∧ b'.build = b.build ∧ b'.queue = b.queue := by
  have hkeeps := perform_keeps_view (fun b => (b.build, b.queue)) (fun c hc b => ?_) played i
  · obtain ⟨b', hb', heq⟩ := exists_of_map_eq hkeeps hb
    exact ⟨b', hb', (Prod.mk.inj heq).1, (Prod.mk.inj heq).2⟩
  · rw [build_applied, queue_applied fun heffect => h (hc _ heffect)]

/-- A call that neither drives nor transmits. -/
theorem perform_keeps_outputs (hdrive : ¬ action.May .drive) (htransmit : ¬ action.May .transmit)
    (played : (action.perform s).play bus world = (events, v, after))
    (hb : world.boards[i]? = some b) :
    ∃ b', after.boards[i]? = some b' ∧ b'.build = b.build ∧ b'.outputs = b.outputs := by
  have hkeeps := perform_keeps_view (fun b => (b.build, b.outputs)) (fun c hc b => ?_) played i
  · obtain ⟨b', hb', heq⟩ := exists_of_map_eq hkeeps hb
    exact ⟨b', hb', (Prod.mk.inj heq).1, (Prod.mk.inj heq).2⟩
  · rw [build_applied, outputs_applied (fun heffect => hdrive (hc _ heffect))
      fun heffect => htransmit (hc _ heffect)]

/-- No call changes what a board is made of. -/
theorem perform_keeps_build (played : (action.perform s).play bus world = (events, v, after))
    (hb : world.boards[i]? = some b) :
    ∃ b', after.boards[i]? = some b' ∧ b'.build = b.build :=
  exists_of_map_eq (perform_keeps_view _ (fun c _ b => build_applied c b) played i) hb

/-- No chunk becomes empty. -/
theorem perform_usable {result : Except Error action.Result}
    (played : (action.perform s).play bus world = (events, some (result, t), after))
    (usable : s.options.Usable) : t.options.Usable :=
  ((perform_within action s).of_course (Program.course_of_play played)).1 usable

/-- A payload goes to the end of what waits to be read. -/
theorem getElem?_queue (world : State) (i : Nat) (payload : List UInt8) :
    (world.queue i payload).boards[i]? =
      world.boards[i]?.map fun b => { b with queue := b.queue ++ [payload] } :=
  List.getElem?_modify_eq _ _ _

end PinBridge
