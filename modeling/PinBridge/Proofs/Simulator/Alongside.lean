import PinBridge.Proofs.Session.Serving
import PinBridge.Proofs.Session.Transfers
import PinBridge.Proofs.Simulator.Calm

/-!
# A session alone and alongside another

A session that keeps to one board of a bus without failures cannot tell whether the bus is its own.
`Mirrors` are two buses that are the same to it: one where it is alone, and one that it shares. A
call that reaches no other board is answered the same on both, and they stay the same
(`Mirrors.reply`).
All calls of a use of the session are such calls, since its transfers go to the device that it holds
(`Mirrors.run`), and so the use comes to the same on both (`Mirrors.play`, `Mirrors.serve`).
-/

namespace PinBridge

open Simulator

/-- A device that is held, if there is one, is the board at a place. -/
def HeldAt (i : Nat) (held : Option (Handle × Interface)) : Prop :=
  ∀ handle interface, held = some (handle, interface) → handle.id = i

/-- **A session that keeps to a board**: it has no other device open. -/
def Session.KeepsTo (i : Nat) (s : Session) : Prop := ∃ held, s.Holds held ∧ HeldAt i held

theorem Session.keepsTo_of_new {options : Options} {s : Session}
    (made : Session.new options = .ok s) (i : Nat) : s.KeepsTo i := by
  cases Session.eq_of_new made
  exact ⟨none, rfl, fun _ _ h => by cases h⟩

/-- **Two buses that are the same to a session at a board**: no failure is in store on either, all
boards are made as they were at the start, and the board itself is the same. The other boards of the
bus that is shared are as given, and so are the calls that have been made for others. -/
structure Mirrors (start : State) (i : Nat) (rest : Nat → Option Board) (others : Tally)
    (alone shared : State) : Prop where
  calm_alone : alone.Calm
  calm_shared : shared.Calm
  build_alone : alone.boards.map Board.build = start.boards.map Board.build
  build_shared : shared.boards.map Board.build = start.boards.map Board.build
  board : shared.boards[i]? = alone.boards[i]?
  rest : ∀ k, i ≠ k → shared.boards[k]? = rest k
  calls : shared.calls.plus start.calls = alone.calls.plus others

variable {start alone shared : State} {i : Nat} {rest : Nat → Option Board} {others : Tally}
  {s : Session} {use : Use}

/-! ### Calls -/

/-- **A call that reaches no other board** is answered the same, and the buses stay the same. -/
theorem Mirrors.reply (h : Mirrors start i rest others alone shared) {c : Call}
    (hplace : ∀ k, c.place? = some k → i = k) :
    ∃ reply alone' shared', bus.reply c alone = (reply, alone') ∧
      bus.reply c shared = (reply, shared') ∧ Mirrors start i rest others alone' shared' := by
  have hsame : (bus.reply c shared).1 = (bus.reply c alone).1 :=
    h.calm_alone.reply_congr h.calm_shared (h.build_shared.trans h.build_alone.symm) fun k hk =>
      hplace k hk ▸ h.board
  refine ⟨(bus.reply c alone).1, (bus.reply c alone).2, (bus.reply c shared).2, rfl,
    Prod.ext hsame rfl, ?_⟩
  constructor
  · exact h.calm_alone.after_reply c
  · exact h.calm_shared.after_reply c
  · exact (State.build_reply c alone).trans h.build_alone
  · exact (State.build_reply c shared).trans h.build_shared
  · rw [State.getElem?_reply, State.getElem?_reply, h.board, h.calm_alone.transfers,
      h.calm_shared.transfers]
  · intro k hk
    rw [State.getElem?_reply, if_neg fun hreached => hk (hplace k hreached.2)]
    exact h.rest k hk
  · rw [h.calm_alone.calls_reply, h.calm_shared.calls_reply, Tally.add_plus, Tally.add_plus,
      h.calls]

/-- An addressed call goes to the device that is held, if it is a transfer. -/
theorem Call.Addressed.place_eq {options : Options} {watch : Watch} {c : Call}
    (h : c.Addressed options watch) (held : HeldAt i watch.held) {k : Nat}
    (hplace : c.place? = some k) : i = k := by
  cases c with
  | list | strings | openDevice => cases hplace
  | controlOut | controlIn | bulkWrite | bulkRead =>
    cases hplace
    obtain ⟨-, interface, hheld, -⟩ := h
    exact (held _ _ hheld).symm

/-- A device that is opened at the place is held at it. -/
theorem HeldAt.claim {held : Option (Handle × Interface)} (h : HeldAt i held) {c : Call}
    {reply : c.Reply} {after : State} (hreply : bus.reply c alone = (some reply, after))
    (opens : ∀ d, c.effect? = some (.claim d) → alone.position d = .ok i) :
    HeldAt i ((Event.asked c reply).claim held) := by
  cases c with
  | openDevice d interface =>
    cases reply with
    | error e => exact h
    | ok handle =>
      rintro _ _ ⟨⟩
      exact (Except.ok.inj ((opens d rfl).symm.trans (State.openDevice_ok hreply).1)).symm
  | _ => exact h

/-- **A program that goes to the device that it holds** comes to the same on both buses, if it opens
no device but the one at the place. -/
theorem Mirrors.run {α : Type} {p : Program α} {options : Options} {watch : Watch}
    {Q : Watch → α → Prop} {may : Effect → Prop} (h : Mirrors start i rest others alone shared)
    (follows : p.Follows (addressing options) Q watch) (held : HeldAt i watch.held)
    (asks : p.Asks (Call.Minds may)) (opens : ∀ d, may (.claim d) → start.position d = .ok i) :
    ∃ value alone' shared', p.run bus alone = (value, alone') ∧
      p.run bus shared = (value, shared') ∧ Mirrors start i rest others alone' shared' ∧
      ∀ a, value = some a → ∃ watch', Q watch' a ∧ HeldAt i watch'.held := by
  induction p generalizing watch alone shared with
  | done a =>
    refine ⟨_, _, _, rfl, rfl, h, ?_⟩
    rintro _ ⟨⟩
    exact ⟨watch, follows, held⟩
  | crash =>
    refine ⟨_, _, _, rfl, rfl, h, ?_⟩
    rintro _ ⟨⟩
  | call c next ih =>
    have addressed : c.Addressed options watch := (follows (.error .timeout)).1
    obtain ⟨reply, alone', shared', halone, hshared, h'⟩ :=
      h.reply fun k hplace => addressed.place_eq held hplace
    simp only [Program.run, halone, hshared]
    cases reply with
    | none =>
      refine ⟨_, _, _, rfl, rfl, h', ?_⟩
      rintro _ ⟨⟩
    | some reply =>
      refine ih reply h' (follows reply).2 (held.claim halone fun d hclaim => ?_) (asks.2 reply)
      rw [State.position_of_build h.build_alone]
      exact opens d (asks.1 _ hclaim)
  | release handle rest ih => exact ih h follows.2 (fun _ _ hnone => by cases hnone) asks
  | note n rest ih => exact ih h follows held asks

/-! ### Uses -/

namespace Use

/-- The addresses of the EEPROM words that a use reads. -/
def words : Use → List UInt16
  | call action => action.words
  | drop | release => []

/-- A use follows the rule of addressing. -/
theorem perform_follows {held : Option (Handle × Interface)} (hs : s.Holds held) (use : Use) :
    (use.perform s).Follows (addressing s.options) (fun watch v => v.2.Holds watch.held)
      ⟨held, use.words⟩ := by
  cases use with
  | call action => exact (PinBridge.perform_follows hs action).mono fun _ _ h => h.1
  | drop => exact Program.Follows.mono (Command.drop_keeps s _ hs) fun _ _ h => h.1
  | release => exact Program.Follows.mono (Command.release_keeps s _ hs) fun _ _ h => h.1

/-- **A use that stays at a board**: if it asks for a device, it asks for the one that is enumerated
for the board. -/
def StaysAt (world : State) (i : Nat) : Use → Prop
  | call (.openIds ..) | call (.openFilter ..) => False
  | call (.openDevice d) => world.boards[i]?.map (fun b => b.descriptor) = some d
  | _ => True

/-- It opens no device but that one. -/
theorem StaysAt.opens (h : use.StaysAt start i) (numbered : start.Numbered)
    (few : start.boards.length ≤ 255) (d : Descriptor) (may : use.May (.claim d)) :
    start.position d = .ok i := by
  cases use with
  | drop | release => exact may.elim
  | call action =>
    cases action with
    | openIds | openFilter => exact h.elim
    | openDevice device =>
      obtain ⟨b, hb, rfl⟩ := Option.map_eq_some_iff.mp h
      cases may
      exact State.position_of_numbered numbered few hb
    | _ => exact may.elim

end Use

/-- **A use comes to the same** on both buses. -/
theorem Mirrors.play (h : Mirrors start i rest others alone shared) (keeps : s.KeepsTo i)
    (opens : ∀ d, use.May (.claim d) → start.position d = .ok i) :
    ∃ outcome t alone' shared', use.play bus Use.perform s alone = (outcome, t, alone') ∧
      use.play bus Use.perform s shared = (outcome, t, shared') ∧ t.KeepsTo i ∧
      Mirrors start i rest others alone' shared' := by
  obtain ⟨held, hs, hheld⟩ := keeps
  obtain ⟨value, alone', shared', halone, hshared, h', hvalue⟩ :=
    h.run (use.perform_follows hs) hheld (use.perform_within s).asks opens
  unfold Use.play
  rw [halone, hshared]
  cases value with
  | none => exact ⟨_, _, _, _, rfl, rfl, ⟨held, hs, hheld⟩, h'⟩
  | some v =>
    obtain ⟨watch, hholds, hheld'⟩ := hvalue v rfl
    exact ⟨_, _, _, _, rfl, rfl, ⟨watch.held, hholds, hheld'⟩, h'⟩

/-- **So do all uses of a session.** -/
theorem Mirrors.serve {uses : List Use} (h : Mirrors start i rest others alone shared)
    (keeps : s.KeepsTo i)
    (opens : ∀ use ∈ uses, ∀ d, use.May (.claim d) → start.position d = .ok i) :
    ∃ outcomes t alone' shared', serve bus Use.perform uses s alone = (outcomes, t, alone') ∧
      serve bus Use.perform uses s shared = (outcomes, t, shared') ∧
      Mirrors start i rest others alone' shared' := by
  induction uses generalizing s alone shared with
  | nil => exact ⟨_, _, _, _, rfl, rfl, h⟩
  | cons use uses ih =>
    obtain ⟨outcome, t, alone', shared', halone, hshared, keeps', h'⟩ :=
      h.play keeps (opens use List.mem_cons_self)
    obtain ⟨outcomes, u, alone'', shared'', halone', hshared', h''⟩ :=
      ih h' keeps' fun use hmem => opens use (List.mem_cons_of_mem _ hmem)
    refine ⟨outcome :: outcomes, u, alone'', shared'', ?_, ?_, h''⟩
    · simp only [PinBridge.serve, halone, halone']
      rfl
    · simp only [PinBridge.serve, hshared, hshared']
      rfl

end PinBridge
